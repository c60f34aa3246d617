import HandlePool.IoError
import HandlePool.OpenMode

/-!
# Handles

A handle is a resource that can be closed.  Closing twice is allowed; the second
time does nothing.
-/

namespace HandlePool

/-- A resource that a pool can hold. -/
class Handle (η : Type) where
  /-- Close the resource: what came of it, and the handle afterwards. -/
  close : η → Except IoError Unit × η
  /-- The resource has not been closed. -/
  isOpen : η → Bool
  /-- The mode the resource was opened with, if it has one. -/
  mode? : η → Option OpenMode

/-- A handle without a resource, which counts how often it is closed and can be
told to fail at it. -/
structure TrialHandle where
  tag : Nat
  failsToClose : Bool := false
  isOpen : Bool := true
  closeCalls : Nat := 0
  deriving DecidableEq, Repr

namespace TrialHandle

/-- Close the handle; a failing one fails only while it is open. -/
def close (handle : TrialHandle) : Except IoError Unit × TrialHandle :=
  (if handle.failsToClose && handle.isOpen then
      .error (.system Errno.inputOutput)
    else .ok (),
   { handle with isOpen := false, closeCalls := handle.closeCalls + 1 })

instance : Handle TrialHandle where
  close := close
  isOpen := TrialHandle.isOpen
  mode? := fun _ => none

@[simp] theorem isOpen_close (handle : TrialHandle) :
    handle.close.2.isOpen = false :=
  rfl

@[simp] theorem closeCalls_close (handle : TrialHandle) :
    handle.close.2.closeCalls = handle.closeCalls + 1 :=
  rfl

end TrialHandle
end HandlePool
