import HandlePool.FileHandle
import HandlePool.Guard

/-!
# Handles that show how often they were closed

Statements about when a pool closes its handles are made for every kind of
handle on which a first closing can be seen.  A handle is fresh while it is as
its opener left it, and spent once it was closed exactly one time.
-/

namespace HandlePool

/-- A handle that shows how often it was closed. -/
class TrackedHandle (η : Type) extends Handle η where
  /-- How often the handle was closed. -/
  closeCalls : η → Nat
  /-- A closed handle is not open. -/
  isOpen_close : ∀ handle, isOpen (close handle).2 = false
  /-- Closing an open handle counts. -/
  closeCalls_close : ∀ handle, isOpen handle = true →
    closeCalls (close handle).2 = closeCalls handle + 1

namespace TrackedHandle

variable {η : Type} [TrackedHandle η]

/-- The handle is open and was never closed. -/
def IsFresh (handle : η) : Prop :=
  Handle.isOpen handle = true ∧ closeCalls handle = 0

/-- The handle is closed, by a single closing. -/
def IsSpent (handle : η) : Prop :=
  Handle.isOpen handle = false ∧ closeCalls handle = 1

/-- Closing a fresh handle spends it. -/
theorem IsFresh.isSpent_close
    {handle : η}
    (fresh : IsFresh handle) :
    IsSpent (Handle.close handle).2 := by
  obtain ⟨isOpen, uncounted⟩ := fresh
  refine ⟨isOpen_close handle, ?_⟩
  rw [closeCalls_close handle isOpen, uncounted]

/-- The guard spends every fresh handle that it may close. -/
theorem IsFresh.isSpent_release
    {handle : η}
    (fresh : IsFresh handle)
    {cause : RemovalCause}
    (notReplaced : cause ≠ .replaced)
    (policy : ReplacePolicy)
    (counters : Counters)
    (key : String) :
    IsSpent (release policy counters key cause handle).handle := by
  have closes : ¬(cause = .replaced ∧ policy = .retain) :=
    fun retained => notReplaced retained.1
  rw [handle_release_of_not_retained closes]
  exact fresh.isSpent_close

end TrackedHandle

/-! ## Handles that are tracked -/

instance : TrackedHandle TrialHandle where
  closeCalls := TrialHandle.closeCalls
  isOpen_close := TrialHandle.isOpen_close
  closeCalls_close handle _ := TrialHandle.closeCalls_close handle

namespace FileHandle

/-- Only the first closing gives something back. -/
theorem releases_close
    {handle : FileHandle}
    (isOpen : handle.isOpen = true) :
    handle.close.2.releases = handle.releases + 1 := by
  obtain ⟨descriptor, held⟩ := Option.isSome_iff_exists.mp isOpen
  simp only [close, held]

end FileHandle

instance : TrackedHandle FileHandle where
  closeCalls := FileHandle.releases
  isOpen_close := FileHandle.isOpen_close
  closeCalls_close _ := FileHandle.releases_close

end HandlePool
