import HandlePool.Handle
import HandlePool.Tree.Content
import HandlePool.Tree.Naming

/-!
# File handles

A file handle reads and writes the node it was opened on, through whatever names
that node has by now.  Closing gives its descriptor back, once; from then on
every call is refused.
-/

namespace HandlePool

/-- What the system holds for an open file. -/
structure Descriptor where
  node : NodeId
  /-- Where the next sequential write goes. -/
  cursor : Nat := 0
  /-- The error that giving the descriptor back reports, if it does. -/
  fault : Option IoError := none
  deriving DecidableEq, Repr

/-- A handle on a file. -/
structure FileHandle where
  path : Path
  mode : OpenMode
  /-- The descriptor, until the handle is closed. -/
  descriptor : Option Descriptor
  /-- How often a descriptor was given back to the system. -/
  releases : Nat := 0
  deriving DecidableEq, Repr

namespace FileHandle

/-- Positions in a file are smaller than this. -/
def positionBound : Nat := 1 <<< 63

/-- Open a path. -/
def ofPath (tree : Tree) (path : Path) (mode : OpenMode) :
    Except IoError FileHandle × Tree :=
  match tree.openNode path mode with
  | .error error => (.error error, tree)
  | .ok (node, tree) =>
    (.ok { path := path, mode := mode, descriptor := some { node := node } },
      tree)

/-- The handle has not been closed. -/
def isOpen (handle : FileHandle) : Bool := handle.descriptor.isSome

/-- Close the handle.  Only the first time is there something to give back. -/
def close (handle : FileHandle) : Except IoError Unit × FileHandle :=
  match handle.descriptor with
  | none => (.ok (), handle)
  | some descriptor =>
    ((match descriptor.fault with
      | none => .ok ()
      | some error => .error error),
     { handle with descriptor := none, releases := handle.releases + 1 })

instance : Handle FileHandle where
  close := close
  isOpen := isOpen
  mode? := fun handle => some handle.mode

/-- The descriptor of an open handle. -/
def live (handle : FileHandle) : Except IoError Descriptor :=
  match handle.descriptor with
  | none => .error .closedHandle
  | some descriptor => .ok descriptor

/-- A transfer of some bytes at an offset is possible. -/
def transferable (allowed : Bool) (length : Nat) (offset : UInt64) :
    Except IoError Unit :=
  if offset.toNat ≥ positionBound then refuse Errno.invalidArgument
  else if !allowed then refuse Errno.badDescriptor
  else if offset.toNat + length ≥ positionBound
    then refuse Errno.invalidArgument
  else .ok ()

/-- Read at most so many bytes at an offset; past the end there are none. -/
def readAt (handle : FileHandle) (tree : Tree) (length : Nat)
    (offset : UInt64) :
    Except IoError (List UInt8) := do
  let descriptor ← handle.live
  transferable (!handle.mode.writes) length offset
  match tree.contents? descriptor.node with
  | none => refuse Errno.isDirectory
  | some contents => return (contents.drop offset.toNat).take length

/-- Read exactly so many bytes at an offset; none need no call. -/
def readExactAt (handle : FileHandle) (tree : Tree) (length : Nat)
    (offset : UInt64) : Except IoError (List UInt8) := do
  let _ ← handle.live
  if length = 0 then return []
  let bytes ← handle.readAt tree length offset
  if bytes.length = length then return bytes else .error .endOfFile

/-- Write bytes at an offset; none need no call.  A handle opened for appending
writes at the end, whatever the offset. -/
def writeAt (handle : FileHandle) (tree : Tree) (bytes : List UInt8)
    (offset : UInt64) : Except IoError Tree := do
  let descriptor ← handle.live
  if bytes.isEmpty then return tree
  transferable handle.mode.writes bytes.length offset
  return tree.put descriptor.node bytes
    (if handle.mode = .append then none else some offset.toNat)

/-- Write bytes in sequence: at the end if the handle was opened for appending,
else after what it wrote last. -/
def append (handle : FileHandle) (tree : Tree) (bytes : List UInt8) :
    Except IoError (FileHandle × Tree) := do
  let descriptor ← handle.live
  if bytes.isEmpty then return (handle, tree)
  if !handle.mode.writes then refuse Errno.badDescriptor
  if handle.mode = .append then
    return (handle, tree.put descriptor.node bytes none)
  let moved := { descriptor with cursor := descriptor.cursor + bytes.length }
  return ({ handle with descriptor := some moved },
    tree.put descriptor.node bytes (some descriptor.cursor))

/-- Bring what was written to the device. -/
def syncData (handle : FileHandle) : Except IoError Unit := do
  let _ ← handle.live

/-- The size of the file. -/
def size (handle : FileHandle) (tree : Tree) : Except IoError Nat := do
  return tree.sizeOf (← handle.live).node

/-- The dump of a handle. -/
def dump (handle : FileHandle) : String :=
  "FileHandle \x7b path: " ++ handle.path.quoted ++ ", mode: " ++
    handle.mode.label ++ ", open: " ++ toString handle.isOpen ++ " \x7d"

@[simp] theorem descriptor_close (handle : FileHandle) :
    handle.close.2.descriptor = none := by
  unfold close
  split <;> simp_all

@[simp] theorem isOpen_close (handle : FileHandle) :
    handle.close.2.isOpen = false := by
  simp [isOpen]

theorem close_of_closed {handle : FileHandle}
    (closed : handle.descriptor = none) :
    handle.close = (.ok (), handle) := by
  unfold close
  rw [closed]

/-- Closing again gives nothing back. -/
@[simp] theorem close_close (handle : FileHandle) :
    handle.close.2.close = (.ok (), handle.close.2) :=
  close_of_closed (descriptor_close handle)

theorem live_eq_error_iff {handle : FileHandle} :
    handle.live = .error .closedHandle ↔ handle.isOpen = false := by
  unfold live isOpen
  cases handle.descriptor <;> simp

end FileHandle
end HandlePool
