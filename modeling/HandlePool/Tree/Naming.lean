import HandlePool.OpenMode
import HandlePool.Tree.Walk

/-!
# Making and removing names

Each call either refuses, and then changes nothing, or gives the tree after it.
-/

namespace HandlePool
namespace Tree

/-! ## Directories and links -/

/-- Make a directory. -/
def makeDirectory (tree : Tree) (path : Path) : Except IoError Tree := do
  let found ← tree.approachPath path
  match found.last with
  | .name name =>
    match ← tree.lookUnder found.directory name with
    | some _ => refuse Errno.entryExists
    | none =>
      return (tree.add (name :: found.directory) (.directory directoryMode)).2
  | _ => refuse Errno.entryExists

/-- The path leads to a directory. -/
def leadsToDirectory (tree : Tree) (path : Path) : Bool :=
  match tree.resolve path with
  | .ok location => tree.isDirectory location
  | .error _ => false

/-- Make a directory, given with its ancestors; those that are missing are made
first. -/
def makeAll (tree : Tree) : List Path → Except IoError Unit × Tree
  | [] => (.ok (), tree)
  | path :: ancestors =>
    match tree.makeDirectory path with
    | .ok tree => (.ok (), tree)
    | .error error =>
      if error.kind = .notFound then
        match makeAll tree ancestors with
        | (.error error, tree) => (.error error, tree)
        | (.ok (), tree) =>
          match tree.makeDirectory path with
          | .ok tree => (.ok (), tree)
          | .error error =>
            (if tree.leadsToDirectory path then .ok () else .error error, tree)
      else (if tree.leadsToDirectory path then .ok () else .error error, tree)

/-- Make a directory with all its missing ancestors; an existing one will do. -/
def makeDirectories (tree : Tree) (path : Path) : Except IoError Unit × Tree :=
  if path.bytes.isEmpty then (.ok (), tree) else tree.makeAll path.ancestors

/-- Make a link to the place that a target names, whether
there is one or not. -/
def makeLink (tree : Tree) (path target : Path) : Except IoError Tree := do
  if target.hasZeroByte || path.hasZeroByte then .error .zeroByte
  target.admissible
  let found ← tree.approachPath path
  match found.last with
  | .name name =>
    match ← tree.lookUnder found.directory name with
    | some _ => refuse Errno.entryExists
    | none =>
      if path.endsInSlash then refuse Errno.noEntry
      return (tree.add (name :: found.directory) (.link target)).2
  | _ => refuse Errno.entryExists

/-! ## Files -/

/-- Create a file that must not exist; a link of its name counts as existing. -/
def createFile (tree : Tree) (path : Path) (mode : FileMode) :
    Except IoError (NodeId × Tree) := do
  let found ← tree.approachPath path
  match found.last with
  | .name name =>
    if path.endsInSlash then refuse Errno.isDirectory
    match ← tree.lookUnder found.directory name with
    | some _ => refuse Errno.entryExists
    | none =>
      return tree.add (name :: found.directory)
        (.file (mode &&& modeBits &&& ~~~maskedBits) [])
  | _ => refuse Errno.entryExists

/-- The number of the node at a location that has one. -/
def numberAt (tree : Tree) (location : Location) : Except IoError NodeId :=
  match tree.find? location with
  | some number => .ok number
  | none => refuse Errno.noEntry

/-- The number of a node that can be written. -/
def writableAt (tree : Tree) (location : Location) : Except IoError NodeId :=
  if tree.isDirectory location then refuse Errno.isDirectory
  else tree.numberAt location

/-- The node that opening a path in some mode gives; a file is created if the
mode says so. -/
def openNode (tree : Tree) (path : Path) (mode : OpenMode) :
    Except IoError (NodeId × Tree) :=
  match mode with
  | .read => do return (← tree.numberAt (← tree.resolve path), tree)
  | .write | .append =>
      do return (← tree.writableAt (← tree.resolve path), tree)
  | .create => do
    path.admissible
    let location ← tree.site mostLinks tree.origin path
    match tree.find? location with
    | some _ => return (← tree.writableAt location, tree)
    | none => return tree.add location (.file fileMode [])
  | .createNew => tree.createFile path fileMode

/-! ## Removing and renaming -/

/-- Remove the name of anything but a directory. -/
def removeFile (tree : Tree) (path : Path) : Except IoError Tree := do
  let found ← tree.approachPath path
  match found.last with
  | .name name =>
    match ← tree.lookUnder found.directory name with
    | none => refuse Errno.noEntry
    | some (.directory _) => refuse Errno.isDirectory
    | some _ =>
      if path.endsInSlash then refuse Errno.notDirectory
      return tree.erase (name :: found.directory)
  | _ => refuse Errno.isDirectory

/-- Remove an empty directory. -/
def removeDirectory (tree : Tree) (path : Path) : Except IoError Tree := do
  let found ← tree.approachPath path
  match found.last with
  | .name name =>
    match ← tree.lookUnder found.directory name with
    | none => refuse Errno.noEntry
    | some (.directory _) =>
      if tree.isBarren (name :: found.directory) then
        return tree.erase (name :: found.directory)
      else refuse Errno.notEmpty
    | some _ => refuse Errno.notDirectory
  | .root => refuse (if tree.isBarren [] then Errno.busy else Errno.notEmpty)
  | .here => refuse Errno.invalidArgument
  | .up => refuse Errno.notEmpty

/-- Remove an empty directory or the name of anything else. -/
def remove (tree : Tree) (path : Path) : Except IoError Tree := do
  let location ← tree.locate path
  if tree.isDirectory location then tree.removeDirectory path
  else tree.removeFile path

/-- What stands in the way of moving `source` to `target`. -/
def moveObstacle (tree : Tree) (source target : Location) :
    Except IoError Unit :=
  if source != target && source.isSuffixOf target then
    refuse Errno.invalidArgument
  else if source != target && target.isSuffixOf source
    then refuse Errno.notEmpty
  else
    match tree.node? target with
    | none => .ok ()
    | some occupant =>
      if tree.isDirectory source then
        if !occupant.isDirectory then refuse Errno.notDirectory
        else if source != target && !tree.isBarren target then
          refuse Errno.notEmpty
        else .ok ()
      else if occupant.isDirectory then refuse Errno.isDirectory
      else .ok ()

/-- Rename something; what had the new name before loses it. -/
def rename (tree : Tree) (path goal : Path) : Except IoError Tree := do
  if path.hasZeroByte || goal.hasZeroByte then .error .zeroByte
  let found ← tree.approachPath path
  let aim ← tree.approachPath goal
  match found.last, aim.last with
  | .name name, .name newName =>
    let source := name :: found.directory
    let target := newName :: aim.directory
    match ← tree.lookUnder found.directory name with
    | none => refuse Errno.noEntry
    | some node =>
      let _ ← tree.lookUnder aim.directory newName
      if !node.isDirectory && (path.endsInSlash || goal.endsInSlash) then
        refuse Errno.notDirectory
      tree.moveObstacle source target
      if source = target then return tree
      return (tree.erase target).move source target
  | _, _ => refuse Errno.busy

/-! ## Modes -/

/-- The node that a path names, all links followed. -/
def nodeOf (tree : Tree) (path : Path) : Except IoError Node := do
  match tree.node? (← tree.resolve path) with
  | some node => return node
  | none => refuse Errno.noEntry

/-- Set the mode of what a path names. -/
def setMode (tree : Tree) (path : Path) (mode : FileMode) :
    Except IoError Tree := do
  let number ← tree.numberAt (← tree.resolve path)
  match tree.nodes[number]? with
  | some node => return tree.setNode number (node.withMode (mode &&& modeBits))
  | none => refuse Errno.noEntry

/-- The path names a file, without following a link in its last step. -/
def isFileAt (tree : Tree) (path : Path) : Bool :=
  match tree.locate path with
  | .ok location => ((tree.node? location).map Node.isFile).getD false
  | .error _ => false

end Tree
end HandlePool
