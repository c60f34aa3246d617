import HandlePool.FileHandle
import HandlePool.Permissions

/-!
# File stores

A file store is what a façade asks for handles, and for everything else about
paths.  A tree is a store; other stores wrap one to watch what reaches it, or to
refuse it.
-/

namespace HandlePool

/-- Something that opens files and answers questions about paths. -/
class FileStore (σ : Type) where
  /-- The directory that relative paths start in. -/
  workingDirectory : σ → AbsolutePath
  /-- Open a path. -/
  openFile : Path → OpenMode → σ → Except IoError FileHandle × σ
  /-- Create an empty file that does not exist yet, and answer with its path. -/
  createFile : Path → Permissions → σ → Except IoError Path × σ
  /-- Create a directory and its missing parents, and answer with its path. -/
  createDirectories : Path → σ → Except IoError Path × σ
  /-- Delete a file or an empty directory. -/
  delete : Path → σ → Except IoError Unit × σ
  /-- Set the permissions of what a path names, and answer with the path. -/
  setPermissions : Path → Permissions → σ → Except IoError Path × σ
  /-- The path names something, links followed. -/
  pathExists : σ → Path → Bool
  /-- The path names a file, links not followed. -/
  isRegularFile : σ → Path → Bool
  /-- What the path names can be written. -/
  isWritable : σ → Path → Bool
  /-- The size of the file a path names. -/
  fileSize : σ → Path → Except IoError Nat
  /-- The volume of the path can be asked how full it is. -/
  usedSpace : σ → Path → Except IoError Unit

/-- A call to a store that opens or changes something. -/
inductive StoreCommand where
  | openFile (path : Path) (mode : OpenMode)
  | createFile (path : Path) (permissions : Permissions)
  | createDirectories (path : Path)
  | delete (path : Path)
  | setPermissions (path : Path) (permissions : Permissions)
  deriving DecidableEq

namespace StoreCommand

/-- What a store gives in answer to a command. -/
abbrev Answer : StoreCommand → Type
  | .openFile .. => FileHandle
  | .delete _ => Unit
  | .createFile .. | .createDirectories _ | .setPermissions .. => Path

/-- Give a command to a store. -/
def run {σ : Type} [FileStore σ] :
    (command : StoreCommand) → σ → Except IoError command.Answer × σ
  | .openFile path mode => FileStore.openFile path mode
  | .createFile path permissions => FileStore.createFile path permissions
  | .createDirectories path => FileStore.createDirectories path
  | .delete path => FileStore.delete path
  | .setPermissions path permissions =>
      FileStore.setPermissions path permissions

end StoreCommand

namespace Tree

/-- A change that either happens, and is answered with `answer`, or
leaves the tree as it is. -/
def attempt {α : Type} (tree : Tree) (answer : α)
    (changed : Except IoError Tree) :
    Except IoError α × Tree :=
  match changed with
  | .error error => (.error error, tree)
  | .ok tree => (.ok answer, tree)

/-- The absolute path of the location where relative paths start. -/
def workingDirectory (tree : Tree) : AbsolutePath :=
  .ofSegments tree.origin.reverse

/-- The path names something, links followed. -/
def holds (tree : Tree) (path : Path) : Bool :=
  match tree.resolve path with
  | .ok _ => true
  | .error _ => false

/-- The volume of a path is reached, which takes the path to name something; a
zero byte is just an invalid argument here. -/
def volumeOf (tree : Tree) (path : Path) : Except IoError Unit :=
  if path.hasZeroByte then refuse Errno.invalidArgument
  else do
    let _ ← tree.resolve path

instance : FileStore Tree where
  workingDirectory := workingDirectory
  openFile path mode tree := FileHandle.ofPath tree path mode
  createFile path permissions tree :=
    tree.attempt path ((tree.createFile path permissions.bits).map Prod.snd)
  createDirectories path tree :=
    let (outcome, tree) := tree.makeDirectories path
    (outcome.map fun () => path, tree)
  delete path tree := tree.attempt () (tree.remove path)
  setPermissions path permissions tree :=
    tree.attempt path (tree.setMode path permissions.bits)
  pathExists := holds
  isRegularFile := isFileAt
  isWritable := holds
  fileSize tree path := (tree.nodeOf path).map Node.size
  usedSpace := volumeOf

end Tree
end HandlePool
