import HandlePool.FileStore

/-!
# Restricted trees

A tree turns away only what cannot be done to it.  A system may turn a call away
as well when the process lacks a permission, or when there is no room left: a
restricted tree refuses every call as long as it is told to.
-/

namespace HandlePool

/-- How a system turns calls away. -/
structure Refusal where
  error : IoError
  /-- How many of the directories of a path are still missing below the one that
  could not be made, where several were to be made. -/
  below : Nat := 0
  deriving DecidableEq

/-- A tree whose calls may be refused. -/
structure RestrictedTree where
  tree : Tree
  /-- How calls are refused, if they are. -/
  refusal : Option Refusal := none
  deriving DecidableEq

namespace RestrictedTree

/-- A tree that holds nothing but its root, and refuses nothing. -/
def empty : RestrictedTree := ⟨.empty, none⟩

/-- Make a call to the tree, unless calls are refused. -/
def pass {α : Type} (store : RestrictedTree)
    (call : Tree → Except IoError α × Tree) :
    Except IoError α × RestrictedTree :=
  match store.refusal with
  | some refusal => (.error refusal.error, store)
  | none =>
    let (answer, tree) := call store.tree
    (answer, { store with tree := tree })

/-- Ask the tree, unless calls are refused. -/
def ask {α : Type} (store : RestrictedTree) (call : Tree → Except IoError α) :
    Except IoError α :=
  match store.refusal with
  | some refusal => .error refusal.error
  | none => call store.tree

/-- Make a directory with its missing ancestors.  A refusal comes upon one of
them when those above it are made. -/
def createDirectories (path : Path) (store : RestrictedTree) :
    Except IoError Path × RestrictedTree :=
  match store.refusal with
  | some refusal =>
    let above := path.ancestors.drop (refusal.below + 1)
    (.error refusal.error, { store with tree := (store.tree.makeAll above).2 })
  | none => store.pass (FileStore.createDirectories path)

instance : FileStore RestrictedTree where
  workingDirectory store := FileStore.workingDirectory store.tree
  openFile path mode store := store.pass (FileStore.openFile path mode)
  createFile path permissions store :=
    store.pass (FileStore.createFile path permissions)
  createDirectories := createDirectories
  delete path store := store.pass (FileStore.delete path)
  setPermissions path permissions store :=
    store.pass (FileStore.setPermissions path permissions)
  pathExists store path :=
    store.refusal.isNone && FileStore.pathExists store.tree path
  isRegularFile store path :=
    store.refusal.isNone && FileStore.isRegularFile store.tree path
  isWritable store path :=
    store.refusal.isNone && FileStore.isWritable store.tree path
  fileSize store path := store.ask fun tree => FileStore.fileSize tree path
  usedSpace store path := store.ask fun tree => FileStore.usedSpace tree path

end RestrictedTree
end HandlePool
