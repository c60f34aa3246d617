import HandlePool.FileStore

/-!
# Counted stores

A counted store passes everything on to the store inside and counts the calls
that open, create and delete.  Opening a path can be made to fail.  Paths count
as equal when their components are.
-/

namespace HandlePool

/-- Values kept under the components of paths. -/
abbrev PathTable (α : Type) := List (List Path.Component × α)

namespace PathTable

variable {α : Type}

/-- The value of a path. -/
def find? (table : PathTable α) (path : Path) : Option α :=
  (List.find? (fun row => row.1 == path.components) table).map Prod.snd

/-- The table without a path. -/
def erase (table : PathTable α) (path : Path) : PathTable α :=
  List.filter (fun row => row.1 != path.components) table

/-- Give a path a value. -/
def insert (table : PathTable α) (path : Path) (value : α) : PathTable α :=
  (path.components, value) :: table.erase path

@[simp] theorem find?_insert_self (table : PathTable α)
    (path : Path) (value : α) :
    (table.insert path value).find? path = some value := by
  simp [find?, insert]

@[simp] theorem find?_erase_self (table : PathTable α) (path : Path) :
    (table.erase path).find? path = none := by
  simp [find?, erase, List.find?_filter]

theorem find?_erase_of_ne {table : PathTable α} {path other : Path}
    (different : other.components ≠ path.components) :
    (table.erase path).find? other = table.find? other := by
  unfold find? erase
  rw [List.find?_filter]
  congr 2
  funext row
  by_cases same : row.1 = other.components <;> simp [same, different]

theorem find?_insert_of_ne {table : PathTable α} {path other : Path} (value : α)
    (different : other.components ≠ path.components) :
    (table.insert path value).find? other = table.find? other := by
  have passed : (path.components == other.components) = false :=
    beq_eq_false_iff_ne.mpr (Ne.symm different)
  refine Eq.trans ?_ (find?_erase_of_ne different)
  simp [find?, insert, passed]

end PathTable

/-- A store with a record of what was asked of it. -/
structure CountedStore (σ : Type) where
  inner : σ
  /-- How often each path was opened, with or without success. -/
  opens : PathTable Nat := []
  creates : Nat := 0
  deletes : Nat := 0
  /-- The error with which opening a path is made to fail. -/
  faults : PathTable Int := []

namespace CountedStore

variable {σ : Type}

/-- How often a path was opened. -/
def openCount (store : CountedStore σ) (path : Path) : Nat :=
  (store.opens.find? path).getD 0

/-- How often any path was opened. -/
def totalOpens (store : CountedStore σ) : Nat :=
  store.opens.foldl (fun total row => total + row.2) 0

/-- Make opening a path fail from now on. -/
def failOpens (store : CountedStore σ) (path : Path) (code : Int) :
    CountedStore σ :=
  { store with faults := store.faults.insert path code }

/-- Let opening a path succeed again. -/
def clearFailure (store : CountedStore σ) (path : Path) : CountedStore σ :=
  { store with faults := store.faults.erase path }

/-- Count that a path is opened. -/
def countOpen (store : CountedStore σ) (path : Path) : CountedStore σ :=
  { store with opens := store.opens.insert path (store.openCount path + 1) }

@[simp] theorem openCount_countOpen_self (store : CountedStore σ)
    (path : Path) :
    (store.countOpen path).openCount path = store.openCount path + 1 := by
  simp [countOpen, openCount]

theorem openCount_countOpen_of_ne {store : CountedStore σ} {path other : Path}
    (different : other.components ≠ path.components) :
    (store.countOpen path).openCount other = store.openCount other := by
  simp [countOpen, openCount, PathTable.find?_insert_of_ne _ different]

/-- Pass a call on to the store inside. -/
def passOn {α : Type} (store : CountedStore σ) (call : σ → α × σ) :
    α × CountedStore σ :=
  let (answer, inner) := call store.inner
  (answer, { store with inner := inner })

/-- Count that a path is opened, and open it unless that is made to fail. -/
def openFile [FileStore σ] (path : Path) (mode : OpenMode)
    (store : CountedStore σ) : Except IoError FileHandle × CountedStore σ :=
  let store := store.countOpen path
  match store.faults.find? path with
  | some code => (.error (.system code), store)
  | none => store.passOn (FileStore.openFile path mode)

instance [FileStore σ] : FileStore (CountedStore σ) where
  workingDirectory store := FileStore.workingDirectory store.inner
  openFile := openFile
  createFile path permissions store :=
    { store with creates := store.creates + 1 }.passOn
      (FileStore.createFile path permissions)
  createDirectories path store :=
    store.passOn (FileStore.createDirectories path)
  delete path store :=
    { store with deletes := store.deletes + 1 }.passOn (FileStore.delete path)
  setPermissions path permissions store :=
    store.passOn (FileStore.setPermissions path permissions)
  pathExists store := FileStore.pathExists store.inner
  isRegularFile store := FileStore.isRegularFile store.inner
  isWritable store := FileStore.isWritable store.inner
  fileSize store := FileStore.fileSize store.inner
  usedSpace store := FileStore.usedSpace store.inner

end CountedStore
end HandlePool
