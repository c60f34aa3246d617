import HandlePool.FileStore.Restricted
import HandlePool.Proofs.Facade.Calls
import HandlePool.Proofs.Tree.Growth

/-!
# What a restricted tree lets through

A call to a restricted tree is answered as the tree answers it, or refused.  A
refused call leaves the tree, except that some directories above the one it
could not make may be there.
-/

namespace HandlePool

/-- A tree that opens no handle is left as it is. -/
theorem Tree.eq_of_openFile_error
    {tree after : Tree}
    {path : Path}
    {mode : OpenMode}
    {error : IoError}
    (failed : FileStore.openFile path mode tree = (.error error, after)) :
    after = tree := by
  change FileHandle.ofPath tree path mode = (.error error, after) at failed
  unfold FileHandle.ofPath at failed
  split at failed
  · cases failed
    rfl
  · cases failed

namespace RestrictedTree

variable
  {α : Type}
  {store later : RestrictedTree}
  {call : Tree → Except IoError α × Tree}
  {answer : α}

/-- What succeeds is what the tree does. -/
theorem of_pass
    (passed : store.pass call = (.ok answer, later)) :
    store.refusal = none ∧ call store.tree = (.ok answer, later.tree) := by
  unfold pass at passed
  split at passed
  · cases passed
  · next free =>
    rw [Prod.mk.injEq] at passed
    obtain ⟨answered, rfl⟩ := passed
    exact ⟨free, Prod.ext answered rfl⟩

/-- The tree is left alone, or the call is made. -/
theorem tree_pass_cases
    (store : RestrictedTree)
    (call : Tree → Except IoError α × Tree) :
    (store.pass call).2.tree = store.tree ∨
      (store.pass call).2.tree = (call store.tree).2 := by
  unfold pass
  split
  · exact .inl rfl
  · exact .inr rfl

theorem eq_of_openFile_error
    {path : Path}
    {mode : OpenMode}
    {error : IoError}
    (failed : FileStore.openFile path mode store = (.error error, later)) :
    later = store := by
  change store.pass (FileStore.openFile path mode) =
      (.error error, later) at failed
  unfold pass at failed
  split at failed
  · cases failed
    rfl
  · rw [Prod.mk.injEq] at failed
    obtain ⟨failed, rfl⟩ := failed
    have same := Tree.eq_of_openFile_error (Prod.ext failed rfl)
    exact congrArg (fun tree => { store with tree := tree }) same

/-- What the tree opens is opened, unless that is refused. -/
theorem openFile_of_unrefused
    {path : Path}
    {mode : OpenMode}
    {handle : FileHandle}
    (opens : FileStore.openFile path mode store.tree = (.ok handle, store.tree))
    (free : store.refusal = none) :
    FileStore.openFile path mode store = (.ok handle, store) := by
  change store.pass (FileStore.openFile path mode) = _
  simp only [pass, free, opens]
  rw [← free]

/-- A restricted tree opens fresh handles. -/
theorem opensFresh :
    (storeConduct : Conduct RestrictedTree FileHandle).OpensFresh := by
  rintro opener ⟨path, mode, rfl⟩ store handle opened
  obtain ⟨-, opened⟩ := of_pass (Prod.ext opened rfl)
  exact opensFresh_tree _ ⟨path, mode, rfl⟩ store.tree handle
    (congrArg Prod.fst opened)

theorem grows_createDirectories
    (store : RestrictedTree)
    (path : Path) :
    Tree.Grows store.tree (FileStore.createDirectories path store).2.tree := by
  change Tree.Grows store.tree (createDirectories path store).2.tree
  unfold createDirectories
  split
  · exact Tree.grows_makeAll ..
  · obtain same | made :=
      store.tree_pass_cases (FileStore.createDirectories path)
    · rw [same]
      exact .done _
    · rw [made]
      exact Tree.grows_createDirectories ..

theorem grows_setPermissions
    (store : RestrictedTree)
    (path : Path)
    (permissions : Permissions) :
    Tree.Grows store.tree
      (FileStore.setPermissions path permissions store).2.tree := by
  obtain same | set :=
    store.tree_pass_cases (FileStore.setPermissions path permissions)
  · exact same ▸ .done _
  · exact set ▸ Tree.grows_setPermissions ..

end RestrictedTree
end HandlePool
