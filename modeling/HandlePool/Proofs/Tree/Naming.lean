import HandlePool.FileStore
import HandlePool.Proofs.Outcome

/-!
# Nodes and their names

Opening a path gives a node that has a name, or makes a new one; deleting takes
one name away.  No such call gives a name to a node that has lost its last one,
so no path leads to that node again, and no handle is opened on it.
-/

namespace HandlePool

theorem refuse_ne_ok
    {α : Type}
    {code : Int}
    {value : α} :
    refuse code ≠ .ok value := by
  simp [refuse]

theorem refuse_bind_ne_ok
    {α β : Type}
    {code : Int}
    {next : α → Except IoError β}
    {result : β} :
    (refuse code >>= next) ≠ .ok result := by
  simp [refuse, bind, Except.bind]

namespace Tree

/-- Some location leads to the node. -/
def Names (tree : Tree) (number : NodeId) : Prop :=
  ∃ location, tree.find? location = some number

/-- The node is there, but no location leads to it. -/
def Lost (tree : Tree) (number : NodeId) : Prop :=
  number < tree.nodes.length ∧ ¬tree.Names number

variable {tree after : Tree} {path : Path} {number node : NodeId}

theorem not_names_of_forall_ne
    (absent : ∀ name ∈ tree.names, name.2 ≠ number) :
    ¬tree.Names number := by
  rintro ⟨location, found⟩
  rw [find?, Option.map_eq_some_iff] at found
  obtain ⟨name, located, numbered⟩ := found
  exact absent name (List.mem_of_find?_eq_some located) numbered

/-! ## One name more or less -/

/-- What is named after an addition was named before, or is new. -/
theorem find?_add_cases
    {location other : Location}
    {added : Node}
    (found : (tree.add location added).2.find? other = some number) :
    tree.find? other = some number ∨ number = tree.nodes.length := by
  rw [find?, add, List.find?_append, Option.map_or, Option.or_eq_some_iff]
    at found
  obtain before | ⟨-, new⟩ := found
  · exact .inl before
  · rw [Option.map_eq_some_iff] at new
    obtain ⟨name, isNew, rfl⟩ := new
    have isAdded := List.mem_singleton.mp (List.mem_of_find?_eq_some isNew)
    exact .inr (congrArg Prod.snd isAdded)

theorem names_add
    {location : Location}
    {added : Node}
    (names : (tree.add location added).2.Names number) :
    tree.Names number ∨ number = tree.nodes.length := by
  obtain ⟨other, found⟩ := names
  exact (find?_add_cases found).imp_left fun before => ⟨other, before⟩

theorem names_erase
    {location : Location}
    (names : (tree.erase location).Names number) :
    tree.Names number := by
  obtain ⟨other, found⟩ := names
  by_cases same : other = location
  · rw [same, find?_erase_self] at found
    cases found
  · rw [find?_erase_of_ne tree same] at found
    exact ⟨other, found⟩

theorem Lost.add
    (lost : tree.Lost number)
    (location : Location)
    (added : Node) :
    (tree.add location added).2.Lost number := by
  obtain ⟨bounded, unnamed⟩ := lost
  refine ⟨?_, fun names => ?_⟩
  · exact Nat.lt_of_lt_of_le bounded (by simp [Tree.add])
  · obtain before | rfl := names_add names
    · exact unnamed before
    · exact Nat.lt_irrefl _ bounded

theorem Lost.erase
    (lost : tree.Lost number)
    (location : Location) :
    (tree.erase location).Lost number :=
  ⟨lost.1, fun names => lost.2 (names_erase names)⟩

/-! ## What calls do -/

/-- The call gives a node that has a name, or makes a new one. -/
def Finds (tree after : Tree) (node : NodeId) : Prop :=
  tree.Names node ∧ after = tree ∨
    ∃ location added, (node, after) = tree.add location added

theorem names_of_numberAt
    {location : Location}
    (found : tree.numberAt location = .ok node) :
    tree.Names node := by
  unfold numberAt at found
  split at found
  · next other located =>
    cases found
    exact ⟨location, located⟩
  · exact absurd found refuse_ne_ok

theorem names_of_writableAt
    {location : Location}
    (found : tree.writableAt location = .ok node) :
    tree.Names node := by
  unfold writableAt at found
  split at found
  · exact absurd found refuse_ne_ok
  · exact names_of_numberAt found

/-- Creating a file makes a new node. -/
theorem finds_of_createFile
    {mode : FileMode}
    (created : tree.createFile path mode = .ok (node, after)) :
    tree.Finds after node := by
  unfold createFile at created
  simp only [bind_eq_ok_iff] at created
  obtain ⟨found, -, created⟩ := created
  split at created
  · next name named =>
    split at created
    · exact absurd created refuse_bind_ne_ok
    · rw [bind_eq_ok_iff] at created
      obtain ⟨occupant, -, created⟩ := created
      cases occupant with
      | some occupant => exact absurd created refuse_ne_ok
      | none =>
          cases created
          exact .inr ⟨_, _, rfl⟩
  · exact absurd created refuse_ne_ok

/-- A handle is opened on the node that its path and mode give. -/
theorem openFile_eq_ok_iff
    {mode : OpenMode}
    {handle : FileHandle} :
    FileStore.openFile path mode tree = (.ok handle, after) ↔
      ∃ node, tree.openNode path mode = .ok (node, after) ∧
        handle =
          { path := path, mode := mode,
            descriptor := some { node := node } } := by
  change FileHandle.ofPath tree path mode = (.ok handle, after) ↔ _
  unfold FileHandle.ofPath
  cases tree.openNode path mode with
  | error error => simp
  | ok opened =>
      obtain ⟨node, later⟩ := opened
      simp only [Prod.mk.injEq, Except.ok.injEq]
      constructor
      · rintro ⟨rfl, rfl⟩
        exact ⟨node, ⟨rfl, rfl⟩, rfl⟩
      · rintro ⟨node, ⟨rfl, rfl⟩, rfl⟩
        exact ⟨rfl, rfl⟩

theorem finds_of_openNode
    {mode : OpenMode}
    (opened : tree.openNode path mode = .ok (node, after)) :
    tree.Finds after node := by
  cases mode with
  | read =>
      simp only [openNode, bind_eq_ok_iff] at opened
      obtain ⟨location, -, found, numbered, given⟩ := opened
      cases given
      exact .inl ⟨names_of_numberAt numbered, rfl⟩
  | write | append =>
      simp only [openNode, bind_eq_ok_iff] at opened
      obtain ⟨location, -, found, numbered, given⟩ := opened
      cases given
      exact .inl ⟨names_of_writableAt numbered, rfl⟩
  | create =>
      simp only [openNode, bind_eq_ok_iff] at opened
      obtain ⟨-, -, location, -, given⟩ := opened
      split at given
      · rw [bind_eq_ok_iff] at given
        obtain ⟨found, numbered, given⟩ := given
        cases given
        exact .inl ⟨names_of_writableAt numbered, rfl⟩
      · cases given
        exact .inr ⟨location, _, rfl⟩
  | createNew => exact finds_of_createFile opened

/-- Removing something takes one name away. -/
theorem eq_erase_of_removeFile
    (removed : tree.removeFile path = .ok after) :
    ∃ location, after = tree.erase location := by
  unfold removeFile at removed
  rw [bind_eq_ok_iff] at removed
  obtain ⟨found, -, removed⟩ := removed
  split at removed
  · next name named =>
    rw [bind_eq_ok_iff] at removed
    obtain ⟨occupant, -, removed⟩ := removed
    split at removed
    · exact absurd removed refuse_ne_ok
    · exact absurd removed refuse_ne_ok
    · split at removed
      · exact absurd removed refuse_bind_ne_ok
      · cases removed
        exact ⟨_, rfl⟩
  · exact absurd removed refuse_ne_ok

theorem eq_erase_of_removeDirectory
    (removed : tree.removeDirectory path = .ok after) :
    ∃ location, after = tree.erase location := by
  unfold removeDirectory at removed
  rw [bind_eq_ok_iff] at removed
  obtain ⟨found, -, removed⟩ := removed
  split at removed
  · next name named =>
    rw [bind_eq_ok_iff] at removed
    obtain ⟨occupant, -, removed⟩ := removed
    split at removed
    · exact absurd removed refuse_ne_ok
    · split at removed
      · cases removed
        exact ⟨_, rfl⟩
      · exact absurd removed refuse_ne_ok
    · exact absurd removed refuse_ne_ok
  · exact absurd removed refuse_ne_ok
  · exact absurd removed refuse_ne_ok
  · exact absurd removed refuse_ne_ok

theorem eq_erase_of_remove
    (removed : tree.remove path = .ok after) :
    ∃ location, after = tree.erase location := by
  unfold remove at removed
  rw [bind_eq_ok_iff] at removed
  obtain ⟨location, -, removed⟩ := removed
  split at removed
  · exact eq_erase_of_removeDirectory removed
  · exact eq_erase_of_removeFile removed

/-! ## Lost nodes -/

theorem Finds.lost
    (finds : tree.Finds after node)
    (lost : tree.Lost number) :
    after.Lost number := by
  obtain ⟨-, rfl⟩ | ⟨location, added, made⟩ := finds
  · exact lost
  · have isAfter : after = (tree.add location added).2 := congrArg Prod.snd made
    rw [isAfter]
    exact lost.add location added

/-- What is found is not lost. -/
theorem Finds.ne_of_lost
    (finds : tree.Finds after node)
    (lost : tree.Lost number) :
    node ≠ number := by
  rintro rfl
  obtain ⟨names, -⟩ | ⟨location, added, made⟩ := finds
  · exact lost.2 names
  · have isNew : node = tree.nodes.length := congrArg Prod.fst made
    exact absurd lost.1 (isNew ▸ Nat.lt_irrefl _)

/-- Opening a path leaves a lost node lost. -/
theorem Lost.openFile
    (lost : tree.Lost number)
    (path : Path)
    (mode : OpenMode) :
    (FileStore.openFile path mode tree).2.Lost number := by
  change (FileHandle.ofPath tree path mode).2.Lost number
  unfold FileHandle.ofPath
  split
  · exact lost
  · next node after opened => exact (finds_of_openNode opened).lost lost

/-- No handle is opened on a lost node. -/
theorem Lost.node_ne_of_openFile
    (lost : tree.Lost number)
    {mode : OpenMode}
    {handle : FileHandle}
    (opened : (FileStore.openFile path mode tree).1 = .ok handle)
    {descriptor : Descriptor}
    (held : handle.descriptor = some descriptor) :
    descriptor.node ≠ number := by
  change (FileHandle.ofPath tree path mode).1 = .ok handle at opened
  unfold FileHandle.ofPath at opened
  split at opened
  · cases opened
  · next node after found =>
    cases opened
    cases held
    exact (finds_of_openNode found).ne_of_lost lost

theorem Lost.attempt
    {α : Type}
    {answer : α}
    (lost : tree.Lost number)
    {changed : Except IoError Tree}
    (kept : ∀ after, changed = .ok after → after.Lost number) :
    (tree.attempt answer changed).2.Lost number := by
  cases changed with
  | error error => exact lost
  | ok after => exact kept after rfl

theorem Lost.createFile
    (lost : tree.Lost number)
    (path : Path)
    (permissions : Permissions) :
    (FileStore.createFile path permissions tree).2.Lost number := by
  refine lost.attempt fun after created => ?_
  obtain ⟨⟨node, grown⟩, made, rfl⟩ := map_eq_ok_iff.mp created
  exact (finds_of_createFile made).lost lost

theorem Lost.delete
    (lost : tree.Lost number)
    (path : Path) :
    (FileStore.delete path tree).2.Lost number := by
  refine lost.attempt fun after removed => ?_
  obtain ⟨location, rfl⟩ := eq_erase_of_remove removed
  exact lost.erase location

end Tree
end HandlePool
