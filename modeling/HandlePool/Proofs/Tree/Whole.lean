import HandlePool.Proofs.Tree.Growth

/-!
# Whole trees

In a tree that calls have made from an empty one every name belongs to a node,
so that a name whose node cannot be found is not in use.  Trees with links and
names that were moved are no exception.
-/

namespace HandlePool
namespace Tree

/-- Every name in use belongs to a node. -/
def IsWhole (tree : Tree) : Prop :=
  ∀ name ∈ tree.names, name.2 < tree.nodes.length

variable {tree after : Tree} {location : Location} {path : Path}

theorem isWhole_empty : empty.IsWhole := by
  intro name present
  rw [List.mem_singleton.mp present]
  exact Nat.one_pos

/-- A location without a node has no name. -/
theorem IsWhole.find?_eq_none
    (whole : tree.IsWhole)
    (missing : tree.node? location = none) :
    tree.find? location = none := by
  rw [Option.eq_none_iff_forall_ne_some]
  intro number named
  obtain ⟨name, found, rfl⟩ := Option.map_eq_some_iff.mp named
  have bounded := whole name (List.mem_of_find?_eq_some found)
  rw [node?, named, Option.bind_some, List.getElem?_eq_getElem bounded]
    at missing
  cases missing

/-! ## Changes -/

namespace IsWhole

theorem add
    (whole : tree.IsWhole)
    (location : Location)
    (node : Node) :
    (tree.add location node).2.IsWhole := by
  intro name present
  rw [Tree.add, List.length_append, List.length_singleton]
  obtain before | isNew := List.mem_append.mp present
  · exact Nat.lt_succ_of_lt (whole name before)
  · rw [List.mem_singleton.mp isNew]
    exact Nat.lt_succ_self _

theorem erase
    (whole : tree.IsWhole)
    (location : Location) :
    (tree.erase location).IsWhole := fun name present =>
  whole name (List.mem_of_mem_filter present)

theorem setNode
    (whole : tree.IsWhole)
    (number : NodeId)
    (node : Node) :
    (tree.setNode number node).IsWhole := by
  intro name present
  rw [Tree.setNode, List.length_set]
  exact whole name present

theorem move
    (whole : tree.IsWhole)
    (source target : Location) :
    (tree.move source target).IsWhole := by
  intro name present
  obtain ⟨earlier, before, rfl⟩ := List.mem_map.mp present
  exact whole earlier before

theorem grows
    (whole : tree.IsWhole)
    (grows : Grows tree after) :
    after.IsWhole := by
  induction grows with
  | done => exact whole
  | add location _ _ inductionHypothesis =>
      exact inductionHypothesis (whole.add location _)
  | set _ _ _ inductionHypothesis =>
      exact inductionHypothesis (whole.setNode _ _)

theorem finds
    {number : NodeId}
    (whole : tree.IsWhole)
    (finds : tree.Finds after number) :
    after.IsWhole := by
  obtain ⟨-, rfl⟩ | ⟨location, added, made⟩ := finds
  · exact whole
  · rw [show after = (tree.add location added).2 from congrArg Prod.snd made]
    exact whole.add location added

end IsWhole

theorem eq_add_of_makeLink
    {target : Path}
    (made : tree.makeLink path target = .ok after) :
    ∃ location, after = (tree.add location (.link target)).2 := by
  unfold makeLink at made
  by_cases broken : (target.hasZeroByte || path.hasZeroByte) = true
  · rw [if_pos broken] at made
    cases made
  · rw [if_neg broken] at made
    simp only [bind_eq_ok_iff] at made
    obtain ⟨-, -, found, -, made⟩ := made
    split at made
    · rw [bind_eq_ok_iff] at made
      obtain ⟨occupant, -, made⟩ := made
      split at made
      · exact absurd made refuse_ne_ok
      · split at made
        · exact absurd made refuse_bind_ne_ok
        · cases made
          exact ⟨_, rfl⟩
    · exact absurd made refuse_ne_ok

/-- Renaming leaves the tree as it is, or moves a name after the
one in its way is gone. -/
theorem of_rename
    {goal : Path}
    (renamed : tree.rename path goal = .ok after) :
    after = tree ∨ ∃ source target,
    after = (tree.erase target).move source target := by
  unfold rename at renamed
  by_cases broken : (path.hasZeroByte || goal.hasZeroByte) = true
  · rw [if_pos broken] at renamed
    cases renamed
  · rw [if_neg broken] at renamed
    simp only [bind_eq_ok_iff] at renamed
    obtain ⟨found, -, aim, -, renamed⟩ := renamed
    split at renamed
    · rw [bind_eq_ok_iff] at renamed
      obtain ⟨occupant, -, renamed⟩ := renamed
      split at renamed
      · exact absurd renamed refuse_ne_ok
      · rw [bind_eq_ok_iff] at renamed
        obtain ⟨-, -, renamed⟩ := renamed
        split at renamed
        · exact absurd renamed refuse_bind_ne_ok
        · rw [bind_eq_ok_iff] at renamed
          obtain ⟨-, -, renamed⟩ := renamed
          split at renamed
          · cases renamed
            exact .inl rfl
          · cases renamed
            exact .inr ⟨_, _, rfl⟩
    · exact absurd renamed refuse_ne_ok

/-! ## Calls -/

/-- Calls lead from an empty tree to this one.  Files are opened, created,
written and deleted, directories and links are made, modes are set and names are
changed.  Relative paths start anywhere. -/
inductive Reachable : Tree → Prop
  | empty : Reachable empty
  | opened {tree : Tree} (path : Path) (mode : OpenMode) :
      Reachable tree → Reachable (FileStore.openFile path mode tree).2
  | created {tree : Tree} (path : Path) (permissions : Permissions) :
      Reachable tree → Reachable (FileStore.createFile path permissions tree).2
  | written {tree : Tree} (number : NodeId) (contents : List UInt8) :
      Reachable tree → Reachable (tree.setContents number contents)
  | deleted {tree : Tree} (path : Path) :
      Reachable tree → Reachable (FileStore.delete path tree).2
  | madeDirectories {tree : Tree} (path : Path) :
      Reachable tree → Reachable (FileStore.createDirectories path tree).2
  | madeLink {tree after : Tree} {path target : Path} :
      Reachable tree → tree.makeLink path target = .ok after → Reachable after
  | modeSet {tree : Tree} (path : Path) (permissions : Permissions) :
      Reachable tree →
      Reachable (FileStore.setPermissions path permissions tree).2
  | renamed {tree after : Tree} {path goal : Path} :
      Reachable tree → tree.rename path goal = .ok after → Reachable after
  | moved {tree : Tree} (origin : Location) :
      Reachable tree → Reachable { tree with origin := origin }

theorem IsWhole.attempt
    {α : Type}
    {answer : α}
    (whole : tree.IsWhole)
    {changed : Except IoError Tree}
    (kept : ∀ after, changed = .ok after → after.IsWhole) :
    (tree.attempt answer changed).2.IsWhole := by
  cases changed with
  | error error => exact whole
  | ok after => exact kept after rfl

/-- Calls leave whole trees. -/
theorem Reachable.isWhole
    (reachable : tree.Reachable) :
    tree.IsWhole := by
  induction reachable with
  | empty => exact isWhole_empty
  | @opened tree path mode _ whole =>
      change (FileHandle.ofPath tree path mode).2.IsWhole
      unfold FileHandle.ofPath
      split
      · exact whole
      · next node after opened => exact whole.finds (finds_of_openNode opened)
  | created path permissions _ whole =>
      refine whole.attempt fun after created => ?_
      obtain ⟨⟨node, grown⟩, made, rfl⟩ := map_eq_ok_iff.mp created
      exact whole.finds (finds_of_createFile made)
  | written number contents _ whole =>
      exact whole.grows (grows_setContents _ number contents)
  | deleted path _ whole =>
      refine whole.attempt fun after removed => ?_
      obtain ⟨location, rfl⟩ := eq_erase_of_remove removed
      exact whole.erase location
  | madeDirectories path _ whole =>
      exact whole.grows (grows_createDirectories _ path)
  | madeLink _ made whole =>
      obtain ⟨location, rfl⟩ := eq_add_of_makeLink made
      exact whole.add location _
  | modeSet path permissions _ whole =>
      exact whole.grows (grows_setPermissions _ path permissions)
  | renamed _ renamed whole =>
      obtain rfl | ⟨source, target, rfl⟩ := of_rename renamed
      · exact whole
      · exact (whole.erase target).move source target
  | moved origin _ whole => exact whole

end Tree
end HandlePool
