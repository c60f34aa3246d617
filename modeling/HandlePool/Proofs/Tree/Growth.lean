import HandlePool.Proofs.FileHandle

/-!
# Growing trees

All calls but removals add files and directories to a tree, or change the mode
or the contents of what is there.  What has a name then keeps it and stays what
it is, and a tree without links stays without them.
-/

namespace HandlePool

/-- Nodes that differ in mode and contents at most. -/
inductive Node.SameKind : Node → Node → Prop
  | file (mode later : FileMode) (contents laterContents : List UInt8) :
      SameKind (.file mode contents) (.file later laterContents)
  | directory (mode later : FileMode) :
      SameKind (.directory mode) (.directory later)
  | link (target : Path) :
      SameKind (.link target) (.link target)

namespace Node.SameKind

variable {first second third : Node}

theorem refl
    (node : Node) :
    SameKind node node := by
  cases node with
  | file mode contents => exact .file ..
  | directory mode => exact .directory ..
  | link target => exact .link target

theorem trans
    (sameFirst : SameKind first second)
    (sameSecond : SameKind second third) :
    SameKind first third := by
  cases sameFirst <;> cases sameSecond <;> constructor

theorem isDirectory_eq
    (same : SameKind first second) :
    second.isDirectory = first.isDirectory := by
  cases same <;> rfl

theorem withMode
    (node : Node)
    (mode : FileMode) :
    SameKind node (node.withMode mode) := by
  cases node with
  | file => exact .file ..
  | directory => exact .directory ..
  | link target => exact .link target

end Node.SameKind

theorem Node.file_ne_link
    (mode : FileMode)
    (contents : List UInt8)
    (target : Path) :
    Node.file mode contents ≠ .link target := by
  intro same
  cases same

namespace Tree

/-- A tree becomes another one by steps that add something or change a node. -/
inductive Grows : Tree → Tree → Prop
  | done (tree : Tree) :
      Grows tree tree
  | add {tree after : Tree} (location : Location) {node : Node} :
      (∀ target, node ≠ .link target) →
      Grows (tree.add location node).2 after →
      Grows tree after
  | set {tree after : Tree} {number : NodeId} {old new : Node} :
      tree.nodes[number]? = some old →
      old.SameKind new →
      Grows (tree.setNode number new) after →
      Grows tree after

/-- The root is a directory, and every name belongs to a file or a directory. -/
structure IsPlain (tree : Tree) : Prop where
  root : tree.isDirectory [] = true
  names : ∀ location number, tree.find? location = some number →
    ∃ node, tree.nodes[number]? = some node ∧ ∀ target, node ≠ .link target

variable
  {tree after : Tree}
  {location other : Location}
  {number : NodeId}
  {node : Node}
  {path : Path}

theorem Grows.trans
    {middle : Tree}
    (first : Grows tree middle)
    (second : Grows middle after) :
    Grows tree after := by
  induction first with
  | done => exact second
  | add location notLink _ inductionHypothesis =>
      exact .add location notLink (inductionHypothesis second)
  | set found same _ inductionHypothesis =>
      exact .set found same (inductionHypothesis second)

theorem grows_add
    (tree : Tree)
    (location : Location)
    {node : Node}
    (notLink : ∀ target, node ≠ .link target) :
    Grows tree (tree.add location node).2 :=
  .add location notLink (.done _)

/-! ## Names and nodes -/

theorem node?_eq_some_iff :
    tree.node? location = some node ↔
      ∃ number, tree.find? location = some number ∧
        tree.nodes[number]? = some node := by
  rw [node?, Option.bind_eq_some_iff]

theorem isDirectory_iff :
    tree.isDirectory location = true ↔
      ∃ node, tree.node? location = some node ∧ node.isDirectory = true := by
  unfold isDirectory
  cases tree.node? location <;> simp

/-- A name that is in use is not given again. -/
theorem find?_add_of_some
    (found : tree.find? location = some number) :
    (tree.add other node).2.find? location = some number := by
  rw [find?, add, List.find?_append, Option.map_or]
  rw [find?] at found
  rw [found, Option.some_or]

theorem getElem?_add_of_some
    {added : Node}
    (found : tree.nodes[number]? = some node) :
    (tree.add location added).2.nodes[number]? = some node := by
  rw [add, List.getElem?_append_left (List.getElem?_eq_some_iff.mp found).1]
  exact found

theorem getElem?_add_self
    (tree : Tree)
    (location : Location)
    (node : Node) :
    (tree.add location node).2.nodes[tree.nodes.length]? = some node := by
  rw [add, List.getElem?_concat_length]

theorem getElem?_setNode_cases
    {old new : Node}
    (found : tree.nodes[number]? = some old)
    (same : old.SameKind new)
    {place : NodeId}
    (located : tree.nodes[place]? = some node) :
    ∃ later, (tree.setNode number new).nodes[place]? = some later ∧
      node.SameKind later := by
  by_cases here : place = number
  · subst here
    cases found.symm.trans located
    refine ⟨new, ?_, same⟩
    rw [setNode, List.getElem?_set_self (List.getElem?_eq_some_iff.mp found).1]
  · refine ⟨node, ?_, .refl node⟩
    rw [setNode, List.getElem?_set_ne (Ne.symm here)]
    exact located

theorem isPlain_empty : empty.IsPlain := by
  refine ⟨rfl, fun location number named => ?_⟩
  obtain ⟨name, isName, rfl⟩ := Option.map_eq_some_iff.mp named
  have isRoot := List.mem_singleton.mp (List.mem_of_find?_eq_some isName)
  rw [isRoot]
  exact ⟨_, rfl, fun target => nofun⟩

/-! ## What growing keeps -/

/-- Relative paths start where they did. -/
theorem Grows.origin_eq
    (grows : Grows tree after) :
    after.origin = tree.origin := by
  induction grows with
  | done => rfl
  | add _ _ _ inductionHypothesis => exact inductionHypothesis
  | set _ _ _ inductionHypothesis => exact inductionHypothesis

/-- A name keeps its node. -/
theorem Grows.find?_eq
    (grows : Grows tree after)
    (found : tree.find? location = some number) :
    after.find? location = some number := by
  induction grows with
  | done => exact found
  | add _ _ _ inductionHypothesis =>
      exact inductionHypothesis (find?_add_of_some found)
  | set _ _ _ inductionHypothesis => exact inductionHypothesis found

/-- A node stays what it is. -/
theorem Grows.getElem?_nodes
    (grows : Grows tree after)
    (found : tree.nodes[number]? = some node) :
    ∃ later, after.nodes[number]? = some later ∧ node.SameKind later := by
  induction grows generalizing node with
  | done => exact ⟨node, found, .refl node⟩
  | add _ _ _ inductionHypothesis =>
      exact inductionHypothesis (getElem?_add_of_some found)
  | set old same _ inductionHypothesis =>
      obtain ⟨middle, foundMiddle, sameMiddle⟩ :=
        getElem?_setNode_cases old same found
      obtain ⟨later, foundLater, sameLater⟩ := inductionHypothesis foundMiddle
      exact ⟨later, foundLater, sameMiddle.trans sameLater⟩

theorem Grows.node?_cases
    (grows : Grows tree after)
    (found : tree.node? location = some node) :
    ∃ later, after.node? location = some later ∧ node.SameKind later := by
  obtain ⟨number, named, numbered⟩ := node?_eq_some_iff.mp found
  obtain ⟨later, laterNumbered, same⟩ := grows.getElem?_nodes numbered
  exact ⟨later,
    node?_eq_some_iff.mpr ⟨number, grows.find?_eq named, laterNumbered⟩, same⟩

/-- A file stays a file. -/
theorem Grows.contents?
    (grows : Grows tree after)
    {contents : List UInt8}
    (isFile : tree.contents? number = some contents) :
    ∃ later, after.contents? number = some later := by
  unfold Tree.contents? at isFile
  split at isFile
  · next mode _ found =>
    obtain ⟨later, foundLater, same⟩ := grows.getElem?_nodes found
    cases same with
    | file _ _ _ laterContents =>
        exact ⟨laterContents, by rw [Tree.contents?, foundLater]⟩
  · cases isFile

theorem Grows.isDirectory
    (grows : Grows tree after)
    (directory : tree.isDirectory location = true) :
    after.isDirectory location = true := by
  obtain ⟨node, found, isDirectory⟩ := isDirectory_iff.mp directory
  obtain ⟨later, foundLater, same⟩ := grows.node?_cases found
  exact isDirectory_iff.mpr
    ⟨later, foundLater, same.isDirectory_eq.trans isDirectory⟩

theorem Grows.isPlain
    (grows : Grows tree after)
    (plain : tree.IsPlain) :
    after.IsPlain := by
  refine ⟨grows.isDirectory plain.root, ?_⟩
  obtain ⟨-, names⟩ := plain
  induction grows with
  | done => exact names
  | add location notLink _ inductionHypothesis =>
      refine inductionHypothesis fun other number found => ?_
      obtain before | rfl := find?_add_cases found
      · obtain ⟨node, numbered, plain⟩ := names other number before
        exact ⟨node, getElem?_add_of_some numbered, plain⟩
      · exact ⟨_, getElem?_add_self _ location _, notLink⟩
  | set old same _ inductionHypothesis =>
      refine inductionHypothesis fun location number found => ?_
      obtain ⟨node, numbered, plain⟩ := names location number found
      obtain ⟨later, laterNumbered, sameKind⟩ :=
        getElem?_setNode_cases old same numbered
      refine ⟨later, laterNumbered, fun target isLink => ?_⟩
      subst isLink
      cases sameKind
      exact plain target rfl

/-! ## Calls that grow a tree -/

theorem grows_attempt
    {α : Type}
    {answer : α}
    {changed : Except IoError Tree}
    (grows : ∀ after, changed = .ok after → Grows tree after) :
    Grows tree (tree.attempt answer changed).2 := by
  cases changed with
  | error error => exact .done tree
  | ok after => exact grows after rfl

theorem grows_of_makeDirectory
    (made : tree.makeDirectory path = .ok after) :
    Grows tree after := by
  unfold makeDirectory at made
  rw [bind_eq_ok_iff] at made
  obtain ⟨found, -, made⟩ := made
  split at made
  · next name named =>
    rw [bind_eq_ok_iff] at made
    obtain ⟨occupant, -, made⟩ := made
    cases occupant with
    | some occupant => exact absurd made refuse_ne_ok
    | none =>
        cases made
        exact grows_add tree _ fun target => nofun
  · exact absurd made refuse_ne_ok

theorem grows_makeAll
    (tree : Tree)
    (paths : List Path) :
    Grows tree (tree.makeAll paths).2 := by
  induction paths generalizing tree with
  | nil => exact .done tree
  | cons path ancestors inductionHypothesis =>
      unfold makeAll
      split
      · next made => exact grows_of_makeDirectory made
      · split
        · have above := inductionHypothesis tree
          split
          · next ancestorsMade =>
            rwa [ancestorsMade] at above
          · next later ancestorsMade =>
            rw [ancestorsMade] at above
            split
            · next made => exact above.trans (grows_of_makeDirectory made)
            · exact above
        · exact .done tree

theorem grows_createDirectories
    (tree : Tree)
    (path : Path) :
    Grows tree (FileStore.createDirectories path tree).2 := by
  change Grows tree (tree.makeDirectories path).2
  unfold makeDirectories
  split
  · exact .done tree
  · exact grows_makeAll tree _

theorem grows_setPermissions
    (tree : Tree)
    (path : Path)
    (permissions : Permissions) :
    Grows tree (FileStore.setPermissions path permissions tree).2 := by
  refine grows_attempt fun after changed => ?_
  unfold setMode at changed
  simp only [bind_eq_ok_iff] at changed
  obtain ⟨location, -, number, -, changed⟩ := changed
  split at changed
  · next node found =>
    cases changed
    exact .set found (.withMode node _) (.done _)
  · exact absurd changed refuse_ne_ok

theorem grows_setContents
    (tree : Tree)
    (number : NodeId)
    (contents : List UInt8) :
    Grows tree (tree.setContents number contents) := by
  unfold setContents
  split
  · next found => exact .set found (.file ..) (.done _)
  · exact .done tree

theorem grows_put
    (tree : Tree)
    (number : NodeId)
    (bytes : List UInt8)
    (position? : Option Nat) :
    Grows tree (tree.put number bytes position?) := by
  unfold put
  split
  · exact .done tree
  · exact grows_setContents tree number _

end Tree
end HandlePool
