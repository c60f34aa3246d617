import HandlePool.Proofs.Tree.Descent

/-!
# Calls along paths

In any tree a path that a file is created at led nowhere before.  In a tree
without links a call that opens or creates a normal path gives the node that the
path leads to afterwards, and a call that removes one takes the name away that
the path spells, and no other.
-/

namespace HandlePool
namespace Tree

open HandlePool.Path

variable
  {tree after : Tree}
  {location gone : Location}
  {names : List Segment}
  {last : Segment}
  {path other : Path}
  {mode : OpenMode}
  {number node : NodeId}

theorem lookUnder_eq_ok_iff
    {occupant : Option Node} :
    tree.lookUnder location last = .ok occupant ↔
      last.length ≤ longestSegment ∧
      tree.node? (last :: location) = occupant := by
  unfold lookUnder
  split
  · next long => simp [refuse, Nat.not_le.mpr long]
  · next short => simp [Nat.not_lt.mp short]

theorem IsPlain.find?_eq_none
    (plain : tree.IsPlain)
    (missing : tree.node? location = none) :
    tree.find? location = none := by
  rw [Option.eq_none_iff_forall_ne_some]
  intro number named
  obtain ⟨node, found, -⟩ := plain.names location number named
  rw [node?_eq_some_iff.mpr ⟨number, named, found⟩] at missing
  cases missing

theorem IsPlain.isSome_node?
    (plain : tree.IsPlain)
    (named : tree.find? location = some number) :
    (tree.node? location).isSome = true := by
  obtain ⟨node, found, -⟩ := plain.names location number named
  rw [node?_eq_some_iff.mpr ⟨number, named, found⟩, Option.isSome_some]

/-! ## Creating what is not there -/

/-- Go on from a halt with more segments ahead. -/
def resume (tree : Tree) (ahead : List Segment) : Halt → Except IoError Halt
  | .arrived reached => tree.walkToLink reached ahead
  | .atLink directory target left =>
      .ok (.atLink directory target (left ++ ahead))

theorem walkToLink_append
    (location : Location)
    (before ahead : List Segment) :
    tree.walkToLink location (before ++ ahead) =
      tree.walkToLink location before >>= tree.resume ahead := by
  induction before generalizing location with
  | nil => rfl
  | cons segment before inductionHypothesis =>
      rw [List.cons_append, walkToLink, walkToLink]
      split
      · rfl
      · split
        · rfl
        · split
          · rfl
          · rfl
          · exact inductionHypothesis _

/-- A walk along segments and then others goes along the others from where it
has arrived, with the links it has left. -/
theorem walk_append_eq_bind
    (links : Nat)
    (location : Location)
    (before ahead : List Segment) :
    tree.walk links location (before ++ ahead) =
      tree.walk links location before >>= fun arrival =>
        tree.walk arrival.linksLeft arrival.location ahead := by
  induction links generalizing location before with
  | zero =>
      rw [walk, walkToLink_append, walk.eq_def tree 0 location before]
      cases tree.walkToLink location before with
      | error error => rfl
      | ok halt =>
          cases halt with
          | arrived reached => exact (walk.eq_def tree 0 reached ahead).symm
          | atLink directory target left => rfl
  | succ links inductionHypothesis =>
      rw [walk, walkToLink_append, walk.eq_def tree (links + 1) location before]
      cases tree.walkToLink location before with
      | error error => rfl
      | ok halt =>
          cases halt with
          | arrived reached =>
              exact (walk.eq_def tree (links + 1) reached ahead).symm
          | atLink directory target left =>
              change tree.walk links _ (target.steps ++ (left ++ ahead)) = _
              rw [← List.append_assoc]
              exact inductionHypothesis _ _

/-- A walk that arrives goes on from there, with the links it has left. -/
theorem walk_append
    {before : List Segment}
    {links : Nat}
    {arrival : Arrival}
    (walked : tree.walk links location before = .ok arrival)
    (ahead : List Segment) :
    tree.walk links location (before ++ ahead) =
      tree.walk arrival.linksLeft arrival.location ahead := by
  rw [walk_append_eq_bind, walked]
  rfl

/-- A walk that fails on its way fails. -/
theorem walk_append_of_error
    {before : List Segment}
    {links : Nat}
    {error : IoError}
    (failed : tree.walk links location before = .error error)
    (ahead : List Segment) :
    tree.walk links location (before ++ ahead) = .error error := by
  rw [walk_append_eq_bind, failed]
  rfl

theorem eq_of_ofSegment_eq_name
    {segment name : Segment}
    (named : Component.ofSegment segment = .name name) :
    name = segment ∧ segment ≠ here ∧ segment ≠ up := by
  unfold Component.ofSegment at named
  split at named
  · cases named
  · next notHere =>
    split at named
    · cases named
    · next notUp =>
      cases named
      exact ⟨rfl, notHere, notUp⟩

/-- A walk whose last step finds nothing does not arrive. -/
theorem walk_append_ne_ok
    {before : List Segment}
    {links : Nat}
    {arrival reached : Arrival}
    (walked : tree.walk links location before = .ok arrival)
    (notHere : last ≠ here)
    (notUp : last ≠ up)
    (missing : tree.node? (last :: arrival.location) = none) :
    tree.walk links location (before ++ [last]) ≠ .ok reached := by
  have stops : ∀ halt, tree.walkToLink arrival.location [last] ≠ .ok halt := by
    intro halt
    rw [walkToLink, enter_name notHere notUp, missing]
    split
    · exact refuse_ne_ok
    · split <;> exact refuse_ne_ok
  intro arrives
  rw [walk_append walked] at arrives
  unfold walk at arrives
  split at arrives
  · cases arrives
  · next halted => exact stops _ halted
  · next halted => exact stops _ halted

/-- A file is created as the last name of its path, where nothing is. -/
theorem made_of_createFile
    {bits : FileMode}
    (created : tree.createFile path bits = .ok (node, after)) :
    ∃ found name, tree.approachPath path = .ok found ∧ found.last = .name name ∧
      path.endsInSlash = false ∧ name.length ≤ longestSegment ∧
      tree.node? (name :: found.directory) = none ∧
      ∃ mode, (node, after) =
        tree.add (name :: found.directory) (.file mode []) := by
  unfold createFile at created
  rw [bind_eq_ok_iff] at created
  obtain ⟨found, approached, created⟩ := created
  split at created
  · next name named =>
    split at created
    · exact absurd created refuse_bind_ne_ok
    · next unslashed =>
      rw [bind_eq_ok_iff] at created
      obtain ⟨occupant, looked, created⟩ := created
      obtain ⟨short, rfl⟩ := lookUnder_eq_ok_iff.mp looked
      split at created
      · exact absurd created refuse_ne_ok
      · next missing =>
        cases created
        exact ⟨found, name, approached, named, Bool.eq_false_iff.mpr unslashed,
          short, missing, _, rfl⟩
  · exact absurd created refuse_ne_ok

/-- A path that ends in a name is approached by a walk to the
directory of that name. -/
theorem of_approachPath_name
    {found : Approach}
    {name : Segment}
    (approached : tree.approachPath path = .ok found)
    (named : found.last = .name name) :
    path.admissible = .ok () ∧ path.segments.getLast? = some name ∧
    name ≠ here ∧ name ≠ up ∧
      tree.walk mostLinks (startOf tree.origin path) path.segments.dropLast =
        .ok ⟨found.directory, found.linksLeft⟩ ∧
      tree.isDirectory found.directory = true := by
  rw [approachPath, bind_eq_ok_iff] at approached
  obtain ⟨⟨⟩, admissible, approached⟩ := approached
  obtain ⟨-, rfl⟩ | ⟨last, arrival, isLast, walked, directory, rfl⟩ :=
    of_approach approached
  · cases named
  · obtain ⟨rfl, notHere, notUp⟩ := eq_of_ofSegment_eq_name named
    exact ⟨admissible, isLast, notHere, notUp, walked, directory⟩

/-- The path of a new file led nowhere. -/
theorem resolve_ne_ok_of_createFile
    {bits : FileMode}
    (created : tree.createFile path bits = .ok (node, after))
    (location : Location) :
    tree.resolve path ≠ .ok location := by
  obtain ⟨found, name, approached, named, unslashed, -, missing, -⟩ :=
    made_of_createFile created
  obtain ⟨-, isLast, notHere, notUp, walked, -⟩ :=
    of_approachPath_name approached named
  have isSteps : path.steps = path.segments.dropLast ++ [name] := by
    rw [steps, unslashed, if_neg Bool.false_ne_true, List.append_nil,
      List.dropLast_append_getLast? name isLast]
  intro resolved
  rw [resolve, bind_eq_ok_iff] at resolved
  obtain ⟨-, -, resolved⟩ := resolved
  rw [bind_eq_ok_iff, isSteps] at resolved
  obtain ⟨reached, arrives, -⟩ := resolved
  exact walk_append_ne_ok walked notHere notUp missing arrives

/-! ## Making a name -/

/-- What is made at the end of a path is what the path leads to. -/
theorem leads_add
    (plain : tree.IsPlain)
    (areNames : ∀ name ∈ names ++ [last], IsName name)
    (admissible : (ofSegments (names ++ [last])).admissible = .ok ())
    (descends : tree.Descends [] names)
    (directory : tree.isDirectory names.reverse = true)
    (short : last.length ≤ longestSegment)
    (unnamed : tree.find? (last :: names.reverse) = none)
    {added : Node}
    (notLink : ∀ target, added ≠ .link target) :
    (tree.add (last :: names.reverse) added).2.Leads
      (ofSegments (names ++ [last])) tree.nodes.length := by
  have grows := grows_add tree (last :: names.reverse) notLink
  have found := find?_add_self added unnamed
  have plainAfter := grows.isPlain plain
  refine (leads_iff plainAfter areNames).mpr ⟨admissible, ?_, ?_⟩
  · rw [descends_append_singleton, List.append_nil]
    exact ⟨grows.descends descends, grows.isDirectory directory, short,
      plainAfter.isSome_node? found⟩
  · rw [List.reverse_concat']
    exact found

/-- A new file is empty. -/
theorem contents?_add
    (tree : Tree)
    (location : Location)
    (mode : FileMode) :
    (tree.add location (.file mode [])).2.contents? tree.nodes.length =
      some [] := by
  rw [contents?, getElem?_add_self]

/-- What is created is an empty file that its path leads to. -/
theorem of_createFile
    {bits : FileMode}
    (plain : tree.IsPlain)
    (isNormal : path.IsNormal)
    (created : tree.createFile path bits = .ok (node, after)) :
    Grows tree after ∧ after.Leads path node ∧
    after.contents? node = some [] := by
  obtain ⟨names, areNames, rfl⟩ := isNormal
  obtain ⟨found, name, approached, named, -, short, missing, mode, made⟩ :=
    made_of_createFile created
  obtain rfl | ⟨before, last, rfl⟩ := List.eq_nil_or_concat names
  · rw [approachPath, bind_eq_ok_iff] at approached
    obtain ⟨-, -, atRoot⟩ := approached
    cases atRoot
    cases named
  · rw [List.concat_eq_append] at areNames approached ⊢
    obtain ⟨admissible, descends, directory, rfl⟩ :=
      (approachPath_eq_ok_iff plain areNames).mp approached
    cases named
    cases made
    refine ⟨grows_add tree _ (Node.file_ne_link _ _), ?_,
      contents?_add tree _ _⟩
    exact leads_add plain areNames admissible descends directory short
      (plain.find?_eq_none missing) (Node.file_ne_link _ _)

/-! ## Opening -/

theorem find?_of_numberAt
    (found : tree.numberAt location = .ok number) :
    tree.find? location = some number := by
  unfold numberAt at found
  split at found
  · next other located =>
    cases found
    exact located
  · exact absurd found refuse_ne_ok

/-- What can be written is a file. -/
theorem of_writableAt
    (plain : tree.IsPlain)
    (found : tree.writableAt location = .ok number) :
    tree.find? location = some number ∧
    ∃ contents, tree.contents? number = some contents := by
  unfold writableAt at found
  split at found
  · exact absurd found refuse_ne_ok
  · next notDirectory =>
    have named := find?_of_numberAt found
    obtain ⟨node, numbered, notLink⟩ := plain.names location number named
    refine ⟨named, ?_⟩
    cases node with
    | file mode contents => exact ⟨contents, by rw [contents?, numbered]⟩
    | link target => exact absurd rfl (notLink target)
    | directory mode =>
        have found := node?_eq_some_iff.mpr ⟨number, named, numbered⟩
        exact absurd (isDirectory_iff.mpr ⟨_, found, rfl⟩) notDirectory

theorem of_site
    (plain : tree.IsPlain)
    (areNames : ∀ name ∈ names ++ [last], IsName name)
    {links : Nat}
    {start : Location}
    (found : tree.site links start (ofSegments (names ++ [last])) =
      .ok location) :
    tree.Descends [] names ∧ tree.isDirectory names.reverse = true ∧
      last.length ≤ longestSegment ∧ location = last :: names.reverse := by
  have ends : ∀ {approach},
      tree.approach links start (ofSegments (names ++ [last])) =
      .ok approach → tree.Descends [] names ∧
      tree.isDirectory names.reverse = true ∧
        approach = ⟨names.reverse, .name last, links⟩ :=
    (approach_eq_ok_iff plain areNames).mp
  rw [site] at found
  split at found
  · cases found
  · next approached => cases (ends approached).2.2
  · next approached => cases (ends approached).2.2
  · next approached => cases (ends approached).2.2
  · next approached =>
    obtain ⟨descends, directory, same⟩ := ends approached
    cases same
    split at found
    · exact absurd found refuse_ne_ok
    · split at found
      · cases found
      · next target looked =>
        obtain ⟨-, linked⟩ := lookUnder_eq_ok_iff.mp looked
        exact absurd linked (plain.node?_ne_link _ target)
      · next occupant _ looked =>
        obtain ⟨short, -⟩ := lookUnder_eq_ok_iff.mp looked
        cases found
        exact ⟨descends, directory, short, rfl⟩

/-- A node that is opened is what the path leads to; it is a file if it was
opened to be written. -/
theorem of_openNode
    (plain : tree.IsPlain)
    (isNormal : path.IsNormal)
    (opened : tree.openNode path mode = .ok (node, after)) :
    Grows tree after ∧ after.Leads path node ∧
      (mode.writes = true →
        ∃ contents, after.contents? node = some contents) := by
  cases mode with
  | read =>
      simp only [openNode, bind_eq_ok_iff] at opened
      obtain ⟨location, resolved, found, numbered, given⟩ := opened
      cases given
      exact ⟨.done tree, ⟨location, resolved, find?_of_numberAt numbered⟩,
        fun writes => by cases writes⟩
  | write | append =>
      simp only [openNode, bind_eq_ok_iff] at opened
      obtain ⟨location, resolved, found, numbered, given⟩ := opened
      cases given
      obtain ⟨named, isFile⟩ := of_writableAt plain numbered
      exact ⟨.done tree, ⟨location, resolved, named⟩, fun _ => isFile⟩
  | createNew =>
      obtain ⟨grows, leads, isEmpty⟩ := of_createFile plain isNormal opened
      exact ⟨grows, leads, fun _ => ⟨[], isEmpty⟩⟩
  | create =>
      obtain ⟨names, areNames, rfl⟩ := isNormal
      simp only [openNode, bind_eq_ok_iff] at opened
      obtain ⟨⟨⟩, admissible, location, sited, given⟩ := opened
      obtain rfl | ⟨before, last, rfl⟩ := List.eq_nil_or_concat names
      · -- The root is a directory, which is not opened to be written.
        have atRoot : location = [] := by
          rw [site] at sited
          cases sited
          rfl
        subst atRoot
        split at given
        · rw [bind_eq_ok_iff] at given
          obtain ⟨found, numbered, -⟩ := given
          rw [writableAt, if_pos plain.root] at numbered
          exact absurd numbered refuse_ne_ok
        · next unnamed =>
          obtain ⟨node, isRoot, -⟩ := isDirectory_iff.mp plain.root
          obtain ⟨number, named, -⟩ := node?_eq_some_iff.mp isRoot
          cases unnamed.symm.trans named
      · rw [List.concat_eq_append] at areNames admissible sited ⊢
        obtain ⟨descends, directory, short, rfl⟩ := of_site plain areNames sited
        split at given
        · rw [bind_eq_ok_iff] at given
          obtain ⟨found, numbered, given⟩ := given
          cases given
          obtain ⟨named, isFile⟩ := of_writableAt plain numbered
          refine ⟨.done tree,
            (leads_iff plain areNames).mpr ⟨admissible, ?_, ?_⟩,
            fun _ => isFile⟩
          · rw [descends_append_singleton, List.append_nil]
            exact ⟨descends, directory, short, plain.isSome_node? named⟩
          · rw [List.reverse_concat']
            exact named
        · next unnamed =>
          cases given
          refine ⟨grows_add tree _ (Node.file_ne_link _ _), ?_,
            fun _ => ⟨[], contents?_add tree _ _⟩⟩
          exact leads_add plain areNames admissible descends
            directory short unnamed (Node.file_ne_link _ _)

/-! ## Removing -/

theorem IsPlain.erase
    (plain : tree.IsPlain)
    (inner : gone ≠ []) :
    (tree.erase gone).IsPlain := by
  refine ⟨?_, fun location number named => ?_⟩
  · rw [isDirectory_erase_of_ne (Ne.symm inner)]
    exact plain.root
  · by_cases same : location = gone
    · rw [same, find?_erase_self] at named
      cases named
    · rw [find?_erase_of_ne tree same] at named
      exact plain.names location number named

theorem of_removeFile
    (plain : tree.IsPlain)
    (areNames : ∀ name ∈ names ++ [last], IsName name)
    (removed : tree.removeFile (ofSegments (names ++ [last])) = .ok after) :
    after = tree.erase (last :: names.reverse) := by
  rw [removeFile, bind_eq_ok_iff] at removed
  obtain ⟨found, approached, removed⟩ := removed
  obtain ⟨-, -, -, rfl⟩ := (approachPath_eq_ok_iff plain areNames).mp approached
  simp only [bind_eq_ok_iff] at removed
  obtain ⟨occupant, -, removed⟩ := removed
  split at removed
  · exact absurd removed refuse_ne_ok
  · exact absurd removed refuse_ne_ok
  · split at removed
    · exact absurd removed refuse_bind_ne_ok
    · cases removed
      rfl

theorem of_removeDirectory
    (plain : tree.IsPlain)
    (areNames : ∀ name ∈ names ++ [last], IsName name)
    (removed : tree.removeDirectory (ofSegments (names ++ [last])) =
      .ok after) :
    tree.isBarren (last :: names.reverse) = true ∧
      after = tree.erase (last :: names.reverse) := by
  rw [removeDirectory, bind_eq_ok_iff] at removed
  obtain ⟨found, approached, removed⟩ := removed
  obtain ⟨-, -, -, rfl⟩ := (approachPath_eq_ok_iff plain areNames).mp approached
  simp only [bind_eq_ok_iff] at removed
  obtain ⟨occupant, -, removed⟩ := removed
  split at removed
  · exact absurd removed refuse_ne_ok
  · split at removed
    · next barren =>
      cases removed
      exact ⟨barren, rfl⟩
    · exact absurd removed refuse_ne_ok
  · exact absurd removed refuse_ne_ok

/-- The root is not removed. -/
theorem remove_root_ne_ok
    (tree : Tree) :
    tree.remove (ofSegments []) ≠ .ok after := by
  have refused : ∀ found, tree.approachPath (ofSegments []) = .ok found →
      found.last = .root := by
    intro found approached
    rw [approachPath, bind_eq_ok_iff] at approached
    obtain ⟨-, -, atRoot⟩ := approached
    cases atRoot
    rfl
  intro removed
  unfold remove at removed
  rw [bind_eq_ok_iff] at removed
  obtain ⟨location, -, removed⟩ := removed
  split at removed
  · rw [removeDirectory, bind_eq_ok_iff] at removed
    obtain ⟨found, approached, removed⟩ := removed
    rw [refused found approached] at removed
    exact absurd removed refuse_ne_ok
  · rw [removeFile, bind_eq_ok_iff] at removed
    obtain ⟨found, approached, removed⟩ := removed
    rw [refused found approached] at removed
    exact absurd removed refuse_ne_ok

/-- A removal takes the name away that the path spells. -/
theorem of_remove
    (plain : tree.IsPlain)
    (areNames : ∀ name ∈ names, IsName name)
    (removed : tree.remove (ofSegments names) = .ok after) :
    names ≠ [] ∧ tree.IsRemovable names.reverse ∧
    after = tree.erase names.reverse := by
  obtain rfl | ⟨before, last, rfl⟩ := List.eq_nil_or_concat names
  · exact absurd removed (remove_root_ne_ok tree)
  · rw [List.concat_eq_append] at areNames removed ⊢
    have unslashed : (ofSegments (before ++ [last])).endsInSlash = false := by
      rw [endsInSlash_ofSegments areNames]
      simp
    rw [remove, bind_eq_ok_iff] at removed
    obtain ⟨location, located, removed⟩ := removed
    rw [locate, unslashed, if_neg Bool.false_ne_true, bind_eq_ok_iff] at located
    obtain ⟨found, approached, located⟩ := located
    obtain ⟨-, -, -, rfl⟩ :=
      (approachPath_eq_ok_iff plain areNames).mp approached
    simp only [bind_eq_ok_iff] at located
    obtain ⟨occupant, -, located⟩ := located
    have isLocation : location = last :: before.reverse := by
      split at located
      · exact absurd located refuse_ne_ok
      · cases located
        rfl
    subst isLocation
    rw [List.reverse_concat']
    refine ⟨by simp, ?_⟩
    split at removed
    · obtain ⟨barren, rfl⟩ := of_removeDirectory plain areNames removed
      exact ⟨fun _ => barren, rfl⟩
    · next notDirectory =>
      exact ⟨fun directory => absurd directory notDirectory,
        of_removeFile plain areNames removed⟩

/-- Another normal path goes on to lead to its node. -/
theorem leads_of_remove
    (plain : tree.IsPlain)
    (isNormal : path.IsNormal)
    (otherNormal : other.IsNormal)
    (different : other ≠ path)
    (removed : tree.remove path = .ok after)
    (leads : tree.Leads other number) :
    after.Leads other number := by
  obtain ⟨names, areNames, rfl⟩ := isNormal
  obtain ⟨otherNames, areOtherNames, rfl⟩ := otherNormal
  obtain ⟨inner, removable, rfl⟩ := of_remove plain areNames removed
  obtain ⟨admissible, descends, found⟩ :=
    (leads_iff plain areOtherNames).mp leads
  have apart : otherNames.reverse ≠ names.reverse := by
    intro same
    exact different (congrArg ofSegments (List.reverse_injective same))
  have plainAfter := plain.erase (List.reverse_ne_nil_iff.mpr inner)
  refine (leads_iff plainAfter areOtherNames).mpr ⟨admissible, ?_, ?_⟩
  · exact descends.erase removable (by rwa [List.append_nil])
  · rwa [find?_erase_of_ne tree apart]

/-! ## The calls of a store -/

/-- A handle that is opened on a normal path is on the node
that the path leads to. -/
theorem of_openFile
    {handle : FileHandle}
    (plain : tree.IsPlain)
    (isNormal : path.IsNormal)
    (opened : FileStore.openFile path mode tree = (.ok handle, after)) :
    Grows tree after ∧ ∃ descriptor, handle.descriptor = some descriptor ∧
      after.Leads path descriptor.node ∧
      (mode.writes = true →
        ∃ contents, after.contents? descriptor.node = some contents) := by
  obtain ⟨node, found, rfl⟩ := openFile_eq_ok_iff.mp opened
  obtain ⟨grows, leads, isFile⟩ := of_openNode plain isNormal found
  exact ⟨grows, _, rfl, leads, isFile⟩

theorem grows_createFile
    (plain : tree.IsPlain)
    (isNormal : path.IsNormal)
    (permissions : Permissions) :
    Grows tree (FileStore.createFile path permissions tree).2 := by
  refine grows_attempt fun after created => ?_
  obtain ⟨⟨node, grown⟩, made, rfl⟩ := map_eq_ok_iff.mp created
  exact (of_createFile plain isNormal made).1

theorem IsPlain.delete
    (plain : tree.IsPlain)
    (isNormal : path.IsNormal) :
    (FileStore.delete path tree).2.IsPlain := by
  obtain ⟨names, areNames, rfl⟩ := isNormal
  change (tree.attempt () (tree.remove (ofSegments names))).2.IsPlain
  cases removed : tree.remove (ofSegments names) with
  | error error => exact plain
  | ok after =>
      obtain ⟨inner, -, rfl⟩ := of_remove plain areNames removed
      exact plain.erase (List.reverse_ne_nil_iff.mpr inner)

theorem leads_delete
    (plain : tree.IsPlain)
    (isNormal : path.IsNormal)
    (otherNormal : other.IsNormal)
    (different : other ≠ path)
    (leads : tree.Leads other number) :
    (FileStore.delete path tree).2.Leads other number := by
  change (tree.attempt () (tree.remove path)).2.Leads other number
  cases removed : tree.remove path with
  | error error => exact leads
  | ok after =>
      exact leads_of_remove plain isNormal otherNormal different removed leads

/-- A removal leaves all contents. -/
theorem contents?_delete
    (tree : Tree)
    (path : Path)
    (number : NodeId) :
    (FileStore.delete path tree).2.contents? number =
      tree.contents? number := by
  change (tree.attempt () (tree.remove path)).2.contents? number = _
  cases removed : tree.remove path with
  | error error => rfl
  | ok after =>
      obtain ⟨location, rfl⟩ := eq_erase_of_remove removed
      rfl

/-- Opening the path of a node once more gives a handle on that node. -/
theorem openFile_read_of_leads
    (leads : tree.Leads path number) :
    FileStore.openFile path .read tree =
      (.ok { path := path, mode := .read, descriptor :=
          some { node := number } }, tree) := by
  obtain ⟨location, resolved, found⟩ := leads
  have opened : tree.openNode path .read = .ok (number, tree) := by
    rw [openNode, resolved]
    change (tree.numberAt location >>= fun found => pure (found, tree)) = _
    rw [numberAt, found]
    rfl
  exact openFile_eq_ok_iff.mpr ⟨number, opened, rfl⟩

theorem openFile_write_of_leads
    (leads : tree.Leads path number)
    {contents : List UInt8}
    (isFile : tree.contents? number = some contents) :
    FileStore.openFile path .write tree =
      (.ok { path := path, mode := .write, descriptor :=
          some { node := number } }, tree) := by
  obtain ⟨location, resolved, found⟩ := leads
  have notDirectory : ¬tree.isDirectory location = true := by
    intro directory
    obtain ⟨node, isNode, isDirectory⟩ := isDirectory_iff.mp directory
    obtain ⟨other, named, numbered⟩ := node?_eq_some_iff.mp isNode
    cases found.symm.trans named
    cases node with
    | directory mode =>
        rw [contents?, numbered] at isFile
        cases isFile
    | file | link => cases isDirectory
  have opened : tree.openNode path .write = .ok (number, tree) := by
    rw [openNode, resolved]
    change (tree.writableAt location >>= fun found => pure (found, tree)) = _
    rw [writableAt, if_neg notDirectory, numberAt, found]
    rfl
  exact openFile_eq_ok_iff.mpr ⟨number, opened, rfl⟩

end Tree
end HandlePool
