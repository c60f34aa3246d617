import HandlePool.Proofs.Path
import HandlePool.Proofs.Tree.Growth

/-!
# Walking down a tree without links

In a tree without links a walk along names goes down from directory to
directory, so a normal path leads to the location that it spells.  It goes on to
lead there while the tree grows and while other locations lose their names.
Opening such a path gives the node that it leads to afterwards.
-/

namespace HandlePool
namespace Tree

open HandlePool.Path

/-- From the location the names lead down, through
directories, to something named. -/
def Descends (tree : Tree) (location : Location) : List Segment → Prop
  | [] => True
  | name :: names =>
      tree.isDirectory location = true ∧ name.length ≤ longestSegment ∧
        (tree.node? (name :: location)).isSome = true ∧
        tree.Descends (name :: location) names

/-- The path leads to the node. -/
def Leads (tree : Tree) (path : Path) (number : NodeId) : Prop :=
  ∃ location, tree.resolve path = .ok location ∧
    tree.find? location = some number

variable
  {tree after : Tree}
  {location gone : Location}
  {names : List Segment}
  {last : Segment}
  {path : Path}
  {number node : NodeId}

theorem IsPlain.node?_ne_link
    (plain : tree.IsPlain)
    (location : Location)
    (target : Path) :
    tree.node? location ≠ some (.link target) := by
  intro linked
  obtain ⟨number, named, numbered⟩ := node?_eq_some_iff.mp linked
  obtain ⟨node, found, notLink⟩ := plain.names location number named
  cases numbered.symm.trans found
  exact notLink target rfl

theorem descends_append_singleton :
    tree.Descends location (names ++ [last]) ↔
      tree.Descends location names ∧
      tree.isDirectory (names.reverse ++ location) = true ∧
        last.length ≤ longestSegment ∧
        (tree.node? (last :: (names.reverse ++ location))).isSome = true := by
  induction names generalizing location with
  | nil => simp [Descends]
  | cons name names inductionHypothesis =>
      simp only [List.cons_append, Descends, inductionHypothesis,
        List.reverse_cons, List.append_assoc, List.nil_append, and_assoc]

/-! ## Walks -/

theorem walkToLink_eq_ok_iff
    (plain : tree.IsPlain)
    (areNames : ∀ name ∈ names, IsName name)
    {halt : Halt} :
    tree.walkToLink location names = .ok halt ↔
      tree.Descends location names ∧
      halt = .arrived (names.reverse ++ location) := by
  induction names generalizing location with
  | nil => simp [walkToLink, Descends, eq_comm]
  | cons name names inductionHypothesis =>
      have isName := areNames name List.mem_cons_self
      have later := @inductionHypothesis (name :: location) fun other present =>
        areNames other (List.mem_cons_of_mem _ present)
      rw [walkToLink, enter_name isName.ne_here isName.ne_up, Descends]
      by_cases directory : tree.isDirectory location = true
      · by_cases long : name.length > longestSegment
        · simp [directory, long, Nat.not_le.mpr long, refuse]
        · cases found : tree.node? (name :: location) with
          | none => simp [directory, long, refuse]
          | some node =>
              cases node with
              | link target => exact absurd found (plain.node?_ne_link _ target)
              | file | directory =>
                  simp [directory, long, later, Nat.not_lt.mp long]
      · simp [directory, refuse]

theorem walk_eq_ok_iff
    (plain : tree.IsPlain)
    (areNames : ∀ name ∈ names, IsName name)
    {links : Nat}
    {arrival : Arrival} :
    tree.walk links location names = .ok arrival ↔
      tree.Descends location names ∧
      arrival = ⟨names.reverse ++ location, links⟩ := by
  have stops : ∀ {halt}, tree.walkToLink location names = .ok halt ↔
      tree.Descends location names ∧
      halt = .arrived (names.reverse ++ location) :=
    walkToLink_eq_ok_iff plain areNames
  constructor
  · intro walked
    unfold walk at walked
    split at walked
    · cases walked
    · next stop found =>
      obtain ⟨descends, same⟩ := stops.mp found
      cases same
      cases walked
      exact ⟨descends, rfl⟩
    · next found =>
      obtain ⟨-, same⟩ := stops.mp found
      cases same
  · rintro ⟨descends, rfl⟩
    unfold walk
    rw [stops.mpr ⟨descends, rfl⟩]

/-- A walk that enters the root once more stays there. -/
theorem walk_root
    (plain : tree.IsPlain)
    (links : Nat) :
    tree.walk links [] [here] = .ok ⟨[], links⟩ := by
  obtain ⟨node, found, isDirectory⟩ := isDirectory_iff.mp plain.root
  have stops : tree.walkToLink [] [here] = .ok (.arrived []) := by
    cases node with
    | directory mode =>
        simp [walkToLink, plain.root, found, here, enter, longestSegment]
    | file | link => cases isDirectory
  unfold walk
  rw [stops]

/-- An absolute path starts at the root. -/
theorem startOf_ofSegments
    (location : Location)
    (names : List Segment) :
    startOf location (ofSegments names) = [] :=
  if_pos (isAbsolute_ofSegments names)

theorem resolve_eq_ok_iff
    (plain : tree.IsPlain)
    (areNames : ∀ name ∈ names, IsName name) :
    tree.resolve (ofSegments names) = .ok location ↔
      (ofSegments names).admissible = .ok () ∧ tree.Descends [] names ∧
        location = names.reverse := by
  have walked : ∀ {arrival},
      tree.walk mostLinks [] (ofSegments names).steps = .ok arrival ↔
      tree.Descends [] names ∧ arrival = ⟨names.reverse, mostLinks⟩ := by
    intro arrival
    rw [steps, segments_ofSegments areNames, endsInSlash_ofSegments areNames]
    cases names with
    | nil =>
        rw [List.isEmpty_nil, if_pos rfl, List.nil_append, walk_root plain]
        simp [Descends, eq_comm]
    | cons name names =>
        rw [List.isEmpty_cons, if_neg Bool.false_ne_true, List.append_nil,
          walk_eq_ok_iff plain areNames, List.append_nil]
  rw [resolve, startOf_ofSegments, bind_eq_ok_iff]
  constructor
  · rintro ⟨⟨⟩, admissible, resolved⟩
    rw [bind_eq_ok_iff] at resolved
    obtain ⟨arrival, arrives, given⟩ := resolved
    obtain ⟨descends, rfl⟩ := walked.mp arrives
    cases given
    exact ⟨admissible, descends, rfl⟩
  · rintro ⟨admissible, descends, rfl⟩
    refine ⟨(), admissible, ?_⟩
    rw [walked.mpr ⟨descends, rfl⟩]
    rfl

theorem leads_iff
    (plain : tree.IsPlain)
    (areNames : ∀ name ∈ names, IsName name) :
    tree.Leads (ofSegments names) number ↔
      (ofSegments names).admissible = .ok () ∧ tree.Descends [] names ∧
        tree.find? names.reverse = some number := by
  simp only [Leads, resolve_eq_ok_iff plain areNames]
  constructor
  · rintro ⟨location, ⟨admissible, descends, rfl⟩, found⟩
    exact ⟨admissible, descends, found⟩
  · rintro ⟨admissible, descends, found⟩
    exact ⟨_, ⟨admissible, descends, rfl⟩, found⟩

/-! ## Names that stay -/

theorem Grows.descends
    (grows : Grows tree after)
    (descends : tree.Descends location names) :
    after.Descends location names := by
  induction names generalizing location with
  | nil => trivial
  | cons name names inductionHypothesis =>
      obtain ⟨directory, short, found, later⟩ := descends
      obtain ⟨node, isNode⟩ := Option.isSome_iff_exists.mp found
      obtain ⟨same, isSame, -⟩ := grows.node?_cases isNode
      refine ⟨grows.isDirectory directory, short, ?_, inductionHypothesis later⟩
      rw [isSame, Option.isSome_some]

/-- A normal path goes on to lead to its node while the tree grows. -/
theorem Grows.leads
    (grows : Grows tree after)
    (plain : tree.IsPlain)
    (isNormal : path.IsNormal)
    (leads : tree.Leads path number) :
    after.Leads path number := by
  obtain ⟨names, areNames, rfl⟩ := isNormal
  obtain ⟨admissible, descends, found⟩ := (leads_iff plain areNames).mp leads
  exact (leads_iff (grows.isPlain plain) areNames).mpr
    ⟨admissible, grows.descends descends, grows.find?_eq found⟩

/-- The location is no directory, or one with nothing in it. -/
def IsRemovable (tree : Tree) (location : Location) : Prop :=
  tree.isDirectory location = true → tree.isBarren location = true

/-- Nothing is named inside a directory that can be removed. -/
theorem IsRemovable.ne
    (removable : tree.IsRemovable gone)
    (directory : tree.isDirectory location = true)
    {name : Segment}
    (found : (tree.node? (name :: location)).isSome = true) :
    location ≠ gone := by
  rintro rfl
  have barren := removable directory
  obtain ⟨node, isNode⟩ := Option.isSome_iff_exists.mp found
  obtain ⟨number, named, -⟩ := node?_eq_some_iff.mp isNode
  obtain ⟨entry, isEntry, -⟩ := Option.map_eq_some_iff.mp named
  have isPlace : entry.1 = name :: location := by
    simpa using List.find?_some isEntry
  have outside :=
    List.all_eq_true.mp barren entry (List.mem_of_find?_eq_some isEntry)
  rw [isPlace] at outside
  simp at outside

theorem node?_erase_of_ne
    (different : location ≠ gone) :
    (tree.erase gone).node? location = tree.node? location := by
  rw [node?, find?_erase_of_ne tree different, nodes_erase]
  rfl

theorem isDirectory_erase_of_ne
    (different : location ≠ gone) :
    (tree.erase gone).isDirectory location = tree.isDirectory location := by
  rw [isDirectory, node?_erase_of_ne different]
  rfl

theorem Descends.erase
    (descends : tree.Descends location names)
    (removable : tree.IsRemovable gone)
    (different : names.reverse ++ location ≠ gone) :
    (tree.erase gone).Descends location names := by
  induction names generalizing location with
  | nil => trivial
  | cons name names inductionHypothesis =>
      obtain ⟨directory, short, found, later⟩ := descends
      have goesOn : names.reverse ++ name :: location ≠ gone := by
        simpa using different
      have inner : name :: location ≠ gone := by
        cases names with
        | nil => exact goesOn
        | cons next names => exact removable.ne later.1 later.2.2.1
      refine ⟨?_, short, ?_, inductionHypothesis later goesOn⟩
      · rwa [isDirectory_erase_of_ne (removable.ne directory found)]
      · rwa [node?_erase_of_ne inner]

/-! ## The last step -/

/-- A path is approached by a walk along all its segments but the last. -/
theorem of_approach
    {links : Nat}
    {found : Approach}
    (approached : tree.approach links location path = .ok found) :
    path.segments = [] ∧ found = ⟨[], .root, links⟩ ∨
      ∃ last arrival, path.segments.getLast? = some last ∧
        tree.walk links (startOf location path) path.segments.dropLast =
          .ok arrival ∧
        tree.isDirectory arrival.location = true ∧
        found = ⟨arrival.location, .ofSegment last, arrival.linksLeft⟩ := by
  unfold approach at approached
  split at approached
  · next isEmpty =>
    cases approached
    exact .inl ⟨List.getLast?_eq_none_iff.mp isEmpty, rfl⟩
  · next last isLast =>
    split at approached
    · cases approached
    · next arrival walked =>
      split at approached
      · next directory =>
        cases approached
        exact .inr ⟨last, arrival, isLast, walked, directory, rfl⟩
      · exact absurd approached refuse_ne_ok

theorem getLast?_segments
    (areNames : ∀ name ∈ names ++ [last], IsName name) :
    (ofSegments (names ++ [last])).segments.getLast? = some last ∧
      (ofSegments (names ++ [last])).segments.dropLast = names := by
  rw [segments_ofSegments areNames]
  simp

theorem approach_eq_ok_iff
    (plain : tree.IsPlain)
    (areNames : ∀ name ∈ names ++ [last], IsName name)
    {links : Nat}
    {found : Approach} :
    tree.approach links location (ofSegments (names ++ [last])) = .ok found ↔
      tree.Descends [] names ∧ tree.isDirectory names.reverse = true ∧
        found = ⟨names.reverse, .name last, links⟩ := by
  obtain ⟨isLast, before⟩ := getLast?_segments areNames
  have isName := areNames last (by simp)
  have areBefore : ∀ name ∈ names, IsName name := fun name present =>
    areNames name (List.mem_append_left _ present)
  have named : Component.ofSegment last = .name last := by
    rw [Component.ofSegment, if_neg isName.ne_here, if_neg isName.ne_up]
  have walks : ∀ {arrival}, tree.walk links [] names = .ok arrival ↔
      tree.Descends [] names ∧ arrival = ⟨names.reverse, links⟩ := by
    intro arrival
    rw [walk_eq_ok_iff plain areBefore, List.append_nil]
  have fromRoot := startOf_ofSegments location (names ++ [last])
  constructor
  · intro approached
    obtain ⟨isEmpty, -⟩ |
        ⟨segment, arrival, isSegment, walked, directory, rfl⟩ :=
      of_approach approached
    · rw [isEmpty] at isLast
      cases isLast
    · cases isLast.symm.trans isSegment
      rw [fromRoot, before] at walked
      obtain ⟨descends, rfl⟩ := walks.mp walked
      rw [named]
      exact ⟨descends, directory, rfl⟩
  · rintro ⟨descends, directory, rfl⟩
    rw [approach, isLast, fromRoot, before]
    simp only [named, walks.mpr ⟨descends, rfl⟩]
    exact if_pos directory

theorem approachPath_eq_ok_iff
    (plain : tree.IsPlain)
    (areNames : ∀ name ∈ names ++ [last], IsName name)
    {found : Approach} :
    tree.approachPath (ofSegments (names ++ [last])) = .ok found ↔
      (ofSegments (names ++ [last])).admissible = .ok () ∧
      tree.Descends [] names ∧
        tree.isDirectory names.reverse = true ∧
        found = ⟨names.reverse, .name last, mostLinks⟩ := by
  rw [approachPath, bind_eq_ok_iff]
  simp only [approach_eq_ok_iff plain areNames]
  constructor
  · rintro ⟨⟨⟩, admissible, approached⟩
    exact ⟨admissible, approached⟩
  · rintro ⟨admissible, approached⟩
    exact ⟨(), admissible, approached⟩

end Tree
end HandlePool
