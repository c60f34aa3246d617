import HandlePool.Proofs.Path.Resolution
import HandlePool.Proofs.Tree.Opening
import Mathlib.Data.List.Induction

/-!
# Walks with detours

A walk along segments goes where a walk along what they resolve to goes, as long
as every `..` comes back to the directory that it leads to in what is resolved.
Nothing may be missing before it, and no link may lead elsewhere.  Links that
are passed on the way do no harm, as long as they are not too many.  So a file
is found along any such spelling of its path, unless the spelling ends like that
of a directory.
-/

namespace HandlePool
namespace Tree

open HandlePool.Path

variable
  {tree after : Tree}
  {location : Location}
  {segments : List Segment}
  {segment name : Segment}
  {links : Nat}
  {arrival : Arrival}
  {path : Path}

/-! ## Walks in growing trees -/

theorem Grows.walkToLink
    (grows : Grows tree after)
    {halt : Halt}
    (walked : tree.walkToLink location segments = .ok halt) :
    after.walkToLink location segments = .ok halt := by
  induction segments generalizing location with
  | nil => exact walked
  | cons segment ahead inductionHypothesis =>
      rw [Tree.walkToLink] at walked ⊢
      split at walked
      · exact absurd walked refuse_ne_ok
      · next directory =>
        have stillDirectory := grows.isDirectory (by simpa using directory)
        split at walked
        · exact absurd walked refuse_ne_ok
        · next short =>
          rw [if_neg (by simp [stillDirectory]), if_neg short]
          split at walked
          · exact absurd walked refuse_ne_ok
          · next target found =>
            obtain ⟨later, foundLater, same⟩ := grows.node?_cases found
            cases same
            rw [foundLater]
            exact walked
          · next node notLink found =>
            obtain ⟨later, foundLater, same⟩ := grows.node?_cases found
            rw [foundLater]
            cases same with
            | file | directory => exact inductionHypothesis walked
            | link target => exact absurd rfl (notLink target)

/-- A walk that arrives goes on to arrive there. -/
theorem Grows.walk
    (grows : Grows tree after)
    (walked : tree.walk links location segments = .ok arrival) :
    after.walk links location segments = .ok arrival := by
  induction links generalizing location segments with
  | zero =>
      unfold Tree.walk at walked ⊢
      split at walked
      · cases walked
      · next found =>
        rw [grows.walkToLink found]
        exact walked
      · exact absurd walked refuse_ne_ok
  | succ links inductionHypothesis =>
      unfold Tree.walk at walked ⊢
      split at walked
      · cases walked
      · next found =>
        rw [grows.walkToLink found]
        exact walked
      · next found =>
        rw [grows.walkToLink found]
        exact inductionHypothesis walked

/-! ## Parts of walks -/

/-- A walk that arrives has come by every place on its way. -/
theorem walk_append_eq_ok_iff
    {before ahead : List Segment} :
    tree.walk links location (before ++ ahead) = .ok arrival ↔
      ∃ earlier, tree.walk links location before = .ok earlier ∧
        tree.walk earlier.linksLeft earlier.location ahead = .ok arrival := by
  rw [walk_append_eq_bind, bind_eq_ok_iff]

/-- Only directories are gone on from. -/
theorem isDirectory_of_walk_cons
    {ahead : List Segment}
    (walked : tree.walk links location (segment :: ahead) = .ok arrival) :
    tree.isDirectory location = true := by
  by_contra notDirectory
  have refused : tree.walkToLink location (segment :: ahead) =
      refuse Errno.notDirectory := by
    rw [walkToLink, if_pos (by simpa using notDirectory)]
  unfold walk at walked
  rw [refused] at walked
  cases walked

/-- One step, where there is no link. -/
theorem walk_singleton
    (directory : tree.isDirectory location = true)
    (short : segment.length ≤ longestSegment)
    {node : Node}
    (found : tree.node? (enter location segment) = some node)
    (notLink : ∀ target, node ≠ .link target)
    (links : Nat) :
    tree.walk links location [segment] =
      .ok ⟨enter location segment, links⟩ := by
  have stops : tree.walkToLink location [segment] =
      .ok (.arrived (enter location segment)) := by
    rw [walkToLink, if_neg (by simp [directory]),
      if_neg (Nat.not_lt.mpr short), found]
    cases node with
    | file | directory => rfl
    | link target => exact absurd rfl (notLink target)
  unfold walk
  rw [stops]

/-- One step to a directory. -/
theorem walk_singleton_of_isDirectory
    (directory : tree.isDirectory location = true)
    (short : segment.length ≤ longestSegment)
    (entered : tree.isDirectory (enter location segment) = true)
    (links : Nat) :
    tree.walk links location [segment] =
      .ok ⟨enter location segment, links⟩ := by
  obtain ⟨node, found, isDirectory⟩ := isDirectory_iff.mp entered
  refine walk_singleton directory short found (fun target isLink => ?_) links
  rw [isLink] at isDirectory
  cases isDirectory

/-! ## Too many links -/

/-- The walk arrives at the goal, unless it meets too many links. -/
def WalksTo (tree : Tree) (links : Nat) (location : Location)
    (segments : List Segment) (goal : Location) : Prop :=
  (∃ left, tree.walk links location segments = .ok ⟨goal, left⟩) ∨
    tree.walk links location segments = refuse Errno.tooManyLinks

/-- How many links may be met does not change where a walk arrives. -/
theorem walksTo_of_walk
    (walked : tree.walk links location segments = .ok arrival)
    (others : Nat) :
    tree.WalksTo others location segments arrival.location := by
  induction links generalizing location segments others with
  | zero =>
      unfold walk at walked
      unfold WalksTo walk
      split at walked
      · cases walked
      · cases walked
        exact .inl ⟨others, rfl⟩
      · exact absurd walked refuse_ne_ok
  | succ links inductionHypothesis =>
      unfold walk at walked
      unfold WalksTo walk
      split at walked
      · cases walked
      · cases walked
        exact .inl ⟨others, rfl⟩
      · cases others with
        | zero => exact .inr rfl
        | succ others => exact inductionHypothesis walked others

theorem WalksTo.append
    {middle goal : Location}
    {before ahead : List Segment}
    (first : tree.WalksTo links location before middle)
    (later : ∀ left, tree.WalksTo left middle ahead goal) :
    tree.WalksTo links location (before ++ ahead) goal := by
  obtain ⟨left, walked⟩ | tooMany := first
  · rw [WalksTo, walk_append walked]
    exact later left
  · exact .inr (walk_append_of_error tooMany ahead)

/-! ## Walks along what segments resolve to -/

/-- A `..` behind the segments leads to the directory that it leads to behind
what they resolve to. -/
def ComesBack (tree : Tree) (front : List Segment) : Prop :=
  ∃ goal left other, tree.walk mostLinks [] (front ++ [up]) = .ok ⟨goal, left⟩ ∧
    tree.walk mostLinks [] (Path.resolve (front ++ [up])) = .ok ⟨goal, other⟩ ∧
    tree.isDirectory goal = true

/-- Every `..` among the segments comes back. -/
def Retraces (tree : Tree) (segments : List Segment) : Prop :=
  ∀ front back, segments = front ++ up :: back → tree.ComesBack front

theorem resolve_concat_here
    (front : List Segment) :
    Path.resolve (front ++ [here]) = Path.resolve front := by
  simp [Path.resolve]

theorem resolve_concat_name
    (isName : IsName name)
    (front : List Segment) :
    Path.resolve (front ++ [name]) = Path.resolve front ++ [name] := by
  simp [Path.resolve, isName.enter_eq]

theorem retraces_nil
    (tree : Tree) :
    tree.Retraces [] := by
  intro front back cut
  simp at cut

theorem retraces_concat_iff
    {front : List Segment} :
    tree.Retraces (front ++ [segment]) ↔
      tree.Retraces front ∧ (segment = up → tree.ComesBack front) := by
  constructor
  · intro retraces
    refine ⟨?_, ?_⟩
    · rintro before back rfl
      exact retraces before (back ++ [segment]) (by simp)
    · rintro rfl
      exact retraces front [] rfl
  · rintro ⟨retraces, comesBack⟩ before back cut
    obtain rfl | ⟨back, last, rfl⟩ := List.eq_nil_or_concat back
    · obtain ⟨rfl, isUp⟩ := List.append_inj' cut rfl
      exact comesBack (List.singleton_inj.mp isUp)
    · rw [List.concat_eq_append, ← List.cons_append, ← List.append_assoc] at cut
      obtain ⟨rfl, -⟩ := List.append_inj' cut rfl
      exact retraces before back rfl

/-- A walk whose every `..` comes back ends where the resolved walk does, unless
it meets too many links. -/
theorem Retraces.walksTo
    (retraces : tree.Retraces segments)
    (fit : ∀ segment ∈ segments, segment ≠ [] ∧ slash ∉ segment)
    (walked : tree.walk mostLinks [] (Path.resolve segments) = .ok arrival)
    (directory : tree.isDirectory arrival.location = true) :
    tree.WalksTo mostLinks [] segments arrival.location := by
  induction segments using List.reverseRecOn generalizing arrival with
  | nil =>
      cases walked
      exact .inl ⟨mostLinks, rfl⟩
  | append_singleton front segment inductionHypothesis =>
      obtain ⟨retracesFront, comesBack⟩ := retraces_concat_iff.mp retraces
      obtain ⟨fitFront, fits⟩ := List.forall_mem_append.mp fit
      obtain rfl | rfl | isName :=
        segment_cases (fits segment (List.mem_singleton_self segment))
      · rw [resolve_concat_here] at walked
        refine (inductionHypothesis retracesFront fitFront walked
          directory).append fun left => ?_
        have short : here.length ≤ longestSegment := by decide
        have stays :=
          walk_singleton_of_isDirectory directory short
            (by rwa [enter_here]) left
        rw [enter_here] at stays
        exact .inl ⟨left, stays⟩
      · obtain ⟨goal, left, other, back, resolved, -⟩ := comesBack rfl
        cases walked.symm.trans resolved
        exact .inl ⟨left, back⟩
      · rw [resolve_concat_name isName] at walked
        obtain ⟨earlier, walkedFront, walked⟩ := walk_append_eq_ok_iff.mp walked
        have directoryFront := isDirectory_of_walk_cons walked
        exact (inductionHypothesis retracesFront fitFront walkedFront
          directoryFront).append (walksTo_of_walk walked)

/-! ## Relative paths -/

/-- The path of the place where relative paths start leads
there, and meets no link. -/
def ReachesOrigin (tree : Tree) : Prop :=
  tree.walk mostLinks [] (Path.segments tree.workingDirectory) =
    .ok ⟨tree.origin, mostLinks⟩

/-- A path is walked along as it is from the root, if it is
written from there. -/
theorem walk_startOf
    (starts : path.isAbsolute = true ∨ tree.ReachesOrigin)
    (segments : List Segment) :
    tree.walk mostLinks (startOf tree.origin path) segments =
      tree.walk mostLinks []
        ((if path.isAbsolute then []
          else Path.segments tree.workingDirectory) ++ segments) := by
  by_cases absolute : path.isAbsolute = true
  · rw [startOf, if_pos absolute, if_pos absolute, List.nil_append]
  · rw [startOf, if_neg absolute, if_neg absolute]
    exact (walk_append (starts.resolve_left absolute) segments).symm

/-- What does not end in a slash has a piece with something in it. -/
theorem exists_mem_cut
    {bytes : List UInt8}
    (nonempty : bytes ≠ [])
    (unslashed : bytes.getLast? ≠ some slash) :
    ∃ piece ∈ cut bytes, piece ≠ [] := by
  induction bytes with
  | nil => exact absurd rfl nonempty
  | cons byte later inductionHypothesis =>
      by_cases split : byte = slash
      · subst split
        have inner : later ≠ [] := by
          rintro rfl
          exact unslashed rfl
        rw [List.getLast?_cons_of_ne_nil inner] at unslashed
        obtain ⟨piece, present, filled⟩ := inductionHypothesis inner unslashed
        rw [cut_cons_slash]
        exact ⟨piece, List.mem_cons_of_mem _ present, filled⟩
      · obtain ⟨first, others, pieces⟩ :=
          List.exists_cons_of_ne_nil (cut_ne_nil later)
        rw [cut, if_neg split, pieces]
        exact ⟨byte :: first, List.mem_cons_self, List.cons_ne_nil _ _⟩

theorem steps_ne_nil
    (nonempty : path.bytes ≠ []) :
    path.steps ≠ [] := by
  unfold steps
  split
  · simp
  · next unslashed =>
    obtain ⟨piece, present, filled⟩ :=
      exists_mem_cut nonempty (by simpa [endsInSlash] using unslashed)
    rw [List.append_nil]
    exact List.ne_nil_of_mem
      (List.mem_filter.mpr ⟨present, by simpa using filled⟩)

theorem steps_fromRoot
    (nonempty : path.bytes ≠ [])
    (base : Path) :
    (fromRoot base path).steps =
      (if path.isAbsolute then [] else base.segments) ++ path.steps := by
  have sameEnd : (fromRoot base path).endsInSlash = path.endsInSlash := by
    unfold fromRoot
    split
    · rfl
    · rw [endsInSlash, endsInSlash,
        List.getLast?_append_of_ne_nil _ (List.cons_ne_nil _ _),
        List.getLast?_cons_of_ne_nil nonempty]
  rw [steps, steps, segments_fromRoot, sameEnd, List.append_assoc]

/-! ## Spellings of the path of a file -/

/-- The names above lead to a directory, and the name there is
that of an empty file. -/
structure LeadsToFile (tree : Tree) (above : List Segment) (name : Segment)
    (arrival : Arrival) : Prop where
  walked : tree.walk mostLinks [] above = .ok arrival
  directory : tree.isDirectory arrival.location = true
  isName : IsName name
  short : name.length ≤ longestSegment
  isFile : ∃ mode, tree.node? (name :: arrival.location) = some (.file mode [])

/-- The path names an empty file, for all calls that look. -/
structure NamesEmptyFile (tree : Tree) (path : Path) : Prop where
  pathExists : FileStore.pathExists tree path = true
  isRegularFile : FileStore.isRegularFile tree path = true
  fileSize : FileStore.fileSize tree path = .ok 0

theorem fits_of_mem_steps
    (present : segment ∈ path.steps) :
    segment ≠ [] ∧ slash ∉ segment := by
  rw [steps, List.mem_append] at present
  obtain within | again := present
  · exact ne_nil_of_mem_segments within
  · split at again
    · rw [List.mem_singleton.mp again]
      decide
    · cases again

/-- What ends in a name does not end in a slash. -/
theorem segments_eq_of_steps
    {front : List Segment}
    (notHere : segment ≠ here)
    (spelled : path.steps = front ++ [segment]) :
    path.endsInSlash = false ∧ path.segments = front ++ [segment] := by
  cases slashed : path.endsInSlash with
  | true =>
      rw [steps, slashed, if_pos rfl] at spelled
      exact absurd
        (List.singleton_inj.mp (List.append_inj' spelled rfl).2).symm notHere
  | false =>
      rw [steps, slashed, if_neg Bool.false_ne_true, List.append_nil] at spelled
      exact ⟨rfl, spelled⟩

theorem resolve_eq_walk
    (admissible : path.admissible = .ok ()) :
    tree.resolve path =
      (tree.walk mostLinks (startOf tree.origin path) path.steps).map
        Arrival.location := by
  rw [resolve, admissible]
  change (tree.walk mostLinks _ path.steps >>= fun arrival =>
      pure arrival.location) = _
  cases tree.walk mostLinks (startOf tree.origin path) path.steps <;> rfl

/-- What is there was found by a walk. -/
theorem walk_of_holds
    (found : FileStore.pathExists tree path = true) :
    path.admissible = .ok () ∧
      ∃ arrival, tree.walk mostLinks (startOf tree.origin path) path.steps =
        .ok arrival := by
  change tree.holds path = true at found
  unfold holds at found
  split at found
  · next location resolved =>
    rw [resolve, bind_eq_ok_iff] at resolved
    obtain ⟨⟨⟩, admissible, resolved⟩ := resolved
    rw [bind_eq_ok_iff] at resolved
    obtain ⟨arrival, walked, -⟩ := resolved
    exact ⟨admissible, arrival, walked⟩
  · cases found

namespace LeadsToFile

variable
  {above front : List Segment}
  {reached : Arrival}

theorem walk_singleton
    (leads : tree.LeadsToFile above name arrival)
    (links : Nat) :
    tree.walk links arrival.location [name] =
      .ok ⟨name :: arrival.location, links⟩ := by
  obtain ⟨mode, found⟩ := leads.isFile
  have entered := leads.isName.enter_eq arrival.location
  have walked :=
    Tree.walk_singleton leads.directory leads.short (entered ▸ found)
    (Node.file_ne_link mode []) links
  rwa [entered] at walked

theorem not_isDirectory
    (leads : tree.LeadsToFile above name arrival) :
    ¬tree.isDirectory (name :: arrival.location) = true := by
  obtain ⟨mode, found⟩ := leads.isFile
  intro directory
  obtain ⟨node, isNode, isDirectory⟩ := isDirectory_iff.mp directory
  cases found.symm.trans isNode
  cases isDirectory

/-- Nothing comes back to a file, so what resolves to its path ends
in its name or in `.`. -/
theorem last_cases
    (leads : tree.LeadsToFile above name arrival)
    (retraces : tree.Retraces (front ++ [segment]))
    (fits : segment ≠ [] ∧ slash ∉ segment)
    (resolved : Path.resolve (front ++ [segment]) = above ++ [name]) :
    segment = here ∨ segment = name ∧ Path.resolve front = above := by
  obtain rfl | rfl | isName := segment_cases fits
  · exact .inl rfl
  · obtain ⟨goal, left, other, -, back, directory⟩ := retraces front [] rfl
    rw [resolved, walk_append leads.walked, leads.walk_singleton] at back
    cases back
    exact absurd directory leads.not_isDirectory
  · rw [resolve_concat_name isName] at resolved
    obtain ⟨sameAbove, sameName⟩ := List.append_inj' resolved rfl
    exact .inr ⟨List.singleton_inj.mp sameName, sameAbove⟩

/-- What resolves to the names above leads where they do. -/
theorem walksTo_front
    (leads : tree.LeadsToFile above name arrival)
    (retraces : tree.Retraces front)
    (fit : ∀ other ∈ front, other ≠ [] ∧ slash ∉ other)
    (resolved : Path.resolve front = above) :
    tree.WalksTo mostLinks [] front arrival.location :=
  retraces.walksTo fit (resolved ▸ leads.walked) leads.directory

/-- What resolves to the path of a file does not lead to a directory. -/
theorem not_isDirectory_of_walk
    (leads : tree.LeadsToFile above name arrival)
    (retraces : tree.Retraces front)
    (fit : ∀ other ∈ front, other ≠ [] ∧ slash ∉ other)
    (resolved : Path.resolve front = above ++ [name])
    (walked : tree.walk mostLinks [] front = .ok reached) :
    ¬tree.isDirectory reached.location = true := by
  induction front using List.reverseRecOn generalizing reached with
  | nil => exact absurd resolved.symm (by simp [Path.resolve])
  | append_singleton before segment inductionHypothesis =>
      have retracesBefore := (retraces_concat_iff.mp retraces).1
      obtain ⟨fitBefore, fits⟩ := List.forall_mem_append.mp fit
      obtain ⟨earlier, walkedBefore, walked⟩ := walk_append_eq_ok_iff.mp walked
      obtain rfl | ⟨rfl, resolvedBefore⟩ :=
        leads.last_cases retraces
          (fits segment (List.mem_singleton_self segment)) resolved
      · rw [resolve_concat_here] at resolved
        exact absurd (isDirectory_of_walk_cons walked)
          (inductionHypothesis retracesBefore fitBefore resolved walkedBefore)
      · obtain ⟨left, same⟩ | tooMany :=
          leads.walksTo_front retracesBefore fitBefore resolvedBefore
        · cases walkedBefore.symm.trans same
          rw [leads.walk_singleton] at walked
          cases walked
          exact leads.not_isDirectory
        · cases walkedBefore.symm.trans tooMany

section Spelled

variable
  {left : Nat}
  (leads : tree.LeadsToFile above name arrival)
  (admissible : path.admissible = .ok ())
  (spelled : path.steps = front ++ [name])
  (walked : tree.walk mostLinks (startOf tree.origin path) front =
    .ok ⟨arrival.location, left⟩)

include leads admissible spelled walked

theorem resolve_eq : tree.resolve path = .ok (name :: arrival.location) := by
  rw [resolve_eq_walk admissible, spelled, walk_append walked,
    leads.walk_singleton]
  rfl

theorem approachPath_eq :
    tree.approachPath path = .ok ⟨arrival.location, .name name, left⟩ := by
  obtain ⟨-, segments⟩ := segments_eq_of_steps leads.isName.ne_here spelled
  have named : Component.ofSegment name = .name name := by
    rw [Component.ofSegment, if_neg leads.isName.ne_here,
      if_neg leads.isName.ne_up]
  rw [approachPath, admissible]
  change tree.approach mostLinks tree.origin path = _
  simp only [approach, segments, List.getLast?_concat,
    List.dropLast_concat, walked, leads.directory, if_true, named]

theorem locate_eq : tree.locate path = .ok (name :: arrival.location) := by
  obtain ⟨unslashed, -⟩ := segments_eq_of_steps leads.isName.ne_here spelled
  obtain ⟨mode, found⟩ := leads.isFile
  rw [locate, unslashed, if_neg Bool.false_ne_true,
    leads.approachPath_eq admissible spelled walked]
  change (tree.lookUnder arrival.location name >>= _) = _
  rw [lookUnder_eq_ok_iff.mpr ⟨leads.short, found⟩]
  rfl

/-- A path that goes on to the file by its name names the file. -/
theorem namesEmptyFile : tree.NamesEmptyFile path := by
  have resolved := leads.resolve_eq admissible spelled walked
  have located := leads.locate_eq admissible spelled walked
  obtain ⟨mode, found⟩ := leads.isFile
  refine ⟨?_, ?_, ?_⟩
  · change tree.holds path = true
    rw [holds, resolved]
  · change tree.isFileAt path = true
    simp only [isFileAt, located, found]
    rfl
  · change (tree.nodeOf path).map Node.size = .ok 0
    have isNode : tree.nodeOf path = .ok (.file mode []) := by
      simp only [nodeOf, resolved, found, bind, Except.bind]
      rfl
    rw [isNode]
    rfl

end Spelled

/-- A spelling whose every `..` comes back names the file exactly if it can be
looked at, does not end like that of a directory, and does not meet too many
links.  A relative one goes on from where relative paths start. -/
theorem namesEmptyFile_iff
    (leads : tree.LeadsToFile above name arrival)
    (starts : path.isAbsolute = true ∨ tree.ReachesOrigin)
    (nonempty : path.bytes ≠ [])
    (retraces : tree.Retraces (fromRoot tree.workingDirectory path).steps)
    (resolved : Path.resolve (fromRoot tree.workingDirectory path).steps =
      above ++ [name]) :
    tree.NamesEmptyFile path ↔
      path.admissible = .ok () ∧ path.steps.getLast? ≠ some here ∧
        tree.resolve path ≠ refuse Errno.tooManyLinks := by
  have fit : ∀ segment ∈ (fromRoot tree.workingDirectory path).steps,
      segment ≠ [] ∧ slash ∉ segment := fun _ present =>
        fits_of_mem_steps present
  obtain ⟨ahead, last, spelled⟩ :=
    (List.eq_nil_or_concat path.steps).resolve_left (steps_ne_nil nonempty)
  rw [List.concat_eq_append] at spelled
  have toAhead := walk_startOf starts ahead
  have toLast := walk_startOf starts path.steps
  rw [steps_fromRoot nonempty, spelled, ← List.append_assoc]
    at retraces resolved fit
  rw [spelled, ← List.append_assoc] at toLast
  generalize (if path.isAbsolute then []
    else Path.segments tree.workingDirectory) ++ ahead =
    front at *
  have retracesFront := (retraces_concat_iff.mp retraces).1
  obtain ⟨fitFront, fits⟩ := List.forall_mem_append.mp fit
  rw [spelled, List.getLast?_concat, Ne, Option.some.injEq]
  constructor
  · rintro ⟨found, -, -⟩
    obtain ⟨admissible, reached, arrives⟩ := walk_of_holds found
    refine ⟨admissible, ?_, ?_⟩
    · rintro rfl
      rw [spelled, toLast] at arrives
      rw [resolve_concat_here] at resolved
      -- A file is not gone on from, not even to itself.
      obtain ⟨earlier, walkedFront, stays⟩ := walk_append_eq_ok_iff.mp arrives
      exact leads.not_isDirectory_of_walk retracesFront fitFront
        resolved walkedFront (isDirectory_of_walk_cons stays)
    · rw [resolve_eq_walk admissible, arrives]
      intro tooMany
      cases tooMany
  · rintro ⟨admissible, notHere, few⟩
    obtain isHere | ⟨rfl, resolvedFront⟩ :=
      leads.last_cases retraces
        (fits last (List.mem_singleton_self last)) resolved
    · exact absurd isHere notHere
    · obtain ⟨left, walked⟩ | tooMany :=
        leads.walksTo_front retracesFront fitFront resolvedFront
      · exact leads.namesEmptyFile admissible spelled (toAhead.trans walked)
      · rw [resolve_eq_walk admissible, spelled, toLast,
          walk_append_of_error tooMany] at few
        exact absurd rfl few

end LeadsToFile

end Tree
end HandlePool
