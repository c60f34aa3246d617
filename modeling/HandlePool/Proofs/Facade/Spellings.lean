import HandlePool.Proofs.Facade.Clearing
import HandlePool.Proofs.Tree.Detours
import HandlePool.Proofs.Tree.Whole

/-!
# Spellings of a path that a file was created at

A façade creates a file at the normal form of a path, and looks at paths
as they are written.  The normal form names the new file.  The path as it
was written names it too if its every `..` comes back, unless it ends like
the path of a directory, is too long to be looked at, or meets too many
links.  A relative path is taken from the working directory, which must be
where its own path leads.
-/

namespace HandlePool

open HandlePool.Path

namespace Tree

variable
  {tree after : Tree}
  {names : List Segment}

theorem resolve_steps
    (path : Path) :
    Path.resolve path.steps = Path.resolve path.segments := by
  unfold steps
  split
  · exact resolve_concat_here _
  · rw [List.append_nil]

theorem steps_ofSegments
    (areNames : ∀ name ∈ names, IsName name)
    (inner : names ≠ []) :
    (ofSegments names).steps = names := by
  rw [steps, endsInSlash_ofSegments areNames,
    List.isEmpty_eq_false_iff.mpr inner,
    if_neg Bool.false_ne_true, List.append_nil, segments_ofSegments areNames]

/-- A store whose answer is that a file was created has created one. -/
theorem exists_createFile_of_done
    {path created : Path}
    {permissions : Permissions}
    (done : (FileStore.createFile path permissions tree).1 = .ok created) :
    created = path ∧ ∃ node, tree.createFile path permissions.bits =
      .ok (node, (FileStore.createFile path permissions tree).2) := by
  have answers : FileStore.createFile path permissions tree =
      tree.attempt path
        ((tree.createFile path permissions.bits).map Prod.snd) := rfl
  rw [answers] at done ⊢
  cases made : tree.createFile path permissions.bits with
  | error error =>
      rw [made] at done
      cases done
  | ok given =>
      rw [made] at done
      exact ⟨(Except.ok.inj done).symm, given.1, rfl⟩

theorem Grows.reachesOrigin
    (grows : Grows tree after)
    (reaches : tree.ReachesOrigin) :
    after.ReachesOrigin := by
  rw [ReachesOrigin, workingDirectory, grows.origin_eq]
  exact grows.walk reaches

/-- The tree grows, and the path that a file is created at leads to the file. -/
theorem exists_leadsToFile_of_createFile
    {bits : FileMode}
    {node : NodeId}
    (whole : tree.IsWhole)
    (areNames : ∀ name ∈ names, IsName name)
    (created : tree.createFile (ofSegments names) bits = .ok (node, after)) :
    Grows tree after ∧ (ofSegments names).admissible = .ok () ∧
    ∃ above name arrival,
      names = above ++ [name] ∧ after.LeadsToFile above name arrival := by
  obtain ⟨found, name, approached, named, -, short, missing, mode, made⟩ :=
    made_of_createFile created
  obtain ⟨admissible, isLast, -, -, walked, directory⟩ :=
    of_approachPath_name approached named
  rw [segments_ofSegments areNames] at isLast walked
  rw [startOf_ofSegments] at walked
  have unnamed := whole.find?_eq_none missing
  have grows :=
    grows_add tree (name :: found.directory) (Node.file_ne_link mode [])
  cases made
  refine ⟨grows, admissible, names.dropLast, name,
    ⟨found.directory, found.linksLeft⟩,
    (List.dropLast_append_getLast? name isLast).symm, ?_⟩
  constructor
  · exact grows.walk walked
  · exact grows.isDirectory directory
  · exact areNames name (List.mem_of_getLast? isLast)
  · exact short
  · exact ⟨mode, node?_eq_some_iff.mpr
      ⟨_, find?_add_self _ unnamed, getElem?_add_self tree _ _⟩⟩

end Tree

namespace Facade

variable {facade after : Facade Tree} {now : Instant} {path created : Path}
  {permissions : Permissions}

/-- A file that was created is made by the store, at the
normal form of the path. -/
theorem made_of_createFile
    (answered : facade.createFile now path permissions = (.ok created, after)) :
    Path.normalize facade.store.workingDirectory path = .ok created ∧
      ∃ node, facade.store.createFile created permissions.bits =
        .ok (node, after.store) := by
  cases normalized :
    Path.normalize (FileStore.workingDirectory facade.store) path with
  | error error =>
      rw [createFile, resolve, Resolved.ofPath, normalized] at answered
      cases answered
  | ok normal =>
      rw [createFile_of_normalize normalized, Prod.mk.injEq] at answered
      obtain ⟨answer, rfl⟩ := answered
      obtain ⟨rfl, made⟩ := Tree.exists_createFile_of_done answer
      exact ⟨rfl, made⟩

/-- A path that a file was created at names it by its normal form; and as it was
written, if its every `..` comes back, exactly if it can be looked at, does not
end in a slash or `.`, and does not meet too many links.  A relative path is
followed from the root, along the path of the working directory, which must lead
there and meet no link. -/
theorem namesEmptyFile_of_createFile
    (whole : facade.store.IsWhole)
    (answered : facade.createFile now path permissions = (.ok created, after)) :
    Path.normalize facade.store.workingDirectory path = .ok created ∧
      after.store.NamesEmptyFile created ∧
      (path.isAbsolute = true ∨ facade.store.ReachesOrigin →
        after.store.Retraces
          (fromRoot facade.store.workingDirectory path).steps →
        (after.store.NamesEmptyFile path ↔
          path.admissible = .ok () ∧ path.steps.getLast? ≠ some here ∧
            after.store.resolve path ≠ refuse Errno.tooManyLinks)) := by
  obtain ⟨normalized, node, made⟩ := made_of_createFile answered
  refine ⟨normalized, ?_⟩
  have nonempty : path.bytes ≠ [] := by
    intro empty
    rw [normalize_eq_error_iff.mpr ⟨rfl, empty⟩] at normalized
    cases normalized
  have isAbsolute := facade.store.workingDirectory.property
  generalize base : facade.store.workingDirectory.val = start at *
  obtain rfl :
      ofSegments (Path.resolve (fromRoot start path).steps) = created := by
    rw [← eq_of_normalize isAbsolute normalized, Tree.resolve_steps]
  have areNames : ∀ name ∈ Path.resolve (fromRoot start path).steps,
      IsName name :=
    fun _ present => (mem_resolve (Tree.resolve_steps _ ▸ present)).2
  obtain ⟨grows, admissible, above, name, arrival, resolved, leads⟩ :=
    Tree.exists_leadsToFile_of_createFile whole areNames made
  refine ⟨?_, fun starts retraces => ?_⟩
  · rw [resolved] at areNames admissible ⊢
    have spelled := Tree.steps_ofSegments areNames (by simp)
    have walked := leads.walked
    rw [← Tree.startOf_ofSegments after.store.origin (above ++ [name])]
      at walked
    exact leads.namesEmptyFile admissible spelled walked
  · have sameBase : after.store.workingDirectory.val = start := by
      rw [Tree.workingDirectory, grows.origin_eq, ← base, Tree.workingDirectory]
    rw [← sameBase] at retraces resolved
    exact leads.namesEmptyFile_iff (starts.imp_right grows.reachesOrigin)
      nonempty retraces resolved

/-! ### Directories, links to them, and a file -/

/-- The directories `/d` and `/d/e`. -/
def nestedTree : Tree :=
  (FileStore.createDirectories (ofString "/d/e") Tree.empty).2

/-- Two directories with the links `/l` to the inner and
`/k` to the outer one. -/
def detourTree : Tree :=
  ((nestedTree.add [[0x6C]] (.link (ofString "d/e"))).2.add [[0x6B]]
    (.link (ofString "d"))).2

/-- With the file `/d/f`, which holds one byte. -/
def filledTree : Tree :=
  (FileStore.createFile (ofString "/d/f") ⟨0o644⟩ detourTree).2.setContents
    5 [0x21]

theorem reachable_filledTree : filledTree.Reachable := by
  have nested : nestedTree.Reachable :=
    .madeDirectories (ofString "/d/e") .empty
  have toInner : nestedTree.makeLink (ofString "/l") (ofString "d/e") =
      .ok (nestedTree.add [[0x6C]] (.link (ofString "d/e"))).2 := by
    decide +kernel
  have toOuter : (nestedTree.add [[0x6C]] (.link (ofString "d/e"))).2.makeLink
      (ofString "/k") (ofString "d") = .ok detourTree := by
    decide +kernel
  have linked : detourTree.Reachable :=
    .madeLink (.madeLink nested toInner) toOuter
  exact .written 5 [0x21] (.created (ofString "/d/f") ⟨0o644⟩ linked)

theorem exists_create_default
    {σ : Type}
    (store : σ) :
    ∃ facade, create {} store = .ok facade := ⟨_, rfl⟩

/-- The same with `/d` for the working directory. -/
def insideTree : Tree := { filledTree with origin := [[0x64]] }

/-- A file is created from the directory above the working directory, along a
link, and back from that link and from a directory behind it. -/
theorem namesEmptyFile_of_createFile_along_link :
    ∃ start, create {} insideTree = .ok start ∧
      let path := ofString "../k/../k/e/.././/g"
      let answered := start.createFile 0 path ⟨0o644⟩
      start.store.IsWhole ∧ start.store.ReachesOrigin ∧
      answered.1 = .ok (ofString "/k/g") ∧
      answered.2.store.Retraces
        (fromRoot start.store.workingDirectory path).steps ∧
      answered.2.store.NamesEmptyFile (ofString "/k/g") ∧
      answered.2.store.NamesEmptyFile path := by
  obtain ⟨start, created⟩ := exists_create_default insideTree
  refine ⟨start, created, ?_⟩
  intro path answered
  have whole : start.store.IsWhole := by
    obtain rfl := eq_of_create created
    exact (Tree.Reachable.moved [[0x64]] reachable_filledTree).isWhole
  have reaches : start.store.ReachesOrigin := by
    obtain rfl := eq_of_create created
    unfold Tree.ReachesOrigin
    decide +kernel
  have answer : answered.1 = .ok (ofString "/k/g") := by
    obtain rfl := eq_of_create created
    decide +kernel
  have made : start.createFile 0 path ⟨0o644⟩ =
      (.ok (ofString "/k/g"), answered.2) := by
    rw [← answer]
  obtain ⟨-, normal, spelled⟩ := namesEmptyFile_of_createFile whole made
  have retraces : answered.2.store.Retraces
      (fromRoot start.store.workingDirectory path).steps := by
    have steps : (fromRoot start.store.workingDirectory path).steps =
        [] ++ [[0x64]] ++ [up] ++
        [[0x6B]] ++ [up] ++ [[0x6B]] ++ [[0x65]] ++ [up] ++ [here] ++
          [[0x67]] := by
      obtain rfl := eq_of_create created
      decide +kernel
    have fromInside : answered.2.store.ComesBack [[0x64]] := by
      obtain rfl := eq_of_create created
      exact ⟨[], 40, 40, by decide +kernel⟩
    have besideRoot : answered.2.store.ComesBack [[0x64], up, [0x6B]] := by
      obtain rfl := eq_of_create created
      exact ⟨[], 39, 40, by decide +kernel⟩
    have behindLink :
        answered.2.store.ComesBack
          [[0x64], up, [0x6B], up, [0x6B], [0x65]] := by
      obtain rfl := eq_of_create created
      exact ⟨[[0x64]], 38, 39, by decide +kernel⟩
    rw [steps]
    simp only [Tree.retraces_concat_iff]
    refine ⟨⟨⟨⟨⟨⟨⟨⟨⟨Tree.retraces_nil _, ?_⟩, fun _ => fromInside⟩, ?_⟩,
      fun _ => besideRoot⟩, ?_⟩, ?_⟩, fun _ => behindLink⟩, ?_⟩, ?_⟩
    all_goals exact fun goesUp => absurd goesUp (by decide)
  refine ⟨whole, reaches, answer, retraces, normal,
    (spelled (.inr reaches) retraces).mpr ?_⟩
  obtain rfl := eq_of_create created
  decide +kernel

/-- What the calls that look at a path say after a file was created at it. -/
def seenAfterCreation (facade : Facade Tree) (path : Path) :
    Except IoError Path × Bool × Bool × Except IoError Nat :=
  let (answer, after) := facade.createFile 0 path ⟨0o644⟩
  (answer, FileStore.pathExists after.store path,
    FileStore.isRegularFile after.store path,
    FileStore.fileSize after.store path)

/-- A path ends in a slash, goes up from a name that is not there, and goes up
from a link to elsewhere, where another file is.  One is too long as it is
written, and one meets 41 links. -/
theorem unnamed_of_createFile :
    ∃ start, create {} filledTree = .ok start ∧
      start.seenAfterCreation (ofString "/f/") =
        (.ok (ofString "/f"), false, false, refuse Errno.notDirectory) ∧
      start.seenAfterCreation (ofString "/x/../f") =
        (.ok (ofString "/f"), false, false, refuse Errno.noEntry) ∧
      start.seenAfterCreation (ofString "/l/../f") =
        (.ok (ofString "/f"), true, true, .ok 1) ∧
      start.seenAfterCreation
        ⟨(List.replicate 2100 [slash, 0x2E]).flatten ++ [slash, 0x66]⟩ =
        (.ok (ofString "/f"), false, false, refuse Errno.nameTooLong) ∧
      start.seenAfterCreation
          ⟨(List.replicate 41 (ofString "/k/..").bytes).flatten ++
            [slash, 0x66]⟩ =
        (.ok (ofString "/f"), false, false, refuse Errno.tooManyLinks) := by
  obtain ⟨start, created⟩ := exists_create_default filledTree
  refine ⟨start, created, ?_⟩
  obtain rfl := eq_of_create created
  refine ⟨?_, ?_, ?_, ?_, ?_⟩ <;> decide +kernel

end Facade
end HandlePool
