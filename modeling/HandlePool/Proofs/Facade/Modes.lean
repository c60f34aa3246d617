import HandlePool.Proofs.Facade.Transparency

/-!
# Modes of handles for writing

A request to write is answered with a handle of some mode that writes: the mode
that was asked for if the handle is opened for this request, else the mode that
the kept handle was opened with.  What a write through the handle does to its
file depends on the mode of the handle alone.
-/

namespace HandlePool
namespace Facade

open Pool

variable
  {config : FacadeConfig}
  {facade after : Facade RestrictedTree}
  {time : CallTime}
  {request : FileRequest}
  {issued : Issued}

/-- Nothing was there that a handle is opened on to create it. -/
theorem resolve_ne_ok_of_openFile
    {path : Path}
    {handle : FileHandle}
    {store later : RestrictedTree}
    (opened : FileStore.openFile path .createNew store = (.ok handle, later))
    (location : Location) :
    store.tree.resolve path ≠ .ok location := by
  obtain ⟨-, opened⟩ := RestrictedTree.of_pass opened
  obtain ⟨node, created, -⟩ := Tree.openFile_eq_ok_iff.mp opened
  exact Tree.resolve_ne_ok_of_createFile created location

/-- The handle was opened for the request, or was kept in its pool. -/
theorem Answers.mode_cases
    (holdsSome : ∀ side, (config.pool side).maxSize ≠ 0)
    (sound : facade.Sound config Belongs)
    (answers : Answers facade time request (.ok issued) after)
    {resolved : Resolved}
    (isResolved : facade.resolve request.path = .ok resolved)
    {handle : FileHandle}
    (found : after.handle? issued = some handle) :
    ((facade.pool request.side).contains time.starts resolved.key = false ∧
        handle.mode = request.mode ∧
        (request.mode = .createNew →
          ∀ location, facade.store.tree.resolve resolved.path ≠
          .ok location)) ∨
      (facade.pool request.side).contains time.starts resolved.key = true ∧
        ∃ cached, facade.handle? issued = some cached ∧
          handle.mode = cached.mode ∧
          (cached.mode.writes = true ↔ request.side = .write) := by
  by_cases missing :
    (facade.pool request.side).live? time.starts resolved.key = none
  · left
    obtain ⟨opened, later, opens, foundLater, -, sameMode⟩ :=
      answers.exists_opened holdsSome sound isResolved missing
    cases found.symm.trans foundLater
    refine ⟨?_, sameMode.trans (path_of_openFile opens).2,
      fun createsNew location => ?_⟩
    · rw [contains, missing]
      rfl
    · rw [createsNew] at opens
      exact resolve_ne_ok_of_openFile opens location
  · right
    obtain ⟨cached, later, foundCached, belongs, foundLater, -, sameMode⟩ :=
      answers.exists_cached holdsSome sound isResolved missing
    cases found.symm.trans foundLater
    exact ⟨Option.isSome_iff_ne_none.mpr missing, cached, foundCached, sameMode,
      belongs.writes_iff⟩

/-- After any session a request to write is answered with a handle of a mode
that writes.  It is the mode that was asked for unless a handle of the path was
kept; a handle that was opened to create a file found nothing at its path.  The
handle is open if the request found it in the pool, or put the pool in order
less than the idle time after it was kept.

An open handle that was opened for appending appends, and any other one
writes at the offset it is told.  As long as the tree has no links and
is changed by the façade alone, the file is the one that the normal
form of the path leads to. -/
theorem mode_of_request
    {store : RestrictedTree}
    {start : Facade RestrictedTree}
    {turns : List FacadeTurn}
    (created : create config store = .ok start)
    (reached : (FacadeSession.run start turns).facade = facade)
    (toWrite : request.side = .write)
    (answered : facade.request time request = (.ok issued, after)) :
    ∃ resolved handle, facade.resolve request.path = .ok resolved ∧
      after.handle? issued = some handle ∧ handle.mode.writes = true ∧
      (((facade.pool .write).contains time.starts resolved.key = false ∧
          handle.mode = request.mode ∧
          (request.mode = .createNew → ∀ location,
            facade.store.tree.resolve resolved.path ≠ .ok location)) ∨
        (facade.pool .write).contains time.starts resolved.key = true ∧
          ∃ cached, facade.handle? issued = some cached ∧
            handle.mode = cached.mode) ∧
      (handle.isOpen = true ↔ facade.Prompt config time request) ∧
      ∀ descriptor, handle.descriptor = some descriptor →
        (handle.mode = .append → handle.AppendsTo descriptor.node) ∧
        (handle.mode ≠ .append → handle.WritesInto descriptor.node) ∧
        (store.tree.IsOrdinary → (∀ turn ∈ turns, turn.action.IsConfined) →
          request.path.IsText →
          after.store.tree.Leads resolved.path descriptor.node ∧
            ∃ contents, after.store.tree.contents? descriptor.node =
              some contents) := by
  have roomy := FacadeConfig.roomy_of_validate (validate_of_create created)
  have holdsSome := fun side => (roomy side).1
  have sound := sound_run_belongs created turns
  rw [reached] at sound
  have differ := fun side => (sound side).custody.keysDiffer
  have answers := answers_request differ time request
  rw [answered] at answers
  have soundAfter := (answers.acts differ).sound_belongs holdsSome sound
  obtain ⟨resolved, handle, isResolved, found, -⟩ :=
    answers.display_eq holdsSome sound
  have origin := answers.mode_cases holdsSome sound isResolved found
  rw [toWrite] at origin
  have writes : handle.mode.writes = true := by
    obtain ⟨-, sameMode, -⟩ | ⟨-, cached, -, sameMode, writes_iff⟩ := origin
    · rw [sameMode]
      exact (FileRequest.isAdmissible_iff.mp answers.isAdmissible).mpr toWrite
    · rw [sameMode]
      exact writes_iff.mpr rfl
  refine ⟨resolved, handle, isResolved, found, writes,
    origin.imp_right fun ⟨kept, cached, foundCached, sameMode, _⟩ =>
      ⟨kept, cached, foundCached, sameMode⟩,
    answers.isOpen_iff roomy sound soundAfter found, fun descriptor held =>
      ⟨?_, ?_, ?_⟩⟩
  · exact FileHandle.appendsTo_of_append held
  · exact FileHandle.writesInto_of_ne_append held writes
  · intro ordinary confined isText
    obtain ⟨sameResolved, sameHandle, isSame, foundSame, samePath,
        -, follows⟩ :=
      follows_of_request ordinary created confined reached isText answered
    cases isSame.symm.trans isResolved
    cases foundSame.symm.trans found
    have isOpen : handle.isOpen = true :=
      Option.isSome_iff_exists.mpr ⟨descriptor, held⟩
    obtain ⟨opened, heldToo, leads, isFile⟩ := (follows isOpen).leads
    cases heldToo.symm.trans held
    rw [samePath] at leads
    exact ⟨leads, isFile toWrite⟩

/-- A file is created. -/
def creation : List FacadeTurn := [⟨0, .createFile plainSpelling ⟨0o644⟩, 0, 0⟩]

/-- A handle that is opened for appending appends to the file of its path. -/
theorem mode_of_request_to_append :
    ∃ start, create {} RestrictedTree.empty = .ok start ∧
      let facade := (FacadeSession.run start creation).facade
      ∃ issued after, facade.request (.lasting 0 0 1)
        (.toWrite plainSpelling .append) = (.ok issued, after) ∧
        ∃ handle descriptor, after.handle? issued = some handle ∧
          handle.descriptor = some descriptor ∧ handle.mode = .append ∧
          handle.AppendsTo descriptor.node ∧
          ∃ contents, after.store.tree.contents? descriptor.node =
            some contents := by
  refine ⟨_, rfl, ?_⟩
  intro facade
  obtain ⟨result, answered⟩ : ∃ result, result =
    facade.request (.lasting 0 0 1) (.toWrite plainSpelling .append) := ⟨_, rfl⟩
  have succeeds : result.1.toOption = some ⟨.write, 0⟩ := by
    rw [answered]
    decide +kernel
  obtain ⟨outcome, after⟩ := result
  cases outcome with
  | error error => cases succeeds
  | ok issued =>
      obtain ⟨resolved, handle, isResolved, found, -, origin,
          isOpen_iff, written⟩ :=
        mode_of_request
          (show create {} RestrictedTree.empty = .ok _ from rfl) rfl rfl
          answered.symm
      obtain ⟨descriptor, held⟩ :=
        Option.isSome_iff_exists.mp (isOpen_iff.mpr (.inr (by decide)))
      obtain ⟨appends, -, confined⟩ := written descriptor held
      have isKey : (facade.resolve plainSpelling).toOption.map Resolved.key =
          some "/f" := by
        decide +kernel
      rw [show facade.resolve plainSpelling = .ok resolved from isResolved,
        Except.toOption, Option.map_some, Option.some.injEq] at isKey
      have notKept : (facade.pool .write).contains 0 "/f" = false := by
        decide +kernel
      have isAppend : handle.mode = .append := by
        obtain ⟨-, sameMode, -⟩ | ⟨kept, -⟩ := origin
        · exact sameMode
        · rw [isKey] at kept
          cases notKept.symm.trans kept
      have isConfined : ∀ turn ∈ creation, turn.action.IsConfined := by
        simp [creation, FacadeAction.IsConfined, isText_plainSpelling]
      obtain ⟨-, isFile⟩ :=
        confined isOrdinary_empty isConfined isText_plainSpelling
      exact ⟨issued, after, answered.symm, handle, descriptor, found,
        held, isAppend, appends isAppend, isFile⟩

/-! ### Misplaced writes -/

/-- What a path leads to after a session, a request to write it, and a write
through the handle that answers the request. -/
def contentsAfterWrite (config : FacadeConfig) (tree : Tree)
    (turns : List FacadeTurn)
    (time : CallTime) (path : Path) (mode : OpenMode) (write : FileWrite) :
    Option (List UInt8) := do
  let start ← (create config (RestrictedTree.mk tree none)).toOption
  let (outcome, facade) := (FacadeSession.run start turns).facade.request time
    (.toWrite path mode)
  let issued ← outcome.toOption
  let after := (facade.perform time (.write issued write)).store.tree
  let location ← (after.resolve path).toOption
  let number ← after.find? location
  after.contents? number

/-- A file is created, and written at an offset through a
handle that is kept. -/
def positionedWrite : List FacadeTurn :=
  creation ++ [⟨0, .request (.toWrite plainSpelling .write), 0, 0⟩,
    ⟨0, .write ⟨.write, 0⟩ (.writeAt [1, 2, 3] 0), 0, 0⟩]

/-- A tree with a directory, and a link to it. -/
def linkedTree : Tree :=
  ⟨[.directory 0o755, .directory 0o755, .link ⟨[0x64]⟩],
    [([], 0), ([[0x64]], 1), ([[0x6C]], 2)], []⟩

/-- A file in the directory of `linkedTree`, and its path through the link. -/
def directPath : Path := ⟨[0x2F, 0x64, 0x2F, 0x66]⟩

def linkedPath : Path := ⟨[0x2F, 0x6C, 0x2F, 0x66]⟩

/-- A file is opened through the link, and made anew under its other path. -/
def replacement : List FacadeTurn :=
  [⟨0, .createFile linkedPath ⟨0o644⟩, 0, 0⟩,
    ⟨0, .request (.toWrite linkedPath .append), 0, 0⟩,
    ⟨0, .delete directPath, 0, 0⟩, ⟨0, .createFile directPath ⟨0o644⟩, 0, 0⟩]

/-- What is to be appended is put over the first bytes if a handle is kept that
was opened in another mode; it goes to a removed file if the handle was opened
through a link; it is lost if the handle expires between being kept and being
given out.  So are bytes at an impossible offset. -/
theorem misplaced_write :
    contentsAfterWrite {} Tree.empty positionedWrite
      (.instantly 0) plainSpelling .append (.append []) = some [1, 2, 3] ∧
      contentsAfterWrite {} Tree.empty positionedWrite
        (.instantly 0) plainSpelling .append (.append [4, 5]) = some [4, 5, 3] ∧
      contentsAfterWrite {} linkedTree replacement (.instantly 0)
        linkedPath .append (.append [1]) = some [] ∧
      contentsAfterWrite { writeIdle := ⟨0, 1, by decide⟩ } Tree.empty creation
        (.lasting 0 0 1) plainSpelling .append (.append [1]) = some [] ∧
      contentsAfterWrite {} Tree.empty creation (.instantly 0)
        plainSpelling .write (.writeAt [1] 0x8000000000000000) = some [] := by
  refine ⟨?_, ?_, ?_, ?_, ?_⟩
  · decide +kernel
  · decide +kernel
  · decide +kernel
  · decide +kernel
  · decide +kernel

end Facade
end HandlePool
