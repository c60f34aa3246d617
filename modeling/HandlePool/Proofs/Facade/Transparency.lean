import HandlePool.Proofs.Facade.Keys
import HandlePool.Proofs.Path.Resolution
import HandlePool.Proofs.Tree.Opening

/-!
# Kept handles and the files of their paths

A façade that alone changes a tree without links keeps no handle that its path
does not lead to: whatever takes a name away takes the handles of that path out
of the pools first, and no other path led through it.  So a handle that is asked
for reads what a handle reads that is opened at that moment, if the system lets
it be opened.  It makes no difference which calls the system refuses.
-/

namespace HandlePool

namespace Resolved

variable {base : AbsolutePath} {path : Path} {resolved : Resolved}

theorem isNormal
    (isResolved : Resolved.ofPath base path = .ok resolved) :
    resolved.path.IsNormal := by
  obtain ⟨normal, normalized, rfl⟩ := map_eq_ok_iff.mp isResolved
  exact Path.isNormal_of_normalize base.property normalized

theorem isText
    (isResolved : Resolved.ofPath base path = .ok resolved)
    (baseText : base.val.IsText)
    (isText : path.IsText) :
    resolved.path.IsText := by
  obtain ⟨normal, normalized, rfl⟩ := map_eq_ok_iff.mp isResolved
  exact Path.IsText.normalize base.property baseText isText normalized

end Resolved

/-- The tree has no links, and relative paths start in a
directory whose path is a text. -/
structure Tree.IsOrdinary (tree : Tree) : Prop extends tree.IsPlain where
  startsInText : tree.workingDirectory.val.IsText

namespace Tree.IsOrdinary

variable {tree after : Tree} {path : Path}

theorem grows
    (ordinary : tree.IsOrdinary)
    (grows : Tree.Grows tree after) :
    after.IsOrdinary := by
  refine ⟨grows.isPlain ordinary.toIsPlain, ?_⟩
  rw [workingDirectory, grows.origin_eq]
  exact ordinary.startsInText

theorem delete
    (ordinary : tree.IsOrdinary)
    (isNormal : path.IsNormal) :
    (FileStore.delete path tree).2.IsOrdinary := by
  refine ⟨ordinary.toIsPlain.delete isNormal, ?_⟩
  have sameOrigin : (FileStore.delete path tree).2.origin = tree.origin := by
    change (tree.attempt () (tree.remove path)).2.origin = _
    cases removed : tree.remove path with
    | error error => rfl
    | ok after =>
        obtain ⟨location, rfl⟩ := Tree.eq_erase_of_remove removed
        rfl
  rw [workingDirectory, sameOrigin]
  exact ordinary.startsInText

end Tree.IsOrdinary

/-- The mode that opens an existing file for the pool on a side. -/
def Side.mode : Side → OpenMode
  | .read => .read
  | .write => .write

/-- The action is taken through the façade, or by the system;
paths of handles are texts. -/
def FacadeAction.IsConfined : FacadeAction → Prop
  | .request asked => asked.path.IsText
  | .createFile path _ | .delete path => path.IsText
  | .elsewhere _ => False
  | _ => True

theorem FileWrite.grows_run
    (write : FileWrite)
    (handle : FileHandle)
    (tree : Tree) :
    Tree.Grows tree (write.run handle tree).2 := by
  cases write with
  | writeAt bytes offset =>
      simp only [run]
      cases written : handle.writeAt tree bytes offset with
      | error error => exact .done tree
      | ok after =>
          obtain ⟨descriptor, -, rfl | ⟨position?, rfl⟩⟩ :=
            FileHandle.of_writeAt written
          · exact .done _
          · exact Tree.grows_put tree _ bytes position?
  | append bytes =>
      simp only [run]
      cases appended : handle.append tree bytes with
      | error error => exact .done tree
      | ok result =>
          obtain ⟨descriptor, cursor, -, -, same | ⟨position?, put⟩⟩ :=
            FileHandle.of_append appended
          · rw [Except.toOption, Option.getD_some, same]
            exact .done tree
          · rw [Except.toOption, Option.getD_some, put]
            exact Tree.grows_put tree _ bytes position?

namespace Facade

open Pool

variable
  {config : FacadeConfig}
  {facade after : Facade RestrictedTree}
  {tree later : Tree}
  {time : CallTime}
  {action : FacadeAction}
  {request : FileRequest}
  {issued : Issued}
  {side : Side}
  {key : String}
  {handle : FileHandle}

/-- A handle of the key, open on the node that its path leads to; handles for
writing are on files. -/
structure Follows (tree : Tree) (side : Side) (key : String)
    (handle : FileHandle) : Prop extends Belongs tree side key handle where
  isNormal : handle.path.IsNormal
  isText : handle.path.IsText
  leads : ∃ descriptor, handle.descriptor = some descriptor ∧
    tree.Leads handle.path descriptor.node ∧
      (side = .write → ∃ contents,
        tree.contents? descriptor.node = some contents)

theorem Follows.of_grows
    (grows : Tree.Grows tree later)
    (plain : tree.IsPlain)
    (follows : Follows tree side key handle) :
    Follows later side key handle := by
  obtain ⟨belongs, isNormal, isText, descriptor, held, leads, isFile⟩ := follows
  refine ⟨⟨belongs.key_eq, belongs.writes_iff⟩, isNormal, isText,
    descriptor, held, grows.leads plain isNormal leads, fun onWrite => ?_⟩
  obtain ⟨contents, found⟩ := isFile onWrite
  exact grows.contents? found

/-- Deleting a path of another key leaves the path of the handle alone. -/
theorem Follows.delete
    {base : AbsolutePath}
    {resolved : Resolved}
    {path : Path}
    (plain : tree.IsPlain)
    (isResolved : Resolved.ofPath base path = .ok resolved)
    (different : resolved.key ≠ key)
    (follows : Follows tree side key handle) :
    Follows (FileStore.delete resolved.path tree).2 side key handle := by
  obtain ⟨belongs, isNormal, isText, descriptor, held, leads, isFile⟩ := follows
  have otherPath : handle.path ≠ resolved.path := by
    intro same
    rw [Resolved.key_eq isResolved, ← same] at different
    exact different belongs.key_eq
  refine ⟨⟨belongs.key_eq, belongs.writes_iff⟩, isNormal, isText,
    descriptor, held,
    Tree.leads_delete plain (Resolved.isNormal isResolved) isNormal
      otherPath leads, ?_⟩
  intro onWrite
  rw [Tree.contents?_delete]
  exact isFile onWrite

/-- A new handle follows its path. -/
theorem follows_of_openFile
    {resolved : Resolved}
    (ordinary : facade.store.tree.IsOrdinary)
    (admissible : request.isAdmissible = true)
    (isText : request.path.IsText)
    (isResolved : facade.resolve request.path = .ok resolved)
    (opened : FileStore.openFile resolved.path request.mode facade.store =
      (.ok handle, after.store)) :
    Follows after.store.tree request.side resolved.key handle := by
  have isNormal := Resolved.isNormal isResolved
  have samePath := (path_of_openFile opened).1
  obtain ⟨-, descriptor, held, leads, isFile⟩ :=
    Tree.of_openFile ordinary.toIsPlain isNormal
      (RestrictedTree.of_pass opened).2
  refine ⟨belongs_of_openFile admissible isResolved opened, ?_, ?_,
    descriptor, held, ?_,
    fun onWrite =>
      isFile ((FileRequest.isAdmissible_iff.mp admissible).mpr onWrite)⟩
  · rwa [samePath]
  · rw [samePath]
    exact Resolved.isText isResolved ordinary.startsInText isText
  · rwa [samePath]

/-- So does one that is written through. -/
theorem Follows.run
    (follows : Follows later side key handle)
    (write : FileWrite)
    (tree : Tree) :
    Follows later side key (write.run handle tree).1 := by
  obtain ⟨samePath, -, -, sameNode⟩ := write.run_handle handle tree
  obtain ⟨belongs, isNormal, isText, descriptor, held, leads, isFile⟩ := follows
  rw [held, Option.map_some, Option.map_eq_some_iff] at sameNode
  obtain ⟨moved, heldAfter, isNode⟩ := sameNode
  refine ⟨belongs.run write tree, ?_, ?_, moved, heldAfter, ?_, ?_⟩
  · rwa [samePath]
  · rwa [samePath]
  · rwa [samePath, isNode]
  · rwa [isNode]

/-! ## What a session keeps -/

/-- A confined action grows the tree or deletes a path. -/
theorem Acts.grows_or_deletes
    (acts : Acts facade time action after)
    (plain : facade.store.tree.IsPlain)
    (confined : action.IsConfined) :
    Tree.Grows facade.store.tree after.store.tree ∨ ∃ path resolved,
      action = .delete path ∧ facade.resolve path = .ok resolved ∧
      after.store.tree =
        (FileStore.delete resolved.path facade.store.tree).2 := by
  cases acts with
  | quiet _ _ store =>
      left
      rw [store]
      exact .done _
  | opens isResolved _ opened =>
      exact .inl (Tree.of_openFile plain (Resolved.isNormal isResolved)
        (RestrictedTree.of_pass opened).2).1
  | @creates path permissions resolved _ isResolved _ store =>
      left
      rw [store]
      obtain same | created := facade.store.tree_pass_cases
        (FileStore.createFile resolved.path permissions)
      · exact same ▸ .done _
      · exact created ▸ Tree.grows_createFile plain
          (Resolved.isNormal isResolved) _
  | @deletes path resolved _ isResolved _ store =>
      rw [store]
      obtain same | deleted :=
        facade.store.tree_pass_cases (FileStore.delete resolved.path)
      · exact .inl (same ▸ .done _)
      · exact .inr ⟨path, resolved, rfl, isResolved, deleted⟩
  | stores changes _ store =>
      left
      rw [store]
      cases action with
      | createDirectories path =>
          cases changes
          exact facade.store.grows_createDirectories path
      | setPermissions path permissions =>
          cases changes
          exact facade.store.grows_setPermissions path permissions
      | restrict refusal =>
          cases changes
          exact .done _
      | elsewhere change => exact absurd confined id
      | _ => cases changes
  | @writes issued write handle _ _ _ _ store =>
      left
      rw [store]
      exact write.grows_run handle facade.store.tree

theorem Acts.isOrdinary
    (acts : Acts facade time action after)
    (ordinary : facade.store.tree.IsOrdinary)
    (confined : action.IsConfined) :
    after.store.tree.IsOrdinary := by
  obtain grows | ⟨path, resolved, -, isResolved, store⟩ :=
    acts.grows_or_deletes ordinary.toIsPlain confined
  · exact ordinary.grows grows
  · rw [store]
    exact ordinary.delete (Resolved.isNormal isResolved)

/-- Handles that are kept go on to follow their paths. -/
theorem Acts.sound_follows
    (holdsSome : ∀ side, (config.pool side).maxSize ≠ 0)
    (acts : Acts facade time action after)
    (ordinary : facade.store.tree.IsOrdinary)
    (confined : action.IsConfined)
    (sound : facade.Sound config Follows) :
    after.Sound config Follows := by
  refine acts.sound holdsSome sound ?_ ?_ ?_
  · rintro request resolved handle rfl admissible isResolved opened
    exact follows_of_openFile ordinary admissible confined isResolved opened
  · intro side key handle follows stays
    obtain grows | ⟨path, resolved, rfl, isResolved, store⟩ :=
      acts.grows_or_deletes ordinary.toIsPlain confined
    · exact follows.of_grows grows ordinary.toIsPlain
    · rw [store]
      exact follows.delete ordinary.toIsPlain isResolved fun same =>
        stays ⟨resolved, isResolved, same⟩
  · exact fun issued write _ side key handle follows =>
      follows.run write facade.store.tree

theorem sound_run_follows
    {store : RestrictedTree}
    {start : Facade RestrictedTree}
    {turns : List FacadeTurn}
    (ordinary : store.tree.IsOrdinary)
    (created : create config store = .ok start)
    (confined : ∀ turn ∈ turns, turn.action.IsConfined) :
    (FacadeSession.run start turns).facade.store.tree.IsOrdinary ∧
      (FacadeSession.run start turns).facade.Sound config Follows := by
  have holdsSome := fun side =>
    (FacadeConfig.roomy_of_validate (validate_of_create created) side).1
  have starts : start.store.tree.IsOrdinary ∧ start.Sound config Follows := by
    refine ⟨?_, sound_create created Follows⟩
    rw [eq_of_create created]
    exact ordinary
  refine FacadeSession.run_keeps
    (fun facade => facade.store.tree.IsOrdinary ∧ facade.Sound config Follows)
      starts
    fun facade time turn present kept => ?_
  have differ := fun side => (kept.2 side).custody.keysDiffer
  have acts := acts_perform differ time turn.action
  exact ⟨acts.isOrdinary kept.1 (confined turn present),
    acts.sound_follows holdsSome kept.1 (confined turn present) kept.2⟩

/-! ## What is read -/

/-- Handles on one node read the same bytes. -/
theorem reads_eq_of_node_eq
    {left right : FileHandle}
    (sameWrites : left.mode.writes = right.mode.writes)
    {descriptor : Descriptor}
    (held : left.descriptor = some descriptor)
    (other : Descriptor)
    (otherHeld : right.descriptor = some other)
    (sameNode : descriptor.node = other.node)
    (tree : Tree)
    (length : Nat)
    (offset : UInt64) :
    left.readAt tree length offset = right.readAt tree length offset ∧
      left.readExactAt tree length offset =
        right.readExactAt tree length offset := by
  have same : left.readAt tree length offset =
      right.readAt tree length offset := by
    simp only [FileHandle.readAt, FileHandle.live, held, otherHeld,
      sameWrites, bind, Except.bind, sameNode]
  refine ⟨same, ?_⟩
  simp only [FileHandle.readExactAt, FileHandle.live, held, otherHeld, same,
    bind, Except.bind]

/-- A handle that is given out open fits the key that was asked for. -/
theorem Answers.fits_of_isOpen
    {fits : Tree → Side → String → FileHandle → Prop}
    (roomy : ∀ side, (config.pool side).maxSize ≠ 0 ∧
      0 < (config.pool side).idle.totalNanos)
    (sound : facade.Sound config fits)
    (answers : Answers facade time request (.ok issued) after)
    (soundAfter : after.Sound config fits)
    {resolved : Resolved}
    (isResolved : facade.resolve request.path = .ok resolved)
    (found : after.handle? issued = some handle)
    (isOpen : handle.isOpen = true) :
    fits after.store.tree request.side resolved.key handle := by
  have prompt := (answers.isOpen_iff roomy sound soundAfter found).mp isOpen
  obtain ⟨sameResolved, isSame, present⟩ :=
    answers.mem_entries roomy sound prompt
  cases isSame.symm.trans isResolved
  obtain ⟨kept, foundKept, -, fitting⟩ :=
    (soundAfter request.side).exists_handle present
  obtain ⟨-, -, onSide⟩ := answers.exists_resolved
  rw [handle?, onSide] at found
  cases found.symm.trans foundKept
  exact fitting

/-- A request is answered with a handle of the normal form of its path. -/
theorem Answers.path_eq
    (holdsSome : ∀ side, (config.pool side).maxSize ≠ 0)
    (sound : facade.Sound config Follows)
    (answers : Answers facade time request (.ok issued) after)
    (startsInText : facade.store.tree.workingDirectory.val.IsText)
    (isText : request.path.IsText)
    {resolved : Resolved}
    (isResolved : facade.resolve request.path = .ok resolved) :
    ∃ handle, after.handle? issued = some handle ∧
      handle.path = resolved.path := by
  by_cases missing :
    (facade.pool request.side).live? time.starts resolved.key = none
  · obtain ⟨opened, handle, opens, found, samePath, -⟩ :=
      answers.exists_opened holdsSome sound isResolved missing
    exact ⟨handle, found, samePath.trans (path_of_openFile opens).1⟩
  · obtain ⟨cached, handle, -, follows, found, samePath, -⟩ :=
      answers.exists_cached holdsSome sound isResolved missing
    refine ⟨handle, found,
      samePath.trans (follows.isText.eq_of_display_eq ?_ ?_)⟩
    · exact Resolved.isText isResolved startsInText isText
    · rw [follows.key_eq, Resolved.key_eq isResolved]

/-- After a confined session a request is answered with a handle of the path
that was asked for; if it is open, it follows that path. -/
theorem follows_of_request
    {store : RestrictedTree}
    {start : Facade RestrictedTree}
    {turns : List FacadeTurn}
    (ordinary : store.tree.IsOrdinary)
    (created : create config store = .ok start)
    (confined : ∀ turn ∈ turns, turn.action.IsConfined)
    (reached : (FacadeSession.run start turns).facade = facade)
    (isText : request.path.IsText)
    (answered : facade.request time request = (.ok issued, after)) :
    ∃ resolved handle, facade.resolve request.path = .ok resolved ∧
      after.handle? issued = some handle ∧ handle.path = resolved.path ∧
      (handle.isOpen = true ↔ facade.Prompt config time request) ∧
      (handle.isOpen = true →
        Follows after.store.tree request.side resolved.key handle) := by
  subst reached
  have roomy := FacadeConfig.roomy_of_validate (validate_of_create created)
  have holdsSome := fun side => (roomy side).1
  obtain ⟨ordinaryNow, sound⟩ := sound_run_follows ordinary created confined
  have differ := fun side => (sound side).custody.keysDiffer
  have answers := answers_request differ time request
  rw [answered] at answers
  have soundAfter :=
    (answers.acts differ).sound_follows holdsSome ordinaryNow isText sound
  obtain ⟨resolved, isResolved, -⟩ := answers.exists_resolved
  obtain ⟨handle, found, samePath⟩ :=
    answers.path_eq holdsSome sound ordinaryNow.startsInText isText isResolved
  exact ⟨resolved, handle, isResolved, found, samePath,
    answers.isOpen_iff roomy sound soundAfter found,
    answers.fits_of_isOpen roomy sound soundAfter isResolved found⟩

/-- After any session of one façade over a tree without links, a request for a
path that is a text is answered with a handle of the normal form of that path.
It is open if the request found it in the pool, or put the pool in order less
than the idle time after it was kept.  A handle that is open is on the node that
the path leads to, and what is read through it is what a handle of its side
reads that is opened afresh, when the system lets it be opened. -/
theorem leads_of_request
    {store : RestrictedTree}
    {start : Facade RestrictedTree}
    {turns : List FacadeTurn}
    (ordinary : store.tree.IsOrdinary)
    (created : create config store = .ok start)
    (confined : ∀ turn ∈ turns, turn.action.IsConfined)
    (reached : (FacadeSession.run start turns).facade = facade)
    (isText : request.path.IsText)
    (answered : facade.request time request = (.ok issued, after)) :
    ∃ resolved handle, facade.resolve request.path = .ok resolved ∧
      after.handle? issued = some handle ∧ handle.path = resolved.path ∧
      (handle.isOpen = true ↔ facade.Prompt config time request) ∧
      (handle.isOpen = true → ∃ descriptor fresh,
        handle.descriptor = some descriptor ∧
        after.store.tree.Leads resolved.path descriptor.node ∧
        FileStore.openFile resolved.path request.side.mode after.store.tree =
          (.ok fresh, after.store.tree) ∧
        (after.store.refusal = none →
          FileStore.openFile resolved.path request.side.mode after.store =
            (.ok fresh, after.store)) ∧
        ∀ length offset,
          handle.readAt after.store.tree length offset =
            fresh.readAt after.store.tree length offset ∧
          handle.readExactAt after.store.tree length offset =
            fresh.readExactAt after.store.tree length offset) := by
  obtain ⟨resolved, handle, isResolved, found, samePath, isOpen_iff, follows⟩ :=
    follows_of_request ordinary created confined reached isText answered
  refine ⟨resolved, handle, isResolved, found, samePath, isOpen_iff,
    fun isOpen => ?_⟩
  obtain ⟨belongs, -, -, descriptor, held, leads, isFile⟩ := follows isOpen
  rw [samePath] at leads
  have opens :
      FileStore.openFile resolved.path request.side.mode after.store.tree =
      (.ok { path := resolved.path, mode := request.side.mode,
             descriptor := some { node := descriptor.node } },
             after.store.tree) := by
    cases onSide : request.side with
    | read => exact Tree.openFile_read_of_leads leads
    | write =>
        obtain ⟨contents, isContents⟩ := isFile onSide
        exact Tree.openFile_write_of_leads leads isContents
  refine ⟨descriptor, _, held, leads, opens,
    RestrictedTree.openFile_of_unrefused opens, fun length offset => ?_⟩
  have sameWrites : handle.mode.writes = request.side.mode.writes := by
    rw [Bool.eq_iff_iff, belongs.writes_iff]
    cases request.side <;> decide
  exact reads_eq_of_node_eq sameWrites held { node := descriptor.node } rfl rfl
    after.store.tree length offset

/-- A file is read, deleted and created again. -/
def recreation : List FacadeTurn :=
  [⟨0, .createFile plainSpelling ⟨0o644⟩, 0, 0⟩,
    ⟨0, .request (.toRead plainSpelling), 0, 0⟩,
    ⟨0, .delete dottedSpelling, 0, 0⟩,
    ⟨0, .createFile dottedSpelling ⟨0o644⟩, 0, 0⟩]

theorem isText_plainSpelling : plainSpelling.IsText := ⟨"/f", by decide⟩

theorem isText_dottedSpelling : dottedSpelling.IsText := ⟨"/./f", by decide⟩

theorem isConfined_recreation :
    ∀ turn ∈ recreation, turn.action.IsConfined := by
  simp [recreation, FacadeAction.IsConfined, FileRequest.path,
    isText_plainSpelling, isText_dottedSpelling]

/-- Nothing but a root is an ordinary tree. -/
theorem isOrdinary_empty : RestrictedTree.empty.tree.IsOrdinary :=
  ⟨Tree.isPlain_empty, "/", by decide⟩

/-- The new file is what is read next, not the one that was deleted.  The handle
may take longer to open than handles are kept idle. -/
theorem leads_of_request_of_recreation :
    ∃ start, create {} RestrictedTree.empty = .ok start ∧
      let facade := (FacadeSession.run start recreation).facade
      ∃ issued after, facade.request (.lasting 0 600000000000 1)
        (.toRead plainSpelling) = (.ok issued, after) ∧
        ∃ handle descriptor, after.handle? issued = some handle ∧
          handle.isOpen = true ∧ handle.descriptor = some descriptor ∧
          after.store.tree.Leads plainSpelling descriptor.node := by
  refine ⟨_, rfl, ?_⟩
  intro facade
  obtain ⟨result, answered⟩ : ∃ result, result =
    facade.request (.lasting 0 600000000000 1) (.toRead plainSpelling) :=
      ⟨_, rfl⟩
  have succeeds : result.1.toOption = some ⟨.read, 1⟩ := by
    rw [answered]
    decide +kernel
  obtain ⟨outcome, after⟩ := result
  cases outcome with
  | error error => cases succeeds
  | ok issued =>
      have asksText : (FileRequest.toRead plainSpelling).path.IsText :=
        isText_plainSpelling
      obtain ⟨resolved, handle, isResolved, found, -, isOpen_iff, leads⟩ :=
        leads_of_request isOrdinary_empty
          (show create {} RestrictedTree.empty = .ok _ from rfl)
          isConfined_recreation rfl asksText answered.symm
      have isOpen := isOpen_iff.mpr (.inr (by decide))
      obtain ⟨descriptor, -, held, leads, -⟩ := leads isOpen
      have isPath : (facade.resolve plainSpelling).toOption.map Resolved.path =
          some plainSpelling := by
        decide +kernel
      rw [show facade.resolve plainSpelling = .ok resolved from isResolved,
        Except.toOption, Option.map_some, Option.some.injEq] at isPath
      rw [isPath] at leads
      exact ⟨issued, after, answered.symm, handle, descriptor, found,
        isOpen, held, leads⟩

/-- With an idle time of one nanosecond, a handle is closed before it is given
out, if it takes as long from when it is kept until its pool is put in order. -/
theorem closed_of_short_idle_time :
    ∃ start answer, create { readIdle := ⟨0, 1, by decide⟩ }
      RestrictedTree.empty = .ok start ∧
      (FacadeSession.run start
        [⟨0, .createFile plainSpelling ⟨0o644⟩, 0, 0⟩]).facade.request
        (.lasting 0 0 1) (.toRead plainSpelling) = answer ∧
      answer.1.toOption = some ⟨.read, 0⟩ ∧
      (answer.2.handle? ⟨.read, 0⟩).map FileHandle.isOpen = some false := by
  refine ⟨_, _, rfl, rfl, ?_, ?_⟩
  · decide +kernel
  · decide +kernel

end Facade
end HandlePool
