import HandlePool.Proofs.Facade.Session
import HandlePool.Proofs.Path

/-!
# Paths that share a handle

A façade keeps handles under the keys of their paths, so a request is answered
with a handle whose path has the key that was asked for.  Paths that are texts
have different keys; the keys of other paths tell them apart only as far as they
can be shown.  Creating or deleting a path closes no handle of another key,
apart from one that expired.
-/

namespace HandlePool

open TrackedHandle

theorem Resolved.key_eq
    {base : AbsolutePath}
    {path : Path}
    {resolved : Resolved}
    (isResolved : Resolved.ofPath base path = .ok resolved) :
    resolved.key = resolved.path.display := by
  obtain ⟨normal, -, rfl⟩ := map_eq_ok_iff.mp isResolved
  rfl

namespace Facade

open Pool

variable
  {config : FacadeConfig}
  {fits : Tree → Side → String → FileHandle → Prop}
  {facade after : Facade RestrictedTree}
  {time : CallTime}
  {request : FileRequest}
  {issued : Issued}

theorem validate_of_create
    {σ : Type}
    {store : σ}
    {facade : Facade σ}
    (created : create config store = .ok facade) :
    config.validate = .ok () := by
  unfold create at created
  cases valid : config.validate with
  | error error =>
      rw [valid] at created
      cases created
  | ok => rfl

theorem sound_create
    {store : RestrictedTree}
    (created : create config store = .ok facade)
    (fits : Tree → Side → String → FileHandle → Prop) :
    facade.Sound config fits := by
  rw [eq_of_create created]
  intro side
  cases side with
  | read =>
      exact Pool.sound_create config.readPool (fits store.tree .read)
        Side.read.name
  | write =>
      exact Pool.sound_create config.writePool (fits store.tree .write)
        Side.write.name

/-! ## The handle of an answer -/

/-- A request that is answered with a handle resolves its path. -/
theorem Answers.exists_resolved
    (answers : Answers facade time request (.ok issued) after) :
    ∃ resolved, facade.resolve request.path = .ok resolved ∧
      issued.side = request.side := by
  cases answers with
  | hit isResolved => exact ⟨_, isResolved, rfl⟩
  | opened isResolved => exact ⟨_, isResolved, rfl⟩

theorem Answers.isAdmissible
    (answers : Answers facade time request (.ok issued) after) :
    request.isAdmissible = true := by
  cases answers with
  | hit _ _ _ _ _ admissible => exact admissible
  | opened _ _ _ _ _ _ admissible => exact admissible

/-- A handle that was given out keeps its path and its mode. -/
theorem Answers.exists_handle
    {result : Except IoError Issued}
    (holdsSome : ∀ side, (config.pool side).maxSize ≠ 0)
    (sound : facade.Sound config fits)
    (answers : Answers facade time request result after)
    {given : Issued}
    {handle : FileHandle}
    (found : facade.handle? given = some handle) :
    ∃ later, after.handle? given = some later ∧
      later.path = handle.path ∧ later.mode = handle.mode := by
  have differ := fun side => (sound side).custody.keysDiffer
  obtain ⟨side, number⟩ := given
  change (facade.pool side).handles[number]? = some handle at found
  change ∃ later, (after.pool side).handles[number]? = some later ∧ _
  have same : Same (facade.pool side) (after.pool side) →
      ∃ later, (after.pool side).handles[number]? = some later ∧
        later.path = handle.path ∧ later.mode = handle.mode :=
    fun same => ⟨handle, by rwa [same.handles_eq], rfl, rfl⟩
  by_cases asked : side = request.side
  · subst asked
    cases answers with
    | refused _ pools => exact same (pools request.side)
    | hit isResolved hit pool =>
        rw [pool.handles_eq]
        exact (evolves_seek time.starts (differ request.side) _).exists_handle
          found
    | failed isResolved missing opened becomes =>
        obtain ⟨evolved, evolves, pool⟩ := becomes
        rw [pool.handles_eq]
        exact evolves.exists_handle found
    | @opened resolved opened sought _ isResolved missing opens evolves pool =>
        have soughtSound := (sound request.side).evolves evolves
        obtain ⟨middle, foundMiddle, samePath, sameMode⟩ :=
          evolves.exists_handle found
        have enrolled : (sought.enroll opened).2.handles[number]? =
            some middle := by
          rw [enroll, List.getElem?_append_left
            (List.getElem?_eq_some_iff.mp foundMiddle).1]
          exact foundMiddle
        have soughtHoldsSome := holdsSome request.side
        rw [← soughtSound.config_eq] at soughtHoldsSome
        obtain ⟨later, foundLater, samePathToo, sameModeToo⟩ :=
          exists_handle_adopt soughtSound.custody.keysDiffer soughtHoldsSome
            (evolves.live?_eq_none (differ request.side) missing) enrolled
        rw [pool.handles_eq]
        exact ⟨later, foundLater, samePathToo.trans samePath,
          sameModeToo.trans sameMode⟩
  · cases answers with
    | refused _ pools => exact same (pools side)
    | hit _ _ _ others => exact same (others side asked)
    | failed _ _ _ _ others => exact same (others side asked)
    | opened _ _ _ _ _ others => exact same (others side asked)

/-- A request is answered with the handle of a live entry, if there is one. -/
theorem Answers.exists_cached
    (holdsSome : ∀ side, (config.pool side).maxSize ≠ 0)
    (sound : facade.Sound config fits)
    (answers : Answers facade time request (.ok issued) after)
    {resolved : Resolved}
    (isResolved : facade.resolve request.path = .ok resolved)
    (live : (facade.pool request.side).live? time.starts resolved.key ≠ none) :
    ∃ cached handle, facade.handle? issued = some cached ∧
      fits facade.store.tree request.side resolved.key cached ∧
      after.handle? issued = some handle ∧ handle.path = cached.path ∧
      handle.mode = cached.mode := by
  have differ := (sound request.side).custody.keysDiffer
  have again := answers
  cases answers with
  | opened isSame missing =>
      cases isSame.symm.trans isResolved
      exact absurd missing live
  | hit isSame hit =>
      cases isSame.symm.trans isResolved
      obtain ⟨entry, found, rfl⟩ := Option.map_eq_some_iff.mp hit
      obtain ⟨present, keyed, -⟩ := differ.live?_eq_some_iff.mp found
      obtain ⟨cached, foundCached, -, fitting⟩ :=
        (sound request.side).exists_handle present
      have given : facade.handle? ⟨request.side, entry.handle⟩ = some cached :=
        foundCached
      obtain ⟨handle, foundHandle, samePath, sameMode⟩ :=
        again.exists_handle holdsSome sound given
      rw [keyed] at fitting
      exact ⟨cached, handle, given, fitting, foundHandle, samePath, sameMode⟩

/-- Otherwise it is answered with a handle that is opened. -/
theorem Answers.exists_opened
    (holdsSome : ∀ side, (config.pool side).maxSize ≠ 0)
    (sound : facade.Sound config fits)
    (answers : Answers facade time request (.ok issued) after)
    {resolved : Resolved}
    (isResolved : facade.resolve request.path = .ok resolved)
    (missing : (facade.pool request.side).live? time.starts
      resolved.key = none) :
    ∃ opened handle,
      FileStore.openFile resolved.path request.mode facade.store =
        (.ok opened, after.store) ∧
      after.handle? issued = some handle ∧ handle.path = opened.path ∧
      handle.mode = opened.mode := by
  have differ := (sound request.side).custody.keysDiffer
  cases answers with
  | hit isSame hit =>
      cases isSame.symm.trans isResolved
      rw [missing] at hit
      cases hit
  | @opened _ opened sought _ isSame _ opens evolves pool =>
      cases isSame.symm.trans isResolved
      have soughtSound := (sound request.side).evolves evolves
      have soughtHoldsSome := holdsSome request.side
      rw [← soughtSound.config_eq] at soughtHoldsSome
      have enrolled : (sought.enroll opened).2.handles[sought.handles.length]? =
          some opened :=
        List.getElem?_concat_length
      obtain ⟨handle, found, samePath, sameMode⟩ := exists_handle_adopt
        soughtSound.custody.keysDiffer soughtHoldsSome
          (evolves.live?_eq_none differ missing)
        enrolled
      refine ⟨opened, handle, opens, ?_, samePath, sameMode⟩
      rw [handle?, pool.handles_eq]
      exact found

/-- The key of a request has a live entry. -/
def finds (facade : Facade RestrictedTree) (time : CallTime)
    (request : FileRequest) : Bool :=
  match facade.resolve request.path with
  | .error _ => false
  | .ok resolved => (facade.pool request.side).contains time.starts resolved.key

/-- When the entry that a request is answered from counts as used: at once if
there is one, and else when the handle that was opened is kept. -/
def usedAt (facade : Facade RestrictedTree) (time : CallTime)
    (request : FileRequest) :
    Instant :=
  if facade.finds time request then time.starts else time.inserts

/-- The request finds a live entry, or puts its pool in order less than
the idle time after the handle was kept.  How long it takes to open the
handle does not matter. -/
def Prompt (config : FacadeConfig) (facade : Facade RestrictedTree)
    (time : CallTime) (request : FileRequest) : Prop :=
  facade.finds time request = true ∨
    time.settles < time.inserts + (config.pool request.side).idle.totalNanos

theorem finds_eq_contains
    {resolved : Resolved}
    (isResolved : facade.resolve request.path = .ok resolved)
    (time : CallTime) :
    facade.finds time request =
      (facade.pool request.side).contains time.starts resolved.key := by
  rw [finds, isResolved]

/-- A handle that a prompt request is answered with is kept under the key of its
path, as the one that was used last. -/
theorem Answers.mem_entries
    (roomy : ∀ side, (config.pool side).maxSize ≠ 0 ∧
      0 < (config.pool side).idle.totalNanos)
    (sound : facade.Sound config fits)
    (answers : Answers facade time request (.ok issued) after)
    (prompt : facade.Prompt config time request) :
    ∃ resolved, facade.resolve request.path = .ok resolved ∧
      ⟨resolved.key, issued.number, facade.usedAt time request⟩ ∈
        (after.pool request.side).entries := by
  have differ := (sound request.side).custody.keysDiffer
  obtain ⟨holdsSome, lasts⟩ := roomy request.side
  cases answers with
  | @hit resolved number _ isResolved hit pool =>
      have found : facade.finds time request = true := by
        obtain ⟨entry, live, -⟩ := Option.map_eq_some_iff.mp hit
        rw [finds_eq_contains isResolved, contains, live, Option.isSome_some]
      refine ⟨resolved, isResolved, ?_⟩
      rw [pool.entries_eq, usedAt, if_pos found]
      exact (sound request.side).mem_entries_seek lasts hit
  | @opened resolved opened sought _ isResolved missing opens evolves pool =>
      have notFound : ¬facade.finds time request = true := by
        rw [finds_eq_contains isResolved, contains, missing]
        exact Bool.false_ne_true
      have inTime := prompt.resolve_left notFound
      have soughtSound := (sound request.side).evolves evolves
      rw [← soughtSound.config_eq] at holdsSome inTime
      refine ⟨resolved, isResolved, ?_⟩
      rw [pool.entries_eq, usedAt, if_neg notFound]
      exact mem_entries_adopt soughtSound.custody.keysDiffer holdsSome inTime
        (evolves.live?_eq_none differ missing) opened

/-- A handle is given out open if the request is prompt, and
otherwise it is not. -/
theorem Answers.isOpen_iff
    (roomy : ∀ side, (config.pool side).maxSize ≠ 0 ∧
      0 < (config.pool side).idle.totalNanos)
    (sound : facade.Sound config fits)
    (answers : Answers facade time request (.ok issued) after)
    (soundAfter : after.Sound config fits)
    {handle : FileHandle}
    (found : after.handle? issued = some handle) :
    handle.isOpen = true ↔ facade.Prompt config time request := by
  have differ := (sound request.side).custody.keysDiffer
  obtain ⟨-, -, onSide⟩ := answers.exists_resolved
  rw [handle?, onSide] at found
  constructor
  · intro isOpen
    have holds := (soundAfter request.side).holds_of_isOpen found isOpen
    cases answers with
    | hit isResolved hit =>
        obtain ⟨entry, live, -⟩ := Option.map_eq_some_iff.mp hit
        left
        rw [finds_eq_contains isResolved, contains, live, Option.isSome_some]
    | @opened resolved opened sought _ isResolved missing opens evolves pool =>
        right
        by_contra late
        have soughtSound := (sound request.side).evolves evolves
        rw [Holds, pool.entries_eq] at holds
        exact soughtSound.not_holds_adopt (roomy request.side).1
          (Nat.not_lt.mp late)
          (evolves.live?_eq_none differ missing) opened holds
  · intro prompt
    obtain ⟨resolved, isResolved, present⟩ :=
      answers.mem_entries roomy sound prompt
    obtain ⟨kept, foundKept, isOpen, -⟩ :=
      (soundAfter request.side).exists_handle present
    cases found.symm.trans foundKept
    exact isOpen

/-! ## Keys -/

/-- The handle was opened with a path of that key, in a mode for that side. -/
structure Belongs (_ : Tree) (side : Side) (key : String)
    (handle : FileHandle) : Prop where
  key_eq : handle.path.display = key
  writes_iff : handle.mode.writes = true ↔ side = .write

theorem path_of_openFile
    {store later : RestrictedTree}
    {path : Path}
    {mode : OpenMode}
    {handle : FileHandle}
    (opened : FileStore.openFile path mode store = (.ok handle, later)) :
    handle.path = path ∧ handle.mode = mode := by
  obtain ⟨-, opened⟩ := RestrictedTree.of_pass opened
  obtain ⟨node, -, rfl⟩ := Tree.openFile_eq_ok_iff.mp opened
  exact ⟨rfl, rfl⟩

theorem belongs_of_openFile
    {store later : RestrictedTree}
    {tree : Tree}
    {resolved : Resolved}
    {handle : FileHandle}
    (admissible : request.isAdmissible = true)
    (isResolved : facade.resolve request.path = .ok resolved)
    (opened : FileStore.openFile resolved.path request.mode store =
      (.ok handle, later)) :
    Belongs tree request.side resolved.key handle := by
  obtain ⟨samePath, sameMode⟩ := path_of_openFile opened
  refine ⟨?_, ?_⟩
  · rw [samePath, Resolved.key_eq isResolved]
  · rw [sameMode]
    exact FileRequest.isAdmissible_iff.mp admissible

/-- Writing through a handle leaves it where it belongs. -/
theorem Belongs.run
    {later : Tree}
    {side : Side}
    {key : String}
    {handle : FileHandle}
    (belongs : Belongs later side key handle)
    (write : FileWrite)
    (tree : Tree) :
    Belongs later side key (write.run handle tree).1 := by
  obtain ⟨samePath, sameMode, -⟩ := write.run_handle handle tree
  refine ⟨?_, ?_⟩
  · rw [samePath, belongs.key_eq]
  · rw [sameMode, belongs.writes_iff]

theorem Acts.sound_belongs
    {action : FacadeAction}
    (holdsSome : ∀ side, (config.pool side).maxSize ≠ 0)
    (acts : Acts facade time action after)
    (sound : facade.Sound config Belongs) :
    after.Sound config Belongs := by
  refine acts.sound holdsSome sound ?_ ?_ ?_
  · exact fun request resolved handle _ => belongs_of_openFile
  · exact fun side key handle belongs _ => ⟨belongs.key_eq, belongs.writes_iff⟩
  · exact fun issued write _ side key handle belongs =>
      belongs.run write facade.store.tree

theorem sound_run_belongs
    {store : RestrictedTree}
    {start : Facade RestrictedTree}
    (created : create config store = .ok start)
    (turns : List FacadeTurn) :
    (FacadeSession.run start turns).facade.Sound config Belongs := by
  have holdsSome := fun side =>
    (FacadeConfig.roomy_of_validate (validate_of_create created) side).1
  refine FacadeSession.run_keeps (Sound config Belongs)
    (sound_create created Belongs) fun facade time turn _ sound => ?_
  have differ := fun side => (sound side).custody.keysDiffer
  exact (acts_perform differ time turn.action).sound_belongs holdsSome sound

/-- A request is answered with a handle whose path has the
key that was asked for. -/
theorem Answers.display_eq
    (holdsSome : ∀ side, (config.pool side).maxSize ≠ 0)
    (sound : facade.Sound config Belongs)
    (answers : Answers facade time request (.ok issued) after) :
    ∃ resolved handle, facade.resolve request.path = .ok resolved ∧
      after.handle? issued = some handle ∧
      handle.path.display = resolved.path.display := by
  obtain ⟨resolved, isResolved, -⟩ := answers.exists_resolved
  by_cases missing :
    (facade.pool request.side).live? time.starts resolved.key = none
  · obtain ⟨opened, handle, opens, found, samePath, -⟩ :=
      answers.exists_opened holdsSome sound isResolved missing
    refine ⟨resolved, handle, isResolved, found, ?_⟩
    rw [samePath, (path_of_openFile opens).1]
  · obtain ⟨cached, handle, -, fitting, found, samePath, -⟩ :=
      answers.exists_cached holdsSome sound isResolved missing
    refine ⟨resolved, handle, isResolved, found, ?_⟩
    rw [samePath, ← Resolved.key_eq isResolved]
    exact fitting.key_eq

/-- While its handle is kept, a request is answered like another one exactly if
the keys of their paths are the same. -/
theorem Answers.eq_ok_iff
    {final : Facade RestrictedTree}
    {later : CallTime}
    {other : FileRequest}
    {result : Except IoError Issued}
    (roomy : ∀ side, (config.pool side).maxSize ≠ 0 ∧
      0 < (config.pool side).idle.totalNanos)
    (sound : facade.Sound config Belongs)
    (answers : Answers facade time request (.ok issued) after)
    (answersLater : Answers after later other result final)
    (sameSide : other.side = request.side)
    (admissible : other.isAdmissible = true)
    (inOrder : time.settles ≤ later.starts)
    (inTime : later.starts <
      facade.usedAt time request + (config.pool request.side).idle.totalNanos)
    {resolved otherResolved : Resolved}
    (isResolved : facade.resolve request.path = .ok resolved)
    (otherIsResolved : after.resolve other.path = .ok otherResolved) :
    result = .ok issued ↔
      otherResolved.path.display = resolved.path.display := by
  have holdsSome := fun side => (roomy side).1
  have differ := fun side => (sound side).custody.keysDiffer
  have soundAfter := (answers.acts differ).sound_belongs holdsSome sound
  constructor
  · rintro rfl
    obtain ⟨sameResolved, handle, isSame, found, shown⟩ :=
      answers.display_eq holdsSome sound
    cases isSame.symm.trans isResolved
    obtain ⟨sameOther, laterHandle, isSameOther, foundLater, shownLater⟩ :=
      answersLater.display_eq holdsSome soundAfter
    cases isSameOther.symm.trans otherIsResolved
    obtain ⟨kept, foundKept, samePath, -⟩ :=
      answersLater.exists_handle holdsSome soundAfter found
    cases foundKept.symm.trans foundLater
    rw [← shown, ← shownLater, samePath]
  · intro shown
    rw [← Resolved.key_eq isResolved, ← Resolved.key_eq otherIsResolved]
      at shown
    have prompt : facade.Prompt config time request := by
      by_cases found : facade.finds time request = true
      · exact .inl found
      · rw [usedAt, if_neg found] at inTime
        exact .inr (Nat.lt_of_le_of_lt inOrder inTime)
    obtain ⟨sameResolved, isSame, present⟩ :=
      answers.mem_entries roomy sound prompt
    cases isSame.symm.trans isResolved
    have live : (after.pool other.side).live? later.starts otherResolved.key =
        some ⟨resolved.key, issued.number, facade.usedAt time request⟩ := by
      rw [sameSide, shown,
        (soundAfter request.side).custody.keysDiffer.live?_eq_some_iff]
      refine ⟨present, rfl, ?_⟩
      rw [isExpired, (soundAfter request.side).config_eq]
      exact decide_eq_false (Nat.not_le_of_lt inTime)
    have onSide : issued.side = other.side := by
      obtain ⟨-, -, onSide⟩ := answers.exists_resolved
      rw [onSide, sameSide]
    cases answersLater with
    | refused reason => exact absurd ⟨admissible, _, otherIsResolved⟩ reason
    | hit isSameOther hit =>
        cases isSameOther.symm.trans otherIsResolved
        rw [live, Option.map_some, Option.some.injEq] at hit
        rw [← hit, ← onSide]
    | failed isSameOther missing =>
        cases isSameOther.symm.trans otherIsResolved
        cases live.symm.trans missing
    | opened isSameOther missing =>
        cases isSameOther.symm.trans otherIsResolved
        cases live.symm.trans missing

/-- Removing a key closes the handle of that key, and handles
whose entries expired. -/
theorem Sound.key_eq_or_isExpired
    {action : FacadeAction}
    {key : String}
    (sound : facade.Sound config Belongs)
    (acts : Acts facade time action after)
    (removes : facade.Removes action key)
    {handle closed : FileHandle}
    (found : facade.handle? issued = some handle)
    (isOpen : handle.isOpen = true)
    (foundAfter : after.handle? issued = some closed)
    (isClosed : closed.isOpen = false) :
    handle.path.display = key ∨ ∃ entry ∈ (facade.pool issued.side).entries,
      entry.handle = issued.number ∧
        (facade.pool issued.side).isExpired time.starts entry = true := by
  have pool : Same ((facade.pool issued.side).invalidate time.starts key)
      (after.pool issued.side) := by
    cases acts with
    | quiet removesNone => exact absurd removes (removesNone key)
    | opens | writes => exact absurd removes id
    | creates isResolved pools | deletes isResolved pools =>
        obtain ⟨resolved, isRemoved, rfl⟩ := removes
        cases isResolved.symm.trans isRemoved
        exact pools issued.side
    | @stores action _ _ changes =>
        cases action <;> first | exact absurd removes id | cases changes
  have poolSound := sound issued.side
  have differ := poolSound.custody.keysDiffer
  obtain ⟨entry, present, held⟩ := poolSound.holds_of_isOpen found isOpen
  by_cases expired :
    (facade.pool issued.side).isExpired time.starts entry = true
  · exact .inr ⟨entry, present, held, expired⟩
  · left
    have fitting : handle.path.display = entry.key :=
      (poolSound.fits entry present handle (by rwa [held])).key_eq
    rw [fitting]
    by_contra different
    -- The entry is live and not of the key, so it stays, and its handle stays
    -- open.
    have stays :
        entry ∈ ((facade.pool issued.side).drop time.starts key).liveEntries
        time.starts := by
      rw [liveEntries_drop differ poolSound.inBounds, Entry.without,
        List.mem_filter]
      refine ⟨mem_liveEntries.mpr ⟨present, Bool.eq_false_iff.mpr expired⟩, ?_⟩
      exact bne_iff_ne.mpr different
    have evolves := evolves_invalidate time.starts differ key
    obtain ⟨handle, foundHandle, stillOpen, -⟩ :=
      (poolSound.evolves evolves).exists_handle (mem_liveEntries.mp stays).1
    rw [handle?, pool.handles_eq] at foundAfter
    rw [held] at foundHandle
    cases foundAfter.symm.trans foundHandle
    exact Bool.false_ne_true (isClosed.symm.trans stillOpen)

/-- After any session, a request is answered with a handle whose path is
shown like the normal form of the path that was asked for; where both are
texts, or no replacement is shown, they are the same.  As long as that handle
may be kept, a request for another path is answered with it exactly if the
normal forms are shown alike, which for texts means that they are the same.
Creating or deleting a path closes no handle whose path is shown otherwise,
unless its entry expired. -/
theorem handle_path_of_request
    {store : RestrictedTree}
    {start : Facade RestrictedTree}
    {turns : List FacadeTurn}
    (created : create config store = .ok start)
    (reached : (FacadeSession.run start turns).facade = facade) :
    (∀ time request issued after,
      facade.request time request = (.ok issued, after) →
      ∃ resolved handle, facade.resolve request.path = .ok resolved ∧
        after.handle? issued = some handle ∧
        handle.path.display = resolved.path.display ∧
        (handle.path.IsText → resolved.path.IsText →
          handle.path = resolved.path) ∧
        (Utf8.replacement ∉ resolved.path.display.toList →
          handle.path = resolved.path) ∧
        ∀ (later : CallTime) other otherResolved,
          other.side = request.side → other.isAdmissible = true →
          after.resolve other.path = .ok otherResolved →
          time.settles ≤ later.starts →
          later.starts < facade.usedAt time request +
            (config.pool request.side).idle.totalNanos →
          ((after.request later other).1 = .ok issued ↔
            otherResolved.path.display = resolved.path.display) ∧
          (otherResolved.path.IsText → resolved.path.IsText →
            ((after.request later other).1 = .ok issued ↔
              otherResolved.path = resolved.path))) ∧
    ∀ (time : CallTime) action key, facade.Removes action key →
      ∀ issued handle closed,
      facade.handle? issued = some handle → handle.isOpen = true →
      (facade.perform time action).handle? issued = some closed →
      closed.isOpen = false →
      handle.path.display = key ∨ ∃ entry ∈ (facade.pool issued.side).entries,
        entry.handle = issued.number ∧
          (facade.pool issued.side).isExpired time.starts entry = true := by
  subst reached
  have roomy := FacadeConfig.roomy_of_validate (validate_of_create created)
  have sound := sound_run_belongs created turns
  have differ := fun side => (sound side).custody.keysDiffer
  refine ⟨?_, ?_⟩
  · intro time request issued after answered
    have answers := answers_request differ time request
    rw [answered] at answers
    obtain ⟨resolved, handle, isResolved, found, shown⟩ :=
      answers.display_eq (fun side => (roomy side).1) sound
    refine ⟨resolved, handle, isResolved, found, shown, ?_, ?_, ?_⟩
    · exact fun isText otherIsText => isText.eq_of_display_eq otherIsText shown
    · exact fun unreplaced => Path.eq_of_display_eq_of_notMem unreplaced shown
    · intro later other otherResolved sameSide admissible otherIsResolved
        inOrder inTime
      have soundAfter :=
        (answers.acts differ).sound_belongs (fun side => (roomy side).1) sound
      have answersLater :=
        answers_request (fun side => (soundAfter side).custody.keysDiffer)
          later other
      have shares :=
        answers.eq_ok_iff roomy sound answersLater sameSide admissible inOrder
        inTime isResolved otherIsResolved
      refine ⟨shares, fun isText otherIsText => shares.trans ⟨?_, ?_⟩⟩
      · exact isText.eq_of_display_eq otherIsText
      · exact congrArg Path.display
  · intro time action key removes issued handle closed found isOpen
      foundAfter isClosed
    exact sound.key_eq_or_isExpired (acts_perform differ time action)
      removes found isOpen foundAfter isClosed

/-- A path, and another spelling of it with a dot. -/
def plainSpelling : Path := ⟨[0x2F, 0x66]⟩

def dottedSpelling : Path := ⟨[0x2F, 0x2E, 0x2F, 0x66]⟩

/-- Two spellings of one path share a handle. -/
theorem handle_path_of_spellings :
    ∃ start, create {} RestrictedTree.empty = .ok start ∧
      let facade := (FacadeSession.run start
        [⟨0, .createFile plainSpelling ⟨0o644⟩, 0, 0⟩]).facade
      ∃ issued after, facade.request (.lasting 0 0 1) (.toRead plainSpelling) =
          (.ok issued, after) ∧
        (after.request (.lasting 2 0 1) (.toRead dottedSpelling)).1 =
          .ok issued := by
  refine ⟨_, rfl, ?_⟩
  intro facade
  obtain ⟨result, answered⟩ : ∃ result, result =
    facade.request (.lasting 0 0 1) (.toRead plainSpelling) := ⟨_, rfl⟩
  have succeeds : result.1.toOption = some ⟨.read, 0⟩ := by
    rw [answered]
    decide +kernel
  obtain ⟨outcome, after⟩ := result
  cases outcome with
  | error error => cases succeeds
  | ok issued =>
      obtain ⟨resolved, handle, isResolved, -, -, -, -, shares⟩ :=
        (handle_path_of_request
          (show create {} RestrictedTree.empty = .ok _ from rfl) rfl).1 _ _ _ _
          answered.symm
      have spelled : after.resolve dottedSpelling =
          facade.resolve plainSpelling := rfl
      refine ⟨issued, after, answered.symm, ?_⟩
      exact (shares (.lasting 2 0 1) (.toRead dottedSpelling) resolved rfl rfl
        (spelled.trans isResolved) (by decide) (by decide)).1.mpr rfl

/-! ### Handles of other paths -/

/-- A name with a byte that begins no character. -/
def firstBroken : Path := ⟨[0x2F, 0x66, 0xFF]⟩

/-- Another such name, with another byte. -/
def secondBroken : Path := ⟨[0x2F, 0x66, 0xFE]⟩

/-- Both files are created, and the first one is opened. -/
def brokenTurns : List FacadeTurn :=
  [⟨0, .createFile firstBroken ⟨0o644⟩, 0, 0⟩,
    ⟨0, .createFile secondBroken ⟨0o644⟩, 0, 0⟩,
    ⟨0, .request (.toRead firstBroken), 0, 0⟩]

/-- Two files of different keys are created and opened. -/
def neighbours : List FacadeTurn :=
  [⟨0, .createFile plainSpelling ⟨0o644⟩, 0, 0⟩,
    ⟨0, .createFile firstBroken ⟨0o644⟩, 0, 0⟩,
    ⟨0, .request (.toRead plainSpelling), 0, 0⟩,
    ⟨0, .request (.toRead firstBroken), 0, 0⟩]

/-- A request for the second broken name is answered with the handle of the
first one, and deleting a path closes the handle of another one that expired. -/
theorem handle_of_other_path :
    (∃ start answer, create {} RestrictedTree.empty = .ok start ∧
      (FacadeSession.run start brokenTurns).facade.request (.instantly 0)
        (.toRead secondBroken) = answer ∧
      answer.1.toOption = some ⟨.read, 0⟩ ∧
      (answer.2.handle? ⟨.read, 0⟩).map FileHandle.path = some firstBroken ∧
      ((FacadeSession.run start brokenTurns).facade.resolve
        secondBroken).toOption.map Resolved.path = some secondBroken ∧
      firstBroken ≠ secondBroken) ∧
    ∃ start before after, create {} RestrictedTree.empty = .ok start ∧
      (FacadeSession.run start neighbours).facade = before ∧
      before.perform (.instantly 60000000000) (.delete firstBroken) = after ∧
      (before.handle? ⟨.read, 0⟩).map
        (fun handle => (handle.path, handle.isOpen)) =
        some (plainSpelling, true) ∧
      (after.handle? ⟨.read, 0⟩).map
        (fun handle => (handle.path, handle.isOpen)) =
        some (plainSpelling, false) := by
  refine ⟨⟨_, _, rfl, rfl, ?_, ?_, ?_, ?_⟩, _, _, _, rfl, rfl, rfl, ?_, ?_⟩
  · decide +kernel
  · decide +kernel
  · decide +kernel
  · decide
  · decide +kernel
  · decide +kernel

end Facade
end HandlePool
