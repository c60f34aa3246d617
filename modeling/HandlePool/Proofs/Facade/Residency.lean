import HandlePool.Proofs.Facade.Keys
import HandlePool.Proofs.Pool.Failure

/-!
# Who opened what is kept

Every entry of a façade's pools goes back to one request: the one that found no
live entry of the key and opened the handle.  From then on the key is kept with
that handle, and as long as its entry is live all requests for the key are
answered with it, whatever mode they ask for.  So the mode of a kept handle is
the mode of the first request since the key was last missing, and it is a mode
of the side whose pool keeps it.
-/

namespace HandlePool

/-! ## Where entries come from -/

namespace Pool

variable {η : Type}

/-- The pool had an entry of that key and handle, and this is that entry,
perhaps used while it was live. -/
def Stems (pool : Pool η) (now : Instant) (entry : Entry) : Prop :=
  ∃ earlier ∈ pool.entries, earlier.key = entry.key ∧
    earlier.handle = entry.handle ∧
    (earlier = entry ∨ pool.isExpired now earlier = false)

/-- What is live later is live now. -/
theorem isExpired_eq_false_of_le
    {pool : Pool η}
    {earlier later : Instant}
    {entry : Entry}
    (inOrder : earlier ≤ later)
    (live : pool.isExpired later entry = false) :
    pool.isExpired earlier entry = false := by
  rw [Bool.eq_false_iff] at live ⊢
  exact fun expired => live (isExpired_mono inOrder expired)

/-- The live entry of the key of an entry that was there
before has its handle. -/
theorem Stems.handle_eq
    {pool : Pool η}
    {now : Instant}
    {entry found : Entry}
    (differ : pool.KeysDiffer)
    (stems : pool.Stems now entry)
    (live : pool.live? now entry.key = some found) :
    found.handle = entry.handle := by
  obtain ⟨earlier, before, sameKey, sameHandle, -⟩ := stems
  obtain ⟨present, keyed, -⟩ := differ.live?_eq_some_iff.mp live
  rw [differ.eq_of_key_eq present before (keyed.trans sameKey.symm), sameHandle]

/-- A key that has a live entry afterwards had one before. -/
theorem Stems.contains
    {pool after : Pool η}
    {now later : Instant}
    {entry : Entry}
    (stems : pool.Stems now entry)
    (differ : pool.KeysDiffer)
    (differAfter : after.KeysDiffer)
    (sameConfig : after.config = pool.config)
    (inOrder : now ≤ later)
    (present : entry ∈ after.entries)
    (contained : after.contains later entry.key = true)
    {earlier : Instant}
    (isEarlier : earlier ≤ now) :
    pool.contains earlier entry.key = true := by
  obtain ⟨old, before, sameKey, -, used⟩ := stems
  obtain ⟨found, live⟩ := Option.isSome_iff_exists.mp contained
  obtain ⟨isFound, keyed, notExpired⟩ := differAfter.live?_eq_some_iff.mp live
  rw [differAfter.eq_of_key_eq isFound present keyed, isExpired, sameConfig]
    at notExpired
  have wasLive : pool.isExpired now old = false := by
    obtain rfl | wasLive := used
    · exact isExpired_eq_false_of_le inOrder notExpired
    · exact wasLive
  rw [Pool.contains, differ.live?_eq_some_iff.mpr
    ⟨before, sameKey, isExpired_eq_false_of_le isEarlier wasLive⟩]
  rfl

variable [Handle η]

theorem Evolves.stems
    {now : Instant}
    {pool final : Pool η}
    {entry : Entry}
    (evolves : Evolves now pool final)
    (stems : final.Stems now entry) :
    pool.Stems now entry := by
  obtain ⟨middle, isMiddle, sameKey, sameHandle, used⟩ := stems
  obtain ⟨earlier, before, earlierKey, earlierHandle, usedEarlier⟩ :=
    evolves.origin isMiddle
  refine ⟨earlier, before, earlierKey.trans sameKey,
    earlierHandle.trans sameHandle, ?_⟩
  obtain rfl | live := usedEarlier
  · exact used.imp id fun live => by rwa [isExpired, ← evolves.config_eq]
  · exact .inr live

theorem Becomes.stems
    {now : Instant}
    {pool after : Pool η}
    {entry : Entry}
    (becomes : Becomes now pool after)
    (present : entry ∈ after.entries) :
    pool.Stems now entry := by
  obtain ⟨evolved, evolves, same⟩ := becomes
  rw [same.entries_eq] at present
  exact evolves.origin present

/-- An entry of a pool that adopted a handle is the entry of that handle, or was
there before under another key. -/
theorem stems_adopt
    {pool : Pool η}
    {time : CallTime}
    {key : String}
    {entry : Entry}
    (differ : pool.KeysDiffer)
    (holdsSome : pool.config.maxSize ≠ 0)
    (missing : pool.live? time.starts key = none)
    {handle : η}
    (present : entry ∈ (pool.adopt time key handle).entries) :
    (entry.key ≠ key ∧ pool.Stems time.starts entry) ∨
      entry.key = key ∧ entry.handle = pool.handles.length := by
  obtain ⟨cleared, kept, evolves, left, rfl, keptDiffer, adopted⟩ :=
    adopt_eq differ holdsSome missing handle
  rw [adopted] at present
  obtain ⟨earlier, before, sameKey, sameHandle, used⟩ :=
    (evolves_settle time.settles keptDiffer).origin present
  simp only [List.mem_append, List.mem_singleton] at before
  obtain before | rfl := before
  · rw [left, mem_others] at before
    refine .inl ⟨sameKey ▸ before.2, earlier, before.1, sameKey, sameHandle, ?_⟩
    refine used.imp id fun live => ?_
    -- What is live when the call settles was live when it started.
    have sameConfig : cleared.config = pool.config := evolves.config_eq
    have wasLive : pool.isExpired time.settles earlier = false := by
      rw [isExpired, ← sameConfig]
      exact live
    exact isExpired_eq_false_of_le time.inOrder wasLive
  · exact .inr ⟨sameKey.symm, sameHandle.symm⟩

end Pool

namespace Facade

open Pool

variable
  {config : FacadeConfig}
  {fits : Tree → Side → String → FileHandle → Prop}
  {facade after : Facade RestrictedTree}
  {time : CallTime}
  {action : FacadeAction}
  {request : FileRequest}
  {result : Except IoError Issued}
  {side : Side}
  {entry : Entry}

/-- The request asks the pool on a side for the handle of a key. -/
def Asks (facade : Facade RestrictedTree) (request : FileRequest) (side : Side)
    (key : String) : Prop :=
  request.isAdmissible = true ∧ request.side = side ∧
    ∃ resolved, facade.resolve request.path = .ok resolved ∧ resolved.key = key

/-- A request for a key is answered with the handle of that number if the key
has a live entry, and with an error otherwise. -/
def Serves (facade : Facade RestrictedTree) (time : CallTime) (side : Side)
    (key : String) (number : Nat) (result : Except IoError Issued) : Prop :=
  ((facade.pool side).contains time.starts key = true →
    result = .ok ⟨side, number⟩) ∧
    ((facade.pool side).contains time.starts key = false →
      ∃ error, result = .error error)

/-- After a request an entry was there before, or the request
opened its handle. -/
theorem Answers.stems_or_opened
    (holdsSome : ∀ side, (config.pool side).maxSize ≠ 0)
    (sound : facade.Sound config fits)
    (answers : Answers facade time request result after)
    (present : entry ∈ (after.pool side).entries) :
    ((facade.pool side).Stems time.starts entry ∧
        (facade.Asks request side entry.key →
          facade.Serves time side entry.key entry.handle result)) ∨
      facade.Asks request side entry.key ∧
        (facade.pool side).contains time.starts entry.key = false ∧
        result = .ok ⟨side, entry.handle⟩ := by
  have differ := fun side => (sound side).custody.keysDiffer
  by_cases asked : side = request.side
  · subst asked
    cases answers with
    | refused reason pools =>
        refine .inl ⟨(becomes_of_same (pools _)).stems present, ?_⟩
        rintro ⟨admissible, -, resolved, isResolved, -⟩
        exact absurd ⟨admissible, resolved, isResolved⟩ reason
    | hit isResolved hit pool =>
        have stems :=
          Becomes.stems ⟨_, evolves_seek time.starts (differ _) _, pool⟩ present
        refine .inl ⟨stems, ?_⟩
        rintro ⟨-, -, resolved, isSame, keyed⟩
        cases isSame.symm.trans isResolved
        obtain ⟨found, live, rfl⟩ := Option.map_eq_some_iff.mp hit
        rw [keyed] at live
        refine ⟨fun _ => by rw [stems.handle_eq (differ _) live],
          fun missed => ?_⟩
        rw [contains_eq_false_iff, live] at missed
        cases missed
    | failed isResolved missing _ becomes =>
        refine .inl ⟨becomes.stems present, ?_⟩
        rintro ⟨-, -, resolved, isSame, keyed⟩
        cases isSame.symm.trans isResolved
        rw [keyed] at missing
        refine ⟨fun contained => ?_, fun _ => ⟨_, rfl⟩⟩
        rw [contains, missing] at contained
        cases contained
    | @opened resolved handle sought _ isResolved missing _ evolves pool
        _ admissible =>
        have soughtSound := (sound request.side).evolves evolves
        rw [pool.entries_eq] at present
        have stays := stems_adopt (soughtSound.custody.keysDiffer)
          (by rw [soughtSound.config_eq]; exact holdsSome _)
          (evolves.live?_eq_none (differ _) missing) present
        obtain ⟨different, stems⟩ | ⟨keyed, numbered⟩ := stays
        · refine .inl ⟨evolves.stems stems, ?_⟩
          rintro ⟨-, -, other, isSame, keyed⟩
          cases isSame.symm.trans isResolved
          exact absurd keyed.symm different
        · rw [← keyed] at missing
          refine .inr ⟨⟨admissible, rfl, resolved, isResolved, keyed.symm⟩,
            contains_eq_false_iff.mpr missing, ?_⟩
          rw [numbered]
  · have aside : ¬facade.Asks request side entry.key :=
      fun asks => asked asks.2.1.symm
    cases answers with
    | refused _ pools =>
        exact .inl ⟨(becomes_of_same (pools side)).stems present,
          (absurd · aside)⟩
    | hit _ _ _ others =>
        exact .inl ⟨(becomes_of_same (others side asked)).stems present,
          (absurd · aside)⟩
    | failed _ _ _ _ others =>
        exact .inl ⟨(becomes_of_same (others side asked)).stems present,
          (absurd · aside)⟩
    | opened _ _ _ _ _ others =>
        exact .inl ⟨(becomes_of_same (others side asked)).stems present,
          (absurd · aside)⟩

/-- After any other action an entry was there before. -/
theorem Acts.stems
    (differ : ∀ side, (facade.pool side).KeysDiffer)
    (acts : Acts facade time action after)
    (asksNothing : ∀ request, action ≠ .request request)
    (present : entry ∈ (after.pool side).entries) :
    (facade.pool side).Stems time.starts entry := by
  cases acts with
  | quiet _ becomes => exact (becomes side).stems present
  | opens => exact absurd rfl (asksNothing _)
  | creates _ pools =>
      exact Becomes.stems
        ⟨_, evolves_invalidate time.starts (differ side) _, pools side⟩ present
  | deletes _ pools =>
      exact Becomes.stems
        ⟨_, evolves_invalidate time.starts (differ side) _, pools side⟩ present
  | stores _ pools => exact (becomes_of_same (pools side)).stems present
  | @writes issued write handle _ found pool others =>
      by_cases same : side = issued.side
      · subst same
        rw [pool.entries_eq] at present
        exact ⟨entry, present, rfl, rfl, .inl rfl⟩
      · exact (becomes_of_same (others side same)).stems present

/-- No action but a request opens a handle, and all handles keep
their paths and modes. -/
theorem Acts.exists_handle
    {issued : Issued}
    {handle : FileHandle}
    (differ : ∀ side, (facade.pool side).KeysDiffer)
    (acts : Acts facade time action after)
    (asksNothing : ∀ request, action ≠ .request request)
    (found : facade.handle? issued = some handle) :
    ∃ later, after.handle? issued = some later ∧
      later.path = handle.path ∧ later.mode = handle.mode := by
  have becomes :
      Becomes time.starts (facade.pool issued.side) (after.pool issued.side) →
      ∃ later, after.handle? issued = some later ∧
        later.path = handle.path ∧ later.mode = handle.mode := by
    rintro ⟨evolved, evolves, same⟩
    rw [handle?, same.handles_eq]
    exact evolves.exists_handle found
  cases acts with
  | quiet _ pools => exact becomes (pools issued.side)
  | opens => exact absurd rfl (asksNothing _)
  | creates _ pools =>
      exact becomes
        ⟨_, evolves_invalidate time.starts (differ _) _, pools issued.side⟩
  | deletes _ pools =>
      exact becomes
        ⟨_, evolves_invalidate time.starts (differ _) _, pools issued.side⟩
  | stores _ pools => exact becomes (becomes_of_same (pools issued.side))
  | @writes through write written _ foundWritten pool others =>
      by_cases same : issued.side = through.side
      · rw [handle?, same, pool.handles_eq, withHandle]
        obtain ⟨side, number⟩ := issued
        cases same
        by_cases sameNumber : through.number = number
        · subst sameNumber
          cases foundWritten.symm.trans found
          obtain ⟨samePath, sameMode, -⟩ :=
            write.run_handle handle facade.store.tree
          have bounded := (List.getElem?_eq_some_iff.mp found).1
          exact ⟨_, List.getElem?_set_self bounded, samePath, sameMode⟩
        · rw [List.getElem?_set_ne sameNumber]
          exact ⟨handle, found, rfl, rfl⟩
      · exact becomes (becomes_of_same (others issued.side same))

end Facade

/-! ## The request that opened a handle -/

namespace FacadeSession

variable {session : FacadeSession} {turn : FacadeTurn} {config : FacadeConfig}

theorem run_concat
    (start : Facade RestrictedTree)
    (turns : List FacadeTurn)
    (turn : FacadeTurn) :
    run start (turns ++ [turn]) = (run start turns).take turn := by
  simp [run]

/-- What a request is answered with as the next action. -/
def answer (session : FacadeSession) (turn : FacadeTurn)
    (request : FileRequest) :
    Except IoError Issued :=
  (session.facade.request (session.timeOf turn) request).1

/-- The key has a live entry when the next action is taken. -/
def finds (session : FacadeSession) (turn : FacadeTurn) (side : Side)
    (key : String) : Bool :=
  (session.facade.pool side).contains (session.timeOf turn).starts key

/-- A request finds no live entry of its key, and is answered
with a new handle. -/
structure Opens (session : FacadeSession) (turn : FacadeTurn)
    (request : FileRequest)
    (side : Side) (key : String) (number : Nat) : Prop where
  requested : turn.action = .request request
  asks : session.facade.Asks request side key
  missed : session.finds turn side key = false
  answered : session.answer turn request = .ok ⟨side, number⟩

/-- A handle has been kept under a key since it was opened for a request. -/
structure KeptSince (start : Facade RestrictedTree) (earlier : List FacadeTurn)
    (opening : FacadeTurn)
    (later : List FacadeTurn) (request : FileRequest) (side : Side)
      (key : String)
    (number : Nat) : Prop
    extends (run start earlier).Opens opening request side key number where
  /-- The key is kept with that handle after every action. -/
  kept : ∀ middle, middle <+: later →
    ((run start (earlier ++ opening :: middle)).facade.pool side).Keeps
      key number
  /-- No later request for the key opens another handle. -/
  serves : ∀ middle next other, middle ++ [next] <+: later →
    next.action = .request other →
    let session := run start (earlier ++ opening :: middle)
    session.facade.Asks other side key →
    session.facade.Serves (session.timeOf next) side key number
      (session.answer next other)
  /-- A key that has a live entry now has had one since. -/
  finds :
    let session := run start (earlier ++ opening :: later)
    (session.facade.pool side).contains session.now key = true →
      ∀ middle next, middle ++ [next] <+: later →
        (run start (earlier ++ opening :: middle)).finds next side key = true

variable
  {start : Facade RestrictedTree}
  {earlier later : List FacadeTurn}
  {opening : FacadeTurn}
  {request : FileRequest}
  {side : Side}
  {key : String}
  {number : Nat}

/-- What was just opened has been kept since. -/
theorem Opens.keptSince
    (opens : (run start earlier).Opens opening request side key number)
    (keeps : (((run start earlier).take opening).facade.pool side).Keeps key
      number) :
    KeptSince start earlier opening [] request side key number := by
  refine ⟨opens, ?_, ?_, ?_⟩
  · intro middle isPrefix
    rw [List.prefix_nil.mp isPrefix, run_concat]
    exact keeps
  · intro middle next other isPrefix
    simp at isPrefix
  · intro session found middle next isPrefix
    simp at isPrefix

theorem KeptSince.concat
    {entry : Entry}
    (since : KeptSince start earlier opening later request side
      entry.key entry.handle)
    (reached : run start (earlier ++ opening :: later) = session)
    (differ : (session.facade.pool side).KeysDiffer)
    (differAfter : ((session.take turn).facade.pool side).KeysDiffer)
    (sameConfig : ((session.take turn).facade.pool side).config =
      (session.facade.pool side).config)
    (stems : (session.facade.pool side).Stems
      (session.timeOf turn).starts entry)
    (present : entry ∈ ((session.take turn).facade.pool side).entries)
    (serves : ∀ other, turn.action = .request other →
      session.facade.Asks other side entry.key →
      session.facade.Serves (session.timeOf turn) side entry.key entry.handle
        (session.answer turn other)) :
    KeptSince start earlier opening (later ++ [turn]) request side entry.key
      entry.handle := by
  have reachedAfter : run start (earlier ++ opening :: (later ++ [turn])) =
      session.take turn := by
    rw [← List.cons_append, ← List.append_assoc, run_concat, reached]
  refine ⟨since.toOpens, ?_, ?_, ?_⟩
  · intro middle isPrefix
    obtain rfl | isEarlier := List.prefix_concat_iff.mp isPrefix
    · rw [reachedAfter]
      exact ⟨entry, present, rfl, rfl⟩
    · exact since.kept middle isEarlier
  · intro middle next other isPrefix
    obtain same | isEarlier := List.prefix_concat_iff.mp isPrefix
    · obtain ⟨rfl, rfl⟩ : middle = later ∧ next = turn := by simpa using same
      rw [reached]
      exact serves other
    · exact since.serves middle next other isEarlier
  · rw [reachedAfter]
    intro _ contained middle next isPrefix
    have found : ∀ moment ≤ (session.timeOf turn).starts,
        (session.facade.pool side).contains moment entry.key = true :=
      fun moment isEarlier => stems.contains differ differAfter sameConfig
        (session.timeOf turn).inOrder present contained isEarlier
    obtain same | isEarlier := List.prefix_concat_iff.mp isPrefix
    · obtain ⟨rfl, rfl⟩ : middle = later ∧ next = turn := by simpa using same
      rw [reached]
      exact found _ (Nat.le_refl _)
    · refine since.finds ?_ middle next isEarlier
      rw [reached]
      exact found _ (Nat.le_add_right _ _)

/-- After any action an entry was there before, or the action
requested its handle. -/
theorem stems_or_opens_take
    {entry : Entry}
    (holdsSome : ∀ side, (config.pool side).maxSize ≠ 0)
    (sound : session.facade.Sound config Facade.Belongs)
    (turn : FacadeTurn)
    (present : entry ∈ ((session.take turn).facade.pool side).entries) :
    ((session.facade.pool side).Stems (session.timeOf turn).starts entry ∧
        ∀ other, turn.action = .request other →
          session.facade.Asks other side entry.key →
          session.facade.Serves (session.timeOf turn) side
            entry.key entry.handle (session.answer turn other)) ∨
      ∃ request, session.Opens turn request side entry.key entry.handle := by
  have differ := fun side => (sound side).custody.keysDiffer
  by_cases asks : ∃ request, turn.action = .request request
  · obtain ⟨request, requested⟩ := asks
    have answers := Facade.answers_request differ (session.timeOf turn) request
    rw [take, requested] at present
    obtain ⟨stems, serves⟩ | ⟨asks, missed, answered⟩ :=
      answers.stems_or_opened holdsSome sound present
    · refine .inl ⟨stems, fun other isOther => ?_⟩
      cases requested.symm.trans isOther
      exact serves
    · exact .inr ⟨request, requested, asks, missed, answered⟩
  · have asksNothing : ∀ request, turn.action ≠ .request request :=
      fun request requested => asks ⟨request, requested⟩
    have acts := Facade.acts_perform differ (session.timeOf turn) turn.action
    exact .inl ⟨acts.stems differ asksNothing present,
      fun other isOther => absurd isOther (asksNothing other)⟩

/-- A handle that was given out keeps its path and its mode
through any action. -/
theorem exists_handle_take
    {issued : Issued}
    {handle : FileHandle}
    (holdsSome : ∀ side, (config.pool side).maxSize ≠ 0)
    (sound : session.facade.Sound config Facade.Belongs)
    (turn : FacadeTurn)
    (found : session.facade.handle? issued = some handle) :
    ∃ later, (session.take turn).facade.handle? issued = some later ∧
      later.path = handle.path ∧ later.mode = handle.mode := by
  have differ := fun side => (sound side).custody.keysDiffer
  by_cases asks : ∃ request, turn.action = .request request
  · obtain ⟨request, requested⟩ := asks
    have answers := Facade.answers_request differ (session.timeOf turn) request
    rw [take, requested]
    exact answers.exists_handle holdsSome sound found
  · have acts := Facade.acts_perform differ (session.timeOf turn) turn.action
    exact acts.exists_handle differ
      (fun request requested => asks ⟨request, requested⟩) found

/-- A new handle has the path and the mode that were asked for. -/
theorem Opens.exists_handle
    (holdsSome : ∀ side, (config.pool side).maxSize ≠ 0)
    (sound : session.facade.Sound config Facade.Belongs)
    (opens : session.Opens turn request side key number) :
    ∃ resolved handle, session.facade.resolve request.path = .ok resolved ∧
      (session.take turn).facade.handle? ⟨side, number⟩ = some handle ∧
      handle.path = resolved.path ∧ handle.mode = request.mode := by
  have differ := fun side => (sound side).custody.keysDiffer
  obtain ⟨-, rfl, resolved, isResolved, rfl⟩ := opens.asks
  have answers := Facade.answers_request differ (session.timeOf turn) request
  rw [show (session.facade.request (session.timeOf turn) request).1 =
    _ from opens.answered] at answers
  obtain ⟨opened, handle, opensFile, found, samePath, sameMode⟩ :=
    answers.exists_opened holdsSome sound isResolved
      (Pool.contains_eq_false_iff.mp opens.missed)
  obtain ⟨openedPath, openedMode⟩ := Facade.path_of_openFile opensFile
  refine ⟨resolved, handle, isResolved, ?_, samePath.trans openedPath,
    sameMode.trans openedMode⟩
  rw [take, opens.requested]
  exact found

/-- Every entry has been kept since a request opened its handle. -/
theorem exists_keptSince
    {store : RestrictedTree}
    (created : Facade.create config store = .ok start)
    (turns : List FacadeTurn)
    (side : Side)
    {entry : Entry}
    (present : entry ∈ ((run start turns).facade.pool side).entries) :
    ∃ earlier opening later request resolved handle,
      turns = earlier ++ opening :: later ∧
      KeptSince start earlier opening later request side entry.key
        entry.handle ∧
      (run start earlier).facade.resolve request.path = .ok resolved ∧
      (run start turns).facade.handle? ⟨side, entry.handle⟩ = some handle ∧
      handle.path = resolved.path ∧ handle.mode = request.mode := by
  have holdsSome := fun side =>
    (FacadeConfig.roomy_of_validate (Facade.validate_of_create created) side).1
  induction turns using List.reverseRecOn generalizing entry with
  | nil =>
      have isNew := Facade.eq_of_create created
      rw [isNew] at present
      cases side <;> cases present
  | append_singleton turns turn inductionHypothesis =>
      have sound := Facade.sound_run_belongs created turns
      have soundAfter := Facade.sound_run_belongs created (turns ++ [turn])
      rw [run_concat] at present soundAfter ⊢
      obtain ⟨stems, serves⟩ | ⟨request, opens⟩ :=
        stems_or_opens_take holdsSome sound turn present
      · obtain ⟨old, before, sameKey, sameHandle, -⟩ := id stems
        obtain ⟨earlier, opening, later, request, resolved, handle, split,
          since, isResolved,
          found, samePath, sameMode⟩ := inductionHypothesis before
        rw [sameKey, sameHandle] at since
        rw [sameHandle] at found
        obtain ⟨after, foundAfter, samePathAfter, sameModeAfter⟩ :=
          exists_handle_take holdsSome sound turn found
        refine ⟨earlier, opening, later ++ [turn], request, resolved, after, ?_,
          ?_, isResolved,
          foundAfter, samePathAfter.trans samePath,
          sameModeAfter.trans sameMode⟩
        · rw [split, List.append_assoc, List.cons_append]
        · exact since.concat (congrArg _ split.symm)
            (sound side).custody.keysDiffer (soundAfter side).custody.keysDiffer
            ((soundAfter side).config_eq.trans (sound side).config_eq.symm)
              stems present serves
      · obtain ⟨resolved, handle, isResolved, found, samePath, sameMode⟩ :=
          opens.exists_handle holdsSome sound
        exact ⟨turns, turn, [], request, resolved, handle, rfl,
          opens.keptSince ⟨entry, present, rfl, rfl⟩, isResolved, found,
          samePath, sameMode⟩

end FacadeSession

namespace Facade

open FacadeSession

/-- After any session every handle that a pool keeps goes back to a request that
opened it, in the mode that was asked for: the first one since the key last had
no live entry, whatever modes were asked for later.  It is a mode to read in the
one pool and one that writes in the other, and the key shows the path of the
handle.  A handle for writing that is asked for in the mode to read is refused,
and nothing changes. -/
theorem mode_of_kept
    {config : FacadeConfig}
    {store : RestrictedTree}
    {start : Facade RestrictedTree}
    (created : create config store = .ok start)
    (turns : List FacadeTurn) :
    (∀ side, ∀ entry ∈ ((run start turns).facade.pool side).entries,
      ∃ handle, (run start turns).facade.handle? ⟨side, entry.handle⟩ =
        some handle ∧ handle.path.display = entry.key ∧
        (side = .read → handle.mode = .read) ∧
        (side = .write → handle.mode.writes = true) ∧
        ∃ earlier opening later request, turns = earlier ++ opening :: later ∧
          request.mode = handle.mode ∧
          KeptSince start earlier opening later request side entry.key
            entry.handle) ∧
    ∀ time path,
      (run start turns).facade.openForWrite time path .read =
        (.error .writeModeRequired, (run start turns).facade) ∧
      IoError.writeModeRequired.kind = .invalidInput := by
  refine ⟨fun side entry present => ?_, fun time path => ⟨rfl, rfl⟩⟩
  obtain ⟨earlier, opening, later, request, resolved, handle, split, since,
    isResolved, found,
    samePath, sameMode⟩ := exists_keptSince created turns side present
  obtain ⟨admissible, onSide, other, isOther, keyed⟩ := since.asks
  cases isOther.symm.trans isResolved
  have writes := FileRequest.isAdmissible_iff.mp admissible
  rw [onSide, ← sameMode] at writes
  refine ⟨handle, found, ?_, ?_, writes.mpr, earlier, opening, later,
    request, split, sameMode.symm, since⟩
  · rw [samePath, ← Resolved.key_eq isResolved, keyed]
  · rintro rfl
    cases mode : handle.mode <;> simp [mode, OpenMode.writes] at writes ⊢

/-- A file is created, and opened to append; later on other
modes are asked for. -/
def mixedModes : List FacadeTurn :=
  [⟨0, .createFile plainSpelling ⟨0o644⟩, 0, 0⟩,
    ⟨0, .request (.toWrite plainSpelling .append), 0, 0⟩,
    ⟨5, .request (.byMode plainSpelling .write), 0, 0⟩,
    ⟨0, .request (.toWrite plainSpelling .read), 0, 0⟩]

/-- The handle that was opened to append is kept, and goes back
to the request for it. -/
theorem mode_of_kept_to_append :
    ∃ start, create {} RestrictedTree.empty = .ok start ∧
      ⟨"/f", 0, 5⟩ ∈ ((run start mixedModes).facade.pool .write).entries ∧
      ∃ handle, (run start mixedModes).facade.handle? ⟨.write, 0⟩ =
        some handle ∧ handle.mode = .append ∧
        ∃ earlier opening later request,
          mixedModes = earlier ++ opening :: later ∧ request.mode = .append ∧
          KeptSince start earlier opening later request .write "/f" 0 := by
  refine ⟨_, rfl, ?_⟩
  obtain ⟨handle, found, -, -, -, earlier, opening, later, request, split,
      sameMode, since⟩ :=
    (mode_of_kept (show create {} RestrictedTree.empty = .ok _ from rfl)
      mixedModes).1 .write ⟨"/f", 0, 5⟩ (by decide +kernel)
  have isAppend : handle.mode = .append := by
    refine Option.some.inj
      ((congrArg (Option.map FileHandle.mode) found).symm.trans ?_)
    decide +kernel
  exact ⟨by decide +kernel, handle, found, isAppend, earlier, opening, later,
    request, split, sameMode.trans isAppend, since⟩

end Facade
end HandlePool
