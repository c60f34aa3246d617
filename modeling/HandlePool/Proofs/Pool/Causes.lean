import HandlePool.Proofs.Pool.Course

/-!
# The guard is told the truth

In every session with a pool that may hold something, the guard is told the
right cause of every removal.  How long an entry was idle, and which one was
used least recently, is read off the replies of the session: an entry is dated
by the last call that gave its handle.
-/

namespace HandlePool

/-! ## Uses -/

/-- A handle was given to a caller. -/
structure Use where
  number : Nat
  moment : Instant
  deriving DecidableEq, Repr

/-- The last use of each handle, in order. -/
def Use.latest : List Use → List Use
  | [] => []
  | use :: later =>
      if later.any fun other => other.number == use.number then latest later
      else use :: latest later

/-- The use that an entry is dated by. -/
def Entry.use (entry : Entry) : Use := ⟨entry.handle, entry.lastUse⟩

namespace Use

/-- A new use takes the place of earlier ones of the same
handle, and comes last. -/
theorem latest_append_singleton
    (uses : List Use)
    (use : Use) :
    latest (uses ++ [use]) =
      (latest uses).filter (fun earlier => earlier.number != use.number) ++
        [use] := by
  induction uses with
  | nil => rfl
  | cons earlier uses inductionHypothesis =>
      simp only [List.cons_append, latest, List.any_append, inductionHypothesis]
      by_cases usedLater :
        (uses.any fun other => other.number == earlier.number) = true
      · simp [usedLater]
      · by_cases same : use.number = earlier.number
        · simp [usedLater, same]
        · simp [usedLater, same, Ne.symm same]

/-- Entries of other handles stay dated when a handle is used. -/
theorem sublist_latest_append
    {entries : List Entry}
    {uses : List Use}
    (dated : (entries.map Entry.use).Sublist (latest uses))
    {use : Use}
    (others : ∀ entry ∈ entries, entry.handle ≠ use.number) :
    (entries.map Entry.use).Sublist
      ((latest uses).filter fun earlier => earlier.number != use.number) := by
  have kept : (entries.map Entry.use).filter
      (fun earlier => earlier.number != use.number) =
      entries.map Entry.use := by
    rw [List.filter_eq_self]
    intro earlier listed
    obtain ⟨entry, present, rfl⟩ := List.mem_map.mp listed
    exact bne_iff_ne.mpr (others entry present)
  rw [← kept]
  exact dated.filter _

end Use

namespace Pool

variable {η : Type} [TrackedHandle η]

/-- The entries are dated by the last uses of their handles,
and in that order. -/
def Dated (uses : List Use) (entries : List Entry) : Prop :=
  (entries.map Entry.use).Sublist (Use.latest uses)

theorem Dated.sublist
    {uses : List Use}
    {entries fewer : List Entry}
    (dated : Dated uses entries)
    (sublist : fewer.Sublist entries) :
    Dated uses fewer :=
  (sublist.map Entry.use).trans dated

/-- Entries of other handles, and the one that is used, are
dated after the use. -/
theorem Dated.use
    {uses : List Use}
    {entries : List Entry}
    (dated : Dated uses entries)
    {entry : Entry}
    (others : ∀ other ∈ entries, other.handle ≠ entry.handle) :
    Dated (uses ++ [entry.use]) (entries ++ [entry]) := by
  rw [Dated, List.map_append, Use.latest_append_singleton]
  exact (Use.sublist_latest_append dated others).append (.refl _)

/-- What a call does to its uses. -/
def usesOf (time : CallTime) (reply : PoolReply) : List Use :=
  (reply.given?.map fun number => (⟨number, reply.usedAt time⟩ : Use)).toList

/-- Whatever is held during a call is dated, if uses of the call
count as soon as it starts. -/
theorem Course.dated
    {pool final : Pool η}
    {time : CallTime}
    {call : PoolCall η}
    {reply : PoolReply}
    {removals : List Removal}
    (course : Course pool time call reply removals final)
    (custody : Custody NoneLoose pool)
    {uses : List Use}
    (dated : Dated uses pool.entries) :
    (∀ removal ∈ removals, Dated (uses ++ usesOf time reply) removal.held) ∧
      Dated (uses ++ usesOf time reply) final.entries := by
  have differ := custody.keysDiffer
  cases course with
  | @used key entry removals swept sought found gives ranNot sheds =>
      obtain ⟨heldEarlier, left⟩ := sheds.held_sublist
      have present := (differ.live?_eq_some_iff.mp found).1
      have others : ∀ other ∈ pool.others entry.key,
          other.handle ≠ entry.handle := by
        intro other otherPresent same
        rw [mem_others] at otherPresent
        have sameEntry :=
          List.inj_on_of_nodup_map custody.handlesDiffer
            otherPresent.1 present same
        exact otherPresent.2 (congrArg Entry.key sameEntry)
      have touched :
          Dated (uses ++ usesOf time reply)
          (pool.touch time.starts entry).entries := by
        rw [usesOf, gives, PoolReply.usedAt, ranNot]
        exact (dated.sublist List.filter_sublist).use others
      rw [countAll_eq]
      exact ⟨fun removal removed =>
        touched.sublist (heldEarlier removal removed),
        touched.sublist left⟩
  | swept gives sheds =>
      obtain ⟨heldEarlier, left⟩ := sheds.held_sublist
      rw [usesOf, gives, countAll_eq]
      simp only [Option.map_none, Option.toList_none, List.append_nil]
      exact ⟨fun removal removed => dated.sublist (heldEarlier removal removed),
        dated.sublist left⟩
  | @opened key handle before displaced after swept cleared final requested
      missing sweeps replied clears left settles =>
      obtain ⟨heldBefore, sweptLeft⟩ := sweeps.held_sublist
      obtain ⟨heldDisplaced, clearedLeft⟩ := clears.held_sublist
      obtain ⟨heldAfter, finalLeft⟩ := settles.held_sublist
      rw [countAll_eq] at heldDisplaced clearedLeft
      have stays : cleared.entries.Sublist pool.entries :=
        clearedLeft.trans sweptLeft
      have notNew : ∀ entry ∈ pool.entries,
          entry.handle ≠ swept.handles.length := by
        intro entry present
        rw [sweeps.evolves.length_handles_eq]
        exact Nat.ne_of_lt (custody.opened entry present)
      have grown : Dated (uses ++ usesOf time reply)
          (pool.entries ++ [⟨key, swept.handles.length, time.inserts⟩]) := by
        rw [replied]
        exact dated.use notNew
      have datedStill := grown.sublist (List.sublist_append_left ..)
      have kept := grown.sublist (stays.append (.refl _))
      refine ⟨?_, kept.sublist finalLeft⟩
      intro removal removed
      rw [List.mem_append, List.mem_append] at removed
      obtain (earlier | displaced) | later := removed
      · exact datedStill.sublist (heldBefore removal earlier)
      · exact datedStill.sublist
          ((heldDisplaced removal displaced).trans sweptLeft)
      · exact kept.sublist (heldAfter removal later)

/-- Nothing was ever replaced or left open, and what is held is dated. -/
structure Candid (uses : List Use) (pool : Pool η) : Prop where
  dated : Dated uses pool.entries
  noneReplaced : pool.counters.replaced = 0
  noneLeftOpen : ∀ event ∈ pool.journal, ¬event.LeavesOpen

/-- No reply makes a call count a replacement. -/
theorem replaced_counted
    (reply : PoolReply)
    (counters : Counters) :
    (reply.counted.foldl (fun counters event => counters.record event)
      counters).replaced = counters.replaced := by
  unfold PoolReply.counted
  split <;> rfl

theorem Candid.course
    {pool final : Pool η}
    {time : CallTime}
    {call : PoolCall η}
    {reply : PoolReply}
    {removals : List Removal}
    {uses : List Use}
    (candid : Candid uses pool)
    (custody : Custody NoneLoose pool)
    (course : Course pool time call reply removals final) :
    Candid (uses ++ usesOf time reply) final where
  dated := (course.dated custody candid.dated).2
  noneReplaced := by
    rw [course.agreeOnCalls.replaced_eq, replaced_counted, candid.noneReplaced]
  noneLeftOpen event noted :=
    ((course.reports_eq custody.opened custody.keysDiffer).2 event noted).elim
      (candid.noneLeftOpen event) id

end Pool

/-! ## Sessions -/

namespace Session

open Pool

variable {η : Type} [TrackedHandle η]

/-- The uses that some calls make, in order. -/
def uses (session : Session η) : List (Turn η) → List Use
  | [] => []
  | turn :: later =>
      usesOf (session.timeOf turn)
          (session.pool.perform (session.timeOf turn) turn.call).1 ++
        (session.take turn).uses later

theorem uses_append
    (session : Session η)
    (turns : List (Turn η))
    (turn : Turn η) :
    session.uses (turns ++ [turn]) = session.uses turns ++
      usesOf ((turns.foldl take session).timeOf turn)
        ((turns.foldl take session).pool.perform
          ((turns.foldl take session).timeOf turn) turn.call).1 := by
  induction turns generalizing session with
  | nil => simp [uses]
  | cons first turns inductionHypothesis =>
      simp [uses, inductionHypothesis]

section

variable (name : String) {config : PoolConfig} {turns : List (Turn η)}

theorem candid_run
    (holdsSome : config.maxSize ≠ 0)
    (newHandles : ∀ turn ∈ turns, turn.call.OpensFresh) :
    Candid ((start name config).uses turns) (run name config turns).pool := by
  induction turns using List.reverseRecOn with
  | nil => exact ⟨.refl _, rfl, by simp [start]⟩
  | append_singleton turns turn inductionHypothesis =>
      have earlierFresh : ∀ other ∈ turns, other.call.OpensFresh :=
        fun other present => newHandles other (List.mem_append_left _ present)
      have custody := (agrees_run name holdsSome earlierFresh).custody
      obtain ⟨removals, course⟩ := course_run name holdsSome earlierFresh
        ((run name config turns).timeOf turn) turn.call
      rw [uses_append, run_append_singleton]
      exact (inductionHypothesis earlierFresh).course custody course

end

/-- In every session with a pool that may hold something, the guard is told of
every removal of the next call, under the right cause: expired exactly when the
last call that gave the handle was made at least the idle time ago; for the size
of the pool only when it holds too many, and then the least recently used one;
invalidated only when that was asked for; and never replaced.  So no replacement
is ever counted, no handle is left open by the guard whatever its policy, and
what is not held was closed once. -/
theorem causes_of_removals
    (name : String)
    (config : PoolConfig)
    (holdsSome : config.maxSize ≠ 0)
    (turns : List (Turn η))
    (turn : Turn η)
    (newHandles : ∀ made ∈ turns ++ [turn], made.call.OpensFresh) :
    let before := run name config turns
    let after := run name config (turns ++ [turn])
    let time := before.timeOf turn
    (∃ removals : List Removal,
      Course before.pool time turn.call
        (before.pool.perform time turn.call).1 removals after.pool ∧
        after.pool.reports =
          before.pool.reports ++ removals.map Removal.report ∧
        ∀ removal ∈ removals,
          removal.IsTruthful config turn.call.Asks ∧
            Dated ((start name config).uses (turns ++ [turn])) removal.held ∧
            (removal.moment = time.starts ∨ removal.moment = time.inserts ∨
              removal.moment = time.settles)) ∧
      after.pool.counters.replaced = 0 ∧
      (∀ event ∈ after.pool.journal, ¬event.LeavesOpen) ∧
      ∀ number handle, after.pool.handles[number]? = some handle →
        ¬after.pool.Holds number → TrackedHandle.IsSpent handle := by
  intro before after time
  have earlierFresh : ∀ other ∈ turns, other.call.OpensFresh :=
    fun other present => newHandles other (List.mem_append_left _ present)
  have agrees := agrees_run name holdsSome earlierFresh
  have custody := agrees.custody
  have candid := candid_run name holdsSome earlierFresh
  have candidAfter := candid_run name holdsSome newHandles
  obtain ⟨removals, course⟩ :=
    course_run name holdsSome earlierFresh time turn.call
  have taken : after.pool = (before.pool.perform time turn.call).2 :=
    congrArg Session.pool (run_append_singleton name config turns turn)
  refine ⟨⟨removals, taken ▸ course, ?_, ?_⟩, candidAfter.noneReplaced,
    candidAfter.noneLeftOpen, ?_⟩
  · rw [taken]
    exact (course.reports_eq custody.opened custody.keysDiffer).1
  · intro removal removed
    obtain ⟨truthful, moment⟩ := course.isTruthful removed
    rw [agrees.config_eq] at truthful
    refine ⟨truthful, ?_, moment⟩
    rw [uses_append]
    exact (course.dated custody candid.dated).1 removal removed
  · intro number handle found notHeld
    exact (agrees_run name holdsSome newHandles).custody.isSpent
      number handle found notHeld id

/-- A key is opened again just when its entry has expired. -/
def reopeningTurns : List (Turn TrialHandle) :=
  [ ⟨0, .request "a" (.ok { tag := 1 }), 0, 1⟩,
    ⟨4, .request "a" (.ok { tag := 2 }), 0, 1⟩ ]

/-- The second key takes the place of the first one. -/
def crowdingTurn : Turn TrialHandle :=
  ⟨1, .request "b" (.ok { tag := 3 }), 0, 1⟩

/-- There is room for one handle, for five nanoseconds. -/
def crowdingConfig : PoolConfig := ⟨1, ⟨0, 5, by decide⟩, .retain⟩

theorem causes_of_removals_of_crowding :
    let before := run "crowding" crowdingConfig reopeningTurns
    let after :=
      run "crowding" crowdingConfig (reopeningTurns ++ [crowdingTurn])
    before.pool.reports = [("a", .expired)] ∧
      after.pool.reports = [("a", .expired), ("a", .sizeEvicted)] ∧
      after.pool.counters.replaced = 0 ∧
      (∃ removals : List Removal,
        after.pool.reports =
          before.pool.reports ++ removals.map Removal.report ∧
          ∀ removal ∈ removals,
            removal.IsTruthful crowdingConfig crowdingTurn.call.Asks ∧
              Dated ((start "crowding" crowdingConfig).uses
                (reopeningTurns ++ [crowdingTurn])) removal.held) := by
  have newHandles : ∀ made ∈ reopeningTurns ++ [crowdingTurn],
      made.call.OpensFresh := by
    simp [reopeningTurns, crowdingTurn, PoolCall.OpensFresh,
      TrackedHandle.IsFresh, Handle.isOpen, TrackedHandle.closeCalls]
  have holds :=
    causes_of_removals "crowding" crowdingConfig (by decide) reopeningTurns
    crowdingTurn newHandles
  obtain ⟨removals, -, reports, truthful⟩ := holds.1
  refine ⟨by decide, by decide, holds.2.1, removals, reports, ?_⟩
  intro removal removed
  exact ⟨(truthful removal removed).1, (truthful removal removed).2.1⟩

end Session
end HandlePool
