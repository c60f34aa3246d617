import HandlePool.Proofs.Clients.Removal

/-!
# Requests and removals of one key

At most one opener runs for a key, and only while the key has no live
entry.  A client that waited and finds an entry gets its handle without an
opener; after an opener that failed the next client runs its own.  When a
removal returns, no handle is kept or will be kept whose opener had started
before the removal began.
-/

namespace HandlePool

variable {ι σ η : Type}

open TrackedHandle

namespace System

variable
  {stripe : ι → String → Nat}
  {system final : System ι σ η}
  {place : ι}
  {key : String}

variable [DecidableEq ι]

/-! ## The re-check -/

/-- An opener that returned last and failed left nothing to find. -/
theorem Logged.missing_of_failed
    (logged : Logged system)
    {opening : Opening ι}
    (returned : system.latest? place key = some opening)
    {error : IoError}
    (failed : opening.result = .error error) :
    (system.pools place).live? system.now key = none := by
  rw [Option.eq_none_iff_forall_ne_some]
  intro entry found
  obtain ⟨other, otherReturned, opened⟩ :=
    logged.latest place key entry.handle (.inl ⟨entry, found, rfl⟩)
  rw [returned, Option.some.injEq] at otherReturned
  rw [← otherReturned, failed] at opened
  cases opened

section Recheck

variable [Handle η]
variable {name : Nat} {opener : σ → Except IoError η × σ}
    {rest : List (Task ι σ η)}

/-- A client that finds an entry at its re-check leaves with its handle. -/
theorem proceed_recheck_of_some
    {entry : Entry}
    (found : (system.pools place).live? system.now key = some entry) :
    system.proceed stripe name place key rest (.recheck opener) =
      (system.setPool place
        (((system.pools place).lookup system.now key).2.count .hit)).setClient
          name
          (.inside place key (.leaving (.handle (.ok entry.handle))) rest) := by
  simp only [proceed, Pool.lookup_of_some found]

/-- A client that finds none has its opener run. -/
theorem runs_proceed_recheck
    (missing : (system.pools place).live? system.now key = none) :
    (system.proceed stripe name place key rest (.recheck opener)).Runs
      name place key system.started := by
  refine ⟨opener, rest, ?_⟩
  simp only [proceed, Pool.lookup_of_none missing]
  exact Function.update_self ..

end Recheck

variable [TrackedHandle η]
variable {configs : ι → PoolConfig} {conduct : Conduct σ η}

/-! ## Removals -/

/-- No opener runs for the key that started before `bound`, and no handle is
tied to the key that such an opener returned. -/
structure Cleared (place : ι) (key : String) (bound : Nat)
    (system : System ι σ η) : Prop where
  runs : ∀ name serial, system.Runs name place key serial → bound ≤ serial
  untied : ∀ opening ∈ system.openings, opening.place = place →
    opening.key = key →
    opening.serial < bound → ∀ number, opening.result = .ok number →
      ¬system.Tied place key number

/-- What was cleared stays so. -/
theorem Cleared.step
    {move : Move ι σ η}
    (orderly : Orderly stripe configs conduct system)
    (logged : Logged system)
    {bound : Nat}
    (bounded : bound ≤ system.started)
    (cleared : Cleared place key bound system)
    (step : Step stripe system move final) :
    Cleared place key bound final := by
  constructor
  · intro name serial runs
    obtain before | ⟨rfl, -⟩ := step.runs_cases runs
    · exact cleared.runs name serial before
    · exact bounded
  · intro opening present samePlace sameKey early number opened tied
    have before : opening ∈ system.openings := by
      obtain same | ⟨name, newest, running, noted, -⟩ := step.openings_cases
      · rwa [same] at present
      · rw [noted, List.mem_append, List.mem_singleton] at present
        obtain before | rfl := present
        · exact before
        · rw [samePlace, sameKey] at running
          exact absurd early (Nat.not_lt_of_le (cleared.runs name _ running))
    obtain tiedBefore | ⟨newNumber, -⟩ := step.tied orderly tied
    · exact cleared.untied opening before samePlace sameKey early number
        opened tiedBefore
    · have small := logged.numbered opening before number opened
      rw [samePlace, newNumber] at small
      exact Nat.lt_irrefl _ small

/-- A client that removes a key has yet to do so, or the key is clear. -/
def Clears (system : System ι σ η) (name : Nat) (place : ι) (key : String)
    (bound : Nat) : Prop :=
  system.Removing name place key [] ∨ Cleared place key bound system

/-- Somebody who removes a key goes on to clear it, whatever the others do. -/
theorem Clears.move?
    {move : Move ι σ η}
    (fresh : conduct.OpensFresh)
    (orderly : Orderly stripe configs conduct system)
    (logged : Logged system)
    (allowed : move.Within conduct)
    (moved : system.move? stripe move = some final)
    {name : Nat}
    {bound : Nat}
    (bounded : bound ≤ system.started)
    (clears : system.Clears name place key bound) :
    final.Clears name place key bound := by
  have step := step_of_move? orderly.keysDiffer moved
  obtain removing | cleared := clears
  · obtain still | ⟨rfl, inside, -⟩ := removing.move? orderly.keysDiffer moved
    · exact .inl still
    · have finalOrderly := orderly.step fresh allowed step
      obtain ⟨untied, quiet⟩ :=
        untied_of_removal orderly finalOrderly inside moved
      refine .inr ⟨fun other serial running =>
        absurd running (quiet other serial), ?_⟩
      exact fun opening _ _ _ _ number _ => untied number
  · exact .inr (cleared.step orderly logged bounded step)

omit [TrackedHandle η] in
/-- A handle that is not tied to the key it was opened for
is not tied to any. -/
theorem Logged.untied
    (logged : Logged system)
    {opening : Opening ι}
    (present : opening ∈ system.openings)
    {number : Nat}
    (opened : opening.result = .ok number)
    (untied : ¬system.Tied opening.place opening.key number)
    (otherKey : String) :
    ¬system.Tied opening.place otherKey number := by
  intro tied
  obtain ⟨other, otherPresent, samePlace, rfl, otherOpened⟩ :=
    logged.tied opening.place otherKey number tied
  have sameKey :=
    logged.keyed opening present other otherPresent number samePlace.symm
    opened otherOpened
  rw [← sameKey] at tied
  exact untied tied

/-- A handle that was cleared is not kept, and was closed once; a pool that can
keep nothing never had it, and left it open. -/
theorem Cleared.released
    (orderly : Orderly stripe configs conduct system)
    (logged : Logged system)
    {bound : Nat}
    (cleared : Cleared place key bound system)
    {opening : Opening ι}
    (present : opening ∈ system.openings)
    (samePlace : opening.place = place)
    (sameKey : opening.key = key)
    (early : opening.serial < bound)
    {number : Nat}
    (opened : opening.result = .ok number) :
    ¬(system.pools place).Holds number ∧
      ∃ handle, (system.pools place).handles[number]? = some handle ∧
        if (configs place).maxSize = 0 then IsFresh handle
          else IsSpent handle := by
  have untied :=
    cleared.untied opening present samePlace sameKey early number opened
  have bounded := logged.numbered opening present number opened
  subst samePlace sameKey
  have untiedAnywhere := logged.untied present opened untied
  have notHeld : ¬(system.pools opening.place).Holds number := by
    rintro ⟨entry, entryPresent, numbered⟩
    exact untiedAnywhere entry.key (.inl ⟨entry, entryPresent, rfl, numbered⟩)
  have located := List.getElem?_eq_getElem bounded
  refine ⟨notHeld, _, located, ?_⟩
  have custody := orderly.custody opening.place
  split
  · next holdsNone => exact custody.isFresh _ _ located (.inr (.inl holdsNone))
  · next holdsSome =>
    refine custody.isSpent _ _ located notHeld ?_
    rintro (holdsNone | ⟨name, otherKey, brings⟩)
    · exact holdsSome holdsNone
    · exact untiedAnywhere otherKey (.inr ⟨name, brings⟩)

/-- When a call that removes a key has returned, the key has been cleared of
whatever had started before the call. -/
theorem cleared_of_reaches
    (fresh : conduct.OpensFresh)
    (orderly : Orderly stripe configs conduct system)
    (logged : Logged system)
    {name : Nat}
    {begun : System ι σ η}
    (began : system.move? stripe (.begins name (.invalidate place key) []) =
      some begun)
    (reaches : begun.Reaches stripe (Move.Within conduct) final)
    (returned : ∃ reply, final.clients name = .idle reply) :
    Orderly stripe configs conduct final ∧ Logged final ∧
      Cleared place key system.started final := by
  have step := step_of_move? orderly.keysDiffer began
  have beginWithin :
      (Move.begins name (.invalidate place key) []).Within conduct :=
    ⟨trivial, by simp⟩
  have begunOrderly := orderly.step fresh beginWithin step
  have attending : begun.clients name = .busy (.invalidate place key) [] := by
    cases step
    exact Function.update_self ..
  have run := begunOrderly.reaches fresh (fun _ => id) reaches
    (fun reached => Logged reached ∧ system.started ≤ reached.started ∧
      reached.Clears name place key system.started)
    ⟨logged.step orderly step, step.started_le, .inl (.inl attending)⟩ ?_
  · obtain ⟨finalOrderly, finalLogged, -, (attending | inside) | cleared⟩ := run
    · obtain ⟨reply, idle⟩ := returned
      rw [idle] at attending
      cases attending
    · obtain ⟨reply, idle⟩ := returned
      rw [idle] at inside
      cases inside
    · exact ⟨finalOrderly, finalLogged, cleared⟩
  · rintro before after move beforeOrderly within moved
      ⟨beforeLogged, bounded, clears⟩
    have nextStep := step_of_move? beforeOrderly.keysDiffer moved
    exact ⟨beforeLogged.step beforeOrderly nextStep,
      Nat.le_trans bounded nextStep.started_le,
      clears.move? fresh beforeOrderly beforeLogged within moved bounded⟩

/-! ## Atomicity -/

/-- In every system that clients can reach, requests and removals of a key
behave as if they were made one after another.

At most one opener runs for the key; its client holds the lock, and the key
has no live entry.  A client at its re-check that finds a live entry starts
no opener, and leaves with the handle, which the opening that returned last
has given; a client that finds none has its opener run, which is so
whenever the opening that returned last failed.  When a call that removes
the key has returned, no opener runs for the key that had started before
the call began, and the handles that such openers gave are not held.  Those
have been closed once, unless the pool can hold nothing: then it never took
them over, and they are open. -/
theorem atomic_on_key
    {names : ι → String}
    {world : σ}
    (fresh : conduct.OpensFresh)
    (reached : (start names configs world).Reaches stripe
      (Move.Within conduct) system)
    (place : ι)
    (key : String) :
    (∀ left right leftSerial rightSerial,
      system.Runs left place key leftSerial →
      system.Runs right place key rightSerial →
        left = right ∧ leftSerial = rightSerial) ∧
    (∀ name serial, system.Runs name place key serial →
      system.locks (place, stripe place key) = some name ∧
        (system.pools place).live? system.now key = none) ∧
    (∀ name opener rest,
      system.clients name = .inside place key (.recheck opener) rest →
      ∃ next, system.move? stripe (.advances name) = some next ∧
        (∀ entry, (system.pools place).live? system.now key = some entry →
          next.started = system.started ∧
            (∃ opening, system.latest? place key = some opening ∧
              opening.result = .ok entry.handle) ∧
            ∀ later : System ι σ η, later.clients name = next.clients name →
              ∃ after, later.move? stripe (.advances name) = some after ∧
                after.started = later.started ∧
                after.clients name = .next (.handle (.ok entry.handle)) rest) ∧
        ((system.pools place).live? system.now key = none →
          next.Runs name place key system.started) ∧
        ∀ opening error, system.latest? place key = some opening →
          opening.result = .error error →
          (system.pools place).live? system.now key = none) ∧
    ∀ name begun final,
      system.move? stripe (.begins name (.invalidate place key) []) =
        some begun →
      begun.Reaches stripe (Move.Within conduct) final →
      (∃ reply, final.clients name = .idle reply) →
      (∀ other serial, final.Runs other place key serial →
        system.started ≤ serial) ∧
        ∀ opening ∈ final.openings, opening.place = place → opening.key = key →
          opening.serial < system.started →
          ∀ number, opening.result = .ok number →
            ¬(final.pools place).Holds number ∧
              ∃ handle, (final.pools place).handles[number]? = some handle ∧
                if (configs place).maxSize = 0 then IsFresh handle
                else IsSpent handle := by
  obtain ⟨orderly, logged⟩ := orderly_logged_of_reaches fresh reached
  refine ⟨?_, ?_, ?_, ?_⟩
  · rintro left right leftSerial rightSerial ⟨_, leftRuns⟩ ⟨_, rightRuns⟩
    obtain rfl := orderly.locked.unique leftRuns.inside rightRuns.inside rfl
    have sameStage := (leftRuns.unique rightRuns).2.2
    rw [Stage.opening.injEq] at sameStage
    exact ⟨rfl, sameStage.1⟩
  · intro name serial runs
    have awaits : system.Awaits name place key := .inl ⟨serial, runs⟩
    exact ⟨orderly.locked name place key awaits.inside,
      orderly.missing name place key awaits⟩
  · intro name opener rest located
    refine ⟨_, move?_of_inside located, ?_, runs_proceed_recheck, ?_⟩
    · intro entry found
      rw [proceed_recheck_of_some found]
      refine ⟨rfl,
        logged.latest place key entry.handle (.inl ⟨entry, found, rfl⟩), ?_⟩
      intro later sameClient
      have leaving := sameClient.trans (Function.update_self ..)
      refine ⟨_, move?_of_inside leaving, rfl, ?_⟩
      exact Function.update_self ..
    · exact fun opening error returned failed =>
        logged.missing_of_failed returned failed
  · intro name begun final began reaches returned
    obtain ⟨finalOrderly, finalLogged, cleared⟩ :=
      cleared_of_reaches fresh orderly logged began reaches returned
    refine ⟨cleared.runs, ?_⟩
    intro opening present samePlace sameKey early number opened
    exact cleared.released finalOrderly finalLogged present samePlace
      sameKey early opened

/-! ### A removal that waits for an opener -/

/-- Open handles that are tagged in order. -/
def tagOpener (world : Nat) : Except IoError TrialHandle × Nat :=
  (.ok { tag := world }, world + 1)

/-- Handles are only opened with tags. -/
def tagging : Conduct Nat TrialHandle where
  opens opener := opener = tagOpener
  consults _ := False

theorem opensFresh_tagging : tagging.OpensFresh := by
  rintro opener rfl world handle opened
  cases opened
  exact ⟨rfl, rfl⟩

/-- A pool for trial handles with room for so many. -/
def trialStart (maxSize : UInt64) : System Unit Nat TrialHandle :=
  start (fun _ => "trial") (fun _ => ⟨maxSize, .ofSeconds 60, .close⟩) 0

/-- A client misses a key, and its opener starts. -/
def openingMoves : List (Move Unit Nat TrialHandle) :=
  .begins 0 (.request () "a" tagOpener) [] :: List.replicate 3 (.advances 0)

/-- The opener returns and its client leaves; then the other
client removes the key. -/
def removalMoves : List (Move Unit Nat TrialHandle) :=
  List.replicate 4 (.advances 0) ++ List.replicate 3 (.advances 1)

theorem within_openingMoves : ∀ move ∈ openingMoves, move.Within tagging := by
  simp [openingMoves, Move.Within, Task.Within, tagging]

theorem within_removalMoves : ∀ move ∈ removalMoves, move.Within tagging := by
  simp only [removalMoves, List.mem_append, List.mem_replicate]
  rintro move (⟨-, rfl⟩ | ⟨-, rfl⟩)
  · trivial
  · trivial

theorem atomic_on_key_of_waiting_removal :
    tagging.OpensFresh ∧ ∃ system begun final,
      (trialStart 1).Reaches (fun _ _ => 0) (Move.Within tagging) system ∧
      system.Runs 0 () "a" 0 ∧
      system.move? (fun _ _ => 0) (.begins 1 (.invalidate () "a") []) =
        some begun ∧
      begun.Reaches (fun _ _ => 0) (Move.Within tagging) final ∧
      ¬(final.pools ()).Holds 0 ∧
      ∃ handle, (final.pools ()).handles[0]? = some handle ∧
        IsSpent handle := by
  have played : ∃ system,
      (trialStart 1).play (fun _ _ => 0) openingMoves = some system ∧
      ∃ begun, system.move? (fun _ _ => 0) (.begins 1 (.invalidate () "a") []) =
        some begun ∧
      ∃ final, begun.play (fun _ _ => 0) removalMoves = some final ∧
        system.Runs 0 () "a" 0 ∧ system.started = 1 ∧
        (∃ reply, final.clients 1 = .idle reply) ∧
        final.openings = [⟨0, (), "a", .ok 0⟩] :=
    ⟨_, rfl, _, rfl, _, rfl, ⟨tagOpener, [], rfl⟩, rfl, ⟨_, rfl⟩, rfl⟩
  obtain ⟨system, opened, begun, began, final, removed, runs, started,
      returned, noted⟩ :=
    played
  have reached :
      (trialStart 1).Reaches (fun _ _ => 0) (Move.Within tagging) system :=
    ⟨openingMoves, within_openingMoves, opened⟩
  have reaches : begun.Reaches (fun _ _ => 0) (Move.Within tagging) final :=
    ⟨removalMoves, within_removalMoves, removed⟩
  have holds := atomic_on_key opensFresh_tagging reached () "a"
  obtain ⟨-, released⟩ := holds.2.2.2 1 begun final began reaches returned
  have given := released ⟨0, (), "a", .ok 0⟩
    (by rw [noted]; exact List.mem_singleton_self _) rfl rfl
    (by rw [started]; exact Nat.zero_lt_one) 0 rfl
  exact ⟨opensFresh_tagging, system, begun, final, reached, runs, began,
    reaches, given⟩

/-- A pool that can hold nothing leaves a handle open that was opened before a
removal of its key began. -/
theorem open_after_removal_of_roomless :
    ∃ system begun final,
      (trialStart 0).Reaches (fun _ _ => 0) (Move.Within tagging) system ∧
      system.move? (fun _ _ => 0) (.begins 1 (.invalidate () "a") []) =
        some begun ∧
      begun.Reaches (fun _ _ => 0) (Move.Within tagging) final ∧
      (∃ reply, final.clients 1 = .idle reply) ∧
      (∃ opening ∈ final.openings, opening.key = "a" ∧
        opening.serial < system.started ∧ opening.result = .ok 0) ∧
      ∃ handle, (final.pools ()).handles[0]? = some handle ∧
        ¬IsSpent handle := by
  refine ⟨_, _, _, ⟨openingMoves, within_openingMoves, rfl⟩, rfl,
    ⟨removalMoves, within_removalMoves, rfl⟩, ⟨_, rfl⟩,
    ⟨⟨0, (), "a", .ok 0⟩, ?_, rfl, ?_, rfl⟩, { tag := 0 }, rfl, ?_⟩
  · exact List.mem_singleton_self _
  · exact Nat.zero_lt_one
  · rintro ⟨closed, -⟩
    cases closed

end System
end HandlePool
