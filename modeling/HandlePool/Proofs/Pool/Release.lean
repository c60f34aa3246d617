import HandlePool.Proofs.Pool.Session
import Mathlib.Data.List.Induction

/-!
# Every handle is released once

Whatever calls are made to a pool that may hold something, every handle that an
opener produced is either held under the key it was opened for, as its opener
left it, or the pool let it go and closed it a single time.  The pool and the
history of its calls agree on what was produced, and every call keeps them so.
-/

namespace HandlePool

variable {η : Type} [TrackedHandle η]

open TrackedHandle

namespace Pool

/-! ## Opening a handle -/

/-- No handle is in the hands of a caller. -/
abbrev NoneLoose : Nat → Prop := fun _ => False

section Adopt

variable
  {pool : Pool η}
  {time : CallTime}
  {key : String}

/-- A handle that was opened for a missing key is taken over when it is kept. -/
theorem Custody.keep
    (custody : Custody NoneLoose pool)
    (holdsSome : pool.config.maxSize ≠ 0)
    (missing : pool.live? time.starts key = none)
    {handle : η}
    (fresh : IsFresh handle) :
    Custody NoneLoose
      (((pool.count .opened).enroll handle).2.insert time.inserts key
        pool.handles.length) := by
  have counted : Custody NoneLoose (pool.count .opened) := custody.congr rfl rfl
  have enrolled := counted.enroll fresh
  have given : pool.handles.length <
      ((pool.count .opened).enroll handle).2.handles.length := by
    exact List.length_append ▸ Nat.lt_succ_self _
  have stillMissing :=
    custody.keysDiffer.live?_eq_none_of_le time.starts_le_inserts missing
  have inserted := enrolled.insert holdsSome stillMissing given (.inr rfl)
  exact inserted.mono_loose (by simp [count])

theorem Custody.adopt
    (custody : Custody NoneLoose pool)
    (holdsSome : pool.config.maxSize ≠ 0)
    (missing : pool.live? time.starts key = none)
    {handle : η}
    (fresh : IsFresh handle) :
    Custody NoneLoose (pool.adopt time key handle) := by
  have kept := custody.keep holdsSome missing fresh
  exact kept.evolves (evolves_settle time.settles kept.keysDiffer)

end Adopt

/-! ## Pools and what was produced -/

/-- A pool that may hold something agrees with a record of
what openers produced. -/
structure Agrees
    (config : PoolConfig)
    (produced : List (String × Except IoError Nat))
    (pool : Pool η) : Prop where
  config_eq : pool.config = config
  custody : Custody NoneLoose pool
  /-- Handles are numbered in the order in which they were produced. -/
  numbered : produced.map Prod.snd = (List.range pool.handles.length).map .ok
  /-- A handle is kept under the key it was opened for. -/
  keyed : ∀ key number, pool.Keeps key number →
    produced[number]? = some (key, .ok number)

namespace Agrees

variable
  {config : PoolConfig}
  {produced : List (String × Except IoError Nat)}
  {pool final : Pool η}

theorem length_produced
    (agrees : Agrees config produced pool) :
    produced.length = pool.handles.length := by
  simpa using congrArg List.length agrees.numbered

theorem evolves
    {now : Instant}
    (agrees : Agrees config produced pool)
    (evolves : Evolves now pool final) :
    Agrees config produced final where
  config_eq := evolves.config_eq.trans agrees.config_eq
  custody := agrees.custody.evolves evolves
  numbered := by
    rw [evolves.length_handles_eq]
    exact agrees.numbered
  keyed key number keeps := agrees.keyed key number (evolves.keeps keeps)

theorem adopt
    (agrees : Agrees config produced pool)
    (holdsSome : config.maxSize ≠ 0)
    {time : CallTime}
    {key : String}
    (missing : pool.live? time.starts key = none)
    {handle : η}
    (fresh : IsFresh handle) :
    Agrees config (produced ++ [(key, .ok pool.handles.length)])
      (pool.adopt time key handle) := by
  have differ := agrees.custody.keysDiffer
  rw [← agrees.config_eq] at holdsSome
  constructor
  · rw [config_adopt differ holdsSome missing]
    exact agrees.config_eq
  · exact agrees.custody.adopt holdsSome missing fresh
  · rw [length_handles_adopt differ holdsSome missing, List.range_succ,
      List.map_append, List.map_append, agrees.numbered]
    rfl
  · intro other number keeps
    obtain before | ⟨rfl, rfl⟩ :=
      keeps_adopt differ holdsSome missing handle keeps
    · have found := agrees.keyed other number before
      have bounded := (List.getElem?_eq_some_iff.mp found).1
      rw [List.getElem?_append_left bounded, found]
    · rw [← agrees.length_produced, List.getElem?_concat_length]

/-- Whatever was produced is held under its key and fresh,
or let go and spent. -/
theorem held_or_spent
    (agrees : Agrees config produced pool)
    {key : String}
    {number : Nat}
    {result : Except IoError Nat}
    (found : produced[number]? = some (key, result)) :
    result = .ok number ∧ ∃ handle, pool.handles[number]? = some handle ∧
      (pool.Keeps key number ∧ IsFresh handle ∨
        ¬pool.Holds number ∧ IsSpent handle) := by
  have bounded := (List.getElem?_eq_some_iff.mp found).1
  rw [agrees.length_produced] at bounded
  have located : pool.handles[number]? = some pool.handles[number] :=
    List.getElem?_eq_getElem bounded
  constructor
  · have result_eq := congrArg (·[number]?) agrees.numbered
    simpa [List.getElem?_map, found, bounded] using result_eq
  · refine ⟨_, located, ?_⟩
    by_cases held : pool.Holds number
    · obtain ⟨entry, present, rfl⟩ := held
      have kept : pool.Keeps entry.key entry.handle :=
        ⟨entry, present, rfl, rfl⟩
      have sameKey : entry.key = key := by
        have keyed := (agrees.keyed _ _ kept).symm.trans found
        simp only [Option.some.injEq, Prod.mk.injEq] at keyed
        exact keyed.1
      rw [sameKey] at kept
      exact .inl ⟨kept, agrees.custody.isFresh _ _ located (.inl kept.holds)⟩
    · exact .inr ⟨held, agrees.custody.isSpent _ _ located held id⟩

end Agrees

end Pool

/-! ## Sessions -/

namespace Session

open Pool

/-- A call adds to what was produced what it produced itself. -/
theorem produced_take
    (session : Session η)
    (turn : Turn η) :
    (session.take turn).produced = session.produced ++
      (production (turn.call,
        (session.pool.perform (session.timeOf turn) turn.call).1)).toList := by
  simp only [take, produced, List.filterMap_append, List.filterMap_cons,
    List.filterMap_nil]
  cases production _ <;> rfl

/-- Every call keeps the pool and what was produced in agreement. -/
theorem agrees_take
    {config : PoolConfig}
    (holdsSome : config.maxSize ≠ 0)
    {session : Session η}
    (agrees : Agrees config session.produced session.pool)
    {turn : Turn η}
    (opensFresh : turn.call.OpensFresh) :
    Agrees config (session.take turn).produced (session.take turn).pool := by
  have differ := agrees.custody.keysDiffer
  have performed := performed_perform differ (session.timeOf turn) turn.call
  rw [produced_take]
  change Agrees config
      _ (session.pool.perform (session.timeOf turn) turn.call).2
  generalize session.pool.perform (session.timeOf turn) turn.call =
    gave at performed ⊢
  obtain ⟨reply, final⟩ := gave
  generalize turn.call = call at performed opensFresh ⊢
  cases performed with
  | evolved produces evolves =>
      rw [produces, Option.toList_none, List.append_nil]
      exact agrees.evolves evolves
  | opened key handle missing evolves adopted =>
      rw [adopted]
      have soughtMissing := evolves.live?_eq_none differ missing
      exact (agrees.evolves evolves).adopt holdsSome soughtMissing opensFresh

/-- The pool of a session agrees with what was produced. -/
theorem agrees_run
    (name : String)
    {config : PoolConfig}
    (holdsSome : config.maxSize ≠ 0)
    {turns : List (Turn η)}
    (newHandles : ∀ turn ∈ turns, turn.call.OpensFresh) :
    Agrees config (run name config turns).produced
      (run name config turns).pool := by
  induction turns using List.reverseRecOn with
  | nil =>
      exact ⟨rfl, custody_create NoneLoose name config, rfl,
        by simp [start, Keeps]⟩
  | append_singleton turns turn inductionHypothesis =>
      rw [run_append_singleton]
      have earlier := inductionHypothesis fun other present =>
        newHandles other (List.mem_append_left _ present)
      exact agrees_take holdsSome earlier (newHandles turn (by simp))

/-- In every session with a pool that may hold something, openers produce handle
after handle, numbered from zero; each of them is held under the key it was
opened for and was never closed, or is not held and was closed once; and entries
of one key, like entries of one handle, are one entry. -/
theorem held_or_closed_once
    (name : String)
    (config : PoolConfig)
    (holdsSome : config.maxSize ≠ 0)
    (turns : List (Turn η))
    (newHandles : ∀ turn ∈ turns, turn.call.OpensFresh) :
    let session := run name config turns
    session.produced.length = session.pool.handles.length ∧
      (∀ number key result, session.produced[number]? = some (key, result) →
        result = .ok number ∧
        ∃ handle, session.pool.handles[number]? = some handle ∧
          (session.pool.Keeps key number ∧ IsFresh handle ∨
            ¬session.pool.Holds number ∧ IsSpent handle)) ∧
      ∀ left ∈ session.pool.entries, ∀ right ∈ session.pool.entries,
        left.key = right.key ∨ left.handle = right.handle → left = right := by
  intro session
  have agrees := agrees_run name holdsSome newHandles
  refine ⟨agrees.length_produced, ?_, ?_⟩
  · intro number key result found
    exact agrees.held_or_spent found
  · intro left leftPresent right rightPresent same
    obtain sameKey | sameHandle := same
    · exact agrees.custody.keysDiffer.eq_of_key_eq leftPresent
        rightPresent sameKey
    · exact List.inj_on_of_nodup_map agrees.custody.handlesDiffer leftPresent
        rightPresent sameHandle

/-- Two keys share a pool that has room for one; then the
second one is removed. -/
def crowdedTurns : List (Turn TrialHandle) :=
  [ ⟨0, .request "a" (.ok { tag := 1 }), 0, 0⟩,
    ⟨5, .request "b" (.ok { tag := 2, failsToClose := true }), 0, 1⟩,
    ⟨0, .invalidate "b", 0, 0⟩ ]

theorem held_or_closed_once_crowded :
    let session := run "crowded" ⟨1, .ofSeconds 60, .close⟩ crowdedTurns
    session.pool.handles.length = 2 ∧ session.pool.entries = [] ∧
      ∀ number key result, session.produced[number]? = some (key, result) →
        result = .ok number ∧
        ∃ handle, session.pool.handles[number]? = some handle ∧
          (session.pool.Keeps key number ∧ IsFresh handle ∨
            ¬session.pool.Holds number ∧ IsSpent handle) := by
  have newHandles : ∀ turn ∈ crowdedTurns, turn.call.OpensFresh := by
    simp [crowdedTurns, PoolCall.OpensFresh, IsFresh, Handle.isOpen, closeCalls]
  have holds :=
    held_or_closed_once "crowded" ⟨1, .ofSeconds 60, .close⟩ (by decide)
    crowdedTurns newHandles
  exact ⟨by decide, by decide, holds.2.1⟩

end Session
end HandlePool
