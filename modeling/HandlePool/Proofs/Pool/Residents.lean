import HandlePool.Proofs.Pool.Coherence
import HandlePool.Proofs.Pool.Conservation

/-!
# What the resident count tells

A pool counts what was opened for it and what was removed from it, and the
difference is the number of its handles that are open, whatever its size.
As long as the pool may hold something these are its entries.  A pool that
may hold nothing never takes over a handle, and never lets one go: what it
opens stays open with the caller, and is counted as resident though the
pool has no entry at all.
-/

namespace HandlePool
namespace Pool

variable {η : Type} [TrackedHandle η]

open TrackedHandle

/-- The books of a pool of any size: where nothing may be held,
all handles are loose. -/
structure Booked (config : PoolConfig) (pool : Pool η) : Prop where
  config_eq : pool.config = config
  custody : Custody (fun _ => config.maxSize = 0) pool
  balance : InBalance
    (if config.maxSize = 0 then pool.handles.length else 0) pool
  accounts : Accounts pool

theorem booked_create
    (config : PoolConfig)
    (name : String) :
    Booked config ({ name := name, config := config } : Pool η) where
  config_eq := rfl
  custody := custody_create _ name config
  balance := by simpa using inBalance_create name config
  accounts := accounts_create name config

namespace Booked

variable {config : PoolConfig} {pool final : Pool η} {now : Instant}

theorem evolves
    (booked : Booked config pool)
    (evolves : Evolves now pool final) :
    Booked config final where
  config_eq := evolves.config_eq.trans booked.config_eq
  custody := booked.custody.evolves evolves
  balance := by
    rw [evolves.length_handles_eq]
    exact booked.balance.evolves booked.custody evolves
  accounts := booked.accounts.evolves booked.custody evolves

/-- A pool that may hold nothing adopts a handle by leaving it to the caller. -/
theorem adopt_of_eq_zero
    (booked : Booked config pool)
    (holdsNone : config.maxSize = 0)
    (time : CallTime)
    (key : String)
    {handle : η}
    (fresh : IsFresh handle) :
    Booked config (pool.adopt time key handle) := by
  obtain ⟨config_eq, custody, balance, accounts⟩ := booked
  have counted : Custody (fun _ => config.maxSize = 0) (pool.count .opened) :=
    custody.congr rfl rfl
  have enrolled : Booked config ((pool.count .opened).enroll handle).2 := by
    refine ⟨config_eq,
      (counted.enroll fresh).mono_loose (by simp [holdsNone]), ?_,
      accounts.enroll handle⟩
    rw [if_pos holdsNone] at balance ⊢
    have grown := balance.enroll fresh.1
    simpa [Pool.enroll, Pool.count] using grown
  have enrolledHoldsNone :
      ((pool.count .opened).enroll handle).2.config.maxSize = 0 := by
    rw [enrolled.config_eq, holdsNone]
  rw [Pool.adopt, insert_of_eq_zero enrolledHoldsNone]
  exact enrolled.evolves
    (evolves_settle time.settles enrolled.custody.keysDiffer)

theorem adopt
    (booked : Booked config pool)
    {time : CallTime}
    {key : String}
    (missing : pool.live? time.starts key = none)
    {handle : η}
    (fresh : IsFresh handle) :
    Booked config (pool.adopt time key handle) := by
  by_cases holdsSome : config.maxSize = 0
  · exact booked.adopt_of_eq_zero holdsSome time key fresh
  · obtain ⟨config_eq, custody, balance, accounts⟩ := booked
    have taken : Custody NoneLoose pool :=
      custody.mono_loose (by simp [holdsSome])
    rw [if_neg holdsSome] at balance
    have poolHoldsSome : pool.config.maxSize ≠ 0 := by rwa [config_eq]
    refine ⟨?_, ?_, ?_, accounts.adopt taken poolHoldsSome missing fresh⟩
    · exact (config_adopt taken.keysDiffer poolHoldsSome missing handle).trans
        config_eq
    · exact (taken.adopt poolHoldsSome missing fresh).mono_loose
        (by simp [holdsSome])
    · rw [if_neg holdsSome]
      exact balance.adopt taken poolHoldsSome missing fresh

/-- What was opened was removed, or is open. -/
theorem opens_eq
    (booked : Booked config pool) :
    pool.counters.opens = pool.counters.removals + pool.openCount := by
  rw [booked.balance.opens_eq, booked.accounts.closes_eq]

theorem resident_eq
    (booked : Booked config pool) :
    pool.counters.resident = pool.openCount := by
  rw [Counters.resident, booked.opens_eq, Nat.add_sub_cancel_left]

/-- The open handles of a pool that may hold something are those it holds. -/
theorem length_entries_eq
    (booked : Booked config pool)
    (holdsSome : config.maxSize ≠ 0) :
    pool.entries.length = pool.openCount := by
  have balance := booked.balance
  rw [if_neg holdsSome] at balance
  exact balance.openCount_eq.symm

/-- A pool that may hold nothing has no entry, and all its handles are open. -/
theorem of_eq_zero
    (booked : Booked config pool)
    (holdsNone : config.maxSize = 0) :
    pool.entries = [] ∧ pool.openCount = pool.handles.length := by
  have empty : pool.entries = [] :=
    List.eq_nil_iff_forall_not_mem.mpr fun entry present =>
    booked.custody.apart entry.handle ⟨entry, present, rfl⟩ holdsNone
  have balance := booked.balance.openCount_eq
  rw [if_pos holdsNone, empty, List.length_nil, Nat.zero_add] at balance
  exact ⟨empty, balance⟩

end Booked

/-- One handle is added by adopting it, whether it is kept or not. -/
theorem KeysDiffer.length_handles_adopt
    {pool : Pool η}
    (differ : pool.KeysDiffer)
    {time : CallTime}
    {key : String}
    (missing : pool.live? time.starts key = none)
    (handle : η) :
    (pool.adopt time key handle).handles.length = pool.handles.length + 1 := by
  have enrolledDiffer :
      ((pool.count .opened).enroll handle).2.KeysDiffer := differ
  have stillMissing := differ.live?_eq_none_of_le time.starts_le_inserts missing
  have keptDiffer := enrolledDiffer.insert stillMissing pool.handles.length
  rw [adopt, (evolves_settle time.settles keptDiffer).length_handles_eq,
    length_handles_insert]
  exact List.length_append

end Pool

/-! ## Sessions -/

namespace Session

open Pool

variable {η : Type} [TrackedHandle η]

/-- Handles are numbered in the order in which they were produced. -/
def Numbered (session : Session η) : Prop :=
  session.produced.map Prod.snd =
    (List.range session.pool.handles.length).map .ok

theorem booked_take
    {config : PoolConfig}
    {session : Session η}
    (booked : Booked config session.pool)
    (numbered : session.Numbered)
    {turn : Turn η}
    (opensFresh : turn.call.OpensFresh) :
    Booked config (session.take turn).pool ∧ (session.take turn).Numbered := by
  have differ := booked.custody.keysDiffer
  have performed := performed_perform differ (session.timeOf turn) turn.call
  rw [Numbered, produced_take]
  change Booked config
      (session.pool.perform (session.timeOf turn) turn.call).2 ∧
    _ = (List.range (session.pool.perform _ turn.call).2.handles.length).map _
  generalize session.pool.perform (session.timeOf turn) turn.call =
    gave at performed ⊢
  obtain ⟨reply, final⟩ := gave
  generalize turn.call = call at performed opensFresh ⊢
  cases performed with
  | evolved produces evolves =>
      refine ⟨booked.evolves evolves, ?_⟩
      rw [produces, Option.toList_none, List.append_nil,
        evolves.length_handles_eq]
      exact numbered
  | @opened sought final key handle missing evolves adopted =>
      have soughtMissing := evolves.live?_eq_none differ missing
      have soughtBooked := booked.evolves evolves
      rw [adopted,
        soughtBooked.custody.keysDiffer.length_handles_adopt soughtMissing,
        evolves.length_handles_eq, List.range_succ, List.map_append,
        List.map_append, show session.produced.map Prod.snd = _ from numbered]
      exact ⟨soughtBooked.adopt soughtMissing opensFresh, rfl⟩

theorem booked_run
    (name : String)
    (config : PoolConfig)
    {turns : List (Turn η)}
    (newHandles : ∀ turn ∈ turns, turn.call.OpensFresh) :
    Booked config (run name config turns).pool ∧
    (run name config turns).Numbered := by
  induction turns using List.reverseRecOn with
  | nil => exact ⟨booked_create config name, rfl⟩
  | append_singleton turns turn inductionHypothesis =>
      rw [run_append_singleton]
      obtain ⟨booked, numbered⟩ := inductionHypothesis fun other present =>
        newHandles other (List.mem_append_left _ present)
      exact booked_take booked numbered (newHandles turn (by simp))

omit [TrackedHandle η] in
/-- Only requests produce handles. -/
theorem length_produced_le_requests
    (session : Session η) :
    session.produced.length ≤ session.requests := by
  rw [produced, requests, List.length_filterMap_eq_countP]
  refine List.countP_mono_left fun made _ produces => ?_
  obtain ⟨call, reply⟩ := made
  cases call <;> first | rfl | cases produces

/-- In every session, whatever the pool may hold, what was opened was removed or
is open, and the resident count is the number of handles that openers produced
and that are open.  That is the number of entries if the pool may hold
something.  Otherwise the pool has no entry, and all that was produced is
counted as resident.  Up to 2^64 requests the count is the same in 64 bits, and
no sum overflows. -/
theorem resident_eq_openCount
    (name : String)
    (config : PoolConfig)
    (turns : List (Turn η))
    (newHandles : ∀ turn ∈ turns, turn.call.OpensFresh) :
    let session := run name config turns
    let pool := session.pool
    session.produced.map Prod.snd = (List.range pool.handles.length).map .ok ∧
      pool.counters.opens = pool.counters.removals + pool.openCount ∧
      pool.counters.resident = pool.openCount ∧
      (config.maxSize ≠ 0 → pool.counters.resident = pool.entries.length) ∧
      (config.maxSize = 0 →
        pool.entries = [] ∧ pool.counters.resident = session.produced.length) ∧
      (session.requests < UInt64.size →
        ∃ resident, pool.counters.snapshot.resident = .ok resident ∧
          resident.toNat = pool.counters.resident) := by
  intro session pool
  obtain ⟨booked, numbered⟩ : Booked config pool ∧ session.Numbered :=
    booked_run name config newHandles
  have length_eq : session.produced.length = pool.handles.length := by
    simpa using congrArg List.length numbered
  refine ⟨numbered, booked.opens_eq, booked.resident_eq, fun holdsSome => ?_,
    fun holdsNone => ?_, fun few => ?_⟩
  · rw [booked.resident_eq, booked.length_entries_eq holdsSome]
  · obtain ⟨empty, allOpen⟩ := booked.of_eq_zero holdsNone
    exact ⟨empty, by rw [booked.resident_eq, allOpen, length_eq]⟩
  · have opens_eq := booked.accounts.opens_eq
    have sum := booked.opens_eq
    have fewer := session.length_produced_le_requests
    exact Counters.resident_snapshot (by omega) (by omega)

/-- The first handle is displaced by the second one, or both are
left to their callers. -/
def rivalTurns : List (Turn TrialHandle) :=
  [ ⟨0, .request "a" (.ok { tag := 1 }), 0, 0⟩,
    ⟨5, .request "b" (.ok { tag := 2 }), 0, 1⟩ ]

theorem resident_eq_openCount_of_rivals :
    let session := run "rivals" ⟨1, .ofSeconds 60, .close⟩ rivalTurns
    session.pool.entries.length = 1 ∧ session.pool.openCount = 1 ∧
      session.pool.counters.resident = 1 := by
  intro session
  have newHandles : ∀ turn ∈ rivalTurns, turn.call.OpensFresh := by
    simp [rivalTurns, PoolCall.OpensFresh, TrackedHandle.IsFresh, Handle.isOpen,
      TrackedHandle.closeCalls]
  obtain ⟨-, -, resident_eq, residents, -⟩ :=
    resident_eq_openCount "rivals" ⟨1, .ofSeconds 60, .close⟩
      rivalTurns newHandles
  have one : session.pool.entries.length = 1 := by decide
  have resident : session.pool.counters.resident = 1 :=
    (residents (by decide)).trans one
  exact ⟨one, resident_eq.symm.trans resident, resident⟩

/-- A pool that may hold nothing counts both handles as
resident, and holds none. -/
theorem resident_ne_length_of_roomless :
    let session := run "roomless" ⟨0, .ofSeconds 60, .close⟩ rivalTurns
    session.pool.counters.resident = 2 ∧ session.pool.openCount = 2 ∧
      session.pool.entries.length = 0 := by
  decide

end Session
end HandlePool
