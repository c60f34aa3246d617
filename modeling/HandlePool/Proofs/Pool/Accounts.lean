import HandlePool.Proofs.Pool.Balance
import HandlePool.Proofs.Pool.Release

/-!
# The accounts of a pool

What a pool counts agrees with what it did.  Every opening that it counts gave
it a handle, and every removal closed one: closings are removals, and nothing is
ever replaced.  With the balance of openings and closings that says how many
handles were opened, how many are held, and how many have gone and why.
-/

namespace HandlePool

namespace Pool

variable {η : Type} [TrackedHandle η]

/-- The counters agree with the handles of the pool. -/
structure Accounts (pool : Pool η) : Prop where
  opens_eq : pool.counters.opens = pool.handles.length
  closes_eq : pool.counters.closes = pool.counters.removals
  closeFailures_le : pool.counters.closeFailures ≤ pool.counters.closes
  noneReplaced : pool.counters.replaced = 0

omit [TrackedHandle η] in
theorem accounts_create
    (name : String)
    (config : PoolConfig) :
    Accounts ({ name := name, config := config } : Pool η) :=
  ⟨rfl, rfl, Nat.le_refl 0, rfl⟩

namespace Accounts

variable {loose : Nat → Prop} {now : Instant} {pool final : Pool η}

theorem remove
    (accounts : Accounts pool)
    {entry : Entry}
    (opened : entry.handle < pool.handles.length)
    {cause : RemovalCause}
    (notReplaced : cause ≠ .replaced) :
    Accounts (pool.remove entry cause) := by
  obtain ⟨opens, closes, removals, replaced, failures⟩ :=
    counters_remove (List.getElem?_eq_getElem opened) notReplaced
  obtain ⟨opens_eq, closes_eq, closeFailures_le, noneReplaced⟩ := accounts
  have atMostOne := (Handle.failsToClose pool.handles[entry.handle]).toNat_le
  constructor
  · rw [opens, opens_eq]
    simp [Pool.remove]
  · omega
  · omega
  · omega

omit [TrackedHandle η] in
theorem congr
    {other : Pool η}
    (accounts : Accounts pool)
    (sameCounters : other.counters = pool.counters)
    (sameLength : other.handles.length = pool.handles.length) :
    Accounts other := by
  obtain ⟨opens_eq, closes_eq, closeFailures_le, noneReplaced⟩ := accounts
  constructor <;> simpa only [sameCounters, sameLength]

theorem evolves
    (accounts : Accounts pool)
    (custody : Custody loose pool)
    (evolves : Evolves now pool final) :
    Accounts final := by
  induction evolves with
  | done pool => exact accounts
  | remove entry cause present warranted _ inductionHypothesis =>
      exact inductionHypothesis
        (accounts.remove (custody.opened entry present) warranted.ne_replaced)
        (custody.remove present warranted.ne_replaced)
  | touch entry present _ _ inductionHypothesis =>
      exact inductionHypothesis (accounts.congr rfl rfl)
        (custody.touch _ present)
  | count event lookedUp _ inductionHypothesis =>
      refine inductionHypothesis ?_ (custody.congr rfl rfl)
      obtain ⟨opens_eq, closes_eq, closeFailures_le, noneReplaced⟩ := accounts
      obtain rfl | rfl | rfl := lookedUp <;>
        exact ⟨opens_eq, closes_eq, closeFailures_le, noneReplaced⟩
  | note _ _ inductionHypothesis =>
      exact inductionHypothesis (accounts.congr rfl rfl) (custody.congr rfl rfl)
  | putOff _ _ inductionHypothesis =>
      exact inductionHypothesis (accounts.congr rfl rfl) (custody.congr rfl rfl)

omit [TrackedHandle η] in
theorem enroll
    (accounts : Accounts pool)
    (handle : η) :
    Accounts ((pool.count .opened).enroll handle).2 := by
  obtain ⟨opens_eq, closes_eq, closeFailures_le, noneReplaced⟩ := accounts
  refine ⟨?_, closes_eq, closeFailures_le, noneReplaced⟩
  change pool.counters.opens + 1 = (pool.handles ++ [handle]).length
  rw [opens_eq, List.length_append, List.length_singleton]

theorem insert
    (accounts : Accounts pool)
    (custody : Custody loose pool)
    (holdsSome : pool.config.maxSize ≠ 0)
    {key : String}
    (missing : pool.live? now key = none)
    (number : Nat) :
    Accounts (pool.insert now key number) := by
  obtain ⟨cleared, evolves, -, inserted⟩ :=
    insert_eq custody.keysDiffer holdsSome missing number
  rw [inserted]
  exact (accounts.evolves custody evolves).congr rfl rfl

end Accounts

section Adopt

variable
  {pool : Pool η}
  {time : CallTime}
  {key : String}
  {handle : η}

theorem Accounts.adopt
    (accounts : Accounts pool)
    (custody : Custody NoneLoose pool)
    (holdsSome : pool.config.maxSize ≠ 0)
    (missing : pool.live? time.starts key = none)
    (fresh : TrackedHandle.IsFresh handle) :
    Accounts (pool.adopt time key handle) := by
  have counted : Custody NoneLoose (pool.count .opened) := custody.congr rfl rfl
  have kept := custody.keep holdsSome missing fresh
  have stillMissing :=
    custody.keysDiffer.live?_eq_none_of_le time.starts_le_inserts missing
  have inserted :=
    (accounts.enroll handle).insert (counted.enroll fresh) holdsSome
    stillMissing pool.handles.length
  exact inserted.evolves kept (evolves_settle time.settles kept.keysDiffer)

/-- A handle that was opened for a missing key is held, or
was closed already. -/
theorem InBalance.adopt
    (balance : InBalance 0 pool)
    (custody : Custody NoneLoose pool)
    (holdsSome : pool.config.maxSize ≠ 0)
    (missing : pool.live? time.starts key = none)
    (fresh : TrackedHandle.IsFresh handle) :
    InBalance 0 (pool.adopt time key handle) := by
  have counted : Custody NoneLoose (pool.count .opened) := custody.congr rfl rfl
  have kept := custody.keep holdsSome missing fresh
  have stillMissing :=
    custody.keysDiffer.live?_eq_none_of_le time.starts_le_inserts missing
  have inserted :=
    (balance.enroll fresh.1).insert (counted.enroll fresh) holdsSome
    stillMissing pool.handles.length
  exact inserted.evolves kept (evolves_settle time.settles kept.keysDiffer)

end Adopt

/-- Whatever was opened is held, or has gone for one of three causes. -/
theorem Accounts.opens_eq_add
    {pool : Pool η}
    (accounts : Accounts pool)
    (balance : InBalance 0 pool) :
    pool.counters.opens = pool.entries.length + pool.counters.removals := by
  have opens_eq := balance.opens_eq
  have openCount_eq := balance.openCount_eq
  have closes_eq := accounts.closes_eq
  omega

/-- A pool that holds nothing has closed all that it opened. -/
theorem Accounts.closes_eq_opens
    {pool : Pool η}
    (accounts : Accounts pool)
    (balance : InBalance 0 pool)
    (empty : pool.entries = []) :
    pool.counters.closes = pool.counters.opens := by
  rw [accounts.closes_eq, accounts.opens_eq_add balance, empty, List.length_nil,
    Nat.zero_add]

end Pool
end HandlePool
