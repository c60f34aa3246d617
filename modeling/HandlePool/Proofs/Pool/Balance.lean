import HandlePool.Proofs.Pool.LiveEntries
import HandlePool.Proofs.Pool.Custody

/-!
# How many handles are open

A pool opens a handle for every opening that it counts, and closes one for every
closing that it counts.  What is open is held by the pool, or is one of the
loose handles that its callers have.  Opening a handle adds a loose one, keeping
it turns it into an entry, and with every entry that goes a handle is closed.
-/

namespace HandlePool

/-- Closing the handle reports an error. -/
def Handle.failsToClose {η : Type} [Handle η] (handle : η) : Bool :=
  match (Handle.close handle).1 with
  | .ok () => false
  | .error _ => true

namespace Pool

variable {η : Type}

/-- Removing the entry of a key leaves one entry less. -/
theorem KeysDiffer.length_others
    {pool : Pool η}
    (differ : pool.KeysDiffer)
    {entry : Entry}
    (present : entry ∈ pool.entries) :
    (pool.others entry.key).length + 1 = pool.entries.length := by
  have keys : (pool.others entry.key).map Entry.key =
      (pool.entries.map Entry.key).erase entry.key := by
    rw [List.Nodup.erase_eq_filter differ, List.filter_map]
    rfl
  have listed : entry.key ∈ pool.entries.map Entry.key :=
    List.mem_map_of_mem present
  have shorter := congrArg List.length keys
  rw [List.length_map, List.length_erase_of_mem listed, List.length_map]
    at shorter
  have nonempty := List.length_pos_of_mem present
  omega

theorem length_touch
    {pool : Pool η}
    (differ : pool.KeysDiffer)
    (now : Instant)
    {entry : Entry}
    (present : entry ∈ pool.entries) :
    (pool.touch now entry).entries.length = pool.entries.length := by
  rw [touch, List.length_append, List.length_singleton]
  exact differ.length_others present

/-- How many handles of the pool are open. -/
def openCount [Handle η] (pool : Pool η) : Nat :=
  pool.handles.countP Handle.isOpen

/-- A pool never gets more entries but by keeping a handle. -/
theorem Evolves.length_entries_le
    [Handle η]
    {now : Instant}
    {pool final : Pool η}
    (evolves : Evolves now pool final)
    (differ : pool.KeysDiffer) :
    final.entries.length ≤ pool.entries.length := by
  induction evolves with
  | done pool => exact Nat.le_refl _
  | remove entry cause present _ _ inductionHypothesis =>
      refine Nat.le_trans (inductionHypothesis (differ.remove entry cause)) ?_
      rw [entries_remove]
      exact List.length_filter_le _ _
  | touch entry present _ _ inductionHypothesis =>
      rw [← length_touch differ now present]
      exact inductionHypothesis (differ.touch now entry)
  | count _ _ _ inductionHypothesis => exact inductionHypothesis differ
  | note _ _ inductionHypothesis => exact inductionHypothesis differ
  | putOff _ _ inductionHypothesis => exact inductionHypothesis differ

theorem length_entries_insert_le
    [Handle η]
    {now : Instant}
    {pool : Pool η}
    (differ : pool.KeysDiffer)
    {key : String}
    (missing : pool.live? now key = none)
    (number : Nat) :
    (pool.insert now key number).entries.length ≤ pool.entries.length + 1 := by
  by_cases holdsSome : pool.config.maxSize = 0
  · rw [insert_of_eq_zero holdsSome]
    exact Nat.le_succ _
  · obtain ⟨cleared, -, left, inserted⟩ :=
      insert_eq differ holdsSome missing number
    rw [inserted, left, List.length_append]
    exact Nat.add_le_add_right (List.length_filter_le _ _) 1

/-! ## Balance -/

/-- The counters agree with what is open, and all that is open is held, apart
from so many loose handles. -/
structure InBalance [Handle η] (looseCount : Nat) (pool : Pool η) : Prop where
  opens_eq : pool.counters.opens = pool.counters.closes + pool.openCount
  openCount_eq : pool.openCount = pool.entries.length + looseCount

section InBalance

variable [Handle η] {pool : Pool η} {looseCount : Nat}

theorem inBalance_create
    (name : String)
    (config : PoolConfig) :
    InBalance 0 ({ name := name, config := config } : Pool η) :=
  ⟨rfl, rfl⟩

/-- An open handle that is enrolled is loose. -/
theorem InBalance.enroll
    (balance : InBalance looseCount pool)
    {handle : η}
    (isOpen : Handle.isOpen handle = true) :
    InBalance (looseCount + 1) ((pool.count .opened).enroll handle).2 := by
  have grown : ((pool.count .opened).enroll handle).2.openCount =
      pool.openCount + 1 := by
    simp [openCount, Pool.enroll, count, List.countP_append, isOpen]
  obtain ⟨opens_eq, openCount_eq⟩ := balance
  constructor
  · rw [grown]
    change pool.counters.opens + 1 = pool.counters.closes + _
    omega
  · rw [grown, openCount_eq]
    rfl

end InBalance

section Custody

variable [TrackedHandle η] {pool : Pool η} {loose : Nat → Prop}
    {looseCount : Nat}

omit [TrackedHandle η] in
/-- The guard counts the removal and the closing of a handle, and a failure if
closing it fails. -/
theorem counters_release
    [Handle η]
    {cause : RemovalCause}
    (notReplaced : cause ≠ .replaced)
    (policy : ReplacePolicy)
    (counters : Counters)
    (key : String)
    (handle : η) :
    let released := (release policy counters key cause handle).counters
    released.opens = counters.opens ∧ released.closes = counters.closes + 1 ∧
      released.removals = counters.removals + 1 ∧
      released.replaced = counters.replaced ∧
      released.closeFailures =
        counters.closeFailures + (Handle.failsToClose handle).toNat := by
  have closes : ¬(cause = .replaced ∧ policy = .retain) :=
    fun retained => notReplaced retained.1
  unfold release Handle.failsToClose
  rw [if_neg closes]
  rcases Handle.close handle with ⟨outcome, after⟩
  cases outcome <;> cases cause <;> grind [Counters.record, Counters.removals]

omit [TrackedHandle η] in
theorem counters_remove
    [Handle η]
    {entry : Entry}
    {handle : η}
    (found : pool.handles[entry.handle]? = some handle)
    {cause : RemovalCause}
    (notReplaced : cause ≠ .replaced) :
    let after := (pool.remove entry cause).counters
    after.opens = pool.counters.opens ∧
      after.closes = pool.counters.closes + 1 ∧
      after.removals = pool.counters.removals + 1 ∧
      after.replaced = pool.counters.replaced ∧
      after.closeFailures =
        pool.counters.closeFailures + (Handle.failsToClose handle).toNat := by
  simp only [remove, dismiss, found]
  exact counters_release notReplaced ..

/-- With an entry a handle goes, and is closed. -/
theorem InBalance.remove
    (balance : InBalance looseCount pool)
    (custody : Custody loose pool)
    {entry : Entry}
    (present : entry ∈ pool.entries)
    {cause : RemovalCause}
    (notReplaced : cause ≠ .replaced) :
    InBalance looseCount (pool.remove entry cause) := by
  have bounded := custody.opened entry present
  have found := List.getElem?_eq_getElem bounded
  have fresh := custody.isFresh _ _ found (.inl ⟨entry, present, rfl⟩)
  have spent :=
    fresh.isSpent_release notReplaced pool.config.policy pool.counters entry.key
  have isOpen : Handle.isOpen pool.handles[entry.handle] = true := fresh.1
  have fewer : (pool.remove entry cause).openCount + 1 = pool.openCount := by
    have positive : 0 < pool.handles.countP Handle.isOpen :=
      List.countP_pos_iff.mpr ⟨_, List.getElem_mem bounded, isOpen⟩
    simp only [openCount, Pool.remove, dismiss, found]
    rw [List.countP_set bounded, if_pos isOpen, spent.1]
    simp only [Bool.false_eq_true, if_false]
    omega
  obtain ⟨opens, closes, -⟩ := counters_remove found notReplaced
  obtain ⟨opens_eq, openCount_eq⟩ := balance
  have shorter := custody.keysDiffer.length_others present
  constructor
  · omega
  · rw [entries_remove]
    omega

theorem InBalance.evolves
    {now : Instant}
    {final : Pool η}
    (balance : InBalance looseCount pool)
    (custody : Custody loose pool)
    (evolves : Evolves now pool final) :
    InBalance looseCount final := by
  induction evolves with
  | done pool => exact balance
  | remove entry cause present warranted _ inductionHypothesis =>
      exact inductionHypothesis
        (balance.remove custody present warranted.ne_replaced)
        (custody.remove present warranted.ne_replaced)
  | touch entry present _ _ inductionHypothesis =>
      refine inductionHypothesis ⟨balance.opens_eq, ?_⟩
        (custody.touch now present)
      rw [length_touch custody.keysDiffer now present]
      exact balance.openCount_eq
  | count event lookedUp _ inductionHypothesis =>
      refine inductionHypothesis ⟨?_, balance.openCount_eq⟩
        (custody.congr rfl rfl)
      obtain rfl | rfl | rfl := lookedUp <;> exact balance.opens_eq
  | note _ _ inductionHypothesis =>
      exact inductionHypothesis ⟨balance.opens_eq, balance.openCount_eq⟩
        (custody.congr rfl rfl)
  | putOff _ _ inductionHypothesis =>
      exact inductionHypothesis ⟨balance.opens_eq, balance.openCount_eq⟩
        (custody.congr rfl rfl)

/-- A loose handle that is kept is held. -/
theorem InBalance.insert
    {now : Instant}
    (balance : InBalance (looseCount + 1) pool)
    (custody : Custody loose pool)
    (holdsSome : pool.config.maxSize ≠ 0)
    {key : String}
    (missing : pool.live? now key = none)
    (number : Nat) :
    InBalance looseCount (pool.insert now key number) := by
  obtain ⟨cleared, evolves, -, inserted⟩ :=
    insert_eq custody.keysDiffer holdsSome missing number
  obtain ⟨opens_eq, openCount_eq⟩ := balance.evolves custody evolves
  rw [inserted]
  refine ⟨opens_eq, openCount_eq.trans ?_⟩
  simp only [List.length_append, List.length_singleton]
  omega

end Custody

end Pool
end HandlePool
