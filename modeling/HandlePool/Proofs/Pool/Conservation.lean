import HandlePool.Proofs.Counters
import HandlePool.Proofs.Pool.Course
import HandlePool.Proofs.Pool.Ledger
import Mathlib.Data.Set.Card

/-!
# Nothing is counted twice or forgotten

In every session with a pool that may hold something, the counters add up.
Every request for a handle is a hit or a miss, every miss opens a handle or
fails to, every handle that was opened is held or was removed for one of its
causes, and every removal closed one.
-/

namespace HandlePool
namespace Pool

variable {η : Type} [TrackedHandle η]

open TrackedHandle

/-! ## Handles that could not be closed -/

/-- The numbers of handles that the pool let go and that failed to close, going
by what openers produced. -/
def failed (originals : List η) (pool : Pool η) : Set Nat :=
  {number | ∃ handle, originals[number]? = some handle ∧
    Handle.failsToClose handle = true ∧ ¬pool.Holds number}

theorem finite_failed
    (originals : List η)
    (pool : Pool η) :
    (failed originals pool).Finite := by
  refine (Set.finite_lt_nat originals.length).subset ?_
  rintro number ⟨handle, found, -⟩
  exact (List.getElem?_eq_some_iff.mp found).1

/-- Held handles are as they were produced, and failures to close the others are
counted. -/
structure Failures (originals : List η) (pool : Pool η) : Prop where
  asProduced : ∀ number, pool.Holds number →
    pool.handles[number]? = originals[number]?
  closeFailures_eq : pool.counters.closeFailures = (failed originals pool).ncard

namespace Failures

variable
  {originals : List η}
  {loose : Nat → Prop}
  {now : Instant}
  {pool final : Pool η}

theorem congr
    {other : Pool η}
    (failures : Failures originals pool)
    (sameHolds : ∀ number, other.Holds number ↔ pool.Holds number)
    (sameHandles : other.handles = pool.handles)
    (sameFailures : other.counters.closeFailures =
      pool.counters.closeFailures) :
    Failures originals other where
  asProduced number held := by
    rw [sameHandles]
    exact failures.asProduced number ((sameHolds number).mp held)
  closeFailures_eq := by
    rw [sameFailures, failures.closeFailures_eq]
    simp only [failed, sameHolds]

theorem remove
    (failures : Failures originals pool)
    (custody : Custody loose pool)
    {entry : Entry}
    (present : entry ∈ pool.entries)
    {cause : RemovalCause}
    (notReplaced : cause ≠ .replaced) :
    Failures originals (pool.remove entry cause) := by
  have holds := custody.holds_remove_iff present cause
  have held : pool.Holds entry.handle := ⟨entry, present, rfl⟩
  obtain ⟨handle, found⟩ :
      ∃ handle, pool.handles[entry.handle]? = some handle :=
    ⟨_, List.getElem?_eq_getElem (custody.opened entry present)⟩
  have original := (failures.asProduced entry.handle held).symm.trans found
  obtain ⟨-, -, -, -, counted⟩ := counters_remove found notReplaced
  constructor
  · intro number stillHeld
    obtain ⟨heldBefore, different⟩ := (holds number).mp stillHeld
    rw [handle?_remove_of_ne different]
    exact failures.asProduced number heldBefore
  · rw [counted, failures.closeFailures_eq]
    cases fails : Handle.failsToClose handle with
    | true =>
        have more : failed originals (pool.remove entry cause) =
            Insert.insert entry.handle (failed originals pool) := by
          ext number
          simp only [failed, holds, Set.mem_insert_iff, Set.mem_ofPred_eq]
          constructor
          · rintro ⟨other, produced, otherFails, notHeld⟩
            by_cases same : number = entry.handle
            · exact .inl same
            · exact .inr ⟨other, produced, otherFails, fun before =>
                notHeld ⟨before, same⟩⟩
          · rintro (rfl | ⟨other, produced, otherFails, notHeld⟩)
            · exact ⟨handle, original, fails, fun still => still.2 rfl⟩
            · exact ⟨other, produced, otherFails, fun still => notHeld still.1⟩
        have new : entry.handle ∉ failed originals pool := by
          rintro ⟨-, -, -, notHeld⟩
          exact notHeld held
        rw [more, Set.ncard_insert_of_notMem new (finite_failed originals pool)]
        rfl
    | false =>
        have same : failed originals (pool.remove entry cause) =
            failed originals pool := by
          ext number
          simp only [failed, holds, Set.mem_ofPred_eq]
          constructor
          · rintro ⟨other, produced, otherFails, notHeld⟩
            refine ⟨other, produced, otherFails, fun before =>
              notHeld ⟨before, ?_⟩⟩
            rintro rfl
            rw [original, Option.some.injEq] at produced
            rw [← produced, fails] at otherFails
            cases otherFails
          · rintro ⟨other, produced, otherFails, notHeld⟩
            exact ⟨other, produced, otherFails, fun still => notHeld still.1⟩
        rw [same]
        rfl

theorem evolves
    (failures : Failures originals pool)
    (custody : Custody loose pool)
    (evolves : Evolves now pool final) :
    Failures originals final := by
  induction evolves with
  | done pool => exact failures
  | remove entry cause present warranted _ inductionHypothesis =>
      exact inductionHypothesis
        (failures.remove custody present warranted.ne_replaced)
        (custody.remove present warranted.ne_replaced)
  | touch entry present _ _ inductionHypothesis =>
      refine inductionHypothesis ?_ (custody.touch _ present)
      exact failures.congr
        (custody.keysDiffer.holds_touch_iff _ present) rfl rfl
  | count event lookedUp _ inductionHypothesis =>
      refine inductionHypothesis (failures.congr (fun _ => .rfl) rfl ?_)
        (custody.congr rfl rfl)
      obtain rfl | rfl | rfl := lookedUp <;> rfl
  | note _ _ inductionHypothesis =>
      exact inductionHypothesis (failures.congr (fun _ => .rfl) rfl rfl)
        (custody.congr rfl rfl)
  | putOff _ _ inductionHypothesis =>
      exact inductionHypothesis (failures.congr (fun _ => .rfl) rfl rfl)
        (custody.congr rfl rfl)

/-- A handle that was opened for a missing key is as it was
produced when it is kept. -/
theorem keep
    (failures : Failures originals pool)
    (custody : Custody NoneLoose pool)
    (sameLength : originals.length = pool.handles.length)
    (holdsSome : pool.config.maxSize ≠ 0)
    {key : String}
    (missing : pool.live? now key = none)
    {handle : η}
    (fresh : IsFresh handle) :
    Failures (originals ++ [handle])
      (((pool.count .opened).enroll handle).2.insert now key
        pool.handles.length) := by
  have counted : Custody NoneLoose (pool.count .opened) := custody.congr rfl rfl
  have enrolled := counted.enroll fresh
  have enrolledFailures :
      Failures originals ((pool.count .opened).enroll handle).2 := by
    refine ⟨fun number held => ?_, failures.closeFailures_eq⟩
    obtain ⟨entry, present, rfl⟩ := held
    rw [← failures.asProduced entry.handle ⟨entry, present, rfl⟩]
    exact List.getElem?_append_left (custody.opened entry present)
  obtain ⟨cleared, evolves, left, inserted⟩ :=
    insert_eq enrolled.keysDiffer holdsSome missing pool.handles.length
  have clearedCustody := enrolled.evolves evolves
  obtain ⟨asProduced, closeFailures_eq⟩ :=
    enrolledFailures.evolves enrolled evolves
  have earlier : ∀ number, cleared.Holds number →
      number < originals.length := by
    intro number held
    obtain ⟨entry, present, rfl⟩ := evolves.holds held
    exact sameLength ▸ custody.opened entry present
  have newest : cleared.handles[pool.handles.length]? = some handle := by
    have grown : cleared.handles.length = pool.handles.length + 1 := by
      rw [evolves.length_handles_eq]
      exact List.length_append
    have found :=
      List.getElem?_eq_getElem
        (Nat.lt_of_lt_of_eq (Nat.lt_succ_self _) grown.symm)
    have isFresh := clearedCustody.isFresh _ _ found (.inr (.inr rfl))
    have unchanged := evolves.handle?_of_isOpen found isFresh.1
    obtain ⟨-, different⟩ | ⟨-, same⟩ := handle?_enroll unchanged
    · exact absurd rfl different
    · rw [found, same]
  have holds : ∀ number, Pool.Holds { cleared with
      entries := cleared.entries ++ [⟨key, pool.handles.length, now⟩] } number ↔
      cleared.Holds number ∨ number = originals.length := by
    intro number
    simp only [Holds, List.mem_append, List.mem_singleton,
      or_and_right, exists_or, exists_eq_left, eq_comm, sameLength]
  rw [inserted]
  constructor
  · intro number held
    obtain before | rfl := (holds number).mp held
    · rw [List.getElem?_append_left (earlier number before)]
      exact asProduced number before
    · rw [List.getElem?_concat_length, sameLength]
      exact newest
  · have same : failed (originals ++ [handle]) { cleared with
        entries := cleared.entries ++ [⟨key, pool.handles.length, now⟩] } =
        failed originals cleared := by
      ext number
      simp only [failed, holds, Set.mem_ofPred_eq, not_or]
      constructor
      · rintro ⟨other, produced, fails, notHeld, different⟩
        have bounded := (List.getElem?_eq_some_iff.mp produced).1
        rw [List.length_append, List.length_singleton] at bounded
        rw [List.getElem?_append_left (by omega)] at produced
        exact ⟨other, produced, fails, notHeld⟩
      · rintro ⟨other, produced, fails, notHeld⟩
        have bounded := (List.getElem?_eq_some_iff.mp produced).1
        exact ⟨other, by rwa [List.getElem?_append_left bounded],
          fails, notHeld, Nat.ne_of_lt bounded⟩
    rw [same]
    exact closeFailures_eq

theorem adopt
    {time : CallTime}
    (failures : Failures originals pool)
    (custody : Custody NoneLoose pool)
    (sameLength : originals.length = pool.handles.length)
    (holdsSome : pool.config.maxSize ≠ 0)
    {key : String}
    (missing : pool.live? time.starts key = none)
    {handle : η}
    (fresh : IsFresh handle) :
    Failures (originals ++ [handle]) (pool.adopt time key handle) := by
  have kept := custody.keep holdsSome missing fresh
  have stillMissing :=
    custody.keysDiffer.live?_eq_none_of_le time.starts_le_inserts missing
  exact (failures.keep custody sameLength holdsSome stillMissing fresh).evolves
    kept (evolves_settle time.settles kept.keysDiffer)

end Failures

/-! ## Requests -/

/-- Every request is a hit or a miss, and every miss opens a
handle or fails to. -/
structure Tallied (requests : Nat) (counters : Counters) : Prop where
  requests_eq : counters.hits + counters.misses = requests
  misses_eq : counters.misses = counters.opens + counters.openFailures

theorem Tallied.agree
    {requests : Nat}
    {left right : Counters}
    (tallied : Tallied requests left)
    (agree : AgreeOnCalls left right) :
    Tallied requests right where
  requests_eq := by rw [agree.hits_eq, agree.misses_eq, tallied.requests_eq]
  misses_eq := by
    rw [agree.misses_eq, agree.opens_eq, agree.openFailures_eq,
      tallied.misses_eq]

/-- An answer is one more request. -/
theorem Tallied.answer
    {requests : Nat}
    {counters : Counters}
    (tallied : Tallied requests counters)
    (answer : Answer) :
    Tallied (requests + 1) ((PoolReply.answer answer).counted.foldl
      (fun counters event => counters.record event) counters) := by
  obtain ⟨requests_eq, misses_eq⟩ := tallied
  obtain ⟨_ | _, _ | _⟩ := answer <;>
    constructor <;>
    simp only [PoolReply.counted, List.foldl_cons, List.foldl_nil,
      Counters.record] <;>
    omega

/-! ## Sweeping -/

/-- A pool that was just put in order holds what it finds. -/
theorem KeysDiffer.contains_settle_iff
    {pool : Pool η}
    (differ : pool.KeysDiffer)
    (now : Instant)
    (key : String) :
    (pool.settle now).contains now key = true ↔
      key ∈ (pool.settle now).entries.map Entry.key := by
  have settledDiffer := (evolves_settle now differ).keysDiffer differ
  rw [contains, Option.isSome_iff_exists, List.mem_map]
  constructor
  · rintro ⟨entry, found⟩
    obtain ⟨present, keyed, -⟩ := settledDiffer.live?_eq_some_iff.mp found
    exact ⟨entry, present, keyed⟩
  · rintro ⟨entry, present, keyed⟩
    have live : entry ∈ pool.liveEntries now := by
      rw [entries_settle differ] at present
      exact List.mem_of_mem_drop present
    refine ⟨entry, settledDiffer.live?_eq_some_iff.mpr ⟨present, keyed, ?_⟩⟩
    rw [isExpired, config_settle]
    exact (mem_liveEntries.mp live).2

theorem KeysDiffer.ncard_contains_settle
    {pool : Pool η}
    (differ : pool.KeysDiffer)
    (now : Instant) :
    {key | (pool.settle now).contains now key = true}.ncard =
      (pool.settle now).length := by
  have keys : {key | (pool.settle now).contains now key = true} =
      (((pool.settle now).entries.map Entry.key).toFinset : Set String) := by
    ext key
    simp only [Set.mem_ofPred_eq, differ.contains_settle_iff, List.coe_toFinset]
  have settledDiffer := (evolves_settle now differ).keysDiffer differ
  rw [keys, Set.ncard_coe_finset, List.toFinset_card_of_nodup settledDiffer,
    List.length_map]
  rfl

end Pool

/-! ## Sessions -/

/-- The call asks for a handle. -/
def PoolCall.isRequest {η : Type} : PoolCall η → Bool
  | .request .. => true
  | _ => false

namespace Session

open Pool

variable {η : Type} [TrackedHandle η]

/-- How often the session asked for a handle. -/
def requests (session : Session η) : Nat :=
  session.history.countP fun made => made.1.isRequest

/-- What an opener produced for a call. -/
def original : PoolCall η × PoolReply → Option η
  | (.request _ (.ok handle), .answer answer) =>
      if answer.ran then some handle else none
  | _ => none

/-- The handles that openers produced, as they produced them, in order. -/
def originals (session : Session η) : List η :=
  session.history.filterMap original

omit [TrackedHandle η] in
theorem isSome_original
    (made : PoolCall η × PoolReply) :
    (original made).isSome = (production made).isSome := by
  obtain ⟨call, reply⟩ := made
  cases call with
  | request key opened =>
      cases opened with
      | error error => rfl
      | ok handle =>
          cases reply with
          | answer answer =>
              simp only [original, production]
              split <;> rfl
          | _ => rfl
  | _ => rfl

omit [TrackedHandle η] in
theorem length_originals
    (session : Session η) :
    session.originals.length = session.produced.length := by
  simp only [originals, produced, List.length_filterMap_eq_countP,
    isSome_original]

/-- All that is counted in a session adds up. -/
structure Balanced (config : PoolConfig) (session : Session η) : Prop where
  ledger : Ledger config 0 session.pool
  failures : Failures session.originals session.pool
  tallied : Tallied session.requests session.pool.counters

theorem requests_take
    (session : Session η)
    (turn : Turn η) :
    (session.take turn).requests =
      session.requests + if turn.call.isRequest then 1 else 0 := by
  simp only [requests, take, List.countP_append, List.countP_singleton]

/-- Other calls than requests count neither hits nor misses,
and requests count one. -/
theorem tallied_take
    {session : Session η}
    (tallied : Tallied session.requests session.pool.counters)
    (turn : Turn η)
    {removals : List Removal}
    (course : Course session.pool (session.timeOf turn) turn.call
      (session.pool.perform (session.timeOf turn) turn.call).1 removals
      (session.take turn).pool) :
    Tallied (session.take turn).requests (session.take turn).pool.counters := by
  have agree := course.agreeOnCalls
  rw [requests_take]
  cases called : turn.call with
  | request key opened =>
      rw [called] at agree
      exact (tallied.answer _).agree agree
  | _ =>
      rw [called] at agree
      exact tallied.agree agree

/-- Every call keeps the counters in order. -/
theorem balanced_take
    {config : PoolConfig}
    (holdsSome : config.maxSize ≠ 0)
    {session : Session η}
    (numbered : session.originals.length = session.pool.handles.length)
    (balanced : Balanced config session)
    {turn : Turn η}
    (opensFresh : turn.call.OpensFresh) :
    Balanced config (session.take turn) := by
  obtain ⟨ledger, failures, tallied⟩ := balanced
  have custody := ledger.sound.custody
  have differ := custody.keysDiffer
  have kept : Ledger config 0 (session.take turn).pool :=
    ledger.perform holdsSome (session.timeOf turn) opensFresh
  rw [← ledger.sound.config_eq] at holdsSome
  obtain ⟨removals, course⟩ :=
    course_perform differ ledger.sound.inBounds holdsSome
      (session.timeOf turn) turn.call
  refine ⟨kept, ?_, tallied_take tallied turn course⟩
  have performed := performed_perform differ (session.timeOf turn) turn.call
  have originals_eq : (session.take turn).originals = session.originals ++
      (original (turn.call,
        (session.pool.perform (session.timeOf turn) turn.call).1)).toList := by
    simp only [take, originals, List.filterMap_append, List.filterMap_cons,
      List.filterMap_nil]
    cases original _ <;> rfl
  rw [originals_eq]
  change Failures _ (session.pool.perform _ turn.call).2
  generalize session.pool.perform (session.timeOf turn) turn.call =
    gave at performed ⊢
  obtain ⟨reply, final⟩ := gave
  generalize turn.call = call at performed opensFresh ⊢
  cases performed with
  | evolved produces evolves =>
      have none := isSome_original (call, reply)
      rw [produces, Option.isSome_none, Option.isSome_eq_false_iff,
        Option.isNone_iff_eq_none] at none
      rw [none, Option.toList_none, List.append_nil]
      exact failures.evolves custody evolves
  | @opened sought final key handle missing evolves adopted =>
      rw [adopted]
      have soughtMissing := evolves.live?_eq_none differ missing
      rw [← evolves.length_handles_eq] at numbered
      rw [← evolves.config_eq] at holdsSome
      exact (failures.evolves custody evolves).adopt
        (custody.evolves evolves) numbered holdsSome soughtMissing opensFresh

theorem balanced_run
    (name : String)
    {config : PoolConfig}
    (holdsSome : config.maxSize ≠ 0)
    {turns : List (Turn η)}
    (newHandles : ∀ turn ∈ turns, turn.call.OpensFresh) :
    Balanced config (run name config turns) := by
  induction turns using List.reverseRecOn with
  | nil =>
      refine ⟨ledger_create config name, ⟨nofun, ?_⟩, rfl, rfl⟩
      have none : failed (run name config ([] : List (Turn η))).originals
          (run name config []).pool = ∅ := by
        ext number
        simp [failed, originals, start]
      rw [none, Set.ncard_empty]
      rfl
  | append_singleton turns turn inductionHypothesis =>
      rw [run_append_singleton]
      have earlierFresh : ∀ other ∈ turns, other.call.OpensFresh :=
        fun other present => newHandles other (List.mem_append_left _ present)
      have numbered := (length_originals _).trans
        (agrees_run name holdsSome earlierFresh).length_produced
      exact balanced_take holdsSome numbered (inductionHypothesis earlierFresh)
        (newHandles turn (by simp))

namespace Balanced

variable {config : PoolConfig} {session : Session η}

/-- The sums that the counters make. -/
theorem sums
    (balanced : Balanced config session) :
    let counters := session.pool.counters
    counters.opens = session.pool.entries.length + counters.invalidated +
        counters.sizeEvicted + counters.expired + counters.replaced ∧
      counters.closes = counters.invalidated + counters.sizeEvicted +
        counters.expired ∧
      counters.closeFailures ≤ counters.closes ∧
      counters.closes ≤ counters.opens := by
  obtain ⟨⟨-, balance, accounts, -⟩, -, -⟩ := balanced
  have opens_eq := accounts.opens_eq_add balance
  obtain ⟨-, closes_eq, closeFailures_le, noneReplaced⟩ := accounts
  unfold Counters.removals at opens_eq closes_eq
  refine ⟨?_, ?_, closeFailures_le, ?_⟩
  · rw [opens_eq]
    ac_rfl
  · rw [closes_eq, noneReplaced, Nat.add_zero]
  · rw [closes_eq, opens_eq]
    exact Nat.le_add_left _ _

/-- No counter shows more than the requests that were made. -/
theorem le_requests
    (balanced : Balanced config session) :
    ∀ value ∈ session.pool.counters.toList, value ≤ session.requests := by
  obtain ⟨opens_eq, closes_eq, closeFailures_le, closes_le⟩ := balanced.sums
  obtain ⟨requests_eq, misses_eq⟩ := balanced.tallied
  simp only [Tally.toList, List.forall_mem_cons, List.not_mem_nil,
    false_implies, implies_true, and_true]
  omega

theorem removals_le_requests
    (balanced : Balanced config session) :
    session.pool.counters.removals ≤ session.requests := by
  rw [← balanced.ledger.accounts.closes_eq]
  exact balanced.le_requests _ (by simp [Tally.toList])

end Balanced

/-- In every session with a pool that may hold something, requests are hits and
misses, misses are openings and failed openings, what was opened is held or was
removed for one of its causes, every removal is a closing, and a failure to
close is counted for every handle that was let go and failed to.  Other calls
than requests count neither hits nor misses.  Up to 2^64 requests a snapshot
shows just that.  Right after the pool was put in order its length is the number
of keys that it contains, and of openings less removals. -/
theorem counters_conserved
    (name : String)
    (config : PoolConfig)
    (holdsSome : config.maxSize ≠ 0)
    (turns : List (Turn η))
    (newHandles : ∀ turn ∈ turns, turn.call.OpensFresh) :
    let session := run name config turns
    let counters := session.pool.counters
    (counters.hits + counters.misses = session.requests ∧
      counters.misses = counters.opens + counters.openFailures ∧
      counters.closeFailures = {number | ∃ handle,
        session.originals[number]? = some handle ∧
          Handle.failsToClose handle = true ∧
          ¬session.pool.Holds number}.ncard ∧
      counters.opens = session.pool.entries.length + counters.invalidated +
        counters.sizeEvicted + counters.expired + counters.replaced ∧
      counters.closes = counters.invalidated + counters.sizeEvicted +
        counters.expired ∧
      counters.closeFailures ≤ counters.closes ∧
      counters.closes ≤ counters.opens) ∧
    (session.requests < UInt64.size →
      counters.snapshot.map UInt64.toNat = counters ∧
        ∃ removals, counters.snapshot.removals = .ok removals ∧
          removals.toNat = counters.removals) ∧
    (∀ turn : Turn η, turn.call.isRequest = false →
      (session.take turn).pool.counters.hits = counters.hits ∧
        (session.take turn).pool.counters.misses = counters.misses) ∧
    ∀ pause opening settling,
      let turn : Turn η := ⟨pause, .settle, opening, settling⟩
      let settled := (session.take turn).pool
      settled.length =
          {key | settled.contains (session.timeOf turn).starts key =
            true}.ncard ∧
        settled.length + settled.counters.removals =
          settled.counters.opens := by
  intro session counters
  have balanced : Balanced config session :=
    balanced_run name holdsSome newHandles
  refine ⟨⟨balanced.tallied.requests_eq, balanced.tallied.misses_eq,
    balanced.failures.closeFailures_eq, balanced.sums⟩, fun few =>
      ⟨?_, ?_⟩, ?_, ?_⟩
  · exact Counters.map_toNat_snapshot fun value listed =>
      Nat.lt_of_le_of_lt (balanced.le_requests value listed) few
  · exact Counters.removals_snapshot
      (Nat.lt_of_le_of_lt balanced.removals_le_requests few)
  · intro turn other
    obtain ⟨removals, course⟩ :=
      course_run name holdsSome newHandles (session.timeOf turn) turn.call
    have agree := course.agreeOnCalls
    cases called : turn.call with
    | request key opened =>
        rw [called] at other
        cases other
    | _ =>
        simp only [take, called] at agree ⊢
        exact ⟨agree.hits_eq, agree.misses_eq⟩
  · intro pause opening settling turn settled
    have differ := balanced.ledger.sound.custody.keysDiffer
    have kept :=
      balanced.ledger.evolves
        (evolves_settle (session.timeOf turn).starts differ)
    exact ⟨(differ.ncard_contains_settle _).symm,
      (kept.accounts.opens_eq_add kept.balance).symm⟩

/-- One key is opened twice, for its handle was let go, and
another one not at all. -/
def mixedTurns : List (Turn TrialHandle) :=
  [ ⟨0, .request "a" (.ok { tag := 1, failsToClose := true }), 0, 1⟩,
    ⟨1, .request "a" (.ok { tag := 2 }), 0, 1⟩,
    ⟨1, .invalidate "a", 0, 0⟩,
    ⟨1, .request "b" (.error .closedHandle), 0, 1⟩,
    ⟨1, .request "a" (.ok { tag := 3 }), 0, 1⟩,
    ⟨1, .lookup "a", 0, 0⟩ ]

theorem counters_conserved_of_mixed :
    let session := run "mixed" ⟨2, .ofSeconds 60, .close⟩ mixedTurns
    let counters := session.pool.counters
    session.requests = 4 ∧ counters = ⟨1, 3, 2, 1, 1, 1, 1, 0, 0, 0⟩ ∧
      counters.hits + counters.misses = session.requests ∧
      counters.closeFailures = {number | ∃ handle,
        session.originals[number]? = some handle ∧
          Handle.failsToClose handle = true ∧
          ¬session.pool.Holds number}.ncard ∧
      counters.snapshot.map UInt64.toNat = counters := by
  have newHandles : ∀ turn ∈ mixedTurns, turn.call.OpensFresh := by
    simp [mixedTurns, PoolCall.OpensFresh, TrackedHandle.IsFresh, Handle.isOpen,
      TrackedHandle.closeCalls]
  have holds :=
    counters_conserved "mixed" ⟨2, .ofSeconds 60, .close⟩ (by decide) mixedTurns
    newHandles
  exact ⟨by decide, by decide, holds.1.1, holds.1.2.2.1,
    (holds.2.1 (by decide)).1⟩

end Session
end HandlePool
