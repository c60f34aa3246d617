import HandlePool.Proofs.Pool.Reaping

/-!
# Emptying a pool

A pool is emptied by taking out the keys of its live entries one after another,
and then putting it in order.  In which order the keys are taken does not
matter, nor whether expired entries go on the way because putting the pool in
order is due, or only in the end: every handle that was held is closed once, and
is counted by whether its entry had expired.  `Pool.swept` gives the outcome in
one step.  Invalidating every key that is held, in any order, comes to the same,
and an empty pool is not changed by either.
-/

namespace HandlePool
namespace Pool

variable {η : Type}

/-- The pools differ at most in what they noted and in what they put off. -/
def SameState (left right : Pool η) : Prop :=
  ∃ upkeep journal, right = { left with upkeep := upkeep, journal := journal }

theorem sameState_of_eq
    {left right : Pool η}
    (name_eq : right.name = left.name)
    (config_eq : right.config = left.config)
    (entries_eq : right.entries = left.entries)
    (handles_eq : right.handles = left.handles)
    (counters_eq : right.counters = left.counters) :
    SameState left right := by
  obtain ⟨name, config, entries, handles, counters, upkeep, journal⟩ := right
  subst name_eq config_eq entries_eq handles_eq counters_eq
  exact ⟨upkeep, journal, rfl⟩

theorem SameState.entries_eq
    {left right : Pool η}
    (same : SameState left right) :
    right.entries = left.entries := by
  obtain ⟨upkeep, journal, rfl⟩ := same
  rfl

variable [Handle η]

/-! ## Emptied pools -/

/-- The pool without its entries: their handles are closed, and counted as
invalidated while their entries are live, and as expired otherwise. -/
def swept (pool : Pool η) (now : Instant) : Pool η :=
  { pool with
    entries := []
    handles := pool.handles.mapIdx fun number handle =>
      if number ∈ pool.entries.map Entry.handle
        then (Handle.close handle).2 else handle
    counters := pool.counters.sweep (pool.liveEntries now).length
      (pool.expiredEntries now).length (pool.entries.countP pool.failsToClose) }

/-- Remove the entries of some keys as they come, then what has expired. -/
def invalidateAllAlong (pool : Pool η) (now : Instant)
    (keys : List String) : Pool η :=
  ((pool.dropKeys now keys).settle now).note (.invalidatedAll keys.length)

/-- Invalidate some keys, one after another. -/
def invalidateEach (pool : Pool η) (now : Instant)
    (keys : List String) : Pool η :=
  keys.foldl (fun pool key => pool.invalidate now key) pool

/-- Invalidating everything takes the live keys in the order
of their last use. -/
theorem invalidateAll_eq_along
    (pool : Pool η)
    (now : Instant) :
    pool.invalidateAll now = pool.invalidateAllAlong now (pool.liveKeys now) :=
  rfl

theorem name_remove
    (pool : Pool η)
    (entry : Entry)
    (cause : RemovalCause) :
    (pool.remove entry cause).name = pool.name := by
  unfold remove dismiss
  split <;> rfl

theorem Evolves.name_eq
    {now : Instant}
    {pool final : Pool η}
    (evolves : Evolves now pool final) :
    final.name = pool.name := by
  induction evolves with
  | done pool => rfl
  | remove entry cause _ _ _ inductionHypothesis =>
      exact inductionHypothesis.trans (name_remove _ entry cause)
  | touch _ _ _ _ inductionHypothesis => exact inductionHypothesis
  | count _ _ _ inductionHypothesis => exact inductionHypothesis
  | note _ _ inductionHypothesis => exact inductionHypothesis
  | putOff _ _ inductionHypothesis => exact inductionHypothesis

/-- A pool that has lost every entry is swept. -/
theorem Swept.sameState
    {now : Instant}
    {pool final : Pool η}
    {gone : List Entry}
    (swept : Swept now pool gone final)
    (differ : pool.KeysDiffer)
    (empty : final.entries = []) :
    SameState (pool.swept now) final := by
  have allGone : gone.Perm pool.entries := by
    refine (List.perm_ext_iff_of_nodup swept.nodup (.of_map _ differ)).mpr
      fun entry => ?_
    refine ⟨swept.present entry, fun present => ?_⟩
    have left := swept.entries_eq
    rw [empty, eq_comm, List.filter_eq_nil_iff] at left
    simpa using left entry present
  refine sameState_of_eq swept.evolves.name_eq
    swept.evolves.config_eq empty ?_ ?_
  · refine List.ext_getElem? fun number => ?_
    rw [swept.handle?_eq, Pool.swept, List.getElem?_mapIdx]
    simp only [(allGone.map Entry.handle).mem_iff]
  · rw [swept.counters_eq, Pool.swept, allGone.countP_eq, allGone.countP_eq,
      allGone.countP_eq,
      liveEntries, Entry.live, expiredEntries, ← List.countP_eq_length_filter,
      ← List.countP_eq_length_filter]
    rfl

/-! ## Ways to empty a pool -/

section Ways

variable {pool : Pool η} {now : Instant} {keys : List String}

/-- Once all live keys were taken, putting the pool in order leaves nothing. -/
theorem entries_invalidateAllAlong
    (differ : pool.KeysDiffer)
    (inBounds : pool.InBounds)
    (allLive : ∀ key ∈ pool.liveKeys now, key ∈ keys) :
    (pool.invalidateAllAlong now keys).entries = [] := by
  have droppedDiffer := (evolves_dropKeys now differ keys).keysDiffer differ
  have noneLeft : (pool.dropKeys now keys).liveEntries now = [] := by
    rw [liveEntries_dropKeys differ inBounds, List.filter_eq_nil_iff]
    intro entry live
    simp [allLive entry.key (List.mem_map_of_mem live)]
  change ((pool.dropKeys now keys).settle now).entries = []
  rw [entries_settle droppedDiffer, noneLeft, List.drop_nil]

theorem sheds_invalidateAllAlong
    (differ : pool.KeysDiffer)
    (inBounds : pool.InBounds)
    (now : Instant)
    (keys : List String) :
    ∃ removals, Sheds (fun _ => True) now pool removals
      (pool.invalidateAllAlong now keys) := by
  obtain ⟨dropped, drops⟩ := sheds_dropKeys (fun _ => True) now differ inBounds
    fun (key : String) (_ : key ∈ keys) => trivial
  obtain ⟨settled, settles⟩ :=
    sheds_settle (fun _ => True) now (drops.evolves.keysDiffer differ)
  exact ⟨_, (drops.trans settles).trans (.note _ rfl id (.done _))⟩

theorem sheds_invalidateEach
    (differ : pool.KeysDiffer)
    (inBounds : pool.InBounds)
    (now : Instant)
    (keys : List String) :
    ∃ removals, Sheds (fun _ => True) now pool removals
      (pool.invalidateEach now keys) := by
  induction keys generalizing pool with
  | nil => exact ⟨[], .done pool⟩
  | cons key keys inductionHypothesis =>
      obtain ⟨first, drops⟩ :
          ∃ removals, Sheds (fun _ => True) now pool removals
          (pool.drop now key) := sheds_drop _ now differ inBounds trivial
      have invalidates :=
        drops.trans (.note (.invalidated key) rfl id (.done _))
      obtain ⟨rest, invalidatesMore⟩ := inductionHypothesis
        (invalidates.evolves.keysDiffer differ) (inBounds.drop differ now key)
      exact ⟨_, invalidates.trans invalidatesMore⟩

/-- A key that was invalidated is not kept, whatever else is invalidated. -/
theorem not_keeps_invalidateEach
    (differ : pool.KeysDiffer)
    (inBounds : pool.InBounds)
    {key : String}
    (listed : key ∈ keys)
    (number : Nat) :
    ¬(pool.invalidateEach now keys).Keeps key number := by
  induction keys generalizing pool with
  | nil => cases listed
  | cons first rest inductionHypothesis =>
      have evolves := evolves_invalidate now differ first
      have droppedDiffer := evolves.keysDiffer differ
      have droppedInBounds : (pool.invalidate now first).InBounds :=
        inBounds.drop differ now first
      obtain rfl | later := List.mem_cons.mp listed
      · intro keeps
        obtain ⟨removals, sheds⟩ :=
          sheds_invalidateEach droppedDiffer droppedInBounds now rest
        exact not_keeps_drop now differ key number (sheds.evolves.keeps keeps)
      · exact inductionHypothesis droppedDiffer droppedInBounds later

/-- Once every key that is held was invalidated, nothing is left. -/
theorem entries_invalidateEach
    (differ : pool.KeysDiffer)
    (inBounds : pool.InBounds)
    (allHeld : ∀ entry ∈ pool.entries, entry.key ∈ keys) :
    (pool.invalidateEach now keys).entries = [] := by
  obtain ⟨removals, sheds⟩ := sheds_invalidateEach differ inBounds now keys
  refine List.eq_nil_iff_forall_not_mem.mpr fun entry present => ?_
  obtain ⟨earlier, before, sameKey, -⟩ := sheds.evolves.origin present
  refine not_keeps_invalidateEach differ inBounds
    (allHeld earlier before) entry.handle ⟨entry, present, sameKey.symm, rfl⟩

end Ways

/-! ## Empty pools -/

section Empty

variable {pool : Pool η}

/-- An empty pool has nothing to lose. -/
theorem sameState_invalidateAll_of_empty
    (empty : pool.entries = [])
    (now : Instant) :
    SameState pool (pool.invalidateAll now) := by
  refine ⟨.startingAt now, pool.journal ++ [.invalidatedAll 0], ?_⟩
  simp [invalidateAll, liveKeys, dropKeys, settle, settleWithin, expire, evict,
    expiredEntries, removeAll, empty, note]

theorem same_invalidate_of_empty
    (empty : pool.entries = [])
    (now : Instant)
    (key : String) :
    Same pool (pool.invalidate now key) := by
  refine ⟨pool.journal ++ [.invalidated key], ?_⟩
  simp [invalidate, drop, entryOf?, empty, note]

end Empty

/-! ## The outcome -/

omit [Handle η] in
/-- Distinct entries hold distinct handles. -/
theorem Coherent.nodup_handles
    {pool : Pool η}
    (coherent : pool.Coherent) :
    (pool.entries.map Entry.handle).Nodup :=
  List.Nodup.map_on
    (fun _ leftPresent _ rightPresent same =>
      coherent.toKeyed.eq_of_handle_eq leftPresent rightPresent same)
    (.of_map _ coherent.keysDiffer)

/-- Whatever became of a pool, invalidating everything sweeps it, and in
whatever order its live keys are come upon, the same is left.  Distinct entries
hold distinct handles, so each handle that was held is closed once.
Invalidating all keys that are held, in any order, comes to the same, and
nothing changes when a pool that was emptied is emptied again, or when a key is
invalidated in it. -/
theorem sameState_invalidateAll
    {pool : Pool η}
    {moment : Instant}
    (reachable : pool.Reachable moment)
    (now : Instant) :
    SameState (pool.swept now) (pool.invalidateAll now) ∧
      (pool.entries.map Entry.handle).Nodup ∧
      (∀ keys, pool.liveKeys now ⊆ keys →
        Same (pool.invalidateAll now) (pool.invalidateAllAlong now keys)) ∧
      (∀ keys, pool.entries.map Entry.key ⊆ keys →
        SameState (pool.swept now) (pool.invalidateEach now keys)) ∧
      ∀ emptied, SameState (pool.swept now) emptied → ∀ later key,
        SameState emptied (emptied.invalidateAll later) ∧
          Same emptied (emptied.invalidate later key) := by
  have coherent := reachable.coherent
  have differ := coherent.keysDiffer
  have along : ∀ keys, pool.liveKeys now ⊆ keys →
      SameState (pool.swept now) (pool.invalidateAllAlong now keys) := by
    intro keys allLive
    obtain ⟨removals, sheds⟩ :=
      sheds_invalidateAllAlong differ coherent.inBounds now keys
    exact (sheds.swept coherent).sameState differ
      (entries_invalidateAllAlong differ coherent.inBounds fun key listed =>
        allLive listed)
  refine ⟨along _ (List.Subset.refl _), coherent.nodup_handles,
    fun keys allLive => ?_,
    fun keys allHeld => ?_, fun emptied same later key => ?_⟩
  · -- Both were put in order in the end, at the same moment.
    obtain ⟨upkeep, journal, all⟩ := along _ (List.Subset.refl _)
    obtain ⟨otherUpkeep, otherJournal, others⟩ := along keys allLive
    have inOrder : upkeep = .startingAt now := (congrArg Pool.upkeep all).symm
    have othersInOrder : otherUpkeep = .startingAt now :=
      (congrArg Pool.upkeep others).symm
    rw [invalidateAll_eq_along, all, others, inOrder, othersInOrder]
    exact ⟨otherJournal, rfl⟩
  · obtain ⟨removals, sheds⟩ :=
      sheds_invalidateEach differ coherent.inBounds now keys
    refine (sheds.swept coherent).sameState differ
      (entries_invalidateEach differ coherent.inBounds fun entry present => ?_)
    exact allHeld (List.mem_map_of_mem present)
  · have empty : emptied.entries = [] := same.entries_eq
    exact ⟨sameState_invalidateAll_of_empty empty later,
      same_invalidate_of_empty empty later key⟩

/-- The first entry has expired when the others are used, and two of the
handles fail to close. -/
def unevenTurns : List (Turn TrialHandle) :=
  [ ⟨0, .request "a" (.ok { tag := 1, failsToClose := true }), 0, 0⟩,
    ⟨900000000, .request "b" (.ok { tag := 2 }), 0, 0⟩,
    ⟨0, .request "c" (.ok { tag := 3, failsToClose := true }), 0, 0⟩ ]

theorem sameState_invalidateAll_of_uneven :
    let pool :=
      (Session.run "uneven" ⟨3, .ofSeconds 1, .close⟩ unevenTurns).pool
    let now : Instant := 1200000000
    pool.liveKeys now = ["b", "c"] ∧ pool.expiredEntries now = [⟨"a", 0, 0⟩] ∧
      Same (pool.invalidateAll now) (pool.invalidateAllAlong now ["c", "b"]) ∧
      SameState (pool.swept now) (pool.invalidateEach now ["c", "a", "b"]) ∧
      (pool.swept now).counters = ⟨0, 3, 3, 0, 3, 2, 2, 0, 1, 0⟩ ∧
      (pool.swept now).handles.map TrialHandle.closeCalls = [1, 1, 1] := by
  intro pool now
  have live : pool.liveKeys now = ["b", "c"] := by decide
  have allLive : pool.liveKeys now ⊆ ["c", "b"] := by simp [live]
  have allHeld : pool.entries.map Entry.key ⊆ ["c", "a", "b"] := by
    simp [show pool.entries.map Entry.key = ["a", "b", "c"] by decide]
  obtain ⟨-, -, along, each, -⟩ :=
    sameState_invalidateAll
      (reachable_run "uneven" ⟨3, .ofSeconds 1, .close⟩ unevenTurns) now
  exact ⟨live, by decide, along _ allLive, each _ allHeld, by decide +kernel,
    by decide +kernel⟩

end Pool
end HandlePool
