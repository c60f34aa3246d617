import HandlePool.Proofs.Pool.Reaping

/-!
# Taking a key out of a pool

A key that is taken out of a pool takes its entry along, expired or not, and the
handle of that entry is closed.  As putting the pool in order may be due,
expired entries of other keys may go too.  `Pool.Clears` says that nothing else
happens to the entries and the handles.
-/

namespace HandlePool
namespace Pool

variable {η : Type} [Handle η]

/-- Every entry of the key has gone from the first pool, and besides only
entries that had expired; the second pool is left. -/
structure Clears (now : Instant) (key : String) (pool : Pool η)
    (gone : List Entry) (final : Pool η) : Prop where
  config_eq : final.config = pool.config
  nodup : gone.Nodup
  mem_of_key : ∀ entry ∈ pool.entries, entry.key = key → entry ∈ gone
  justified : ∀ entry ∈ gone, entry ∈ pool.entries ∧
    (entry.key = key ∨ pool.isExpired now entry = true)
  entries_eq : final.entries = pool.entries.filter fun entry => entry ∉ gone
  closed : ∀ entry ∈ gone, ∃ handle, pool.handles[entry.handle]? = some handle ∧
    final.handles[entry.handle]? = some (Handle.close handle).2
  untouched : ∀ number, number ∉ gone.map Entry.handle →
    final.handles[number]? = pool.handles[number]?
  closes_eq : final.counters.closes = pool.counters.closes + gone.length

/-! ## What is taken out -/

section Parted

variable
  {now : Instant}
  {key : String}
  {pool final : Pool η}
  {gone : List Entry}

theorem Parted.clears
    (parted : Parted now pool gone final)
    (coherent : pool.Coherent)
    (goes : ∀ entry ∈ pool.entries, entry.key = key → entry ∈ gone)
    (justified : ∀ entry ∈ gone, entry.key = key ∨
      pool.isExpired now entry = true) :
    Clears now key pool gone final where
  config_eq := parted.evolves.config_eq
  nodup := parted.nodup
  mem_of_key := goes
  justified entry isGone :=
    ⟨parted.present entry isGone, justified entry isGone⟩
  entries_eq := parted.entries_eq
  closed entry isGone := by
    obtain ⟨handle, found⟩ :=
      coherent.toKeyed.exists_handle (parted.present entry isGone)
    exact ⟨handle, found, parted.handle?_eq_of_mem isGone found⟩
  untouched number notGone := by
    rw [parted.handle?_eq]
    simp [notGone]
  closes_eq := parted.closes_eq

/-- Nothing that matters is noted. -/
theorem Clears.same
    {other : Pool η}
    (clears : Clears now key pool gone final)
    (same : Same final other) :
    Clears now key pool gone other := by
  obtain ⟨journal, rfl⟩ := same
  obtain ⟨config_eq, nodup, goes, justified, entries_eq, closed, untouched,
      closes_eq⟩ := clears
  exact ⟨config_eq, nodup, goes, justified, entries_eq, closed,
    untouched, closes_eq⟩

end Parted

/-- Dropping a key closes the handle of its entry, if it has one, and those of
expired entries; the guard is told of each of them and of nothing else. -/
theorem Coherent.clears_drop
    {pool : Pool η}
    (coherent : pool.Coherent)
    (now : Instant)
    (key : String) :
    ∃ gone, Clears now key pool gone (pool.drop now key) ∧
      (pool.drop now key).reports = pool.reports ++
        gone.map fun entry =>
          (entry.key, pool.causeAt now entry .invalidated) := by
  obtain ⟨removals, sheds⟩ :=
    sheds_drop (· = key) now coherent.keysDiffer coherent.inBounds rfl
  have parted := (sheds.swept coherent).toParted
  refine ⟨_, parted.clears coherent ?_ fun entry =>
    sheds.asked_or_isExpired coherent.inBounds,
    ?_⟩
  · intro entry present keyed
    by_contra stays
    refine not_keeps_drop now coherent.keysDiffer key entry.handle
      ⟨entry, ?_, keyed, rfl⟩
    rw [parted.entries_eq, List.mem_filter, decide_eq_true_eq]
    exact ⟨present, stays⟩
  · rw [(sheds.reports_eq coherent.opened).1, List.map_map]
    refine congrArg _ (List.map_congr_left fun removal removed => ?_)
    exact Prod.ext rfl (sheds.cause_eq coherent.inBounds removed)

/-- Invalidating a key closes the handle of its entry, if it has one, and those
of expired entries; the guard is told of each of them and of nothing else. -/
theorem Coherent.clears_invalidate
    {pool : Pool η}
    (coherent : pool.Coherent)
    (now : Instant)
    (key : String) :
    ∃ gone, Clears now key pool gone (pool.invalidate now key) ∧
      (pool.invalidate now key).reports = pool.reports ++
        gone.map fun entry =>
          (entry.key, pool.causeAt now entry .invalidated) := by
  obtain ⟨gone, clears, reports⟩ := coherent.clears_drop now key
  refine ⟨gone, clears.same ⟨_, rfl⟩, ?_⟩
  rw [← reports, Pool.reports, invalidate, note, List.filterMap_append]
  exact List.append_nil _

/-! ## What is left -/

namespace Clears

variable
  {now : Instant}
  {key : String}
  {pool final : Pool η}
  {gone : List Entry}
  {entry : Entry}

/-- The key has no entry any more. -/
theorem entryOf?_eq_none
    (clears : Clears now key pool gone final) :
    final.entryOf? key = none := by
  rw [entryOf?_eq_none_iff]
  intro entry left keyed
  rw [clears.entries_eq, List.mem_filter, decide_eq_true_eq] at left
  exact left.2 (clears.mem_of_key entry left.1 keyed)

/-- What is not expired goes only with its key. -/
theorem key_eq_of_mem
    (clears : Clears now key pool gone final)
    (isGone : entry ∈ gone)
    (live : pool.isExpired now entry = false) :
    entry.key = key := by
  refine (clears.justified entry isGone).2.resolve_right fun expired => ?_
  exact Bool.false_ne_true (live.symm.trans expired)

/-- An entry that is left has the handle that it had. -/
theorem exists_handle
    (clears : Clears now key pool gone final)
    (coherent : pool.Coherent)
    (left : entry ∈ final.entries) :
    ∃ handle, pool.handles[entry.handle]? = some handle ∧
      final.handles[entry.handle]? = some handle := by
  rw [clears.entries_eq, List.mem_filter, decide_eq_true_eq] at left
  obtain ⟨present, stays⟩ := left
  obtain ⟨handle, found⟩ := coherent.toKeyed.exists_handle present
  have notAmong := coherent.toKeyed.handle_notMem_map
    (fun other isGone => (clears.justified other isGone).1) present stays
  exact ⟨handle, found, (clears.untouched _ notAmong).trans found⟩

/-- At any later moment, the live entries are those of the
other keys, in their order. -/
theorem liveEntries_eq
    (clears : Clears now key pool gone final)
    {later : Instant}
    (inOrder : now ≤ later) :
    final.liveEntries later = Entry.without key (pool.liveEntries later) := by
  rw [liveEntries, liveEntries, clears.config_eq, clears.entries_eq,
    Entry.live, Entry.live,
    Entry.without, List.filter_filter, List.filter_filter]
  refine List.filter_congr fun entry present => ?_
  change (!pool.isExpired later entry && _) = (_ && !pool.isExpired later entry)
  by_cases expired : pool.isExpired later entry = true
  · simp [expired]
  · have live : pool.isExpired now entry = false :=
      Bool.eq_false_iff.mpr fun expiredNow =>
        expired (isExpired_mono inOrder expiredNow)
    have goes_iff : entry ∈ gone ↔ entry.key = key :=
      ⟨fun isGone => clears.key_eq_of_mem isGone live,
        clears.mem_of_key entry present⟩
    rw [bne, beq_eq_decide, decide_not, decide_eq_decide.mpr goes_iff,
      Bool.and_comm]

end Clears

end Pool
end HandlePool
