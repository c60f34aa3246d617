import HandlePool.Proofs.Pool.Evolution

/-!
# What each call does to the entries of a pool

Every call that keeps no new handle evolves the pool.  For putting a pool in
order and for removing keys the entries that are left are given as well.
-/

namespace HandlePool
namespace Pool

variable {η : Type}

/-- Removing the entry at the front leaves the rest. -/
theorem KeysDiffer.others_head
    {pool : Pool η}
    (differ : pool.KeysDiffer)
    {entry : Entry}
    {later : List Entry}
    (split : pool.entries = entry :: later) :
    pool.others entry.key = later := by
  rw [KeysDiffer, split, List.map_cons, List.nodup_cons] at differ
  rw [others, split, List.filter_cons_of_neg (by simp), List.filter_eq_self]
  intro other present
  simp only [bne_iff_ne, ne_eq]
  intro same
  exact differ.1 (List.mem_map.mpr ⟨other, present, same⟩)

theorem expiredEntries_subset
    (pool : Pool η)
    (now : Instant)
    {entry : Entry}
    (present : entry ∈ pool.expiredEntries now) :
    entry ∈ pool.entries ∧ pool.isExpired now entry = true :=
  List.mem_filter.mp present

/-- An entry may be removed on request, expired or not. -/
theorem warrants_causeAt
    (pool : Pool η)
    (now : Instant)
    (entry : Entry) :
    pool.Warrants now entry (pool.causeAt now entry .invalidated) := by
  unfold causeAt
  split
  · assumption
  · next live => exact Bool.eq_false_iff.mpr live

variable [Handle η]

/-! ## Removing several entries -/

/-- Removing expired entries one after another evolves a pool. -/
theorem evolves_removeAll_expired
    {now : Instant}
    {pool : Pool η}
    {entries : List Entry}
    (present : ∀ entry ∈ entries, entry ∈ pool.entries)
    (differ : (entries.map Entry.key).Nodup)
    (expired : ∀ entry ∈ entries, pool.isExpired now entry = true) :
    Evolves now pool (pool.removeAll entries .expired) := by
  induction entries generalizing pool with
  | nil => exact .done pool
  | cons entry entries inductionHypothesis =>
      obtain ⟨fresh, laterDiffer⟩ := List.nodup_cons.mp differ
      have stillPresent : ∀ later ∈ entries,
          later ∈ (pool.remove entry .expired).entries := by
        intro later laterPresent
        rw [entries_remove, mem_others]
        refine ⟨present later (List.mem_cons_of_mem _ laterPresent), ?_⟩
        intro same
        exact fresh (List.mem_map.mpr ⟨later, laterPresent, same⟩)
      refine .remove entry .expired (present entry List.mem_cons_self)
        (expired entry List.mem_cons_self) ?_
      refine inductionHypothesis stillPresent laterDiffer ?_
      intro later laterPresent
      rw [isExpired_remove]
      exact expired later (List.mem_cons_of_mem _ laterPresent)

/-- Removing entries from the front evolves a pool as long as
it holds too many. -/
theorem evolves_removeAll_front
    (now : Instant)
    {pool : Pool η}
    (differ : pool.KeysDiffer)
    {surplus : Nat}
    (tooMany : pool.config.maxSize.toNat + surplus ≤ pool.entries.length) :
    Evolves now pool
      (pool.removeAll (pool.entries.take surplus) .sizeEvicted) := by
  induction surplus generalizing pool with
  | zero => exact .done pool
  | succ surplus inductionHypothesis =>
      cases split : pool.entries with
      | nil =>
          rw [split, List.length_nil] at tooMany
          omega
      | cons entry later =>
          have front : (pool.remove entry .sizeEvicted).entries = later := by
            rw [entries_remove, differ.others_head split]
          have stillTooMany :
              (pool.remove entry .sizeEvicted).config.maxSize.toNat + surplus ≤
                (pool.remove entry .sizeEvicted).entries.length := by
            rw [front, config_remove]
            rw [split, List.length_cons] at tooMany
            omega
          have warranted : pool.Warrants now entry .sizeEvicted := by
            refine ⟨by rw [split, List.head?_cons], ?_⟩
            omega
          refine .remove entry .sizeEvicted (by simp [split]) warranted ?_
          have rest := inductionHypothesis (differ.remove entry _) stillTooMany
          rw [front] at rest
          exact rest

/-! ## Putting in order -/

theorem evolves_expire
    (now : Instant)
    {pool : Pool η}
    (differ : pool.KeysDiffer)
    (limit : Nat) :
    Evolves now pool (pool.expire now limit) := by
  have taken : ∀ entry ∈ (pool.expiredEntries now).take limit,
      entry ∈ pool.entries ∧ pool.isExpired now entry = true :=
    fun entry present =>
      expiredEntries_subset pool now (List.mem_of_mem_take present)
  have sublist : ((pool.expiredEntries now).take limit).Sublist pool.entries :=
    (List.take_sublist _ _).trans List.filter_sublist
  exact evolves_removeAll_expired (fun entry present => (taken entry present).1)
    (differ.sublist (sublist.map Entry.key)) fun entry present =>
      (taken entry present).2

theorem evolves_evict
    (now : Instant)
    {pool : Pool η}
    (differ : pool.KeysDiffer) :
    Evolves now pool pool.evict := by
  by_cases tooMany : pool.config.maxSize.toNat ≤ pool.entries.length
  · exact evolves_removeAll_front now differ (by omega)
  · have noSurplus :
        pool.entries.length - pool.config.maxSize.toNat = 0 := by omega
    rw [evict, noSurplus]
    exact .done pool

theorem evolves_settleWithin
    (now : Instant)
    {pool : Pool η}
    (differ : pool.KeysDiffer)
    (limit : Nat) :
    Evolves now pool (pool.settleWithin now limit) := by
  have expires := evolves_expire now differ limit
  have evicts := evolves_evict now (expires.keysDiffer differ)
  exact (expires.trans evicts).trans (.putOff (.startingAt now) (.done _))

theorem evolves_settle
    (now : Instant)
    {pool : Pool η}
    (differ : pool.KeysDiffer) :
    Evolves now pool (pool.settle now) :=
  evolves_settleWithin now differ pool.entries.length

theorem evolves_tend
    (now : Instant)
    {pool : Pool η}
    (differ : pool.KeysDiffer)
    (occasion : Occasion)
    (limit : Nat) :
    Evolves now pool (pool.tend now occasion limit) := by
  unfold tend
  split
  · exact (evolves_settleWithin now differ limit).trans (.putOff _ (.done _))
  · exact .putOff _ (.done _)

/-! ## Looking up and removing -/

/-- A lookup finds the handle of the live entry. -/
@[simp] theorem fst_lookup
    (pool : Pool η)
    (now : Instant)
    (key : String) :
    (pool.lookup now key).1 = (pool.live? now key).map Entry.handle := by
  unfold lookup
  split <;> simp_all

theorem evolves_lookup
    (now : Instant)
    {pool : Pool η}
    (differ : pool.KeysDiffer)
    (key : String) :
    Evolves now pool (pool.lookup now key).2 := by
  unfold lookup
  split
  · exact evolves_tend now differ .lookup _
  · next entry found =>
    obtain ⟨present, -, live⟩ := differ.live?_eq_some_iff.mp found
    exact .touch entry present live
      (evolves_tend now (differ.touch now entry) .lookup _)

/-- A key that is sought and missing has no live entry, before and after. -/
theorem seek_eq_none
    {now : Instant}
    {pool after : Pool η}
    (differ : pool.KeysDiffer)
    {key : String}
    (sought : pool.seek now key = (none, after)) :
    pool.live? now key = none ∧ Evolves now pool after := by
  unfold seek at sought
  split at sought
  · cases sought
  · next looked lookedUp =>
    have missing := congrArg Prod.fst lookedUp
    rw [fst_lookup, Option.map_eq_none_iff] at missing
    have evolves := evolves_lookup now differ key
    rw [lookedUp] at evolves
    have tended := evolves_tend now (evolves.keysDiffer differ) .lookup
      looked.entries.length
    cases sought
    refine ⟨missing, evolves.trans (tended.trans ?_)⟩
    exact .count .miss (.inr (.inl rfl)) (.done _)

/-- A key that is sought and found has a live entry. -/
theorem seek_eq_some
    {now : Instant}
    {pool after : Pool η}
    (differ : pool.KeysDiffer)
    {key : String}
    {number : Nat}
    (sought : pool.seek now key = (some number, after)) :
    (pool.live? now key).map Entry.handle = some number ∧
    Evolves now pool after := by
  unfold seek at sought
  split at sought
  · next looked lookedUp =>
    have found := congrArg Prod.fst lookedUp
    rw [fst_lookup] at found
    have evolves := evolves_lookup now differ key
    rw [lookedUp] at evolves
    cases sought
    exact ⟨found, evolves.trans (.count .hit (.inl rfl) (.done _))⟩
  · cases sought

theorem evolves_drop
    (now : Instant)
    {pool : Pool η}
    (differ : pool.KeysDiffer)
    (key : String) :
    Evolves now pool (pool.drop now key) := by
  unfold drop
  split
  · exact .done pool
  · next entry found =>
    have present := (differ.entryOf?_eq_some_iff.mp found).1
    exact .remove entry _ present (warrants_causeAt pool now entry)
      (evolves_tend now (differ.remove entry _) .removal _)

theorem evolves_invalidate
    (now : Instant)
    {pool : Pool η}
    (differ : pool.KeysDiffer)
    (key : String) :
    Evolves now pool (pool.invalidate now key) :=
  (evolves_drop now differ key).trans (.note (.invalidated key) (.done _))

theorem evolves_dropKeys
    (now : Instant)
    {pool : Pool η}
    (differ : pool.KeysDiffer)
    (keys : List String) :
    Evolves now pool (pool.dropKeys now keys) := by
  induction keys generalizing pool with
  | nil => exact .done pool
  | cons key keys inductionHypothesis =>
      have dropped := evolves_drop now differ key
      exact dropped.trans (inductionHypothesis (dropped.keysDiffer differ))

theorem evolves_invalidateAll
    (now : Instant)
    {pool : Pool η}
    (differ : pool.KeysDiffer) :
    Evolves now pool (pool.invalidateAll now) := by
  have dropped := evolves_dropKeys now differ (pool.liveKeys now)
  have settled := evolves_settle now (dropped.keysDiffer differ)
  exact (dropped.trans settled).trans (.note _ (.done _))

/-- A key that was removed is not kept. -/
theorem not_keeps_drop
    (now : Instant)
    {pool : Pool η}
    (differ : pool.KeysDiffer)
    (key : String)
    (number : Nat) :
    ¬(pool.drop now key).Keeps key number := by
  intro kept
  unfold drop at kept
  split at kept
  · next missing =>
    obtain ⟨entry, present, keyed, -⟩ := kept
    exact entryOf?_eq_none_iff.mp missing entry present keyed
  · next entry found =>
    have keyed := (differ.entryOf?_eq_some_iff.mp found).2
    have tended := evolves_tend now (differ.remove entry
      (pool.causeAt now entry .invalidated)) .removal
        (pool.reachBeside now entry)
    obtain ⟨other, present, otherKeyed, -⟩ := tended.keeps kept
    rw [entries_remove, mem_others, keyed] at present
    exact present.2 otherKeyed

/-! ## Keeping a handle -/

/-- Keeping a handle under a missing key clears the key, and
puts the new entry last. -/
theorem insert_eq
    {now : Instant}
    {pool : Pool η}
    (differ : pool.KeysDiffer)
    (holdsSome : pool.config.maxSize ≠ 0)
    {key : String}
    (missing : pool.live? now key = none)
    (number : Nat) :
    ∃ cleared, Evolves now pool cleared ∧ cleared.entries = pool.others key ∧
      pool.insert now key number =
        { cleared with entries :=
          cleared.entries ++ [⟨key, number, now⟩] } := by
  rw [insert, if_neg holdsSome]
  cases displaced : pool.entryOf? key with
  | none =>
      exact ⟨pool, .done pool,
        (others_eq_self (entryOf?_eq_none_iff.mp displaced)).symm,
        rfl⟩
  | some entry =>
      obtain ⟨present, keyed⟩ := differ.entryOf?_eq_some_iff.mp displaced
      have expired := differ.live?_eq_none_iff.mp missing entry present keyed
      have cause : pool.causeAt now entry .replaced = .expired := by
        rw [causeAt, if_pos expired]
      refine ⟨pool.remove entry .expired, ?_, ?_, ?_⟩
      · exact .remove entry .expired present expired (.done _)
      · rw [entries_remove, keyed]
      · simp only [cause]

@[simp] theorem config_insert
    (pool : Pool η)
    (now : Instant)
    (key : String)
    (number : Nat) :
    (pool.insert now key number).config = pool.config := by
  unfold insert
  split
  · rfl
  · cases pool.entryOf? key
    · rfl
    · exact config_remove ..

@[simp] theorem length_handles_insert
    (pool : Pool η)
    (now : Instant)
    (key : String)
    (number : Nat) :
    (pool.insert now key number).handles.length = pool.handles.length := by
  unfold insert
  split
  · rfl
  · cases pool.entryOf? key
    · rfl
    · exact length_handles_dismiss ..

theorem insert_of_eq_zero
    {pool : Pool η}
    (holdsNone : pool.config.maxSize = 0)
    (now : Instant)
    (key : String)
    (number : Nat) :
    pool.insert now key number = pool := by
  rw [insert, if_pos holdsNone]

/-- Nothing is kept under other keys than before but what is inserted. -/
theorem keeps_insert
    {now : Instant}
    {pool : Pool η}
    (differ : pool.KeysDiffer)
    {key : String}
    (missing : pool.live? now key = none)
    {number : Nat}
    {other : String}
    {otherNumber : Nat}
    (keeps : (pool.insert now key number).Keeps other otherNumber) :
    pool.Keeps other otherNumber ∨ (other = key ∧ otherNumber = number) := by
  by_cases holdsSome : pool.config.maxSize = 0
  · rw [insert_of_eq_zero holdsSome] at keeps
    exact .inl keeps
  · obtain ⟨cleared, -, left, inserted⟩ :=
      insert_eq differ holdsSome missing number
    rw [inserted] at keeps
    obtain ⟨entry, present, rfl, rfl⟩ := keeps
    simp only [List.mem_append, List.mem_singleton] at present
    obtain before | rfl := present
    · rw [left, mem_others] at before
      exact .inl ⟨entry, before.1, rfl, rfl⟩
    · exact .inr ⟨rfl, rfl⟩

/-- The live entries of other keys are not touched when a handle is kept. -/
theorem live?_insert_of_ne
    {now : Instant}
    {pool : Pool η}
    (differ : pool.KeysDiffer)
    {key : String}
    (missing : pool.live? now key = none)
    (number : Nat)
    {other : String}
    (different : other ≠ key) :
    (pool.insert now key number).live? now other = pool.live? now other := by
  by_cases holdsSome : pool.config.maxSize = 0
  · rw [insert_of_eq_zero holdsSome]
  · obtain ⟨cleared, evolves, left, inserted⟩ :=
      insert_eq differ holdsSome missing number
    have passed : (fun entry : Entry =>
        decide ((entry.key != key) = true ∧ (entry.key == other) = true)) =
        fun entry => entry.key == other := by
      funext entry
      by_cases same : entry.key = other <;> simp [same, different]
    have notNew :
        [(⟨key, number, now⟩ : Entry)].find? (fun entry => entry.key == other) =
        none := by
      simp [different.symm]
    rw [inserted]
    simp only [live?, entryOf?, isExpired, left, others, evolves.config_eq,
      List.find?_append, List.find?_filter, passed, notNew, Option.or_none]

/-- What is found under a key right after a handle was kept is that handle. -/
theorem handle_eq_of_live?_insert
    {now : Instant}
    {pool : Pool η}
    (differ : pool.KeysDiffer)
    {key : String}
    (missing : pool.live? now key = none)
    {number : Nat}
    {entry : Entry}
    (found : (pool.insert now key number).live? now key = some entry) :
    entry.handle = number := by
  by_cases holdsSome : pool.config.maxSize = 0
  · rw [insert_of_eq_zero holdsSome, missing] at found
    cases found
  · obtain ⟨cleared, -, left, inserted⟩ :=
      insert_eq differ holdsSome missing number
    rw [inserted, live?, Option.filter_eq_some_iff] at found
    have present := List.mem_of_find?_eq_some found.1
    have keyed : entry.key = key := by simpa using List.find?_some found.1
    simp only [List.mem_append, List.mem_singleton] at present
    obtain before | rfl := present
    · rw [left, mem_others] at before
      exact absurd keyed before.2
    · rfl

/-- A handle that was just kept is found under its key, if
entries last for some time. -/
theorem live?_insert_self
    {now : Instant}
    {pool : Pool η}
    (differ : pool.KeysDiffer)
    (holdsSome : pool.config.maxSize ≠ 0)
    (lasts : 0 < pool.config.idle.totalNanos)
    {key : String}
    (missing : pool.live? now key = none)
    (number : Nat) :
    (pool.insert now key number).live? now key = some ⟨key, number, now⟩ := by
  obtain ⟨cleared, evolves, left, inserted⟩ :=
    insert_eq differ holdsSome missing number
  have absent :
      (pool.others key).find? (fun entry => entry.key == key) = none := by
    rw [List.find?_eq_none]
    intro entry present
    simpa using (mem_others.mp present).2
  have notExpired : ¬now + pool.config.idle.totalNanos ≤ now :=
    Nat.not_le_of_lt (Nat.lt_add_of_pos_right lasts)
  rw [inserted]
  simp [live?, entryOf?, left, absent, isExpired, Entry.isExpired,
    evolves.config_eq, notExpired]

/-- A handle that was just kept is kept under its key. -/
theorem keeps_insert_self
    {now : Instant}
    {pool : Pool η}
    (differ : pool.KeysDiffer)
    (holdsSome : pool.config.maxSize ≠ 0)
    {key : String}
    (missing : pool.live? now key = none)
    (number : Nat) :
    (pool.insert now key number).Keeps key number := by
  obtain ⟨cleared, -, -, inserted⟩ := insert_eq differ holdsSome missing number
  rw [inserted]
  exact ⟨⟨key, number, now⟩,
    List.mem_append_right _ (List.mem_singleton_self _), rfl, rfl⟩

end Pool
end HandlePool
