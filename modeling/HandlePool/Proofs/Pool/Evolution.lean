import HandlePool.Pool
import Mathlib.Data.List.Nodup

/-!
# How the entries of a pool change

Apart from a new handle being kept, whatever a call does to a pool is a sequence
of elementary changes: an entry goes, for a cause that fits it; a live entry is
used; or only counters, notes and what was put off change.  `Pool.Evolves` says
so, and each call of a pool is shown to evolve it.  What every elementary change
keeps, every call keeps.
-/

namespace HandlePool
namespace Pool

variable {η : Type}

/-! ## Keys and handles -/

/-- No key has two entries. -/
def KeysDiffer (pool : Pool η) : Prop := (pool.entries.map Entry.key).Nodup

/-- A handle of that number is kept under the key. -/
def Keeps (pool : Pool η) (key : String) (number : Nat) : Prop :=
  ∃ entry ∈ pool.entries, entry.key = key ∧ entry.handle = number

/-- A handle of that number is kept under some key. -/
def Holds (pool : Pool η) (number : Nat) : Prop :=
  ∃ entry ∈ pool.entries, entry.handle = number

theorem Keeps.holds
    {pool : Pool η}
    {key : String}
    {number : Nat}
    (keeps : pool.Keeps key number) :
    pool.Holds number := by
  obtain ⟨entry, present, -, numbered⟩ := keeps
  exact ⟨entry, present, numbered⟩

/-- Entries of one key are the same entry. -/
theorem KeysDiffer.eq_of_key_eq
    {pool : Pool η}
    (differ : pool.KeysDiffer)
    {left right : Entry}
    (leftPresent : left ∈ pool.entries)
    (rightPresent : right ∈ pool.entries)
    (same : left.key = right.key) :
    left = right :=
  List.inj_on_of_nodup_map differ leftPresent rightPresent same

theorem KeysDiffer.entryOf?_eq_some_iff
    {pool : Pool η}
    (differ : pool.KeysDiffer)
    {key : String}
    {entry : Entry} :
    pool.entryOf? key = some entry ↔
      entry ∈ pool.entries ∧ entry.key = key := by
  constructor
  · intro found
    refine ⟨List.mem_of_find?_eq_some found, ?_⟩
    simpa using List.find?_some found
  · rintro ⟨present, rfl⟩
    have found : (pool.entryOf? entry.key).isSome :=
      List.find?_isSome.mpr ⟨entry, present, by simp⟩
    obtain ⟨other, found⟩ := Option.isSome_iff_exists.mp found
    have sameKey : other.key = entry.key := by simpa using List.find?_some found
    rw [found, differ.eq_of_key_eq (List.mem_of_find?_eq_some found)
      present sameKey]

theorem entryOf?_eq_none_iff
    {pool : Pool η}
    {key : String} :
    pool.entryOf? key = none ↔ ∀ entry ∈ pool.entries, entry.key ≠ key := by
  simp [entryOf?]

/-- The live entry of a key is the entry of that key that is not expired. -/
theorem KeysDiffer.live?_eq_some_iff
    {pool : Pool η}
    (differ : pool.KeysDiffer)
    {now : Instant}
    {key : String}
    {entry : Entry} :
    pool.live? now key = some entry ↔
      entry ∈ pool.entries ∧ entry.key = key ∧
      pool.isExpired now entry = false := by
  simp only [live?, Option.filter_eq_some_iff, differ.entryOf?_eq_some_iff,
    Bool.not_eq_true', and_assoc]

/-- A key has no live entry when all its entries are expired. -/
theorem KeysDiffer.live?_eq_none_iff
    {pool : Pool η}
    (differ : pool.KeysDiffer)
    {now : Instant}
    {key : String} :
    pool.live? now key = none ↔
      ∀ entry ∈ pool.entries, entry.key = key →
        pool.isExpired now entry = true := by
  rw [Option.eq_none_iff_forall_ne_some]
  constructor
  · intro noneLive entry present keyed
    by_contra notExpired
    have live := Bool.eq_false_iff.mpr notExpired
    exact noneLive entry (differ.live?_eq_some_iff.mpr ⟨present, keyed, live⟩)
  · intro allExpired entry found
    obtain ⟨present, keyed, live⟩ := differ.live?_eq_some_iff.mp found
    exact Bool.false_ne_true (live.symm.trans (allExpired entry present keyed))

/-- What is expired stays expired. -/
theorem isExpired_mono
    {pool : Pool η}
    {earlier later : Instant}
    (inOrder : earlier ≤ later)
    {entry : Entry}
    (expired : pool.isExpired earlier entry = true) :
    pool.isExpired later entry = true := by
  simp only [isExpired, Entry.isExpired, decide_eq_true_eq] at expired ⊢
  exact Nat.le_trans expired inOrder

/-- A key without a live entry has none later. -/
theorem KeysDiffer.live?_eq_none_of_le
    {pool : Pool η}
    (differ : pool.KeysDiffer)
    {earlier later : Instant}
    (inOrder : earlier ≤ later)
    {key : String}
    (missing : pool.live? earlier key = none) :
    pool.live? later key = none := by
  rw [differ.live?_eq_none_iff] at missing ⊢
  intro entry present keyed
  exact isExpired_mono inOrder (missing entry present keyed)

/-- An entry that is live later is live now. -/
theorem KeysDiffer.live?_eq_some_of_le
    {pool : Pool η}
    (differ : pool.KeysDiffer)
    {earlier later : Instant}
    (inOrder : earlier ≤ later)
    {key : String}
    {entry : Entry}
    (found : pool.live? later key = some entry) :
    pool.live? earlier key = some entry := by
  obtain ⟨present, keyed, live⟩ := differ.live?_eq_some_iff.mp found
  refine differ.live?_eq_some_iff.mpr ⟨present, keyed, ?_⟩
  rw [Bool.eq_false_iff] at live ⊢
  exact fun expired => live (isExpired_mono inOrder expired)

/-- A key without an entry is missed by none of the others. -/
theorem others_eq_self
    {pool : Pool η}
    {key : String}
    (absent : ∀ entry ∈ pool.entries, entry.key ≠ key) :
    pool.others key = pool.entries := by
  rw [others, List.filter_eq_self]
  intro entry present
  simpa using absent entry present

/-- An entry of a new key may be added. -/
theorem KeysDiffer.concat
    {pool other : Pool η}
    (differ : pool.KeysDiffer)
    {entry : Entry}
    (absent : ∀ earlier ∈ pool.entries, earlier.key ≠ entry.key)
    (grown : other.entries = pool.entries ++ [entry]) :
    other.KeysDiffer := by
  rw [KeysDiffer, grown, List.map_append, List.nodup_append]
  refine ⟨differ, by simp, ?_⟩
  simp only [List.map_cons, List.map_nil, List.mem_singleton, forall_eq]
  intro key keyPresent same
  obtain ⟨earlier, present, keyed⟩ := List.mem_map.mp keyPresent
  exact absent earlier present (keyed.trans same)

theorem KeysDiffer.touch
    {pool : Pool η}
    (differ : pool.KeysDiffer)
    (now : Instant)
    (entry : Entry) :
    (pool.touch now entry).KeysDiffer := by
  have othersDiffer :
      KeysDiffer { pool with entries := pool.others entry.key } :=
    differ.sublist (List.filter_sublist.map Entry.key)
  refine othersDiffer.concat ?_ rfl
  intro earlier present
  exact (mem_others.mp present).2

/-! ## Elementary changes -/

/-- The cause fits the removal of an entry. -/
def Warrants (pool : Pool η) (now : Instant) (entry : Entry) :
    RemovalCause → Prop
  | .invalidated => pool.isExpired now entry = false
  | .sizeEvicted =>
    pool.entries.head? = some entry ∧
      pool.config.maxSize.toNat < pool.entries.length
  | .expired => pool.isExpired now entry = true
  | .replaced => False

theorem Warrants.ne_replaced
    {pool : Pool η}
    {now : Instant}
    {entry : Entry}
    {cause : RemovalCause}
    (warranted : pool.Warrants now entry cause) :
    cause ≠ .replaced := by
  rintro rfl
  exact warranted

variable [Handle η]

/-- Entries of the first pool were removed for causes that fit, or used while
they were live, until the second pool was left. -/
inductive Evolves (now : Instant) : Pool η → Pool η → Prop
  | done (pool : Pool η) : Evolves now pool pool
  | remove {pool final : Pool η} (entry : Entry) (cause : RemovalCause) :
      entry ∈ pool.entries → pool.Warrants now entry cause →
      Evolves now (pool.remove entry cause) final → Evolves now pool final
  | touch {pool final : Pool η} (entry : Entry) :
      entry ∈ pool.entries → pool.isExpired now entry = false →
      Evolves now (pool.touch now entry) final → Evolves now pool final
  | count {pool final : Pool η} (event : CountedEvent) :
      event = .hit ∨ event = .miss ∨ event = .openFailure →
      Evolves now (pool.count event) final → Evolves now pool final
  | note {pool final : Pool η} (event : PoolEvent) :
      Evolves now (pool.note event) final → Evolves now pool final
  | putOff {pool final : Pool η} (upkeep : Upkeep) :
      Evolves now { pool with upkeep := upkeep } final → Evolves now pool final

namespace Evolves

variable {now : Instant} {pool middle final : Pool η}

theorem trans
    (first : Evolves now pool middle)
    (second : Evolves now middle final) :
    Evolves now pool final := by
  induction first with
  | done pool => exact second
  | remove entry cause present warranted _ inductionHypothesis =>
      exact .remove entry cause present warranted (inductionHypothesis second)
  | touch entry present live _ inductionHypothesis =>
      exact .touch entry present live (inductionHypothesis second)
  | count event lookedUp _ inductionHypothesis =>
      exact .count event lookedUp (inductionHypothesis second)
  | note event _ inductionHypothesis =>
      exact .note event (inductionHypothesis second)
  | putOff upkeep _ inductionHypothesis =>
      exact .putOff upkeep (inductionHypothesis second)

theorem config_eq
    (evolves : Evolves now pool final) :
    final.config = pool.config := by
  induction evolves with
  | done pool => rfl
  | remove entry cause _ _ _ inductionHypothesis =>
      simpa using inductionHypothesis
  | touch _ _ _ _ inductionHypothesis => exact inductionHypothesis
  | count _ _ _ inductionHypothesis => exact inductionHypothesis
  | note _ _ inductionHypothesis => exact inductionHypothesis
  | putOff _ _ inductionHypothesis => exact inductionHypothesis

theorem length_handles_eq
    (evolves : Evolves now pool final) :
    final.handles.length = pool.handles.length := by
  induction evolves with
  | done pool => rfl
  | remove entry cause _ _ _ inductionHypothesis =>
      simpa [Pool.remove] using inductionHypothesis
  | touch _ _ _ _ inductionHypothesis => exact inductionHypothesis
  | count _ _ _ inductionHypothesis => exact inductionHypothesis
  | note _ _ inductionHypothesis => exact inductionHypothesis
  | putOff _ _ inductionHypothesis => exact inductionHypothesis

end Evolves

/-! ## What elementary changes keep -/

theorem KeysDiffer.remove
    {pool : Pool η}
    (differ : pool.KeysDiffer)
    (entry : Entry)
    (cause : RemovalCause) :
    (pool.remove entry cause).KeysDiffer := by
  rw [KeysDiffer, entries_remove, others]
  exact differ.sublist (List.filter_sublist.map Entry.key)

@[simp] theorem isExpired_remove
    (pool : Pool η)
    (entry other : Entry)
    (cause : RemovalCause)
    (now : Instant) :
    (pool.remove entry cause).isExpired now other =
      pool.isExpired now other := by
  simp [isExpired]

namespace Evolves

variable {now : Instant} {pool final : Pool η}

theorem keysDiffer
    (evolves : Evolves now pool final)
    (differ : pool.KeysDiffer) :
    final.KeysDiffer := by
  induction evolves with
  | done pool => exact differ
  | remove entry cause _ _ _ inductionHypothesis =>
      exact inductionHypothesis (differ.remove entry cause)
  | touch entry _ _ _ inductionHypothesis =>
      exact inductionHypothesis (differ.touch now entry)
  | count _ _ _ inductionHypothesis => exact inductionHypothesis differ
  | note _ _ inductionHypothesis => exact inductionHypothesis differ
  | putOff _ _ inductionHypothesis => exact inductionHypothesis differ

/-- Every entry that is left was there before, perhaps used since then. -/
theorem origin
    (evolves : Evolves now pool final)
    {entry : Entry}
    (present : entry ∈ final.entries) :
    ∃ earlier ∈ pool.entries,
      earlier.key = entry.key ∧ earlier.handle = entry.handle ∧
        (earlier = entry ∨ pool.isExpired now earlier = false) := by
  induction evolves with
  | done pool => exact ⟨entry, present, rfl, rfl, .inl rfl⟩
  | remove removed cause _ _ _ inductionHypothesis =>
      obtain ⟨earlier, before, sameKey, sameHandle, used⟩ :=
        inductionHypothesis present
      rw [entries_remove, mem_others] at before
      exact ⟨earlier, before.1, sameKey, sameHandle, by simpa using used⟩
  | @touch pool final touched touchedPresent live _ inductionHypothesis =>
      obtain ⟨earlier, before, sameKey, sameHandle, used⟩ :=
        inductionHypothesis present
      rw [Pool.touch, List.mem_append, mem_others, List.mem_singleton] at before
      obtain before | rfl := before
      · exact ⟨earlier, before.1, sameKey, sameHandle, used⟩
      · exact ⟨touched, touchedPresent, sameKey, sameHandle, .inr live⟩
  | count _ _ _ inductionHypothesis => exact inductionHypothesis present
  | note _ _ inductionHypothesis => exact inductionHypothesis present
  | putOff _ _ inductionHypothesis => exact inductionHypothesis present

theorem keeps
    (evolves : Evolves now pool final)
    {key : String}
    {number : Nat}
    (kept : final.Keeps key number) :
    pool.Keeps key number := by
  obtain ⟨entry, present, keyed, numbered⟩ := kept
  obtain ⟨earlier, before, sameKey, sameHandle, -⟩ := evolves.origin present
  exact ⟨earlier, before, sameKey.trans keyed, sameHandle.trans numbered⟩

theorem holds
    (evolves : Evolves now pool final)
    {number : Nat}
    (held : final.Holds number) :
    pool.Holds number := by
  obtain ⟨entry, present, numbered⟩ := held
  exact (evolves.keeps ⟨entry, present, rfl, numbered⟩).holds

/-- A key without a live entry gets none. -/
theorem live?_eq_none
    (evolves : Evolves now pool final)
    (differ : pool.KeysDiffer)
    {key : String}
    (missing : pool.live? now key = none) :
    final.live? now key = none := by
  rw [(evolves.keysDiffer differ).live?_eq_none_iff]
  rw [differ.live?_eq_none_iff] at missing
  intro entry present keyed
  obtain ⟨earlier, before, sameKey, -, used⟩ := evolves.origin present
  have expired := missing earlier before (sameKey.trans keyed)
  obtain rfl | live := used
  · rw [isExpired, evolves.config_eq]
    exact expired
  · exact absurd (live.symm.trans expired) Bool.false_ne_true

/-- A live entry that is left was there before, with the same handle. -/
theorem live?_origin
    (evolves : Evolves now pool final)
    (differ : pool.KeysDiffer)
    {key : String}
    {entry : Entry}
    (found : final.live? now key = some entry) :
    ∃ earlier, pool.live? now key = some earlier ∧
      earlier.handle = entry.handle := by
  obtain ⟨present, keyed, live⟩ :=
    (evolves.keysDiffer differ).live?_eq_some_iff.mp found
  obtain ⟨earlier, before, sameKey, sameHandle, used⟩ := evolves.origin present
  refine ⟨earlier,
    differ.live?_eq_some_iff.mpr ⟨before, sameKey.trans keyed, ?_⟩, sameHandle⟩
  obtain rfl | wasLive := used
  · rwa [isExpired, ← evolves.config_eq]
  · exact wasLive

end Evolves

end Pool
end HandlePool
