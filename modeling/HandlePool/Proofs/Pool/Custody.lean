import HandlePool.Proofs.Pool.Calls
import HandlePool.Proofs.Tracked

/-!
# Who has to close a handle

Every handle a pool opened is in one of three places.  It is held under a key;
or it is loose, which means that some caller has it and the pool has not taken
it over; or the pool let it go.  Held and loose handles are fresh, and the
others are spent.  `Pool.Custody` says this of a pool and a set of loose
numbers.  Opening a handle makes it loose, keeping it takes it over, and
everything else leaves the loose ones alone.
-/

namespace HandlePool
namespace Pool

variable {η : Type} [TrackedHandle η]

open TrackedHandle

/-- Every handle of the pool is held, loose or spent, and
nothing is held twice. -/
structure Custody (loose : Nat → Prop) (pool : Pool η) : Prop where
  keysDiffer : pool.KeysDiffer
  handlesDiffer : (pool.entries.map Entry.handle).Nodup
  opened : ∀ entry ∈ pool.entries, entry.handle < pool.handles.length
  apart : ∀ number, pool.Holds number → ¬loose number
  isFresh : ∀ number handle, pool.handles[number]? = some handle →
    pool.Holds number ∨ loose number → IsFresh handle
  isSpent : ∀ number handle, pool.handles[number]? = some handle →
    ¬pool.Holds number → ¬loose number → IsSpent handle

/-- A pool that was just created has nothing in custody. -/
theorem custody_create
    (loose : Nat → Prop)
    (name : String)
    (config : PoolConfig) :
    Custody loose ({ name := name, config := config } : Pool η) where
  keysDiffer := List.nodup_nil
  handlesDiffer := List.nodup_nil
  opened := by simp
  apart := by simp [Holds]
  isFresh := by simp
  isSpent := by simp

theorem Custody.congr
    {loose : Nat → Prop}
    {pool other : Pool η}
    (custody : Custody loose pool)
    (sameEntries : other.entries = pool.entries)
    (sameHandles : other.handles = pool.handles) :
    Custody loose other := by
  obtain ⟨keysDiffer, handlesDiffer, opened, apart, isFresh, isSpent⟩ := custody
  have sameHolds : ∀ number, other.Holds number ↔ pool.Holds number := by
    simp [Holds, sameEntries]
  constructor
  · rwa [KeysDiffer, sameEntries]
  · rwa [sameEntries]
  · rwa [sameEntries, sameHandles]
  · simpa only [sameHolds] using apart
  · simpa only [sameHolds, sameHandles] using isFresh
  · simpa only [sameHolds, sameHandles] using isSpent

/-- What is loose matters only for numbers that were given out. -/
theorem Custody.mono_loose
    {loose other : Nat → Prop}
    {pool : Pool η}
    (custody : Custody loose pool)
    (same : ∀ number < pool.handles.length, loose number ↔ other number) :
    Custody other pool where
  keysDiffer := custody.keysDiffer
  handlesDiffer := custody.handlesDiffer
  opened := custody.opened
  apart number held := by
    obtain ⟨entry, present, rfl⟩ := held
    rw [← same entry.handle (custody.opened entry present)]
    exact custody.apart entry.handle ⟨entry, present, rfl⟩
  isFresh number handle found := by
    rw [← same number (List.getElem?_eq_some_iff.mp found).1]
    exact custody.isFresh number handle found
  isSpent number handle found := by
    rw [← same number (List.getElem?_eq_some_iff.mp found).1]
    exact custody.isSpent number handle found

/-! ## Letting go -/

/-- Removing an entry ends the holding of its handle and of no other. -/
theorem Custody.holds_remove_iff
    {loose : Nat → Prop}
    {pool : Pool η}
    (custody : Custody loose pool)
    {entry : Entry}
    (present : entry ∈ pool.entries)
    (cause : RemovalCause)
    (number : Nat) :
    (pool.remove entry cause).Holds number ↔
      pool.Holds number ∧ number ≠ entry.handle := by
  simp only [Holds, entries_remove, mem_others]
  constructor
  · rintro ⟨other, ⟨otherPresent, differentKey⟩, rfl⟩
    refine ⟨⟨other, otherPresent, rfl⟩, ?_⟩
    intro sameHandle
    have same :=
      List.inj_on_of_nodup_map custody.handlesDiffer otherPresent present
      sameHandle
    exact differentKey (congrArg Entry.key same)
  · rintro ⟨⟨other, otherPresent, rfl⟩, differentHandle⟩
    refine ⟨other, ⟨otherPresent, ?_⟩, rfl⟩
    intro sameKey
    have same := custody.keysDiffer.eq_of_key_eq otherPresent present sameKey
    exact differentHandle (congrArg Entry.handle same)

omit [TrackedHandle η] in
/-- The handle of a removed entry goes through the guard. -/
theorem handle?_remove_self
    [Handle η]
    {pool : Pool η}
    {entry : Entry}
    {handle : η}
    (found : pool.handles[entry.handle]? = some handle)
    (cause : RemovalCause) :
    (pool.remove entry cause).handles[entry.handle]? =
      some (release pool.config.policy pool.counters entry.key cause
        handle).handle := by
  have bounded := (List.getElem?_eq_some_iff.mp found).1
  simp only [Pool.remove, dismiss, found]
  rw [List.getElem?_set_self bounded]

omit [TrackedHandle η] in
theorem handle?_remove_of_ne
    [Handle η]
    {entry : Entry}
    {number : Nat}
    (different : number ≠ entry.handle)
    (pool : Pool η)
    (cause : RemovalCause) :
    (pool.remove entry cause).handles[number]? = pool.handles[number]? :=
  handle?_dismiss_of_ne different
    { pool with entries := pool.others entry.key } cause

/-- A removed handle is spent, unless it was replaced. -/
theorem Custody.remove
    {loose : Nat → Prop}
    {pool : Pool η}
    (custody : Custody loose pool)
    {entry : Entry}
    (present : entry ∈ pool.entries)
    {cause : RemovalCause}
    (notReplaced : cause ≠ .replaced) :
    Custody loose (pool.remove entry cause) := by
  have holds := custody.holds_remove_iff present cause
  constructor
  · exact custody.keysDiffer.remove entry cause
  · rw [entries_remove]
    exact custody.handlesDiffer.sublist (List.filter_sublist.map Entry.handle)
  · intro other otherPresent
    rw [entries_remove, mem_others] at otherPresent
    simpa [Pool.remove] using custody.opened other otherPresent.1
  · intro number held
    exact custody.apart number ((holds number).mp held).1
  · intro number handle found kept
    by_cases same : number = entry.handle
    · exfalso
      obtain held | loosened := kept
      · exact ((holds number).mp held).2 same
      · exact custody.apart number ⟨entry, present, same.symm⟩ loosened
    · rw [handle?_remove_of_ne same] at found
      refine custody.isFresh number handle found ?_
      exact kept.imp_left fun held => ((holds number).mp held).1
  · intro number handle found notHeld notLoose
    by_cases same : number = entry.handle
    · subst same
      obtain ⟨earlier, foundEarlier⟩ :
          ∃ earlier, pool.handles[entry.handle]? = some earlier :=
        ⟨_, List.getElem?_eq_getElem (custody.opened entry present)⟩
      have fresh :=
        custody.isFresh _ _ foundEarlier (.inl ⟨entry, present, rfl⟩)
      rw [handle?_remove_self foundEarlier, Option.some.injEq] at found
      rw [← found]
      exact fresh.isSpent_release notReplaced _ _ _
    · rw [handle?_remove_of_ne same] at found
      refine custody.isSpent number handle found ?_ notLoose
      intro held
      exact notHeld ((holds number).mpr ⟨held, same⟩)

/-! ## Using -/

/-- Using an entry leaves all entries but for the time of their last use. -/
theorem KeysDiffer.holds_touch_iff
    {η : Type}
    {pool : Pool η}
    (differ : pool.KeysDiffer)
    (now : Instant)
    {entry : Entry}
    (present : entry ∈ pool.entries)
    (number : Nat) :
    (pool.touch now entry).Holds number ↔ pool.Holds number := by
  simp only [Holds, Pool.touch, List.mem_append, mem_others,
    List.mem_singleton, or_and_right, exists_or, exists_eq_left]
  constructor
  · rintro (⟨other, ⟨otherPresent, -⟩, numbered⟩ | numbered)
    · exact ⟨other, otherPresent, numbered⟩
    · exact ⟨entry, present, numbered⟩
  · rintro ⟨other, otherPresent, numbered⟩
    by_cases sameKey : other.key = entry.key
    · exact .inr (differ.eq_of_key_eq otherPresent present sameKey ▸ numbered)
    · exact .inl ⟨other, ⟨otherPresent, sameKey⟩, numbered⟩

theorem Custody.touch
    {loose : Nat → Prop}
    {pool : Pool η}
    (custody : Custody loose pool)
    (now : Instant)
    {entry : Entry}
    (present : entry ∈ pool.entries) :
    Custody loose (pool.touch now entry) := by
  have holds := custody.keysDiffer.holds_touch_iff now present
  have handles : (pool.touch now entry).entries.map Entry.handle =
      (pool.others entry.key).map Entry.handle ++ [entry.handle] := by
    simp [Pool.touch]
  constructor
  · exact custody.keysDiffer.touch now entry
  · rw [handles, List.nodup_append]
    refine ⟨custody.handlesDiffer.sublist (List.filter_sublist.map _),
      by simp, ?_⟩
    intro number numberPresent
    simp only [List.mem_singleton, forall_eq]
    rintro rfl
    obtain ⟨other, otherPresent, sameHandle⟩ := List.mem_map.mp numberPresent
    rw [mem_others] at otherPresent
    have same :=
      List.inj_on_of_nodup_map custody.handlesDiffer otherPresent.1 present
      sameHandle
    exact otherPresent.2 (congrArg Entry.key same)
  · intro other otherPresent
    obtain ⟨earlier, before, sameHandle⟩ :=
      (holds other.handle).mp ⟨other, otherPresent, rfl⟩
    rw [← sameHandle]
    exact custody.opened earlier before
  · intro number held
    exact custody.apart number ((holds number).mp held)
  · intro number handle found kept
    exact custody.isFresh number handle found (kept.imp_left (holds number).mp)
  · intro number handle found notHeld
    exact custody.isSpent number handle found fun held =>
      notHeld ((holds number).mpr held)

/-- Whatever evolves a pool keeps custody. -/
theorem Custody.evolves
    {loose : Nat → Prop}
    {now : Instant}
    {pool final : Pool η}
    (custody : Custody loose pool)
    (evolves : Evolves now pool final) :
    Custody loose final := by
  induction evolves with
  | done pool => exact custody
  | remove entry cause present warranted _ inductionHypothesis =>
      exact inductionHypothesis (custody.remove present warranted.ne_replaced)
  | touch entry present _ _ inductionHypothesis =>
      exact inductionHypothesis (custody.touch now present)
  | count _ _ _ inductionHypothesis =>
      exact inductionHypothesis (custody.congr rfl rfl)
  | note _ _ inductionHypothesis =>
      exact inductionHypothesis (custody.congr rfl rfl)
  | putOff _ _ inductionHypothesis =>
      exact inductionHypothesis (custody.congr rfl rfl)

/-! ## Opening and keeping -/

theorem Custody.not_holds_length
    {loose : Nat → Prop}
    {pool : Pool η}
    (custody : Custody loose pool) :
    ¬pool.Holds pool.handles.length := by
  rintro ⟨entry, present, numbered⟩
  exact Nat.lt_irrefl _ (numbered ▸ custody.opened entry present)

omit [TrackedHandle η] in
/-- A handle that was enrolled has the next number. -/
theorem handle?_enroll
    {pool : Pool η}
    {handle found : η}
    {number : Nat}
    (located : (pool.enroll handle).2.handles[number]? = some found) :
    pool.handles[number]? = some found ∧ number ≠ pool.handles.length ∨
      number = pool.handles.length ∧ found = handle := by
  rw [enroll, List.getElem?_append] at located
  split at located
  · next bounded => exact .inl ⟨located, Nat.ne_of_lt bounded⟩
  · next beyond =>
    obtain ⟨small, rfl⟩ := List.getElem?_eq_some_iff.mp located
    rw [List.length_singleton] at small
    exact .inr ⟨by omega, by simp⟩

/-- A fresh handle that is enrolled is loose. -/
theorem Custody.enroll
    {loose : Nat → Prop}
    {pool : Pool η}
    (custody : Custody loose pool)
    {handle : η}
    (fresh : IsFresh handle) :
    Custody (fun number => loose number ∨ number = pool.handles.length)
      (pool.enroll handle).2 := by
  constructor
  · exact custody.keysDiffer
  · exact custody.handlesDiffer
  · intro entry present
    have := custody.opened entry present
    simp only [Pool.enroll, List.length_append, List.length_singleton]
    omega
  · rintro number held (loosened | rfl)
    · exact custody.apart number held loosened
    · exact custody.not_holds_length held
  · intro number found located kept
    obtain ⟨before, different⟩ | ⟨-, rfl⟩ := handle?_enroll located
    · refine custody.isFresh number found before ?_
      exact kept.imp_right fun loosened => loosened.resolve_right different
    · exact fresh
  · intro number found located notHeld notLoose
    obtain ⟨before, -⟩ | ⟨last, -⟩ := handle?_enroll located
    · exact custody.isSpent number found before notHeld fun loosened =>
        notLoose (.inl loosened)
    · exact absurd (.inr last) notLoose

/-- A loose handle that is kept is held; nothing live is displaced by it. -/
theorem Custody.insert
    {loose : Nat → Prop}
    {now : Instant}
    {pool : Pool η}
    (custody : Custody loose pool)
    (holdsSome : pool.config.maxSize ≠ 0)
    {key : String}
    (missing : pool.live? now key = none)
    {number : Nat}
    (given : number < pool.handles.length)
    (loosened : loose number) :
    Custody (fun other => loose other ∧ other ≠ number)
      (pool.insert now key number) := by
  obtain ⟨cleared, evolves, left, inserted⟩ :=
    insert_eq custody.keysDiffer holdsSome missing number
  have absent : ∀ entry ∈ cleared.entries, entry.key ≠ key := by
    intro entry present
    rw [left, mem_others] at present
    exact present.2
  have cleared_custody := custody.evolves evolves
  rw [inserted]
  have notHeld : ¬cleared.Holds number := fun held =>
    cleared_custody.apart number held loosened
  have holds : ∀ other, Pool.Holds { cleared with
      entries := cleared.entries ++ [⟨key, number, now⟩] } other ↔
      cleared.Holds other ∨ other = number := by
    intro other
    simp only [Holds, List.mem_append, List.mem_singleton,
      or_and_right, exists_or, exists_eq_left, eq_comm]
  constructor
  · exact cleared_custody.keysDiffer.concat absent rfl
  · rw [List.map_append, List.nodup_append]
    refine ⟨cleared_custody.handlesDiffer, by simp, ?_⟩
    simp only [List.map_cons, List.map_nil, List.mem_singleton, forall_eq]
    intro other otherHeld same
    obtain ⟨entry, present, numbered⟩ := List.mem_map.mp otherHeld
    exact notHeld ⟨entry, present, numbered.trans same⟩
  · intro entry present
    simp only [List.mem_append, List.mem_singleton] at present
    obtain before | rfl := present
    · exact cleared_custody.opened entry before
    · rwa [← evolves.length_handles_eq] at given
  · rintro other held ⟨stillLoose, different⟩
    obtain before | same := (holds other).mp held
    · exact cleared_custody.apart other before stillLoose
    · exact different same
  · intro other handle found kept
    refine cleared_custody.isFresh other handle found ?_
    rw [holds] at kept
    obtain (before | rfl) | stillLoose := kept
    · exact .inl before
    · exact .inr loosened
    · exact .inr stillLoose.1
  · intro other handle found notKept notLoose
    rw [holds, not_or] at notKept
    refine cleared_custody.isSpent other handle found notKept.1
      fun stillLoose => ?_
    exact notLoose ⟨stillLoose, notKept.2⟩

/-! ## Open handles -/

/-- A handle that is still open is as it was. -/
theorem Evolves.handle?_of_isOpen
    {now : Instant}
    {pool final : Pool η}
    (evolves : Evolves now pool final)
    {number : Nat}
    {handle : η}
    (found : final.handles[number]? = some handle)
    (isOpen : Handle.isOpen handle = true) :
    pool.handles[number]? = some handle := by
  induction evolves with
  | done pool => exact found
  | @remove pool final entry cause _ warranted _ inductionHypothesis =>
      have foundBefore := inductionHypothesis found
      by_cases same : number = entry.handle
      · subst same
        cases foundEarlier : pool.handles[entry.handle]? with
        | none =>
            have unchanged : (pool.remove entry cause).handles =
                pool.handles := by
              simp only [Pool.remove, dismiss, foundEarlier]
            rw [unchanged, foundEarlier] at foundBefore
            cases foundBefore
        | some earlier =>
            have closes : ¬(cause = .replaced ∧ pool.config.policy = .retain) :=
              fun retained => warranted.ne_replaced retained.1
            rw [handle?_remove_self foundEarlier, Option.some.injEq,
              handle_release_of_not_retained closes] at foundBefore
            rw [← foundBefore, isOpen_close] at isOpen
            cases isOpen
      · rwa [handle?_remove_of_ne same] at foundBefore
  | touch _ _ _ _ inductionHypothesis => exact inductionHypothesis found
  | count _ _ _ inductionHypothesis => exact inductionHypothesis found
  | note _ _ inductionHypothesis => exact inductionHypothesis found
  | putOff _ _ inductionHypothesis => exact inductionHypothesis found

theorem handle?_insert_of_isOpen
    {now : Instant}
    {pool : Pool η}
    (differ : pool.KeysDiffer)
    {key : String}
    (missing : pool.live? now key = none)
    {kept number : Nat}
    {handle : η}
    (found : (pool.insert now key kept).handles[number]? = some handle)
    (isOpen : Handle.isOpen handle = true) :
    pool.handles[number]? = some handle := by
  by_cases holdsSome : pool.config.maxSize = 0
  · rwa [insert_of_eq_zero holdsSome] at found
  · obtain ⟨cleared, evolves, -, inserted⟩ :=
      insert_eq differ holdsSome missing kept
    rw [inserted] at found
    exact evolves.handle?_of_isOpen found isOpen

end Pool
end HandlePool
