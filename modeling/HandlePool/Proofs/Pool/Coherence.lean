import HandlePool.Proofs.Pool.Fitness
import HandlePool.Proofs.Pool.Removals

/-!
# Coherent pools

Whatever its configuration, and whatever callers do with the handles that
they were given, a pool has one entry to a key, one to a handle, and no more
than it may hold.  `Pool.Coherent` says so, and `Pool.LeadsTo` says what may
happen to a pool.  Where callers close no handle and open only open ones,
every entry has an open handle.
-/

namespace HandlePool
namespace Pool

variable {η : Type}

/-! ## Entries, keys and handles -/

/-- A handle is kept under one key. -/
def Apart (pool : Pool η) : Prop :=
  ∀ number key other, pool.Keeps key number →
    pool.Keeps other number → key = other

/-- No two entries share a key or a handle, and every entry has one. -/
structure Keyed (pool : Pool η) : Prop where
  keysDiffer : pool.KeysDiffer
  opened : pool.Opened
  apart : pool.Apart

/-- So it is, and the pool is within its bounds. -/
structure Coherent (pool : Pool η) : Prop extends Keyed pool where
  inBounds : pool.InBounds

theorem coherent_create
    (name : String)
    (config : PoolConfig) :
    Coherent ({ name := name, config := config } : Pool η) where
  keysDiffer := List.nodup_nil
  opened := nofun
  apart := by simp [Apart, Keeps]
  inBounds := Nat.zero_le _

namespace Keyed

variable {pool : Pool η}

/-- Entries with the same handle are the same entry. -/
theorem eq_of_handle_eq
    (keyed : pool.Keyed)
    {left right : Entry}
    (leftPresent : left ∈ pool.entries)
    (rightPresent : right ∈ pool.entries)
    (same : left.handle = right.handle) :
    left = right :=
  keyed.keysDiffer.eq_of_key_eq leftPresent rightPresent
    (keyed.apart right.handle _ _ ⟨left, leftPresent, rfl, same⟩
      ⟨right, rightPresent, rfl, rfl⟩)

theorem exists_handle
    (keyed : pool.Keyed)
    {entry : Entry}
    (present : entry ∈ pool.entries) :
    ∃ handle, pool.handles[entry.handle]? = some handle :=
  ⟨_, List.getElem?_eq_getElem (keyed.opened entry present)⟩

/-- An entry that is none of some others shares no handle with them. -/
theorem handle_notMem_map
    (keyed : pool.Keyed)
    {entries : List Entry}
    (allPresent : ∀ entry ∈ entries, entry ∈ pool.entries)
    {entry : Entry}
    (present : entry ∈ pool.entries)
    (notAmong : entry ∉ entries) :
    entry.handle ∉ entries.map Entry.handle := by
  rw [List.mem_map]
  rintro ⟨other, isAmong, same⟩
  rw [keyed.eq_of_handle_eq (allPresent other isAmong) present same] at isAmong
  exact notAmong isAmong

/-- A number that was not given yet is not held. -/
theorem not_holds_length
    (keyed : pool.Keyed) :
    ¬pool.Holds pool.handles.length := by
  rintro ⟨entry, present, numbered⟩
  exact Nat.lt_irrefl _ (numbered ▸ keyed.opened entry present)

/-- Nothing but entries and the numbers of handles matters. -/
theorem congr
    {other : Pool η}
    (keyed : pool.Keyed)
    (sameEntries : other.entries = pool.entries)
    (notFewer : pool.handles.length ≤ other.handles.length) :
    other.Keyed := by
  obtain ⟨keysDiffer, opened, apart⟩ := keyed
  constructor
  · rwa [KeysDiffer, sameEntries]
  · intro entry present
    rw [sameEntries] at present
    exact Nat.lt_of_lt_of_le (opened entry present) notFewer
  · simpa only [Apart, Keeps, sameEntries] using apart

end Keyed

namespace Coherent

variable {pool other : Pool η}

theorem congr
    (coherent : pool.Coherent)
    (sameConfig : other.config = pool.config)
    (sameEntries : other.entries = pool.entries)
    (notFewer : pool.handles.length ≤ other.handles.length) :
    other.Coherent where
  toKeyed := coherent.toKeyed.congr sameEntries notFewer
  inBounds := by
    rw [InBounds, sameEntries, sameConfig]
    exact coherent.inBounds

theorem same
    (coherent : pool.Coherent)
    (same : Same pool other) :
    other.Coherent := by
  obtain ⟨journal, rfl⟩ := same
  exact coherent.congr rfl rfl (Nat.le_refl _)

theorem withHandle
    (coherent : pool.Coherent)
    (number : Nat)
    (handle : η) :
    (pool.withHandle number handle).Coherent :=
  coherent.congr rfl rfl (Nat.le_of_eq (List.length_set ..).symm)

end Coherent

variable [Handle η]

theorem Keyed.evolves
    {now : Instant}
    {pool final : Pool η}
    (keyed : pool.Keyed)
    (evolves : Evolves now pool final) :
    final.Keyed where
  keysDiffer := evolves.keysDiffer keyed.keysDiffer
  opened entry present := by
    obtain ⟨earlier, before, -, sameHandle, -⟩ := evolves.origin present
    rw [evolves.length_handles_eq, ← sameHandle]
    exact keyed.opened earlier before
  apart number key other keeps keepsToo :=
    keyed.apart number key other (evolves.keeps keeps) (evolves.keeps keepsToo)

theorem Coherent.evolves
    {now : Instant}
    {pool final : Pool η}
    (coherent : pool.Coherent)
    (evolves : Evolves now pool final) :
    final.Coherent where
  toKeyed := coherent.toKeyed.evolves evolves
  inBounds := by
    rw [InBounds, evolves.config_eq]
    exact Nat.le_trans (evolves.length_entries_le coherent.keysDiffer)
      coherent.inBounds

/-! ## Keeping a new handle -/

section Insert

variable
  {now : Instant}
  {pool : Pool η}
  {key : String}
  {number : Nat}

theorem KeysDiffer.insert
    (differ : pool.KeysDiffer)
    (missing : pool.live? now key = none)
    (number : Nat) :
    (pool.insert now key number).KeysDiffer := by
  by_cases holdsSome : pool.config.maxSize = 0
  · rwa [insert_of_eq_zero holdsSome]
  · obtain ⟨cleared, evolves, left, inserted⟩ :=
      insert_eq differ holdsSome missing number
    have absent : ∀ earlier ∈ cleared.entries, earlier.key ≠ key := by
      intro earlier present
      rw [left] at present
      exact (mem_others.mp present).2
    rw [inserted]
    exact (evolves.keysDiffer differ).concat absent rfl

/-- A handle that is not held yet may be kept under a missing key. -/
theorem Keyed.insert
    (keyed : pool.Keyed)
    (missing : pool.live? now key = none)
    (given : number < pool.handles.length)
    (free : ¬pool.Holds number) :
    (pool.insert now key number).Keyed where
  keysDiffer := keyed.keysDiffer.insert missing number
  opened entry present := by
    rw [length_handles_insert]
    obtain ⟨earlier, before, -, sameHandle⟩ | ⟨-, isNew⟩ :=
      keeps_insert keyed.keysDiffer missing ⟨entry, present, rfl, rfl⟩
    · rw [← sameHandle]
      exact keyed.opened earlier before
    · rwa [isNew]
  apart held left right keepsLeft keepsRight := by
    obtain leftBefore | ⟨rfl, rfl⟩ :=
      keeps_insert keyed.keysDiffer missing keepsLeft
    · obtain rightBefore | ⟨-, rfl⟩ :=
        keeps_insert keyed.keysDiffer missing keepsRight
      · exact keyed.apart held left right leftBefore rightBefore
      · exact absurd leftBefore.holds free
    · obtain rightBefore | ⟨rfl, -⟩ :=
        keeps_insert keyed.keysDiffer missing keepsRight
      · exact absurd rightBefore.holds free
      · rfl

end Insert

section Adopt

variable
  {pool : Pool η}
  {time : CallTime}
  {key : String}

/-- A new handle may be enrolled and kept under a missing key. -/
theorem Keyed.keep
    (keyed : pool.Keyed)
    (missing : pool.live? time.starts key = none)
    (handle : η) :
    (((pool.count .opened).enroll handle).2.insert time.inserts key
      pool.handles.length).Keyed := by
  have longer : pool.handles.length <
      ((pool.count .opened).enroll handle).2.handles.length := by
    simp [enroll, count]
  have enrolled : ((pool.count .opened).enroll handle).2.Keyed :=
    keyed.congr rfl (Nat.le_of_lt longer)
  have stillMissing :=
    keyed.keysDiffer.live?_eq_none_of_le time.starts_le_inserts missing
  exact enrolled.insert stillMissing longer keyed.not_holds_length

/-- Adopting a new handle leaves a coherent pool. -/
theorem Coherent.adopt
    (coherent : pool.Coherent)
    (missing : pool.live? time.starts key = none)
    (handle : η) :
    (pool.adopt time key handle).Coherent where
  toKeyed := by
    have kept := coherent.toKeyed.keep missing handle
    exact kept.evolves (evolves_settle time.settles kept.keysDiffer)
  inBounds := inBounds_settleWithin
    (coherent.toKeyed.keep missing handle).keysDiffer _ _

end Adopt

/-- Every call leaves a coherent pool. -/
theorem Coherent.perform
    {pool : Pool η}
    (coherent : pool.Coherent)
    (time : CallTime)
    (call : PoolCall η) :
    (pool.perform time call).2.Coherent := by
  have differ := coherent.keysDiffer
  have performed := performed_perform differ time call
  generalize pool.perform time call = gave at performed ⊢
  obtain ⟨reply, final⟩ := gave
  cases performed with
  | evolved _ evolves => exact coherent.evolves evolves
  | opened key handle missing evolves adopted =>
      rw [adopted]
      exact (coherent.evolves evolves).adopt
        (evolves.live?_eq_none differ missing) handle

/-! ## What may happen to a pool -/

/-- From a pool at some moment, calls that are allowed and callers that do
something to their handles lead to another pool at a later moment. -/
inductive LeadsTo (allowed : PoolCall η → Prop) (start : Instant)
    (pool : Pool η) :
    Instant → Pool η → Prop
  | nothing : LeadsTo allowed start pool start pool
  | called {moment : Instant} {before : Pool η} (time : CallTime)
      (call : PoolCall η) :
      LeadsTo allowed start pool moment before →
      moment ≤ time.starts →
      allowed call →
      LeadsTo allowed start pool time.settles (before.perform time call).2
  | left {moment : Instant} {before : Pool η} (number : Nat) (handle : η) :
      LeadsTo allowed start pool moment before →
      LeadsTo allowed start pool moment (before.withHandle number handle)

/-- The pool may be what a new one has become. -/
def Reachable (moment : Instant) (pool : Pool η) : Prop :=
  ∃ name config,
    LeadsTo (fun _ => True) 0
      ({ name := name, config := config } : Pool η) moment pool

theorem Coherent.leadsTo
    {allowed : PoolCall η → Prop}
    {start moment : Instant}
    {pool final : Pool η}
    (coherent : pool.Coherent)
    (leads : LeadsTo allowed start pool moment final) :
    final.Coherent := by
  induction leads with
  | nothing => exact coherent
  | called time call _ _ _ inductionHypothesis =>
      exact inductionHypothesis.perform time call
  | left number handle _ inductionHypothesis =>
      exact inductionHypothesis.withHandle number handle

theorem Reachable.coherent
    {moment : Instant}
    {pool : Pool η}
    (reachable : pool.Reachable moment) :
    pool.Coherent := by
  obtain ⟨name, config, leads⟩ := reachable
  exact (coherent_create name config).leadsTo leads

/-- What a session makes of its pool is reachable. -/
theorem reachable_run
    (name : String)
    (config : PoolConfig)
    (turns : List (Turn η)) :
    (Session.run name config turns).pool.Reachable
      (Session.run name config turns).now := by
  refine ⟨name, config, ?_⟩
  induction turns using List.reverseRecOn with
  | nil => exact .nothing
  | append_singleton turns turn inductionHypothesis =>
      rw [Session.run_append_singleton]
      exact .called _ turn.call inductionHypothesis
        (Nat.le_add_right _ _) trivial

end Pool
end HandlePool
