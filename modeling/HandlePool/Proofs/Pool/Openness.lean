import HandlePool.Proofs.Pool.Coherence

/-!
# Entries with open handles

A coherent pool closes no handle but those of the entries that go.  So where
openers give open handles and callers close none, every entry has an open one.
`Pool.Trusted` says that a pool is coherent, and that its entries are of that
kind if callers are honest.
-/

namespace HandlePool

/-- What the call makes an opener produce is open. -/
def PoolCall.OpensOpen {η : Type} [Handle η] : PoolCall η → Prop
  | .request _ (.ok handle) => Handle.isOpen handle = true
  | _ => True

namespace Pool

variable {η : Type} [Handle η]

/-- Every entry has an open handle. -/
def AllOpen (pool : Pool η) : Prop :=
  ∀ entry ∈ pool.entries, ∀ handle, pool.handles[entry.handle]? = some handle →
    Handle.isOpen handle = true

/-! ## What removals and uses leave open -/

/-- Removing an entry closes no handle of another one. -/
theorem AllOpen.remove
    {pool : Pool η}
    (allOpen : pool.AllOpen)
    (keyed : pool.Keyed)
    {entry : Entry}
    (present : entry ∈ pool.entries)
    (cause : RemovalCause) :
    (pool.remove entry cause).AllOpen := by
  intro other otherPresent handle found
  rw [entries_remove, mem_others] at otherPresent
  obtain ⟨before, otherKey⟩ := otherPresent
  have otherHandle : other.handle ≠ entry.handle := fun same =>
    otherKey (congrArg Entry.key (keyed.eq_of_handle_eq before present same))
  rw [handle?_remove_of_ne otherHandle] at found
  exact allOpen other before handle found

theorem AllOpen.touch
    {pool : Pool η}
    (allOpen : pool.AllOpen)
    (now : Instant)
    {entry : Entry}
    (present : entry ∈ pool.entries) :
    (pool.touch now entry).AllOpen := by
  intro other otherPresent handle found
  rw [Pool.touch, List.mem_append, mem_others, List.mem_singleton]
    at otherPresent
  obtain before | rfl := otherPresent
  · exact allOpen other before.1 handle found
  · exact allOpen entry present handle found

theorem AllOpen.evolves
    {now : Instant}
    {pool final : Pool η}
    (allOpen : pool.AllOpen)
    (keyed : pool.Keyed)
    (evolves : Evolves now pool final) :
    final.AllOpen := by
  induction evolves with
  | done pool => exact allOpen
  | remove entry cause present warranted _ inductionHypothesis =>
      exact inductionHypothesis (allOpen.remove keyed present cause)
        (keyed.evolves (.remove entry cause present warranted (.done _)))
  | touch entry present live _ inductionHypothesis =>
      exact inductionHypothesis (allOpen.touch now present)
        (keyed.evolves (.touch entry present live (.done _)))
  | count _ _ _ inductionHypothesis =>
      exact inductionHypothesis allOpen (keyed.congr rfl (Nat.le_refl _))
  | note _ _ inductionHypothesis =>
      exact inductionHypothesis allOpen (keyed.congr rfl (Nat.le_refl _))
  | putOff _ _ inductionHypothesis =>
      exact inductionHypothesis allOpen (keyed.congr rfl (Nat.le_refl _))

/-- A handle that is not held stays as it is. -/
theorem Evolves.handle?_of_not_holds
    {now : Instant}
    {pool final : Pool η}
    (evolves : Evolves now pool final)
    {number : Nat}
    (free : ¬pool.Holds number) :
    final.handles[number]? = pool.handles[number]? := by
  induction evolves with
  | done pool => rfl
  | remove entry cause present warranted _ inductionHypothesis =>
      have different : number ≠ entry.handle := by
        rintro rfl
        exact free ⟨entry, present, rfl⟩
      have stillFree : ¬(Pool.remove _ entry cause).Holds number := fun held =>
        free
          (Evolves.holds (.remove entry cause present warranted (.done _)) held)
      rw [inductionHypothesis stillFree, handle?_remove_of_ne different]
  | touch entry present live _ inductionHypothesis =>
      exact inductionHypothesis fun held =>
        free (Evolves.holds (.touch entry present live (.done _)) held)
  | count _ _ _ inductionHypothesis => exact inductionHypothesis free
  | note _ _ inductionHypothesis => exact inductionHypothesis free
  | putOff _ _ inductionHypothesis => exact inductionHypothesis free

/-! ## Keeping a new handle -/

/-- An open handle that is not held yet may be kept under a missing key. -/
theorem AllOpen.insert
    {now : Instant}
    {pool : Pool η}
    {key : String}
    {number : Nat}
    (allOpen : pool.AllOpen)
    (keyed : pool.Keyed)
    (missing : pool.live? now key = none)
    (free : ¬pool.Holds number)
    (isOpen : ∀ handle, pool.handles[number]? = some handle →
      Handle.isOpen handle = true) :
    (pool.insert now key number).AllOpen := by
  by_cases holdsSome : pool.config.maxSize = 0
  · rwa [insert_of_eq_zero holdsSome]
  · obtain ⟨cleared, evolves, -, inserted⟩ :=
      insert_eq keyed.keysDiffer holdsSome missing number
    have clearedOpen := allOpen.evolves keyed evolves
    rw [inserted]
    intro entry present handle found
    obtain before | isNew := List.mem_append.mp present
    · exact clearedOpen entry before handle found
    · obtain rfl := List.mem_singleton.mp isNew
      change cleared.handles[number]? = some handle at found
      rw [evolves.handle?_of_not_holds free] at found
      exact isOpen handle found

theorem AllOpen.adopt
    {pool : Pool η}
    {time : CallTime}
    {key : String}
    {handle : η}
    (allOpen : pool.AllOpen)
    (keyed : pool.Keyed)
    (missing : pool.live? time.starts key = none)
    (isOpen : Handle.isOpen handle = true) :
    (pool.adopt time key handle).AllOpen := by
  have longer : pool.handles.length <
      ((pool.count .opened).enroll handle).2.handles.length := by
    simp [enroll, count]
  have enrolled : ((pool.count .opened).enroll handle).2.Keyed :=
    keyed.congr rfl (Nat.le_of_lt longer)
  have enrolledOpen : ((pool.count .opened).enroll handle).2.AllOpen := by
    intro entry present found located
    have before := keyed.opened entry present
    change (pool.handles ++ [handle])[entry.handle]? = some found at located
    rw [List.getElem?_append_left before] at located
    exact allOpen entry present found located
  have newest : ∀ found,
      ((pool.count .opened).enroll handle).2.handles[pool.handles.length]? =
      some found → Handle.isOpen found = true := by
    intro found located
    change (pool.handles ++ [handle])[pool.handles.length]? =
        some found at located
    rw [List.getElem?_concat_length, Option.some.injEq] at located
    rwa [← located]
  have kept := keyed.keep missing handle
  have stillMissing :=
    keyed.keysDiffer.live?_eq_none_of_le time.starts_le_inserts missing
  have keptOpen :=
    enrolledOpen.insert enrolled stillMissing keyed.not_holds_length newest
  exact keptOpen.evolves kept (evolves_settle time.settles kept.keysDiffer)

/-! ## Pools of honest callers -/

/-- The pool is coherent, and every entry has an open handle
if callers are honest. -/
structure Trusted (honest : Prop)
    (pool : Pool η) : Prop extends Coherent pool where
  allOpen : honest → pool.AllOpen

theorem trusted_create
    (honest : Prop)
    (name : String)
    (config : PoolConfig) :
    Trusted honest ({ name := name, config := config } : Pool η) where
  toCoherent := coherent_create name config
  allOpen _ := nofun

namespace Trusted

variable {honest : Prop} {pool final : Pool η}

theorem same
    (trusted : pool.Trusted honest)
    (same : Same pool final) :
    final.Trusted honest where
  toCoherent := trusted.toCoherent.same same
  allOpen isHonest := by
    obtain ⟨journal, rfl⟩ := same
    exact trusted.allOpen isHonest

theorem evolves
    {now : Instant}
    (trusted : pool.Trusted honest)
    (evolves : Evolves now pool final) :
    final.Trusted honest where
  toCoherent := trusted.toCoherent.evolves evolves
  allOpen isHonest := (trusted.allOpen isHonest).evolves trusted.toKeyed evolves

theorem adopt
    {time : CallTime}
    {key : String}
    {handle : η}
    (trusted : pool.Trusted honest)
    (missing : pool.live? time.starts key = none)
    (isOpen : honest → Handle.isOpen handle = true) :
    (pool.adopt time key handle).Trusted honest where
  toCoherent := trusted.toCoherent.adopt missing handle
  allOpen isHonest :=
    (trusted.allOpen isHonest).adopt trusted.toKeyed missing (isOpen isHonest)

/-- A caller may do anything to a handle, but an honest one
does not close it. -/
theorem withHandle
    {number : Nat}
    {handle other : η}
    (trusted : pool.Trusted honest)
    (found : pool.handles[number]? = some handle)
    (staysOpen : honest → Handle.isOpen handle = true →
      Handle.isOpen other = true) :
    (pool.withHandle number other).Trusted honest where
  toCoherent := trusted.toCoherent.withHandle number other
  allOpen isHonest := by
    intro entry present located locatedAt
    by_cases same : entry.handle = number
    · have bounded := (List.getElem?_eq_some_iff.mp found).1
      rw [same, Pool.withHandle, List.getElem?_set_self bounded,
        Option.some.injEq] at locatedAt
      rw [← locatedAt]
      rw [← same] at found
      exact staysOpen isHonest
        (trusted.allOpen isHonest entry present handle found)
    · rw [Pool.withHandle, List.getElem?_set_ne (Ne.symm same)] at locatedAt
      exact trusted.allOpen isHonest entry present located locatedAt

end Trusted

end Pool
end HandlePool
