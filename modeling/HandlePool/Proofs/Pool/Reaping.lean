import HandlePool.Proofs.Pool.Coherence
import HandlePool.Proofs.Pool.Course

/-!
# Entries that go

With every entry that goes one handle is closed, and the entries that stay are
where they were: `Pool.Parted` says so of any removals.  A pool that holds no
more than it may loses entries on request and expired entries, and `Pool.Swept`
adds how they are counted.  Where it is only put in order nothing but expired
entries goes, which is what `Pool.Reaped` says.
-/

namespace HandlePool

/-- The counters when so many expired entries have gone, and closing some of
their handles has failed. -/
def Counters.reap (counters : Counters) (gone failures : Nat) : Counters :=
  { counters with
    expired := counters.expired + gone
    closes := counters.closes + gone
    closeFailures := counters.closeFailures + failures }

/-- The counters when so many entries have gone on request, so many because they
had expired, and closing some of their handles has failed. -/
def Counters.sweep (counters : Counters) (requested expired failures : Nat) :
    Counters :=
  { counters with
    invalidated := counters.invalidated + requested
    expired := counters.expired + expired
    closes := counters.closes + (requested + expired)
    closeFailures := counters.closeFailures + failures }

theorem Counters.sweep_sweep
    (counters : Counters)
    (requested expired failures moreRequested moreExpired moreFailures : Nat) :
    (counters.sweep requested expired failures).sweep moreRequested moreExpired
      moreFailures =
      counters.sweep (requested + moreRequested) (expired + moreExpired)
        (failures + moreFailures) := by
  simp only [sweep, Nat.add_assoc, Nat.add_left_comm expired moreRequested]

/-- Where nothing goes on request the expired entries are reaped. -/
theorem Counters.sweep_zero
    (counters : Counters)
    (expired failures : Nat) :
    counters.sweep 0 expired failures = counters.reap expired failures := by
  simp only [sweep, reap, Nat.add_zero, Nat.zero_add]

namespace Pool

variable {η : Type} [Handle η]

/-- Closing the handle of the entry reports an error. -/
def failsToClose (pool : Pool η) (entry : Entry) : Bool :=
  (pool.handles[entry.handle]?).any Handle.failsToClose

/-- Some entries have gone from the first pool, and the second one is left. -/
structure Parted (now : Instant) (pool : Pool η) (gone : List Entry)
    (final : Pool η) : Prop where
  evolves : Evolves now pool final
  nodup : gone.Nodup
  present : ∀ entry ∈ gone, entry ∈ pool.entries
  entries_eq : final.entries = pool.entries.filter fun entry => entry ∉ gone
  /-- The handles of entries that have gone are closed, and no others. -/
  handle?_eq : ∀ number,
    final.handles[number]? = (pool.handles[number]?).map fun handle =>
    if number ∈ gone.map Entry.handle then (Handle.close handle).2 else handle
  closes_eq : final.counters.closes = pool.counters.closes + gone.length

/-- What has gone is counted as expired if it was, and as
invalidated otherwise. -/
structure Swept (now : Instant) (pool : Pool η) (gone : List Entry)
    (final : Pool η) : Prop extends Parted now pool gone final where
  counters_eq : final.counters = pool.counters.sweep
    (gone.countP fun entry => !pool.isExpired now entry)
    (gone.countP (pool.isExpired now)) (gone.countP pool.failsToClose)

/-- All entries that have gone had expired, and they are counted as such. -/
structure Reaped (now : Instant) (pool : Pool η) (gone : List Entry)
    (final : Pool η) : Prop extends Parted now pool gone final where
  expired : ∀ entry ∈ gone, pool.isExpired now entry = true
  counters_eq : final.counters =
    pool.counters.reap gone.length (gone.countP pool.failsToClose)

theorem parted_nothing
    (now : Instant)
    (pool : Pool η) :
    Parted now pool [] pool where
  evolves := .done pool
  nodup := List.nodup_nil
  present := nofun
  entries_eq := by simp
  handle?_eq := by simp
  closes_eq := rfl

theorem swept_nothing
    (now : Instant)
    (pool : Pool η) :
    Swept now pool [] pool where
  toParted := parted_nothing now pool
  counters_eq := rfl

/-- If all that has gone had expired, it was reaped. -/
theorem Swept.reaped
    {now : Instant}
    {pool final : Pool η}
    {gone : List Entry}
    (swept : Swept now pool gone final)
    (expired : ∀ entry ∈ gone, pool.isExpired now entry = true) :
    Reaped now pool gone final where
  toParted := swept.toParted
  expired := expired
  counters_eq := by
    have noneRequested :
        (gone.countP fun entry => !pool.isExpired now entry) = 0 := by
      rw [List.countP_eq_zero]
      intro entry isGone
      simp [expired entry isGone]
    rw [swept.counters_eq, noneRequested, List.countP_eq_length.mpr expired,
      Counters.sweep_zero]

/-- The handle of a removed entry is closed, unless it was replaced. -/
theorem handle?_remove_self_of_ne_replaced
    {pool : Pool η}
    {entry : Entry}
    {handle : η}
    (found : pool.handles[entry.handle]? = some handle)
    {cause : RemovalCause}
    (notReplaced : cause ≠ .replaced) :
    (pool.remove entry cause).handles[entry.handle]? =
      some (Handle.close handle).2 := by
  have closes : ¬(cause = .replaced ∧ pool.config.policy = .retain) :=
    fun retained => notReplaced retained.1
  rw [handle?_remove_self found, handle_release_of_not_retained closes]

/-- What the guard counts is what removing an entry counts. -/
theorem counters_remove_eq
    {pool : Pool η}
    {entry : Entry}
    (opened : entry.handle < pool.handles.length)
    (cause : RemovalCause) :
    (pool.remove entry cause).counters =
      (release pool.config.policy pool.counters entry.key
      cause pool.handles[entry.handle]).counters := by
  have found := List.getElem?_eq_getElem opened
  simp only [remove, dismiss, found]

/-- Releasing a handle that goes on request, expired or not,
closes it and counts that. -/
theorem counters_release_eq_sweep
    (policy : ReplacePolicy)
    (counters : Counters)
    (key : String)
    (handle : η)
    (expired : Bool) :
    (release policy counters key (if expired then .expired else .invalidated)
      handle).counters =
      counters.sweep (!expired).toNat expired.toNat
        (Handle.failsToClose handle).toNat := by
  have notReplaced : (if expired then RemovalCause.expired else .invalidated) ≠
      .replaced := by
    cases expired <;> decide
  unfold release Handle.failsToClose
  rw [if_neg fun retained => notReplaced retained.1]
  rcases Handle.close handle with ⟨outcome, closed⟩
  cases expired <;> cases outcome <;> rfl

theorem counters_remove_causeAt
    {pool : Pool η}
    {entry : Entry}
    (now : Instant)
    (opened : entry.handle < pool.handles.length) :
    (pool.remove entry (pool.causeAt now entry .invalidated)).counters =
      pool.counters.sweep (!pool.isExpired now entry).toNat
        (pool.isExpired now entry).toNat (pool.failsToClose entry).toNat := by
  have fails : pool.failsToClose entry =
      Handle.failsToClose pool.handles[entry.handle] := by
    rw [failsToClose, List.getElem?_eq_getElem opened, Option.any_some]
  rw [counters_remove_eq opened, fails]
  exact counters_release_eq_sweep ..

section Cons

variable
  {now : Instant}
  {pool final : Pool η}
  {gone : List Entry}
  {entry : Entry}

/-- After an entry was removed, only entries of other keys and handles go. -/
theorem Parted.apart
    {cause : RemovalCause}
    (parted : Parted now (pool.remove entry cause) gone final)
    (coherent : pool.Coherent)
    (present : entry ∈ pool.entries)
    {other : Entry}
    (isGone : other ∈ gone) :
    other ∈ pool.entries ∧ other.key ≠ entry.key ∧
    other.handle ≠ entry.handle := by
  have still := parted.present other isGone
  rw [entries_remove, mem_others] at still
  refine ⟨still.1, still.2, fun same => still.2 ?_⟩
  exact congrArg Entry.key
    (coherent.toKeyed.eq_of_handle_eq still.1 present same)

/-- One more entry goes first. -/
theorem Parted.cons
    {cause : RemovalCause}
    (parted : Parted now (pool.remove entry cause) gone final)
    (coherent : pool.Coherent)
    (present : entry ∈ pool.entries)
    (warranted : pool.Warrants now entry cause) :
    Parted now pool (entry :: gone) final := by
  have apart : ∀ {other}, other ∈ gone → _ := parted.apart coherent present
  obtain ⟨evolves, nodup, -, entries_eq, handle?_eq, closes_eq⟩ := parted
  obtain ⟨handle, found⟩ := coherent.toKeyed.exists_handle present
  constructor
  · exact .remove entry cause present warranted evolves
  · exact List.nodup_cons.mpr ⟨fun isGone => (apart isGone).2.1 rfl, nodup⟩
  · exact List.forall_mem_cons.mpr
      ⟨present, fun other isGone => (apart isGone).1⟩
  · rw [entries_eq, entries_remove, others, List.filter_filter]
    refine List.filter_congr fun other before => ?_
    by_cases same : other = entry
    · simp [same]
    · have different : other.key ≠ entry.key := fun sameKey =>
        same (coherent.keysDiffer.eq_of_key_eq before present sameKey)
      simp [same, different]
  · intro number
    rw [handle?_eq]
    by_cases same : number = entry.handle
    · subst same
      have notAgain : entry.handle ∉ gone.map Entry.handle := by
        rw [List.mem_map]
        rintro ⟨other, isGone, sameHandle⟩
        exact (apart isGone).2.2 sameHandle
      rw [handle?_remove_self_of_ne_replaced found warranted.ne_replaced, found,
        Option.map_some, Option.map_some, if_neg notAgain, List.map_cons,
        if_pos List.mem_cons_self]
    · rw [handle?_remove_of_ne same]
      simp [same]
  · obtain ⟨-, closes, -⟩ := counters_remove found warranted.ne_replaced
    rw [closes_eq, closes, List.length_cons, Nat.add_assoc, Nat.add_comm 1]

/-- One more entry goes first, on request. -/
theorem Swept.cons
    (swept : Swept now (pool.remove entry (pool.causeAt now entry .invalidated))
      gone final)
    (coherent : pool.Coherent)
    (present : entry ∈ pool.entries) :
    Swept now pool (entry :: gone) final := by
  have apart : ∀ {other}, other ∈ gone → _ :=
    swept.toParted.apart coherent present
  obtain ⟨parted, counters_eq⟩ := swept
  have sameFailures :
      gone.countP (pool.remove entry
        (pool.causeAt now entry .invalidated)).failsToClose =
        gone.countP pool.failsToClose := by
    refine List.countP_congr fun other isGone => ?_
    rw [failsToClose, handle?_remove_of_ne (apart isGone).2.2, failsToClose]
  have oneMore : ∀ fits : Entry → Bool,
      (fits entry).toNat + gone.countP fits = (entry :: gone).countP fits := by
    intro fits
    rw [List.countP_cons, Nat.add_comm]
    cases fits entry <;> rfl
  refine ⟨parted.cons coherent present (warrants_causeAt pool now entry), ?_⟩
  have sameExpired : ∀ cause, (pool.remove entry cause).isExpired now =
      pool.isExpired now :=
    fun cause => funext fun other => isExpired_remove pool entry other cause now
  rw [counters_eq, sameExpired,
    counters_remove_causeAt now (coherent.opened entry present),
    sameFailures, Counters.sweep_sweep, oneMore (pool.isExpired now),
    oneMore pool.failsToClose, oneMore fun entry => !pool.isExpired now entry]

end Cons

/-! ## What sweeps and what reaps -/

omit [Handle η] in
/-- Within its bounds a pool loses no entry for its size. -/
theorem causeAt_of_truthful
    {pool : Pool η}
    {asked : String → Prop}
    {now : Instant}
    {entry : Entry}
    {cause : RemovalCause}
    (truthful : Removal.IsTruthful pool.config asked
      ⟨now, pool.entries, entry, cause⟩)
    (inBounds : pool.InBounds) :
    cause = pool.causeAt now entry .invalidated := by
  obtain ⟨-, expired_iff, sizeEvicted, -, notReplaced⟩ := truthful
  change cause = .expired ↔ pool.isExpired now entry = true at expired_iff
  unfold causeAt
  cases cause with
  | invalidated => rw [if_neg fun expired => nomatch expired_iff.mpr expired]
  | sizeEvicted => exact absurd (sizeEvicted rfl).2 (Nat.not_lt.mpr inBounds)
  | expired => rw [if_pos (expired_iff.mp rfl)]
  | replaced => exact absurd rfl notReplaced

/-- What leaves a pool within its bounds is swept. -/
theorem Sheds.swept
    {asked : String → Prop}
    {now : Instant}
    {pool final : Pool η}
    {removals : List Removal}
    (sheds : Sheds asked now pool removals final)
    (coherent : pool.Coherent) :
    Swept now pool (removals.map Removal.entry) final := by
  induction sheds with
  | done pool => exact swept_nothing now pool
  | @remove pool final removals entry cause truthful _ inductionHypothesis =>
      obtain rfl := causeAt_of_truthful truthful coherent.inBounds
      have evolves : Evolves now pool (pool.remove entry _) :=
        .remove entry _ truthful.wasHeld
          (warrants_causeAt pool now entry) (.done _)
      exact (inductionHypothesis (coherent.evolves evolves)).cons coherent
        truthful.wasHeld
  | note event _ _ _ inductionHypothesis =>
      obtain ⟨parted, counters_eq⟩ :=
        inductionHypothesis (coherent.congr rfl rfl (Nat.le_refl _))
      exact ⟨{ parted with evolves := .note event parted.evolves }, counters_eq⟩
  | putOff upkeep _ inductionHypothesis =>
      obtain ⟨parted, counters_eq⟩ :=
        inductionHypothesis (coherent.congr rfl rfl (Nat.le_refl _))
      exact ⟨{ parted with evolves := .putOff upkeep parted.evolves },
        counters_eq⟩

/-- The cause of every removal is told by the entry alone. -/
theorem Sheds.cause_eq
    {asked : String → Prop}
    {now : Instant}
    {pool final : Pool η}
    {removals : List Removal}
    (sheds : Sheds asked now pool removals final)
    (inBounds : pool.InBounds)
    {removal : Removal}
    (removed : removal ∈ removals) :
    removal.cause = pool.causeAt now removal.entry .invalidated := by
  induction sheds with
  | done pool => cases removed
  | remove entry cause truthful _ inductionHypothesis =>
      obtain rfl | later := List.mem_cons.mp removed
      · exact causeAt_of_truthful truthful inBounds
      · simpa [causeAt] using
          inductionHypothesis (inBounds.remove entry cause) later
  | note _ _ _ _ inductionHypothesis =>
      exact inductionHypothesis inBounds removed
  | putOff _ _ inductionHypothesis => exact inductionHypothesis inBounds removed

/-- What has gone had expired, or its removal was asked for. -/
theorem Sheds.asked_or_isExpired
    {asked : String → Prop}
    {now : Instant}
    {pool final : Pool η}
    {removals : List Removal}
    (sheds : Sheds asked now pool removals final)
    (inBounds : pool.InBounds)
    {entry : Entry}
    (isGone : entry ∈ removals.map Removal.entry) :
    asked entry.key ∨ pool.isExpired now entry = true := by
  obtain ⟨removal, removed, rfl⟩ := List.mem_map.mp isGone
  by_cases expired : pool.isExpired now removal.entry = true
  · exact .inr expired
  · refine .inl ((sheds.isTruthful removed).1.invalidated ?_)
    rw [sheds.cause_eq inBounds removed, causeAt, if_neg expired]

/-- When nobody asks for a removal and the pool is within its bounds, an entry
goes only if it is expired. -/
theorem Sheds.reaped
    {now : Instant}
    {pool final : Pool η}
    {removals : List Removal}
    (sheds : Sheds (fun _ => False) now pool removals final)
    (coherent : pool.Coherent) :
    ∃ gone, Reaped now pool gone final := by
  refine ⟨_, (sheds.swept coherent).reaped fun entry isGone => ?_⟩
  exact (sheds.asked_or_isExpired coherent.inBounds isGone).resolve_left id

/-! ## What stays -/

section Stays

variable
  {now : Instant}
  {pool final : Pool η}
  {gone : List Entry}
  {entry : Entry}

/-- The handle of an entry that has gone is closed. -/
theorem Parted.handle?_eq_of_mem
    (parted : Parted now pool gone final)
    (isGone : entry ∈ gone)
    {handle : η}
    (found : pool.handles[entry.handle]? = some handle) :
    final.handles[entry.handle]? = some (Handle.close handle).2 := by
  rw [parted.handle?_eq, found, Option.map_some,
    if_pos (List.mem_map_of_mem isGone)]

/-- The handle of an entry that stays is as it was. -/
theorem Parted.handle?_eq_of_notMem
    (parted : Parted now pool gone final)
    (coherent : pool.Coherent)
    (present : entry ∈ pool.entries)
    (stays : entry ∉ gone) :
    final.handles[entry.handle]? = pool.handles[entry.handle]? := by
  simp [parted.handle?_eq,
    coherent.toKeyed.handle_notMem_map parted.present present stays]

/-- Entries that are live at some later moment are the same as
before, in the same order. -/
theorem Reaped.liveEntries_eq
    (reaped : Reaped now pool gone final)
    {later : Instant}
    (inOrder : now ≤ later) :
    final.liveEntries later = pool.liveEntries later := by
  rw [liveEntries, liveEntries, reaped.evolves.config_eq,
    reaped.entries_eq, Entry.live, Entry.live, List.filter_filter]
  refine List.filter_congr fun entry _ => ?_
  by_cases isGone : entry ∈ gone
  · have expired := isExpired_mono inOrder (reaped.expired entry isGone)
    change (!pool.isExpired later entry && _) = !pool.isExpired later entry
    rw [expired]
    rfl
  · simp [isGone]

/-- A live entry keeps its handle as it is. -/
theorem Reaped.handle?_eq_of_live
    (reaped : Reaped now pool gone final)
    (coherent : pool.Coherent)
    (isLive : entry ∈ pool.liveEntries now) :
    final.handles[entry.handle]? = pool.handles[entry.handle]? := by
  obtain ⟨present, notExpired⟩ := mem_liveEntries.mp isLive
  refine reaped.handle?_eq_of_notMem coherent present fun isGone => ?_
  exact Bool.false_ne_true (notExpired.symm.trans (reaped.expired entry isGone))

end Stays

end Pool
end HandlePool
