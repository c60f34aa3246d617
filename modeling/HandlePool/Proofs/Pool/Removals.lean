import HandlePool.Proofs.Pool.LiveEntries

/-!
# Which entries leave a pool, and why

While a call is made, entries leave the pool one after another.  `Pool.Sheds`
lists the removals, each with its moment, the entries that were held at that
moment, and the cause that the guard was told; and it demands that the cause is
the right one.  `Pool.Course` says what a call does from beginning to end, with
every removal in its place.
-/

namespace HandlePool

/-- An entry that left a pool. -/
structure Removal where
  moment : Instant
  /-- The entries that were held just before, least recently used first. -/
  held : List Entry
  entry : Entry
  cause : RemovalCause

namespace Removal

/-- What the guard was told. -/
def report (removal : Removal) : String × RemovalCause :=
  (removal.entry.key, removal.cause)

/-- The cause is the right one, if the call asks for the removal of some keys:
expired says that the entry was idle for the idle time, and nothing else does;
for the size of the pool the least recently used entry goes, when there are too
many; what was not asked for is not invalidated; and nothing is replaced. -/
structure IsTruthful
    (config : PoolConfig)
    (asked : String → Prop)
    (removal : Removal) : Prop where
  wasHeld : removal.entry ∈ removal.held
  expired_iff : removal.cause = .expired ↔
    removal.entry.isExpired config.idle removal.moment = true
  sizeEvicted : removal.cause = .sizeEvicted →
    removal.held.head? = some removal.entry ∧
      config.maxSize.toNat < removal.held.length
  invalidated : removal.cause = .invalidated → asked removal.entry.key
  notReplaced : removal.cause ≠ .replaced

end Removal

/-- What the guard was told when it noted the event. -/
def PoolEvent.report? : PoolEvent → Option (String × RemovalCause)
  | .leftOpen key => some (key, .replaced)
  | .closed key cause | .closeFailed key cause _ => some (key, cause)
  | .departed .. | .invalidated _ | .invalidatedAll _ => none

/-- The event leaves a handle open. -/
def PoolEvent.LeavesOpen : PoolEvent → Prop
  | .leftOpen _ | .departed _ .retained => True
  | _ => False

namespace Pool

variable {η : Type}

/-- Every entry has a handle that was opened for the pool. -/
def Opened (pool : Pool η) : Prop :=
  ∀ entry ∈ pool.entries, entry.handle < pool.handles.length

/-- What the guard of the pool was told, in order. -/
def reports (pool : Pool η) : List (String × RemovalCause) :=
  pool.journal.filterMap PoolEvent.report?

theorem truthful_expired
    {pool : Pool η}
    {asked : String → Prop}
    {now : Instant}
    {entry : Entry}
    (present : entry ∈ pool.entries)
    (expired : pool.isExpired now entry = true) :
    Removal.IsTruthful pool.config asked
      ⟨now, pool.entries, entry, .expired⟩ where
  wasHeld := present
  expired_iff := iff_of_true rfl expired
  sizeEvicted := nofun
  invalidated := nofun
  notReplaced := nofun

theorem truthful_invalidated
    {pool : Pool η}
    {asked : String → Prop}
    {now : Instant}
    {entry : Entry}
    (present : entry ∈ pool.entries)
    (live : pool.isExpired now entry = false)
    (isAsked : asked entry.key) :
    Removal.IsTruthful pool.config asked
      ⟨now, pool.entries, entry, .invalidated⟩ where
  wasHeld := present
  expired_iff := iff_of_false nofun (Bool.eq_false_iff.mp live)
  sizeEvicted := nofun
  invalidated _ := isAsked
  notReplaced := nofun

/-- An entry may be removed on request, expired or not. -/
theorem truthful_causeAt
    {pool : Pool η}
    {asked : String → Prop}
    {entry : Entry}
    (now : Instant)
    (present : entry ∈ pool.entries)
    (isAsked : asked entry.key) :
    Removal.IsTruthful pool.config asked
      ⟨now, pool.entries, entry, pool.causeAt now entry .invalidated⟩ := by
  by_cases expired : pool.isExpired now entry = true
  · rw [causeAt, if_pos expired]
    exact truthful_expired present expired
  · rw [causeAt, if_neg expired]
    exact truthful_invalidated present (Bool.eq_false_iff.mpr expired) isAsked

theorem truthful_front
    {pool : Pool η}
    {asked : String → Prop}
    {now : Instant}
    {entry : Entry}
    {later : List Entry}
    (split : pool.entries = entry :: later)
    (live : pool.isExpired now entry = false)
    (tooMany : pool.config.maxSize.toNat < pool.entries.length) :
    Removal.IsTruthful pool.config asked
      ⟨now, pool.entries, entry, .sizeEvicted⟩ where
  wasHeld := by simp [split]
  expired_iff := iff_of_false nofun (Bool.eq_false_iff.mp live)
  sizeEvicted _ := ⟨by rw [split, List.head?_cons], tooMany⟩
  invalidated := nofun
  notReplaced := nofun

theorem warrants_of_truthful
    {pool : Pool η}
    {asked : String → Prop}
    {now : Instant}
    {entry : Entry}
    {cause : RemovalCause}
    (truthful : Removal.IsTruthful pool.config asked
      ⟨now, pool.entries, entry, cause⟩) :
    pool.Warrants now entry cause := by
  obtain ⟨-, expired_iff, sizeEvicted, -, notReplaced⟩ := truthful
  cases cause with
  | invalidated => exact Bool.eq_false_iff.mpr fun expired =>
      nomatch expired_iff.mpr expired
  | sizeEvicted => exact sizeEvicted rfl
  | expired => exact expired_iff.mp rfl
  | replaced => exact notReplaced rfl

variable [Handle η]

/-! ## Removals of a pool -/

/-- The removals are what leaves the first pool until the second one is left,
and nothing but notes and what was put off changes besides. -/
inductive Sheds (asked : String → Prop) (now : Instant) :
    Pool η → List Removal → Pool η → Prop
  | done (pool : Pool η) : Sheds asked now pool [] pool
  | remove {pool final : Pool η} {removals : List Removal} (entry : Entry)
      (cause : RemovalCause) :
      Removal.IsTruthful pool.config asked ⟨now, pool.entries, entry, cause⟩ →
      Sheds asked now (pool.remove entry cause) removals final →
      Sheds asked now pool (⟨now, pool.entries, entry, cause⟩ :: removals) final
  | note {pool final : Pool η} {removals : List Removal} (event : PoolEvent) :
      event.report? = none → ¬event.LeavesOpen →
      Sheds asked now (pool.note event) removals final →
      Sheds asked now pool removals final
  | putOff {pool final : Pool η} {removals : List Removal} (upkeep : Upkeep) :
      Sheds asked now { pool with upkeep := upkeep } removals final →
      Sheds asked now pool removals final

namespace Sheds

variable
  {asked : String → Prop}
  {now : Instant}
  {pool middle final : Pool η}
  {removals more : List Removal}

theorem trans
    (first : Sheds asked now pool removals middle)
    (second : Sheds asked now middle more final) :
    Sheds asked now pool (removals ++ more) final := by
  induction first with
  | done pool => exact second
  | remove entry cause truthful _ inductionHypothesis =>
      exact .remove entry cause truthful (inductionHypothesis second)
  | note event unreported closes _ inductionHypothesis =>
      exact .note event unreported closes (inductionHypothesis second)
  | putOff upkeep _ inductionHypothesis =>
      exact .putOff upkeep (inductionHypothesis second)

theorem evolves
    (sheds : Sheds asked now pool removals final) :
    Evolves now pool final := by
  induction sheds with
  | done pool => exact .done pool
  | remove entry cause truthful _ inductionHypothesis =>
      exact .remove entry cause truthful.wasHeld (warrants_of_truthful truthful)
        inductionHypothesis
  | note event _ _ _ inductionHypothesis =>
      exact .note event inductionHypothesis
  | putOff upkeep _ inductionHypothesis =>
      exact .putOff upkeep inductionHypothesis

theorem isTruthful
    (sheds : Sheds asked now pool removals final)
    {removal : Removal}
    (removed : removal ∈ removals) :
    removal.IsTruthful pool.config asked ∧ removal.moment = now := by
  induction sheds with
  | done pool => cases removed
  | remove entry cause truthful _ inductionHypothesis =>
      obtain rfl | later := List.mem_cons.mp removed
      · exact ⟨truthful, rfl⟩
      · simpa using inductionHypothesis later
  | note _ _ _ _ inductionHypothesis => exact inductionHypothesis removed
  | putOff _ _ inductionHypothesis => exact inductionHypothesis removed

/-- What is held when an entry leaves, and in the end, was held from the
beginning, in the same order. -/
theorem held_sublist
    (sheds : Sheds asked now pool removals final) :
    (∀ removal ∈ removals, removal.held.Sublist pool.entries) ∧
      final.entries.Sublist pool.entries := by
  induction sheds with
  | done pool => exact ⟨nofun, .refl _⟩
  | @remove pool final removals entry cause truthful _ inductionHypothesis =>
      have fewer : (pool.remove entry cause).entries.Sublist pool.entries := by
        rw [entries_remove]
        exact List.filter_sublist
      obtain ⟨heldLater, left⟩ := inductionHypothesis
      refine ⟨?_, left.trans fewer⟩
      rintro removal (_ | ⟨_, later⟩)
      · exact .refl _
      · exact (heldLater removal later).trans fewer
  | note _ _ _ _ inductionHypothesis => exact inductionHypothesis
  | putOff _ _ inductionHypothesis => exact inductionHypothesis

end Sheds

/-! ## What the guard is told and counts -/

theorem Opened.remove
    {pool : Pool η}
    (opened : pool.Opened)
    (entry : Entry)
    (cause : RemovalCause) :
    (pool.remove entry cause).Opened := by
  intro other present
  rw [entries_remove, mem_others] at present
  simpa [Pool.remove] using opened other present.1

/-- The guard notes why a handle goes, and closes it. -/
theorem event_release
    {cause : RemovalCause}
    (notReplaced : cause ≠ .replaced)
    (policy : ReplacePolicy)
    (counters : Counters)
    (key : String)
    (handle : η) :
    let released := release policy counters key cause handle
    released.event.report? = some (key, cause) ∧ ¬released.event.LeavesOpen ∧
      ¬(PoolEvent.departed key released.outcome).LeavesOpen := by
  have closes : ¬(cause = .replaced ∧ policy = .retain) :=
    fun retained => notReplaced retained.1
  unfold release
  rw [if_neg closes]
  split <;> exact ⟨rfl, id, id⟩

/-- The guard is told of a removal once, and leaves no handle open. -/
theorem reports_remove
    {pool : Pool η}
    {entry : Entry}
    {cause : RemovalCause}
    (opened : entry.handle < pool.handles.length)
    (notReplaced : cause ≠ .replaced) :
    (pool.remove entry cause).reports = pool.reports ++ [(entry.key, cause)] ∧
      ∀ event ∈ (pool.remove entry cause).journal,
        event ∈ pool.journal ∨ ¬event.LeavesOpen := by
  have found := List.getElem?_eq_getElem opened
  obtain ⟨told, closed, departed⟩ :=
    event_release notReplaced pool.config.policy
    pool.counters entry.key pool.handles[entry.handle]
  simp only [reports, remove, dismiss, found]
  constructor
  · rw [List.filterMap_append, List.filterMap_cons_some told]
    rfl
  · intro event noted
    rw [List.mem_append, List.mem_cons, List.mem_singleton] at noted
    obtain before | rfl | rfl := noted
    · exact .inl before
    · exact .inr closed
    · exact .inr departed

/-- The counters agree on lookups, openings and replacements. -/
structure AgreeOnCalls (left right : Counters) : Prop where
  hits_eq : right.hits = left.hits
  misses_eq : right.misses = left.misses
  opens_eq : right.opens = left.opens
  openFailures_eq : right.openFailures = left.openFailures
  replaced_eq : right.replaced = left.replaced

theorem AgreeOnCalls.trans
    {left middle right : Counters}
    (first : AgreeOnCalls left middle)
    (second : AgreeOnCalls middle right) :
    AgreeOnCalls left right where
  hits_eq := second.hits_eq.trans first.hits_eq
  misses_eq := second.misses_eq.trans first.misses_eq
  opens_eq := second.opens_eq.trans first.opens_eq
  openFailures_eq := second.openFailures_eq.trans first.openFailures_eq
  replaced_eq := second.replaced_eq.trans first.replaced_eq

theorem agreeOnCalls_release
    {cause : RemovalCause}
    (notReplaced : cause ≠ .replaced)
    (policy : ReplacePolicy)
    (counters : Counters)
    (key : String)
    (handle : η) :
    AgreeOnCalls counters
      (release policy counters key cause handle).counters := by
  unfold release
  cases cause with
  | replaced => exact absurd rfl notReplaced
  | invalidated | sizeEvicted | expired =>
      rw [if_neg nofun]
      split <;> exact ⟨rfl, rfl, rfl, rfl, rfl⟩

theorem agreeOnCalls_remove
    {cause : RemovalCause}
    (notReplaced : cause ≠ .replaced)
    (pool : Pool η)
    (entry : Entry) :
    AgreeOnCalls pool.counters (pool.remove entry cause).counters := by
  unfold remove dismiss
  split
  · exact ⟨rfl, rfl, rfl, rfl, rfl⟩
  · exact agreeOnCalls_release notReplaced ..

namespace Sheds

variable
  {asked : String → Prop}
  {now : Instant}
  {pool final : Pool η}
  {removals : List Removal}

theorem agreeOnCalls
    (sheds : Sheds asked now pool removals final) :
    AgreeOnCalls pool.counters final.counters := by
  induction sheds with
  | done pool => exact ⟨rfl, rfl, rfl, rfl, rfl⟩
  | remove entry cause truthful _ inductionHypothesis =>
      exact (agreeOnCalls_remove truthful.notReplaced ..).trans
        inductionHypothesis
  | note _ _ _ _ inductionHypothesis => exact inductionHypothesis
  | putOff _ _ inductionHypothesis => exact inductionHypothesis

theorem opened
    (sheds : Sheds asked now pool removals final)
    (opened : pool.Opened) :
    final.Opened := by
  intro entry present
  rw [sheds.evolves.length_handles_eq]
  exact opened entry (sheds.held_sublist.2.subset present)

/-- The guard is told of every removal, and leaves nothing open. -/
theorem reports_eq
    (sheds : Sheds asked now pool removals final)
    (opened : pool.Opened) :
    final.reports = pool.reports ++ removals.map Removal.report ∧
      ∀ event ∈ final.journal, event ∈ pool.journal ∨ ¬event.LeavesOpen := by
  induction sheds with
  | done pool => exact ⟨by simp, fun event noted => .inl noted⟩
  | @remove pool final removals entry cause truthful _ inductionHypothesis =>
      obtain ⟨first, closes⟩ :=
        reports_remove (opened entry truthful.wasHeld) truthful.notReplaced
      obtain ⟨reports, closesLater⟩ :=
        inductionHypothesis (opened.remove entry cause)
      constructor
      · rw [reports, first, List.append_assoc]
        rfl
      · intro event noted
        exact (closesLater event noted).elim (closes event) .inr
  | @note pool final removals event unreported closes _ inductionHypothesis =>
      obtain ⟨reports, closesLater⟩ := inductionHypothesis opened
      constructor
      · simpa [Pool.reports, Pool.note, unreported] using reports
      · intro other noted
        obtain before | same :=
          (closesLater other noted).imp_left List.mem_append.mp
        · obtain before | rfl := before.imp_right List.mem_singleton.mp
          · exact .inl before
          · exact .inr closes
        · exact .inr same
  | putOff _ _ inductionHypothesis => exact inductionHypothesis opened

end Sheds

/-! ## What each call removes -/

section Calls

variable (asked : String → Prop) (now : Instant) {pool : Pool η}

theorem sheds_removeAll_expired
    {entries : List Entry}
    (present : ∀ entry ∈ entries, entry ∈ pool.entries)
    (differ : (entries.map Entry.key).Nodup)
    (expired : ∀ entry ∈ entries, pool.isExpired now entry = true) :
    ∃ removals, Sheds asked now pool removals
      (pool.removeAll entries .expired) := by
  induction entries generalizing pool with
  | nil => exact ⟨[], .done pool⟩
  | cons entry entries inductionHypothesis =>
      obtain ⟨fresh, laterDiffer⟩ := List.nodup_cons.mp differ
      have stillPresent : ∀ later ∈ entries,
          later ∈ (pool.remove entry .expired).entries := by
        intro later laterPresent
        rw [entries_remove, mem_others]
        refine ⟨present later (List.mem_cons_of_mem _ laterPresent), ?_⟩
        intro same
        exact fresh (List.mem_map.mpr ⟨later, laterPresent, same⟩)
      have stillExpired : ∀ later ∈ entries,
          (pool.remove entry .expired).isExpired now later = true := by
        intro later laterPresent
        rw [isExpired_remove]
        exact expired later (List.mem_cons_of_mem _ laterPresent)
      obtain ⟨removals, sheds⟩ :=
        inductionHypothesis stillPresent laterDiffer stillExpired
      exact ⟨_, .remove entry .expired
        (truthful_expired (present entry List.mem_cons_self)
        (expired entry List.mem_cons_self)) sheds⟩

/-- Entries go from the front as long as there are too many,
if none is expired. -/
theorem sheds_removeAll_front
    (differ : pool.KeysDiffer)
    (live : ∀ entry ∈ pool.entries, pool.isExpired now entry = false)
    {surplus : Nat}
    (tooMany : pool.config.maxSize.toNat + surplus ≤ pool.entries.length) :
    ∃ removals, Sheds asked now pool removals
      (pool.removeAll (pool.entries.take surplus) .sizeEvicted) := by
  induction surplus generalizing pool with
  | zero => exact ⟨[], .done pool⟩
  | succ surplus inductionHypothesis =>
      cases split : pool.entries with
      | nil =>
          rw [split, List.length_nil] at tooMany
          omega
      | cons entry later =>
          have front : (pool.remove entry .sizeEvicted).entries = later := by
            rw [entries_remove, differ.others_head split]
          have stillLive : ∀ other ∈ (pool.remove entry .sizeEvicted).entries,
              (pool.remove entry .sizeEvicted).isExpired now other = false := by
            intro other present
            rw [front] at present
            rw [isExpired_remove]
            exact live other (by simp [split, present])
          have stillTooMany :
              (pool.remove entry .sizeEvicted).config.maxSize.toNat + surplus ≤
                (pool.remove entry .sizeEvicted).entries.length := by
            rw [front, config_remove]
            rw [split, List.length_cons] at tooMany
            omega
          have truthful : Removal.IsTruthful pool.config asked
              ⟨now, pool.entries, entry, .sizeEvicted⟩ :=
            truthful_front split (live entry (by simp [split])) (by omega)
          obtain ⟨removals, sheds⟩ :=
            inductionHypothesis (differ.remove entry _) stillLive stillTooMany
          rw [front] at sheds
          exact ⟨_, .remove entry .sizeEvicted truthful sheds⟩

theorem sheds_expire
    (differ : pool.KeysDiffer)
    (limit : Nat) :
    ∃ removals, Sheds asked now pool removals (pool.expire now limit) := by
  have taken : ∀ entry ∈ (pool.expiredEntries now).take limit,
      entry ∈ pool.entries ∧ pool.isExpired now entry = true :=
    fun entry present =>
      expiredEntries_subset pool now (List.mem_of_mem_take present)
  have sublist : ((pool.expiredEntries now).take limit).Sublist pool.entries :=
    (List.take_sublist _ _).trans List.filter_sublist
  exact sheds_removeAll_expired asked now
    (fun entry present => (taken entry present).1)
    (differ.sublist (sublist.map Entry.key)) fun entry present =>
      (taken entry present).2

theorem sheds_evict
    (differ : pool.KeysDiffer)
    (live : ∀ entry ∈ pool.entries, pool.isExpired now entry = false) :
    ∃ removals, Sheds asked now pool removals pool.evict := by
  by_cases tooMany : pool.config.maxSize.toNat ≤ pool.entries.length
  · exact sheds_removeAll_front asked now differ live (by omega)
  · have inBounds : pool.InBounds := by
      rw [InBounds]
      omega
    rw [evict_eq_self inBounds]
    exact ⟨[], .done pool⟩

/-- What is expired goes first; so nothing that goes for the size is expired. -/
theorem sheds_settle
    (differ : pool.KeysDiffer) :
    ∃ removals, Sheds asked now pool removals (pool.settle now) := by
  obtain ⟨expired, expires⟩ := sheds_expire asked now differ pool.entries.length
  have live : ∀ entry ∈ (pool.expire now pool.entries.length).entries,
      (pool.expire now pool.entries.length).isExpired now entry = false := by
    intro entry present
    rw [entries_expire_of_le differ now (Nat.le_refl _), mem_liveEntries]
      at present
    simpa [isExpired] using present.2
  obtain ⟨evicted, evicts⟩ :=
    sheds_evict asked now (expires.evolves.keysDiffer differ) live
  exact ⟨_, (expires.trans evicts).trans (.putOff (.startingAt now) (.done _))⟩

theorem sheds_settleWithin
    (differ : pool.KeysDiffer)
    (inBounds : pool.InBounds)
    (limit : Nat) :
    ∃ removals, Sheds asked now pool removals
      (pool.settleWithin now limit) := by
  obtain ⟨expired, expires⟩ := sheds_expire asked now differ limit
  rw [settleWithin, evict_eq_self (inBounds.expire now limit)]
  exact ⟨_, expires.trans (.putOff (.startingAt now) (.done _))⟩

theorem sheds_tend
    (differ : pool.KeysDiffer)
    (inBounds : pool.InBounds)
    (occasion : Occasion)
    (limit : Nat) :
    ∃ removals, Sheds asked now pool removals
      (pool.tend now occasion limit) := by
  unfold tend
  split
  · obtain ⟨removals, sheds⟩ :=
      sheds_settleWithin asked now differ inBounds limit
    exact ⟨_, sheds.trans (.putOff _ (.done _))⟩
  · exact ⟨[], .putOff _ (.done _)⟩

theorem sheds_drop
    (differ : pool.KeysDiffer)
    (inBounds : pool.InBounds)
    {key : String}
    (isAsked : asked key) :
    ∃ removals, Sheds asked now pool removals (pool.drop now key) := by
  unfold drop
  split
  · exact ⟨[], .done pool⟩
  · next entry found =>
    obtain ⟨present, rfl⟩ := differ.entryOf?_eq_some_iff.mp found
    obtain ⟨removals, sheds⟩ := sheds_tend asked now
      (differ.remove entry (pool.causeAt now entry .invalidated))
      (inBounds.remove entry _) .removal (pool.reachBeside now entry)
    exact ⟨_, .remove entry _ (truthful_causeAt now present isAsked) sheds⟩

theorem sheds_dropKeys
    (differ : pool.KeysDiffer)
    (inBounds : pool.InBounds)
    {keys : List String}
    (areAsked : ∀ key ∈ keys, asked key) :
    ∃ removals, Sheds asked now pool removals (pool.dropKeys now keys) := by
  induction keys generalizing pool with
  | nil => exact ⟨[], .done pool⟩
  | cons key keys inductionHypothesis =>
      obtain ⟨first, drops⟩ := sheds_drop asked now differ inBounds
        (areAsked key List.mem_cons_self)
      obtain ⟨rest, dropsMore⟩ :=
        inductionHypothesis (drops.evolves.keysDiffer differ)
        (inBounds.drop differ now key)
        fun other present => areAsked other (List.mem_cons_of_mem _ present)
      exact ⟨_, drops.trans dropsMore⟩

theorem sheds_invalidateAll
    (differ : pool.KeysDiffer)
    (inBounds : pool.InBounds)
    (areAsked : ∀ key, asked key) :
    ∃ removals, Sheds asked now pool removals (pool.invalidateAll now) := by
  have liveAsked : ∀ key ∈ pool.liveKeys now, asked key :=
    fun key _ => areAsked key
  obtain ⟨dropped, drops⟩ := sheds_dropKeys asked now differ inBounds liveAsked
  obtain ⟨settled, settles⟩ :=
    sheds_settle asked now (drops.evolves.keysDiffer differ)
  exact ⟨_, (drops.trans settles).trans (.note _ rfl id (.done _))⟩

/-- What a new entry displaces is expired, and goes first. -/
theorem sheds_insert
    (differ : pool.KeysDiffer)
    (holdsSome : pool.config.maxSize ≠ 0)
    {key : String}
    (missing : pool.live? now key = none)
    (number : Nat) :
    ∃ removals cleared, Sheds asked now pool removals cleared ∧
      cleared.entries = pool.others key ∧ pool.insert now key number =
        { cleared with entries :=
          cleared.entries ++ [⟨key, number, now⟩] } := by
  rw [insert, if_neg holdsSome]
  cases displaced : pool.entryOf? key with
  | none =>
      exact ⟨[], pool, .done pool,
        (others_eq_self (entryOf?_eq_none_iff.mp displaced)).symm, rfl⟩
  | some entry =>
      obtain ⟨present, rfl⟩ := differ.entryOf?_eq_some_iff.mp displaced
      have expired := differ.live?_eq_none_iff.mp missing entry present rfl
      have cause : pool.causeAt now entry .replaced = .expired := by
        rw [causeAt, if_pos expired]
      have truthful : Removal.IsTruthful pool.config asked
          ⟨now, pool.entries, entry, .expired⟩ :=
            truthful_expired present expired
      exact ⟨_, pool.remove entry .expired,
        .remove entry .expired truthful (.done _),
        entries_remove .., by simp only [cause]⟩

end Calls

end Pool
end HandlePool
