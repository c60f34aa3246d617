import HandlePool.Proofs.Pool.Session

/-!
# What each call leaves of the live entries

What was put off shows only in entries that are expired.  The live entries of a
pool that does not hold too many change in four ways: an entry goes to the end
when it is used, a new one is added there, the entry of a key goes on request,
and the first one goes when there is one too many.
-/

namespace HandlePool

namespace Entry

/-- The entries of all other keys. -/
def without (key : String) (entries : List Entry) : List Entry :=
  entries.filter fun entry => entry.key != key

/-- The entries that are not expired. -/
def live (idle : Duration) (now : Instant)
    (entries : List Entry) : List Entry :=
  entries.filter fun entry => !entry.isExpired idle now

theorem live_append
    (idle : Duration)
    (now : Instant)
    (front back : List Entry) :
    live idle now (front ++ back) = live idle now front ++ live idle now back :=
  List.filter_append ..

theorem live_without
    (idle : Duration)
    (now : Instant)
    (key : String)
    (entries : List Entry) :
    live idle now (without key entries) =
      without key (live idle now entries) := by
  simp only [live, without, List.filter_filter]
  exact List.filter_congr fun entry _ => Bool.and_comm _ _

/-- Later, only entries that were live before can be live. -/
theorem live_live
    (idle : Duration)
    {earlier later : Instant}
    (inOrder : earlier ≤ later)
    (entries : List Entry) :
    live idle later (live idle earlier entries) = live idle later entries := by
  rw [live, live, List.filter_filter]
  refine List.filter_congr fun entry _ => ?_
  by_cases before : entry.lastUse + idle.totalNanos ≤ earlier
  · have after : entry.lastUse + idle.totalNanos ≤ later :=
      Nat.le_trans before inOrder
    simp [isExpired, before, after]
  · simp [isExpired, before]

end Entry

namespace Pool

variable {η σ : Type}

/-- The entries that are not expired, least recently used first. -/
def liveEntries (pool : Pool η) (now : Instant) : List Entry :=
  Entry.live pool.config.idle now pool.entries

/-- The pool holds no more than it may. -/
def InBounds (pool : Pool η) : Prop :=
  pool.entries.length ≤ pool.config.maxSize.toNat

theorem mem_liveEntries
    {pool : Pool η}
    {now : Instant}
    {entry : Entry} :
    entry ∈ pool.liveEntries now ↔
      entry ∈ pool.entries ∧ pool.isExpired now entry = false := by
  rw [liveEntries, Entry.live, List.mem_filter, Bool.not_eq_true']
  rfl

theorem length_liveEntries_le
    (pool : Pool η)
    (now : Instant) :
    (pool.liveEntries now).length ≤ pool.entries.length :=
  List.length_filter_le _ _

theorem liveEntries_of_le
    (pool : Pool η)
    {earlier later : Instant}
    (inOrder : earlier ≤ later) :
    pool.liveEntries later =
      Entry.live pool.config.idle later (pool.liveEntries earlier) :=
  (Entry.live_live _ inOrder _).symm

/-- The live entry of a key is the first live entry with that key. -/
theorem KeysDiffer.live?_eq_find?
    {pool : Pool η}
    (differ : pool.KeysDiffer)
    (now : Instant)
    (key : String) :
    pool.live? now key = (pool.liveEntries now).find? fun entry =>
      entry.key == key := by
  ext entry
  have liveDiffer : KeysDiffer { pool with entries := pool.liveEntries now } :=
    differ.sublist (List.filter_sublist.map Entry.key)
  have found : (pool.liveEntries now).find? (fun entry => entry.key == key) =
      some entry ↔ entry ∈ pool.liveEntries now ∧ entry.key = key :=
    liveDiffer.entryOf?_eq_some_iff
  rw [found, differ.live?_eq_some_iff, mem_liveEntries]
  constructor
  · rintro ⟨present, keyed, live⟩
    exact ⟨⟨present, live⟩, keyed⟩
  · rintro ⟨⟨present, live⟩, keyed⟩
    exact ⟨present, keyed, live⟩

theorem liveEntries_touch
    (pool : Pool η)
    (now : Instant)
    (entry : Entry) :
    (pool.touch now entry).liveEntries now = Entry.live pool.config.idle now
      (Entry.without entry.key (pool.liveEntries now) ++
        [{ entry with lastUse := now }]) := by
  have touched : (pool.touch now entry).liveEntries now =
      Entry.live pool.config.idle now
      (Entry.without entry.key pool.entries ++
        [{ entry with lastUse := now }]) := rfl
  rw [touched, Entry.live_append, Entry.live_append, Entry.live_without,
    Entry.live_without, liveEntries, Entry.live_live _ (Nat.le_refl now)]

theorem InBounds.touch
    {pool : Pool η}
    (inBounds : pool.InBounds)
    (now : Instant)
    {entry : Entry}
    (present : entry ∈ pool.entries) :
    (pool.touch now entry).InBounds := by
  have fewer : (pool.others entry.key).length < pool.entries.length := by
    refine List.length_filter_lt_length_iff_exists.mpr ⟨entry, present, ?_⟩
    simp
  have bound : pool.entries.length ≤ pool.config.maxSize.toNat := inBounds
  simp only [InBounds, Pool.touch, List.length_append, List.length_singleton]
  omega

variable [Handle η]

/-! ## Removing -/

theorem entries_removeAll
    (pool : Pool η)
    (entries : List Entry)
    (cause : RemovalCause) :
    (pool.removeAll entries cause).entries =
      pool.entries.filter fun entry => entry.key ∉ entries.map Entry.key := by
  induction entries generalizing pool with
  | nil => simp [removeAll]
  | cons entry entries inductionHypothesis =>
      have step : pool.removeAll (entry :: entries) cause =
          (pool.remove entry cause).removeAll entries cause := rfl
      rw [step, inductionHypothesis, entries_remove, others, List.filter_filter]
      refine List.filter_congr fun other _ => ?_
      by_cases same : other.key = entry.key <;> simp [same]

theorem liveEntries_remove
    (pool : Pool η)
    (now : Instant)
    (entry : Entry)
    (cause : RemovalCause) :
    (pool.remove entry cause).liveEntries now =
      Entry.without entry.key (pool.liveEntries now) := by
  rw [liveEntries, entries_remove, config_remove]
  exact Entry.live_without ..

theorem InBounds.remove
    {pool : Pool η}
    (inBounds : pool.InBounds)
    (entry : Entry)
    (cause : RemovalCause) :
    (pool.remove entry cause).InBounds := by
  rw [InBounds, entries_remove, config_remove]
  exact Nat.le_trans (List.length_filter_le _ _) inBounds

/-! ## Putting in order -/

@[simp] theorem config_expire
    (pool : Pool η)
    (now : Instant)
    (limit : Nat) :
    (pool.expire now limit).config = pool.config :=
  config_removeAll pool _ _

@[simp] theorem config_evict
    (pool : Pool η) :
    pool.evict.config = pool.config :=
  config_removeAll pool _ _

/-- Some of the expired entries go, and nothing else. -/
theorem liveEntries_expire
    {pool : Pool η}
    (differ : pool.KeysDiffer)
    (now : Instant)
    (limit : Nat) :
    (pool.expire now limit).liveEntries now = pool.liveEntries now := by
  rw [liveEntries, config_expire, expire, entries_removeAll, Entry.live,
    List.filter_filter]
  refine List.filter_congr fun entry present => ?_
  have isLive : entry.isExpired pool.config.idle now =
      pool.isExpired now entry := rfl
  rw [isLive]
  cases expired : pool.isExpired now entry with
  | true => rfl
  | false =>
      rw [Bool.not_false, Bool.true_and, decide_eq_true_eq]
      intro taken
      obtain ⟨other, otherTaken, sameKey⟩ := List.mem_map.mp taken
      obtain ⟨otherPresent, otherExpired⟩ :=
        expiredEntries_subset pool now (List.mem_of_mem_take otherTaken)
      rw [differ.eq_of_key_eq otherPresent present sameKey] at otherExpired
      exact Bool.false_ne_true (expired.symm.trans otherExpired)

/-- When as many expired entries may go as there are entries,
only live ones stay. -/
theorem entries_expire_of_le
    {pool : Pool η}
    (differ : pool.KeysDiffer)
    (now : Instant)
    {limit : Nat}
    (enough : pool.entries.length ≤ limit) :
    (pool.expire now limit).entries = pool.liveEntries now := by
  rw [expire_of_le pool now enough, entries_removeAll]
  refine List.filter_congr fun entry present => ?_
  have goes : entry.key ∈ (pool.expiredEntries now).map Entry.key ↔
      pool.isExpired now entry = true := by
    rw [List.mem_map]
    constructor
    · rintro ⟨other, otherGoes, sameKey⟩
      obtain ⟨otherPresent, otherExpired⟩ :=
        expiredEntries_subset pool now otherGoes
      rwa [differ.eq_of_key_eq otherPresent present sameKey] at otherExpired
    · intro expired
      exact ⟨entry, List.mem_filter.mpr ⟨present, expired⟩, rfl⟩
  change decide (entry.key ∉ _) = !pool.isExpired now entry
  cases expired : pool.isExpired now entry <;> simp [goes, expired]

/-- As many of the first entries go as there are too many. -/
theorem entries_evict
    {pool : Pool η}
    (differ : pool.KeysDiffer) :
    pool.evict.entries =
      pool.entries.drop (pool.entries.length - pool.config.maxSize.toNat) := by
  rw [evict, entries_removeAll]
  generalize pool.entries.length - pool.config.maxSize.toNat = surplus
  have parts := List.take_append_drop surplus pool.entries
  have apart : ∀ entry ∈ pool.entries.drop surplus,
      entry.key ∉ (pool.entries.take surplus).map Entry.key := by
    intro entry stays taken
    have nodup := differ
    rw [KeysDiffer, ← parts, List.map_append, List.nodup_append] at nodup
    exact nodup.2.2 _ taken _ (List.mem_map_of_mem stays) rfl
  conv_lhs => rw [← parts, List.filter_append]
  rw [List.filter_eq_nil_iff.mpr, List.nil_append, List.filter_eq_self]
  · intro entry stays
    rw [parts]
    exact decide_eq_true (apart entry stays)
  · intro entry taken
    rw [parts]
    have listed : entry.key ∈ (pool.entries.take surplus).map Entry.key :=
      List.mem_map_of_mem taken
    simp only [listed, not_true, decide_false, Bool.false_eq_true,
      not_false_eq_true]

theorem evict_eq_self
    {pool : Pool η}
    (inBounds : pool.InBounds) :
    pool.evict = pool := by
  rw [evict, Nat.sub_eq_zero_of_le inBounds, List.take_zero]
  rfl

theorem InBounds.expire
    {pool : Pool η}
    (inBounds : pool.InBounds)
    (now : Instant)
    (limit : Nat) :
    (pool.expire now limit).InBounds := by
  rw [InBounds, Pool.expire, entries_removeAll, config_removeAll]
  exact Nat.le_trans (List.length_filter_le _ _) inBounds

theorem liveEntries_settleWithin
    {pool : Pool η}
    (differ : pool.KeysDiffer)
    (inBounds : pool.InBounds)
    (now : Instant)
    (limit : Nat) :
    (pool.settleWithin now limit).liveEntries now = pool.liveEntries now := by
  have expired := liveEntries_expire differ now limit
  rw [← expired, settleWithin, evict_eq_self (inBounds.expire now limit)]
  rfl

theorem inBounds_settleWithin
    {pool : Pool η}
    (differ : pool.KeysDiffer)
    (now : Instant)
    (limit : Nat) :
    (pool.settleWithin now limit).InBounds := by
  have expiredDiffer := (evolves_expire now differ limit).keysDiffer differ
  simp only [InBounds, settleWithin, entries_evict expiredDiffer,
    List.length_drop, config_evict]
  omega

/-- A pool that is put in order keeps its live entries, but for the first ones
when there are too many. -/
theorem entries_settle
    {pool : Pool η}
    (differ : pool.KeysDiffer)
    (now : Instant) :
    (pool.settle now).entries = (pool.liveEntries now).drop
      ((pool.liveEntries now).length - pool.config.maxSize.toNat) := by
  have expiredDiffer :=
    (evolves_expire now differ pool.entries.length).keysDiffer differ
  simp only [settle, settleWithin, entries_evict expiredDiffer,
    entries_expire_of_le differ now (Nat.le_refl _), config_expire]

theorem liveEntries_tend
    {pool : Pool η}
    (differ : pool.KeysDiffer)
    (inBounds : pool.InBounds)
    (now : Instant)
    (occasion : Occasion)
    (limit : Nat) :
    (pool.tend now occasion limit).liveEntries now = pool.liveEntries now := by
  unfold tend
  split
  · exact liveEntries_settleWithin differ inBounds now limit
  · rfl

theorem InBounds.tend
    {pool : Pool η}
    (inBounds : pool.InBounds)
    (differ : pool.KeysDiffer)
    (now : Instant)
    (occasion : Occasion)
    (limit : Nat) :
    (pool.tend now occasion limit).InBounds := by
  unfold Pool.tend
  split
  · exact inBounds_settleWithin differ now limit
  · exact inBounds

/-! ## Looking up -/

theorem lookup_of_none
    {pool : Pool η}
    {now : Instant}
    {key : String}
    (missing : pool.live? now key = none) :
    pool.lookup now key =
      (none, pool.tend now .lookup pool.entries.length) := by
  rw [lookup, missing]

theorem lookup_of_some
    {pool : Pool η}
    {now : Instant}
    {key : String}
    {entry : Entry}
    (found : pool.live? now key = some entry) :
    pool.lookup now key =
      (some entry.handle,
        (pool.touch now entry).tend now .lookup pool.entries.length) := by
  rw [lookup, found]

theorem InBounds.lookup
    {pool : Pool η}
    (inBounds : pool.InBounds)
    (differ : pool.KeysDiffer)
    (now : Instant)
    (key : String) :
    (pool.lookup now key).2.InBounds := by
  cases found : pool.live? now key with
  | none =>
      rw [lookup_of_none found]
      exact inBounds.tend differ now .lookup _
  | some entry =>
      rw [lookup_of_some found]
      have present := (differ.live?_eq_some_iff.mp found).1
      exact (inBounds.touch now present).tend
        (differ.touch now entry) now .lookup _

/-- Looking for a missing key in vain leaves all live entries. -/
theorem liveEntries_lookup_of_none
    {pool : Pool η}
    (differ : pool.KeysDiffer)
    (inBounds : pool.InBounds)
    {now : Instant}
    {key : String}
    (missing : pool.live? now key = none) :
    (pool.lookup now key).2.liveEntries now = pool.liveEntries now := by
  rw [lookup_of_none missing]
  exact liveEntries_tend differ inBounds now .lookup _

/-- A lookup uses what it finds. -/
theorem liveEntries_lookup_of_some
    {pool : Pool η}
    (differ : pool.KeysDiffer)
    (inBounds : pool.InBounds)
    {now : Instant}
    {key : String}
    {entry : Entry}
    (found : pool.live? now key = some entry) :
    (pool.lookup now key).2.liveEntries now =
      (pool.touch now entry).liveEntries now := by
  rw [lookup_of_some found]
  have present := (differ.live?_eq_some_iff.mp found).1
  exact liveEntries_tend (differ.touch now entry)
    (inBounds.touch now present) now .lookup _

theorem seek_of_none
    {pool : Pool η}
    {now : Instant}
    {key : String}
    (missing : pool.live? now key = none) :
    pool.seek now key =
      (none, (((pool.lookup now key).2.tend now .lookup
        (pool.lookup now key).2.entries.length).count .miss)) := by
  simp only [seek, lookup_of_none missing]

theorem seek_of_some
    {pool : Pool η}
    {now : Instant}
    {key : String}
    {entry : Entry}
    (found : pool.live? now key = some entry) :
    pool.seek now key =
      (some entry.handle, (pool.lookup now key).2.count .hit) := by
  simp only [seek, lookup_of_some found]

theorem InBounds.seek
    {pool : Pool η}
    (inBounds : pool.InBounds)
    (differ : pool.KeysDiffer)
    (now : Instant)
    (key : String) :
    (pool.seek now key).2.InBounds := by
  have looked := inBounds.lookup differ now key
  have lookedDiffer := (evolves_lookup now differ key).keysDiffer differ
  cases found : pool.live? now key with
  | none =>
      rw [seek_of_none found]
      exact looked.tend lookedDiffer now .lookup _
  | some entry =>
      rw [seek_of_some found]
      exact looked

/-- Seeking a missing key leaves all live entries. -/
theorem liveEntries_seek_of_none
    {pool : Pool η}
    (differ : pool.KeysDiffer)
    (inBounds : pool.InBounds)
    {now : Instant}
    {key : String}
    (missing : pool.live? now key = none) :
    (pool.seek now key).2.liveEntries now = pool.liveEntries now := by
  have lookedDiffer := (evolves_lookup now differ key).keysDiffer differ
  have tended :=
    liveEntries_tend lookedDiffer (inBounds.lookup differ now key) now .lookup
    (pool.lookup now key).2.entries.length
  rw [seek_of_none missing, ← liveEntries_lookup_of_none differ inBounds
    missing, ← tended]
  rfl

theorem liveEntries_seek_of_some
    {pool : Pool η}
    (differ : pool.KeysDiffer)
    (inBounds : pool.InBounds)
    {now : Instant}
    {key : String}
    {entry : Entry}
    (found : pool.live? now key = some entry) :
    (pool.seek now key).2.liveEntries now =
      (pool.touch now entry).liveEntries now := by
  rw [seek_of_some found, ← liveEntries_lookup_of_some differ inBounds found]
  rfl

theorem evolves_seek
    (now : Instant)
    {pool : Pool η}
    (differ : pool.KeysDiffer)
    (key : String) :
    Evolves now pool (pool.seek now key).2 := by
  cases sought : pool.seek now key with
  | mk result after =>
      cases result with
      | none => exact (seek_eq_none differ sought).2
      | some number => exact (seek_eq_some differ sought).2

/-- A request that finds a live entry opens nothing. -/
theorem getOrOpen_of_some
    {pool : Pool η}
    {time : CallTime}
    {key : String}
    {entry : Entry}
    (found : pool.live? time.starts key = some entry)
    (opener : σ → Except IoError η × σ)
    (world : σ) :
    pool.getOrOpen time key opener world =
      (⟨.ok entry.handle, false⟩, (pool.seek time.starts key).2, world) := by
  rw [getOrOpen, seek_of_some found]

theorem getOrOpen_of_none
    {pool : Pool η}
    {time : CallTime}
    {key : String}
    (missing : pool.live? time.starts key = none)
    (opener : σ → Except IoError η × σ)
    (world : σ) :
    pool.getOrOpen time key opener world =
      let opened :=
        (pool.seek time.starts key).2.openMissing time key opener world
      (⟨opened.1, true⟩, opened.2) := by
  rw [getOrOpen, seek_of_none missing]

/-! ## Removing keys -/

theorem InBounds.drop
    {pool : Pool η}
    (inBounds : pool.InBounds)
    (differ : pool.KeysDiffer)
    (now : Instant)
    (key : String) :
    (pool.drop now key).InBounds := by
  unfold Pool.drop
  split
  · exact inBounds
  · next entry found =>
    exact (inBounds.remove entry _).tend (differ.remove entry _) now .removal _

/-- Removing a key removes its live entry, if there is one. -/
theorem liveEntries_drop
    {pool : Pool η}
    (differ : pool.KeysDiffer)
    (inBounds : pool.InBounds)
    (now : Instant)
    (key : String) :
    (pool.drop now key).liveEntries now =
      Entry.without key (pool.liveEntries now) := by
  unfold Pool.drop
  split
  · next missing =>
    symm
    rw [Entry.without, List.filter_eq_self]
    intro entry live
    have absent :=
      entryOf?_eq_none_iff.mp missing entry (mem_liveEntries.mp live).1
    exact bne_iff_ne.mpr absent
  · next entry found =>
    have keyed := (differ.entryOf?_eq_some_iff.mp found).2
    have tended := liveEntries_tend (differ.remove entry
      (pool.causeAt now entry .invalidated))
        (inBounds.remove entry _) now .removal
      (pool.reachBeside now entry)
    rw [tended, liveEntries_remove, keyed]

theorem liveEntries_dropKeys
    {pool : Pool η}
    (differ : pool.KeysDiffer)
    (inBounds : pool.InBounds)
    (now : Instant)
    (keys : List String) :
    (pool.dropKeys now keys).liveEntries now =
      (pool.liveEntries now).filter fun entry => entry.key ∉ keys := by
  induction keys generalizing pool with
  | nil => simp [dropKeys]
  | cons key keys inductionHypothesis =>
      have droppedDiffer := (evolves_drop now differ key).keysDiffer differ
      have step : pool.dropKeys now (key :: keys) =
          (pool.drop now key).dropKeys now keys :=
        rfl
      rw [step, inductionHypothesis droppedDiffer
        (inBounds.drop differ now key),
        liveEntries_drop differ inBounds, Entry.without, List.filter_filter]
      refine List.filter_congr fun entry _ => ?_
      by_cases same : entry.key = key <;> simp [same]

/-- Invalidating everything leaves nothing. -/
theorem entries_invalidateAll
    {pool : Pool η}
    (differ : pool.KeysDiffer)
    (inBounds : pool.InBounds)
    (now : Instant) :
    (pool.invalidateAll now).entries = [] := by
  let keys := pool.liveKeys now
  have droppedDiffer := (evolves_dropKeys now differ keys).keysDiffer differ
  have noneLeft : (pool.dropKeys now keys).liveEntries now = [] := by
    rw [liveEntries_dropKeys differ inBounds, List.filter_eq_nil_iff]
    intro entry live
    have listed : entry.key ∈ keys := List.mem_map_of_mem live
    simp only [listed, not_true, decide_false, Bool.false_eq_true,
      not_false_eq_true]
  change ((pool.dropKeys now keys).settle now).entries = []
  rw [entries_settle droppedDiffer, noneLeft, List.drop_nil]

/-! ## Opening -/

/-- An adopted handle comes last; when there is one entry too many the first one
goes. -/
theorem entries_adopt
    {pool : Pool η}
    (differ : pool.KeysDiffer)
    (holdsSome : pool.config.maxSize ≠ 0)
    {time : CallTime}
    {key : String}
    (missing : pool.live? time.starts key = none)
    (handle : η) :
    (pool.adopt time key handle).entries =
      let kept := Entry.live pool.config.idle time.settles
        (Entry.without key (pool.liveEntries time.starts) ++
          [⟨key, pool.handles.length, time.inserts⟩])
      kept.drop (kept.length - pool.config.maxSize.toNat) := by
  obtain ⟨cleared, kept, evolves, left, rfl, keptDiffer, adopted⟩ :=
    adopt_eq differ holdsSome missing handle
  have cleared_config : cleared.config = pool.config := evolves.config_eq
  have keptLive : Pool.liveEntries { cleared with entries := cleared.entries ++
      [⟨key, pool.handles.length, time.inserts⟩] } time.settles =
      Entry.live pool.config.idle time.settles
        (Entry.without key pool.entries ++
          [⟨key, pool.handles.length, time.inserts⟩]) := by
    rw [liveEntries, cleared_config, left]
    rfl
  rw [adopted, entries_settle keptDiffer, keptLive, Entry.live_append,
    Entry.live_append, Entry.live_without, Entry.live_without, liveEntries,
    Entry.live_live _ time.inOrder, cleared_config]

end Pool
end HandlePool
