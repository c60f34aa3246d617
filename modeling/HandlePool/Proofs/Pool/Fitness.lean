import HandlePool.Proofs.Pool.Balance
import HandlePool.Proofs.Pool.Journal
import HandlePool.Proofs.Pool.Release

/-!
# Handles that fit their keys

A pool that nobody else closes handles of holds open handles only.  If
every handle fits the key that it is opened for, whatever that is to mean,
then so does every handle that the pool holds: no call of a pool moves a
handle to another key.
-/

namespace HandlePool
namespace Pool

/-- The pool with one of its handles replaced. -/
def withHandle {η : Type} (pool : Pool η) (number : Nat)
    (handle : η) : Pool η :=
  { pool with handles := pool.handles.set number handle }

variable {η : Type} [TrackedHandle η]

open TrackedHandle

/-- The pool is within its bounds and holds nothing but open
handles that fit their keys. -/
structure Sound
    (config : PoolConfig)
    (fits : String → η → Prop)
    (pool : Pool η) : Prop where
  config_eq : pool.config = config
  custody : Custody NoneLoose pool
  inBounds : pool.InBounds
  fits : ∀ entry ∈ pool.entries, ∀ handle,
    pool.handles[entry.handle]? = some handle → fits entry.key handle

variable
  {config : PoolConfig}
  {fits : String → η → Prop}
  {pool final : Pool η}
  {now : Instant}

theorem Evolves.inBounds
    (evolves : Evolves now pool final)
    (differ : pool.KeysDiffer)
    (inBounds : pool.InBounds) :
    final.InBounds := by
  rw [InBounds, evolves.config_eq]
  exact Nat.le_trans (evolves.length_entries_le differ) inBounds

theorem sound_create
    (config : PoolConfig)
    (fits : String → η → Prop)
    (name : String) :
    Sound config fits { name := name, config := config } where
  config_eq := rfl
  custody := custody_create NoneLoose name config
  inBounds := Nat.zero_le _
  fits := by simp

namespace Sound

/-- An entry has an open handle that fits its key. -/
theorem exists_handle
    (sound : Sound config fits pool)
    {entry : Entry}
    (present : entry ∈ pool.entries) :
    ∃ handle, pool.handles[entry.handle]? = some handle ∧
      Handle.isOpen handle = true ∧ fits entry.key handle := by
  have found := List.getElem?_eq_getElem (sound.custody.opened entry present)
  exact ⟨_, found,
    (sound.custody.isFresh _ _ found (.inl ⟨entry, present, rfl⟩)).1,
    sound.fits entry present _ found⟩

/-- A handle that is open is held. -/
theorem holds_of_isOpen
    (sound : Sound config fits pool)
    {number : Nat}
    {handle : η}
    (found : pool.handles[number]? = some handle)
    (isOpen : Handle.isOpen handle = true) :
    pool.Holds number := by
  by_contra notHeld
  have spent := sound.custody.isSpent number handle found notHeld not_false
  exact Bool.false_ne_true (spent.1.symm.trans isOpen)

theorem mono
    {other : String → η → Prop}
    (sound : Sound config fits pool)
    (implies : ∀ entry ∈ pool.entries, ∀ handle,
      pool.handles[entry.handle]? = some handle → fits entry.key handle →
        other entry.key handle) :
    Sound config other pool where
  config_eq := sound.config_eq
  custody := sound.custody
  inBounds := sound.inBounds
  fits entry present handle found :=
    implies entry present handle found (sound.fits entry present handle found)

theorem same
    (sound : Sound config fits pool)
    (same : Same pool final) :
    Sound config fits final := by
  obtain ⟨journal, rfl⟩ := same
  exact ⟨sound.config_eq, sound.custody.congr rfl rfl,
    sound.inBounds, sound.fits⟩

theorem evolves
    (sound : Sound config fits pool)
    (evolves : Evolves now pool final) :
    Sound config fits final := by
  have custody := sound.custody.evolves evolves
  have differ := sound.custody.keysDiffer
  refine ⟨evolves.config_eq.trans sound.config_eq, custody,
    evolves.inBounds differ sound.inBounds, ?_⟩
  intro entry present handle found
  have fresh := custody.isFresh _ handle found (.inl ⟨entry, present, rfl⟩)
  have foundBefore := evolves.handle?_of_isOpen found fresh.1
  obtain ⟨earlier, before, sameKey, sameHandle, -⟩ := evolves.origin present
  rw [← sameKey]
  refine sound.fits earlier before handle ?_
  rwa [sameHandle]

theorem adopt
    {time : CallTime}
    {key : String}
    {handle : η}
    (sound : Sound config fits pool)
    (holdsSome : config.maxSize ≠ 0)
    (missing : pool.live? time.starts key = none)
    (fresh : IsFresh handle)
    (fitting : fits key handle) :
    Sound config fits (pool.adopt time key handle) := by
  have differ := sound.custody.keysDiffer
  rw [← sound.config_eq] at holdsSome
  have custody := sound.custody.adopt holdsSome missing fresh
  obtain ⟨cleared, kept, evolves, -, rfl, keptDiffer, adopted⟩ :=
    adopt_eq differ holdsSome missing handle
  refine ⟨(config_adopt differ holdsSome missing handle).trans sound.config_eq,
    custody, ?_, ?_⟩
  · rw [adopted]
    exact inBounds_settleWithin keptDiffer time.settles _
  · intro entry present found located
    have isFresh := custody.isFresh _ found located (.inl ⟨entry, present, rfl⟩)
    rw [adopted] at located
    have enrolled := evolves.handle?_of_isOpen
      ((evolves_settle time.settles keptDiffer).handle?_of_isOpen located
        isFresh.1) isFresh.1
    obtain ⟨earlier, before, sameKey, sameHandle⟩ | ⟨sameKey, numbered⟩ :=
      keeps_adopt differ holdsSome missing handle ⟨entry, present, rfl, rfl⟩
    · rw [← sameKey]
      refine sound.fits earlier before found ?_
      obtain ⟨foundBefore, -⟩ | ⟨newest, -⟩ := handle?_enroll enrolled
      · rwa [sameHandle]
      · have given := sound.custody.opened earlier before
        rw [sameHandle, newest] at given
        exact absurd given (Nat.lt_irrefl _)
    · obtain ⟨-, notNewest⟩ | ⟨-, rfl⟩ := handle?_enroll enrolled
      · exact absurd numbered notNewest
      · rwa [sameKey]

/-- When a key is removed, only the handles of other keys
have to go on to fit. -/
theorem of_invalidate
    {other : String → η → Prop}
    (sound : Sound config fits pool)
    (now : Instant)
    (key : String)
    (implies : ∀ otherKey handle, fits otherKey handle → otherKey ≠ key →
      other otherKey handle) :
    Sound config other (pool.invalidate now key) := by
  have differ := sound.custody.keysDiffer
  refine (sound.evolves (evolves_invalidate now differ key)).mono ?_
  intro entry present handle _ fitting
  refine implies entry.key handle fitting ?_
  rintro rfl
  exact not_keeps_drop now differ entry.key entry.handle
    ⟨entry, present, rfl, rfl⟩

/-- A handle may be replaced by one that is as open, was closed as often, and
fits whatever the first one fits. -/
theorem withHandle
    {number : Nat}
    {handle other : η}
    (sound : Sound config fits pool)
    (found : pool.handles[number]? = some handle)
    (sameOpen : Handle.isOpen other = Handle.isOpen handle)
    (sameCloses : closeCalls other = closeCalls handle)
    (fitting : ∀ key, fits key handle → fits key other) :
    Sound config fits (pool.withHandle number other) := by
  have bounded := (List.getElem?_eq_some_iff.mp found).1
  have origin : ∀ (place : Nat) located,
      (pool.withHandle number other).handles[place]? = some located →
      ∃ earlier, pool.handles[place]? = some earlier ∧
        Handle.isOpen located = Handle.isOpen earlier ∧
        closeCalls located = closeCalls earlier ∧
        ∀ key, fits key earlier → fits key located := by
    intro place located locatedAt
    by_cases same : place = number
    · subst same
      rw [Pool.withHandle, List.getElem?_set_self bounded, Option.some.injEq]
        at locatedAt
      subst locatedAt
      exact ⟨handle, found, sameOpen, sameCloses, fitting⟩
    · rw [Pool.withHandle, List.getElem?_set_ne (Ne.symm same)] at locatedAt
      exact ⟨located, locatedAt, rfl, rfl, fun _ => id⟩
  obtain ⟨config_eq, custody, inBounds, fits⟩ := sound
  refine ⟨config_eq,
    ⟨custody.keysDiffer, custody.handlesDiffer, ?_, custody.apart, ?_, ?_⟩,
    inBounds, ?_⟩
  · intro entry present
    rw [Pool.withHandle, List.length_set]
    exact custody.opened entry present
  · intro place located locatedAt held
    obtain ⟨earlier, before, openSame, closesSame, -⟩ :=
      origin place located locatedAt
    rw [IsFresh, openSame, closesSame]
    exact custody.isFresh place earlier before held
  · intro place located locatedAt notHeld notLoose
    obtain ⟨earlier, before, openSame, closesSame, -⟩ :=
      origin place located locatedAt
    rw [IsSpent, openSame, closesSame]
    exact custody.isSpent place earlier before notHeld notLoose
  · intro entry present located locatedAt
    obtain ⟨earlier, before, -, -, fitsToo⟩ :=
      origin entry.handle located locatedAt
    exact fitsToo entry.key (fits entry present earlier before)

end Sound

/-! ## Entries of a request -/

/-- What a request hits is the most recently used entry afterwards. -/
theorem Sound.mem_entries_seek
    (sound : Sound config fits pool)
    (lasts : 0 < config.idle.totalNanos)
    {key : String}
    {number : Nat}
    (hit : (pool.live? now key).map Entry.handle = some number) :
    ⟨key, number, now⟩ ∈ (pool.seek now key).2.entries := by
  have differ := sound.custody.keysDiffer
  obtain ⟨entry, found, rfl⟩ := Option.map_eq_some_iff.mp hit
  obtain ⟨-, rfl, -⟩ := differ.live?_eq_some_iff.mp found
  have left := liveEntries_seek_of_some differ sound.inBounds found
  have used : { entry with lastUse := now } ∈
      (pool.touch now entry).liveEntries now := by
    rw [mem_liveEntries]
    refine ⟨List.mem_append_right _ (List.mem_singleton_self _), ?_⟩
    have notExpired : ¬now + config.idle.totalNanos ≤ now :=
      Nat.not_le_of_lt (Nat.lt_add_of_pos_right lasts)
    have same : (pool.touch now entry).config = config := sound.config_eq
    rw [isExpired, same, Entry.isExpired]
    exact decide_eq_false notExpired
  rw [← left] at used
  exact (mem_liveEntries.mp used).1

/-- A handle that was opened is kept, if it is not expired when
the pool is put in order. -/
theorem mem_entries_adopt
    {time : CallTime}
    {key : String}
    (differ : pool.KeysDiffer)
    (holdsSome : pool.config.maxSize ≠ 0)
    (inTime : time.settles < time.inserts + pool.config.idle.totalNanos)
    (missing : pool.live? time.starts key = none)
    (handle : η) :
    ⟨key, pool.handles.length, time.inserts⟩ ∈
      (pool.adopt time key handle).entries := by
  have bound : 0 < pool.config.maxSize.toNat := by
    rw [Nat.pos_iff_ne_zero]
    intro isZero
    exact holdsSome (UInt64.toNat_inj.mp isZero)
  have stays : Entry.live pool.config.idle time.settles
      [⟨key, pool.handles.length, time.inserts⟩] =
      [⟨key, pool.handles.length, time.inserts⟩] := by
    simp [Entry.live, Entry.isExpired, inTime]
  rw [entries_adopt differ holdsSome missing, Entry.live_append, stays]
  simp only [List.length_append, List.length_singleton]
  rw [List.drop_append_of_le_length (by omega)]
  exact List.mem_append_right _ (List.mem_singleton_self _)

/-- Otherwise it is not. -/
theorem Sound.not_holds_adopt
    {time : CallTime}
    {key : String}
    (sound : Sound config fits pool)
    (holdsSome : config.maxSize ≠ 0)
    (late : time.inserts + config.idle.totalNanos ≤ time.settles)
    (missing : pool.live? time.starts key = none)
    (handle : η) :
    ¬(pool.adopt time key handle).Holds pool.handles.length := by
  have differ := sound.custody.keysDiffer
  rw [← sound.config_eq] at holdsSome late
  rintro ⟨entry, present, held⟩
  rw [entries_adopt differ holdsSome missing] at present
  obtain ⟨listed, notExpired⟩ :=
    List.mem_filter.mp (List.mem_of_mem_drop present)
  obtain before | isNew := List.mem_append.mp listed
  · have live := mem_liveEntries.mp (List.mem_of_mem_filter before)
    have given := sound.custody.opened entry live.1
    rw [held] at given
    exact absurd given (Nat.lt_irrefl _)
  · rw [List.mem_singleton.mp isNew, Entry.isExpired, decide_eq_true late]
      at notExpired
    cases notExpired

end Pool

/-! ## Files of handles -/

namespace Pool

variable {pool final : Pool FileHandle} {now : Instant} {number : Nat}
    {handle : FileHandle}

/-- A handle that the guard has closed is still known by its
path and its mode. -/
theorem exists_handle_remove
    (entry : Entry)
    (cause : RemovalCause)
    (found : pool.handles[number]? = some handle) :
    ∃ after, (pool.remove entry cause).handles[number]? = some after ∧
      after.path = handle.path ∧ after.mode = handle.mode := by
  by_cases same : number = entry.handle
  · subst same
    refine ⟨_, handle?_remove_self found cause, ?_⟩
    by_cases retained : cause = .replaced ∧ pool.config.policy = .retain
    · rw [release, if_pos retained]
      exact ⟨rfl, rfl⟩
    · rw [handle_release_of_not_retained retained]
      change handle.close.2.path = _ ∧ handle.close.2.mode = _
      unfold FileHandle.close
      split <;> exact ⟨rfl, rfl⟩
  · exact ⟨handle, by rwa [handle?_remove_of_ne same], rfl, rfl⟩

theorem Evolves.exists_handle
    (evolves : Evolves now pool final)
    (found : pool.handles[number]? = some handle) :
    ∃ after, final.handles[number]? = some after ∧
      after.path = handle.path ∧ after.mode = handle.mode := by
  induction evolves generalizing handle with
  | done pool => exact ⟨handle, found, rfl, rfl⟩
  | remove entry cause _ _ _ inductionHypothesis =>
      obtain ⟨middle, foundMiddle, samePath, sameMode⟩ :=
        exists_handle_remove entry cause found
      obtain ⟨after, foundAfter, samePathToo, sameModeToo⟩ :=
        inductionHypothesis foundMiddle
      exact ⟨after, foundAfter, samePathToo.trans samePath,
        sameModeToo.trans sameMode⟩
  | touch _ _ _ _ inductionHypothesis => exact inductionHypothesis found
  | count _ _ _ inductionHypothesis => exact inductionHypothesis found
  | note _ _ inductionHypothesis => exact inductionHypothesis found
  | putOff _ _ inductionHypothesis => exact inductionHypothesis found

/-- Nor does opening another handle change that. -/
theorem exists_handle_adopt
    {time : CallTime}
    {key : String}
    (differ : pool.KeysDiffer)
    (holdsSome : pool.config.maxSize ≠ 0)
    (missing : pool.live? time.starts key = none)
    {opened : FileHandle}
    (found : (pool.enroll opened).2.handles[number]? = some handle) :
    ∃ after, (pool.adopt time key opened).handles[number]? = some after ∧
      after.path = handle.path ∧ after.mode = handle.mode := by
  obtain ⟨cleared, kept, evolves, -, rfl, keptDiffer, adopted⟩ :=
    adopt_eq differ holdsSome missing opened
  obtain ⟨middle, foundMiddle, samePath, sameMode⟩ :=
    evolves.exists_handle found
  obtain ⟨after, foundAfter, samePathToo, sameModeToo⟩ :=
    (evolves_settle time.settles keptDiffer).exists_handle foundMiddle
  rw [← adopted] at foundAfter
  exact ⟨after, foundAfter, samePathToo.trans samePath,
    sameModeToo.trans sameMode⟩

end Pool
end HandlePool
