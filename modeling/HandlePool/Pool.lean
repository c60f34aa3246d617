import HandlePool.Config
import HandlePool.Guard
import HandlePool.Text.Quoted
import HandlePool.Upkeep

/-!
# Pools of open handles

A pool keeps handles under keys, in the order in which they were last used.  An
entry that has not been used for the idle time is expired: it is never found,
and goes when the pool is put in order.  When a pool holds more entries than it
may, the least recently used ones go.  All entries leave through the guard.

A pool is put in order on request, after every successful opening, and when a
lookup or a removal finds that this is due.
-/

namespace HandlePool

/-- A key with the handle kept for it, given by its number. -/
structure Entry where
  key : String
  handle : Nat
  lastUse : Instant
  deriving DecidableEq, Repr

/-- The entry has not been used for the idle time. -/
def Entry.isExpired (entry : Entry) (idle : Duration) (now : Instant) : Bool :=
  entry.lastUse + idle.totalNanos ≤ now

/-- A pool of handles. -/
structure Pool (η : Type) where
  name : String
  config : PoolConfig
  /-- The entries, least recently used first. -/
  entries : List Entry := []
  /-- Every handle ever opened for the pool, numbered from zero. -/
  handles : List η := []
  counters : Counters := .zero
  /-- What was put off; a pool is in order when its clock starts. -/
  upkeep : Upkeep := .startingAt 0
  /-- What happened, in order. -/
  journal : List PoolEvent := []

/-- What asking a pool for a handle gave. -/
structure Answer where
  /-- The number of the handle, or the error of the opener. -/
  result : Except IoError Nat
  /-- A handle was not found and the opener ran. -/
  ran : Bool

namespace Pool

variable {η σ : Type}

/-- An empty pool; no pool measures more than a thousand years. -/
def create (name : String) (config : PoolConfig) : Except Abort (Pool η) :=
  if config.isBuildable then .ok { name := name, config := config }
  else .error .idleTooLong

/-- The entry of a key, expired or not. -/
def entryOf? (pool : Pool η) (key : String) : Option Entry :=
  pool.entries.find? fun entry => entry.key == key

/-- The entry is expired in this pool. -/
def isExpired (pool : Pool η) (now : Instant) (entry : Entry) : Bool :=
  entry.isExpired pool.config.idle now

/-- The entry of a key, unless it is expired. -/
def live? (pool : Pool η) (now : Instant) (key : String) : Option Entry :=
  (pool.entryOf? key).filter fun entry => !pool.isExpired now entry

/-- The entries of all other keys. -/
def others (pool : Pool η) (key : String) : List Entry :=
  pool.entries.filter fun entry => entry.key != key

theorem mem_others {pool : Pool η} {key : String} {entry : Entry} :
    entry ∈ pool.others key ↔ entry ∈ pool.entries ∧ entry.key ≠ key := by
  simp [others]

/-- Count an event. -/
def count (pool : Pool η) (event : CountedEvent) : Pool η :=
  { pool with counters := pool.counters.record event }

/-- Note an event. -/
def note (pool : Pool η) (event : PoolEvent) : Pool η :=
  { pool with journal := pool.journal ++ [event] }

/-! ## Removing -/

variable [Handle η]

/-- Hand the handle of a removed entry to the guard. -/
def dismiss (pool : Pool η) (entry : Entry) (cause : RemovalCause) : Pool η :=
  match pool.handles[entry.handle]? with
  | none => pool
  | some handle =>
    let released :=
      release pool.config.policy pool.counters entry.key cause handle
    { pool with
      handles := pool.handles.set entry.handle released.handle
      counters := released.counters
      journal := pool.journal ++
        [released.event, .departed entry.key released.outcome] }

/-- Remove an entry. -/
def remove (pool : Pool η) (entry : Entry) (cause : RemovalCause) : Pool η :=
  { pool with entries := pool.others entry.key }.dismiss entry cause

/-- Remove some entries, one after another. -/
def removeAll (pool : Pool η) (entries : List Entry) (cause : RemovalCause) :
    Pool η :=
  entries.foldl (fun pool entry => pool.remove entry cause) pool

/-- The cause under which an entry goes: an expired entry has expired, whatever
the occasion. -/
def causeAt (pool : Pool η) (now : Instant) (entry : Entry)
    (occasion : RemovalCause) : RemovalCause :=
  if pool.isExpired now entry then .expired else occasion

/-- The expired entries, least recently used first. -/
def expiredEntries (pool : Pool η) (now : Instant) : List Entry :=
  pool.entries.filter (pool.isExpired now)

/-- Remove expired entries, but no more than `limit`. -/
def expire (pool : Pool η) (now : Instant) (limit : Nat) : Pool η :=
  pool.removeAll ((pool.expiredEntries now).take limit) .expired

/-- Remove the least recently used entries beyond the bound. -/
def evict (pool : Pool η) : Pool η :=
  pool.removeAll
    (pool.entries.take (pool.entries.length - pool.config.maxSize.toNat))
    .sizeEvicted

/-- Put the pool in order as far as taking `limit` expired entries goes. -/
def settleWithin (pool : Pool η) (now : Instant) (limit : Nat) : Pool η :=
  { (pool.expire now limit).evict with upkeep := .startingAt now }

/-- Put the pool in order: no expired entries, and no more than the bound. -/
def settle (pool : Pool η) (now : Instant) : Pool η :=
  pool.settleWithin now pool.entries.length

/-- Put the pool in order, taking at most `limit` expired entries, if a call
finds that due; and put off the call itself. -/
def tend (pool : Pool η) (now : Instant) (occasion : Occasion) (limit : Nat) :
    Pool η :=
  let pool :=
    if pool.upkeep.isDue occasion now then pool.settleWithin now limit else pool
  { pool with upkeep := pool.upkeep.record occasion }

/-! ## Looking up -/

/-- Make the entry the most recently used one. -/
def touch (pool : Pool η) (now : Instant) (entry : Entry) : Pool η :=
  { pool with entries :=
    pool.others entry.key ++ [{ entry with lastUse := now }] }

/-- Look a key up, which counts as a use of what is found. -/
def lookup (pool : Pool η) (now : Instant) (key : String) :
    Option Nat × Pool η :=
  match pool.live? now key with
  | none => (none, pool.tend now .lookup pool.entries.length)
  | some entry =>
    (some entry.handle,
      (pool.touch now entry).tend now .lookup pool.entries.length)

/-- A key has an entry; asking does not count as a use. -/
def contains (pool : Pool η) (now : Instant) (key : String) : Bool :=
  (pool.live? now key).isSome

/-! ## Opening -/

/-- Number a handle that was just opened. -/
def enroll (pool : Pool η) (handle : η) : Nat × Pool η :=
  (pool.handles.length, { pool with handles := pool.handles ++ [handle] })

/-- Keep an enrolled handle under a key.  An entry it displaces goes first.  A
pool of size zero keeps nothing, and leaves the handle to the caller. -/
def insert (pool : Pool η) (now : Instant) (key : String)
    (handle : Nat) : Pool η :=
  if pool.config.maxSize = 0 then pool
  else
    let pool :=
      match pool.entryOf? key with
      | none => pool
      | some displaced =>
        pool.remove displaced (pool.causeAt now displaced .replaced)
    { pool with entries := pool.entries ++ [⟨key, handle, now⟩] }

/-- Look for the handle of a key that is opened otherwise.  A key that is
missing is looked up once more when its turn has come. -/
def seek (pool : Pool η) (now : Instant) (key : String) : Option Nat × Pool η :=
  match pool.lookup now key with
  | (some handle, pool) => (some handle, pool.count .hit)
  | (none, pool) =>
    (none, (pool.tend now .lookup pool.entries.length).count .miss)

/-- Open a handle for a key that is missing, and keep it.  Its entry counts as
used when it is kept, however long the opener took. -/
def openMissing (pool : Pool η) (time : CallTime) (key : String)
    (opener : σ → Except IoError η × σ) (world : σ) :
    Except IoError Nat × Pool η × σ :=
  match opener world with
  | (.error error, world) => (.error error, pool.count .openFailure, world)
  | (.ok handle, world) =>
    let (number, pool) := (pool.count .opened).enroll handle
    (.ok number,
      (pool.insert time.inserts key number).settle time.settles, world)

/-- The handle of a key, opened if there is none. -/
def getOrOpen (pool : Pool η) (time : CallTime) (key : String)
    (opener : σ → Except IoError η × σ) (world : σ) : Answer × Pool η × σ :=
  match pool.seek time.starts key with
  | (some handle, pool) => (⟨.ok handle, false⟩, pool, world)
  | (none, pool) =>
    let (result, pool, world) := pool.openMissing time key opener world
    (⟨result, true⟩, pool, world)

/-- The same for a caller who holds a failure together with so many others. -/
def getOrOpenAmong (others : Nat) (pool : Pool η) (time : CallTime)
    (key : String)
    (opener : σ → Except IoError η × σ) (world : σ) : Answer × Pool η × σ :=
  let (answer, pool, world) := pool.getOrOpen time key opener world
  ({ answer with result := answer.result.mapError fun error =>
    error.handedOver others },
    pool, world)

/-! ## Invalidating -/

/-- How many expired entries may be taken while an entry is being removed: where
it is expired itself, the round that comes upon it is the last one. -/
def reachBeside (pool : Pool η) (now : Instant) (entry : Entry) : Nat :=
  match (pool.expiredEntries now).idxOf? entry with
  | none => pool.entries.length
  | some position => Upkeep.reach position - 1

/-- Remove the entry of a key, if there is one. -/
def drop (pool : Pool η) (now : Instant) (key : String) : Pool η :=
  match pool.entryOf? key with
  | none => pool
  | some entry =>
    (pool.remove entry (pool.causeAt now entry .invalidated)).tend now .removal
      (pool.reachBeside now entry)

/-- Remove the entry of a key, and note that. -/
def invalidate (pool : Pool η) (now : Instant) (key : String) : Pool η :=
  (pool.drop now key).note (.invalidated key)

/-- The keys of the entries that are not expired. -/
def liveKeys (pool : Pool η) (now : Instant) : List String :=
  (pool.entries.filter fun entry => !pool.isExpired now entry).map Entry.key

/-- Remove the entries of some keys, one after another. -/
def dropKeys (pool : Pool η) (now : Instant) (keys : List String) : Pool η :=
  keys.foldl (fun pool key => pool.drop now key) pool

/-- Remove every entry: the live ones one by one, then what has expired. -/
def invalidateAll (pool : Pool η) (now : Instant) : Pool η :=
  let keys := pool.liveKeys now
  ((pool.dropKeys now keys).settle now).note (.invalidatedAll keys.length)

/-! ## Looking at a pool -/

/-- The number of entries, exact once the pool is in order. -/
def length (pool : Pool η) : Nat := pool.entries.length

/-- The dump of a pool. -/
def dump (pool : Pool η) : String :=
  "HandleCache \x7b name: " ++ Quoted.text pool.name ++ ", config: " ++
    pool.config.dump ++ ", entries: " ++ toString pool.length ++ ", .. \x7d"

/-- The lines of the journal. -/
def lines (pool : Pool η) : List String :=
  pool.journal.map (PoolEvent.line pool.name)

/-! ## Small laws -/

@[simp] theorem entries_dismiss (pool : Pool η) (entry : Entry)
    (cause : RemovalCause) :
      (pool.dismiss entry cause).entries = pool.entries := by
  unfold dismiss
  split <;> rfl

@[simp] theorem config_dismiss (pool : Pool η) (entry : Entry)
    (cause : RemovalCause) :
      (pool.dismiss entry cause).config = pool.config := by
  unfold dismiss
  split <;> rfl

@[simp] theorem length_handles_dismiss (pool : Pool η) (entry : Entry)
    (cause : RemovalCause) :
    (pool.dismiss entry cause).handles.length = pool.handles.length := by
  unfold dismiss
  split
  · rfl
  · simp

/-- Dismissing an entry touches no other handle. -/
theorem handle?_dismiss_of_ne {entry : Entry} {number : Nat}
    (different : number ≠ entry.handle) (pool : Pool η) (cause : RemovalCause) :
    (pool.dismiss entry cause).handles[number]? = pool.handles[number]? := by
  unfold dismiss
  split
  · rfl
  · simp [List.getElem?_set_ne (Ne.symm different)]

@[simp] theorem entries_remove (pool : Pool η) (entry : Entry)
    (cause : RemovalCause) :
    (pool.remove entry cause).entries = pool.others entry.key := by
  simp [remove]

@[simp] theorem config_remove (pool : Pool η) (entry : Entry)
    (cause : RemovalCause) :
      (pool.remove entry cause).config = pool.config := by
  simp [remove]

@[simp] theorem config_removeAll (pool : Pool η) (entries : List Entry)
    (cause : RemovalCause) :
    (pool.removeAll entries cause).config = pool.config := by
  unfold removeAll
  induction entries generalizing pool with
  | nil => rfl
  | cons entry entries inductionHypothesis => simp [inductionHypothesis]

@[simp] theorem config_settleWithin (pool : Pool η) (now : Instant)
    (limit : Nat) :
    (pool.settleWithin now limit).config = pool.config := by
  simp [settleWithin, expire, evict]

@[simp] theorem config_settle (pool : Pool η) (now : Instant) :
    (pool.settle now).config = pool.config := by
  simp [settle]

@[simp] theorem config_tend (pool : Pool η) (now : Instant)
    (occasion : Occasion)
    (limit : Nat) : (pool.tend now occasion limit).config = pool.config := by
  unfold tend
  split <;> simp

/-- No limit that allows for every entry leaves an expired one. -/
theorem expire_of_le {limit : Nat} (pool : Pool η) (now : Instant)
    (enough : pool.entries.length ≤ limit) :
    pool.expire now limit =
      pool.removeAll (pool.expiredEntries now) .expired := by
  have short : (pool.expiredEntries now).length ≤ limit :=
    Nat.le_trans (List.length_filter_le _ _) enough
  rw [expire, List.take_of_length_le short]

/-- A pool that was just put in order is not due before the interval is over. -/
theorem isDue_settle_iff (pool : Pool η) (start now : Instant)
    (occasion : Occasion) :
    (pool.settle start).upkeep.isDue occasion now = true ↔
      start + Upkeep.interval ≤ now :=
  Upkeep.isDue_startingAt_iff start now occasion

/-- A removed key has no entry. -/
@[simp] theorem entryOf?_remove_self (pool : Pool η) (entry : Entry)
    (cause : RemovalCause) :
      (pool.remove entry cause).entryOf? entry.key = none := by
  simp [entryOf?, others]

/-- Removing a key leaves the entries of other keys. -/
theorem entryOf?_remove_of_ne {entry : Entry} {key : String}
    (different : key ≠ entry.key) (pool : Pool η) (cause : RemovalCause) :
    (pool.remove entry cause).entryOf? key = pool.entryOf? key := by
  unfold entryOf?
  rw [entries_remove, others, List.find?_filter]
  congr 1
  funext found
  by_cases same : found.key = key <;> simp [same, different]

end Pool
end HandlePool
