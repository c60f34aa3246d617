import HandlePool.FileStore
import HandlePool.Pool

/-!
# The façade

A façade answers for a file store and keeps the handles it opens in two pools,
one for reading and one for writing, under the keys of their paths.  Creating or
deleting a path first takes its handles out of both pools.  What needs no handle
goes to the store as it is.  Several owners may share a façade; the last one to
let go lets go of both pools.
-/

namespace HandlePool

/-- One of the two pools of a façade. -/
inductive Side where
  | read
  | write
  deriving DecidableEq, Repr

/-- The name of the pool on a side. -/
def Side.name : Side → String
  | .read => "read"
  | .write => "write"

/-- A handle that a façade gave out: its pool, and its number there. -/
structure Issued where
  side : Side
  number : Nat
  deriving DecidableEq, Repr

/-- Something that happened in a façade. -/
inductive FacadeEvent where
  /-- A façade was created. -/
  | created (config : FacadeConfig)
  /-- An open is routed by its mode. -/
  | routed (path : Path) (mode : OpenMode)
  /-- A handle for reading is opened. -/
  | openingToRead (key : String)
  /-- A handle for writing is opened. -/
  | openingToWrite (key : String) (mode : OpenMode)
  /-- A handle for writing was kept with another mode than is asked for. -/
  | otherMode (key : String) (requested cached : OpenMode)
  /-- All handles were let go. -/
  | closedAll
  /-- The store is given a command, which is not worth a line. -/
  | commanded (command : StoreCommand)
  /-- Something happened in a pool. -/
  | inPool (side : Side) (event : PoolEvent)

/-- The line of an event, if it is worth one. -/
def FacadeEvent.line? : FacadeEvent → Option String
  | .created config =>
    some <| "INFO Created caching filesystem read_max=" ++
      toString config.readMaxSize ++
      " write_max=" ++ toString config.writeMaxSize ++ " read_idle=" ++
      config.readIdle.dump ++ " write_idle=" ++ config.writeIdle.dump
  | .routed path mode =>
    some <| "DEBUG Routing open path=" ++ path.display ++ " mode=" ++ mode.name
  | .openingToRead key => some <| "INFO Opening file for read path=" ++ key
  | .openingToWrite key mode =>
    some <| "INFO Opening file for write path=" ++ key ++ " mode=" ++ mode.name
  | .otherMode key requested cached =>
    some <| "DEBUG Reusing write handle opened with a different mode path=" ++
      key ++ " requested=" ++ requested.name ++ " cached=" ++ cached.name
  | .closedAll => some "INFO Closed all cached file handles"
  | .commanded _ => none
  | .inPool side event => some (event.line side.name)

/-- A file store with its two pools of handles. -/
structure Facade (σ : Type) where
  config : FacadeConfig
  read : Pool FileHandle
  write : Pool FileHandle
  store : σ
  /-- What happened, in order. -/
  journal : List FacadeEvent := []

/-- Why a façade could not be built. -/
inductive BuildError where
  | invalid (error : ConfigError)
  | aborted (reason : Abort)
  deriving DecidableEq

/-- A path in its normal form, and the key of its handles. -/
structure Resolved where
  path : Path
  key : String

/-- Resolve a path; relative ones start at `base`. -/
def Resolved.ofPath (base : AbsolutePath) (path : Path) :
    Except IoError Resolved :=
  (Path.normalize base path).map fun path => ⟨path, path.display⟩

namespace Facade

variable {σ : Type}

/-- A façade over a store, if its configuration is valid and its pools can be
built. -/
def create (config : FacadeConfig) (store : σ) : Except BuildError (Facade σ) :=
  match config.validate with
  | .error error => .error (.invalid error)
  | .ok () =>
    match Pool.create Side.read.name config.readPool,
      Pool.create Side.write.name config.writePool with
    | .error reason, _ | _, .error reason => .error (.aborted reason)
    | .ok read, .ok write =>
      .ok ⟨config, read, write, store, [.created config]⟩

/-! ## Pools -/

/-- The pool on a side. -/
def pool (facade : Facade σ) : Side → Pool FileHandle
  | .read => facade.read
  | .write => facade.write

/-- Note an event. -/
def note (facade : Facade σ) (event : FacadeEvent) : Facade σ :=
  { facade with journal := facade.journal ++ [event] }

/-- Put a pool back after a call to it, and take over what it noted. -/
def restore (facade : Facade σ) (side : Side) (pool : Pool FileHandle) :
    Facade σ :=
  let settled := { pool with journal := [] }
  let journal := facade.journal ++ pool.journal.map (.inPool side)
  match side with
  | .read => { facade with read := settled, journal := journal }
  | .write => { facade with write := settled, journal := journal }

/-- Change the pool on a side. -/
def change (facade : Facade σ) (side : Side)
    (function : Pool FileHandle → Pool FileHandle) : Facade σ :=
  facade.restore side (function (facade.pool side))

/-- Change both pools, the one for reading first. -/
def changeBoth (facade : Facade σ)
    (function : Pool FileHandle → Pool FileHandle) :
    Facade σ :=
  (facade.change .read function).change .write function

/-- A handle that was given out. -/
def handle? (facade : Facade σ) (issued : Issued) : Option FileHandle :=
  (facade.pool issued.side).handles[issued.number]?

@[simp] theorem store_restore (facade : Facade σ) (side : Side)
    (pool : Pool FileHandle) :
      (facade.restore side pool).store = facade.store := by
  cases side <;> rfl

@[simp] theorem config_restore (facade : Facade σ) (side : Side)
    (pool : Pool FileHandle) :
    (facade.restore side pool).config = facade.config := by
  cases side <;> rfl

/-- The pool that was put back is the one found there, but for its notes. -/
@[simp] theorem pool_restore_self (facade : Facade σ) (side : Side)
    (pool : Pool FileHandle) :
    (facade.restore side pool).pool side = { pool with journal := [] } := by
  cases side <;> rfl

/-- Putting a pool back leaves the other one alone. -/
theorem pool_restore_of_ne {side other : Side} (different : other ≠ side)
    (facade : Facade σ) (pool : Pool FileHandle) :
    (facade.restore side pool).pool other = facade.pool other := by
  cases side <;> cases other <;> simp_all [restore, Facade.pool]

/-! ## The whole -/

/-- Let all handles go. -/
def closeAll (facade : Facade σ) (now : Instant) : Facade σ :=
  (facade.changeBoth fun pool => pool.invalidateAll now).note .closedAll

/-- Put both pools in order. -/
def settle (facade : Facade σ) (now : Instant) : Facade σ :=
  facade.changeBoth fun pool => pool.settle now

/-- Let go of both pools and all they hold. -/
def release (facade : Facade σ) (now : Instant) : Facade σ :=
  facade.changeBoth fun pool => pool.invalidateAll now

/-- A reading of the counters of both pools. -/
def snapshot (facade : Facade σ) : FacadeSnapshot :=
  ⟨facade.read.counters.snapshot, facade.write.counters.snapshot⟩

/-- The dump of a façade. -/
def dump (facade : Facade σ) : String :=
  "CachingFileSystem \x7b config: " ++ facade.config.dump ++ ", read_cache: " ++
    facade.read.dump ++ ", write_cache: " ++ facade.write.dump ++
    ", read_resident: " ++ toString facade.read.counters.resident ++
    ", write_resident: " ++
      toString facade.write.counters.resident ++ ", .. \x7d"

/-- The lines of the journal. -/
def lines (facade : Facade σ) : List String :=
  facade.journal.filterMap FacadeEvent.line?

/-! ## The store -/

variable [FileStore σ]

/-- Resolve a path; relative ones start in the working
directory of the store. -/
def resolve (facade : Facade σ) (path : Path) : Except IoError Resolved :=
  Resolved.ofPath (FileStore.workingDirectory facade.store) path

/-- Give the store a command. -/
def command (facade : Facade σ) (command : StoreCommand) :
    Except IoError command.Answer × Facade σ :=
  let facade := facade.note (.commanded command)
  let (answer, store) := command.run facade.store
  (answer, { facade with store := store })

/-! ## Opening -/

/-- The handle of a key on a side, opened through the store if there is none. -/
def openOn (facade : Facade σ) (side : Side) (time : CallTime)
    (resolved : Resolved) (mode : OpenMode) (opening : FacadeEvent) :
    Except IoError Issued × Facade σ :=
  match (facade.pool side).seek time.starts resolved.key with
  | (some number, pool) => (.ok ⟨side, number⟩, facade.restore side pool)
  | (none, pool) =>
    let command := .openFile resolved.path mode
    let facade :=
      ((facade.restore side pool).note opening).note (.commanded command)
    let (result, pool, store) :=
      (facade.pool side).openMissing time resolved.key
      command.run facade.store
    (result.map fun number => ⟨side, number⟩,
      { facade with store := store }.restore side pool)

/-- The handle for reading a path. -/
def openForRead (facade : Facade σ) (time : CallTime) (path : Path) :
    Except IoError Issued × Facade σ :=
  match facade.resolve path with
  | .error error => (.error error, facade)
  | .ok resolved =>
    facade.openOn .read time resolved .read (.openingToRead resolved.key)

/-- Note that a handle was opened with another mode than `requested`. -/
def noteOtherMode (facade : Facade σ) (key : String) (requested : OpenMode)
    (issued : Issued) : Facade σ :=
  match (facade.handle? issued).bind Handle.mode? with
  | none => facade
  | some cached =>
    if cached = requested then facade
    else facade.note (.otherMode key requested cached)

/-- The handle for writing a path; one that is kept already is given out
whatever mode it was opened with. -/
def openForWrite (facade : Facade σ) (time : CallTime) (path : Path)
    (mode : OpenMode) : Except IoError Issued × Facade σ :=
  if !mode.writes then (.error .writeModeRequired, facade)
  else
    match facade.resolve path with
    | .error error => (.error error, facade)
    | .ok resolved =>
      match facade.openOn .write time resolved mode
        (.openingToWrite resolved.key mode) with
      | (.error error, facade) => (.error error, facade)
      | (.ok issued, facade) =>
        (.ok issued, facade.noteOtherMode resolved.key mode issued)

/-- The handle for a path, from the side that the mode belongs to. -/
def openPath (facade : Facade σ) (time : CallTime) (path : Path)
    (mode : OpenMode) :
    Except IoError Issued × Facade σ :=
  let facade := facade.note (.routed path mode)
  if mode.writes then facade.openForWrite time path mode
  else facade.openForRead time path

/-! ## Creating and deleting -/

/-- Take the handles of a key out of both pools. -/
def invalidate (facade : Facade σ) (now : Instant) (key : String) : Facade σ :=
  facade.changeBoth fun pool => pool.invalidate now key

/-- Create a file; handles of its path are let go first. -/
def createFile (facade : Facade σ) (now : Instant) (path : Path)
    (permissions : Permissions) : Except IoError Path × Facade σ :=
  match facade.resolve path with
  | .error error => (.error error, facade)
  | .ok resolved =>
    (facade.invalidate now resolved.key).command
      (.createFile resolved.path permissions)

/-- Delete a file or an empty directory; handles of that
path are let go first. -/
def delete (facade : Facade σ) (now : Instant) (path : Path) :
    Except IoError Unit × Facade σ :=
  match facade.resolve path with
  | .error error => (.error error, facade)
  | .ok resolved =>
    (facade.invalidate now resolved.key).command (.delete resolved.path)

/-- Create a directory and its missing parents. -/
def createDirectories (facade : Facade σ) (path : Path) :
    Except IoError Path × Facade σ :=
  facade.command (.createDirectories path)

/-- Set the permissions of what a path names. -/
def setPermissions (facade : Facade σ) (path : Path)
    (permissions : Permissions) :
    Except IoError Path × Facade σ :=
  facade.command (.setPermissions path permissions)

end Facade

/-! ## Owners -/

/-- A façade with its owners. -/
structure SharedFacade (σ : Type) where
  facade : Facade σ
  /-- For each owner, whether it still holds the façade. -/
  owners : List Bool := [true]

namespace SharedFacade

variable {σ : Type}

/-- The owner still holds the façade. -/
def isHeldBy (shared : SharedFacade σ) (owner : Nat) : Bool :=
  shared.owners[owner]? == some true

/-- Some owner still holds the façade. -/
def isHeld (shared : SharedFacade σ) : Bool := shared.owners.any id

/-- One more owner shares the façade. -/
def clone (shared : SharedFacade σ) : SharedFacade σ :=
  { shared with owners := shared.owners ++ [true] }

/-- An owner lets go of the façade; with the last one both pools go. -/
def drop (shared : SharedFacade σ) (now : Instant) (owner : Nat) :
    SharedFacade σ :=
  let left := { shared with owners := shared.owners.set owner false }
  if shared.isHeld && !left.isHeld then
    { left with facade := left.facade.release now }
  else left

end SharedFacade
end HandlePool
