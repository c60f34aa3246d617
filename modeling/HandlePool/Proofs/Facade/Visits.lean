import HandlePool.Proofs.Facade.Session

/-!
# Visits to a façade over any store

A visit says when a façade is used, in which state its store is found then, and
for what.  Between visits anything may happen to the store, and any time may
pass.  Calls that only look at the store change nothing, and are left out.
-/

namespace HandlePool

variable {σ : Type}

/-- Something that is done with a handle and the store, and that neither opens
nor closes the handle. -/
structure Transfer (σ : Type) where
  run : FileHandle → σ → FileHandle × σ
  isOpen_run : ∀ handle store, (run handle store).1.isOpen = handle.isOpen
  releases_run : ∀ handle store, (run handle store).1.releases = handle.releases

/-- Writing through a handle is a transfer. -/
def FileWrite.transfer (write : FileWrite) : Transfer Tree where
  run := write.run
  isOpen_run handle tree := by
    have sameNode := congrArg Option.isSome (write.run_handle handle tree).2.2.2
    rwa [Option.isSome_map, Option.isSome_map] at sameNode
  releases_run handle tree := (write.run_handle handle tree).2.2.1

/-- What a façade is used for. -/
inductive Operation (σ : Type) where
  | request (request : FileRequest)
  | createFile (path : Path) (permissions : Permissions)
  | delete (path : Path)
  | createDirectories (path : Path)
  | setPermissions (path : Path) (permissions : Permissions)
  | closeAll
  | settle
  /-- One of the pools is called past the façade. -/
  | inside (side : Side) (call : PoolCall FileHandle)
  /-- A handle that was given out is used. -/
  | transfer (issued : Issued) (transfer : Transfer σ)

/-- What a visit returned. -/
inductive VisitReply where
  | issued (answer : Except IoError Issued)
  | path (answer : Except IoError Path)
  | outcome (answer : Except IoError Unit)
  | inside (reply : PoolReply)
  | done

/-- A use of a façade. -/
structure Visit (σ : Type) where
  time : CallTime
  /-- The store as it is found. -/
  found : σ
  operation : Operation σ

namespace Facade

/-- Make a call to one of the pools. -/
def callInside (facade : Facade σ) (time : CallTime) (side : Side)
    (call : PoolCall FileHandle) : PoolReply × Facade σ :=
  let (reply, pool) := (facade.pool side).perform time call
  (reply, facade.restore side pool)

/-- Use a handle that was given out. -/
def transfer (facade : Facade σ) (issued : Issued) (transfer : Transfer σ) :
    Facade σ :=
  match facade.handle? issued with
  | none => facade
  | some handle =>
      let (handle, store) := transfer.run handle facade.store
      { facade with store := store }.replace issued handle

theorem pool_changeBoth
    (facade : Facade σ)
    (function : Pool FileHandle → Pool FileHandle)
    (side : Side) :
    (facade.changeBoth function).pool side =
      { function (facade.pool side) with journal := [] } := by
  cases side <;> rfl

/-- A pool does not change with the store. -/
theorem pool_atStore
    (facade : Facade σ)
    (store : σ)
    (side : Side) :
    { facade with store := store }.pool side = facade.pool side := by
  cases side <;> rfl

/-- Using a handle leaves the pool on the other side alone. -/
theorem pool_transfer_of_ne
    {side : Side}
    {issued : Issued}
    (different : side ≠ issued.side)
    (facade : Facade σ)
    (transfer : Transfer σ) :
    (facade.transfer issued transfer).pool side = facade.pool side := by
  unfold Facade.transfer
  split
  · rfl
  · refine (pool_restore_of_ne different _ _).trans ?_
    cases side <;> rfl

variable [FileStore σ]

/-- Use the façade with its store as it is. -/
def operate (facade : Facade σ) (time : CallTime) :
    Operation σ → VisitReply × Facade σ
  | .request request =>
      let (answer, facade) := facade.request time request
      (.issued answer, facade)
  | .createFile path permissions =>
      let (answer, facade) := facade.createFile time.starts path permissions
      (.path answer, facade)
  | .delete path =>
      let (answer, facade) := facade.delete time.starts path
      (.outcome answer, facade)
  | .createDirectories path =>
      let (answer, facade) := facade.createDirectories path
      (.path answer, facade)
  | .setPermissions path permissions =>
      let (answer, facade) := facade.setPermissions path permissions
      (.path answer, facade)
  | .closeAll => (.done, facade.closeAll time.starts)
  | .settle => (.done, facade.settle time.starts)
  | .inside side call =>
      let (reply, facade) := facade.callInside time side call
      (.inside reply, facade)
  | .transfer issued transfer => (.done, facade.transfer issued transfer)

/-- Visit the façade. -/
def visit (facade : Facade σ) (visit : Visit σ) : VisitReply × Facade σ :=
  { facade with store := visit.found }.operate visit.time visit.operation

end Facade

/-! ## Requests -/

/-- What a request opens if nothing is kept for it, and how that is noted; or
why it is refused.  Relative paths start at `base`. -/
def FileRequest.opening (base : AbsolutePath) :
    FileRequest → Except IoError (Resolved × FacadeEvent)
  | .toRead path => (Resolved.ofPath base path).map fun resolved =>
      (resolved, .openingToRead resolved.key)
  | .toWrite path mode =>
      if !mode.writes then .error .writeModeRequired
      else (Resolved.ofPath base path).map fun resolved =>
        (resolved, .openingToWrite resolved.key mode)
  | .byMode path mode => (Resolved.ofPath base path).map fun resolved =>
      (resolved, if mode.writes then .openingToWrite resolved.key mode
        else .openingToRead resolved.key)

namespace Facade

open Pool

variable [FileStore σ]

/-- What a request to the façade opens if nothing is kept for it. -/
def opening (facade : Facade σ) (request : FileRequest) :
    Except IoError (Resolved × FacadeEvent) :=
  request.opening (FileStore.workingDirectory facade.store)

/-- The façades show the same, whatever they noted. -/
structure Alike (left right : Facade σ) : Prop where
  pools : ∀ side, left.pool side = right.pool side
  store_eq : left.store = right.store

omit [FileStore σ] in
theorem alike_refl
    (facade : Facade σ) :
    Alike facade facade :=
  ⟨fun _ => rfl, rfl⟩

omit [FileStore σ] in
theorem Alike.trans
    {left middle right : Facade σ}
    (first : Alike left middle)
    (second : Alike middle right) :
    Alike left right :=
  ⟨fun side => (first.pools side).trans (second.pools side),
    first.store_eq.trans second.store_eq⟩

omit [FileStore σ] in
theorem alike_note
    (facade : Facade σ)
    (event : FacadeEvent) :
    Alike (facade.note event) facade :=
  ⟨pool_note facade event, rfl⟩

omit [FileStore σ] in
theorem alike_noteOtherMode
    (facade : Facade σ)
    (key : String)
    (requested : OpenMode)
    (issued : Issued) :
    Alike (facade.noteOtherMode key requested issued) facade :=
  ⟨pool_noteOtherMode facade key requested issued, store_noteOtherMode ..⟩

/-- How a request is dealt with: it is refused at once, or answered by the pool
on a side; what is noted besides changes nothing. -/
inductive Opening (facade : Facade σ) (time : CallTime) (side : Side)
    (mode : OpenMode) :
    Except IoError (Resolved × FacadeEvent) →
    Except IoError Issued × Facade σ → Prop
  | refused {after : Facade σ} (error : IoError) :
      Alike after facade →
      Opening facade time side mode (.error error) (.error error, after)
  | asked {noted after : Facade σ} (resolved : Resolved) (event : FacadeEvent) :
      Alike noted facade →
      Alike after (noted.openOn side time resolved mode event).2 →
      Opening facade time side mode (.ok (resolved, event))
        ((noted.openOn side time resolved mode event).1, after)

theorem Opening.of_alike
    {facade noted : Facade σ}
    {time : CallTime}
    {side : Side}
    {mode : OpenMode}
    {opening : Except IoError (Resolved × FacadeEvent)}
    {result : Except IoError Issued × Facade σ}
    (opens : Opening noted time side mode opening result)
    (alike : Alike noted facade) :
    Opening facade time side mode opening result := by
  cases opens with
  | refused error same => exact .refused error (same.trans alike)
  | asked resolved event same answered =>
      exact .asked resolved event (same.trans alike) answered

theorem Opening.of_openOn
    {facade answered after : Facade σ}
    {time : CallTime}
    {side : Side}
    {mode : OpenMode}
    {resolved : Resolved}
    {event : FacadeEvent}
    {answer : Except IoError Issued}
    (opened : facade.openOn side time resolved mode event = (answer, answered))
    (alike : Alike after answered) :
    Opening facade time side mode (.ok (resolved, event)) (answer, after) := by
  have asked : Opening facade time side mode (.ok (resolved, event))
      ((facade.openOn side time resolved mode event).1, after) :=
    .asked resolved event (alike_refl facade) (by rwa [opened])
  rwa [opened] at asked

theorem opening_openForRead
    (facade : Facade σ)
    (time : CallTime)
    (path : Path) :
    Opening facade time .read .read (facade.opening (.toRead path))
      (facade.openForRead time path) := by
  simp only [opening, FileRequest.opening, openForRead, resolve]
  cases Resolved.ofPath (FileStore.workingDirectory facade.store) path with
  | error error => exact .refused error (alike_refl facade)
  | ok resolved => exact .asked resolved _ (alike_refl facade) (alike_refl _)

theorem opening_openForWrite
    (facade : Facade σ)
    (time : CallTime)
    (path : Path)
    (mode : OpenMode) :
    Opening facade time .write mode (facade.opening (.toWrite path mode))
      (facade.openForWrite time path mode) := by
  simp only [opening, FileRequest.opening, openForWrite, resolve]
  cases mode.writes with
  | false => exact .refused .writeModeRequired (alike_refl facade)
  | true =>
      cases Resolved.ofPath (FileStore.workingDirectory facade.store) path with
      | error error => exact .refused error (alike_refl facade)
      | ok resolved =>
          simp only [Bool.not_true, Bool.false_eq_true, if_false]
          rcases opened : facade.openOn .write time resolved mode
            (.openingToWrite resolved.key mode) with ⟨answer, after⟩
          cases answer with
          | error error => exact .of_openOn opened (alike_refl after)
          | ok issued => exact .of_openOn opened (alike_noteOtherMode ..)

theorem opening_request
    (facade : Facade σ)
    (time : CallTime)
    (request : FileRequest) :
    Opening facade time request.side request.mode (facade.opening request)
      (facade.request time request) := by
  cases request with
  | toRead path => exact facade.opening_openForRead time path
  | toWrite path mode => exact facade.opening_openForWrite time path mode
  | byMode path mode =>
      have routed := facade.alike_note (.routed path mode)
      simp only [FileRequest.side, FileRequest.mode, opening,
        FileRequest.opening, request, openPath]
      cases writes : mode.writes with
      | false =>
          have toRead : mode = .read := by
            cases mode <;> first | rfl | cases writes
          subst toRead
          exact ((facade.note _).opening_openForRead time path).of_alike routed
      | true =>
          have opens :=
            ((facade.note _).opening_openForWrite time path mode).of_alike
              routed
          simp only [opening, FileRequest.opening, writes] at opens
          exact opens

/-! ## What visits keep of the pools -/

/-- Something that is true of a pool on each side, and stays true
whatever calls do to it, where openers give handles of some kind and
nobody opens or closes a handle. -/
structure Lasting (kind : FileHandle → Prop)
    (keeps : Side → Pool FileHandle → Prop) : Prop where
  keysDiffer {side : Side} {pool : Pool FileHandle} :
    keeps side pool → pool.KeysDiffer
  same {side : Side} {pool final : Pool FileHandle} :
    keeps side pool → Same pool final → keeps side final
  evolves {side : Side} {now : Instant} {pool final : Pool FileHandle} :
    keeps side pool → Evolves now pool final → keeps side final
  adopt {side : Side} {time : CallTime} {key : String} {handle : FileHandle}
      {pool : Pool FileHandle} :
    keeps side pool → pool.live? time.starts key = none → kind handle →
      keeps side (pool.adopt time key handle)
  withHandle {side : Side} {number : Nat} {handle other : FileHandle}
      {pool : Pool FileHandle} :
    keeps side pool → pool.handles[number]? = some handle →
    other.isOpen = handle.isOpen →
      other.releases = handle.releases →
      keeps side (pool.withHandle number other)

namespace Lasting

variable
  {kind : FileHandle → Prop}
  {keeps : Side → Pool FileHandle → Prop}
  {facade after : Facade σ}

omit [FileStore σ] in
/-- Only one pool has changed. -/
theorem of_pool
    (lasting : Lasting kind keeps)
    (kept : ∀ side, keeps side (facade.pool side))
    (changed : Side)
    (stillKept : keeps changed (after.pool changed))
    (others : ∀ other, other ≠ changed →
      Same (facade.pool other) (after.pool other))
    (side : Side) :
    keeps side (after.pool side) := by
  by_cases isChanged : side = changed
  · subst isChanged
    exact stillKept
  · exact lasting.same (kept side) (others side isChanged)

omit [FileStore σ] in
/-- Both pools evolve. -/
theorem changeBoth
    (lasting : Lasting kind keeps)
    (kept : ∀ side, keeps side (facade.pool side))
    {now : Instant}
    {function : Pool FileHandle → Pool FileHandle}
    (evolves : ∀ pool : Pool FileHandle, pool.KeysDiffer →
      Evolves now pool (function pool))
    (side : Side) :
    keeps side ((facade.changeBoth function).pool side) :=
  lasting.same
    (lasting.evolves (kept side) (evolves _ (lasting.keysDiffer (kept side))))
    (facade.same_pool_changeBoth function side)

/-- A path is created or deleted. -/
theorem mutates
    (lasting : Lasting kind keeps)
    (kept : ∀ side, keeps side (facade.pool side))
    {now : Instant}
    {path : Path}
    (mutates : facade.Mutates now path after)
    (side : Side) :
    keeps side (after.pool side) := by
  cases mutates with
  | refused error _ => exact kept side
  | commanded resolved command _ =>
      rw [pool_command]
      exact lasting.changeBoth kept
        (fun _ differ => evolves_invalidate now differ resolved.key) side

omit [FileStore σ] in
theorem transfer
    (lasting : Lasting kind keeps)
    (kept : ∀ side, keeps side (facade.pool side))
    (issued : Issued)
    (transfer : Transfer σ)
    (side : Side) :
    keeps side ((facade.transfer issued transfer).pool side) := by
  refine lasting.of_pool kept issued.side ?_ (fun other different => ?_) side
  · obtain ⟨side, number⟩ := issued
    unfold Facade.transfer
    split
    · exact kept side
    · next handle found =>
      have used := lasting.withHandle (kept side) found
        (transfer.isOpen_run handle facade.store)
          (transfer.releases_run handle facade.store)
      simp only [replace, change, pool_restore_self]
      rw [pool_atStore]
      exact lasting.same used ⟨[], rfl⟩
  · rw [pool_transfer_of_ne different]
    exact same_refl _

theorem answers
    (lasting : Lasting kind keeps)
    (opens : ∀ path mode (store : σ) handle later,
      FileStore.openFile path mode store = (.ok handle, later) → kind handle)
    (kept : ∀ side, keeps side (facade.pool side))
    {time : CallTime}
    {request : FileRequest}
    {result : Except IoError Issued}
    (answers : Answers facade time request result after) :
    ∀ side, keeps side (after.pool side) := by
  have differ := fun side => lasting.keysDiffer (kept side)
  cases answers with
  | refused _ pools => exact fun side => lasting.same (kept side) (pools side)
  | @hit resolved _ _ _ _ pool others =>
      have seeks := evolves_seek time.starts (differ request.side) resolved.key
      have sought := lasting.evolves (kept request.side) seeks
      exact lasting.of_pool kept request.side (lasting.same sought pool) others
  | failed _ _ _ pool others =>
      obtain ⟨evolved, evolves, same⟩ := pool
      have failed := lasting.evolves (kept request.side) evolves
      exact lasting.of_pool kept request.side (lasting.same failed same) others
  | opened _ missing opened evolves pool others =>
      have soughtMissing := evolves.live?_eq_none (differ request.side) missing
      have adopted :=
        lasting.adopt (lasting.evolves (kept request.side) evolves)
          soughtMissing
        (opens _ _ _ _ _ opened)
      exact lasting.of_pool kept request.side (lasting.same adopted pool) others

/-- A pool that is called past the façade keeps what lasts. -/
theorem perform
    (lasting : Lasting kind keeps)
    {side : Side}
    {pool : Pool FileHandle}
    (kept : keeps side pool)
    (time : CallTime)
    {call : PoolCall FileHandle}
    (opens : ∀ key handle, call = .request key (.ok handle) → kind handle) :
    keeps side (pool.perform time call).2 := by
  have differ := lasting.keysDiffer kept
  have performed := performed_perform differ time call
  generalize pool.perform time call = gave at performed ⊢
  obtain ⟨reply, final⟩ := gave
  cases performed with
  | evolved _ evolves => exact lasting.evolves kept evolves
  | opened key handle missing evolves adopted =>
      rw [adopted]
      exact lasting.adopt (lasting.evolves kept evolves)
        (evolves.live?_eq_none differ missing) (opens key handle rfl)

/-- Whatever is done with a façade keeps what lasts. -/
theorem operate
    (lasting : Lasting kind keeps)
    (opens : ∀ path mode (store : σ) handle later,
      FileStore.openFile path mode store = (.ok handle, later) → kind handle)
    (kept : ∀ side, keeps side (facade.pool side))
    (time : CallTime)
    {operation : Operation σ}
    (opensInside : ∀ side key handle,
      operation = .inside side (.request key (.ok handle)) → kind handle) :
    ∀ side, keeps side ((facade.operate time operation).2.pool side) := by
  have differ := fun side => lasting.keysDiffer (kept side)
  cases operation with
  | request request =>
      exact lasting.answers opens kept (answers_request differ time request)
  | createFile path permissions =>
      exact lasting.mutates kept
        (facade.mutates_createFile time.starts path permissions)
  | delete path =>
      exact lasting.mutates kept (facade.mutates_delete time.starts path)
  | createDirectories path => exact kept
  | setPermissions path permissions => exact kept
  | closeAll =>
      intro side
      simp only [Facade.operate, closeAll, pool_note]
      exact lasting.changeBoth kept
        (fun _ differ => evolves_invalidateAll time.starts differ) side
  | settle => exact lasting.changeBoth kept fun _ differ =>
      evolves_settle time.starts differ
  | inside side call =>
      refine lasting.of_pool kept side ?_ fun other different => ?_
      · have performed :=
          lasting.perform (kept side) time fun key handle isRequest =>
          opensInside side key handle
            (congrArg (Operation.inside side) isRequest)
        simp only [Facade.operate, callInside, pool_restore_self]
        exact lasting.same performed ⟨[], rfl⟩
      · simp only [Facade.operate, callInside]
        rw [pool_restore_of_ne different]
        exact same_refl _
  | transfer issued transfer => exact lasting.transfer kept issued transfer

theorem visit
    (lasting : Lasting kind keeps)
    (opens : ∀ path mode (store : σ) handle later,
      FileStore.openFile path mode store = (.ok handle, later) → kind handle)
    (kept : ∀ side, keeps side (facade.pool side))
    {visit : Visit σ}
    (opensInside : ∀ side key handle,
      visit.operation = .inside side (.request key (.ok handle)) →
      kind handle) :
    ∀ side, keeps side ((facade.visit visit).2.pool side) := by
  have found : ∀ side,
      keeps side ({ facade with store := visit.found }.pool side) := by
    intro side
    rw [pool_atStore]
    exact kept side
  exact lasting.operate opens found visit.time opensInside

end Lasting

end Facade
end HandlePool
