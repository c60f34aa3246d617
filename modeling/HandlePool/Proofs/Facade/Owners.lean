import HandlePool.Proofs.Facade.Keys
import HandlePool.Proofs.Facade.Visits
import HandlePool.Proofs.Pool.Ledger

/-!
# The owners of a façade

Several owners share a façade: each may use it, let others share it, and let go
of it.  Whatever they do and whenever, both pools keep their ledgers.  So
letting all handles go, like the last owner letting go of the façade, closes
every handle that was opened and is not closed yet, and none a second time; an
owner that lets go before the last one closes nothing.
-/

namespace HandlePool

variable {σ : Type}

/-- The handle that a visit was answered with. -/
def VisitReply.given? : VisitReply → Option Issued
  | .issued (.ok given) => some given
  | _ => none

/-- What the operation opens is fresh, whatever it asks the store for. -/
def Operation.OpensFresh : Operation σ → Prop
  | .inside _ call => call.OpensFresh
  | _ => True

/-! ## The ledgers of both pools -/

namespace Facade

open Pool

variable
  {config : FacadeConfig}
  {given : Side → Nat}
  {facade after : Facade σ}
  {time : CallTime}

/-- Both pools keep their ledgers, and so many handles were
opened on each side. -/
def Ledgers (config : FacadeConfig) (given : Side → Nat)
    (facade : Facade σ) : Prop :=
  ∀ side, (facade.pool side).Ledger (config.pool side) (given side)

theorem ledgers_create
    {store : σ}
    (created : create config store = .ok facade) :
    facade.Ledgers config fun _ => 0 := by
  rw [eq_of_create created]
  intro side
  cases side with
  | read => exact ledger_create config.readPool Side.read.name
  | write => exact ledger_create config.writePool Side.write.name

namespace Ledgers

theorem keysDiffer
    (ledgers : facade.Ledgers config given)
    (side : Side) :
    (facade.pool side).KeysDiffer :=
  (ledgers side).sound.custody.keysDiffer

/-- Ledgers last as long as fresh handles are opened. -/
theorem lasting
    (holdsSome : ∀ side, (config.pool side).maxSize ≠ 0)
    (given : Side → Nat) :
    Lasting TrackedHandle.IsFresh fun side pool =>
      pool.Ledger (config.pool side) (given side) where
  keysDiffer ledger := ledger.sound.custody.keysDiffer
  same ledger same := ledger.same same
  evolves ledger evolves := ledger.evolves evolves
  adopt {side _ _ _ _} ledger missing fresh := by
    have adopted := ledger.adopt (holdsSome side) missing fresh
    exact adopted.mono (Nat.le_trans ledger.given_le
      (Nat.le_trans (Nat.le_succ _) adopted.given_le))
  withHandle ledger found sameOpen sameReleases :=
    ledger.withHandle found sameOpen sameReleases

theorem release
    (ledgers : facade.Ledgers config given)
    (now : Instant) :
    (facade.release now).Ledgers config given :=
  fun side =>
    ((ledgers side).evolves
      (evolves_invalidateAll now (ledgers.keysDiffer side))).same
    (facade.same_pool_changeBoth (fun pool => pool.invalidateAll now) side)

theorem atStore
    (ledgers : facade.Ledgers config given)
    (store : σ) :
    Ledgers config given { facade with store := store } := by
  intro side
  rw [pool_atStore]
  exact ledgers side

variable [FileStore σ]

/-- What a request is answered with was opened. -/
theorem lt_of_answers
    (ledgers : facade.Ledgers config given)
    (opensFresh : (storeConduct : Conduct σ FileHandle).OpensFresh)
    (holdsSome : ∀ side, (config.pool side).maxSize ≠ 0)
    {request : FileRequest}
    {issued : Issued}
    (answers : Answers facade time request (.ok issued) after) :
    issued.number < (after.pool issued.side).handles.length := by
  have differ := ledgers.keysDiffer request.side
  cases answers with
  | @hit resolved number _ _ found pool =>
      have seeks := evolves_seek time.starts differ resolved.key
      obtain ⟨entry, isLive, rfl⟩ := Option.map_eq_some_iff.mp found
      rw [pool.handles_eq, seeks.length_handles_eq]
      exact (ledgers _).sound.custody.opened entry
        (differ.live?_eq_some_iff.mp isLive).1
  | opened _ missing opened evolves pool =>
      have fresh := opensFresh _ ⟨_, _, rfl⟩ _ _ (congrArg Prod.fst opened)
      have evolved := (ledgers request.side).evolves evolves
      have adopted := (evolved.adopt (holdsSome request.side)
        (evolves.live?_eq_none differ missing) fresh).same pool
      exact adopted.given_le

/-- Whatever is done with a façade keeps the ledgers. -/
theorem operate
    (ledgers : facade.Ledgers config given)
    (opensFresh : (storeConduct : Conduct σ FileHandle).OpensFresh)
    (holdsSome : ∀ side, (config.pool side).maxSize ≠ 0)
    (time : CallTime)
    {operation : Operation σ}
    (newHandles : operation.OpensFresh) :
    (facade.operate time operation).2.Ledgers config given := by
  refine (lasting holdsSome given).operate ?_ ledgers time ?_
  · intro path mode store handle later opened
    exact opensFresh _ ⟨_, _, rfl⟩ _ _ (congrArg Prod.fst opened)
  · rintro side key handle rfl
    exact newHandles

/-- What a façade answers with was opened. -/
theorem lt_of_operate
    (ledgers : facade.Ledgers config given)
    (opensFresh : (storeConduct : Conduct σ FileHandle).OpensFresh)
    (holdsSome : ∀ side, (config.pool side).maxSize ≠ 0)
    (time : CallTime)
    {operation : Operation σ}
    {issued : Issued}
    (answered : (facade.operate time operation).1.given? = some issued) :
    issued.number <
      ((facade.operate time operation).2.pool issued.side).handles.length := by
  cases operation with
  | request request =>
      have answers := answers_request ledgers.keysDiffer time request
      simp only [Facade.operate] at answered ⊢
      generalize facade.request time request = gave at answered answers ⊢
      obtain ⟨result, after⟩ := gave
      cases result with
      | error error => cases answered
      | ok given =>
          obtain rfl : given = issued := Option.some.inj answered
          exact ledgers.lt_of_answers opensFresh holdsSome answers
  | _ => cases answered

/-- A façade that holds nothing on a side opens what is asked for on that side,
and gives the handle out as the store opened it, unless it was idle for too long
before the call returned. -/
theorem request_of_empty
    (ledgers : facade.Ledgers config given)
    (opensFresh : (storeConduct : Conduct σ FileHandle).OpensFresh)
    (holdsSome : ∀ side, (config.pool side).maxSize ≠ 0)
    {request : FileRequest}
    (empty : (facade.pool request.side).entries = [])
    (admissible : request.isAdmissible = true)
    {resolved : Resolved}
    (isResolved : facade.resolve request.path = .ok resolved)
    (time : CallTime) :
    let opened := (FileStore.openFile resolved.path request.mode facade.store).1
    let next : Issued :=
      ⟨request.side, (facade.pool request.side).handles.length⟩
    (facade.request time request).1 = opened.map (fun _ => next) ∧
      ∀ handle, opened = .ok handle →
        time.settles < time.inserts +
          (config.pool request.side).idle.totalNanos →
        (facade.request time request).2.handle? next = some handle := by
  intro opened next
  have missing : ∀ key,
      (facade.pool request.side).live? time.starts key = none := by
    intro key
    rw [live?, entryOf?, empty]
    rfl
  have answers := answers_request ledgers.keysDiffer time request
  generalize facade.request time request = gave at answers ⊢
  obtain ⟨result, after⟩ := gave
  cases answers with
  | refused reason => exact absurd ⟨admissible, resolved, isResolved⟩ reason
  | hit _ found =>
      rw [missing] at found
      cases found
  | @failed other error _ isOther _ failed =>
      obtain rfl := Except.ok.inj (isResolved.symm.trans isOther)
      have isError : opened = .error error := congrArg Prod.fst failed
      simp only [isError]
      exact ⟨rfl, fun handle isOk => by cases isOk⟩
  | @opened other handle sought _ isOther _ opens evolves pool =>
      obtain rfl := Except.ok.inj (isResolved.symm.trans isOther)
      have isOk : opened = .ok handle := congrArg Prod.fst opens
      have sameLength := evolves.length_handles_eq
      simp only [isOk, next, ← sameLength]
      refine ⟨rfl, fun found same inTime => ?_⟩
      obtain rfl := Except.ok.inj same
      -- Nothing is held but what is opened now.
      have onlyOpened :
          (facade.pool request.side).Sound (config.pool request.side)
          fun _ kept => kept = handle :=
        (ledgers request.side).sound.mono fun entry held => by
          rw [empty] at held
          cases held
      have sound := onlyOpened.evolves evolves
      have soughtMissing :=
        evolves.live?_eq_none (ledgers.keysDiffer request.side)
        (missing resolved.key)
      have fresh := opensFresh _ ⟨_, _, rfl⟩ _ _ (congrArg Prod.fst opens)
      have adopted :=
        sound.adopt (holdsSome request.side) soughtMissing fresh rfl
      have roomy := holdsSome request.side
      rw [← sound.config_eq] at roomy inTime
      obtain ⟨kept, located, -, rfl⟩ := adopted.exists_handle
        (mem_entries_adopt sound.custody.keysDiffer roomy inTime
          soughtMissing handle)
      rw [handle?, pool.handles_eq]
      exact located

theorem visit
    (ledgers : facade.Ledgers config given)
    (opensFresh : (storeConduct : Conduct σ FileHandle).OpensFresh)
    (holdsSome : ∀ side, (config.pool side).maxSize ≠ 0)
    {call : Visit σ}
    (newHandles : call.operation.OpensFresh) :
    (facade.visit call).2.Ledgers config given :=
  (ledgers.atStore call.found).operate opensFresh holdsSome call.time newHandles

omit [FileStore σ] in
/-- A façade that is released holds nothing, and all its
handles were closed once. -/
theorem shut_release
    (ledgers : facade.Ledgers config given)
    (now : Instant)
    (side : Side) :
    ((facade.release now).pool side).Shut :=
  ((ledgers side).shut_invalidateAll now).same
    (facade.same_pool_changeBoth (fun pool => pool.invalidateAll now) side)

omit [FileStore σ] in
theorem length_handles_release
    (ledgers : facade.Ledgers config given)
    (now : Instant)
    (side : Side) :
    ((facade.release now).pool side).handles.length =
      (facade.pool side).handles.length := by
  have same :=
    facade.same_pool_changeBoth (fun pool => pool.invalidateAll now) side
  rw [Facade.release, same.handles_eq]
  exact (evolves_invalidateAll now (ledgers.keysDiffer side)).length_handles_eq

end Ledgers

end Facade

/-! ## Owners -/

namespace SharedFacade

variable {shared : SharedFacade σ} {owner other : Nat}

theorem isHeld_of_isHeldBy
    (held : shared.isHeldBy owner = true) :
    shared.isHeld = true := by
  rw [isHeldBy, beq_iff_eq] at held
  exact List.any_eq_true.mpr ⟨true, List.mem_of_getElem? held, rfl⟩

theorem owners_drop
    (shared : SharedFacade σ)
    (now : Instant)
    (owner : Nat) :
    (shared.drop now owner).owners = shared.owners.set owner false := by
  simp only [drop]
  split <;> rfl

/-- The façade is released when no owner is left, and not before. -/
theorem facade_drop
    (held : shared.isHeld = true)
    (now : Instant)
    (owner : Nat) :
    (shared.drop now owner).facade =
      if (shared.drop now owner).isHeld then shared.facade
      else shared.facade.release now := by
  have sameHeld : (shared.drop now owner).isHeld =
      (shared.owners.set owner false).any id :=
    congrArg (List.any · id) (owners_drop shared now owner)
  rw [isHeld] at held
  rw [sameHeld]
  cases left :
    (shared.owners.set owner false).any id <;> simp [drop, isHeld, held, left]

/-- Nothing happens to a façade that another owner holds. -/
theorem facade_drop_of_ne
    (different : owner ≠ other)
    (held : shared.isHeldBy other = true)
    (now : Instant) :
    (shared.drop now owner).facade = shared.facade := by
  have stillHeld : (shared.drop now owner).isHeldBy other = true := by
    rw [isHeldBy, owners_drop, List.getElem?_set_ne different]
    exact held
  rw [facade_drop (isHeld_of_isHeldBy held),
    if_pos (isHeld_of_isHeldBy stillHeld)]

end SharedFacade

/-- What an owner of a shared façade does. -/
inductive OwnerStep (σ : Type) where
  | visits (owner : Nat) (visit : Visit σ)
  /-- One more owner is to share the façade. -/
  | clones (owner : Nat)
  /-- The owner lets go of the façade. -/
  | drops (owner : Nat) (now : Instant)

namespace OwnerStep

def owner : OwnerStep σ → Nat
  | visits owner _ | clones owner | drops owner _ => owner

/-- What the step opens is fresh, whatever it asks the store for. -/
def OpensFresh : OwnerStep σ → Prop
  | visits _ visit => visit.operation.OpensFresh
  | clones _ | drops .. => True

end OwnerStep

/-- A shared façade, and the handles that its owners were given. -/
structure OwnerSession (σ : Type) where
  shared : SharedFacade σ
  issued : List Issued := []

namespace OwnerSession

open Facade Pool

variable [FileStore σ]

/-- Take a step, unless its owner has let go of the façade. -/
def take (session : OwnerSession σ) (step : OwnerStep σ) : OwnerSession σ :=
  if session.shared.isHeldBy step.owner then
    match step with
    | .visits _ visit =>
        let returned := session.shared.facade.visit visit
        { shared := { session.shared with facade := returned.2 }
          issued := session.issued ++ returned.1.given?.toList }
    | .clones _ => { session with shared := session.shared.clone }
    | .drops owner now =>
        { session with shared := session.shared.drop now owner }
  else session

/-- A façade with one owner after some steps. -/
def run (facade : Facade σ) (steps : List (OwnerStep σ)) : OwnerSession σ :=
  steps.foldl take { shared := { facade := facade } }

/-- The ledgers of both pools are kept, every handle that was given is on
record, and a façade that nobody holds is empty. -/
structure Kept (config : FacadeConfig) (session : OwnerSession σ) : Prop where
  ledgers : session.shared.facade.Ledgers config fun _ => 0
  recorded : ∀ issued ∈ session.issued,
    issued.number < (session.shared.facade.pool issued.side).handles.length
  released : session.shared.isHeld = false → ∀ side,
    (session.shared.facade.pool side).entries = []

theorem kept_take
    (opensFresh : (storeConduct : Conduct σ FileHandle).OpensFresh)
    {config : FacadeConfig}
    (holdsSome : ∀ side, (config.pool side).maxSize ≠ 0)
    {session : OwnerSession σ}
    (kept : session.Kept config)
    {step : OwnerStep σ}
    (newHandles : step.OpensFresh) :
    (session.take step).Kept config := by
  obtain ⟨ledgers, recorded, released⟩ := kept
  unfold take
  split
  · next held =>
    have isHeld := SharedFacade.isHeld_of_isHeldBy held
    cases step with
    | visits owner visit =>
        -- Handles stay on record, so the ledgers may count all of them.
        have counted : session.shared.facade.Ledgers config fun side =>
            (session.shared.facade.pool side).handles.length := fun side =>
          (ledgers side).mono (Nat.le_refl _)
        have after := counted.visit opensFresh holdsSome newHandles
        refine ⟨fun side => (after side).mono (Nat.zero_le _), ?_,
          fun notHeld => ?_⟩
        · intro issued given
          rw [List.mem_append, Option.mem_toList] at given
          obtain earlier | now := given
          · exact Nat.lt_of_lt_of_le (recorded issued earlier)
              (after issued.side).given_le
          · exact (ledgers.atStore visit.found).lt_of_operate opensFresh
              holdsSome visit.time now
        · exact absurd (isHeld.symm.trans notHeld) (by decide)
    | clones owner =>
        refine ⟨ledgers, recorded, fun notHeld => ?_⟩
        simp [SharedFacade.isHeld, SharedFacade.clone] at notHeld
    | drops owner now =>
        have dropped := SharedFacade.facade_drop isHeld now owner
        cases left : (session.shared.drop now owner).isHeld with
        | true =>
            rw [left, if_pos rfl] at dropped
            refine ⟨dropped ▸ ledgers, dropped ▸ recorded, fun notHeld => ?_⟩
            exact absurd (left.symm.trans notHeld) (by decide)
        | false =>
            rw [left, if_neg Bool.false_ne_true] at dropped
            refine ⟨dropped ▸ ledgers.release now, ?_, ?_⟩
            · intro issued given
              rw [dropped, ledgers.length_handles_release]
              exact recorded issued given
            · intro _ side
              rw [dropped]
              exact (ledgers.shut_release now side).entries_eq
  · exact ⟨ledgers, recorded, released⟩

theorem kept_run
    (opensFresh : (storeConduct : Conduct σ FileHandle).OpensFresh)
    {config : FacadeConfig}
    (holdsSome : ∀ side, (config.pool side).maxSize ≠ 0)
    {start : Facade σ}
    (ledgers : start.Ledgers config fun _ => 0)
    {steps : List (OwnerStep σ)}
    (newHandles : ∀ step ∈ steps, step.OpensFresh) :
    (run start steps).Kept config :=
  List.foldlRecOn steps take (motive := fun session => session.Kept config)
    ⟨ledgers, fun _ given => absurd given List.not_mem_nil,
      fun notHeld => by cases notHeld⟩
    fun _ kept step present =>
      kept_take opensFresh holdsSome kept (newHandles step present)

/-- In every session of owners that share a façade with a valid configuration:
letting all handles go, at any time, leaves nothing held and every handle ever
opened closed once; then whatever can be opened is opened anew and given out; an
owner that lets go before the last one changes nothing; and when no owner is
left, nothing is held, and every handle ever opened was closed once.  The
handles that owners were given are among these. -/
theorem closed_once
    {config : FacadeConfig}
    {store : σ}
    {start : Facade σ}
    (opensFresh : (storeConduct : Conduct σ FileHandle).OpensFresh)
    (created : Facade.create config store = .ok start)
    (steps : List (OwnerStep σ))
    (newHandles : ∀ step ∈ steps, step.OpensFresh) :
    let session := run start steps
    let facade := session.shared.facade
    (∀ now side, ((facade.closeAll now).pool side).Shut ∧
      ((facade.closeAll now).pool side).handles.length =
        (facade.pool side).handles.length) ∧
    (∀ now time found request resolved, request.isAdmissible = true →
      Resolved.ofPath (FileStore.workingDirectory found) request.path =
        .ok resolved →
        let opened := (FileStore.openFile resolved.path request.mode found).1
        let next : Issued :=
          ⟨request.side, (facade.pool request.side).handles.length⟩
        let returned :=
          (facade.closeAll now).visit ⟨time, found, .request request⟩
        returned.1 = .issued (opened.map fun _ => next) ∧
          ∀ handle, opened = .ok handle →
            time.settles < time.inserts +
              (config.pool request.side).idle.totalNanos →
            returned.2.handle? next = some handle) ∧
    (∀ now owner other, owner ≠ other → session.shared.isHeldBy other = true →
      (session.shared.drop now owner).facade = facade) ∧
    (session.shared.isHeld = false → ∀ side, (facade.pool side).Shut) ∧
    ∀ issued ∈ session.issued,
      issued.number < (facade.pool issued.side).handles.length := by
  intro session facade
  have holdsSome : ∀ side, (config.pool side).maxSize ≠ 0 := fun side =>
    (FacadeConfig.roomy_of_validate (validate_of_create created) side).1
  obtain ⟨ledgers, recorded, released⟩ : session.Kept config :=
    kept_run opensFresh holdsSome (ledgers_create created) newHandles
  have shut : ∀ now side, ((facade.closeAll now).pool side).Shut ∧
      ((facade.closeAll now).pool side).handles.length =
        (facade.pool side).handles.length := by
    intro now side
    rw [closeAll, pool_note]
    exact ⟨ledgers.shut_release now side,
      ledgers.length_handles_release now side⟩
  refine ⟨shut, ?_, ?_, ?_, recorded⟩
  · intro now time found request resolved admissible isResolved
    have closed : (facade.closeAll now).Ledgers config fun _ => 0 := by
      intro side
      rw [closeAll, pool_note]
      exact ledgers.release now side
    have reopens := (closed.atStore found).request_of_empty opensFresh holdsSome
      (by rw [pool_atStore]; exact (shut now request.side).1.entries_eq)
      admissible isResolved time
    rw [pool_atStore, (shut now request.side).2] at reopens
    exact ⟨congrArg VisitReply.issued reopens.1, reopens.2⟩
  · intro now owner other different held
    exact SharedFacade.facade_drop_of_ne different held now
  · intro notHeld side
    exact (ledgers side).shut (released notHeld side)

/-- A handle that reports an error when it is closed. -/
def faultyHandle : FileHandle where
  path := plainSpelling
  mode := .read
  descriptor := some { node := 0, fault := some (.system Errno.inputOutput) }

/-- Two owners have a handle opened each; then one after the other lets go. -/
def twoOwners : List (OwnerStep Tree) :=
  [.visits 0 ⟨.instantly 0, .empty, .request (.toWrite plainSpelling .create)⟩,
    .clones 0,
    .visits 1 ⟨.instantly 1, .empty,
      .inside .read (.request "/g" (.ok faultyHandle))⟩,
    .drops 0 2, .drops 1 3]

/-- The last owner has both handles closed, the one that
reports an error too. -/
theorem closed_once_of_two_owners :
    (∀ step ∈ twoOwners, step.OpensFresh) ∧
      ∃ start, Facade.create {} Tree.empty = .ok start ∧
        let session := run start twoOwners
        session.shared.isHeld = false ∧ session.issued = [⟨.write, 0⟩] ∧
          session.shared.facade.read.counters.closeFailures = 1 ∧
          ∀ side, (session.shared.facade.pool side).Shut := by
  have newHandles : ∀ step ∈ twoOwners, step.OpensFresh := by
    simp [twoOwners, OwnerStep.OpensFresh, Operation.OpensFresh,
      PoolCall.OpensFresh,
      TrackedHandle.IsFresh, faultyHandle, Handle.isOpen, FileHandle.isOpen,
      TrackedHandle.closeCalls]
  have holds :=
    closed_once opensFresh_tree
      (show Facade.create {} Tree.empty = .ok _ from rfl)
    twoOwners newHandles
  refine ⟨newHandles, _, rfl, ?_, ?_, ?_, holds.2.2.2.1 ?_⟩
  · decide +kernel
  · decide +kernel
  · decide +kernel
  · decide +kernel

end OwnerSession
end HandlePool
