import HandlePool.Proofs.Facade.Alone
import HandlePool.Proofs.FileHandle
import HandlePool.Proofs.FileStore.Restricted
import HandlePool.Proofs.Pool.Fitness

/-!
# Sessions of calls to one façade

A session makes call after call to a façade over a tree.  Any time may pass
before a call.  A call that opens a handle may take any time until the handle is
opened and kept, and any time from then until it puts its pool in order.  The
system may refuse the calls that reach the tree, and let them through again.
Between calls the handles that were given out are written through, and the tree
may be changed by others.  Calls that only look at something change nothing, and
are left out.

`Facade.Answers` says how a request for a handle is answered, and
`Facade.Acts` what any action does to the pools and the tree; no later
proof opens a call again.
-/

namespace HandlePool

/-! ## Actions -/

/-- A request to a façade for a handle. -/
inductive FileRequest where
  | toRead (path : Path)
  | toWrite (path : Path) (mode : OpenMode)
  /-- To read or to write, as the mode says. -/
  | byMode (path : Path) (mode : OpenMode)

namespace FileRequest

def path : FileRequest → Path
  | .toRead path | .toWrite path _ | .byMode path _ => path

/-- The mode that a handle is opened with for the request. -/
def mode : FileRequest → OpenMode
  | .toRead _ => .read
  | .toWrite _ mode | .byMode _ mode => mode

/-- The side whose pool is asked. -/
def side : FileRequest → Side
  | .toRead _ => .read
  | .toWrite .. => .write
  | .byMode _ mode => if mode.writes then .write else .read

/-- A handle for writing is asked for with a mode that writes. -/
def isAdmissible : FileRequest → Bool
  | .toWrite _ mode => mode.writes
  | .toRead _ | .byMode .. => true

/-- An admissible request asks the pool that its mode belongs to. -/
theorem isAdmissible_iff
    {request : FileRequest} :
    request.isAdmissible = true ↔
      (request.mode.writes = true ↔ request.side = .write) := by
  cases request with
  | toRead path => simp [isAdmissible, mode, side, OpenMode.writes]
  | toWrite path mode => simp [isAdmissible, FileRequest.mode, side]
  | byMode path mode =>
      cases mode <;> simp [isAdmissible, FileRequest.mode, side]

end FileRequest

/-- A call that writes through a handle. -/
inductive FileWrite where
  | writeAt (bytes : List UInt8) (offset : UInt64)
  | append (bytes : List UInt8)

/-- The handle and the tree after a call that writes, refused or not. -/
def FileWrite.run (handle : FileHandle) (tree : Tree) :
    FileWrite → FileHandle × Tree
  | .writeAt bytes offset =>
      (handle, (handle.writeAt tree bytes offset).toOption.getD tree)
  | .append bytes => (handle.append tree bytes).toOption.getD (handle, tree)

/-- Something that is done to a façade, to a handle that it
gave out, or to its tree. -/
inductive FacadeAction where
  | request (request : FileRequest)
  | createFile (path : Path) (permissions : Permissions)
  | delete (path : Path)
  | createDirectories (path : Path)
  | setPermissions (path : Path) (permissions : Permissions)
  | closeAll
  | settle
  | write (issued : Issued) (write : FileWrite)
  /-- Others change the tree. -/
  | elsewhere (change : Tree → Tree)
  /-- From now on the system refuses calls to the tree, or it no longer does. -/
  | restrict (refusal : Option Refusal)

/-- What an action does to the tree, if it is about nothing else. -/
def FacadeAction.change? :
    FacadeAction → Option (RestrictedTree → RestrictedTree)
  | .createDirectories path => some fun store =>
      (FileStore.createDirectories path store).2
  | .setPermissions path permissions =>
      some fun store => (FileStore.setPermissions path permissions store).2
  | .elsewhere change => some fun store =>
      { store with tree := change store.tree }
  | .restrict refusal => some fun store => { store with refusal := refusal }
  | _ => none

namespace Facade

variable {σ : Type}

/-- Ask for a handle. -/
def request [FileStore σ] (facade : Facade σ) (time : CallTime) :
    FileRequest → Except IoError Issued × Facade σ
  | .toRead path => facade.openForRead time path
  | .toWrite path mode => facade.openForWrite time path mode
  | .byMode path mode => facade.openPath time path mode

/-- Put a handle back that was given out. -/
def replace (facade : Facade σ) (issued : Issued)
    (handle : FileHandle) : Facade σ :=
  facade.change issued.side fun pool => pool.withHandle issued.number handle

/-- The action takes the handles of a key out of both pools. -/
def Removes (facade : Facade RestrictedTree) (action : FacadeAction)
    (key : String) : Prop :=
  match action with
  | .createFile path _ | .delete path =>
      ∃ resolved, facade.resolve path = .ok resolved ∧ resolved.key = key
  | _ => False

/-- Take an action. -/
def perform (facade : Facade RestrictedTree) (time : CallTime) :
    FacadeAction → Facade RestrictedTree
  | .request request => (facade.request time request).2
  | .createFile path permissions =>
      (facade.createFile time.starts path permissions).2
  | .delete path => (facade.delete time.starts path).2
  | .createDirectories path => (facade.createDirectories path).2
  | .setPermissions path permissions =>
      (facade.setPermissions path permissions).2
  | .closeAll => facade.closeAll time.starts
  | .settle => facade.settle time.starts
  | .write issued write =>
      match facade.handle? issued with
      | none => facade
      | some handle =>
          let (handle, tree) := write.run handle facade.store.tree
          { facade with store := { facade.store with tree := tree } }.replace
            issued handle
  | .elsewhere change =>
      { facade with store :=
        { facade.store with tree := change facade.store.tree } }
  | .restrict refusal =>
      { facade with store := { facade.store with refusal := refusal } }

end Facade

/-! ## Sessions -/

/-- An action, with the time that passes before it and the
time that it takes. -/
structure FacadeTurn where
  pause : Nat
  action : FacadeAction
  /-- How long it takes to open a handle. -/
  opening : Nat := 0
  /-- How long it takes from then on to put the pool in order. -/
  settling : Nat := 0

/-- A façade under a sequence of actions. -/
structure FacadeSession where
  facade : Facade RestrictedTree
  now : Instant := 0

namespace FacadeSession

/-- When the next action is taken. -/
def timeOf (session : FacadeSession) (turn : FacadeTurn) : CallTime :=
  .lasting (session.now + turn.pause) turn.opening turn.settling

/-- Take the next action. -/
def take (session : FacadeSession) (turn : FacadeTurn) : FacadeSession where
  facade := session.facade.perform (session.timeOf turn) turn.action
  now := (session.timeOf turn).settles

/-- The session after some actions. -/
def run (facade : Facade RestrictedTree) (turns : List FacadeTurn) :
    FacadeSession :=
  turns.foldl take { facade := facade }

/-- What every action of a session keeps holds after the session. -/
theorem run_keeps
    (keeps : Facade RestrictedTree → Prop)
    {start : Facade RestrictedTree}
    {turns : List FacadeTurn}
    (starts : keeps start)
    (kept : ∀ (facade : Facade RestrictedTree) (time : CallTime),
      ∀ turn ∈ turns, keeps facade → keeps (facade.perform time turn.action)) :
    keeps (run start turns).facade :=
  List.foldlRecOn turns take
    (motive := fun session => keeps session.facade) starts
    fun session before turn present =>
      kept session.facade (session.timeOf turn) turn present before

end FacadeSession

/-! ## How a request is answered -/

namespace Pool

/-- The pool evolves, and what it noted is taken over by its façade. -/
def Becomes {η : Type} [Handle η] (now : Instant)
    (pool after : Pool η) : Prop :=
  ∃ evolved, Evolves now pool evolved ∧ Same evolved after

theorem same_refl
    {η : Type}
    (pool : Pool η) :
    Same pool pool :=
  ⟨pool.journal, rfl⟩

theorem becomes_of_same
    {η : Type}
    [Handle η]
    {now : Instant}
    {pool after : Pool η}
    (same : Same pool after) :
    Becomes now pool after :=
  ⟨pool, .done pool, same⟩

end Pool

namespace Facade

open Pool

variable {σ : Type} [FileStore σ] {facade after : Facade σ} {time : CallTime}

/-- How a request is answered: it is refused at once, or a live entry is hit, or
the store opens no handle, or it opens one that is kept. -/
inductive Answers (facade : Facade σ) (time : CallTime)
    (request : FileRequest) :
    Except IoError Issued → Facade σ → Prop
  | refused {error : IoError} {after : Facade σ} :
      ¬(request.isAdmissible = true ∧
        ∃ resolved, facade.resolve request.path = .ok resolved) →
      (∀ side, Same (facade.pool side) (after.pool side)) →
      after.store = facade.store →
      Answers facade time request (.error error) after
  | hit {resolved : Resolved} {number : Nat} {after : Facade σ} :
      facade.resolve request.path = .ok resolved →
      ((facade.pool request.side).live? time.starts resolved.key).map
        Entry.handle = some number →
      Same ((facade.pool request.side).seek time.starts resolved.key).2
        (after.pool request.side) →
      (∀ other, other ≠ request.side →
        Same (facade.pool other) (after.pool other)) →
      after.store = facade.store →
      request.isAdmissible = true →
      Answers facade time request (.ok ⟨request.side, number⟩) after
  | failed {resolved : Resolved} {error : IoError} {after : Facade σ} :
      facade.resolve request.path = .ok resolved →
      (facade.pool request.side).live? time.starts resolved.key = none →
      FileStore.openFile resolved.path request.mode facade.store =
        (.error error, after.store) →
      Becomes time.starts (facade.pool request.side) (after.pool request.side) →
      (∀ other, other ≠ request.side →
        Same (facade.pool other) (after.pool other)) →
      Answers facade time request (.error error) after
  | opened {resolved : Resolved} {handle : FileHandle}
      {sought : Pool FileHandle} {after : Facade σ} :
      facade.resolve request.path = .ok resolved →
      (facade.pool request.side).live? time.starts resolved.key = none →
      FileStore.openFile resolved.path request.mode facade.store =
        (.ok handle, after.store) →
      Evolves time.starts (facade.pool request.side) sought →
      Same (sought.adopt time resolved.key handle) (after.pool request.side) →
      (∀ other, other ≠ request.side →
        Same (facade.pool other) (after.pool other)) →
      request.isAdmissible = true →
      Answers facade time request
        (.ok ⟨request.side, sought.handles.length⟩) after

/-- A path is resolved by the store alone. -/
theorem resolve_eq_of_store_eq
    {other : Facade σ}
    (sameStore : other.store = facade.store)
    (path : Path) :
    other.resolve path = facade.resolve path := by
  rw [resolve, resolve, sameStore]

/-- Answers depend on the pools and the store alone. -/
theorem Answers.congr
    {request : FileRequest}
    {result : Except IoError Issued}
    {other otherAfter : Facade σ}
    (answers : Answers facade time request result after)
    (samePools : ∀ side, other.pool side = facade.pool side)
    (sameStore : other.store = facade.store)
    (samePoolsAfter : ∀ side, otherAfter.pool side = after.pool side)
    (sameStoreAfter : otherAfter.store = after.store) :
    Answers other time request result otherAfter := by
  have sameResolved := resolve_eq_of_store_eq sameStore request.path
  cases answers with
  | refused reason pools store =>
      refine .refused (by rwa [sameResolved]) (fun side => ?_)
        (by rw [sameStoreAfter, store, sameStore])
      rw [samePools, samePoolsAfter]
      exact pools side
  | hit isResolved found pool others store admissible =>
      refine .hit (sameResolved.trans isResolved) (by rwa [samePools])
        (by rwa [samePools, samePoolsAfter]) ?_
        (by rw [sameStoreAfter, store, sameStore]) admissible
      intro side different
      rw [samePools, samePoolsAfter]
      exact others side different
  | failed isResolved missing opened pool others =>
      refine .failed (sameResolved.trans isResolved) (by rwa [samePools])
        (by rwa [sameStore, sameStoreAfter])
        (by rwa [samePools, samePoolsAfter]) ?_
      intro side different
      rw [samePools, samePoolsAfter]
      exact others side different
  | opened isResolved missing opened evolves pool others admissible =>
      refine .opened (sameResolved.trans isResolved) (by rwa [samePools])
        (by rwa [sameStore, sameStoreAfter])
        (by rwa [samePools]) (by rwa [samePoolsAfter]) ?_ admissible
      intro side different
      rw [samePools, samePoolsAfter]
      exact others side different

theorem answers_openOn
    (time : CallTime)
    {request : FileRequest}
    (differ : (facade.pool request.side).KeysDiffer)
    (admissible : request.isAdmissible = true)
    {resolved : Resolved}
    (isResolved : facade.resolve request.path = .ok resolved)
    (opening : FacadeEvent) :
    Answers facade time request
      (facade.openOn request.side time resolved request.mode opening).1
      (facade.openOn request.side time resolved request.mode opening).2 := by
  obtain ⟨result, pool, others, store⟩ :=
    facade.openOn_eq request.side time resolved
    request.mode opening rfl
  have same : ∀ other, other ≠ request.side → Same (facade.pool other)
      ((facade.openOn request.side time resolved request.mode opening).2.pool
        other) := by
    intro other different
    rw [others other different]
    exact same_refl _
  cases found : (facade.pool request.side).live? time.starts resolved.key with
  | some entry =>
      rw [getOrOpen_of_some found] at result pool store
      rw [result]
      exact .hit isResolved (by rw [found]; rfl) pool same store admissible
  | none =>
      have evolves := evolves_seek time.starts differ resolved.key
      rw [getOrOpen_of_none found] at result pool store
      generalize ((facade.pool request.side).seek time.starts resolved.key).2 =
        sought at result pool store evolves
      cases opened :
        FileStore.openFile resolved.path request.mode facade.store with
      | mk outcome later =>
          cases outcome with
          | error error =>
              have missed : sought.openMissing time resolved.key
                  (FileStore.openFile resolved.path request.mode) facade.store =
                  (.error error, sought.count .openFailure, later) := by
                rw [openMissing, opened]
              rw [missed] at result pool store
              rw [result]
              refine .failed isResolved found (by rw [opened, store])
                ⟨_, ?_, pool⟩ same
              exact evolves.trans
                (.count .openFailure (.inr (.inr rfl)) (.done _))
          | ok handle =>
              rw [openMissing_of_ok sought time resolved.key opened]
                at result pool store
              rw [result]
              exact .opened isResolved found (by rw [opened, store]) evolves
                pool same admissible

/-- Noting an event changes no answer. -/
theorem answers_note
    {request : FileRequest}
    {result : Except IoError Issued}
    (event : FacadeEvent)
    (answers : Answers (facade.note event) time request result after) :
    Answers facade time request result after :=
  answers.congr (fun side => (facade.pool_note event side).symm) rfl
    (fun _ => rfl) rfl

omit [FileStore σ] in
theorem pool_noteOtherMode
    (facade : Facade σ)
    (key : String)
    (requested : OpenMode)
    (issued : Issued)
    (side : Side) :
    (facade.noteOtherMode key requested issued).pool side =
      facade.pool side := by
  unfold noteOtherMode
  split
  · rfl
  · split
    · rfl
    · exact pool_note ..

omit [FileStore σ] in
theorem store_noteOtherMode
    (facade : Facade σ)
    (key : String)
    (requested : OpenMode)
    (issued : Issued) :
    (facade.noteOtherMode key requested issued).store = facade.store := by
  unfold noteOtherMode
  split
  · rfl
  · split <;> rfl

theorem answers_openForRead
    (differ : ∀ side, (facade.pool side).KeysDiffer)
    (time : CallTime)
    (request : FileRequest)
    (onRead : request.side = .read)
    (toRead : request.mode = .read) :
    Answers facade time request (facade.openForRead time request.path).1
      (facade.openForRead time request.path).2 := by
  unfold openForRead
  split
  · next error unresolved =>
    refine .refused ?_ (fun side => same_refl _) rfl
    rintro ⟨-, resolved, isResolved⟩
    cases unresolved.symm.trans isResolved
  · next resolved isResolved =>
    have admissible : request.isAdmissible = true := by
      rw [FileRequest.isAdmissible_iff, onRead, toRead]
      decide
    have answers :=
      answers_openOn time (differ request.side) admissible isResolved
      (.openingToRead resolved.key)
    rwa [onRead, toRead] at answers

theorem answers_openForWrite
    (differ : ∀ side, (facade.pool side).KeysDiffer)
    (time : CallTime)
    (request : FileRequest)
    (onWrite : request.side = .write) :
    Answers facade time request
      (facade.openForWrite time request.path request.mode).1
      (facade.openForWrite time request.path request.mode).2 := by
  unfold openForWrite
  split
  · next readsOnly =>
    have silent : request.mode.writes = false := by simpa using readsOnly
    refine .refused ?_ (fun side => same_refl _) rfl
    rintro ⟨admissible, -⟩
    have writes := (FileRequest.isAdmissible_iff.mp admissible).mpr onWrite
    cases silent.symm.trans writes
  · next writesToo =>
    have writes : request.mode.writes = true := by simpa using writesToo
    have admissible :=
      FileRequest.isAdmissible_iff.mpr (iff_of_true writes onWrite)
    split
    · next error unresolved =>
      refine .refused ?_ (fun side => same_refl _) rfl
      rintro ⟨-, resolved, isResolved⟩
      cases unresolved.symm.trans isResolved
    · next resolved isResolved =>
      have answers :=
        answers_openOn time (differ request.side) admissible isResolved
        (.openingToWrite resolved.key request.mode)
      rw [onWrite] at answers
      split
      · next error opened facadeEq =>
        rwa [facadeEq] at answers
      · next issued opened facadeEq =>
        rw [facadeEq] at answers
        exact answers.congr (fun side => rfl) rfl
          (fun side => pool_noteOtherMode ..) (store_noteOtherMode ..)

theorem answers_request
    (differ : ∀ side, (facade.pool side).KeysDiffer)
    (time : CallTime)
    (request : FileRequest) :
    Answers facade time request (facade.request time request).1
      (facade.request time request).2 := by
  cases request with
  | toRead path => exact answers_openForRead differ time (.toRead path) rfl rfl
  | toWrite path mode =>
      exact answers_openForWrite differ time (.toWrite path mode) rfl
  | byMode path mode =>
      have noted : ∀ side,
          ((facade.note (.routed path mode)).pool side).KeysDiffer := by
        intro side
        rw [pool_note]
        exact differ side
      apply answers_note (.routed path mode)
      simp only [request, openPath]
      cases writes : mode.writes with
      | true =>
          have onWrite : (FileRequest.byMode path mode).side = .write :=
            if_pos writes
          exact answers_openForWrite noted time (.byMode path mode) onWrite
      | false =>
          have onRead : (FileRequest.byMode path mode).side = .read :=
            if_neg (Bool.eq_false_iff.mp writes)
          have toRead : (FileRequest.byMode path mode).mode = .read := by
            cases mode <;> first | rfl | cases writes
          exact answers_openForRead noted time (.byMode path mode) onRead toRead

/-! ## What an action does -/

/-- What an action does to the pools and the tree of a façade: the pools evolve,
or one of them keeps a new handle, or a handle is written through.  A path that
is created or deleted loses its key first. -/
inductive Acts (facade : Facade RestrictedTree) (time : CallTime) :
    FacadeAction → Facade RestrictedTree → Prop
  | quiet {action : FacadeAction} {after : Facade RestrictedTree} :
      (∀ key, ¬facade.Removes action key) →
      (∀ side, Becomes time.starts (facade.pool side) (after.pool side)) →
      after.store = facade.store →
      Acts facade time action after
  | opens {request : FileRequest} {resolved : Resolved} {handle : FileHandle}
        {sought : Pool FileHandle} {after : Facade RestrictedTree} :
      facade.resolve request.path = .ok resolved →
      (facade.pool request.side).live? time.starts resolved.key = none →
      FileStore.openFile resolved.path request.mode facade.store =
        (.ok handle, after.store) →
      Evolves time.starts (facade.pool request.side) sought →
      Same (sought.adopt time resolved.key handle) (after.pool request.side) →
      (∀ other, other ≠ request.side →
        Same (facade.pool other) (after.pool other)) →
      request.isAdmissible = true →
      Acts facade time (.request request) after
  | creates {path : Path} {permissions : Permissions} {resolved : Resolved}
        {after : Facade RestrictedTree} :
      facade.resolve path = .ok resolved →
      (∀ side, Same ((facade.pool side).invalidate time.starts resolved.key)
        (after.pool side)) →
      after.store =
        (FileStore.createFile resolved.path permissions facade.store).2 →
      Acts facade time (.createFile path permissions) after
  | deletes {path : Path} {resolved : Resolved}
      {after : Facade RestrictedTree} :
      facade.resolve path = .ok resolved →
      (∀ side, Same ((facade.pool side).invalidate time.starts resolved.key)
        (after.pool side)) →
      after.store = (FileStore.delete resolved.path facade.store).2 →
      Acts facade time (.delete path) after
  | stores {action : FacadeAction} {change : RestrictedTree → RestrictedTree}
        {after : Facade RestrictedTree} :
      action.change? = some change →
      (∀ side, Same (facade.pool side) (after.pool side)) →
      after.store = change facade.store →
      Acts facade time action after
  | writes {issued : Issued} {write : FileWrite} {handle : FileHandle}
        {after : Facade RestrictedTree} :
      facade.handle? issued = some handle →
      Same ((facade.pool issued.side).withHandle issued.number
        (write.run handle facade.store.tree).1) (after.pool issued.side) →
      (∀ other, other ≠ issued.side →
        Same (facade.pool other) (after.pool other)) →
      after.store =
        { facade.store with tree := (write.run handle facade.store.tree).2 } →
      Acts facade time (.write issued write) after

@[simp] theorem store_note
    {σ : Type}
    (facade : Facade σ)
    (event : FacadeEvent) :
    (facade.note event).store = facade.store := rfl

@[simp] theorem pool_command
    {σ : Type}
    [FileStore σ]
    (facade : Facade σ)
    (command : StoreCommand)
    (side : Side) :
    (facade.command command).2.pool side = facade.pool side := by
  cases side <;> rfl

@[simp] theorem store_command
    {σ : Type}
    [FileStore σ]
    (facade : Facade σ)
    (command : StoreCommand) :
    (facade.command command).2.store = (command.run facade.store).2 := rfl

/-- What creating or deleting a path makes of a façade: the path is refused, or
its key is taken out of both pools and the store is given a command. -/
inductive Mutates {σ : Type} [FileStore σ] (facade : Facade σ) (now : Instant)
    (path : Path) : Facade σ → Prop
  | refused (error : IoError) :
      facade.resolve path = .error error → Mutates facade now path facade
  | commanded (resolved : Resolved) (command : StoreCommand) :
      facade.resolve path = .ok resolved →
      Mutates facade now path
        ((facade.invalidate now resolved.key).command command).2

theorem mutates_createFile
    {σ : Type}
    [FileStore σ]
    (facade : Facade σ)
    (now : Instant)
    (path : Path)
    (permissions : Permissions) :
    facade.Mutates now path (facade.createFile now path permissions).2 := by
  unfold createFile
  split
  · next error unresolved => exact .refused error unresolved
  · next resolved isResolved => exact .commanded resolved _ isResolved

theorem mutates_delete
    {σ : Type}
    [FileStore σ]
    (facade : Facade σ)
    (now : Instant)
    (path : Path) :
    facade.Mutates now path (facade.delete now path).2 := by
  unfold delete
  split
  · next error unresolved => exact .refused error unresolved
  · next resolved isResolved => exact .commanded resolved _ isResolved

theorem Answers.acts
    {facade after : Facade RestrictedTree}
    {time : CallTime}
    {request : FileRequest}
    {result : Except IoError Issued}
    (differ : ∀ side, (facade.pool side).KeysDiffer)
    (answers : Answers facade time request result after) :
    Acts facade time (.request request) after := by
  cases answers with
  | refused reason pools store =>
      exact .quiet (fun _ => id)
        (fun side => becomes_of_same (pools side)) store
  | hit isResolved found pool others store =>
      refine .quiet (fun _ => id) (fun side => ?_) store
      by_cases asked : side = request.side
      · subst asked
        exact ⟨_, evolves_seek time.starts (differ _) _, pool⟩
      · exact becomes_of_same (others side asked)
  | failed isResolved missing opened pool others =>
      refine .quiet (fun _ => id) (fun side => ?_) ?_
      · by_cases asked : side = request.side
        · subst asked
          exact pool
        · exact becomes_of_same (others side asked)
      · exact RestrictedTree.eq_of_openFile_error opened
  | opened isResolved missing opened evolves pool others admissible =>
      exact .opens isResolved missing opened evolves pool others admissible

theorem acts_perform
    {facade : Facade RestrictedTree}
    (differ : ∀ side, (facade.pool side).KeysDiffer)
    (time : CallTime)
    (action : FacadeAction) :
    Acts facade time action (facade.perform time action) := by
  cases action with
  | request request => exact (answers_request differ time request).acts differ
  | createFile path permissions =>
      simp only [perform, createFile]
      split
      · next error unresolved =>
        refine .quiet ?_ (fun side => becomes_of_same (same_refl _)) rfl
        rintro key ⟨resolved, isResolved, -⟩
        cases unresolved.symm.trans isResolved
      · next resolved isResolved =>
        refine .creates isResolved (fun side => ?_) ?_
        · rw [pool_command]
          exact facade.same_pool_changeBoth _ side
        · rw [store_command, invalidate, store_changeBoth]
          rfl
  | delete path =>
      simp only [perform, delete]
      split
      · next error unresolved =>
        refine .quiet ?_ (fun side => becomes_of_same (same_refl _)) rfl
        rintro key ⟨resolved, isResolved, -⟩
        cases unresolved.symm.trans isResolved
      · next resolved isResolved =>
        refine .deletes isResolved (fun side => ?_) ?_
        · rw [pool_command]
          exact facade.same_pool_changeBoth _ side
        · rw [store_command, invalidate, store_changeBoth]
          rfl
  | createDirectories path => exact .stores rfl (fun side => same_refl _) rfl
  | setPermissions path permissions =>
      exact .stores rfl (fun side => same_refl _) rfl
  | closeAll =>
      refine .quiet (fun _ => id)
        (fun side => ⟨_, evolves_invalidateAll time.starts (differ side), ?_⟩)
          ?_
      · rw [perform, closeAll, pool_note]
        exact facade.same_pool_changeBoth _ side
      · rw [perform, closeAll, store_note, store_changeBoth]
  | settle =>
      refine .quiet (fun _ => id)
        (fun side => ⟨_, evolves_settle time.starts (differ side), ?_⟩) ?_
      · exact facade.same_pool_changeBoth _ side
      · rw [perform, settle, store_changeBoth]
  | write issued write =>
      simp only [perform]
      split
      · exact .quiet (fun _ => id)
          (fun side => becomes_of_same (same_refl _)) rfl
      · next handle found =>
        refine .writes found ?_ ?_ ?_
        · rw [replace, change, pool_restore_self]
          exact ⟨[], rfl⟩
        · intro other different
          rw [replace, change, pool_restore_of_ne different]
          exact same_refl _
        · rw [replace, change, store_restore]
  | elsewhere change => exact .stores rfl (fun side => same_refl _) rfl
  | restrict refusal => exact .stores rfl (fun side => same_refl _) rfl

end Facade

/-! ## What a session keeps -/

/-- Writing through a handle leaves its path, its mode and its file. -/
theorem FileWrite.run_handle
    (write : FileWrite)
    (handle : FileHandle)
    (tree : Tree) :
    (write.run handle tree).1.path = handle.path ∧
      (write.run handle tree).1.mode = handle.mode ∧
      (write.run handle tree).1.releases = handle.releases ∧
      (write.run handle tree).1.descriptor.map Descriptor.node =
        handle.descriptor.map Descriptor.node := by
  cases write with
  | writeAt bytes offset => exact ⟨rfl, rfl, rfl, rfl⟩
  | append bytes =>
      simp only [run]
      cases appended : handle.append tree bytes with
      | error error => exact ⟨rfl, rfl, rfl, rfl⟩
      | ok result =>
          obtain ⟨descriptor, cursor, held, moved, -⟩ :=
            FileHandle.of_append appended
          simp only [Except.toOption, Option.getD_some, moved, held,
            Option.map_some, and_self]

namespace Facade

open Pool

variable
  {facade after : Facade RestrictedTree}
  {time : CallTime}
  {action : FacadeAction}
  {config : FacadeConfig}

/-- Both pools hold nothing but open handles that fit their keys in the tree. -/
def Sound
    (config : FacadeConfig)
    (fits : Tree → Side → String → FileHandle → Prop)
    (facade : Facade RestrictedTree) : Prop :=
  ∀ side, (facade.pool side).Sound (config.pool side)
    (fits facade.store.tree side)

/-- What handles fit keeps holding, if new handles fit, and old ones go on to
fit in the tree as it is changed. -/
theorem Acts.sound
    {fits : Tree → Side → String → FileHandle → Prop}
    (holdsSome : ∀ side, (config.pool side).maxSize ≠ 0)
    (acts : Acts facade time action after)
    (sound : facade.Sound config fits)
    (opened : ∀ request resolved handle, action = .request request →
      request.isAdmissible = true → facade.resolve request.path = .ok resolved →
      FileStore.openFile resolved.path request.mode facade.store =
        (.ok handle, after.store) →
      fits after.store.tree request.side resolved.key handle)
    (kept : ∀ side key handle, fits facade.store.tree side key handle →
      ¬facade.Removes action key → fits after.store.tree side key handle)
    (written : ∀ issued write, action = .write issued write → ∀ side key handle,
      fits after.store.tree side key handle →
        fits after.store.tree side key (write.run handle facade.store.tree).1) :
    after.Sound config fits := by
  have differ := fun side => (sound side).custody.keysDiffer
  cases acts with
  | quiet _ becomes store =>
      intro side
      obtain ⟨evolved, evolves, same⟩ := becomes side
      rw [store]
      exact ((sound side).evolves evolves).same same
  | @opens request resolved handle sought _ isResolved missing opens
      evolves pool others admissible =>
      have stays : ∀ side, (facade.pool side).Sound (config.pool side)
          (fits after.store.tree side) := fun side =>
        (sound side).mono fun entry _ handle _ fitting =>
          kept side entry.key handle fitting id
      intro side
      by_cases asked : side = request.side
      · subst asked
        have fresh :=
          RestrictedTree.opensFresh _ ⟨_, _, rfl⟩ _ _ (congrArg Prod.fst opens)
        refine (((stays _).evolves evolves).adopt (holdsSome _)
          (evolves.live?_eq_none (differ _) missing) fresh ?_).same pool
        exact opened request resolved handle rfl admissible isResolved opens
      · exact (stays side).same (others side asked)
  | @creates path permissions resolved _ isResolved pools _ =>
      refine fun side =>
        ((sound side).of_invalidate time.starts resolved.key ?_).same
        (pools side)
      intro key handle fitting different
      refine kept side key handle fitting ?_
      rintro ⟨other, isOther, keyed⟩
      cases isResolved.symm.trans isOther
      exact different keyed.symm
  | @deletes path resolved _ isResolved pools _ =>
      refine fun side =>
        ((sound side).of_invalidate time.starts resolved.key ?_).same
        (pools side)
      intro key handle fitting different
      refine kept side key handle fitting ?_
      rintro ⟨other, isOther, keyed⟩
      cases isResolved.symm.trans isOther
      exact different keyed.symm
  | stores changes pools store =>
      intro side
      refine ((sound side).mono fun entry _ handle _ fitting => ?_).same
        (pools side)
      refine kept side entry.key handle fitting ?_
      cases action <;> first | exact id | cases changes
  | @writes issued write handle _ found pool others store =>
      have stays : ∀ side, (facade.pool side).Sound (config.pool side)
          (fits after.store.tree side) := fun side =>
        (sound side).mono fun entry _ handle _ fitting =>
          kept side entry.key handle fitting id
      intro side
      by_cases same : side = issued.side
      · subst same
        obtain ⟨-, -, sameReleases, sameNode⟩ :=
          write.run_handle handle facade.store.tree
        refine ((stays _).withHandle found ?_ sameReleases ?_).same pool
        · have sameOpen := congrArg Option.isSome sameNode
          rwa [Option.isSome_map, Option.isSome_map] at sameOpen
        · exact fun key => written issued write rfl issued.side key handle
      · exact (stays side).same (others side same)

end Facade
end HandlePool
