import HandlePool.Proofs.Facade.Misses
import HandlePool.Proofs.FileStore.Counted

/-!
# What reaches a counted store

The store of a façade is asked to open a path exactly when a request for a
handle misses.  So what a counted store has counted, by paths, agrees with what
the two pools have counted, by keys, through hits, removals, refused requests
and opens that are made to fail.  An open that is made to fail is answered with
the error it is to fail with, while the handle that is still kept for its path
goes on being given out.
-/

namespace HandlePool

/-! ## Counted sessions -/

section Sessions

variable {σ : Type}

/-- A transfer with the store inside a counted one. -/
def Transfer.counted (transfer : Transfer σ) : Transfer (CountedStore σ) where
  run handle store :=
    let (handle, inner) := transfer.run handle store.inner
    (handle, { store with inner := inner })
  isOpen_run handle store := transfer.isOpen_run handle store.inner
  releases_run handle store := transfer.releases_run handle store.inner

/-- An operation over a counted store; handles work on the store inside. -/
def Operation.counted : Operation σ → Operation (CountedStore σ)
  | .request asked => .request asked
  | .createFile path permissions => .createFile path permissions
  | .delete path => .delete path
  | .createDirectories path => .createDirectories path
  | .setPermissions path permissions => .setPermissions path permissions
  | .closeAll => .closeAll
  | .settle => .settle
  | .inside side call => .inside side call
  | .transfer issued moves => .transfer issued moves.counted

/-- Something that is done to a façade over a counted store,
or to what is around it. -/
inductive CountedAction (σ : Type) where
  | operate (operation : Operation σ)
  /-- The holder of a handle leaves it in some state, and may have closed it. -/
  | leave (issued : Issued) (handle : FileHandle)
  | failOpens (path : Path) (code : Int)
  | clearFailure (path : Path)
  /-- Others change the store inside. -/
  | elsewhere (change : σ → σ)

namespace CountedAction

/-- The request that is made, if it is one. -/
def request? : CountedAction σ → Option FileRequest
  | .operate (.request request) => some request
  | _ => none

/-- No pool is asked for a handle past the façade. -/
def asksFacade : CountedAction σ → Bool
  | .operate (.inside _ call) => !call.isRequest
  | _ => true

/-- A file is to be created at a path that can be resolved, which is
one that is not empty. -/
def creates : CountedAction σ → Bool
  | .operate (.createFile path _) => !path.bytes.isEmpty
  | _ => false

/-- A path that can be resolved is to be deleted. -/
def deletes : CountedAction σ → Bool
  | .operate (.delete path) => !path.bytes.isEmpty
  | _ => false

/-- The error that opening a path is to fail with, if it was to fail
with some other before. -/
def fault (path : Path) (before : Option Int) : CountedAction σ → Option Int
  | .failOpens other code =>
      if path.components = other.components then some code else before
  | .clearFailure other =>
      if path.components = other.components then none else before
  | _ => before

end CountedAction

variable [FileStore σ]

namespace Facade

/-- Take an action. -/
def act (facade : Facade (CountedStore σ)) (time : CallTime) :
    CountedAction σ → Facade (CountedStore σ)
  | .operate operation => (facade.operate time operation.counted).2
  | .leave issued handle => facade.replace issued handle
  | .failOpens path code =>
      { facade with store := facade.store.failOpens path code }
  | .clearFailure path =>
      { facade with store := facade.store.clearFailure path }
  | .elsewhere change =>
      { facade with store :=
        { facade.store with inner := change facade.store.inner } }

/-- What an action misses, if it is a request. -/
def missesBy (facade : Facade (CountedStore σ)) (time : CallTime)
    (action : CountedAction σ) :
    Option (Side × Path) :=
  action.request?.bind (facade.misses time)

end Facade

/-- An action, with the time that passes before it and the
time that it takes. -/
structure CountedTurn (σ : Type) where
  pause : Nat
  action : CountedAction σ
  /-- How long it takes to open a handle. -/
  opening : Nat := 0
  /-- How long it takes from then on to put the pool in order. -/
  settling : Nat := 0

/-- A façade over a counted store under a sequence of actions. -/
structure CountedSession (σ : Type) where
  facade : Facade (CountedStore σ)
  now : Instant := 0
  /-- The sides and paths of the requests that found no live entry, in order. -/
  missed : List (Side × Path) := []

namespace CountedSession

/-- When the next action is taken. -/
def timeOf (session : CountedSession σ) (turn : CountedTurn σ) : CallTime :=
  .lasting (session.now + turn.pause) turn.opening turn.settling

/-- Take the next action. -/
def take (session : CountedSession σ) (turn : CountedTurn σ) :
    CountedSession σ where
  facade := session.facade.act (session.timeOf turn) turn.action
  now := (session.timeOf turn).settles
  missed := session.missed ++
    (session.facade.missesBy (session.timeOf turn) turn.action).toList

/-- The session after some actions. -/
def run (start : Facade (CountedStore σ)) (turns : List (CountedTurn σ)) :
    CountedSession σ :=
  turns.foldl take { facade := start }

end CountedSession

/-- The error that opening a path is to fail with after some actions. -/
def faultAfter (turns : List (CountedTurn σ)) (path : Path) : Option Int :=
  turns.foldl (fun before turn => turn.action.fault path before) none

/-! ## What an action leaves -/

namespace Facade

open Pool CountedStore

variable
  {config : FacadeConfig}
  {facade : Facade (CountedStore σ)}

/-- Just the empty path cannot be resolved. -/
theorem isSome_resolve
    (facade : Facade σ)
    (path : Path) :
    (facade.resolve path).toOption.isSome = !path.bytes.isEmpty := by
  rw [resolve, Resolved.ofPath]
  by_cases empty : path.bytes = []
  · rw [Path.normalize_eq_error_iff.mpr ⟨rfl, empty⟩, empty]
    rfl
  · cases normalized :
      Path.normalize (FileStore.workingDirectory facade.store) path with
    | error error =>
        exact absurd (Path.normalize_eq_error_iff.mp normalized).2 empty
    | ok normal => simp [Except.map, Except.toOption, empty]

/-- What an action adds to what a store has counted, and makes of
the openings that fail. -/
structure Records (before : CountedStore σ) (missed : Option Path)
    (action : CountedAction σ) (after : CountedStore σ) : Prop where
  opens_eq : after.opens = (missed.elim before before.countOpen).opens
  creates_eq : after.creates = before.creates + if action.creates then 1 else 0
  deletes_eq : after.deletes = before.deletes + if action.deletes then 1 else 0
  fault_eq (path : Path) :
    after.faults.find? path = action.fault path (before.faults.find? path)

theorem records_act
    (facade : Facade (CountedStore σ))
    (time : CallTime)
    (action : CountedAction σ) :
    Records facade.store ((facade.missesBy time action).map Prod.snd) action
      (facade.act time action).store := by
  -- Only requests depend on the pools: they come to the store when they miss.
  cases action with
  | operate operation =>
      cases operation with
      | request request =>
          simp only [act, Operation.counted, operate, missesBy,
            CountedAction.request?, Option.bind_some]
          obtain ⟨store, missed⟩ | ⟨path, missed, store⟩ :=
            facade.store_request time request
          · rw [store, missed]
            exact ⟨rfl, rfl, rfl, fun _ => rfl⟩
          · obtain ⟨inner, counted⟩ :=
              snd_openFile path request.mode facade.store
            rw [store, missed,
              show (FileStore.openFile path request.mode facade.store).2 = _
              from counted]
            exact ⟨rfl, rfl, rfl, fun _ => rfl⟩
      | createFile path permissions =>
          simp only [act, Operation.counted, operate, createFile]
          split
          · next error unresolved =>
            refine ⟨rfl, ?_, rfl, fun _ => rfl⟩
            simp [CountedAction.creates, ← facade.isSome_resolve, unresolved,
              Except.toOption]
          · next resolved isResolved =>
            simp only [command, store_note, invalidate, store_changeBoth]
            refine ⟨rfl, ?_, rfl, fun _ => rfl⟩
            simp only [CountedAction.creates, ← facade.isSome_resolve,
              isResolved, Except.toOption]
            rfl
      | delete path =>
          simp only [act, Operation.counted, operate, delete]
          split
          · next error unresolved =>
            refine ⟨rfl, rfl, ?_, fun _ => rfl⟩
            simp [CountedAction.deletes, ← facade.isSome_resolve, unresolved,
              Except.toOption]
          · next resolved isResolved =>
            simp only [command, store_note, invalidate, store_changeBoth]
            refine ⟨rfl, rfl, ?_, fun _ => rfl⟩
            simp only [CountedAction.deletes, ← facade.isSome_resolve,
              isResolved, Except.toOption]
            rfl
      | createDirectories path => exact ⟨rfl, rfl, rfl, fun _ => rfl⟩
      | setPermissions path permissions => exact ⟨rfl, rfl, rfl, fun _ => rfl⟩
      | closeAll => exact ⟨rfl, rfl, rfl, fun _ => rfl⟩
      | settle => exact ⟨rfl, rfl, rfl, fun _ => rfl⟩
      | inside side call =>
          simp only [act, Operation.counted, operate, callInside, store_restore]
          exact ⟨rfl, rfl, rfl, fun _ => rfl⟩
      | transfer issued transfer =>
          simp only [act, Operation.counted, operate, Facade.transfer]
          split
          · exact ⟨rfl, rfl, rfl, fun _ => rfl⟩
          · simp only [replace, change, store_restore]
            exact ⟨rfl, rfl, rfl, fun _ => rfl⟩
  | leave issued handle =>
      simp only [act, replace, change, store_restore]
      exact ⟨rfl, rfl, rfl, fun _ => rfl⟩
  | failOpens path code =>
      refine ⟨rfl, rfl, rfl, fun other => ?_⟩
      simp only [act, failOpens, CountedAction.fault]
      split
      · next same =>
        rw [PathTable.find?, same]
        exact PathTable.find?_insert_self ..
      · next different => exact PathTable.find?_insert_of_ne _ different
  | clearFailure path =>
      refine ⟨rfl, rfl, rfl, fun other => ?_⟩
      simp only [act, clearFailure, CountedAction.fault]
      split
      · next same =>
        rw [PathTable.find?, same]
        exact PathTable.find?_erase_self ..
      · next different => exact PathTable.find?_erase_of_ne different
  | elsewhere change => exact ⟨rfl, rfl, rfl, fun _ => rfl⟩

/-- Whatever is done keeps the pools coherent and as large as
they were configured. -/
theorem kept_act
    (holdsSome : ∀ side, (config.pool side).maxSize ≠ 0)
    (kept : ∀ side, (facade.pool side).Coherent ∧
      (facade.pool side).config = config.pool side)
    (time : CallTime)
    (action : CountedAction σ)
    (side : Side) :
    ((facade.act time action).pool side).Coherent ∧
      ((facade.act time action).pool side).config = config.pool side := by
  cases action with
  | operate operation =>
      exact (lasting_coherent holdsSome).operate
        (fun _ _ _ _ _ _ => trivial) kept time (fun _ _ _ _ => trivial) side
  | leave issued handle =>
      by_cases same : side = issued.side
      · subst same
        obtain ⟨coherent, config_eq⟩ := kept issued.side
        simp only [act, replace, change, pool_restore_self]
        exact ⟨(coherent.withHandle issued.number handle).same ⟨[], rfl⟩,
          config_eq⟩
      · simp only [act, replace, change]
        rw [pool_restore_of_ne same]
        exact kept side
  | _ =>
      simp only [act]
      rw [pool_atStore]
      exact kept side

/-- Each pool goes on counting what misses it, whatever is done, as long as only
the façade is asked for handles. -/
theorem missed_act
    (holdsSome : ∀ side, (config.pool side).maxSize ≠ 0)
    (kept : ∀ side, (facade.pool side).Coherent ∧
      (facade.pool side).config = config.pool side)
    {missed : List (Side × Path)}
    (counts : ∀ side, Missed (missed.countP fun miss => miss.1 = side)
      (facade.pool side).counters)
    (time : CallTime)
    {action : CountedAction σ}
    (asksFacade : action.asksFacade = true)
    (side : Side) :
    Missed ((missed ++ (facade.missesBy time action).toList).countP fun miss =>
      miss.1 = side)
      ((facade.act time action).pool side).counters := by
  have quiet : action.request? = none →
      AgreeOnCalls (facade.pool side).counters
        ((facade.act time action).pool side).counters →
      Missed ((missed ++ (facade.missesBy time action).toList).countP
        fun miss => miss.1 = side)
          ((facade.act time action).pool side).counters := by
    intro asksNothing agree
    rw [missesBy, asksNothing, Option.bind_none, Option.toList_none,
      List.append_nil]
    exact (counts side).agree agree
  cases action with
  | operate operation =>
      cases operation with
      | request request =>
          exact missed_request holdsSome kept counts time request side
      | inside asked call =>
          refine quiet rfl (agreeOnCalls_operate holdsSome kept time ?_ side)
          exact (Bool.not_eq_true' _).mp asksFacade
      | _ => exact quiet rfl (agreeOnCalls_operate holdsSome kept time rfl side)
  | leave issued handle =>
      refine quiet rfl ?_
      rw [act, counters_replace]
      exact agreeOnCalls_refl _
  | _ =>
      refine quiet rfl ?_
      simp only [act]
      rw [pool_atStore]
      exact agreeOnCalls_refl _

end Facade

namespace CountedSession

open Pool CountedStore Facade

/-- What the store of a session has counted agrees with what
its pools have missed. -/
structure Agrees (config : FacadeConfig)
    (session : CountedSession σ) : Prop where
  kept (side : Side) : (session.facade.pool side).Coherent ∧
    (session.facade.pool side).config = config.pool side
  counts (side : Side) :
    Missed (session.missed.countP fun miss => miss.1 = side)
    (session.facade.pool side).counters
  hasOpened : session.facade.store.HasOpened (session.missed.map Prod.snd)
  allNormal : ∀ path ∈ session.missed.map Prod.snd, path.IsNormal

omit [FileStore σ] in
theorem agrees_create
    {config : FacadeConfig}
    {inner : σ}
    {start : Facade (CountedStore σ)}
    (created : Facade.create config { inner := inner } = .ok start) :
    Agrees config { facade := start } := by
  rw [Facade.eq_of_create created]
  refine ⟨fun side => ?_, fun side => ?_, hasOpened_nil rfl, nofun⟩
  · cases side <;> exact ⟨coherent_create _ _, rfl⟩
  · cases side <;> exact ⟨rfl, rfl⟩

theorem Agrees.take
    {config : FacadeConfig}
    (holdsSome : ∀ side, (config.pool side).maxSize ≠ 0)
    {session : CountedSession σ}
    (agrees : Agrees config session)
    {turn : CountedTurn σ}
    (asksFacade : turn.action.asksFacade = true) :
    Agrees config (session.take turn) := by
  obtain ⟨kept, counts, hasOpened, allNormal⟩ := agrees
  have records := session.facade.records_act (session.timeOf turn) turn.action
  refine ⟨Facade.kept_act holdsSome kept _ _,
    Facade.missed_act holdsSome kept counts _ asksFacade,
    ?_, ?_⟩
  · rw [CountedSession.take, List.map_append]
    cases missed :
      session.facade.missesBy (session.timeOf turn) turn.action with
    | none =>
        rw [missed] at records
        simpa using hasOpened.congr records.opens_eq
    | some miss =>
        rw [missed] at records
        exact (hasOpened.countOpen miss.2).congr records.opens_eq
  · intro path present
    rw [CountedSession.take, List.map_append, List.mem_append] at present
    obtain before | new := present
    · exact allNormal path before
    · simp only [List.mem_map, Option.mem_toList, Facade.missesBy,
        Option.bind_eq_some_iff] at new
      obtain ⟨miss, ⟨request, -, missed⟩, rfl⟩ := new
      exact Facade.isNormal_of_misses missed

theorem run_concat
    (start : Facade (CountedStore σ))
    (turns : List (CountedTurn σ))
    (turn : CountedTurn σ) :
    run start (turns ++ [turn]) = (run start turns).take turn := by
  simp [run]

theorem agrees_run
    {config : FacadeConfig}
    {inner : σ}
    {start : Facade (CountedStore σ)}
    (created : Facade.create config { inner := inner } = .ok start)
    {turns : List (CountedTurn σ)}
    (allAskFacade : ∀ turn ∈ turns, turn.action.asksFacade = true) :
    Agrees config (run start turns) := by
  have holdsSome := fun side =>
    (FacadeConfig.roomy_of_validate (Facade.validate_of_create created) side).1
  induction turns using List.reverseRecOn with
  | nil => exact agrees_create created
  | append_singleton turns turn inductionHypothesis =>
      rw [run_concat]
      exact (inductionHypothesis fun earlier present =>
        allAskFacade earlier (List.mem_append_left _ present)).take holdsSome
          (allAskFacade turn (by simp))

/-- Calls that create and delete are counted when their paths can be resolved,
and opening a path fails as was said last. -/
theorem store_run
    {config : FacadeConfig}
    {inner : σ}
    {start : Facade (CountedStore σ)}
    (created : Facade.create config { inner := inner } = .ok start)
    (turns : List (CountedTurn σ)) :
    let store := (run start turns).facade.store
    store.creates = turns.countP (fun turn => turn.action.creates) ∧
      store.deletes = turns.countP (fun turn => turn.action.deletes) ∧
      ∀ path, store.faults.find? path = faultAfter turns path := by
  induction turns using List.reverseRecOn with
  | nil =>
      have isNew := Facade.eq_of_create created
      rw [isNew]
      exact ⟨rfl, rfl, fun _ => rfl⟩
  | append_singleton turns turn inductionHypothesis =>
      obtain ⟨creates, deletes, faults⟩ := inductionHypothesis
      have records :=
        (run start turns).facade.records_act ((run start turns).timeOf turn)
        turn.action
      rw [run_concat]
      refine ⟨?_, ?_, fun path => ?_⟩
      · rw [List.countP_append, List.countP_singleton, ← creates]
        exact records.creates_eq
      · rw [List.countP_append, List.countP_singleton, ← deletes]
        exact records.deletes_eq
      · rw [faultAfter, List.foldl_append, ← faultAfter, ← faults]
        exact records.fault_eq path

/-- What is missed is missed on one side or the other. -/
theorem length_eq_sides
    (missed : List (Side × Path)) :
    missed.length = missed.countP (fun miss => miss.1 = .read) +
      missed.countP (fun miss => miss.1 = .write) := by
  rw [List.length_eq_countP_add_countP fun miss => miss.1 = Side.read]
  refine congrArg _ (List.countP_congr fun miss _ => ?_)
  cases miss.1 <;> decide

/-- After any session in which only the façade is asked for handles, each
path in normal form was opened as often as requests for it missed, in either
pool and with or without success; all openings together are the misses of
both pools, and each of these opened a handle or failed to.  The store was
asked to create and to delete as often as the façade was with a path that can
be resolved.  A request that misses a path whose opening is to fail is
answered with just that error; a request that hits is answered with a handle,
and the store is not asked. -/
theorem openCount_eq_misses
    {config : FacadeConfig}
    {inner : σ}
    {start : Facade (CountedStore σ)}
    (created : Facade.create config { inner := inner } = .ok start)
    {turns : List (CountedTurn σ)}
    (allAskFacade : ∀ turn ∈ turns, turn.action.asksFacade = true) :
    let session := run start turns
    let store := session.facade.store
    let counters := fun side => (session.facade.pool side).counters
    (∀ path, path.IsNormal →
      store.openCount path = (session.missed.map Prod.snd).count path) ∧
    (∀ side, (counters side).misses =
      session.missed.countP (fun miss => miss.1 = side) ∧
      (counters side).misses =
        (counters side).opens + (counters side).openFailures) ∧
    store.totalOpens = (counters .read).misses + (counters .write).misses ∧
    store.creates = turns.countP (fun turn => turn.action.creates) ∧
    store.deletes = turns.countP (fun turn => turn.action.deletes) ∧
    (∀ time request side path code,
      session.facade.misses time request = some (side, path) →
      faultAfter turns path = some code →
      (session.facade.request time request).1 = .error (.system code)) ∧
    ∀ time request, session.facade.hits time (.request request) = true →
      ∃ number, (session.facade.request time request).1 =
        .ok ⟨request.side, number⟩ ∧
        (session.facade.request time request).2.store = store := by
  intro session store counters
  obtain ⟨kept, counts, hasOpened, allNormal⟩ : Agrees config session :=
    agrees_run created allAskFacade
  obtain ⟨creates, deletes, faults⟩ := store_run created turns
  refine ⟨fun path isNormal => hasOpened.openCount_eq_count allNormal isNormal,
    fun side => ⟨(counts side).misses_eq, (counts side).opened_eq⟩, ?_,
    creates, deletes, ?_, fun time request => Facade.request_of_hits⟩
  · rw [(counts .read).misses_eq, (counts .write).misses_eq,
      hasOpened.totalOpens_eq, List.length_map, length_eq_sides]
  · intro time request side path code missed fault
    refine Facade.fst_request_of_misses (kept _).1 missed ?_
    exact fst_openFile_of_fault ((faults path).trans fault) request.mode

/-- A file cannot be opened, then it can, and its handle is kept when it cannot
any more; the opens fail under a spelling with the same components. -/
def faultyTurns : List (CountedTurn Tree) :=
  [ ⟨0, .operate (.createFile plainSpelling ⟨0o644⟩), 0, 0⟩,
    ⟨0, .failOpens ⟨[0x2F, 0x2E, 0x2F, 0x66]⟩ 24, 0, 0⟩,
    ⟨0, .operate (.request (.toRead plainSpelling)), 0, 0⟩,
    ⟨0, .clearFailure plainSpelling, 0, 0⟩,
    ⟨0, .operate (.request (.toRead plainSpelling)), 0, 0⟩,
    ⟨5, .operate (.request (.byMode plainSpelling .read)), 0, 0⟩,
    ⟨0, .failOpens plainSpelling 13, 0, 0⟩ ]

/-- Two of the three requests missed.  The file can still be read, and not be
opened to be written. -/
theorem openCount_eq_misses_of_faulty :
    ∃ start, Facade.create {} ({ inner := Tree.empty } : CountedStore Tree) =
      .ok start ∧ let facade := (run start faultyTurns).facade
      let time : CallTime := .instantly 5
      facade.store.openCount plainSpelling = 2 ∧ facade.store.totalOpens = 2 ∧
        facade.read.counters.misses = 2 ∧ facade.store.creates = 1 ∧
        (facade.request time (.toWrite plainSpelling .write)).1 =
          .error (.system 13) ∧
        ∃ number, (facade.request time (.toRead plainSpelling)).1 =
          .ok ⟨.read, number⟩ := by
  refine ⟨_, rfl, ?_⟩
  intro facade time
  obtain ⟨openCount, misses, totalOpens, creates, -, fails, succeeds⟩ :=
    openCount_eq_misses
      (show Facade.create {} ({ inner := Tree.empty } : CountedStore Tree) =
      .ok _ from rfl)
        (show ∀ turn ∈ faultyTurns, turn.action.asksFacade = true by decide)
  have onRead : facade.read.counters.misses = 2 :=
    (misses .read).1.trans (by decide +kernel)
  have onWrite : facade.write.counters.misses = 0 :=
    (misses .write).1.trans (by decide +kernel)
  have isNormal : plainSpelling.IsNormal := Path.isNormal_of_normalize
    (show Path.isAbsolute ⟨[Path.slash]⟩ = true from rfl)
    (show Path.normalize ⟨[Path.slash]⟩ plainSpelling =
      .ok plainSpelling from rfl)
  refine ⟨(openCount _ isNormal).trans (by decide +kernel), ?_, onRead,
    creates.trans (by decide +kernel), ?_, ?_⟩
  · exact totalOpens.trans (congrArg₂ (· + ·) onRead onWrite)
  · exact fails time (.toWrite plainSpelling .write) .write plainSpelling 13
      (by decide +kernel) (by decide +kernel)
  · obtain ⟨number, answer, -⟩ :=
      succeeds time (.toRead plainSpelling) (by decide +kernel)
    exact ⟨number, answer⟩

end CountedSession

end Sessions
end HandlePool
