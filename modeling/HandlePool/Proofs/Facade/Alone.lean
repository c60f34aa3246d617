import HandlePool.Proofs.Clients.Alone
import HandlePool.Proofs.Facade.Calls
import HandlePool.Proofs.Pool.Journal

/-!
# A façade with one client at work

A call of a client that no other client comes between gives the answer of
the façade, and leaves the pools and the store as the façade does,
however long it takes to open a handle and to put its pool in order.
Only notes are kept elsewhere.
-/

namespace HandlePool

theorem Pool.eq_of_create
    {η : Type}
    {name : String}
    {config : PoolConfig}
    {pool : Pool η}
    (created : Pool.create name config = .ok pool) :
    pool = { name := name, config := config } := by
  unfold Pool.create at created
  split at created
  · cases created
    rfl
  · cases created

/-! ## The pools of a façade -/

namespace Facade

variable {σ : Type}

theorem eq_of_create
    {config : FacadeConfig}
    {store : σ}
    {facade : Facade σ}
    (created : create config store = .ok facade) :
    facade =
      { config := config
        read := { name := Side.read.name, config := config.readPool }
        write := { name := Side.write.name, config := config.writePool }
        store := store
        journal := [.created config] } := by
  unfold create at created
  cases valid : config.validate with
  | error error =>
      rw [valid] at created
      cases created
  | ok =>
      rw [valid] at created
      cases readCreated :
          (Pool.create Side.read.name config.readPool :
            Except Abort (Pool FileHandle)) with
      | error reason =>
          rw [readCreated] at created
          cases created
      | ok read =>
          cases writeCreated :
              (Pool.create Side.write.name config.writePool :
                Except Abort (Pool FileHandle)) with
          | error reason =>
              rw [readCreated, writeCreated] at created
              cases created
          | ok write =>
              rw [readCreated, writeCreated] at created
              cases created
              rw [Pool.eq_of_create readCreated, Pool.eq_of_create writeCreated]

@[simp] theorem pool_note
    (facade : Facade σ)
    (event : FacadeEvent)
    (side : Side) :
    (facade.note event).pool side = facade.pool side := by
  cases side <;> rfl

@[simp] theorem store_changeBoth
    (facade : Facade σ)
    (function : Pool FileHandle → Pool FileHandle) :
    (facade.changeBoth function).store = facade.store := by
  simp [changeBoth, change]

/-- Both pools are changed, but for their notes, which the façade takes over. -/
theorem same_pool_changeBoth
    (facade : Facade σ)
    (function : Pool FileHandle → Pool FileHandle)
    (side : Side) :
    Pool.Same (function (facade.pool side))
      ((facade.changeBoth function).pool side) := by
  cases side with
  | read =>
      rw [changeBoth, change, pool_restore_of_ne (by decide), change,
        pool_restore_self]
      exact ⟨[], rfl⟩
  | write =>
      rw [changeBoth, change, pool_restore_self, change,
        pool_restore_of_ne (by decide)]
      exact ⟨[], rfl⟩

variable [FileStore σ]

/-- A façade opens a path by asking one pool for its key. -/
theorem openOn_eq
    (facade : Facade σ)
    (side : Side)
    (time : CallTime)
    (resolved : Resolved)
    (mode : OpenMode)
    (opening : FacadeEvent)
    {given : Answer × Pool FileHandle × σ}
    (gives : given = (facade.pool side).getOrOpen time resolved.key
      (FileStore.openFile resolved.path mode) facade.store) :
    (facade.openOn side time resolved mode opening).1 =
        given.1.result.map (fun number => ⟨side, number⟩) ∧
      Pool.Same given.2.1
        ((facade.openOn side time resolved mode opening).2.pool side) ∧
      (∀ other, other ≠ side →
        (facade.openOn side time resolved mode opening).2.pool other =
          facade.pool other) ∧
      (facade.openOn side time resolved mode opening).2.store = given.2.2 := by
  subst gives
  rcases sought : (facade.pool side).seek time.starts resolved.key with
      ⟨found, pool⟩
  cases found with
  | some number =>
      simp only [openOn, Pool.getOrOpen, sought]
      refine ⟨rfl, ?_, ?_, ?_⟩
      · rw [pool_restore_self]
        exact ⟨[], rfl⟩
      · exact fun other different => pool_restore_of_ne different facade pool
      · rw [store_restore]
  | none =>
      simp only [openOn, Pool.getOrOpen, sought]
      generalize isNoted : ((facade.restore side pool).note opening).note
        (.commanded (.openFile resolved.path mode)) = noted
      have pools : ∀ other,
          noted.pool other = (facade.restore side pool).pool other := by
        rw [← isNoted]
        exact fun other => (pool_note ..).trans (pool_note ..)
      have store : noted.store = facade.store := by
        rw [← isNoted]
        exact store_restore facade side pool
      -- The façade asks a pool whose notes it has taken over already.
      have cleared : Pool.Same pool (noted.pool side) := by
        rw [pools, pool_restore_self]
        exact ⟨[], rfl⟩
      obtain ⟨sameResult, samePool, sameStore⟩ :=
        cleared.openMissing time resolved.key
        (FileStore.openFile resolved.path mode) facade.store
      rw [store, sameResult, sameStore]
      refine ⟨rfl, ?_, ?_, ?_⟩
      · rw [pool_restore_self]
        exact samePool.trans ⟨[], rfl⟩
      · intro other different
        rw [pool_restore_of_ne different]
        exact (pools other).trans (pool_restore_of_ne different facade pool)
      · exact store_restore ..

end Facade

variable {σ : Type}

/-- What the façade says to a call. -/
def FacadeCall.answer
    [FileStore σ]
    (facade : Facade σ)
    (time : CallTime) :
    FacadeCall → Reply × Facade σ
  | .openForRead path =>
      let (result, facade) := facade.openForRead time path
      (.handle (result.map Issued.number), facade)
  | .openForWrite path mode =>
      let (result, facade) := facade.openForWrite time path mode
      (.handle (result.map Issued.number), facade)
  | .createFile path permissions =>
      let (result, facade) := facade.createFile time.starts path permissions
      (.done (result.map fun _ => ()), facade)
  | .delete path =>
      let (result, facade) := facade.delete time.starts path
      (.done result, facade)
  | .closeAll => (.done (.ok ()), facade.closeAll time.starts)
  | .settle => (.done (.ok ()), facade.settle time.starts)

namespace System

/-- The system is in the state of the façade. -/
structure Mirrors (system : System Side σ FileHandle)
    (facade : Facade σ) : Prop where
  same : ∀ side, Pool.Same (system.pools side) (facade.pool side)
  world_eq : system.world = facade.store

variable
  {stripe : Side → String → Nat}
  {system : System Side σ FileHandle}
  {facade : Facade σ}
  {name : Nat}
  {rest : List (Task Side σ FileHandle)}

/-- The same task on both sides changes both pools. -/
theorem alone_both
    (task : Side → Task Side σ FileHandle)
    (function : Instant → Pool FileHandle → Pool FileHandle)
    (alone : ∀ (system : System Side σ FileHandle) (side : Side)
      (rest : List (Task Side σ FileHandle)),
      (∀ lock, system.locks lock = none) →
      system.clients name = .busy (task side) rest →
        ∃ final, Alone stripe name system final system.now
          (Function.update system.pools side
            (function system.now (system.pools side)))
          system.world (.next (.done (.ok ())) rest))
    (free : ∀ lock, system.locks lock = none)
    (attending : system.clients name =
      .busy (task .read) (task .write :: rest)) :
    ∃ final, Alone stripe name system final system.now
      (fun side => function system.now (system.pools side)) system.world
      (.next (.done (.ok ())) rest) := by
  obtain ⟨middle, first⟩ :=
    alone system .read (task .write :: rest) free attending
  have next : middle.clients name = .busy (task .write) rest :=
    (congrFun first.clients_eq name).trans (Function.update_self ..)
  have stillFree : ∀ lock, middle.locks lock = none := by
    rwa [first.locks_eq]
  obtain ⟨final, second⟩ := alone middle .write rest stillFree next
  have both : Function.update middle.pools .write
      (function middle.now (middle.pools .write)) =
        fun side => function system.now (system.pools side) := by
    funext side
    rw [first.pools_eq, first.now_eq]
    cases side <;> simp
  rw [both, first.world_eq, first.now_eq] at second
  exact ⟨final, first.trans second⟩

/-- A system that nobody has called mirrors a façade that was just built. -/
theorem mirrors_ofFacade
    [FileStore σ]
    {config : FacadeConfig}
    {store : σ}
    (created : Facade.create config store = .ok facade) :
    (ofFacade config store).Mirrors facade := by
  rw [Facade.eq_of_create created]
  constructor
  · intro side
    cases side <;> exact ⟨[], rfl⟩
  · rfl

theorem Mirrors.note
    (mirrors : system.Mirrors facade)
    (event : FacadeEvent) :
    system.Mirrors (facade.note event) := by
  constructor
  · intro side
    rw [Facade.pool_note]
    exact mirrors.same side
  · exact mirrors.world_eq

theorem Mirrors.noteOtherMode
    (mirrors : system.Mirrors facade)
    (key : String)
    (requested : OpenMode)
    (issued : Issued) :
    system.Mirrors (facade.noteOtherMode key requested issued) := by
  unfold Facade.noteOtherMode
  split
  · exact mirrors
  · split
    · exact mirrors
    · exact mirrors.note _

/-- Where a client changed both pools alone, the façade has changed both. -/
theorem Mirrors.changeBoth
    {final : System Side σ FileHandle}
    {function : Pool FileHandle → Pool FileHandle}
    {now : Instant}
    {client : Client Side σ FileHandle}
    (mirrors : system.Mirrors facade)
    (congruent : ∀ left right : Pool FileHandle, Pool.Same left right →
      Pool.Same (function left) (function right))
    (alone : Alone stripe name system final now
      (fun side => function (system.pools side)) system.world client) :
    final.Mirrors (facade.changeBoth function) := by
  constructor
  · intro side
    rw [alone.pools_eq]
    exact (congruent _ _ (mirrors.same side)).trans
      (facade.same_pool_changeBoth function side)
  · rw [alone.world_eq, mirrors.world_eq, Facade.store_changeBoth]

/-- A client that opens a path alone is answered like by the façade. -/
theorem alone_openOn
    [FileStore σ]
    {time : CallTime}
    (isNow : system.now = time.starts)
    (mirrors : system.Mirrors facade)
    (differ : ∀ side, (system.pools side).KeysDiffer)
    (free : ∀ lock, system.locks lock = none)
    (side : Side)
    (resolved : Resolved)
    (mode : OpenMode)
    (opening : FacadeEvent)
    (attending : system.clients name =
      .busy (.request side resolved.key (FileStore.openFile resolved.path mode))
        [])
    {answer : Except IoError Issued × Facade σ}
    (answers : answer = facade.openOn side time resolved mode opening) :
    ∃ final, Proceeds stripe name system final ∧
      final.clients name = .idle (some (.handle (answer.1.map Issued.number))) ∧
      final.Mirrors answer.2 := by
  subst answers
  generalize gave : (system.pools side).getOrOpen time resolved.key
    (FileStore.openFile resolved.path mode) system.world = given
  obtain ⟨final, alone⟩ := alone_request isNow (differ side)
    (free (side, stripe side resolved.key)) attending gave.symm
  obtain ⟨sameAnswer, samePool, sameStore⟩ :=
    (mirrors.same side).getOrOpen time resolved.key
    (FileStore.openFile resolved.path mode) system.world
  obtain ⟨result, pool, others, store⟩ :=
    facade.openOn_eq side time resolved mode opening rfl
  rw [← mirrors.world_eq, ← sameAnswer, gave] at result
  rw [← mirrors.world_eq] at pool store
  rw [gave] at samePool sameStore
  refine ⟨final, alone.proceeds, ?_, ?_, ?_⟩
  · rw [alone.clients_eq, Function.update_self, result]
    cases given.1.result <;> rfl
  · intro other
    rw [alone.pools_eq]
    by_cases same : other = side
    · subst same
      rw [Function.update_self]
      exact samePool.trans pool
    · rw [Function.update_of_ne same, others other same]
      exact mirrors.same other
  · rw [alone.world_eq, store, sameStore]

/-- A client that removes a key alone and then gives the store a command does as
the façade does, and is told whether that worked. -/
theorem alone_afterRemoval
    [FileStore σ]
    (mirrors : system.Mirrors facade)
    (free : ∀ lock, system.locks lock = none)
    {key : String}
    (command : StoreCommand)
    {query : σ → Except IoError Unit × σ}
    (asks : ∀ store, query store =
      ((command.run store).1.map fun _ => (), (command.run store).2))
    (attending : system.clients name = .busy (.invalidate .read key)
      [.invalidate .write key, .consult query])
    {answer : Except IoError command.Answer × Facade σ}
    (answers : answer = (facade.invalidate system.now key).command command) :
    ∃ final, Proceeds stripe name system final ∧
      final.clients name = .idle (some (.done (answer.1.map fun _ => ()))) ∧
      final.Mirrors answer.2 := by
  subst answers
  obtain ⟨middle, removed⟩ := alone_both (fun side => .invalidate side key)
    (fun now pool => pool.invalidate now key)
    (fun _ side _ free attending =>
      alone_invalidate (free (side, stripe side key)) attending)
    free attending
  have mirrored := mirrors.changeBoth
    (fun _ _ same => Pool.Same.invalidate same system.now key) removed
  obtain ⟨final, asked⟩ := alone_consult stripe
    ((congrFun removed.clients_eq name).trans (Function.update_self ..))
  rw [mirrored.world_eq, asks] at asked
  refine ⟨final, removed.proceeds.trans asked.proceeds, ?_, ?_, ?_⟩
  · rw [asked.clients_eq, Function.update_self]
    rfl
  · intro side
    rw [asked.pools_eq]
    have same := mirrored.same side
    cases side <;> exact same
  · exact asked.world_eq

/-- A call that its client makes alone is answered like by the façade, whatever
time passes until a handle is kept and its pool is in order, and the system
mirrors the façade again when the client is idle. -/
theorem alone_call
    [FileStore σ]
    {call : FacadeCall}
    {task : Task Side σ FileHandle}
    {time : CallTime}
    (isNow : system.now = time.starts)
    (mirrors : system.Mirrors facade)
    (differ : ∀ side, (system.pools side).KeysDiffer)
    (free : ∀ lock, system.locks lock = none)
    (called : call.tasks (FileStore.workingDirectory facade.store) =
      .ok (task :: rest))
    (attending : system.clients name = .busy task rest) :
    ∃ final, Proceeds stripe name system final ∧
      final.clients name = .idle (some (call.answer facade time).1) ∧
      final.Mirrors (call.answer facade time).2 := by
  cases call with
  | openForRead path =>
      obtain ⟨resolved, isResolved, isTask⟩ := map_eq_ok_iff.mp called
      cases isTask
      simp only [FacadeCall.answer, Facade.openForRead,
        Facade.resolve, isResolved]
      exact alone_openOn isNow mirrors differ free .read resolved .read
        _ attending rfl
  | openForWrite path mode =>
      simp only [FacadeCall.tasks] at called
      split at called
      · cases called
      · next writes =>
        obtain ⟨resolved, isResolved, isTask⟩ := map_eq_ok_iff.mp called
        cases isTask
        obtain ⟨final, proceeds, idle, mirrored⟩ :=
          alone_openOn isNow mirrors differ free
          .write resolved mode (.openingToWrite resolved.key mode) attending rfl
        refine ⟨final, proceeds, ?_⟩
        simp only [FacadeCall.answer, Facade.openForWrite, writes,
          Facade.resolve, isResolved]
        cases opened : facade.openOn .write time resolved mode
          (.openingToWrite resolved.key mode) with
        | mk result after =>
            rw [opened] at idle mirrored
            cases result with
            | error error => exact ⟨idle, mirrored⟩
            | ok issued =>
                exact ⟨idle, mirrored.noteOtherMode resolved.key mode issued⟩
  | createFile path permissions =>
      obtain ⟨resolved, isResolved, isTask⟩ := map_eq_ok_iff.mp called
      cases isTask
      obtain ⟨final, proceeds, idle, mirrored⟩ :=
        alone_afterRemoval mirrors free (.createFile resolved.path permissions)
          (fun _ => rfl) attending rfl
      refine ⟨final, proceeds, ?_⟩
      rw [isNow] at idle mirrored
      simp only [FacadeCall.answer, Facade.createFile,
        Facade.resolve, isResolved]
      exact ⟨idle, mirrored⟩
  | delete path =>
      obtain ⟨resolved, isResolved, isTask⟩ := map_eq_ok_iff.mp called
      cases isTask
      have sameAnswer : ∀ answer :
          Except IoError Unit, answer.map (fun _ => ()) = answer := by
        rintro (error | ⟨⟩) <;> rfl
      obtain ⟨final, proceeds, idle, mirrored⟩ :=
        alone_afterRemoval mirrors free (.delete resolved.path)
          (fun _ => Prod.ext (sameAnswer _).symm rfl) attending rfl
      refine ⟨final, proceeds, ?_⟩
      rw [sameAnswer, isNow] at idle
      rw [isNow] at mirrored
      simp only [FacadeCall.answer, Facade.delete, Facade.resolve, isResolved]
      exact ⟨idle, mirrored⟩
  | closeAll =>
      cases called
      obtain ⟨final, alone⟩ := alone_both .invalidateAll
        (fun now pool => pool.invalidateAll now)
        (fun _ side _ free attending =>
          alone_invalidateAll (fun key => free (side, stripe side key))
            attending)
        free attending
      rw [isNow] at alone
      refine ⟨final, alone.proceeds, ?_, ?_⟩
      · rw [alone.clients_eq, Function.update_self]
        rfl
      · exact (mirrors.changeBoth (fun _ _ same => same.invalidateAll _)
          alone).note .closedAll
  | settle =>
      cases called
      obtain ⟨final, alone⟩ :=
        alone_both .settle (fun now pool => pool.settle now)
        (fun _ _ _ _ attending => alone_settle attending) free attending
      rw [isNow] at alone
      refine ⟨final, alone.proceeds, ?_, ?_⟩
      · rw [alone.clients_eq, Function.update_self]
        rfl
      · exact mirrors.changeBoth (fun _ _ same => same.settle _) alone

end System
end HandlePool
