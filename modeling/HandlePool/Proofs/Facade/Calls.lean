import HandlePool.Facade
import HandlePool.Proofs.Clients.Removal
import HandlePool.Proofs.Tree.Naming

/-!
# Clients of a façade

Each call to a façade is a list of tasks on its two pools and its store.
Opening a path asks one pool for the handle of its key.  Creating or deleting a
path removes its key from the pool for reading, then from the pool for writing,
and then asks the store.  The locks of the pools do not cover the store.
-/

namespace HandlePool

/-- A call to a façade. -/
inductive FacadeCall where
  | openForRead (path : Path)
  | openForWrite (path : Path) (mode : OpenMode)
  | createFile (path : Path) (permissions : Permissions)
  | delete (path : Path)
  | closeAll
  | settle

variable {σ : Type} [FileStore σ]

namespace FacadeCall

/-- Take the handles of a key out of both pools, and then ask the store. -/
def afterRemoval (key : String) (query : σ → Except IoError Unit × σ) :
    List (Task Side σ FileHandle) :=
  [.invalidate .read key, .invalidate .write key, .consult query]

/-- Create a file, and be told no more than whether that worked. -/
def creation (path : Path) (permissions : Permissions) (store : σ) :
    Except IoError Unit × σ :=
  let (answer, store) := FileStore.createFile path permissions store
  (answer.map fun _ => (), store)

/-- The tasks of a call, unless it is refused at once; relative
paths start at `base`. -/
def tasks (base : AbsolutePath) :
    FacadeCall → Except IoError (List (Task Side σ FileHandle))
  | .openForRead path =>
      (Resolved.ofPath base path).map fun resolved =>
        [.request .read resolved.key (FileStore.openFile resolved.path .read)]
  | .openForWrite path mode =>
      if !mode.writes then .error .writeModeRequired
      else
        (Resolved.ofPath base path).map fun resolved =>
          [.request .write resolved.key (FileStore.openFile resolved.path mode)]
  | .createFile path permissions =>
      (Resolved.ofPath base path).map fun resolved =>
        afterRemoval resolved.key (creation resolved.path permissions)
  | .delete path =>
      (Resolved.ofPath base path).map fun resolved =>
        afterRemoval resolved.key (FileStore.delete resolved.path)
  | .closeAll => .ok [.invalidateAll .read, .invalidateAll .write]
  | .settle => .ok [.settle .read, .settle .write]

end FacadeCall

/-- Clients make no other calls than those of a façade. -/
def Move.CallsFacade : Move Side σ FileHandle → Prop
  | .begins _ task rest => ∃ (call : FacadeCall) (base : AbsolutePath),
      call.tasks base = .ok (task :: rest)
  | _ => True

/-- The store opens, creates and deletes files. -/
def storeConduct : Conduct σ FileHandle where
  opens opener := ∃ path mode, opener = FileStore.openFile path mode
  consults query :=
    (∃ path permissions, query = FacadeCall.creation path permissions) ∨
      ∃ path, query = FileStore.delete path

theorem within_afterRemoval
    {key : String}
    {query : σ → Except IoError Unit × σ}
    (allowed : storeConduct.consults query) :
    ∀ task ∈ FacadeCall.afterRemoval key query, task.Within storeConduct := by
  simp [FacadeCall.afterRemoval, Task.Within, allowed]

theorem FacadeCall.within
    {call : FacadeCall}
    {base : AbsolutePath}
    {tasks : List (Task Side σ FileHandle)}
    (called : call.tasks base = .ok tasks) :
    ∀ task ∈ tasks, task.Within storeConduct := by
  cases call with
  | openForRead path =>
      obtain ⟨resolved, -, rfl⟩ := map_eq_ok_iff.mp called
      simp only [List.mem_singleton, forall_eq]
      exact ⟨_, _, rfl⟩
  | openForWrite path mode =>
      simp only [FacadeCall.tasks] at called
      split at called
      · cases called
      · obtain ⟨resolved, -, rfl⟩ := map_eq_ok_iff.mp called
        simp only [List.mem_singleton, forall_eq]
        exact ⟨_, _, rfl⟩
  | createFile path permissions =>
      obtain ⟨resolved, -, rfl⟩ := map_eq_ok_iff.mp called
      exact within_afterRemoval (.inl ⟨_, _, rfl⟩)
  | delete path =>
      obtain ⟨resolved, -, rfl⟩ := map_eq_ok_iff.mp called
      exact within_afterRemoval (.inr ⟨_, rfl⟩)
  | closeAll =>
      cases called
      simp [Task.Within]
  | settle =>
      cases called
      simp [Task.Within]

/-- Clients of a façade open and delete nothing but through its store. -/
theorem Move.CallsFacade.within
    {move : Move Side σ FileHandle}
    (calls : move.CallsFacade) :
    move.Within storeConduct := by
  cases move with
  | begins name task rest =>
      obtain ⟨call, base, called⟩ := calls
      have within := call.within called
      exact ⟨within task List.mem_cons_self,
        fun other present => within other (List.mem_cons_of_mem _ present)⟩
  | advances name => trivial
  | elapses nanos => trivial

theorem callsFacade_advances
    (name : Nat) :
    (Move.advances name : Move Side σ FileHandle).CallsFacade :=
  trivial

/-- A tree opens fresh handles. -/
theorem opensFresh_tree :
    (storeConduct : Conduct Tree FileHandle).OpensFresh := by
  rintro opener ⟨path, mode, rfl⟩ tree handle opened
  change (FileHandle.ofPath tree path mode).1 = .ok handle at opened
  unfold FileHandle.ofPath at opened
  split at opened
  · cases opened
  · cases opened
    exact ⟨rfl, rfl⟩

/-! ## Systems -/

/-- The configuration of the pool on a side. -/
def FacadeConfig.pool (config : FacadeConfig) : Side → PoolConfig
  | .read => config.readPool
  | .write => config.writePool

/-- A valid configuration gives a pool room, and lets its
entries last for some time. -/
theorem PoolConfig.roomy_of_validate
    {config : PoolConfig}
    {pool : String}
    (valid : config.validate pool = .ok ()) :
    config.maxSize ≠ 0 ∧ 0 < config.idle.totalNanos := by
  unfold validate at valid
  split at valid
  · cases valid
  · next holdsSome =>
    refine ⟨holdsSome, Nat.pos_of_ne_zero fun lastsNone => ?_⟩
    have noTime : config.idle.isZero = true := by
      simp only [Duration.totalNanos, nanosPerSecond] at lastsNone
      have noSeconds : config.idle.seconds.toNat = 0 := by omega
      have noNanos : config.idle.nanos = 0 := by omega
      simp [Duration.isZero, ← UInt64.toNat_inj, noSeconds, noNanos]
    rw [if_pos noTime] at valid
    cases valid

theorem FacadeConfig.roomy_of_validate
    {config : FacadeConfig}
    (valid : config.validate = .ok ())
    (side : Side) :
    (config.pool side).maxSize ≠ 0 ∧
    0 < (config.pool side).idle.totalNanos := by
  obtain ⟨⟨⟩, readValid, writeValid⟩ := bind_eq_ok_iff.mp valid
  cases side with
  | read => exact PoolConfig.roomy_of_validate readValid
  | write => exact PoolConfig.roomy_of_validate writeValid

namespace System

/-- The system of a façade that nobody has called yet. -/
def ofFacade (config : FacadeConfig) (store : σ) : System Side σ FileHandle :=
  start Side.name config.pool store

end System

end HandlePool
