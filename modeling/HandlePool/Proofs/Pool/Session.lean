import HandlePool.Proofs.Pool.Custody

/-!
# Sessions of calls to one pool

A session makes call after call to one pool.  Any time may pass before a call.
A call that opens a handle may take any time until the handle is opened and
kept, and any time from then until it puts the pool in order.  The session
remembers every call with its reply.

A request is answered in one of three ways, and `Pool.Served` tells them apart:
a live entry is hit, the opener fails, or a new handle is opened, kept, and the
pool put in order.
-/

namespace HandlePool

/-- A call to a pool. -/
inductive PoolCall (η : Type) where
  /-- Ask for a handle; a missing one is opened, or opening fails. -/
  | request (key : String) (opened : Except IoError η)
  | lookup (key : String)
  | contains (key : String)
  | invalidate (key : String)
  | invalidateAll
  | settle

/-- What a call returned. -/
inductive PoolReply where
  | answer (answer : Answer)
  | found (number : Option Nat)
  | truth (value : Bool)
  | done

/-- A call, with the time that passes before it and the time that it takes. -/
structure Turn (η : Type) where
  pause : Nat
  call : PoolCall η
  /-- How long it takes to open a handle. -/
  opening : Nat := 0
  /-- How long it takes from then on to put the pool in order. -/
  settling : Nat := 0

/-- A pool under a sequence of calls. -/
structure Session (η : Type) where
  pool : Pool η
  now : Instant := 0
  /-- The calls that were made, with their replies, in order. -/
  history : List (PoolCall η × PoolReply) := []

/-- The handles that a call makes an opener produce are fresh. -/
def PoolCall.OpensFresh {η : Type} [TrackedHandle η] : PoolCall η → Prop
  | .request _ (.ok handle) => TrackedHandle.IsFresh handle
  | _ => True

namespace Pool

variable {η σ : Type} [Handle η]

/-- Make a call. -/
def perform (pool : Pool η) (time : CallTime) : PoolCall η → PoolReply × Pool η
  | .request key opened =>
    let (answer, pool, _) := pool.getOrOpen time key (fun _ => (opened, ())) ()
    (.answer answer, pool)
  | .lookup key =>
    let (number, pool) := pool.lookup time.starts key
    (.found number, pool)
  | .contains key => (.truth (pool.contains time.starts key), pool)
  | .invalidate key => (.done, pool.invalidate time.starts key)
  | .invalidateAll => (.done, pool.invalidateAll time.starts)
  | .settle => (.done, pool.settle time.starts)

end Pool

namespace Session

variable {η : Type} [Handle η]

/-- A session with a new pool. -/
def start (name : String) (config : PoolConfig) : Session η :=
  { pool := { name := name, config := config } }

/-- When the next call is made. -/
def timeOf (session : Session η) (turn : Turn η) : CallTime :=
  .lasting (session.now + turn.pause) turn.opening turn.settling

/-- Make the next call. -/
def take (session : Session η) (turn : Turn η) : Session η :=
  let (reply, pool) := session.pool.perform (session.timeOf turn) turn.call
  { pool := pool
    now := (session.timeOf turn).settles
    history := session.history ++ [(turn.call, reply)] }

/-- The session after some calls to a new pool. -/
def run (name : String) (config : PoolConfig) (turns : List (Turn η)) :
    Session η :=
  turns.foldl take (start name config)

/-- The key and the result of a call whose opener produced a handle. -/
def production : PoolCall η × PoolReply → Option (String × Except IoError Nat)
  | (.request key (.ok _), .answer answer) =>
      if answer.ran then some (key, answer.result) else none
  | _ => none

/-- The handles that openers produced, in order: the key each was opened for,
and what its caller was given. -/
def produced (session : Session η) : List (String × Except IoError Nat) :=
  session.history.filterMap production

@[simp] theorem run_nil (name : String) (config : PoolConfig) :
    run name config ([] : List (Turn η)) = start name config := rfl

theorem run_append_singleton
    (name : String)
    (config : PoolConfig)
    (turns : List (Turn η))
    (turn : Turn η) :
    run name config (turns ++ [turn]) = (run name config turns).take turn := by
  simp [run]

end Session

/-! ## How a request is answered -/

namespace Pool

variable {η σ : Type} [Handle η]

/-- The pool once a handle was opened for a missing key. -/
def adopt (pool : Pool η) (time : CallTime) (key : String)
    (handle : η) : Pool η :=
  (((pool.count .opened).enroll handle).2.insert time.inserts key
    pool.handles.length).settle time.settles

/-- A pool adopts what the opener of a missing key produced. -/
theorem openMissing_of_ok
    (pool : Pool η)
    (time : CallTime)
    (key : String)
    {opener : σ → Except IoError η × σ}
    {world later : σ}
    {handle : η}
    (opened : opener world = (.ok handle, later)) :
    pool.openMissing time key opener world =
      (.ok pool.handles.length, pool.adopt time key handle, later) := by
  unfold openMissing
  rw [opened]
  rfl

/-- Adopting a handle clears its key, puts the new entry last, and then
puts the pool in order. -/
theorem adopt_eq
    {pool : Pool η}
    (differ : pool.KeysDiffer)
    (holdsSome : pool.config.maxSize ≠ 0)
    {time : CallTime}
    {key : String}
    (missing : pool.live? time.starts key = none)
    (handle : η) :
    ∃ cleared kept : Pool η,
      Evolves time.inserts ((pool.count .opened).enroll handle).2 cleared ∧
        cleared.entries = pool.others key ∧
        kept = { cleared with
          entries := cleared.entries ++
            [⟨key, pool.handles.length, time.inserts⟩] } ∧
        kept.KeysDiffer ∧ pool.adopt time key handle =
          kept.settle time.settles := by
  let enrolled := ((pool.count .opened).enroll handle).2
  have enrolledDiffer : enrolled.KeysDiffer := differ
  have stillMissing : enrolled.live? time.inserts key = none :=
    differ.live?_eq_none_of_le time.starts_le_inserts missing
  obtain ⟨cleared, evolves, left, inserted⟩ :=
    insert_eq enrolledDiffer holdsSome stillMissing pool.handles.length
  refine ⟨cleared, _, evolves, left, rfl, ?_,
    congrArg (settle · time.settles) inserted⟩
  refine (evolves.keysDiffer enrolledDiffer).concat ?_ rfl
  intro earlier present
  rw [left] at present
  exact (mem_others.mp present).2

section Adopt

variable
  {pool : Pool η}
  {time : CallTime}
  {key : String}

theorem config_adopt
    (differ : pool.KeysDiffer)
    (holdsSome : pool.config.maxSize ≠ 0)
    (missing : pool.live? time.starts key = none)
    (handle : η) :
    (pool.adopt time key handle).config = pool.config := by
  obtain ⟨cleared, kept, evolves, -, rfl, -, adopted⟩ :=
    adopt_eq differ holdsSome missing handle
  rw [adopted, config_settle]
  exact evolves.config_eq

theorem length_handles_adopt
    (differ : pool.KeysDiffer)
    (holdsSome : pool.config.maxSize ≠ 0)
    (missing : pool.live? time.starts key = none)
    (handle : η) :
    (pool.adopt time key handle).handles.length = pool.handles.length + 1 := by
  obtain ⟨cleared, kept, evolves, -, rfl, keptDiffer, adopted⟩ :=
    adopt_eq differ holdsSome missing handle
  rw [adopted, (evolves_settle time.settles keptDiffer).length_handles_eq,
    evolves.length_handles_eq]
  exact List.length_append

/-- Nothing but the new handle is added by adopting it. -/
theorem keeps_adopt
    (differ : pool.KeysDiffer)
    (holdsSome : pool.config.maxSize ≠ 0)
    (missing : pool.live? time.starts key = none)
    (handle : η)
    {other : String}
    {number : Nat}
    (keeps : (pool.adopt time key handle).Keeps other number) :
    pool.Keeps other number ∨ (other = key ∧ number = pool.handles.length) := by
  obtain ⟨cleared, kept, -, left, rfl, keptDiffer, adopted⟩ :=
    adopt_eq differ holdsSome missing handle
  rw [adopted] at keeps
  obtain ⟨entry, present, rfl, rfl⟩ := (evolves_settle _ keptDiffer).keeps keeps
  simp only [List.mem_append, List.mem_singleton] at present
  obtain before | rfl := present
  · rw [left, mem_others] at before
    exact .inl ⟨entry, before.1, rfl, rfl⟩
  · exact .inr ⟨rfl, rfl⟩

end Adopt

/-- What a request for a key gave, when its opener gives `opened`. -/
inductive Served (pool : Pool η) (time : CallTime) (key : String) :
    Except IoError η → Answer → Pool η → Prop
  | hit {opened : Except IoError η} {final : Pool η} (number : Nat) :
      (pool.live? time.starts key).map Entry.handle = some number →
      Evolves time.starts pool final →
      Served pool time key opened ⟨.ok number, false⟩ final
  | failed {final : Pool η} (error : IoError) :
      pool.live? time.starts key = none →
      Evolves time.starts pool final →
      Served pool time key (.error error) ⟨.error error, true⟩ final
  | opened {sought final : Pool η} (handle : η) :
      pool.live? time.starts key = none →
      Evolves time.starts pool sought →
      final = sought.adopt time key handle →
      Served pool time key (.ok handle) ⟨.ok sought.handles.length, true⟩ final

theorem served_getOrOpen
    {pool : Pool η}
    (differ : pool.KeysDiffer)
    (time : CallTime)
    (key : String)
    (opener : σ → Except IoError η × σ)
    (world : σ) :
    Served pool time key (opener world).1
      (pool.getOrOpen time key opener world).1
      (pool.getOrOpen time key opener world).2.1 := by
  unfold getOrOpen
  split
  · next number final sought =>
    obtain ⟨found, evolves⟩ := seek_eq_some differ sought
    exact .hit number found evolves
  · next sought soughtEq =>
    obtain ⟨missing, evolves⟩ := seek_eq_none differ soughtEq
    cases opened : opener world with
    | mk result later =>
        cases result with
        | error error =>
            simp only [openMissing, opened]
            exact .failed error missing
              (evolves.trans (.count .openFailure (.inr (.inr rfl)) (.done _)))
        | ok handle =>
            rw [openMissing_of_ok sought time key opened]
            exact .opened handle missing evolves rfl

/-- A call either opened a handle or evolved the pool. -/
inductive Performed (pool : Pool η) (time : CallTime) :
    PoolCall η → PoolReply → Pool η → Prop
  | evolved {call : PoolCall η} {reply : PoolReply} {final : Pool η} :
      Session.production (call, reply) = none →
      Evolves time.starts pool final →
      Performed pool time call reply final
  | opened {sought final : Pool η} (key : String) (handle : η) :
      pool.live? time.starts key = none →
      Evolves time.starts pool sought →
      final = sought.adopt time key handle →
      Performed pool time (.request key (.ok handle))
        (.answer ⟨.ok sought.handles.length, true⟩) final

theorem performed_perform
    {pool : Pool η}
    (differ : pool.KeysDiffer)
    (time : CallTime)
    (call : PoolCall η) :
    Performed pool time call (pool.perform time call).1
      (pool.perform time call).2 := by
  cases call with
  | request key opened =>
      have served := served_getOrOpen differ time key (fun _ => (opened, ())) ()
      simp only [perform]
      generalize pool.getOrOpen time key (fun _ => (opened, ())) () =
        gave at served ⊢
      obtain ⟨answer, final, world⟩ := gave
      simp only at served ⊢
      cases served with
      | hit number found evolves =>
          refine .evolved ?_ evolves
          cases opened <;> rfl
      | failed error missing evolves => exact .evolved rfl evolves
      | opened handle missing evolves adopted =>
          exact .opened key handle missing evolves adopted
  | lookup key => exact .evolved rfl (evolves_lookup time.starts differ key)
  | contains key => exact .evolved rfl (.done pool)
  | invalidate key =>
      exact .evolved rfl (evolves_invalidate time.starts differ key)
  | invalidateAll =>
      exact .evolved rfl (evolves_invalidateAll time.starts differ)
  | settle => exact .evolved rfl (evolves_settle time.starts differ)

end Pool
end HandlePool
