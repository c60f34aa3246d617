import HandlePool.Pool
import Mathlib.Logic.Function.Basic

/-!
# Clients that share pools

Any number of clients make calls to pools that they share.  A call takes several
steps, and between two steps of one client the others may take any number of
theirs.  Every step is one that a pool takes as a whole: a lookup, the re-check
under a lock, the run of an opener, keeping what it opened, putting a pool in
order, or a removal.

A request that misses waits for the lock of its key before it looks again, and
holds the lock until its handle is kept.  A removal holds the same lock.  A key
has its lock by a stripe that it may share with any other keys.

The system records what openers did: each opening has a serial number, given
when the opener starts, and is noted with its result when the opener returns.
-/

namespace HandlePool

/-- What a call returned to its client. -/
inductive Reply where
  | handle (result : Except IoError Nat)
  | found (number : Option Nat)
  | done (result : Except IoError Unit)

/-- A part of a call.  Pools are told apart by their places. -/
inductive Task (ι σ η : Type) where
  /-- Ask for the handle of a key; a missing one is opened. -/
  | request (place : ι) (key : String) (opener : σ → Except IoError η × σ)
  | lookup (place : ι) (key : String)
  | invalidate (place : ι) (key : String)
  | invalidateAll (place : ι)
  /-- Remove one of all keys. -/
  | remove (place : ι) (key : String)
  /-- Put the pool in order when all keys were removed, so many of them. -/
  | conclude (place : ι) (count : Nat)
  | settle (place : ι)
  /-- Ask what is behind the pools. -/
  | consult (query : σ → Except IoError Unit × σ)

/-- How far a client is that holds the lock of a key. -/
inductive Stage (σ η : Type) where
  /-- The key is missing, and will be looked up again. -/
  | recheck (opener : σ → Except IoError η × σ)
  /-- The opener runs. -/
  | opening (serial : Nat) (opener : σ → Except IoError η × σ)
  /-- A handle was opened and will be kept. -/
  | opened (number : Nat)
  /-- The handle is kept, and the pool will be put in order. -/
  | kept (number : Nat)
  /-- The entry of the key will be removed, and that be noted, or not. -/
  | removal (noted : Bool)
  /-- The reply is known, and the lock will be given back. -/
  | leaving (reply : Reply)

/-- What a client is doing, and the tasks that remain for its call. -/
inductive Client (ι σ η : Type) where
  | idle (reply : Option Reply)
  | busy (task : Task ι σ η) (rest : List (Task ι σ η))
  /-- The client missed a key and waits for its lock. -/
  | queued (place : ι) (key : String) (opener : σ → Except IoError η × σ)
      (rest : List (Task ι σ η))
  /-- The client holds the lock of a key. -/
  | inside (place : ι) (key : String) (stage : Stage σ η)
      (rest : List (Task ι σ η))

/-- What an opener did. -/
structure Opening (ι : Type) where
  serial : Nat
  place : ι
  key : String
  result : Except IoError Nat

/-- Pools with the clients that share them; clients have numbers. -/
structure System (ι σ η : Type) where
  pools : ι → Pool η
  /-- What openers and queries work on. -/
  world : σ
  now : Instant := 0
  /-- Who holds the lock of a stripe. -/
  locks : ι × Nat → Option Nat := fun _ => none
  clients : Nat → Client ι σ η := fun _ => .idle none
  /-- How many openers were started. -/
  started : Nat := 0
  /-- What openers did that have returned, in order. -/
  openings : List (Opening ι) := []

/-- Something that happens in a system. -/
inductive Move (ι σ η : Type) where
  /-- An idle client makes a call. -/
  | begins (name : Nat) (task : Task ι σ η) (rest : List (Task ι σ η))
  /-- A client takes its next step. -/
  | advances (name : Nat)
  /-- Time passes. -/
  | elapses (nanos : Nat)

variable {ι σ η : Type}

/-- Remove the entry of a key, and note that if the call is about this key. -/
def Pool.takeOut [Handle η] (pool : Pool η) (now : Instant) (key : String)
    (noted : Bool) : Pool η :=
  if noted then pool.invalidate now key else pool.drop now key

/-- Go on with the next task, or end the call with a reply. -/
def Client.next (reply : Reply) : List (Task ι σ η) → Client ι σ η
  | [] => .idle (some reply)
  | task :: rest => .busy task rest

namespace System

/-- Pools of some names and configurations, which nobody has called yet. -/
def start (names : ι → String) (configs : ι → PoolConfig) (world : σ) :
    System ι σ η :=
  { pools := fun place => { name := names place, config := configs place }
    world := world }

variable [DecidableEq ι]

def setPool (system : System ι σ η) (place : ι) (pool : Pool η) :
    System ι σ η :=
  { system with pools := Function.update system.pools place pool }

def setClient (system : System ι σ η) (name : Nat) (client : Client ι σ η) :
    System ι σ η :=
  { system with clients := Function.update system.clients name client }

def setLock (system : System ι σ η) (lock : ι × Nat) (holder : Option Nat) :
    System ι σ η :=
  { system with locks := Function.update system.locks lock holder }

/-- Note what an opener did. -/
def record (system : System ι σ η) (opening : Opening ι) : System ι σ η :=
  { system with openings := system.openings ++ [opening] }

/-- Take the lock of a key, unless somebody holds it. -/
def enter (stripe : ι → String → Nat) (system : System ι σ η)
    (name : Nat) (place : ι)
    (key : String) (stage : Stage σ η) (rest : List (Task ι σ η)) :
    Option (System ι σ η) :=
  match system.locks (place, stripe place key) with
  | some _ => none
  | none =>
      some ((system.setLock (place, stripe place key) (some name)).setClient
        name (.inside place key stage rest))

variable [Handle η]

/-- The step of a client that holds no lock and has a task to do;
`none` if it has to wait. -/
def attend (stripe : ι → String → Nat) (system : System ι σ η) (name : Nat)
    (rest : List (Task ι σ η)) : Task ι σ η → Option (System ι σ η)
  | .request place key opener =>
      match (system.pools place).lookup system.now key with
      | (some number, pool) =>
          some ((system.setPool place (pool.count .hit)).setClient name
            (.next (.handle (.ok number)) rest))
      | (none, pool) =>
          some ((system.setPool place pool).setClient name
            (.queued place key opener rest))
  | .lookup place key =>
      let (number, pool) := (system.pools place).lookup system.now key
      some ((system.setPool place pool).setClient name
        (.next (.found number) rest))
  | .invalidate place key =>
      system.enter stripe name place key (.removal true) rest
  | .invalidateAll place =>
      let keys := (system.pools place).liveKeys system.now
      some (system.setClient name
        (.next (.done (.ok ()))
          (keys.map (.remove place) ++ .conclude place keys.length :: rest)))
  | .remove place key =>
      system.enter stripe name place key (.removal false) rest
  | .conclude place count =>
      some ((system.setPool place
        (((system.pools place).settle system.now).note
          (.invalidatedAll count))).setClient
          name (.next (.done (.ok ())) rest))
  | .settle place =>
      some ((system.setPool place
        ((system.pools place).settle system.now)).setClient name
        (.next (.done (.ok ())) rest))
  | .consult query =>
      match query system.world with
      | (.ok (), world) =>
          some ({ system with world := world }.setClient name
            (.next (.done (.ok ())) rest))
      | (.error error, world) =>
          some ({ system with world := world }.setClient name
            (.idle (some (.done (.error error)))))

/-- The step of a client that holds the lock of a key. -/
def proceed (stripe : ι → String → Nat) (system : System ι σ η)
    (name : Nat) (place : ι)
    (key : String) (rest : List (Task ι σ η)) : Stage σ η → System ι σ η
  | .recheck opener =>
      match (system.pools place).lookup system.now key with
      | (some number, pool) =>
          (system.setPool place (pool.count .hit)).setClient name
            (.inside place key (.leaving (.handle (.ok number))) rest)
      | (none, pool) =>
          { (system.setPool place (pool.count .miss)).setClient name
              (.inside place key (.opening system.started opener) rest) with
            started := system.started + 1 }
  | .opening serial opener =>
      match opener system.world with
      | (.error error, world) =>
          ({ system with world := world }.setPool place
              ((system.pools place).count .openFailure)).record
              ⟨serial, place, key, .error error⟩ |>.setClient name
            (.inside place key (.leaving (.handle (.error error))) rest)
      | (.ok handle, world) =>
          let (number, pool) :=
            ((system.pools place).count .opened).enroll handle
          ({ system with world := world }.setPool place pool).record
              ⟨serial, place, key, .ok number⟩ |>.setClient name
            (.inside place key (.opened number) rest)
  | .opened number =>
      (system.setPool place
        ((system.pools place).insert system.now key number)).setClient
        name (.inside place key (.kept number) rest)
  | .kept number =>
      (system.setPool place ((system.pools place).settle system.now)).setClient
        name (.inside place key (.leaving (.handle (.ok number))) rest)
  | .removal noted =>
      (system.setPool place
        ((system.pools place).takeOut system.now key noted)).setClient
        name (.inside place key (.leaving (.done (.ok ()))) rest)
  | .leaving reply =>
      (system.setLock (place, stripe place key) none).setClient name
        (.next reply rest)

/-- The next step of a client, unless it is idle or has to wait. -/
def advance (stripe : ι → String → Nat) (system : System ι σ η) (name : Nat) :
    Option (System ι σ η) :=
  match system.clients name with
  | .idle _ => none
  | .busy task rest => system.attend stripe name rest task
  | .queued place key opener rest =>
      system.enter stripe name place key (.recheck opener) rest
  | .inside place key stage rest =>
      some (system.proceed stripe name place key rest stage)

/-- Make a move, if it is possible. -/
def move? (stripe : ι → String → Nat) (system : System ι σ η) :
    Move ι σ η → Option (System ι σ η)
  | .begins name task rest =>
      match system.clients name with
      | .idle _ => some (system.setClient name (.busy task rest))
      | _ => none
  | .advances name => system.advance stripe name
  | .elapses nanos => some { system with now := system.now + nanos }

/-- Make move after move, as long as they are possible. -/
def play (stripe : ι → String → Nat) (system : System ι σ η)
    (moves : List (Move ι σ η)) : Option (System ι σ η) :=
  moves.foldlM (move? stripe) system

/-- Moves that are allowed lead from one system to the other. -/
def Reaches (stripe : ι → String → Nat) (allowed : Move ι σ η → Prop)
    (system final : System ι σ η) : Prop :=
  ∃ moves, (∀ move ∈ moves, allowed move) ∧
    system.play stripe moves = some final

section Reaches

variable
  {stripe : ι → String → Nat}
  {allowed : Move ι σ η → Prop}
  {system middle final : System ι σ η}

theorem reaches_self
    (stripe : ι → String → Nat)
    (allowed : Move ι σ η → Prop)
    (system : System ι σ η) :
    system.Reaches stripe allowed system :=
  ⟨[], by simp, rfl⟩

theorem Reaches.trans
    (first : system.Reaches stripe allowed middle)
    (second : middle.Reaches stripe allowed final) :
    system.Reaches stripe allowed final := by
  obtain ⟨moves, allAllowed, played⟩ := first
  obtain ⟨later, allLaterAllowed, playedLater⟩ := second
  refine ⟨moves ++ later, ?_, ?_⟩
  · intro move present
    rw [List.mem_append] at present
    exact present.elim (allAllowed move) (allLaterAllowed move)
  · rw [play, List.foldlM_append]
    simp only [play] at played playedLater
    simp only [played, Option.bind_eq_bind, Option.bind_some, playedLater]

theorem reaches_of_move?
    {move : Move ι σ η}
    (isAllowed : allowed move)
    (moved : system.move? stripe move = some final) :
    system.Reaches stripe allowed final := by
  refine ⟨[move], by simpa using isAllowed, ?_⟩
  simp [play, moved]

theorem Reaches.mono
    {other : Move ι σ η → Prop}
    (reaches : system.Reaches stripe allowed final)
    (implies : ∀ move, allowed move → other move) :
    system.Reaches stripe other final := by
  obtain ⟨moves, allAllowed, played⟩ := reaches
  exact ⟨moves, fun move present =>
    implies move (allAllowed move present), played⟩

end Reaches

end System
end HandlePool
