import HandlePool.Script.Clock

/-!
# Scripts for one pool

A script is a list of calls to a pool of trial handles.  Each call is answered
with what it returned, the handles whose close count it changed, the counters
and the lines it wrote.
-/

namespace HandlePool
namespace PoolScript

/-- A call of a script. -/
inductive Step where
  /-- Ask for a handle; a missing one is opened, or opening fails. -/
  | request (key : String) (opened : Except IoError TrialHandle)
  | lookup (key : String)
  | contains (key : String)
  | invalidate (key : String)
  | invalidateAll
  | maintain
  | length
  | dump
  | info
  | inspect (handle : Nat)
  /-- Close a handle behind the pool's back. -/
  | close (handle : Nat)
  | pause (millis : Nat)

/-- What a call returned. -/
inductive Reply where
  | opened (number : Nat) (handle : TrialHandle) (ran : Bool)
  | failed (error : IoError) (ran : Bool)
  | found (number : Nat) (handle : TrialHandle)
  | nothing
  | truth (value : Bool)
  | length (value : Nat)
  | text (value : String)
  | info (name : String) (config : PoolConfig) (resident : Nat)
  | handle (handle : TrialHandle)
  | closed (outcome : Except IoError Unit)
  | over

/-- The account of one call. -/
structure Account where
  reply : Reply
  /-- Handles whose close count changed, with their new counts. -/
  closed : List (Nat × Nat)
  snapshot : Snapshot
  lines : List String

/-- A script under way. -/
structure State where
  pool : Pool TrialHandle
  now : Instant := 0
  /-- Put the pool in order after every call. -/
  settlesAlways : Bool := false

/-- Handles whose close count differs between two moments. -/
def closedSince (before after : List TrialHandle) : List (Nat × Nat) :=
  after.zipIdx.filterMap fun (handle, number) =>
    let earlier := (before[number]?.map TrialHandle.closeCalls).getD 0
    if handle.closeCalls = earlier then none
      else some (number, handle.closeCalls)

/-- The reply that shows a handle, or nothing if there is
none of that number. -/
def showHandle (pool : Pool TrialHandle) (number : Nat)
    (reply : TrialHandle → Reply) : Reply :=
  match pool.handles[number]? with
  | none => .nothing
  | some handle => reply handle

/-- Make a call. -/
def call (pool : Pool TrialHandle) (now : Instant) :
    Step → Reply × Pool TrialHandle
  | .request key opened =>
    let (answer, pool, _) :=
      pool.getOrOpen (.startingAt now) key (fun _ => (opened, ())) ()
    match answer.result with
    | .error error => (.failed error answer.ran, pool)
    | .ok number =>
      (showHandle pool number fun handle =>
        .opened number handle answer.ran, pool)
  | .lookup key =>
    match pool.lookup now key with
    | (none, pool) => (.nothing, pool)
    | (some number, pool) => (showHandle pool number (.found number), pool)
  | .contains key => (.truth (pool.contains now key), pool)
  | .invalidate key => (.nothing, pool.invalidate now key)
  | .invalidateAll => (.nothing, pool.invalidateAll now)
  | .maintain => (.nothing, pool.settle now)
  | .length =>
    let pool := pool.settle now
    (.length pool.length, pool)
  | .dump =>
    let pool := pool.settle now
    (.text pool.dump, pool)
  | .info => (.info pool.name pool.config pool.counters.resident, pool)
  | .inspect number => (showHandle pool number .handle, pool)
  | .close number =>
    match pool.handles[number]? with
    | none => (.nothing, pool)
    | some handle =>
      let (outcome, handle) := handle.close
      (.closed outcome, { pool with handles := pool.handles.set number handle })
  | .pause _ => (.nothing, pool)

/-- Lines of a call that removes everything come in no particular order. -/
def orderLines (step : Step) (lines : List String) : List String :=
  match step with
  | .invalidateAll => sortLines lines
  | _ => lines

/-- The account of a call, given the pool before and after it. -/
def account (before after : Pool TrialHandle) (reply : Reply)
    (lines : List String) : Account :=
  ⟨reply, closedSince before.handles after.handles,
    after.counters.snapshot, lines⟩

/-- Make the next call of a script. -/
def step (state : State) (step : Step) : Account × State :=
  let before := { state.pool with journal := [] }
  let (reply, after) := call before state.now step
  let now := state.now + callNanos
  let (after, now) :=
    match step with
    | .pause millis => (after, now + millis * nanosPerMilli)
    | _ => (if state.settlesAlways then after.settle now else after, now)
  (account before after reply (orderLines step after.lines),
    { state with pool := after, now := now })

/-- The end of a script: the pool is dropped with all it holds. -/
def finish (state : State) : Account :=
  let before := { state.pool with journal := [] }
  let after := before.invalidateAll state.now
  account before after .over (sortLines after.lines)

/-- The accounts of all calls from a state on, and of the end. -/
def runFrom (state : State) : List Step → List Account
  | [] => [finish state]
  | next :: later =>
    let (account, state) := step state next
    account :: runFrom state later

/-- Run a script on a fresh pool. -/
def run (name : String) (config : PoolConfig) (settlesAlways : Bool)
    (steps : List Step) : Except Abort (List Account) :=
  match Pool.create name config with
  | .error reason => .error reason
  | .ok pool =>
      .ok (runFrom { pool := pool, settlesAlways := settlesAlways } steps)

end PoolScript
end HandlePool
