import HandlePool.Script.Clock

/-!
# Several clients of one pool

Clients that call a pool at the same time are answered as if they called one
after another.  Three situations are played through: all ask for one key, each
asks for keys of its own, and a key is invalidated while it is being opened.
-/

namespace HandlePool
namespace Sharing

/-- The pool of a situation. -/
def start (maxSize : UInt64) : Pool TrialHandle :=
  { name := "test", config := ⟨maxSize, .ofSeconds 60, .close⟩ }

/-- Ask for one key after another; the number of runs of the
opener is counted. -/
def requests (pool : Pool TrialHandle)
    (openFor : Nat → Except IoError TrialHandle) :
    List (Nat × String) → List Answer × Pool TrialHandle
  | [] => ([], pool)
  | (index, key) :: later =>
    let time := CallTime.startingAt (index * callNanos)
    let (answer, pool, _) :=
      pool.getOrOpen time key (fun _ => (openFor index, ())) ()
    let (answers, pool) := requests pool openFor later
    (answer :: answers, pool)

/-- What was seen of the pool in the end. -/
structure Summary where
  ran : Nat
  length : Nat
  snapshot : Snapshot

/-- The summary of some answers and the pool after them. -/
def summary (answers : List Answer) (pool : Pool TrialHandle) : Summary :=
  ⟨(answers.filter Answer.ran).length, pool.length, pool.counters.snapshot⟩

/-- The moment after so many calls. -/
def afterCalls (count : Nat) : Instant := (count + 1) * callNanos

/-- All clients ask for one key. -/
def openSame (clients : Nat) (maxSize : UInt64)
    (opened : Except IoError TrialHandle) :
      List (Except IoError Nat) × Summary :=
  let calls := (List.range clients).map fun index => (index, "/shared")
  let (answers, pool) := requests (start maxSize) (fun _ => opened) calls
  let pool := pool.settle (afterCalls clients)
  (answers.map Answer.result, summary answers pool)

/-- Each client asks for some keys of its own. -/
def openDistinct (clients perClient : Nat) (maxSize : UInt64) :
    List TrialHandle × Summary :=
  let total := clients * perClient
  let calls := (List.range total).map fun index =>
    (index, "/" ++ toString index)
  let (answers, pool) :=
    requests (start maxSize) (fun index => .ok { tag := index }) calls
  let pool := pool.settle (afterCalls total)
  (pool.handles, summary answers pool)

/-- The most often that one of some handles was closed. -/
def mostCloseCalls (handles : List TrialHandle) : Option Nat :=
  (handles.map TrialHandle.closeCalls).max?

/-- One client opens a key, another invalidates it meanwhile and so waits until
it has been opened. -/
def invalidateInFlight (maxSize : UInt64) :
    Option TrialHandle × Bool × Summary :=
  let (answers, pool) :=
    requests (start maxSize) (fun _ => .ok { tag := 1 }) [(0, "/seg")]
  let now := afterCalls 1
  let pool := (pool.invalidate now "/seg").settle now
  (pool.handles.head?, pool.contains now "/seg", summary answers pool)

end Sharing
end HandlePool
