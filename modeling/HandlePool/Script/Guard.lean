import HandlePool.Guard

/-!
# Scripts for a guard

A script makes trial handles, passes them to a guard and closes them directly.
-/

namespace HandlePool
namespace GuardScript

/-- A call of a script. -/
inductive Step where
  /-- Make a handle. -/
  | make (handle : TrialHandle)
  /-- Pass a handle to the guard. -/
  | remove (handle : Nat) (key : String) (cause : RemovalCause)
  /-- Close a handle directly. -/
  | close (handle : Nat)

/-- What a call returned. -/
inductive Reply where
  | made (number : Nat)
  | removed (outcome : RemovalOutcome) (handle : TrialHandle)
  | closed (outcome : Except IoError Unit) (handle : TrialHandle)
  | nothing

/-- The account of one call. -/
structure Account where
  reply : Reply
  snapshot : Snapshot
  lines : List String

/-- A script under way. -/
structure State where
  name : String
  policy : ReplacePolicy
  handles : List TrialHandle := []
  counters : Counters := .zero

/-- Make the next call of a script. -/
def step (state : State) : Step → Account × State
  | .make handle =>
    (⟨.made state.handles.length, state.counters.snapshot, []⟩,
      { state with handles := state.handles ++ [handle] })
  | .remove number key cause =>
    match state.handles[number]? with
    | none => (⟨.nothing, state.counters.snapshot, []⟩, state)
    | some handle =>
      let released := release state.policy state.counters key cause handle
      (⟨.removed released.outcome released.handle, released.counters.snapshot,
          [released.event.line state.name]⟩,
        { state with
          handles := state.handles.set number released.handle
          counters := released.counters })
  | .close number =>
    match state.handles[number]? with
    | none => (⟨.nothing, state.counters.snapshot, []⟩, state)
    | some handle =>
      let (outcome, handle) := handle.close
      (⟨.closed outcome handle, state.counters.snapshot, []⟩,
        { state with handles := state.handles.set number handle })

/-- The accounts of all calls from a state on. -/
def runFrom (state : State) : List Step → List Account
  | [] => []
  | next :: later =>
    let (account, state) := step state next
    account :: runFrom state later

/-- Run a script on a fresh guard. -/
def run (name : String) (policy : ReplacePolicy) (steps : List Step) :
    List Account :=
  runFrom { name := name, policy := policy } steps

end GuardScript
end HandlePool
