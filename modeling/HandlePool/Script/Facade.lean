import HandlePool.Facade
import HandlePool.FileStore.Counted
import HandlePool.Script.Clock

/-!
# Scripts for a façade

A script is a list of calls to a façade over a counted tree that is empty at
first.  Between calls to the façade it may change the tree behind the façade's
back, use the handles it was given, and ask the store directly.  Each call is
answered with what it returned, the handles it closed, the counters and the
lines it wrote.
-/

namespace HandlePool
namespace FacadeScript

/-! ## Calls -/

/-- A call to the tree behind the façade's back. -/
inductive TreeCall where
  /-- Give a file these contents, creating it if need be. -/
  | put (path : Path) (contents : List UInt8)
  | makeDirectories (path : Path)
  | makeLink (path target : Path)
  | removeFile (path : Path)
  | rename (path goal : Path)
  /-- The contents of a file. -/
  | contents (path : Path)
  /-- The permissions of what a path names. -/
  | permissions (path : Path)

/-- A call to a handle. -/
inductive HandleCall where
  | readAt (length : Nat) (offset : UInt64)
  | readExactAt (length : Nat) (offset : UInt64)
  | writeAt (bytes : List UInt8) (offset : UInt64)
  | append (bytes : List UInt8)
  | syncData
  | close
  | size
  | inspect

/-- A call to the façade. -/
inductive FacadeCall where
  | openForRead (path : Path)
  | openForWrite (path : Path) (mode : OpenMode)
  | openPath (path : Path) (mode : OpenMode)
  | createFile (path : Path) (permissions : Permissions)
  | createDirectories (path : Path)
  | setPermissions (path : Path) (permissions : Permissions)
  | delete (path : Path)
  | pathExists (path : Path)
  | isRegularFile (path : Path)
  | isWritable (path : Path)
  | fileSize (path : Path)
  | usedSpace (path : Path)
  | closeAll
  | maintain
  | snapshot
  | dump
  | config
  /-- Calls to one pool, under the key of a path. -/
  | contains (side : Side) (path : Path)
  | lookup (side : Side) (path : Path)
  | invalidate (side : Side) (path : Path)
  | length (side : Side)

/-- A call past the pools. -/
inductive StoreCall where
  | failOpens (path : Path) (code : Int)
  | clearFailure (path : Path)
  | openCount (path : Path)
  | counts
  | openFile (path : Path) (mode : OpenMode)
  | createFile (path : Path) (permissions : Permissions)
  | delete (path : Path)
  /-- Open a path without being counted. -/
  | openInner (path : Path) (mode : OpenMode)

/-- A step of a script. -/
inductive Step where
  | tree (call : TreeCall)
  | handle (number : Nat) (call : HandleCall)
  | facade (call : FacadeCall)
  | store (call : StoreCall)
  /-- One more owner shares the façade. -/
  | clone
  /-- An owner lets go of the façade. -/
  | drop (owner : Nat)
  | pause (millis : Nat)

/-- What a step returned. -/
inductive Reply where
  | begun
  | over
  | done
  | nothing
  | failed (error : IoError)
  | bytes (value : List UInt8)
  | number (value : Nat)
  | numbers (values : List Nat)
  | truth (value : Bool)
  | text (value : String)
  | path (value : Path)
  | opened (number : Nat) (handle : FileHandle)
  | handle (handle : FileHandle)
  | snapshot (value : FacadeSnapshot)
  | config (value : FacadeConfig)
  | length (value resident : Nat)

/-- The account of one step. -/
structure Account where
  reply : Reply
  /-- The handles that were open before and are closed now. -/
  closed : List Nat
  snapshot : FacadeSnapshot
  lines : List String

/-! ## State -/

/-- A handle that a script was given: out of a pool, or past the pools. -/
inductive Given where
  | pooled (issued : Issued)
  | loose (number : Nat)
  deriving DecidableEq

/-- A script under way. -/
structure State where
  facade : Facade (CountedStore Tree)
  /-- Handles opened past the pools. -/
  loose : List FileHandle := []
  /-- The handles the script was given, in the order in which it first saw
  them. -/
  given : List Given := []
  /-- For each owner, whether it still holds the façade. -/
  owners : List Bool := [true]
  now : Instant := 0
  /-- Put the pools in order after every step. -/
  settlesAlways : Bool := false

namespace State

/-- The façade with its owners. -/
def shared (state : State) : SharedFacade (CountedStore Tree) :=
  ⟨state.facade, state.owners⟩

/-- The tree under everything. -/
def tree (state : State) : Tree := state.facade.store.inner

/-- The state with another tree. -/
def withTree (state : State) (tree : Tree) : State :=
  { state with
    facade := { state.facade with
      store := { state.facade.store with inner := tree } } }

/-- A handle that was given. -/
def handleOf? (state : State) : Given → Option FileHandle
  | .pooled issued => state.facade.handle? issued
  | .loose number => state.loose[number]?

/-- The handle of a number. -/
def handle? (state : State) (number : Nat) : Option FileHandle :=
  state.given[number]?.bind state.handleOf?

/-- The state with a given handle replaced. -/
def withHandle (state : State) (given : Given) (handle : FileHandle) : State :=
  match given with
  | .loose number => { state with loose := state.loose.set number handle }
  | .pooled ⟨side, number⟩ =>
    { state with
      facade := state.facade.change side fun pool =>
        { pool with handles := pool.handles.set number handle } }

/-- Give a handle to the script, numbering it if it is new. -/
def give (state : State) (given : Given) : Reply × State :=
  let state :=
    if given ∈ state.given then state
    else { state with given := state.given ++ [given] }
  match state.handleOf? given with
  | none => (.nothing, state)
  | some handle => (.opened (state.given.idxOf given) handle, state)

/-- Answer for a call that gives a handle of the façade. -/
def giveIssued (state : State)
    (answer : Except IoError Issued × Facade (CountedStore Tree)) :
      Reply × State :=
  let state := { state with facade := answer.2 }
  match answer.1 with
  | .error error => (.failed error, state)
  | .ok issued => state.give (.pooled issued)

/-- Answer for a call that gives a handle past the pools. -/
def giveLoose (state : State)
    (answer : Except IoError FileHandle × CountedStore Tree) : Reply × State :=
  let state := { state with facade := { state.facade with store := answer.2 } }
  match answer.1 with
  | .error error => (.failed error, state)
  | .ok handle =>
    { state with loose := state.loose ++ [handle] }.give
      (.loose state.loose.length)

end State

/-! ## Answers -/

/-- The reply for an outcome. -/
def replyOf {α : Type} (shown : α → Reply) : Except IoError α → Reply
  | .ok value => shown value
  | .error error => .failed error

/-- The reply for an outcome that says no more than that it is one. -/
def replyDone : Except IoError Unit → Reply := replyOf fun () => .done

/-- Answer for a change of the tree. -/
def changeTree (state : State) (outcome : Except IoError Tree) :
    Reply × State :=
  match outcome with
  | .error error => (.failed error, state)
  | .ok tree => (.done, state.withTree tree)

/-- Answer for a call that may change the façade. -/
def changeFacade {α : Type} (state : State) (shown : α → Reply)
    (answer : Except IoError α × Facade (CountedStore Tree)) : Reply × State :=
  (replyOf shown answer.1, { state with facade := answer.2 })

/-- Answer for a call that may change the store. -/
def changeStore (state : State)
    (answer : Except IoError Unit × CountedStore Tree) : Reply × State :=
  (replyDone answer.1,
    { state with facade := { state.facade with store := answer.2 } })

/-- Call the tree. -/
def callTree (state : State) : TreeCall → Reply × State
  | .put path contents =>
    changeTree state <|
      (state.tree.openNode path .create).map fun (number, tree) =>
        tree.setContents number contents
  | .makeDirectories path =>
    let (outcome, tree) := state.tree.makeDirectories path
    (replyDone outcome, state.withTree tree)
  | .makeLink path target => changeTree state (state.tree.makeLink path target)
  | .removeFile path => changeTree state (state.tree.removeFile path)
  | .rename path goal => changeTree state (state.tree.rename path goal)
  | .contents path =>
    let outcome := do
      let (number, tree) ← state.tree.openNode path .read
      match tree.contents? number with
      | some contents => return contents
      | none => refuse Errno.isDirectory
    (replyOf .bytes outcome, state)
  | .permissions path =>
    (replyOf (fun node => .text (Permissions.ofMode node.mode).text)
      (state.tree.nodeOf path), state)

/-- Call a handle. -/
def callHandle (state : State) (given : Given) (handle : FileHandle) :
    HandleCall → Reply × State
  | .readAt length offset =>
    (replyOf .bytes (handle.readAt state.tree length offset), state)
  | .readExactAt length offset =>
    (replyOf .bytes (handle.readExactAt state.tree length offset), state)
  | .writeAt bytes offset =>
    changeTree state (handle.writeAt state.tree bytes offset)
  | .append bytes =>
    match handle.append state.tree bytes with
    | .error error => (.failed error, state)
    | .ok (handle, tree) =>
        (.done, (state.withTree tree).withHandle given handle)
  | .syncData => (replyDone handle.syncData, state)
  | .close =>
    let (outcome, handle) := handle.close
    (replyDone outcome, state.withHandle given handle)
  | .size => (replyOf .number (handle.size state.tree), state)
  | .inspect => (.handle handle, state)

/-- Call one pool of the façade, under the key of a path. -/
def callPool (state : State) (path : Path)
    (call : String → Reply × State) : Reply × State :=
  match state.facade.resolve path with
  | .error error => (.failed error, state)
  | .ok resolved => call resolved.key

/-- Call the façade. -/
def callFacade (state : State) : FacadeCall → Reply × State
  | .openForRead path =>
    state.giveIssued (state.facade.openForRead (.startingAt state.now) path)
  | .openForWrite path mode =>
    state.giveIssued
      (state.facade.openForWrite (.startingAt state.now) path mode)
  | .openPath path mode =>
    state.giveIssued (state.facade.openPath (.startingAt state.now) path mode)
  | .createFile path permissions =>
    changeFacade state .path
      (state.facade.createFile state.now path permissions)
  | .createDirectories path =>
    changeFacade state .path (state.facade.createDirectories path)
  | .setPermissions path permissions =>
    changeFacade state .path (state.facade.setPermissions path permissions)
  | .delete path =>
    changeFacade state (fun () => .done) (state.facade.delete state.now path)
  | .pathExists path =>
    (.truth (FileStore.pathExists state.facade.store path), state)
  | .isRegularFile path =>
    (.truth (FileStore.isRegularFile state.facade.store path), state)
  | .isWritable path =>
    (.truth (FileStore.isWritable state.facade.store path), state)
  | .fileSize path =>
    (replyOf .number (FileStore.fileSize state.facade.store path), state)
  | .usedSpace path =>
    (replyDone (FileStore.usedSpace state.facade.store path), state)
  | .closeAll =>
    (.nothing, { state with facade := state.facade.closeAll state.now })
  | .maintain =>
      (.nothing, { state with facade := state.facade.settle state.now })
  | .snapshot => (.snapshot state.facade.snapshot, state)
  | .dump =>
    let facade := state.facade.settle state.now
    (.text facade.dump, { state with facade := facade })
  | .config => (.config state.facade.config, state)
  | .contains side path =>
    callPool state path fun key =>
      (.truth ((state.facade.pool side).contains state.now key), state)
  | .lookup side path =>
    callPool state path fun key =>
      let (found, pool) := (state.facade.pool side).lookup state.now key
      let state := { state with facade := state.facade.restore side pool }
      match found with
      | none => (.nothing, state)
      | some number => state.give (.pooled ⟨side, number⟩)
  | .invalidate side path =>
    callPool state path fun key =>
      (.nothing, { state with
        facade := state.facade.change side fun pool =>
          pool.invalidate state.now key })
  | .length side =>
    let facade := state.facade.change side fun pool => pool.settle state.now
    (.length (facade.pool side).length (facade.pool side).counters.resident,
      { state with facade := facade })

/-- Call the store past the pools. -/
def callStore (state : State) : StoreCall → Reply × State
  | .failOpens path code =>
    (.nothing, { state with
      facade := { state.facade with
        store := state.facade.store.failOpens path code } })
  | .clearFailure path =>
    (.nothing, { state with
      facade := { state.facade with
        store := state.facade.store.clearFailure path } })
  | .openCount path => (.number (state.facade.store.openCount path), state)
  | .counts =>
    (.numbers [state.facade.store.totalOpens, state.facade.store.creates,
      state.facade.store.deletes], state)
  | .openFile path mode =>
    state.giveLoose (FileStore.openFile path mode state.facade.store)
  | .createFile path permissions =>
    let (outcome, store) :=
      FileStore.createFile path permissions state.facade.store
    (replyOf .path outcome,
      { state with facade := { state.facade with store := store } })
  | .delete path => changeStore state (FileStore.delete path state.facade.store)
  | .openInner path mode =>
    state.giveLoose <|
      state.facade.store.passOn (FileStore.openFile path mode)

/-- Let an owner go. -/
def dropOwner (state : State) (owner : Nat) : State :=
  let shared := state.shared.drop state.now owner
  { state with facade := shared.facade, owners := shared.owners }

/-- Make a call. -/
def call (state : State) : Step → Reply × State
  | .tree call => callTree state call
  | .handle number call =>
    match state.given[number]?, state.handle? number with
    | some given, some handle => callHandle state given handle call
    | _, _ => (.nothing, state)
  | .facade call => callFacade state call
  | .store call => callStore state call
  | .clone =>
    (.number state.owners.length,
      { state with owners := state.shared.clone.owners })
  | .drop owner => (.nothing, dropOwner state owner)
  | .pause _ => (.nothing, state)

/-! ## Running -/

/-- Lines of a step that removes everything come in no particular order. -/
def orderLines (step : Step) (lines : List String) : List String :=
  match step with
  | .facade .closeAll | .drop _ => sortLines lines
  | _ => lines

/-- The handles that are closed now, but were open or unknown before. -/
def closedSince (before after : State) : List Nat :=
  (List.range after.given.length).filter fun number =>
    let isOpen (state : State) : Bool :=
      ((state.handle? number).map FileHandle.isOpen).getD true
    isOpen before && !isOpen after

/-- The account of a step, given the states before and after it. -/
def account (before after : State) (reply : Reply)
    (lines : List String) : Account :=
  ⟨reply, closedSince before after, after.facade.snapshot, lines⟩

/-- Forget what was noted so far. -/
def clearJournal (state : State) : State :=
  { state with facade := { state.facade with journal := [] } }

/-- Take the next step of a script. -/
def step (state : State) (step : Step) : Account × State :=
  let before := clearJournal state
  let (reply, after) := call before step
  let now := state.now + callNanos
  let after :=
    match step with
    | .pause millis => { after with now := now + millis * nanosPerMilli }
    | _ =>
      { after with
        now := now
        facade := if state.settlesAlways then after.facade.settle now
          else after.facade }
  (account before after reply (orderLines step after.facade.lines), after)

/-- The end of a script: the owners that are left let go. -/
def finish (state : State) : Account :=
  let before := clearJournal state
  let after :=
    if state.shared.isHeld then
      { before with facade := before.facade.release state.now }
    else before
  account before after .over (sortLines after.facade.lines)

/-- The accounts of all steps from a state on, and of the end. -/
def runFrom (state : State) : List Step → List Account
  | [] => [finish state]
  | next :: later =>
    let (account, state) := step state next
    account :: runFrom state later

/-- Run a script on a fresh façade; the first account is
that of its creation. -/
def run (config : FacadeConfig) (settlesAlways : Bool) (steps : List Step) :
    Except BuildError (List Account) :=
  match Facade.create config { inner := Tree.empty } with
  | .error error => .error error
  | .ok facade =>
    let state : State := { facade := facade, settlesAlways := settlesAlways }
    .ok (account state state .begun facade.lines :: runFrom state steps)

end FacadeScript
end HandlePool
