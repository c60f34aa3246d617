import HandlePool.Proofs.FileHandle
import Mathlib.Data.List.Induction

/-!
# The life of a file handle

Several handles lie on a desk, some of them perhaps on one file.  Calls are made
on them in any order, more of them are opened, and the files change without
them.  A handle gives its descriptor back at the first closing, whatever that
returns, and never again.  From then on it answers without the files, and leaves
everything on the desk as it is.
-/

namespace HandlePool

/-- A call on a file handle. -/
inductive FileCall where
  | close
  | isOpen
  | readAt (length : Nat) (offset : UInt64)
  | readExactAt (length : Nat) (offset : UInt64)
  | writeAt (bytes : List UInt8) (offset : UInt64)
  | append (bytes : List UInt8)
  | syncData
  | size
  deriving DecidableEq, Repr

/-- What a call on a file handle returns when it succeeds. -/
inductive FileReply where
  | done
  | truth (value : Bool)
  | bytes (content : List UInt8)
  | length (number : Nat)
  deriving DecidableEq, Repr

namespace FileCall

/-- What a call returns, and what it leaves of the handle and of the files. -/
def run (handle : FileHandle) (tree : Tree) :
    FileCall → Except IoError FileReply × FileHandle × Tree
  | .close => (handle.close.1.map fun _ => .done, handle.close.2, tree)
  | .isOpen => (.ok (.truth handle.isOpen), handle, tree)
  | .readAt length offset =>
      ((handle.readAt tree length offset).map .bytes, handle, tree)
  | .readExactAt length offset =>
    ((handle.readExactAt tree length offset).map .bytes, handle, tree)
  | .writeAt bytes offset =>
    match handle.writeAt tree bytes offset with
    | .error error => (.error error, handle, tree)
    | .ok after => (.ok .done, handle, after)
  | .append bytes =>
    match handle.append tree bytes with
    | .error error => (.error error, handle, tree)
    | .ok (moved, after) => (.ok .done, moved, after)
  | .syncData => (handle.syncData.map fun _ => .done, handle, tree)
  | .size => ((handle.size tree).map .length, handle, tree)

/-- The call reads or writes, or asks the system about the file. -/
def isTransfer : FileCall → Bool
  | .close => false
  | .isOpen => false
  | _ => true

/-- What every call on a closed handle returns. -/
def replyOfClosed : FileCall → Except IoError FileReply
  | .close => .ok .done
  | .isOpen => .ok (.truth false)
  | _ => .error (.system Errno.badDescriptor)

theorem replyOfClosed_of_isTransfer
    {call : FileCall}
    (transfers : call.isTransfer = true) :
    call.replyOfClosed = .error (.system Errno.badDescriptor) := by
  cases call
  case close | isOpen => cases transfers
  all_goals rfl

end FileCall

namespace FileHandle

variable {handle : FileHandle}

/-- The handle with its next sequential write elsewhere. -/
def withCursor (handle : FileHandle) (cursor : Nat) : FileHandle :=
  { handle with
    descriptor := handle.descriptor.map fun descriptor =>
      { descriptor with cursor := cursor } }

/-- What the system reports when a handle is closed for the first time. -/
def fault? (handle : FileHandle) : Option IoError :=
  handle.descriptor.bind (·.fault)

theorem descriptor_eq_none_iff :
    handle.descriptor = none ↔ handle.isOpen = false := by
  simp [isOpen]

@[simp] theorem isOpen_withCursor
    (handle : FileHandle)
    (cursor : Nat) :
    (handle.withCursor cursor).isOpen = handle.isOpen := by
  simp [isOpen, withCursor]

@[simp] theorem withCursor_withCursor
    (handle : FileHandle)
    (cursor next : Nat) :
    (handle.withCursor cursor).withCursor next = handle.withCursor next := by
  simp only [withCursor, Option.map_map]
  rfl

theorem withCursor_of_closed
    (closed : handle.isOpen = false)
    (cursor : Nat) :
    handle.withCursor cursor = handle := by
  have unheld : handle.descriptor = none := descriptor_eq_none_iff.mpr closed
  rw [withCursor, unheld]
  exact congrArg (FileHandle.mk handle.path handle.mode · handle.releases)
    unheld.symm

theorem exists_withCursor_eq
    (handle : FileHandle) :
    ∃ cursor, handle.withCursor cursor = handle := by
  cases held : handle.descriptor with
  | none => exact ⟨0, withCursor_of_closed (descriptor_eq_none_iff.mp held) 0⟩
  | some descriptor =>
      refine ⟨descriptor.cursor, ?_⟩
      rw [withCursor, held]
      exact congrArg (FileHandle.mk handle.path handle.mode · handle.releases)
        held.symm

@[simp] theorem fault?_withCursor
    (handle : FileHandle)
    (cursor : Nat) :
    (handle.withCursor cursor).fault? = handle.fault? := by
  cases held : handle.descriptor <;> simp [fault?, withCursor, held]

theorem close_of_open
    (isOpen : handle.isOpen = true) :
    handle.close =
      (handle.fault?.elim (.ok ()) .error,
        { handle with descriptor := none, releases :=
          handle.releases + 1 }) := by
  obtain ⟨descriptor, held⟩ := Option.isSome_iff_exists.mp isOpen
  simp only [close, fault?, held, Option.bind_some]
  cases descriptor.fault <;> rfl

@[simp] theorem close_withCursor
    (handle : FileHandle)
    (cursor : Nat) :
    (handle.withCursor cursor).close = handle.close := by
  cases held : handle.descriptor with
  | none =>
      rw [withCursor_of_closed (descriptor_eq_none_iff.mp held)]
  | some descriptor =>
      simp only [close, withCursor, held, Option.map_some]

end FileHandle

namespace FileCall

variable {handle : FileHandle}

/-! ## One call -/

/-- A closed handle answers every call without the files, and
leaves them as they are. -/
theorem run_of_closed
    (closed : handle.isOpen = false)
    (tree : Tree)
    (call : FileCall) :
    call.run handle tree = (call.replyOfClosed, handle, tree) := by
  have unheld : handle.descriptor = none :=
    FileHandle.descriptor_eq_none_iff.mpr closed
  have dead : handle.live = .error .closedHandle :=
    FileHandle.live_eq_error_iff.mpr closed
  cases call with
  | close => rw [run, FileHandle.close_of_closed unheld]; rfl
  | isOpen => rw [run, closed]; rfl
  | readAt length offset => rw [run, FileHandle.readAt, dead]; rfl
  | readExactAt length offset => rw [run, FileHandle.readExactAt, dead]; rfl
  | writeAt bytes offset => rw [run, FileHandle.writeAt_of_closed unheld]; rfl
  | append bytes => rw [run, FileHandle.append_of_closed unheld]; rfl
  | syncData => rw [run, FileHandle.syncData, dead]; rfl
  | size => rw [run, FileHandle.size, dead]; rfl

/-- Every call but closing moves nothing of the handle but its cursor. -/
theorem run_handle
    {call : FileCall}
    (notClose : call ≠ .close)
    (handle : FileHandle)
    (tree : Tree) :
    ∃ cursor, (call.run handle tree).2.1 = handle.withCursor cursor := by
  obtain ⟨cursor, same⟩ := handle.exists_withCursor_eq
  cases call with
  | close => exact absurd rfl notClose
  | append bytes =>
      simp only [run]
      split
      · exact ⟨cursor, same.symm⟩
      · next moved after appended =>
        obtain ⟨descriptor, next, held, isMoved, -⟩ :=
          FileHandle.of_append appended
        refine ⟨next, isMoved.trans ?_⟩
        rw [FileHandle.withCursor, held]
        rfl
  | writeAt bytes offset =>
      refine ⟨cursor, ?_⟩
      simp only [run]
      split <;> exact same.symm
  | _ => exact ⟨cursor, same.symm⟩

end FileCall

/-! ## Many handles -/

/-- Files, and handles on them. -/
structure Desk where
  tree : Tree
  handles : List FileHandle
  deriving DecidableEq, Repr

/-- What happens on a desk. -/
inductive DeskEvent where
  /-- A call is made on the handle with a number. -/
  | calls (number : Nat) (call : FileCall)
  /-- One more handle is opened. -/
  | opens (path : Path) (mode : OpenMode)
  /-- The files are changed by others. -/
  | changes (tree : Tree)
  deriving DecidableEq, Repr

namespace Desk

variable {desk : Desk} {number : Nat} {handle : FileHandle}

/-- What a call on the handle with a number returns, if there is
one, and what it leaves. -/
def answer (desk : Desk) (number : Nat) (call : FileCall) :
    Option (Except IoError FileReply) × Desk :=
  match desk.handles[number]? with
  | none => (none, desk)
  | some handle =>
    let ran := call.run handle desk.tree
    (some ran.1, ⟨ran.2.2, desk.handles.set number ran.2.1⟩)

/-- What an event leaves. -/
def next (desk : Desk) : DeskEvent → Desk
  | .calls number call => (desk.answer number call).2
  | .opens path mode =>
    match FileHandle.ofPath desk.tree path mode with
    | (.error _, tree) => ⟨tree, desk.handles⟩
    | (.ok handle, tree) => ⟨tree, desk.handles ++ [handle]⟩
  | .changes tree => { desk with tree := tree }

/-- What a sequence of events leaves. -/
def after (desk : Desk) (events : List DeskEvent) : Desk :=
  events.foldl next desk

theorem after_concat
    (desk : Desk)
    (events : List DeskEvent)
    (event : DeskEvent) :
    desk.after (events ++ [event]) = (desk.after events).next event := by
  rw [after, List.foldl_append]
  rfl

theorem answer_of_some
    (present : desk.handles[number]? = some handle)
    (call : FileCall) :
    desk.answer number call =
      (some (call.run handle desk.tree).1,
        ⟨(call.run handle desk.tree).2.2,
          desk.handles.set number (call.run handle desk.tree).2.1⟩) := by
  rw [answer, present]

/-- A call reaches the one handle it is made on. -/
theorem getElem?_answer_of_ne
    {other : Nat}
    (apart : other ≠ number)
    (desk : Desk)
    (call : FileCall) :
    (desk.answer other call).2.handles[number]? = desk.handles[number]? := by
  unfold answer
  split
  · rfl
  · exact List.getElem?_set_ne apart

theorem getElem?_next_close
    (present : desk.handles[number]? = some handle) :
    (desk.next (.calls number .close)).handles[number]? =
      some handle.close.2 := by
  have inside : number < desk.handles.length :=
    (List.getElem?_eq_some_iff.mp present).1
  rw [next, answer_of_some present]
  exact List.getElem?_set_self inside

/-- No event but its own closing moves anything of a handle but its cursor. -/
theorem getElem?_next
    (present : desk.handles[number]? = some handle)
    {event : DeskEvent}
    (notClose : event ≠ .calls number .close) :
    ∃ cursor, (desk.next event).handles[number]? =
      some (handle.withCursor cursor) := by
  obtain ⟨cursor, same⟩ := handle.exists_withCursor_eq
  have inside : number < desk.handles.length :=
    (List.getElem?_eq_some_iff.mp present).1
  cases event with
  | calls other call =>
      by_cases isThis : other = number
      · subst isThis
        have moves : call ≠ .close := fun isClose => notClose (by rw [isClose])
        obtain ⟨cursor, moved⟩ := FileCall.run_handle moves handle desk.tree
        refine ⟨cursor, ?_⟩
        rw [next, answer_of_some present, ← moved]
        exact List.getElem?_set_self inside
      · refine ⟨cursor, ?_⟩
        rw [next, getElem?_answer_of_ne isThis, present, same]
  | opens path mode =>
      refine ⟨cursor, ?_⟩
      rw [same, ← present, next]
      split
      · rfl
      · exact List.getElem?_append_left inside
  | changes tree => exact ⟨cursor, by rw [same, ← present]; rfl⟩

/-! ## Many calls -/

/-- After any events a handle is what it was, up to its cursor, as long as it
was not closed, and what its closing left of it from then on. -/
theorem getElem?_after
    (present : desk.handles[number]? = some handle)
    (past : List DeskEvent) :
    (.calls number .close ∉ past →
      ∃ cursor, (desk.after past).handles[number]? =
        some (handle.withCursor cursor)) ∧
    (.calls number .close ∈ past →
      (desk.after past).handles[number]? = some handle.close.2) := by
  induction past using List.reverseRecOn with
  | nil =>
      obtain ⟨cursor, same⟩ := handle.exists_withCursor_eq
      exact ⟨fun _ => ⟨cursor, by rw [same]; exact present⟩, nofun⟩
  | append_singleton past event inductionHypothesis =>
      obtain ⟨unclosed, closed⟩ := inductionHypothesis
      simp only [List.mem_append, List.mem_singleton, not_or, after_concat]
      constructor
      · rintro ⟨before, notNow⟩
        obtain ⟨cursor, is⟩ := unclosed before
        obtain ⟨moved, isNext⟩ := getElem?_next is (Ne.symm notNow)
        exact ⟨moved, by rw [isNext, FileHandle.withCursor_withCursor]⟩
      · intro sometime
        by_cases before : .calls number .close ∈ past
        · by_cases now : event = .calls number .close
          · rw [now, getElem?_next_close (closed before),
              FileHandle.close_close]
          · -- a closed handle has no cursor
            obtain ⟨cursor, isNext⟩ := getElem?_next (closed before) now
            rw [isNext, FileHandle.withCursor_of_closed handle.isOpen_close]
        · obtain ⟨cursor, is⟩ := unclosed before
          have now : event = .calls number .close :=
            (sometime.resolve_left before).symm
          rw [now, getElem?_next_close is, FileHandle.close_withCursor]

/-- A call on a closed handle changes neither the files nor any handle. -/
theorem answer_of_closed
    (present : desk.handles[number]? = some handle)
    (closed : handle.isOpen = false)
    (call : FileCall) :
    desk.answer number call = (some call.replyOfClosed, desk) := by
  obtain ⟨inside, rfl⟩ := List.getElem?_eq_some_iff.mp present
  rw [answer_of_some present, FileCall.run_of_closed closed,
    List.set_getElem_self]

/-- An open handle closes with what the system reports, and
only this handle changes. -/
theorem answer_close_of_open
    (present : desk.handles[number]? = some handle)
    (isOpen : handle.isOpen = true) :
    desk.answer number .close =
      (some (handle.fault?.elim (.ok .done) .error),
        { desk with
          handles := desk.handles.set number
            { handle with descriptor := none, releases := handle.releases + 1 }
              }) := by
  rw [answer_of_some present]
  simp only [FileCall.run, FileHandle.close_of_open isOpen]
  cases handle.fault? <;> rfl

theorem answer_isOpen
    (present : desk.handles[number]? = some handle) :
    desk.answer number .isOpen = (some (.ok (.truth handle.isOpen)), desk) := by
  obtain ⟨inside, rfl⟩ := List.getElem?_eq_some_iff.mp present
  rw [answer_of_some present, FileCall.run, List.set_getElem_self]

/-- A handle stays open until its first closing, whatever happens to the files
and to other handles.  That closing gives its descriptor back and returns what
the system reports.  From then on nothing is given back any more: closing
succeeds, every other call that needs the descriptor is refused as one on a bad
descriptor, whatever its bytes and offset, and no call on the handle changes the
files or any handle. -/
theorem released_at_first_close
    (present : desk.handles[number]? = some handle)
    (isOpen : handle.isOpen = true)
    (past : List DeskEvent) :
    let now := desk.after past
    ∃ current, now.handles[number]? = some current ∧
      current.path = handle.path ∧ current.mode = handle.mode ∧
      (.calls number .close ∉ past →
        current.releases = handle.releases ∧
        now.answer number .isOpen = (some (.ok (.truth true)), now) ∧
        ∃ left : FileHandle,
          now.answer number .close =
            (some (handle.fault?.elim (.ok .done) .error),
              { now with handles := now.handles.set number left }) ∧
          left.isOpen = false ∧ left.releases = handle.releases + 1) ∧
      (.calls number .close ∈ past →
        current.releases = handle.releases + 1 ∧
        (∀ call, (now.answer number call).2 = now) ∧
        (now.answer number .close).1 = some (.ok .done) ∧
        (now.answer number .isOpen).1 = some (.ok (.truth false)) ∧
        ∀ call, call.isTransfer = true →
          (now.answer number call).1 =
            some (.error (.system Errno.badDescriptor))) := by
  intro now
  obtain ⟨unclosed, closed⟩ := getElem?_after present past
  have closes := FileHandle.close_of_open isOpen
  by_cases wasClosed : .calls number .close ∈ past
  · have is := closed wasClosed
    have dead := answer_of_closed is handle.isOpen_close
    refine ⟨handle.close.2, is, by rw [closes], by rw [closes],
      fun notClosed => absurd wasClosed notClosed, fun _ =>
        ⟨by rw [closes], ?_, ?_, ?_, ?_⟩⟩
    · exact fun call => by rw [dead]
    · rw [dead, FileCall.replyOfClosed]
    · rw [dead, FileCall.replyOfClosed]
    · intro call transfers
      rw [dead, FileCall.replyOfClosed_of_isTransfer transfers]
  · obtain ⟨cursor, is⟩ := unclosed wasClosed
    have stillOpen : (handle.withCursor cursor).isOpen = true := by
      rw [FileHandle.isOpen_withCursor, isOpen]
    refine ⟨handle.withCursor cursor, is, rfl, rfl, fun _ => ⟨rfl, ?_, ?_⟩,
      fun isClosed => absurd isClosed wasClosed⟩
    · rw [answer_isOpen is, stillOpen]
    · have closing := answer_close_of_open is stillOpen
      rw [FileHandle.fault?_withCursor] at closing
      exact ⟨_, closing, rfl, rfl⟩

/-- Two handles on one file, the first of which fails to close. -/
def failingDesk : Desk where
  tree := (Tree.empty.add [[0x61]] (.file Tree.fileMode [1, 2, 3])).2
  handles :=
    [ { path := .ofString "/a", mode := .append,
        descriptor := some { node := 1, fault := some (.system 5) } },
      { path := .ofString "/a", mode := .read,
        descriptor := some { node := 1 } } ]

/-- The file is written, its first handle closed twice, and the
file written elsewhere. -/
def failingEvents : List DeskEvent :=
  [ .calls 0 (.append [4]), .calls 0 .close, .calls 0 .close,
    .opens (.ofString "/a") .write, .calls 2 (.writeAt [9] 0) ]

/-- A late write of no bytes is refused, and the other handle
reads what is there. -/
theorem released_at_first_close_of_failing :
    let before := failingDesk.after (failingEvents.take 1)
    let now := failingDesk.after failingEvents
    (∃ left, before.answer 0 .close =
      (some (.error (.system 5)),
        { before with handles := before.handles.set 0 left })) ∧
    (∃ current, now.handles[0]? = some current ∧ current.releases = 1) ∧
    now.answer 0 .close = (some (.ok .done), now) ∧
    now.answer 0 (.writeAt [] 7) =
      (some (.error (.system Errno.badDescriptor)), now) ∧
    (now.answer 1 (.readAt 9 0)).1 = some (.ok (.bytes [9, 2, 3, 4])) := by
  intro before now
  have present : failingDesk.handles[0]? =
    some { path := .ofString "/a", mode := .append,
           descriptor := some { node := 1, fault := some (.system 5) } } := rfl
  obtain ⟨_, -, -, -, unclosed, -⟩ :=
    released_at_first_close present rfl (failingEvents.take 1)
  obtain ⟨current, is, -, -, -, closed⟩ :=
    released_at_first_close present rfl failingEvents
  obtain ⟨-, -, left, closes, -⟩ := unclosed (by decide)
  obtain ⟨once, unchanged, again, -, refused⟩ := closed (by decide)
  exact ⟨⟨left, closes⟩, ⟨current, is, once⟩, Prod.ext again (unchanged _),
    Prod.ext (refused _ rfl) (unchanged _), by decide +kernel⟩

end Desk
end HandlePool
