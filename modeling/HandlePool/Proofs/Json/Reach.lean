import HandlePool.Proofs.Json.Progress

/-!
# Where reading a record stops outright

A reader of a record comes to the value of a field if it could read everything
before it. Reading the record stops outright exactly where it comes to a value
that stops it, since nothing between the values does, and the number of members
never runs out.
-/

namespace HandlePool
namespace Json
namespace Record

variable {Draft α : Type}

/-! ## Coming to a value -/

/-- The next member of an object has this key, and its value starts there. -/
def Announces (isFirst : Bool) (rest key start : List UInt8) : Prop :=
  ∃ afterKey, nextKey isFirst rest = .ok (some key, afterKey) ∧
    readColon afterKey = .ok start

/-- Among the members from some place on, the reader comes to
the value of a field. -/
inductive ReachesMember (record : Record Draft α) (slot : Slot Draft)
    (found : Draft) (start : List UInt8) : Bool → Draft → List UInt8 → Prop
  | here {isFirst : Bool} {rest key : List UInt8} :
      Announces isFirst rest key start →
      record.slot? key = some slot →
      slot.filled found = false →
      ReachesMember record slot found start isFirst found rest
  | past {isFirst : Bool} {draft next : Draft}
      {rest key value after : List UInt8} {passed : Slot Draft} :
      Announces isFirst rest key value →
      record.slot? key = some passed →
      passed.filled draft = false →
      passed.read draft value = .ok (next, after) →
      ReachesMember record slot found start false next after →
      ReachesMember record slot found start isFirst draft rest
  | pastUnknown {isFirst : Bool} {draft : Draft}
      {rest key value after : List UInt8} :
      Announces isFirst rest key value →
      record.slot? key = none →
      skipValue value = .ok after →
      ReachesMember record slot found start false draft after →
      ReachesMember record slot found start isFirst draft rest

/-- Among the elements for some fields, the reader comes to
the value of a field. -/
inductive ReachesElement (slot : Slot Draft) (found : Draft)
    (start : List UInt8) :
    List (Slot Draft) → Bool → Draft → List UInt8 → Prop
  | here {isFirst : Bool} {rest : List UInt8} {slots : List (Slot Draft)} :
      nextElement isFirst rest = .ok (some start) →
      ReachesElement slot found start (slot :: slots) isFirst found rest
  | past {isFirst : Bool} {draft next : Draft} {rest value after : List UInt8}
      {passed : Slot Draft} {slots : List (Slot Draft)} :
      nextElement isFirst rest = .ok (some value) →
      passed.read draft value = .ok (next, after) →
      ReachesElement slot found start slots false next after →
      ReachesElement slot found start (passed :: slots) isFirst draft rest
  | without {isFirst : Bool} {draft : Draft} {rest : List UInt8}
      {passed : Slot Draft} {slots : List (Slot Draft)} :
      nextElement isFirst rest = .ok none →
      passed.required = false →
      ReachesElement slot found start slots isFirst draft rest →
      ReachesElement slot found start (passed :: slots) isFirst draft rest

/-- The reader of a record comes to the value of a field. -/
inductive Reaches (record : Record Draft α) (slot : Slot Draft) (found : Draft)
    (start : List UInt8) : List UInt8 → Prop
  | element {document rest : List UInt8} :
      skipBlanks document = 0x5B :: rest →
      ReachesElement slot found start record.slots true record.blank rest →
      Reaches record slot found start document
  | member {document rest : List UInt8} :
      skipBlanks document = 0x7B :: rest →
      record.ReachesMember slot found start true record.blank rest →
      Reaches record slot found start document

/-- Reading the field puts no byte back. -/
def GoesOn (slot : Slot Draft) : Prop :=
  ∀ {draft next : Draft} {rest after : List UInt8},
    slot.read draft rest = .ok (next, after) → after.length ≤ rest.length

theorem field_goesOn
    {β : Type}
    {name : String}
    {required : Bool}
    {get : Draft → Option β}
    {set : Draft → β → Draft}
    {reader : Reader β}
    (goesOn : ∀ {value rest after}, reader rest = .ok (value, after) →
      after.length ≤ rest.length) :
    GoesOn (Slot.field name required get set reader) := by
  intro draft next rest after read
  obtain ⟨⟨value, rest⟩, valueRead, same⟩ := map_eq_ok_iff.mp read
  cases same
  exact goesOn valueRead

/-! ## Objects -/

theorem Announces.length_lt
    {isFirst : Bool}
    {rest key start : List UInt8}
    (announced : Announces isFirst rest key start) :
    start.length < rest.length := by
  obtain ⟨afterKey, keyRead, colonRead⟩ := announced
  have keyMoves := nextKey_movesOn isFirst rest
  have colonMoves := readColon_movesOn afterKey
  rw [keyRead] at keyMoves
  rw [colonRead] at colonMoves
  exact Nat.lt_of_le_of_lt colonMoves keyMoves

section Members

variable {record : Record Draft α} {reason : Abort}

theorem exists_reachesMember_of_aborted
    {bound : Nat}
    {isFirst : Bool}
    {draft : Draft}
    {rest : List UInt8}
    (aborted : record.readMembers bound isFirst draft rest =
      .error (.aborted reason)) :
    ∃ slot found start, record.ReachesMember slot found start
      isFirst draft rest ∧
      slot.read found start = .error (.aborted reason) := by
  induction bound generalizing isFirst draft rest with
  | zero => cases aborted
  | succ bound inductionHypothesis =>
      rw [readMembers, bind_eq_error_iff] at aborted
      obtain aborted | ⟨⟨key?, afterKey⟩, keyRead, aborted⟩ := aborted
      · exact absurd aborted ((nextKey_movesOn isFirst rest).ne_aborted reason)
      cases key? with
      | none =>
          dsimp only at aborted
          split at aborted <;> cases aborted
      | some key =>
          dsimp only at aborted
          split at aborted
          · next slot named =>
            split at aborted
            · cases aborted
            · next unfilled =>
              rw [Bool.not_eq_true] at unfilled
              rw [bind_eq_error_iff] at aborted
              obtain aborted | ⟨start, colonRead, aborted⟩ := aborted
              · exact absurd aborted
                  ((readColon_movesOn afterKey).ne_aborted reason)
              rw [bind_eq_error_iff] at aborted
              obtain aborted | ⟨⟨next, after⟩, valueRead, aborted⟩ := aborted
              · exact ⟨slot, draft, start,
                  .here ⟨afterKey, keyRead, colonRead⟩ named unfilled,
                  aborted⟩
              · obtain ⟨last, found, value, reached, stopped⟩ :=
                  inductionHypothesis aborted
                exact ⟨last, found, value,
                  .past ⟨afterKey, keyRead, colonRead⟩ named unfilled
                  valueRead reached, stopped⟩
          · next unknown =>
            rw [bind_eq_error_iff] at aborted
            obtain aborted | ⟨start, colonRead, aborted⟩ := aborted
            · exact absurd aborted
                ((readColon_movesOn afterKey).ne_aborted reason)
            rw [bind_eq_error_iff] at aborted
            obtain aborted | ⟨after, skipped, aborted⟩ := aborted
            · exact absurd aborted
                ((skim_movesOn .value [] start).ne_aborted reason)
            · obtain ⟨last, found, value, reached, stopped⟩ :=
                inductionHypothesis aborted
              exact ⟨last, found, value,
                .pastUnknown ⟨afterKey, keyRead, colonRead⟩ unknown
                skipped reached, stopped⟩

/-- The bound on the number of members is never what ends an object. -/
theorem readMembers_of_reaches
    (goesOn : ∀ slot ∈ record.slots, GoesOn slot)
    {slot : Slot Draft}
    {found : Draft}
    {start : List UInt8}
    (stopped : slot.read found start = .error (.aborted reason))
    {isFirst : Bool}
    {draft : Draft}
    {rest : List UInt8}
    (reached : record.ReachesMember slot found start isFirst draft rest)
    {bound : Nat}
    (bounded : rest.length < bound) :
    record.readMembers bound isFirst draft rest = .error (.aborted reason) := by
  induction reached generalizing bound with
  | here announced named unfilled =>
      obtain ⟨afterKey, keyRead, colonRead⟩ := announced
      obtain ⟨bound, rfl⟩ :=
        Nat.exists_eq_succ_of_ne_zero (Nat.ne_zero_of_lt bounded)
      rw [readMembers, keyRead]
      simp only [bind, Except.bind, named, unfilled, Bool.false_eq_true,
        if_false, colonRead, stopped]
  | past announced named unfilled valueRead _ inductionHypothesis =>
      have shorter := announced.length_lt
      have within := goesOn _ (List.mem_of_find?_eq_some named) valueRead
      obtain ⟨afterKey, keyRead, colonRead⟩ := announced
      obtain ⟨bound, rfl⟩ :=
        Nat.exists_eq_succ_of_ne_zero (Nat.ne_zero_of_lt bounded)
      have later := @inductionHypothesis bound (by omega)
      rw [readMembers, keyRead]
      simp only [bind, Except.bind, named, unfilled, Bool.false_eq_true,
        if_false, colonRead, valueRead, later]
  | @pastUnknown _ _ _ _ value after announced unknown skipped
      _ inductionHypothesis =>
      have shorter := announced.length_lt
      have within : after.length ≤ value.length := by
        have moves := skim_movesOn .value [] value
        rw [skipValue] at skipped
        rwa [skipped] at moves
      obtain ⟨afterKey, keyRead, colonRead⟩ := announced
      obtain ⟨bound, rfl⟩ :=
        Nat.exists_eq_succ_of_ne_zero (Nat.ne_zero_of_lt bounded)
      have later := @inductionHypothesis bound (by omega)
      rw [readMembers, keyRead]
      simp only [bind, Except.bind, unknown, colonRead, skipped, later]

end Members

theorem ReachesMember.mem
    {record : Record Draft α}
    {slot : Slot Draft}
    {found draft : Draft}
    {start rest : List UInt8}
    {isFirst : Bool}
    (reached : record.ReachesMember slot found start isFirst draft rest) :
    slot ∈ record.slots := by
  induction reached with
  | here _ named _ => exact List.mem_of_find?_eq_some named
  | past _ _ _ _ _ inductionHypothesis => exact inductionHypothesis
  | pastUnknown _ _ _ _ inductionHypothesis => exact inductionHypothesis

/-! ## Lists -/

section Elements

variable {title : String} {slots : List (Slot Draft)} {reason : Abort}

theorem nextElement_ne_aborted
    (isFirst : Bool)
    (rest : List UInt8) :
    nextElement isFirst rest ≠ .error (.aborted reason) := by
  unfold nextElement stopHere stopAhead
  split
  · simp
  · simp
  · split
    · simp
    · split <;> simp
  · split <;> simp

theorem endList_ne_aborted
    (rest : List UInt8) :
    endList rest ≠ .error (.aborted reason) := by
  unfold endList stopHere stopAhead
  split
  · simp
  · simp
  · split <;> simp
  · simp

theorem exists_reachesElement_of_aborted
    {index : Nat}
    {isFirst : Bool}
    {draft : Draft}
    {rest : List UInt8}
    (aborted : readElements title slots index isFirst draft rest =
      .error (.aborted reason)) :
    ∃ slot found start, ReachesElement slot found start slots
      isFirst draft rest ∧
      slot.read found start = .error (.aborted reason) := by
  induction slots generalizing index isFirst draft rest with
  | nil => cases aborted
  | cons slot slots inductionHypothesis =>
      rw [readElements, bind_eq_error_iff] at aborted
      obtain aborted | ⟨start?, startFound, aborted⟩ := aborted
      · exact absurd aborted (nextElement_ne_aborted isFirst rest)
      cases start? with
      | some start =>
          rw [bind_eq_error_iff] at aborted
          obtain aborted | ⟨⟨next, after⟩, valueRead, aborted⟩ := aborted
          · exact ⟨slot, draft, start, .here startFound, aborted⟩
          · obtain ⟨last, found, value, reached, stopped⟩ :=
              inductionHypothesis aborted
            exact ⟨last, found, value,
              .past startFound valueRead reached, stopped⟩
      | none =>
          dsimp only at aborted
          split at aborted
          · rw [bind_eq_error_iff] at aborted
            obtain aborted | ⟨after, _, aborted⟩ := aborted
            · exact absurd aborted (endList_ne_aborted rest)
            · cases aborted
          · next optional =>
            rw [Bool.not_eq_true] at optional
            obtain ⟨last, found, value, reached, stopped⟩ :=
              inductionHypothesis aborted
            exact ⟨last, found, value,
              .without startFound optional reached, stopped⟩

theorem readElements_of_reaches
    {slot : Slot Draft}
    {found : Draft}
    {start : List UInt8}
    (stopped : slot.read found start = .error (.aborted reason))
    {isFirst : Bool}
    {draft : Draft}
    {rest : List UInt8}
    (reached : ReachesElement slot found start slots isFirst draft rest)
    (index : Nat) :
    readElements title slots index isFirst draft rest =
      .error (.aborted reason) := by
  induction reached generalizing index with
  | here startFound =>
      rw [readElements, startFound]
      simp only [bind, Except.bind, stopped]
  | past startFound valueRead _ inductionHypothesis =>
      rw [readElements, startFound]
      simp only [bind, Except.bind, valueRead, inductionHypothesis]
  | without startFound optional _ inductionHypothesis =>
      rw [readElements, startFound]
      simp only [bind, Except.bind, optional, Bool.false_eq_true, if_false,
        inductionHypothesis]

theorem ReachesElement.mem
    {slot : Slot Draft}
    {found draft : Draft}
    {start rest : List UInt8}
    {isFirst : Bool}
    (reached : ReachesElement slot found start slots isFirst draft rest) :
    slot ∈ slots := by
  induction reached with
  | here => exact List.mem_cons_self
  | past _ _ _ inductionHypothesis =>
      exact List.mem_cons_of_mem _ inductionHypothesis
  | without _ _ _ inductionHypothesis =>
      exact List.mem_cons_of_mem _ inductionHypothesis

end Elements

/-! ## Records -/

/-- The reader only comes to values of its own fields. -/
theorem Reaches.mem
    {record : Record Draft α}
    {slot : Slot Draft}
    {found : Draft}
    {start document : List UInt8}
    (reached : record.Reaches slot found start document) :
    slot ∈ record.slots := by
  cases reached with
  | element _ reached => exact reached.mem
  | member _ reached => exact reached.mem

/-- Reading a record stops outright exactly where it comes to
a value that stops it. -/
theorem read_eq_aborted_iff
    {record : Record Draft α}
    (goesOn : ∀ slot ∈ record.slots, GoesOn slot)
    {document : List UInt8}
    {reason : Abort} :
    record.read document = .error (.aborted reason) ↔
      ∃ slot found start, record.Reaches slot found start document ∧
        slot.read found start = .error (.aborted reason) := by
  constructor
  · intro aborted
    unfold Record.read at aborted
    split at aborted
    · cases aborted
    · next rest shape =>
      rw [bind_eq_error_iff] at aborted
      obtain aborted | ⟨⟨draft, after⟩, _, aborted⟩ := aborted
      · obtain ⟨slot, found, start, reached, stopped⟩ :=
          exists_reachesElement_of_aborted aborted
        exact ⟨slot, found, start, .element shape reached, stopped⟩
      · rw [bind_eq_error_iff] at aborted
        obtain aborted | ⟨rest, _, aborted⟩ := aborted
        · exact absurd aborted (endList_ne_aborted after)
        · cases aborted
    · next rest shape =>
      obtain ⟨slot, found, start, reached, stopped⟩ :=
        exists_reachesMember_of_aborted aborted
      exact ⟨slot, found, start, .member shape reached, stopped⟩
    · exact absurd aborted ((readUnexpected_movesOn _ _).ne_aborted reason)
  · rintro ⟨slot, found, start, reached, stopped⟩
    cases reached with
    | element shape reached =>
        rw [Record.read, shape]
        exact bind_eq_error_iff.mpr
          (.inl (readElements_of_reaches stopped reached 0))
    | member shape reached =>
        rw [Record.read, shape]
        exact readMembers_of_reaches goesOn stopped reached (Nat.lt_succ_self _)

end Record

/-! ## Whole documents -/

theorem readDocument_eq_aborted_iff
    {α : Type}
    {reader : Reader α}
    {document : List UInt8}
    {reason : Abort} :
    readDocument reader document = .error (.aborted reason) ↔
      reader document = .error (.aborted reason) := by
  unfold readDocument
  cases read : reader document with
  | error stop =>
      cases stop <;> simp [bind, Except.bind, Except.mapError, Stop.refusal]
  | ok result =>
      simp only [bind, Except.bind]
      split
      · simp [Except.mapError]
      · simp [Except.mapError, stopAhead, Stop.refusal]

end Json
end HandlePool
