import HandlePool.Config.Document
import HandlePool.Proofs.Config.Validity
import HandlePool.Proofs.Json.Reach
import HandlePool.Proofs.Text.Utf8

/-!
# Loading configurations

Loading gives a valid configuration or says why there is none, for every
document but those with an idle time whose spelled amounts reach exactly the end
of what a duration can count: there loading stops outright.  A file is loaded as
the text it holds, and refused if it holds none.
-/

namespace HandlePool

namespace FacadeConfig

/-- An idle time of the document overruns: its value is come to, and is a quoted
text whose amounts complete the last second that a duration can count. -/
def IdleOverruns (document : List UInt8) : Prop :=
  ∃ slot draft start text, record.Reaches slot draft start document ∧
    (slot.name = "read_idle_expiration" ∨ slot.name = "write_idle_expiration") ∧
    Json.QuotedAt start text ∧ Spelling.Overruns text

theorem goesOn_of_mem_slots
    {slot : Json.Slot Draft}
    (present : slot ∈ record.slots) :
    Json.Record.GoesOn slot := by
  simp only [record, List.mem_cons, List.not_mem_nil, or_false] at present
  obtain rfl | rfl | rfl | rfl | rfl := present
  · exact Json.Record.field_goesOn
      (Json.MovesOn.length_le Json.readCount_movesOn)
  · exact Json.Record.field_goesOn
      (Json.MovesOn.length_le Json.readCount_movesOn)
  · exact Json.Record.field_goesOn Json.length_le_of_readDuration
  · exact Json.Record.field_goesOn Json.length_le_of_readDuration
  · exact Json.Record.field_goesOn
      (Json.MovesOn.length_le (Json.readChoice_movesOn _))

theorem slot_read_eq_aborted_iff
    {slot : Json.Slot Draft}
    (present : slot ∈ record.slots)
    {draft : Draft}
    {start : List UInt8}
    {reason : Abort} :
    slot.read draft start = .error (.aborted reason) ↔
      (slot.name = "read_idle_expiration" ∨
        slot.name = "write_idle_expiration") ∧
        Json.readDuration start = .error (.aborted reason) := by
  have count := (Json.readCount_movesOn start).ne_aborted reason
  have choice :=
    (Json.readChoice_movesOn ReplacePolicy.choices start).ne_aborted reason
  simp only [record, List.mem_cons, List.not_mem_nil, or_false] at present
  obtain rfl | rfl | rfl | rfl | rfl := present <;>
    simp [Json.Slot.field, map_eq_error_iff, count, choice]

theorem ofDocument_eq_aborted_iff
    {document : List UInt8}
    {reason : Abort} :
    ofDocument document = .error (.aborted reason) ↔
      reason = .durationOverflow ∧ IdleOverruns document := by
  rw [ofDocument, Json.readDocument_eq_aborted_iff,
    Json.Record.read_eq_aborted_iff fun _ => goesOn_of_mem_slots]
  constructor
  · rintro ⟨slot, draft, start, reached, stopped⟩
    obtain ⟨named, stopped⟩ := (slot_read_eq_aborted_iff reached.mem).mp stopped
    obtain ⟨sameReason, text, quoted, overruns⟩ :=
      Json.readDuration_eq_aborted_iff.mp stopped
    exact ⟨sameReason, slot, draft, start, text, reached, named,
      quoted, overruns⟩
  · rintro ⟨sameReason, slot, draft, start, text, reached, named,
      quoted, overruns⟩
    have stopped :=
      Json.readDuration_eq_aborted_iff.mpr ⟨sameReason, text, quoted, overruns⟩
    exact ⟨slot, draft, start, reached,
      (slot_read_eq_aborted_iff reached.mem).mpr ⟨named, stopped⟩⟩

/-- What loading a document may come to: a configuration that says how
much and how long its pools keep, a reason why there is none, or a stop
where an idle time overruns. -/
def LoadsProperly (document : List UInt8) : Except LoadError FacadeConfig → Prop
  | .ok config =>
    (config.readMaxSize ≠ 0 ∧ config.readIdle ≠ .zero) ∧
      (config.writeMaxSize ≠ 0 ∧ config.writeIdle ≠ .zero)
  | .error (.invalid _) => True
  | .error (.malformed _) => True
  | .error (.unreadable _) => False
  | .error (.aborted reason) =>
      reason = .durationOverflow ∧ IdleOverruns document

theorem load_eq_aborted_iff
    {document : List UInt8}
    {reason : Abort} :
    load document = .error (.aborted reason) ↔
      reason = .durationOverflow ∧ IdleOverruns document := by
  rw [← ofDocument_eq_aborted_iff]
  unfold load
  split
  · next refusal said =>
    rw [said]
    cases refusal <;> simp [LoadError.ofRefusal]
  · next config said =>
    rw [said]
    split <;> simp

theorem loadsProperly
    (document : List UInt8) :
    LoadsProperly document (load document) := by
  cases loaded : load document with
  | ok config => exact validate_eq_ok_iff.mp (validate_of_load loaded)
  | error error =>
      cases error with
      | invalid error => trivial
      | malformed error => trivial
      | aborted reason => exact load_eq_aborted_iff.mp loaded
      | unreadable error =>
          unfold load at loaded
          split at loaded
          · next refusal _ => cases refusal <;> cases loaded
          · split at loaded <;> cases loaded

/-- Loading a document gives a valid configuration or says why there is none,
unless an idle time overruns; a file is loaded as the text that it holds. -/
theorem load_outcome
    (document : List UInt8) :
    LoadsProperly document (load document) ∧
      (IdleOverruns document →
        load document = .error (.aborted .durationOverflow)) ∧
      (∀ text, Utf8.encode text = document →
        loadFile (.file document) = load document) ∧
      ((∀ text, Utf8.encode text ≠ document) →
        loadFile (.file document) = .error (.unreadable .notText)) := by
  refine ⟨loadsProperly document, fun overruns => ?_, fun text isText =>
    ?_, fun isNoText => ?_⟩
  · exact load_eq_aborted_iff.mpr ⟨rfl, overruns⟩
  · have decoded : (Utf8.decode? document).isSome :=
      Option.isSome_iff_exists.mpr ⟨text, Utf8.decode?_eq_some_iff.mpr isText⟩
    rw [loadFile, Source.read, if_pos decoded]
  · have undecoded : ¬(Utf8.decode? document).isSome := by
      intro isSome
      obtain ⟨text, decoded⟩ := Option.isSome_iff_exists.mp isSome
      exact isNoText text (Utf8.decode?_eq_some_iff.mp decoded)
    rw [loadFile, Source.read, if_neg undecoded]

/-- A document with an idle time of one second more than a duration can count,
the last second of it in milliseconds. -/
def lastSecond : List UInt8 :=
  Utf8.encode
    "\x7b\"read_idle_expiration\":\"18446744073709551615s 1000ms\"\x7d".toList

theorem ofDocument_lastSecond :
    ofDocument lastSecond = .error (.aborted .durationOverflow) := by
  decide +kernel

/-- Loading does not say what is wrong with that document. -/
theorem load_lastSecond :
    load lastSecond = .error (.aborted .durationOverflow) := by
  rw [load, ofDocument_lastSecond]
  rfl

/-- The last second overruns, also from a file, and a lone byte of
no character is refused. -/
theorem load_outcome_of_lastSecond :
    IdleOverruns lastSecond ∧
      load lastSecond = .error (.aborted .durationOverflow) ∧
      loadFile (.file lastSecond) = load lastSecond ∧
      (∀ text, Utf8.encode text ≠ [0xFF]) ∧
      loadFile (.file [0xFF]) = .error (.unreadable .notText) := by
  have overruns : IdleOverruns lastSecond :=
    (ofDocument_eq_aborted_iff.mp ofDocument_lastSecond).2
  have isNoText : ∀ text, Utf8.encode text ≠ [0xFF] := by
    intro text isText
    have undecoded : Utf8.decode? [0xFF] = none := by decide +kernel
    rw [Utf8.decode?_eq_some_iff.mpr isText] at undecoded
    cases undecoded
  obtain ⟨-, stops, fromFile, -⟩ := load_outcome lastSecond
  obtain ⟨-, -, -, refused⟩ := load_outcome [0xFF]
  exact ⟨overruns, stops overruns, fromFile _ rfl, isNoText, refused isNoText⟩

end FacadeConfig
end HandlePool
