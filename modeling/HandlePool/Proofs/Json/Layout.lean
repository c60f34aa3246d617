import HandlePool.Proofs.Json.Written

/-!
# Layouts of objects

The fields of a record are written as the members of an object, however blanks
are placed between the parts of the object.  One such layout is the compact
form.  Reading goes from member to member: a key leads to the slot of its field,
and the value is read into this slot.
-/

namespace HandlePool
namespace Json

/-- A field by name, with all forms its value may be written in. -/
abbrev Field := String × Set (List UInt8)

/-- What stands before the key of a member: blanks, among them a comma if it is
not the first member. -/
def Leads (isFirst : Bool) (bytes : List UInt8) : Prop :=
  if isFirst then AreBlank bytes
  else ∃ before after, AreBlank before ∧ AreBlank after ∧
    bytes = before ++ 0x2C :: after

/-- The members of an object from some on, with the closing brace. -/
inductive Members : Bool → List Field → List UInt8 → Prop
  | close {isFirst : Bool} {blanks : List UInt8} :
      AreBlank blanks → Members isFirst [] (blanks ++ [0x7D])
  | member {isFirst : Bool} {field : Field} {fields : List Field}
      {lead before after value later : List UInt8} :
      Leads isFirst lead → AreBlank before → AreBlank after → value ∈ field.2 →
      Members false fields later →
      Members isFirst (field :: fields)
        (lead ++ (Utf8.encode (written field.1).toList ++
          (before ++ 0x3A :: (after ++ value ++ later))))

/-- All layouts of an object with these fields. -/
def layouts (fields : List Field) : Set (List UInt8) :=
  {bytes | ∃ members, Members true fields members ∧ bytes = 0x7B :: members}

/-- A value may stand before the lead of the next member. -/
theorem Leads.closes
    {lead : List UInt8}
    (leads : Leads false lead)
    (rest : List UInt8) :
    Closes (lead ++ rest) := by
  obtain ⟨before, after, areBlank, -, rfl⟩ := leads
  rw [List.append_assoc]
  exact closes_append areBlank (.inr (.inl rfl))

/-! ## Keys and colons -/

theorem nextKey_close
    {blanks : List UInt8}
    (areBlank : AreBlank blanks)
    (isFirst : Bool)
    (rest : List UInt8) :
    nextKey isFirst (blanks ++ [0x7D] ++ rest) = .ok (none, rest) := by
  rw [List.append_assoc, List.singleton_append, nextKey,
    skipBlanks_append areBlank, skipBlanks_cons rfl]
  rfl

/-- Behind its lead and the first quote the key of a member
is read as a text. -/
theorem nextKey_quoted
    {isFirst : Bool}
    {lead : List UInt8}
    (leads : Leads isFirst lead)
    {body name rest : List UInt8}
    (read : readText body = .ok (name, rest)) :
    nextKey isFirst (lead ++ 0x22 :: body) = .ok (some name, rest) := by
  cases isFirst with
  | true =>
      rw [nextKey, skipBlanks_append leads, skipBlanks_cons rfl]
      simp only [if_true, read]
      rfl
  | false =>
      obtain ⟨before, after, areBefore, areAfter, rfl⟩ := leads
      rw [List.append_assoc, List.cons_append, nextKey,
        skipBlanks_append areBefore, skipBlanks_cons rfl]
      simp only [Bool.false_eq_true, if_false, skipBlanks_append areAfter]
      rw [skipBlanks_cons rfl]
      simp only [read]
      rfl

theorem readColon_append
    {blanks : List UInt8}
    (areBlank : AreBlank blanks)
    (rest : List UInt8) :
    readColon (blanks ++ 0x3A :: rest) = .ok rest := by
  rw [readColon, skipBlanks_append areBlank, skipBlanks_cons rfl]
  rfl

/-! ## Records -/

namespace Record

variable {Draft α : Type} {record : Record Draft α}

/-- The written fields take a draft to another one, each filling a
slot that was not filled. -/
inductive Fills (record : Record Draft α) : Draft → List Field → Draft → Prop
  | done {draft : Draft} : Fills record draft [] draft
  | field {draft next last : Draft} {field : Field} {fields : List Field}
      {slot : Slot Draft} :
      record.slots.find? (fun slot => slot.name == field.1) = some slot →
      slot.filled draft = false →
      Reads (slot.read draft) field.2 next →
      Fills record next fields last →
      Fills record draft (field :: fields) last

theorem slot?_encode
    (record : Record Draft α)
    (name : String) :
    record.slot? (Utf8.encode name.toList) = record.slots.find? fun slot =>
      slot.name == name := by
  simp only [slot?, Utf8.encode_toList_beq]

theorem reads_field
    {β : Type}
    {name : String}
    {required : Bool}
    {get : Draft → Option β}
    {set : Draft → β → Draft}
    {reader : Reader β}
    {forms : Set (List UInt8)}
    {value : β}
    (reads : Reads reader forms value)
    (draft : Draft) :
    Reads ((Slot.field name required get set reader).read draft) forms
      (set draft value) := by
  intro blanks bytes rest areBlank isForm closes
  have read := reads blanks bytes rest areBlank isForm closes
  simp only [Slot.field, read]
  rfl

/-- The names of all fields stand for themselves in a text. -/
def HasPlainNames (record : Record Draft α) : Prop :=
  ∀ name ∈ record.slots.map Slot.name, ArePlain name.toList

instance : Decidable record.HasPlainNames :=
  inferInstanceAs (Decidable (∀ name ∈ _, ArePlain _))

/-- The end of an object completes the record, if no
required field is missing. -/
theorem readMembers_close
    {draft : Draft}
    (complete : record.missing? draft = none)
    {blanks : List UInt8}
    (areBlank : AreBlank blanks)
    (bound : Nat)
    (isFirst : Bool)
    (rest : List UInt8) :
    record.readMembers (bound + 1) isFirst draft (blanks ++ [0x7D] ++ rest) =
      .ok (record.build draft, rest) := by
  rw [readMembers, nextKey_close areBlank]
  simp only [bind, Except.bind, complete]

/-- A member of a slot that is not filled yet is read into the draft. -/
theorem readMembers_of_slot
    {name : String}
    {slot : Slot Draft}
    (named : record.slots.find? (fun slot => slot.name == name) = some slot)
    {draft next : Draft}
    (unfilled : slot.filled draft = false)
    {forms : Set (List UInt8)}
    (reads : Reads (slot.read draft) forms next)
    {isFirst : Bool}
    {bytes before after value rest : List UInt8}
    (isKey : nextKey isFirst bytes =
      .ok (some (Utf8.encode name.toList),
        before ++ 0x3A :: (after ++ (value ++ rest))))
    (areBefore : AreBlank before)
    (areAfter : AreBlank after)
    (isForm : value ∈ forms)
    (closes : Closes rest)
    (bound : Nat) :
    record.readMembers (bound + 1) isFirst draft bytes =
      record.readMembers bound false next rest := by
  have read := reads _ _ _ areAfter isForm closes
  rw [List.append_assoc] at read
  rw [readMembers, isKey]
  simp only [bind, Except.bind, slot?_encode, named, unfilled,
    Bool.false_eq_true, if_false, readColon_append areBefore, read]

end Record

/-! ## Whole documents -/

theorem readDocument_of_reads
    {α : Type}
    {reader : Reader α}
    {forms : Set (List UInt8)}
    {value : α}
    (reads : Reads reader forms value)
    {document : List UInt8}
    (isForm : document ∈ forms) :
    readDocument reader document = .ok value := by
  have read := reads [] document [] (List.forall_mem_nil _) isForm trivial
  rw [List.nil_append, List.append_nil] at read
  rw [readDocument, read]
  rfl

/-- Members with commas between them, and the closing brace. -/
theorem members_intercalate
    {fields : List Field}
    {members : List Member}
    (nonempty : members ≠ [])
    (fit : List.Forall₂ (fun field member =>
      field.1 = member.1 ∧ Utf8.encode member.2.toList ∈ field.2)
        fields members)
    {isFirst : Bool}
    {lead : List UInt8}
    (leads : Leads isFirst lead) :
    Members isFirst fields
      (lead ++ (Utf8.encode ([','].intercalate (members.map fun member =>
      (written member.1 ++ ":" ++ member.2).toList)) ++ [0x7D])) := by
  have noBlank : AreBlank [] := List.forall_mem_nil _
  induction fit generalizing isFirst lead with
  | nil => exact absurd rfl nonempty
  | @cons field member fields members head fit inductionHypothesis =>
      obtain ⟨sameName, isForm⟩ := head
      have text : Utf8.encode (written member.1 ++ ":" ++ member.2).toList =
          Utf8.encode (written field.1).toList ++ 0x3A :: Utf8.encode
            member.2.toList := by
        rw [String.toList_append, String.toList_append, Utf8.encode_append,
          Utf8.encode_append, List.append_assoc, sameName]
        rfl
      cases fit with
      | nil =>
          have ended : Members false [] ([] ++ [0x7D]) := .close noBlank
          have whole := Members.member leads noBlank noBlank isForm ended
          rw [List.map_singleton, List.intercalate_singleton, text,
            List.append_assoc]
          exact whole
      | cons next later =>
          have comma : Leads false [0x2C] := ⟨[], [], noBlank, noBlank, rfl⟩
          have followed := inductionHypothesis (List.cons_ne_nil _ _) comma
          have whole := Members.member leads noBlank noBlank isForm followed
          rw [List.map_cons] at whole ⊢
          rw [List.map_cons, List.intercalate_cons_cons, Utf8.encode_append,
            Utf8.encode_append, text]
          simp only [List.append_assoc, List.cons_append, List.nil_append]
            at whole ⊢
          exact whole

/-- The compact form of an object is one of its layouts. -/
theorem object_mem_layouts
    {fields : List Field}
    {members : List Member}
    (nonempty : members ≠ [])
    (fit : List.Forall₂ (fun field member =>
      field.1 = member.1 ∧ Utf8.encode member.2.toList ∈ field.2)
        fields members) :
    Utf8.encode (object members).toList ∈ layouts fields := by
  have noLead : Leads true [] := List.forall_mem_nil _
  refine ⟨_, members_intercalate nonempty fit noLead, ?_⟩
  rw [object, String.toList_append, String.toList_append,
    String.toList_intercalate,
    Utf8.encode_append, Utf8.encode_append, List.map_map]
  rfl

/-! ## Fields with one form each -/

/-- Members as fields with one form each. -/
def fieldsOf (members : List Member) : List Field :=
  members.map fun member => (member.1, exactly member.2)

theorem object_mem_layouts_fieldsOf
    {members : List Member}
    (nonempty : members ≠ []) :
    Utf8.encode (object members).toList ∈ layouts (fieldsOf members) := by
  apply object_mem_layouts nonempty
  rw [fieldsOf, List.forall₂_map_left_iff]
  exact List.forall₂_same.mpr fun member _ => ⟨rfl, rfl⟩

end Json
end HandlePool
