import HandlePool.Proofs.Json.Grammar

/-!
# Objects with any members are read

An object is laid out with members in any order.  Blanks stand between its
parts, and every key is spelled as its characters, as escapes, or as a mixture
of both.  Members of a record are read into its slots, all others are passed
over, and a second member of one slot is refused.
-/

namespace HandlePool
namespace Json

/-! ## Spelled texts -/

/-- The bytes between two quotes spell these characters. -/
inductive Spells : List Char → List UInt8 → Prop
  | empty : Spells [] []
  | plain {character : Char} {characters : List Char} {bytes : List UInt8} :
      IsPlainChar character → Spells characters bytes →
      Spells (character :: characters) (Utf8.encodeChar character ++ bytes)
  | letter {letter : UInt8} {character : Char} {characters : List Char}
      {bytes : List UInt8} :
      (letter, character) ∈ escapes → Spells characters bytes →
      Spells (character :: characters) (0x5C :: letter :: bytes)
  | numbered {digits : List UInt8} {character : Char} {characters : List Char}
      {bytes : List UInt8} :
      HexNumber digits character.toNat → Spells characters bytes →
      Spells (character :: characters) (0x5C :: 0x75 :: (digits ++ bytes))
  /-- A character beyond 16 bits is numbered by the two
  surrogates it is made of. -/
  | paired {leading trailing : List UInt8} {high low : Nat} {character : Char}
      {characters : List Char} {bytes : List UInt8} :
      HexNumber leading (0xD800 + high) →
      HexNumber trailing (0xDC00 + low) → low < 0x400 →
      character.toNat = 0x10000 + high * 0x400 + low → Spells characters bytes →
      Spells (character :: characters)
        (0x5C :: 0x75 :: (leading ++ 0x5C :: 0x75 :: (trailing ++ bytes)))

/-- Characters that stand for themselves spell themselves. -/
theorem spells_encode
    {characters : List Char}
    (plain : ArePlain characters) :
    Spells characters (Utf8.encode characters) := by
  induction characters with
  | nil => exact .empty
  | cons character characters inductionHypothesis =>
      obtain ⟨isPlain, later⟩ := List.forall_mem_cons.mp plain
      rw [Utf8.encode_cons]
      exact .plain isPlain (inductionHypothesis later)

theorem withCodePoint_ok
    (character : Char)
    (text rest : List UInt8) :
    withCodePoint character.toNat (.ok (text, rest)) =
      .ok (Utf8.encodeChar character ++ text, rest) := by
  rw [withCodePoint, Char.ofNat_toNat]
  rfl

/-- No character is numbered as half of a pair. -/
theorem not_surrogate
    (character : Char) :
    isTrailing character.toNat = false ∧ isLeading character.toNat = false := by
  simp only [isTrailing, isLeading, Bool.and_eq_false_iff,
    decide_eq_false_iff_not]
  have isScalar : character.toNat < 0xD800 ∨
      0xDFFF < character.toNat ∧ character.toNat < 0x110000 := character.valid
  omega

/-- An escape of four digits is read as the character they number. -/
theorem readText_numbered
    {digits : List UInt8}
    {character : Char}
    (isNumber : HexNumber digits character.toNat)
    (rest : List UInt8) :
    readText (0x5C :: 0x75 :: (digits ++ rest)) =
      withCodePoint character.toNat (readText rest) := by
  obtain ⟨isTrailing, isLeading⟩ := not_surrogate character
  -- only a free number can be taken apart into its digits
  generalize character.toNat = value at isNumber isTrailing isLeading
  obtain ⟨isFirst, isSecond, isThird, isFourth⟩ := isNumber
  simp only [List.cons_append, List.nil_append]
  rw [readText, hexValue?_of_hexDigit isFirst isSecond isThird isFourth]
  simp only [isTrailing, isLeading, Bool.false_eq_true, if_false]

/-- Two escapes are read as the character that their surrogates make. -/
theorem readText_paired
    {leading trailing : List UInt8}
    {high low : Nat}
    (isHigh : HexNumber leading (0xD800 + high))
    (isLow : HexNumber trailing (0xDC00 + low))
    (highFits : high < 0x400)
    (lowFits : low < 0x400)
    (rest : List UInt8) :
    readText (0x5C :: 0x75 :: (leading ++ 0x5C :: 0x75 :: (trailing ++ rest))) =
      withCodePoint (0x10000 + high * 0x400 + low) (readText rest) := by
  have isPair : paired (0xD800 + high) (0xDC00 + low) =
      0x10000 + high * 0x400 + low := by
    rw [paired]
    omega
  have leads : isTrailing (0xD800 + high) = false ∧
      isLeading (0xD800 + high) = true := by
    simp only [isTrailing, isLeading, Bool.and_eq_false_iff, Bool.and_eq_true,
      decide_eq_false_iff_not, decide_eq_true_eq]
    omega
  have trails : isTrailing (0xDC00 + low) = true := by
    simp only [isTrailing, Bool.and_eq_true, decide_eq_true_eq]
    omega
  generalize 0xD800 + high = first at isHigh isPair leads
  generalize 0xDC00 + low = second at isLow isPair trails
  obtain ⟨isFirst, isSecond, isThird, isFourth⟩ := isHigh
  obtain ⟨isFifth, isSixth, isSeventh, isEighth⟩ := isLow
  simp only [List.cons_append, List.nil_append]
  rw [readText, hexValue?_of_hexDigit isFirst isSecond isThird isFourth]
  simp only [leads, Bool.false_eq_true, if_false, if_true,
    hexValue?_of_hexDigit isFifth isSixth isSeventh isEighth, trails, isPair]

/-- A text is read as the characters that it spells. -/
theorem readText_spells
    {characters : List Char}
    {bytes : List UInt8}
    (spells : Spells characters bytes)
    (rest : List UInt8) :
    readText (bytes ++ 0x22 :: rest) = .ok (Utf8.encode characters, rest) := by
  induction spells with
  | empty =>
      rw [List.nil_append, readText]
      rfl
  | plain isPlain _ inductionHypothesis =>
      rw [List.append_assoc, Utf8.encode_cons]
      exact readText_plain_append (fun _ => isPlain_of_mem_encodeChar isPlain)
        inductionHypothesis
  | letter isEscape _ inductionHypothesis =>
      obtain ⟨byte, isShort, isByte⟩ := shortEscape?_of_mem isEscape
      have unnumbered := ne_of_shortEscape? isShort
      rw [List.cons_append, List.cons_append, readText]
      · simp only [isShort, inductionHypothesis, Utf8.encode_cons, isByte]
        rfl
      all_goals
        intros
        contradiction
  | numbered isNumber _ inductionHypothesis =>
      rw [List.cons_append, List.cons_append, List.append_assoc,
        readText_numbered isNumber,
        inductionHypothesis, withCodePoint_ok, Utf8.encode_cons]
  | @paired _ _ high low character _ _ isHigh isLow lowFits sum
      _ inductionHypothesis =>
      have isScalar : character.toNat < 0xD800 ∨
          0xDFFF < character.toNat ∧ character.toNat < 0x110000 :=
            character.valid
      have read := readText_paired isHigh isLow (by omega) lowFits
      simp only [List.cons_append, List.append_assoc]
      rw [read, ← sum, inductionHypothesis, withCodePoint_ok, Utf8.encode_cons]

/-! ## Layouts -/

/-- The members of an object from some on, with the closing brace. -/
inductive SpelledMembers : Bool → List Field → List UInt8 → Prop
  | close {isFirst : Bool} {blanks : List UInt8} :
      AreBlank blanks → SpelledMembers isFirst [] (blanks ++ [0x7D])
  | member {isFirst : Bool} {field : Field} {fields : List Field}
      {lead key before after value later : List UInt8} :
      Leads isFirst lead → Spells field.1.toList key → AreBlank before →
      AreBlank after → value ∈ field.2 → SpelledMembers false fields later →
      SpelledMembers isFirst (field :: fields)
        (lead ++ 0x22 ::
          (key ++ 0x22 :: (before ++ 0x3A :: (after ++ (value ++ later)))))

/-- All documents that are an object with these fields, in this order. -/
def documents (fields : List Field) : Set (List UInt8) :=
  {bytes | ∃ before members after, AreBlank before ∧
    SpelledMembers true fields members ∧
    AreBlank after ∧ bytes = before ++ 0x7B :: (members ++ after)}

namespace SpelledMembers

variable {isFirst : Bool} {fields : List Field} {bytes : List UInt8}

theorem length_lt
    (members : SpelledMembers isFirst fields bytes) :
    fields.length < bytes.length := by
  induction members with
  | close => simp
  | member _ _ _ _ _ _ inductionHypothesis =>
      simp only [List.length_cons, List.length_append]
      omega

/-- A value may stand before the members that follow it. -/
theorem closes
    (members : SpelledMembers false fields bytes)
    (rest : List UInt8) :
    Closes (bytes ++ rest) := by
  cases members with
  | close areBlank =>
      rw [List.append_assoc]
      exact closes_append areBlank (.inr (.inr (.inr rfl)))
  | member leads _ _ _ _ _ =>
      rw [List.append_assoc]
      exact leads.closes _

/-- Members under keys that stand for themselves are one layout. -/
theorem of_members
    (members : Members isFirst fields bytes)
    (plain : ∀ field ∈ fields, ArePlain field.1.toList) :
    SpelledMembers isFirst fields bytes := by
  induction members with
  | close areBlank => exact .close areBlank
  | @member isFirst field fields lead before after value later leads areBefore
      areAfter isForm _ inductionHypothesis =>
      obtain ⟨isPlain, others⟩ := List.forall_mem_cons.mp plain
      rw [encode_written, List.append_assoc]
      simp only [List.cons_append, List.append_assoc, List.nil_append]
      exact .member leads (spells_encode isPlain) areBefore areAfter isForm
        (inductionHypothesis others)

end SpelledMembers

theorem mem_documents_of_layouts
    {fields : List Field}
    (plain : ∀ field ∈ fields, ArePlain field.1.toList)
    {bytes : List UInt8}
    (isLayout : bytes ∈ layouts fields) :
    bytes ∈ documents fields := by
  obtain ⟨members, laidOut, rfl⟩ := isLayout
  have noBlank : AreBlank [] := List.forall_mem_nil _
  exact ⟨[], members, [], noBlank, .of_members laidOut plain, noBlank, by simp⟩

theorem nextKey_spelled
    {isFirst : Bool}
    {lead : List UInt8}
    (leads : Leads isFirst lead)
    {characters : List Char}
    {key : List UInt8}
    (spells : Spells characters key)
    (rest : List UInt8) :
    nextKey isFirst (lead ++ 0x22 :: (key ++ 0x22 :: rest)) =
      .ok (some (Utf8.encode characters), rest) :=
  nextKey_quoted leads (readText_spells spells rest)

/-! ## Members one after another -/

namespace Record

variable {Draft α : Type} {record : Record Draft α}

/-- The fields take a draft to another one: each fills a slot that was not
filled, or names no slot and has well-formed values. -/
inductive Takes (record : Record Draft α) : Draft → List Field → Draft → Prop
  | done {draft : Draft} : Takes record draft [] draft
  | slot {draft next last : Draft} {field : Field} {fields : List Field}
      {slot : Slot Draft} :
      record.slots.find? (fun slot => slot.name == field.1) = some slot →
      slot.filled draft = false →
      Reads (slot.read draft) field.2 next →
      Takes record next fields last →
      Takes record draft (field :: fields) last
  | other {draft last : Draft} {field : Field} {fields : List Field} :
      record.slots.find? (fun slot => slot.name == field.1) = none →
      field.2 ⊆ values →
      Takes record draft fields last →
      Takes record draft (field :: fields) last

variable {name : String} {isFirst : Bool}
    {bytes before after value rest : List UInt8}

/-- A member that names no slot is passed over. -/
theorem readMembers_of_other
    (unnamed : record.slots.find? (fun slot => slot.name == name) = none)
    (isKey : nextKey isFirst bytes =
      .ok (some (Utf8.encode name.toList),
        before ++ 0x3A :: (after ++ (value ++ rest))))
    (areBefore : AreBlank before)
    (areAfter : AreBlank after)
    (isValue : value ∈ values)
    (closes : Closes rest)
    (draft : Draft)
    (bound : Nat) :
    record.readMembers (bound + 1) isFirst draft bytes =
      record.readMembers bound false draft rest := by
  rw [readMembers, isKey]
  simp only [bind, Except.bind, slot?_encode, unnamed,
    readColon_append areBefore, skipValue_append areAfter isValue closes]

/-- A second member of one slot is refused. -/
theorem readMembers_of_filled
    {slot : Slot Draft}
    (named : record.slots.find? (fun slot => slot.name == name) = some slot)
    {draft : Draft}
    (filled : slot.filled draft = true)
    (isKey : nextKey isFirst bytes = .ok (some (Utf8.encode name.toList), rest))
    (bound : Nat) :
    record.readMembers (bound + 1) isFirst draft bytes =
      stopHere (.duplicateField slot.name) (pastBrace rest) := by
  rw [readMembers, isKey]
  simp only [bind, Except.bind, slot?_encode, named, filled, if_true]

/-- Once some fields took the draft on, their members have been read, and those
of the further fields are left. -/
theorem readMembers_append
    {draft last : Draft}
    {fields : List Field}
    (takes : Takes record draft fields last)
    {more : List Field}
    (members : SpelledMembers isFirst (fields ++ more) bytes)
    {bound : Nat}
    (bounded : (fields ++ more).length < bound)
    (rest : List UInt8) :
    ∃ isNext left count, SpelledMembers isNext more left ∧ more.length < count ∧
      record.readMembers bound isFirst draft (bytes ++ rest) =
        record.readMembers count isNext last (left ++ rest) := by
  induction takes generalizing isFirst bytes bound with
  | done => exact ⟨isFirst, bytes, bound, members, bounded, rfl⟩
  | slot named unfilled reads _ inductionHypothesis =>
      cases members with
      | member leads spells areBefore areAfter isForm later =>
          obtain ⟨bound, rfl⟩ :=
            Nat.exists_eq_succ_of_ne_zero (Nat.zero_lt_of_lt bounded).ne'
          have isKey := nextKey_spelled leads spells
          simp only [List.append_assoc, List.cons_append]
          rw [readMembers_of_slot named unfilled reads (isKey _) areBefore
            areAfter isForm (later.closes rest) bound]
          exact inductionHypothesis later (Nat.lt_of_succ_lt_succ bounded)
  | other unnamed wellFormed _ inductionHypothesis =>
      cases members with
      | member leads spells areBefore areAfter isForm later =>
          obtain ⟨bound, rfl⟩ :=
            Nat.exists_eq_succ_of_ne_zero (Nat.zero_lt_of_lt bounded).ne'
          have isKey := nextKey_spelled leads spells
          simp only [List.append_assoc, List.cons_append]
          rw [readMembers_of_other unnamed (isKey _) areBefore areAfter
            (wellFormed isForm) (later.closes rest) _ bound]
          exact inductionHypothesis later (Nat.lt_of_succ_lt_succ bounded)

/-- The members of fields that complete a record are read up to
the end of their object. -/
theorem readMembers_of_takes
    {draft last : Draft}
    {fields : List Field}
    (takes : Takes record draft fields last)
    (complete : record.missing? last = none)
    (members : SpelledMembers isFirst fields bytes)
    {bound : Nat}
    (bounded : fields.length < bound)
    (rest : List UInt8) :
    record.readMembers bound isFirst draft (bytes ++ rest) =
      .ok (record.build last, rest) := by
  rw [← List.append_nil fields] at members bounded
  obtain ⟨isNext, left, count, membersLeft, isCount, read⟩ :=
    readMembers_append takes members bounded rest
  obtain ⟨count, rfl⟩ := Nat.exists_eq_succ_of_ne_zero isCount.ne'
  cases membersLeft with
  | close areBlank =>
      rw [read, readMembers_close complete areBlank count isNext rest]

/-! ## Whole objects -/

/-- An object is read member by member, up to a bound that
its members do not meet. -/
theorem read_object
    (record : Record Draft α)
    {blanks : List UInt8}
    (areBlank : AreBlank blanks)
    {fields : List Field}
    (members : SpelledMembers true fields bytes)
    (rest : List UInt8) :
    ∃ bound, fields.length < bound ∧
      record.read (blanks ++ 0x7B :: (bytes ++ rest)) =
      record.readMembers bound true record.blank (bytes ++ rest) := by
  have within : bytes.length ≤ (bytes ++ rest).length := by
    rw [List.length_append]
    exact Nat.le_add_right _ _
  refine ⟨(bytes ++ rest).length + 1,
    Nat.lt_succ_of_lt (Nat.lt_of_lt_of_le members.length_lt within), ?_⟩
  rw [Record.read, skipBlanks_append areBlank, skipBlanks_cons rfl]
  rfl

theorem Fills.takes
    {draft last : Draft}
    {fields : List Field}
    (fills : Fills record draft fields last) :
    Takes record draft fields last := by
  induction fills with
  | done => exact .done
  | field named unfilled reads _ inductionHypothesis =>
      exact .slot named unfilled reads inductionHypothesis

theorem Fills.arePlain
    (plainNames : record.HasPlainNames)
    {draft last : Draft}
    {fields : List Field}
    (fills : Fills record draft fields last) :
    ∀ field ∈ fields, ArePlain field.1.toList := by
  induction fills with
  | done => exact List.forall_mem_nil _
  | field named _ _ _ inductionHypothesis =>
      have plain :=
        plainNames _ (List.mem_map_of_mem (List.mem_of_find?_eq_some named))
      have sameName := List.find?_some named
      rw [eq_of_beq sameName] at plain
      exact List.forall_mem_cons.mpr ⟨plain, inductionHypothesis⟩

/-- A record is read back from any layout of fields that fill it. -/
theorem reads_layouts
    (plainNames : record.HasPlainNames)
    {last : Draft}
    {fields : List Field}
    (fills : Fills record record.blank fields last)
    (complete : record.missing? last = none) :
    Reads record.read (layouts fields) (record.build last) := by
  rintro blanks bytes rest areBlank ⟨laidOut, members, rfl⟩ closes
  have spelled := SpelledMembers.of_members members (fills.arePlain plainNames)
  obtain ⟨bound, bounded, read⟩ := read_object record areBlank spelled rest
  rw [List.append_assoc, List.cons_append, read]
  exact readMembers_of_takes fills.takes complete spelled bounded rest

/-! ## Whole documents -/

/-- Fields in any order and with others among them make the
record of their draft. -/
theorem readDocument_of_takes
    {last : Draft}
    {fields : List Field}
    (takes : Takes record record.blank fields last)
    (complete : record.missing? last = none)
    {document : List UInt8}
    (isDocument : document ∈ documents fields) :
    readDocument record.read document = .ok (record.build last) := by
  obtain ⟨blanks, laidOut, after, areBlank, members, areAfter, rfl⟩ :=
    isDocument
  obtain ⟨bound, bounded, read⟩ := read_object record areBlank members after
  have noRest : skipBlanks after = [] := by
    rw [← List.append_nil after, skipBlanks_append areAfter]
    rfl
  rw [readDocument, read,
    readMembers_of_takes takes complete members bounded after]
  simp only [bind, Except.bind, noRest]
  rfl

/-- A second member of a slot is refused wherever it stands, whatever its value
is and whatever follows it. -/
theorem readDocument_of_filled
    {last : Draft}
    {fields : List Field}
    (takes : Takes record record.blank fields last)
    {field : Field}
    {slot : Slot Draft}
    (named : record.slots.find? (fun slot => slot.name == field.1) = some slot)
    (filled : slot.filled last = true)
    {later : List Field}
    {document : List UInt8}
    (isDocument : document ∈ documents (fields ++ field :: later)) :
    ∃ place, readDocument record.read document =
      .error (.document ⟨.duplicateField slot.name, place⟩) := by
  obtain ⟨blanks, laidOut, after, areBlank, members, -, rfl⟩ := isDocument
  obtain ⟨bound, bounded, read⟩ := read_object record areBlank members after
  obtain ⟨isNext, left, count, membersLeft, isCount, readOn⟩ :=
    readMembers_append takes members bounded after
  obtain ⟨count, rfl⟩ :=
    Nat.exists_eq_succ_of_ne_zero (Nat.zero_lt_of_lt isCount).ne'
  cases membersLeft with
  | member leads spells _ _ _ _ =>
      have isKey := nextKey_spelled leads spells
      rw [readDocument, read, readOn]
      simp only [List.append_assoc, List.cons_append]
      rw [readMembers_of_filled named filled (isKey _) count]
      exact ⟨_, rfl⟩

end Record

end Json
end HandlePool
