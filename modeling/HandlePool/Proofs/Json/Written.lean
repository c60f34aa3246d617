import HandlePool.Json.Record
import HandlePool.Proofs.Decimal
import HandlePool.Proofs.Duration.Spelling
import HandlePool.Proofs.Text.Utf8
import Mathlib.Data.Set.Basic

/-!
# Written values are read back

A count is written in decimal digits, a duration as its spelled form in quotes,
and a choice as its name in quotes.  Each of them is read back with blanks
before it, as long as nothing follows that a number could go on with.
-/

namespace HandlePool
namespace Json

/-! ## Blanks -/

/-- Nothing but blanks. -/
def AreBlank (bytes : List UInt8) : Prop := ∀ byte ∈ bytes, isBlank byte = true

theorem skipBlanks_append
    {blanks : List UInt8}
    (areBlank : AreBlank blanks)
    (rest : List UInt8) :
    skipBlanks (blanks ++ rest) = skipBlanks rest := by
  induction blanks with
  | nil => rfl
  | cons blank blanks inductionHypothesis =>
      obtain ⟨head, later⟩ := List.forall_mem_cons.mp areBlank
      rw [List.cons_append, skipBlanks, List.dropWhile_cons_of_pos head]
      exact inductionHypothesis later

theorem skipBlanks_cons
    {byte : UInt8}
    (visible : isBlank byte = false)
    (rest : List UInt8) :
    skipBlanks (byte :: rest) = byte :: rest :=
  List.dropWhile_cons_of_neg (ne_true_of_eq_false visible)

/-- What may follow a value: a blank, a comma, the end of a
container, or nothing. -/
def Closes : List UInt8 → Prop
  | [] => True
  | byte :: _ => isBlank byte = true ∨ byte = 0x2C ∨ byte = 0x5D ∨ byte = 0x7D

/-- What may follow a value may also follow the blanks behind it. -/
theorem closes_append
    {blanks rest : List UInt8}
    (areBlank : AreBlank blanks)
    (closes : Closes rest) :
    Closes (blanks ++ rest) := by
  cases blanks with
  | nil => exact closes
  | cons blank blanks => exact .inl (areBlank blank List.mem_cons_self)

theorem Closes.endsNumber
    {byte : UInt8}
    {rest : List UInt8}
    (closes : Closes (byte :: rest)) :
    (digit? byte).isSome = false ∧ byte ≠ 0x2E ∧ byte ≠ 0x65 ∧ byte ≠ 0x45 := by
  simp only [Closes, isBlank, Bool.or_eq_true, beq_iff_eq, or_assoc] at closes
  obtain rfl | rfl | rfl | rfl | rfl | rfl | rfl := closes <;> decide

theorem Closes.startsWithDigit
    {rest : List UInt8}
    (closes : Closes rest) :
    startsWithDigit rest = false := by
  cases rest with
  | nil => rfl
  | cons byte rest => exact closes.endsNumber.1

/-! ## Texts -/

/-- The bytes that stand for themselves in a text. -/
def IsPlain (byte : UInt8) : Prop := 0x20 ≤ byte ∧ byte ≠ 0x22 ∧ byte ≠ 0x5C

/-- Bytes that stand for themselves are read in front of a text. -/
theorem readText_plain_append
    {bytes : List UInt8}
    (plain : ∀ byte ∈ bytes, IsPlain byte)
    {body text rest : List UInt8}
    (read : readText body = .ok (text, rest)) :
    readText (bytes ++ body) = .ok (bytes ++ text, rest) := by
  induction bytes with
  | nil => exact read
  | cons byte bytes inductionHypothesis =>
      obtain ⟨⟨visible, unquoted, unescaped⟩, later⟩ :=
        List.forall_mem_cons.mp plain
      have readLater := inductionHypothesis later
      rw [List.cons_append, readText]
      · rw [if_neg (UInt8.not_lt.mpr visible), readLater]
        rfl
      all_goals
        intros
        contradiction

theorem readText_plain
    {bytes : List UInt8}
    (plain : ∀ byte ∈ bytes, IsPlain byte)
    (rest : List UInt8) :
    readText (bytes ++ 0x22 :: rest) = .ok (bytes, rest) := by
  have ended : readText (0x22 :: rest) = .ok ([], rest) := by
    rw [readText]
  rw [readText_plain_append plain ended, List.append_nil]

/-- The characters whose bytes stand for themselves in a text. -/
def IsPlainChar (character : Char) : Prop :=
  0x20 ≤ character.toNat ∧ character ≠ '"' ∧ character ≠ '\\'

instance : DecidablePred IsPlainChar :=
  fun _ => inferInstanceAs (Decidable (_ ∧ _ ∧ _))

/-- All bytes of these characters stand for themselves in a text. -/
def ArePlain (characters : List Char) : Prop :=
  ∀ character ∈ characters, IsPlainChar character

instance : DecidablePred ArePlain := List.decidableBAll IsPlainChar

theorem isPlain_of_mem_encodeChar
    {character : Char}
    (plain : IsPlainChar character)
    {byte : UInt8}
    (present : byte ∈ Utf8.encodeChar character) :
    IsPlain byte := by
  obtain ⟨visible, unquoted, unescaped⟩ := plain
  rw [IsPlain, UInt8.le_iff_toNat_le, ne_eq,
    ne_eq, ← UInt8.toNat_inj, ← UInt8.toNat_inj]
  by_cases short : character.toNat < 0x80
  · rw [Utf8.encodeChar, if_pos short, List.mem_singleton] at present
    rw [present, Utf8.toNat_toUInt8_of_lt (Nat.lt_trans short (by decide))]
    rw [ne_eq, ← Char.toNat_inj] at unquoted unescaped
    exact ⟨visible, unquoted, unescaped⟩
  · obtain ⟨lead, later, encoded, writes⟩ :=
      Utf8.writes_encodeChar (Nat.not_lt.mp short)
    have high := writes.le_of_mem (encoded ▸ present)
    simp only [UInt8.reduceToNat]
    omega

theorem isPlain_of_mem_encode
    {characters : List Char}
    (plain : ArePlain characters) :
    ∀ byte ∈ Utf8.encode characters, IsPlain byte := by
  intro byte present
  obtain ⟨character, among, within⟩ := List.mem_flatMap.mp present
  exact isPlain_of_mem_encodeChar (plain character among) within

/-- The bytes of a quoted text behind its first quote. -/
theorem readText_encode
    {characters : List Char}
    (plain : ArePlain characters)
    (rest : List UInt8) :
    readText (Utf8.encode characters ++ 0x22 :: rest) =
      .ok (Utf8.encode characters, rest) :=
  readText_plain (isPlain_of_mem_encode plain) rest

theorem asText_encode
    (text : String) :
    asText (Utf8.encode text.toList) = text := by
  rw [asText, Utf8.lossy_encode, String.ofList_toList]

/-! ## Readers of written values -/

/-- A reader takes all these forms for a value, with blanks before them. -/
def Reads {α : Type} (reader : Reader α) (forms : Set (List UInt8))
    (value : α) : Prop :=
  ∀ blanks bytes rest, AreBlank blanks → bytes ∈ forms → Closes rest →
    reader (blanks ++ bytes ++ rest) = .ok (value, rest)

/-- The one form that is a text. -/
def exactly (text : String) : Set (List UInt8) := {Utf8.encode text.toList}

/-! ## Counts -/

theorem visible_of_digit
    {byte : UInt8}
    {value : Nat}
    (isDigit : digit? byte = some value) :
    isBlank byte = false ∧ byte ≠ 0x2D := by
  constructor
  · apply Bool.eq_false_iff.mpr
    intro isBlank
    simp only [Json.isBlank, Bool.or_eq_true, beq_iff_eq, or_assoc] at isBlank
    obtain rfl | rfl | rfl | rfl := isBlank <;> cases isDigit
  · rintro rfl
    cases isDigit

theorem encodeChar_of_isDigit
    {digit : Char}
    (isDigit : digit.isDigit = true) :
    ∃ byte, Utf8.encodeChar digit = [byte] ∧ byte.toNat = digit.toNat ∧
      digit? byte = some (digit.toNat - '0'.toNat) := by
  obtain ⟨low, high⟩ := Decimal.toNat_of_isDigit isDigit
  have short : digit.toNat < 0x80 := by omega
  have value : digit.toNat.toUInt8.toNat = digit.toNat :=
    Utf8.toNat_toUInt8_of_lt (by omega)
  refine ⟨digit.toNat.toUInt8, if_pos short, value, ?_⟩
  have inRange : 0x30 ≤ digit.toNat.toUInt8 ∧ digit.toNat.toUInt8 ≤ 0x39 := by
    rw [UInt8.le_iff_toNat_le, UInt8.le_iff_toNat_le, value]
    exact ⟨low, high⟩
  rw [digit?, if_pos inRange, value]
  rfl

/-- Digits of a number below the limit are gathered up to the
end of the number. -/
theorem gather_encode
    {limit value : Nat}
    {digits : List Char}
    (areDigits : ∀ digit ∈ digits, digit.isDigit = true)
    (below : Nat.ofDigitChars 10 digits value < limit)
    {rest : List UInt8}
    (ends : startsWithDigit rest = false) :
    gather limit value (Utf8.encode digits ++ rest) =
      (Nat.ofDigitChars 10 digits value, rest) := by
  induction digits generalizing value with
  | nil =>
      cases rest with
      | nil => rfl
      | cons byte rest =>
          have notDigit : digit? byte = none := Option.not_isSome_iff_eq_none.mp
            (ne_true_of_eq_false ends)
          rw [Utf8.encode_nil, List.nil_append, gather]
          simp only [notDigit]
          rfl
  | cons digit digits inductionHypothesis =>
      obtain ⟨isDigit, later⟩ := List.forall_mem_cons.mp areDigits
      obtain ⟨byte, encoded, -, read⟩ := encodeChar_of_isDigit isDigit
      rw [Nat.ofDigitChars_cons, Nat.mul_comm] at below ⊢
      have nextBelow :=
        Nat.lt_of_le_of_lt (Decimal.le_ofDigitChars digits _) below
      rw [Utf8.encode_cons, encoded, List.singleton_append,
        List.cons_append, gather]
      simp only [read, nextBelow, if_true]
      exact inductionHypothesis later below

theorem readAfterWhole_of_closes
    {rest : List UInt8}
    (closes : Closes rest)
    (isPositive : Bool)
    (significand : Nat) :
    readAfterWhole isPositive significand rest =
      .ok (exact isPositive significand, rest) := by
  cases rest with
  | nil => rfl
  | cons byte rest =>
      obtain ⟨-, notPoint, notLower, notUpper⟩ := closes.endsNumber
      rw [readAfterWhole]
      all_goals
        intros
        simp_all

theorem toList_toString
    (count : UInt64) :
    (toString count).toList = Nat.toDigits 10 count.toNat := by
  rw [show toString count = toString count.toNat from rfl, Nat.toString_eq_repr,
    Nat.toList_repr]

/-- Digits that do not start with zero unless that is all are
read as their number. -/
theorem readUnsigned_encode
    {first : Char}
    {later : List Char}
    (areDigits : ∀ digit ∈ first :: later, digit.isDigit = true)
    (leading : first.toNat = 48 → later = [])
    (fits : Nat.ofDigitChars 10 (first :: later) 0 < wordSize)
    {rest : List UInt8}
    (closes : Closes rest) :
    readUnsigned true (Utf8.encode (first :: later) ++ rest) =
      .ok (.natural (Nat.ofDigitChars 10 (first :: later) 0).toUInt64,
        rest) := by
  obtain ⟨isDigit, areLater⟩ := List.forall_mem_cons.mp areDigits
  obtain ⟨byte, encoded, -, digitRead⟩ := encodeChar_of_isDigit isDigit
  rw [Nat.ofDigitChars_cons, Nat.mul_zero, Nat.zero_add] at fits ⊢
  rw [Utf8.encode_cons, encoded, List.singleton_append,
    List.cons_append, readUnsigned]
  cases isZero : first.toNat - '0'.toNat with
  | zero =>
      have alone : later = [] := by
        have low := (Decimal.toNat_of_isDigit isDigit).1
        apply leading
        rw [show '0'.toNat = 48 from rfl] at isZero
        omega
      rw [isZero] at digitRead
      simp only [digitRead, alone, Utf8.encode_nil, List.nil_append,
        closes.startsWithDigit, Bool.false_eq_true, if_false]
      exact readAfterWhole_of_closes closes true 0
  | succ digit =>
      rw [isZero] at digitRead fits
      simp only [digitRead, gather_encode areLater fits closes.startsWithDigit,
        closes.startsWithDigit, Bool.false_eq_true, if_false]
      exact readAfterWhole_of_closes closes true _

theorem reads_count
    (count : UInt64) :
    Reads readCount (exactly (toString count)) count := by
  rintro blanks bytes rest areBlank rfl closes
  have value : Nat.ofDigitChars 10 (Nat.toDigits 10 count.toNat) 0 =
      count.toNat :=
    Nat.ofDigitChars_ten_toDigits
  have areDigits : ∀ digit ∈ Nat.toDigits 10 count.toNat,
      digit.isDigit = true :=
    fun _ => Decimal.isDigit_of_mem_toDigits
  obtain ⟨first, later, digits, leading⟩ :=
    Decimal.exists_toDigits_eq_cons count.toNat
  rw [toList_toString, digits]
  rw [digits] at value areDigits
  have read := readUnsigned_encode areDigits (fun isZero => (leading isZero).2)
    (value ▸ count.toNat_lt) closes
  obtain ⟨byte, encoded, -, digitRead⟩ :=
    encodeChar_of_isDigit (areDigits first List.mem_cons_self)
  obtain ⟨visible, unsigned⟩ := visible_of_digit digitRead
  rw [Utf8.encode_cons, encoded, List.singleton_append, List.cons_append, value]
    at read
  rw [List.append_assoc, readCount, skipBlanks_append areBlank,
    Utf8.encode_cons, encoded,
    List.singleton_append, List.cons_append, skipBlanks_cons visible]
  simp only [digitRead, Option.isSome_some, or_true, if_true]
  rw [readNumber, read]
  · simp only [Nat.toUInt64, UInt64.ofNat_toNat]
    rfl
  · intro _ same
    exact unsigned (List.cons.inj same).1

/-! ## Durations and choices -/

theorem isPlainChar_of_isDigit
    {character : Char}
    (isDigit : character.isDigit = true) :
    IsPlainChar character := by
  obtain ⟨low, high⟩ := Decimal.toNat_of_isDigit isDigit
  refine ⟨by omega, ?_, ?_⟩
  · rintro rfl
    exact absurd low (by decide)
  · rintro rfl
    exact absurd high (by decide)

theorem isPlainChar_of_isLetter
    {character : Char}
    (isLetter : Spelling.IsLetter character) :
    IsPlainChar character := by
  obtain ⟨-, -, isLetter⟩ := isLetter
  refine ⟨?_, ?_, ?_⟩
  · simp only [Spelling.isUnitLetter, Bool.or_eq_true, Bool.and_eq_true,
      decide_eq_true_eq, beq_iff_eq] at isLetter
    obtain (⟨low, -⟩ | ⟨low, -⟩) | rfl := isLetter
    · exact Nat.le_trans (by decide) low
    · exact Nat.le_trans (by decide) low
    · decide
  · rintro rfl
    exact absurd isLetter (by decide)
  · rintro rfl
    exact absurd isLetter (by decide)

theorem mem_intercalate
    {α : Type}
    {separator : List α}
    {rows : List (List α)}
    {element : α}
    (present : element ∈ separator.intercalate rows) :
    element ∈ separator ∨ ∃ row ∈ rows, element ∈ row := by
  induction rows with
  | nil => cases present
  | cons row rows inductionHypothesis =>
      cases rows with
      | nil =>
          rw [List.intercalate_singleton] at present
          exact .inr ⟨row, List.mem_singleton_self row, present⟩
      | cons next rows =>
          rw [List.intercalate_cons_cons, List.mem_append, List.mem_append]
            at present
          obtain (within | within) | later := present
          · exact .inr ⟨row, List.mem_cons_self, within⟩
          · exact .inl within
          · refine (inductionHypothesis later).imp_right ?_
            rintro ⟨other, among, within⟩
            exact ⟨other, List.mem_cons_of_mem _ among, within⟩

theorem arePlain_spell
    (duration : Duration) :
    ArePlain duration.spell.toList := by
  intro character present
  cases lasting : duration.isZero with
  | true =>
      rw [Duration.spell, if_pos lasting] at present
      have plain : ArePlain "0s".toList := by decide
      exact plain character present
  | false =>
      rw [Spelling.toList_spell lasting] at present
      obtain among | ⟨text, listed, within⟩ := mem_intercalate present
      · rw [List.mem_singleton] at among
        subst among
        decide
      · obtain ⟨part, kept, rfl⟩ := List.mem_map.mp listed
        obtain ⟨⟨isUnit, -⟩, -⟩ :=
          Spelling.asks_of_mem_parts (List.mem_of_mem_filter kept)
        obtain ⟨timeUnit, isUnit⟩ := Option.isSome_iff_exists.mp isUnit
        obtain ⟨-, areLetters, -⟩ := Spelling.isLetter_of_unit? isUnit
        obtain among | among := List.mem_append.mp within
        · exact isPlainChar_of_isDigit (Decimal.isDigit_of_mem_toDigits among)
        · exact isPlainChar_of_isLetter (areLetters character among)

/-- The bytes of a quoted text. -/
theorem encode_written
    (text : String) :
    Utf8.encode (written text).toList =
      0x22 :: (Utf8.encode text.toList ++ [0x22]) := by
  rw [written, String.toList_append, String.toList_append, Utf8.encode_append,
    Utf8.encode_append]
  rfl

theorem reads_duration
    (duration : Duration) :
    Reads readDuration (exactly (written duration.spell)) duration := by
  rintro blanks bytes rest areBlank rfl closes
  have read := readText_encode (arePlain_spell duration) rest
  rw [List.append_assoc, readDuration, skipBlanks_append areBlank,
    encode_written,
    List.cons_append, List.append_assoc, List.singleton_append,
    skipBlanks_cons rfl]
  simp only [read, bind, Except.bind, asText_encode, Spelling.read_spell]

/-- A choice is read back by its name, if the name is found at that choice. -/
theorem reads_choice
    {α : Type}
    {choices : Choices α}
    {name : String}
    {value : α}
    (found : choices.find? (fun choice => choice.1 == name) =
      some (name, value))
    (plain : ArePlain name.toList) :
    Reads (readChoice choices) (exactly (written name)) value := by
  rintro blanks bytes rest areBlank rfl closes
  have read := readText_encode plain rest
  have chosen : choose choices (Utf8.encode name.toList) rest = .ok value := by
    simp only [choose, Utf8.encode_toList_beq, found]
  rw [List.append_assoc, readChoice, skipBlanks_append areBlank, encode_written,
    List.cons_append, List.append_assoc, List.singleton_append,
    skipBlanks_cons rfl]
  simp only [read, bind, Except.bind, chosen]

end Json
end HandlePool
