import HandlePool.Proofs.Json.Layout
import Mathlib.Data.List.DropRight

/-!
# Well-formed values are passed over

The values of a document by their grammar: literals, numbers, texts, and lists
and objects of values to any depth, with blanks between their parts.  A reader
that nobody asked for a value passes over exactly its bytes, whatever the
containers are that are still open around it.
-/

namespace HandlePool
namespace Json

/-! ## Numbers -/

/-- A decimal digit. -/
def IsDigit (byte : UInt8) : Prop := 0x30 ≤ byte ∧ byte ≤ 0x39

/-- One digit or more. -/
def AreDigits (bytes : List UInt8) : Prop :=
  bytes ≠ [] ∧ ∀ byte ∈ bytes, IsDigit byte

/-- The whole part of a number: digits that do not start with
zero unless that is all. -/
def IsWhole (bytes : List UInt8) : Prop :=
  AreDigits bytes ∧ (bytes.head? = some 0x30 → bytes = [0x30])

/-- The fraction of a number, which may be missing. -/
def IsFraction (bytes : List UInt8) : Prop :=
  bytes = [] ∨ ∃ digits, AreDigits digits ∧ bytes = 0x2E :: digits

/-- The exponent of a number, which may be missing. -/
def IsExponent (bytes : List UInt8) : Prop :=
  bytes = [] ∨ ∃ letter sign digits,
    (letter = 0x65 ∨ letter = 0x45) ∧
    (sign = [] ∨ sign = [0x2B] ∨ sign = [0x2D]) ∧
      AreDigits digits ∧ bytes = letter :: (sign ++ digits)

/-- A number of any size. -/
def IsNumber (bytes : List UInt8) : Prop :=
  ∃ sign whole fraction exponent,
    (sign = [] ∨ sign = [0x2D]) ∧ IsWhole whole ∧ IsFraction fraction ∧
    IsExponent exponent ∧
      bytes = sign ++ (whole ++ (fraction ++ exponent))

instance : DecidablePred IsDigit := fun _ => inferInstanceAs (Decidable (_ ∧ _))

theorem IsDigit.digit?_eq
    {byte : UInt8}
    (isDigit : IsDigit byte) :
    digit? byte = some (byte.toNat - 0x30) :=
  if_pos isDigit

theorem IsDigit.isSome_digit?
    {byte : UInt8}
    (isDigit : IsDigit byte) :
    (digit? byte).isSome = true := by
  rw [isDigit.digit?_eq, Option.isSome_some]

theorem IsDigit.ne
    {byte other : UInt8}
    (isDigit : IsDigit byte)
    (notDigit : ¬IsDigit other) :
    byte ≠ other := by
  rintro rfl
  exact notDigit isDigit

theorem skipDigits_append
    {digits : List UInt8}
    (areDigits : ∀ byte ∈ digits, IsDigit byte)
    {rest : List UInt8}
    (ends : startsWithDigit rest = false) :
    skipDigits (digits ++ rest) = rest := by
  induction digits with
  | nil =>
      cases rest with
      | nil => rfl
      | cons byte rest =>
          exact List.dropWhile_cons_of_neg (ne_true_of_eq_false ends)
  | cons digit digits inductionHypothesis =>
      obtain ⟨isDigit, later⟩ := List.forall_mem_cons.mp areDigits
      have taken : skipDigits (digit :: (digits ++ rest)) =
          skipDigits (digits ++ rest) :=
        List.dropWhile_cons_of_pos isDigit.isSome_digit?
      rw [List.cons_append, taken, inductionHypothesis later]

theorem skipSign_append
    {sign : List UInt8}
    (isSign : sign = [] ∨ sign = [0x2B] ∨ sign = [0x2D])
    {digit : UInt8}
    (isDigit : IsDigit digit)
    (rest : List UInt8) :
    skipSign (sign ++ digit :: rest) = digit :: rest := by
  obtain rfl | rfl | rfl := isSign
  · rw [List.nil_append, skipSign]
    · rintro _ ⟨⟩
      exact isDigit.ne (by decide) rfl
    · rintro _ ⟨⟩
      exact isDigit.ne (by decide) rfl
  · rfl
  · rfl

theorem skipExponent_append
    {sign digits : List UInt8}
    (isSign : sign = [] ∨ sign = [0x2B] ∨ sign = [0x2D])
    (areDigits : AreDigits digits)
    {rest : List UInt8}
    (ends : startsWithDigit rest = false) :
    skipExponent (sign ++ digits ++ rest) = .ok rest := by
  obtain ⟨nonempty, areDigits⟩ := areDigits
  obtain ⟨digit, digits, rfl⟩ := List.exists_cons_of_ne_nil nonempty
  obtain ⟨isDigit, later⟩ := List.forall_mem_cons.mp areDigits
  rw [List.append_assoc, List.cons_append, skipExponent,
    skipSign_append isSign isDigit]
  simp only [isDigit.isSome_digit?, if_true, skipDigits_append later ends]

theorem startsWithDigit_append
    {digits : List UInt8}
    (areDigits : AreDigits digits)
    (rest : List UInt8) :
    startsWithDigit (digits ++ rest) = true := by
  obtain ⟨nonempty, areDigits⟩ := areDigits
  obtain ⟨digit, digits, rfl⟩ := List.exists_cons_of_ne_nil nonempty
  exact (areDigits digit List.mem_cons_self).isSome_digit?

theorem IsExponent.startsWithDigit
    {exponent rest : List UInt8}
    (isExponent : IsExponent exponent)
    (closes : Closes rest) :
    startsWithDigit (exponent ++ rest) = false := by
  obtain rfl | ⟨letter, sign, digits, rfl | rfl, -, -, rfl⟩ := isExponent
  · exact closes.startsWithDigit
  · rfl
  · rfl

theorem IsFraction.startsWithDigit
    {fraction exponent rest : List UInt8}
    (isFraction : IsFraction fraction)
    (isExponent : IsExponent exponent)
    (closes : Closes rest) :
    Json.startsWithDigit (fraction ++ (exponent ++ rest)) = false := by
  obtain rfl | ⟨digits, -, rfl⟩ := isFraction
  · exact isExponent.startsWithDigit closes
  · rfl

/-- Behind the whole part of a number the fraction and the
exponent are passed over. -/
theorem skipAfterWhole_append
    {fraction exponent rest : List UInt8}
    (isFraction : IsFraction fraction)
    (isExponent : IsExponent exponent)
    (closes : Closes rest) :
    skipAfterWhole (fraction ++ (exponent ++ rest)) = .ok rest := by
  have ends := closes.startsWithDigit
  obtain rfl | ⟨digits, areDigits, rfl⟩ := isFraction
  · obtain rfl | ⟨letter, sign, power, rfl | rfl, isSign, arePower, rfl⟩ :=
      isExponent
    · cases rest with
      | nil => rfl
      | cons byte rest =>
          obtain ⟨-, notPoint, notLower, notUpper⟩ := closes.endsNumber
          rw [List.nil_append, List.nil_append, skipAfterWhole]
          all_goals
            intros
            simp_all
    · exact skipExponent_append isSign arePower ends
    · exact skipExponent_append isSign arePower ends
  · have digitsEnd := isExponent.startsWithDigit closes
    rw [List.cons_append, skipAfterWhole]
    simp only [startsWithDigit_append areDigits, if_true,
      skipDigits_append areDigits.2 digitsEnd]
    obtain rfl | ⟨letter, sign, power, rfl | rfl, isSign, arePower, rfl⟩ :=
      isExponent
    · cases rest with
      | nil => rfl
      | cons byte rest =>
          obtain ⟨-, -, notLower, notUpper⟩ := closes.endsNumber
          rw [List.nil_append]
          split
          · simp_all
          · simp_all
          · rfl
    · exact skipExponent_append isSign arePower ends
    · exact skipExponent_append isSign arePower ends

theorem skipUnsigned_append
    {whole fraction exponent rest : List UInt8}
    (isWhole : IsWhole whole)
    (isFraction : IsFraction fraction)
    (isExponent : IsExponent exponent)
    (closes : Closes rest) :
    skipUnsigned (whole ++ (fraction ++ (exponent ++ rest))) = .ok rest := by
  obtain ⟨⟨nonempty, areDigits⟩, leading⟩ := isWhole
  obtain ⟨digit, digits, rfl⟩ := List.exists_cons_of_ne_nil nonempty
  obtain ⟨isDigit, later⟩ := List.forall_mem_cons.mp areDigits
  have ends := isFraction.startsWithDigit isExponent closes
  have skipped := skipAfterWhole_append isFraction isExponent closes
  by_cases isZero : digit = 0x30
  · subst isZero
    cases leading rfl
    rw [List.singleton_append, skipUnsigned]
    have value : digit? 0x30 = some 0 := rfl
    simp only [value, ends, Bool.false_eq_true, if_false, skipped]
  · obtain ⟨value, isValue⟩ : ∃ value, digit.toNat - 0x30 = value + 1 := by
      have low := UInt8.le_iff_toNat_le.mp isDigit.1
      have above : digit.toNat ≠ 0x30 :=
        fun same => isZero (UInt8.toNat_inj.mp same)
      exact Nat.exists_eq_succ_of_ne_zero fun zero =>
        above (Nat.le_antisymm (Nat.sub_eq_zero_iff_le.mp zero) low)
    rw [List.cons_append, skipUnsigned]
    simp only [isDigit.digit?_eq, isValue,
      skipDigits_append later ends, skipped]

/-! ## Texts -/

/-- A hexadecimal digit and its value, with letters of either case. -/
def HexDigit (byte : UInt8) (value : Nat) : Prop :=
  value < 10 ∧ byte.toNat = 0x30 + value ∨
    10 ≤ value ∧ value < 16 ∧
    (byte.toNat = 0x37 + value ∨ byte.toNat = 0x57 + value)

/-- Four hexadecimal digits and their number. -/
inductive HexNumber : List UInt8 → Nat → Prop
  | digits {first second third fourth : UInt8} {a b c d : Nat} :
      HexDigit first a → HexDigit second b → HexDigit third c →
      HexDigit fourth d →
      HexNumber [first, second, third, fourth] (a * 4096 + b * 256 + c * 16 + d)

/-- The escapes of one letter, and the characters they stand for. -/
def escapes : List (UInt8 × Char) :=
  [(0x22, '"'), (0x5C, '\\'), (0x2F, '/'), (0x62, '\x08'),
    (0x66, '\x0C'), (0x6E, '\n'), (0x72, '\r'), (0x74, '\t')]

/-- What stands between the quotes of a text. -/
inductive IsText : List UInt8 → Prop
  | empty : IsText []
  | plain {byte : UInt8} {later : List UInt8} :
      IsPlain byte → IsText later → IsText (byte :: later)
  | letter {letter : UInt8} {later : List UInt8} :
      letter ∈ escapes.map Prod.fst → IsText later →
      IsText (0x5C :: letter :: later)
  | numbered {digits later : List UInt8} {value : Nat} :
      HexNumber digits value → IsText later →
      IsText (0x5C :: 0x75 :: (digits ++ later))

theorem HexDigit.hexDigit?_eq
    {byte : UInt8}
    {value : Nat}
    (isDigit : HexDigit byte value) :
    hexDigit? byte = some value := by
  simp only [hexDigit?, UInt8.le_iff_toNat_le, UInt8.reduceToNat]
  obtain ⟨small, sum⟩ | ⟨large, small, sum | sum⟩ := isDigit
  · rw [if_pos (by omega), sum, Nat.add_sub_cancel_left]
  · rw [if_neg (by omega), if_pos (by omega), sum, Nat.add_sub_cancel_left]
  · rw [if_neg (by omega), if_neg (by omega), if_pos (by omega), sum,
      Nat.add_sub_cancel_left]

theorem hexValue?_of_hexDigit
    {first second third fourth : UInt8}
    {a b c d : Nat}
    (isFirst : HexDigit first a)
    (isSecond : HexDigit second b)
    (isThird : HexDigit third c)
    (isFourth : HexDigit fourth d) :
    hexValue? first second third fourth =
      some (a * 4096 + b * 256 + c * 16 + d) := by
  rw [hexValue?, isFirst.hexDigit?_eq, isSecond.hexDigit?_eq,
    isThird.hexDigit?_eq, isFourth.hexDigit?_eq]
  rfl

/-- The letter of an escape stands for its character, which is a single byte. -/
theorem shortEscape?_of_mem
    {letter : UInt8}
    {character : Char}
    (isEscape : (letter, character) ∈ escapes) :
    ∃ byte, shortEscape? letter = some byte ∧
      Utf8.encodeChar character = [byte] := by
  have all : ∀ escape ∈ escapes,
      (shortEscape? escape.1).map (fun byte => [byte]) =
        some (Utf8.encodeChar escape.2) := by
    decide
  obtain ⟨byte, isShort, isByte⟩ := Option.map_eq_some_iff.mp (all _ isEscape)
  exact ⟨byte, isShort, isByte.symm⟩

theorem ne_of_shortEscape?
    {letter byte : UInt8}
    (isShort : shortEscape? letter = some byte) :
    letter ≠ 0x75 := by
  rintro rfl
  cases isShort

theorem skipText_text
    {body : List UInt8}
    (isText : IsText body)
    (rest : List UInt8) :
    skipText (body ++ 0x22 :: rest) = .ok rest := by
  induction isText with
  | empty => rfl
  | plain isPlain _ inductionHypothesis =>
      obtain ⟨visible, unquoted, unescaped⟩ := isPlain
      rw [List.cons_append, skipText]
      · rw [if_neg (UInt8.not_lt.mpr visible), inductionHypothesis]
      all_goals
        intros
        contradiction
  | letter isLetter _ inductionHypothesis =>
      obtain ⟨⟨letter, character⟩, isEscape, rfl⟩ := List.mem_map.mp isLetter
      obtain ⟨byte, isShort, -⟩ := shortEscape?_of_mem isEscape
      have unnumbered := ne_of_shortEscape? isShort
      rw [List.cons_append, List.cons_append, skipText]
      · simp only [isShort, inductionHypothesis]
      all_goals
        intros
        contradiction
  | numbered isNumber _ inductionHypothesis =>
      obtain ⟨isFirst, isSecond, isThird, isFourth⟩ := isNumber
      simp only [List.cons_append, List.nil_append]
      rw [skipText]
      simp only [hexValue?_of_hexDigit isFirst isSecond isThird isFourth,
        inductionHypothesis]

/-! ## Values -/

/-- A value that has no parts. -/
inductive IsScalar : List UInt8 → Prop
  | literal {name : String} :
      name ∈ ["null", "true", "false"] → IsScalar (Utf8.encode name.toList)
  | number {bytes : List UInt8} : IsNumber bytes → IsScalar bytes
  | text {body : List UInt8} : IsText body → IsScalar (0x22 :: (body ++ [0x22]))

/-- The byte that opens a container. -/
def Frame.opening : Frame → UInt8
  | .list => 0x5B
  | .object => 0x7B

/-- The parts that values are made of. -/
inductive Part where
  | value
  /-- An element of a list, or a member of an object, with
  the blanks around it. -/
  | item (frame : Frame)
  /-- Items with commas between them. -/
  | items (frame : Frame)

/-- The bytes are such a part of a document. -/
inductive IsPart : Part → List UInt8 → Prop
  | scalar {bytes : List UInt8} : IsScalar bytes → IsPart .value bytes
  | empty {frame : Frame} {blanks : List UInt8} :
      AreBlank blanks →
      IsPart .value (frame.opening :: (blanks ++ [frame.close]))
  | filled {frame : Frame} {items : List UInt8} :
      IsPart (.items frame) items →
      IsPart .value (frame.opening :: (items ++ [frame.close]))
  | element {before value after : List UInt8} :
      AreBlank before → IsPart .value value → AreBlank after →
      IsPart (.item .list) (before ++ (value ++ after))
  | member {before key between element : List UInt8} :
      AreBlank before → IsText key → AreBlank between →
      IsPart (.item .list) element →
      IsPart (.item .object)
        (before ++ 0x22 :: (key ++ 0x22 :: (between ++ 0x3A :: element)))
  | last {frame : Frame} {item : List UInt8} :
      IsPart (.item frame) item → IsPart (.items frame) item
  | more {frame : Frame} {item later : List UInt8} :
      IsPart (.item frame) item → IsPart (.items frame) later →
      IsPart (.items frame) (item ++ 0x2C :: later)

/-- All forms of all values. -/
def values : Set (List UInt8) := {bytes | IsPart .value bytes}

/-! ## Passing over what has no parts -/

/-- A value can start with this byte: it is no blank and ends no container. -/
def Starts (byte : UInt8) : Prop :=
  isBlank byte = false ∧ byte ≠ 0x5D ∧ byte ≠ 0x7D

instance : DecidablePred Starts :=
  fun _ => inferInstanceAs (Decidable (_ ∧ _ ∧ _))

theorem readLetters_append
    (letters rest : List UInt8) :
    readLetters letters (letters ++ rest) = .ok rest := by
  induction letters with
  | nil => cases rest <;> rfl
  | cons letter letters inductionHypothesis =>
      rw [List.cons_append, readLetters, if_pos rfl]
      exact inductionHypothesis

/-- The first byte of a value without parts, and what is done from there on. -/
structure SkippedFrom (byte : UInt8) (later : List UInt8) : Prop where
  starts : Starts byte
  ne_opening : byte ≠ 0x5B ∧ byte ≠ 0x7B
  skipScalar_eq {rest : List UInt8} :
    Closes rest → skipScalar byte (later ++ rest) = .ok rest

theorem IsDigit.skipScalar_eq
    {byte : UInt8}
    (isDigit : IsDigit byte)
    (rest : List UInt8) :
    skipScalar byte rest = skipUnsigned (byte :: rest) := by
  unfold skipScalar
  split
  case h_6 => rw [if_pos isDigit.isSome_digit?]
  all_goals exact absurd isDigit (by decide)

theorem IsNumber.exists_skippedFrom
    {bytes : List UInt8}
    (isNumber : IsNumber bytes) :
    ∃ byte later, bytes = byte :: later ∧ SkippedFrom byte later := by
  obtain ⟨sign, whole, fraction, exponent, isSign, isWhole, isFraction,
      isExponent, rfl⟩ := isNumber
  have skipped {rest : List UInt8} (closes : Closes rest) :=
    skipUnsigned_append isWhole isFraction isExponent closes
  obtain rfl | rfl := isSign
  · obtain ⟨⟨nonempty, areDigits⟩, -⟩ := isWhole
    obtain ⟨digit, digits, rfl⟩ := List.exists_cons_of_ne_nil nonempty
    have isDigit := areDigits digit List.mem_cons_self
    have visible := (visible_of_digit isDigit.digit?_eq).1
    refine ⟨digit, digits ++ (fraction ++ exponent), rfl,
      ⟨visible, isDigit.ne (by decide), isDigit.ne (by decide)⟩,
      ⟨isDigit.ne (by decide), isDigit.ne (by decide)⟩, fun closes => ?_⟩
    rw [isDigit.skipScalar_eq, List.append_assoc, List.append_assoc]
    exact skipped closes
  · refine ⟨0x2D, whole ++ (fraction ++ exponent), rfl, by decide, by decide,
      fun closes => ?_⟩
    rw [List.append_assoc, List.append_assoc]
    exact skipped closes

theorem IsScalar.exists_skippedFrom
    {bytes : List UInt8}
    (isScalar : IsScalar bytes) :
    ∃ byte later, bytes = byte :: later ∧ SkippedFrom byte later := by
  cases isScalar with
  | literal isName =>
      simp only [List.mem_cons, List.not_mem_nil, or_false] at isName
      obtain rfl | rfl | rfl := isName
      · exact ⟨0x6E, nullLetters, rfl, by decide, by decide, fun _ =>
          readLetters_append _ _⟩
      · exact ⟨0x74, trueLetters, rfl, by decide, by decide, fun _ =>
          readLetters_append _ _⟩
      · exact ⟨0x66, falseLetters, rfl, by decide, by decide, fun _ =>
          readLetters_append _ _⟩
  | number isNumber => exact isNumber.exists_skippedFrom
  | @text body isText =>
      refine ⟨0x22, body ++ [0x22], rfl, by decide, by decide,
        fun {rest} _ => ?_⟩
      rw [List.append_assoc]
      exact skipText_text isText rest

/-! ## Passing over containers -/

theorem skim_next_nil
    (rest : List UInt8) :
    skim .next [] rest = .ok rest := by
  rw [skim]

theorem skim_value_eq
    (frames : List Frame)
    (bytes : List UInt8) :
    skim .value frames bytes =
      match skipBlanks bytes with
      | [] => stopHere .endInValue []
      | 0x5B :: rest => skim .first (.list :: frames) rest
      | 0x7B :: rest => skim .first (.object :: frames) rest
      | byte :: rest => (skipScalar byte rest).bind (skim .next frames) := by
  rw [skim]
  split
  · next shape => rw [shape]
  · next shape =>
    rw [shape]
    rfl
  · next shape =>
    rw [shape]
    rfl
  · next byte rest notList notObject shape =>
    rw [shape]
    split
    · next stopped =>
      simp only [stopped]
      rfl
    · next after skipped =>
      simp only [skipped]
      cases frames with
      | nil => exact (skim_next_nil after).symm
      | cons frame frames => rfl

theorem skim_first_eq
    (frame : Frame)
    (frames : List Frame)
    (bytes : List UInt8) :
    skim .first (frame :: frames) bytes =
      match skipBlanks bytes with
      | [] => stopHere frame.atEnd []
      | byte :: rest =>
        if byte = frame.close then skim .next frames rest
        else skim frame.element (frame :: frames) (byte :: rest) := by
  rw [skim]
  split
  · next shape => rw [shape]
  · next byte rest shape =>
    rw [shape]
    cases frames with
    | nil => simp only [skim_next_nil]
    | cons next frames => rfl

theorem skim_next_eq
    (frame : Frame)
    (frames : List Frame)
    (bytes : List UInt8) :
    skim .next (frame :: frames) bytes =
      match skipBlanks bytes with
      | [] => stopHere frame.atEnd []
      | 0x2C :: rest => skim frame.element (frame :: frames) rest
      | byte :: rest =>
        if byte = frame.close then skim .next frames rest
        else stopAhead frame.afterElement (byte :: rest) := by
  rw [skim]
  split
  · next shape => rw [shape]
  · next shape =>
    rw [shape]
    rfl
  · next byte rest notComma shape =>
    rw [shape]
    cases frames with
    | nil => simp only [skim_next_nil]
    | cons next frames => simp only

theorem skim_member_eq
    (frames : List Frame)
    (bytes : List UInt8) :
    skim .member frames bytes = (skipKey bytes).bind (skim .value frames) := by
  rw [skim]
  split
  · next stopped =>
    rw [stopped]
    rfl
  · next skipped =>
    rw [skipped]
    rfl

theorem skipBlanks_skipBlanks
    (bytes : List UInt8) :
    skipBlanks (skipBlanks bytes) = skipBlanks bytes :=
  List.dropWhile_idempotent isBlank bytes

/-- Blanks before an element make no difference. -/
theorem skim_element_skipBlanks
    (frame : Frame)
    (frames : List Frame)
    (bytes : List UInt8) :
    skim frame.element frames (skipBlanks bytes) =
      skim frame.element frames bytes := by
  cases frame with
  | list =>
      rw [Frame.element, skim_value_eq, skim_value_eq, skipBlanks_skipBlanks]
  | object =>
      rw [Frame.element, skim_member_eq, skim_member_eq, skipKey, skipKey,
        skipBlanks_skipBlanks]

/-- An open container with nothing in it is passed over. -/
theorem skim_first_close
    {blanks : List UInt8}
    (areBlank : AreBlank blanks)
    (frame : Frame)
    (frames : List Frame)
    (rest : List UInt8) :
    skim .first (frame :: frames) (blanks ++ frame.close :: rest) =
      skim .next frames rest := by
  have visible : isBlank frame.close = false := by
    cases frame <;> rfl
  rw [skim_first_eq, skipBlanks_append areBlank, skipBlanks_cons visible]
  exact if_pos rfl

theorem skim_next_close
    {blanks : List UInt8}
    (areBlank : AreBlank blanks)
    (frame : Frame)
    (frames : List Frame)
    (rest : List UInt8) :
    skim .next (frame :: frames) (blanks ++ frame.close :: rest) =
      skim .next frames rest := by
  have visible : isBlank frame.close = false := by
    cases frame <;> rfl
  rw [skim_next_eq, skipBlanks_append areBlank, skipBlanks_cons visible]
  cases frame <;> rfl

theorem skim_next_blanks
    {blanks : List UInt8}
    (areBlank : AreBlank blanks)
    (frame : Frame)
    (frames : List Frame)
    (rest : List UInt8) :
    skim .next (frame :: frames) (blanks ++ rest) =
      skim .next (frame :: frames) rest := by
  rw [skim_next_eq, skim_next_eq, skipBlanks_append areBlank]

theorem skim_next_comma
    (frame : Frame)
    (frames : List Frame)
    (rest : List UInt8) :
    skim .next (frame :: frames) (0x2C :: rest) =
      skim frame.element (frame :: frames) rest := by
  rw [skim_next_eq, skipBlanks_cons rfl]
  rfl

/-- Behind blanks and the byte that opens a container, its
first item is looked for. -/
theorem skim_value_opening
    {blanks : List UInt8}
    (areBlank : AreBlank blanks)
    (frame : Frame)
    (frames : List Frame)
    (rest : List UInt8) :
    skim .value frames (blanks ++ frame.opening :: rest) =
      skim .first (frame :: frames) rest := by
  have visible : isBlank frame.opening = false := by
    cases frame <;> rfl
  rw [skim_value_eq, skipBlanks_append areBlank, skipBlanks_cons visible]
  cases frame <;> rfl

theorem skipKey_append
    {before key between : List UInt8}
    (areBefore : AreBlank before)
    (isText : IsText key)
    (areBetween : AreBlank between)
    (rest : List UInt8) :
    skipKey (before ++ 0x22 :: (key ++ 0x22 :: (between ++ 0x3A :: rest))) =
      .ok rest := by
  rw [skipKey, skipBlanks_append areBefore, skipBlanks_cons rfl]
  simp only [skipText_text isText, skipBlanks_append areBetween]
  rw [skipBlanks_cons rfl]
  rfl

/-- Every part starts with a visible byte that ends no container. -/
theorem IsPart.exists_starts
    {part : Part}
    {bytes : List UInt8}
    (isPart : IsPart part bytes) :
    ∃ blanks byte later, AreBlank blanks ∧ bytes = blanks ++ byte :: later ∧
      Starts byte := by
  have noBlank : AreBlank [] := List.forall_mem_nil _
  have opens (frame : Frame) : Starts frame.opening := by
    cases frame <;> decide
  induction isPart with
  | scalar isScalar =>
      obtain ⟨byte, later, rfl, skipped⟩ := isScalar.exists_skippedFrom
      exact ⟨[], byte, later, noBlank, rfl, skipped.starts⟩
  | @empty frame => exact ⟨[], _, _, noBlank, rfl, opens frame⟩
  | @filled frame => exact ⟨[], _, _, noBlank, rfl, opens frame⟩
  | @element before _ after areBlank _ _ inductionHypothesis =>
      obtain ⟨blanks, byte, later, areInner, rfl, starts⟩ := inductionHypothesis
      refine ⟨before ++ blanks, byte, later ++ after, ?_, by simp, starts⟩
      exact List.forall_mem_append.mpr ⟨areBlank, areInner⟩
  | member areBlank _ _ _ _ => exact ⟨_, _, _, areBlank, rfl, by decide⟩
  | last _ inductionHypothesis => exact inductionHypothesis
  | more _ _ inductionHypothesis _ =>
      obtain ⟨blanks, byte, later, areBlank, rfl, starts⟩ := inductionHypothesis
      exact ⟨blanks, byte, _, areBlank, List.append_assoc _ _ _, starts⟩

/-- A part is passed over inside any open containers: a value with blanks before
it, an item up to the comma or the end behind it, and items with the end of
their container. -/
def PassedOver : Part → List UInt8 → Prop
  | .value, bytes => ∀ blanks frames rest, AreBlank blanks → Closes rest →
      skim .value frames (blanks ++ (bytes ++ rest)) = skim .next frames rest
  | .item frame, bytes => ∀ innermost frames rest, Closes rest →
      skim frame.element (innermost :: frames) (bytes ++ rest) =
        skim .next (innermost :: frames) rest
  | .items frame, bytes => ∀ frames rest,
      skim frame.element (frame :: frames) (bytes ++ frame.close :: rest) =
        skim .next frames rest

theorem IsPart.passedOver
    {part : Part}
    {bytes : List UInt8}
    (isPart : IsPart part bytes) :
    PassedOver part bytes := by
  have noBlank : AreBlank [] := List.forall_mem_nil _
  have closesClose (frame : Frame) (rest : List UInt8) :
      Closes (frame.close :: rest) := by
    cases frame
    · exact .inr (.inr (.inl rfl))
    · exact .inr (.inr (.inr rfl))
  induction isPart with
  | scalar isScalar =>
      intro blanks frames rest areBlank closes
      obtain ⟨byte, later, rfl, starts, ⟨notList, notObject⟩, skipped⟩ :=
        isScalar.exists_skippedFrom
      rw [skim_value_eq, skipBlanks_append areBlank, List.cons_append,
        skipBlanks_cons starts.1]
      split
      · next shape => cases shape
      · next shape =>
        cases shape
        exact absurd rfl notList
      · next shape =>
        cases shape
        exact absurd rfl notObject
      · next shape =>
        cases shape
        rw [skipped closes]
        rfl
  | @empty frame inner areInner =>
      intro blanks frames rest areBlank _
      rw [List.cons_append, skim_value_opening areBlank, List.append_assoc]
      exact skim_first_close areInner frame frames rest
  | @filled frame items isItems inductionHypothesis =>
      intro blanks frames rest areBlank _
      obtain ⟨before, byte, later, areBefore, shape, starts⟩ :=
        isItems.exists_starts
      have notClose : byte ≠ frame.close := by
        cases frame
        · exact starts.2.1
        · exact starts.2.2
      have first : skipBlanks (items ++ frame.close :: rest) =
          byte :: (later ++ frame.close :: rest) := by
        rw [shape, List.append_assoc, skipBlanks_append areBefore,
          List.cons_append, skipBlanks_cons starts.1]
      -- the first item is looked for behind its blanks, so they are put back
      -- once it was found
      rw [List.cons_append, skim_value_opening areBlank, List.append_assoc,
        List.singleton_append, skim_first_eq, first]
      simp only [notClose, if_false]
      rw [← first, skim_element_skipBlanks, inductionHypothesis]
  | element areBefore _ areAfter inductionHypothesis =>
      intro innermost frames rest closes
      have closesAfter := closes_append areAfter closes
      rw [List.append_assoc, List.append_assoc, Frame.element,
        inductionHypothesis _ _ _ areBefore closesAfter,
        skim_next_blanks areAfter]
  | member areBefore isText areBetween _ inductionHypothesis =>
      intro innermost frames rest closes
      have skipped := inductionHypothesis innermost frames rest closes
      simp only [List.append_assoc, List.cons_append]
      rw [Frame.element, skim_member_eq,
        skipKey_append areBefore isText areBetween]
      exact skipped
  | @last frame item _ inductionHypothesis =>
      intro frames rest
      rw [inductionHypothesis frame frames _ (closesClose frame rest)]
      exact skim_next_close noBlank frame frames rest
  | @more frame item later _ _ skipsItem skipsLater =>
      intro frames rest
      have closesComma : Closes (0x2C :: (later ++ frame.close :: rest)) :=
        .inr (.inl rfl)
      rw [List.append_assoc, List.cons_append,
        skipsItem frame frames _ closesComma, skim_next_comma, skipsLater]

/-- A value is passed over with the blanks before it, whatever follows that may
follow a value. -/
theorem skipValue_append
    {blanks value rest : List UInt8}
    (areBlank : AreBlank blanks)
    (isValue : value ∈ values)
    (closes : Closes rest) :
    skipValue (blanks ++ (value ++ rest)) = .ok rest := by
  have passed := IsPart.passedOver isValue blanks [] rest areBlank closes
  rw [skipValue, passed, skim_next_nil]

end Json
end HandlePool
