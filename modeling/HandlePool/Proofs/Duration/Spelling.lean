import HandlePool.Proofs.Decimal
import HandlePool.Proofs.Duration.Amounts
import Mathlib.Algebra.BigOperators.Ring.List
import Mathlib.Algebra.Ring.Nat

/-!
# Spelled durations are read back

The parts of a duration, from years down to nanoseconds, last together as long
as the duration, and the reader finds the amount of each part as it was spelled.
So what is spelled is read back as the same duration, with no sum on the way
that cannot be counted.
-/

namespace HandlePool
namespace Spelling

/-! ## One part -/

theorem digit?_of_isDigit
    {character : Char}
    (isDigit : character.isDigit = true) :
    digit? character = some (character.toNat - '0'.toNat) := by
  obtain ⟨low, high⟩ := Decimal.toNat_of_isDigit isDigit
  have inRange : ('0' ≤ character && character ≤ '9') = true := by
    rw [Bool.and_eq_true, decide_eq_true_eq, decide_eq_true_eq]
    exact ⟨low, high⟩
  rw [digit?, if_pos inRange]
  rfl

/-- Digits of a number that 64 bits hold are taken in one after another. -/
theorem listFrom_whole_digits
    (digits rest : List Char)
    {value : Nat}
    (areDigits : ∀ digit ∈ digits, digit.isDigit = true)
    (fits : Nat.ofDigitChars 10 digits value < wordSize) :
    listFrom (.whole value) (digits ++ rest) =
      listFrom (.whole (Nat.ofDigitChars 10 digits value)) rest := by
  induction digits generalizing value with
  | nil => rfl
  | cons digit digits inductionHypothesis =>
      rw [Nat.ofDigitChars_cons, Nat.mul_comm] at fits ⊢
      have nextFits :=
        Nat.lt_of_le_of_lt (Decimal.le_ofDigitChars digits _) fits
      have isDigit := digit?_of_isDigit (areDigits digit List.mem_cons_self)
      rw [List.cons_append, listFrom]
      simp only [isDigit, nextFits, if_true]
      exact inductionHypothesis
        (fun digit present =>
          areDigits digit (List.mem_cons_of_mem _ present)) fits

/-- The first digit of a number begins a span. -/
theorem listFrom_between_digits
    (value : Nat)
    (rest : List Char)
    (spanRead : Bool)
    (fits : value < wordSize) :
    listFrom (.between spanRead) (Nat.toDigits 10 value ++ rest) =
      listFrom (.whole value) rest := by
  have read : Nat.ofDigitChars 10 (Nat.toDigits 10 value) 0 = value :=
    Nat.ofDigitChars_ten_toDigits
  have areDigits : ∀ digit ∈ Nat.toDigits 10 value, digit.isDigit = true :=
    fun _ => Decimal.isDigit_of_mem_toDigits
  obtain ⟨first, later, digits, -⟩ := Decimal.exists_toDigits_eq_cons value
  rw [digits] at read areDigits ⊢
  have isDigit := digit?_of_isDigit (areDigits first List.mem_cons_self)
  rw [Nat.ofDigitChars_cons, Nat.mul_zero, Nat.zero_add] at read
  rw [List.cons_append, listFrom]
  simp only [isDigit]
  rw [listFrom_whole_digits later rest
    (fun digit present => areDigits digit (List.mem_cons_of_mem _ present))
      (read ▸ fits), read]

/-- A character that is a unit letter and nothing else. -/
def IsLetter (character : Char) : Prop :=
  digit? character = none ∧ isBlank character = false ∧
  isUnitLetter character = true

instance : DecidablePred IsLetter :=
  fun _ => inferInstanceAs (Decidable (_ ∧ _ ∧ _))

/-- Nothing but letters. -/
def AreLetters (characters : List Char) : Prop :=
  ∀ letter ∈ characters, IsLetter letter

instance : DecidablePred AreLetters := List.decidableBAll IsLetter

/-- A unit reaches up to a blank or to the end of the text. -/
theorem listFrom_unit_letters
    (letters collected : List Char)
    (value : Nat)
    (areLetters : AreLetters letters) :
    listFrom (.unit value none collected) letters =
        spanListing value none (spelling (letters.reverse ++ collected)) ∧
      ∀ rest, listFrom (.unit value none collected) (letters ++ ' ' :: rest) =
        (spanListing value none
          (spelling (letters.reverse ++ collected))).followedBy
          (listFrom (.between true) rest) := by
  induction letters generalizing collected with
  | nil => exact ⟨rfl, fun _ => rfl⟩
  | cons letter letters inductionHypothesis =>
      obtain ⟨notDigit, notBlank, isUnitLetter⟩ :=
        areLetters letter List.mem_cons_self
      obtain ⟨atEnd, atBlank⟩ := inductionHypothesis (letter :: collected)
        fun letter present => areLetters letter (List.mem_cons_of_mem _ present)
      rw [List.reverse_cons, List.append_assoc, List.singleton_append]
      constructor
      · rw [listFrom]
        simp only [notDigit, notBlank, isUnitLetter, Bool.false_eq_true,
          if_false, if_true]
        exact atEnd
      · intro rest
        rw [List.cons_append, listFrom]
        simp only [notDigit, notBlank, isUnitLetter, Bool.false_eq_true,
          if_false, if_true]
        exact atBlank rest

/-- Every unit is spelled with letters, and lasts some time. -/
theorem isLetter_of_unit?
    {text : String}
    {timeUnit : TimeUnit}
    (isUnit : unit? text = some timeUnit) :
    text.toList ≠ [] ∧ AreLetters text.toList ∧ 0 < timeUnit.scale := by
  have rows : ∀ row ∈ units, 0 < row.2.scale ∧
      ∀ text ∈ row.1, text.toList ≠ [] ∧ AreLetters text.toList := by
    decide
  obtain ⟨row, found, rfl⟩ := Option.map_eq_some_iff.mp isUnit
  obtain ⟨scale, spellings⟩ := rows row (List.mem_of_find?_eq_some found)
  obtain ⟨nonempty, letters⟩ :=
    spellings text (by simpa using List.find?_some found)
  exact ⟨nonempty, letters, scale⟩

/-- What a part of a duration asks for. -/
def amountOf (part : Nat × String) : Amount :=
  match unit? part.2 with
  | none => ⟨false, 0⟩
  | some timeUnit => ⟨timeUnit.inSeconds, part.1 * timeUnit.scale⟩

/-- The unit of a part exists, and its amount can be counted. -/
def IsRegular (part : Nat × String) : Prop :=
  (unit? part.2).isSome ∧ (amountOf part).count < wordSize

/-- The characters of a part. -/
def partText (part : Nat × String) : List Char :=
  Nat.toDigits 10 part.1 ++ part.2.toList

/-- A part is read as its amount. -/
theorem listFrom_part
    {part : Nat × String}
    (regular : IsRegular part)
    (spanRead : Bool) :
    listFrom (.between spanRead) (partText part) = ⟨[amountOf part], true⟩ ∧
      ∀ rest, listFrom (.between spanRead) (partText part ++ ' ' :: rest) =
        Listing.followedBy ⟨[amountOf part], true⟩
          (listFrom (.between true) rest) := by
  obtain ⟨count, text⟩ := part
  obtain ⟨isSome, fits⟩ := regular
  obtain ⟨timeUnit, isUnit⟩ := Option.isSome_iff_exists.mp isSome
  obtain ⟨nonempty, areLetters, positive⟩ := isLetter_of_unit? isUnit
  have amount : amountOf (count, text) =
      ⟨timeUnit.inSeconds, count * timeUnit.scale⟩ := by
    simp only [amountOf, isUnit]
  rw [amount] at fits ⊢
  have countFits : count < wordSize :=
    Nat.lt_of_le_of_lt (Nat.le_mul_of_pos_right _ positive) fits
  have listed :
      spanListing count none text =
        ⟨[⟨timeUnit.inSeconds, count * timeUnit.scale⟩], true⟩ := by
    simp only [spanListing, isUnit, fits, if_true, Listing.followedBy,
      List.append_nil]
  obtain ⟨first, later, letters⟩ := List.exists_cons_of_ne_nil nonempty
  obtain ⟨notDigit, notBlank, isUnitLetter⟩ :=
    areLetters first (letters ▸ List.mem_cons_self)
  obtain ⟨atEnd, atBlank⟩ := listFrom_unit_letters later [first] count
    fun letter present =>
      areLetters letter (letters ▸ List.mem_cons_of_mem _ present)
  have whole : spelling (later.reverse ++ [first]) = text := by
    rw [spelling, List.reverse_append, List.reverse_reverse,
      List.reverse_singleton,
      List.singleton_append, ← letters, String.ofList_toList]
  rw [whole, listed] at atEnd atBlank
  constructor
  · rw [partText, listFrom_between_digits count _ spanRead countFits,
      letters, listFrom]
    simp only [notDigit, notBlank, isUnitLetter, Bool.false_eq_true,
      if_false, if_true]
    exact atEnd
  · intro rest
    rw [partText, List.append_assoc,
      listFrom_between_digits count _ spanRead countFits, letters,
      List.cons_append, listFrom]
    simp only [notDigit, notBlank, isUnitLetter, Bool.false_eq_true,
      if_false, if_true]
    exact atBlank rest

/-- Parts with blanks between them are read as their amounts. -/
theorem listFrom_parts
    {parts : List (Nat × String)}
    (nonempty : parts ≠ [])
    (regular : ∀ part ∈ parts, IsRegular part)
    (spanRead : Bool) :
    listFrom (.between spanRead) ([' '].intercalate (parts.map partText)) =
      ⟨parts.map amountOf, true⟩ := by
  induction parts generalizing spanRead with
  | nil => exact absurd rfl nonempty
  | cons part parts inductionHypothesis =>
      obtain ⟨atEnd, atBlank⟩ :=
        listFrom_part (regular part List.mem_cons_self) spanRead
      cases parts with
      | nil =>
          rw [List.map_singleton, List.intercalate_singleton]
          exact atEnd
      | cons next parts =>
          have later := inductionHypothesis (List.cons_ne_nil _ _)
            (fun part present =>
              regular part (List.mem_cons_of_mem _ present)) true
          rw [List.map_cons] at later ⊢
          rw [List.map_cons, List.intercalate_cons_cons, List.append_assoc,
            List.singleton_append, atBlank, later]
          rfl

/-! ## The parts of a duration -/

/-- A part is an amount of some unit that can be counted, and below one second
if it counts nanoseconds. -/
def AsksFor (part : Nat × String) (amount : Amount) : Prop :=
  IsRegular part ∧ amountOf part = amount ∧
    (amount.inSeconds = false → amount.count < nanosPerSecond)

theorem asksFor
    {text : String}
    {timeUnit : TimeUnit}
    (isUnit : unit? text = some timeUnit)
    {count : Nat}
    (bound : count * timeUnit.scale < if timeUnit.inSeconds then wordSize
      else nanosPerSecond) :
    AsksFor (count, text) ⟨timeUnit.inSeconds, count * timeUnit.scale⟩ := by
  have amount : amountOf (count, text) =
      ⟨timeUnit.inSeconds, count * timeUnit.scale⟩ := by
    simp only [amountOf, isUnit]
  have fullSmall : nanosPerSecond < wordSize := by decide
  refine ⟨⟨isUnit ▸ rfl, ?_⟩, amount, fun inNanos => ?_⟩
  · rw [amount]
    split at bound
    · exact bound
    · exact Nat.lt_trans bound fullSmall
  · rwa [if_neg (ne_true_of_eq_false inNanos)] at bound

theorem sum_nanos
    (inSeconds inNanos : List Nat) :
    (((inSeconds.map (⟨true, ·⟩) ++ inNanos.map (⟨false, ·⟩) : List Amount)).map
      Amount.nanos).sum = inSeconds.sum * nanosPerSecond + inNanos.sum := by
  have seconds : Amount.nanos ∘ (⟨true, ·⟩) = (· * nanosPerSecond) :=
    funext Amount.nanos_of_seconds
  have nanos : Amount.nanos ∘ (⟨false, ·⟩) = id := funext Amount.nanos_of_nanos
  have scaled : (inSeconds.map (· * nanosPerSecond)).sum =
      inSeconds.sum * nanosPerSecond :=
    (List.sum_map_mul_right inSeconds id nanosPerSecond).trans
      (by rw [List.map_id])
  rw [List.map_append, List.map_map, List.map_map, seconds, nanos, List.map_id,
    List.sum_append, scaled]

theorem sum_whole
    (seconds : Nat) :
    [seconds / Duration.yearSeconds * Duration.yearSeconds,
      seconds % Duration.yearSeconds / Duration.monthSeconds *
        Duration.monthSeconds,
      seconds % Duration.yearSeconds % Duration.monthSeconds /
        Duration.daySeconds * Duration.daySeconds,
      seconds % Duration.yearSeconds % Duration.monthSeconds %
        Duration.daySeconds / 3600 * 3600,
      seconds % Duration.yearSeconds % Duration.monthSeconds %
        Duration.daySeconds % 3600 / 60 * 60,
      seconds % Duration.yearSeconds % Duration.monthSeconds %
        Duration.daySeconds % 60 * 1].sum =
      seconds := by
  rw [List.sum_cons, List.sum_cons, List.sum_cons, List.sum_cons, List.sum_cons,
    List.sum_cons, List.sum_nil]
  unfold Duration.yearSeconds Duration.monthSeconds Duration.daySeconds
  omega

theorem sum_below
    (nanos : Nat) :
    [nanos / 1000000 * 1000000, nanos / 1000 % 1000 * 1000,
      nanos % 1000 * 1].sum = nanos := by
  simp only [List.sum_cons, List.sum_nil]
  omega

/-- The parts of a duration last together as long as it. -/
theorem forall₂_parts
    (duration : Duration) :
    ∃ amounts, List.Forall₂ AsksFor duration.parts amounts ∧
      (amounts.map Amount.nanos).sum = duration.totalNanos := by
  have years (count : Nat) :
      unit? (if 1 < count then "year" ++ "s" else "year") =
      some (long Duration.yearSeconds) := by split <;> decide
  have months (count : Nat) :
      unit? (if 1 < count then "month" ++ "s" else "month") =
      some (long Duration.monthSeconds) := by split <;> decide
  have days (count : Nat) : unit? (if 1 < count then "day" ++ "s" else "day") =
      some (long Duration.daySeconds) := by split <;> decide
  have hours : unit? "h" = some (long 3600) := by decide
  have minutes : unit? "m" = some (medium 60) := by decide
  have wholeSeconds : unit? "s" = some (medium 1) := by decide
  have millis : unit? "ms" = some (short 1000000) := by decide
  have micros : unit? "us" = some (short 1000) := by decide
  have single : unit? "ns" = some ⟨false, 1, none⟩ := by decide
  unfold Duration.parts
  dsimp only
  refine ⟨_, .cons (asksFor (years _) ?_) <| .cons (asksFor (months _) ?_) <|
    .cons (asksFor (days _) ?_) <| .cons (asksFor hours ?_) <|
    .cons (asksFor minutes ?_) <|
    .cons (asksFor wholeSeconds ?_) <| .cons (asksFor millis ?_) <|
    .cons (asksFor micros ?_) <|
    .cons (asksFor single ?_) .nil,
    (sum_nanos [_, _, _, _, _, _] [_, _, _]).trans ?_⟩
  case refine_10 =>
    exact congrArg₂ (· * nanosPerSecond + ·) (sum_whole duration.seconds.toNat)
      (sum_below duration.nanos)
  all_goals
    have bound : duration.seconds.toNat < UInt64.size :=
      duration.seconds.toNat_lt
    have small := duration.nanos_lt
    generalize duration.seconds.toNat = seconds at bound
    generalize duration.nanos = nanos at small
    simp only [long, medium, short, if_true, Bool.false_eq_true, if_false,
      wordSize, UInt64.size,
      nanosPerSecond, Duration.yearSeconds, Duration.monthSeconds,
      Duration.daySeconds] at *
    omega

theorem eq_map_of_asked
    {parts : List (Nat × String)}
    {amounts : List Amount}
    (asked : List.Forall₂ AsksFor parts amounts) :
    amounts = parts.map amountOf ∧ ∀ part ∈ parts,
    AsksFor part (amountOf part) := by
  induction asked with
  | nil => exact ⟨rfl, fun _ absent => (nomatch absent)⟩
  | cons head _ inductionHypothesis =>
      obtain ⟨rfl, later⟩ := inductionHypothesis
      obtain ⟨regular, rfl, below⟩ := head
      exact ⟨rfl, List.forall_mem_cons.mpr ⟨⟨regular, rfl, below⟩, later⟩⟩

theorem asks_of_mem_parts
    {duration : Duration}
    {part : Nat × String}
    (present : part ∈ duration.parts) :
    AsksFor part (amountOf part) := by
  obtain ⟨amounts, asked, -⟩ := forall₂_parts duration
  exact (eq_map_of_asked asked).2 part present

theorem sum_parts
    (duration : Duration) :
    ((duration.parts.map amountOf).map Amount.nanos).sum =
      duration.totalNanos := by
  obtain ⟨amounts, asked, total⟩ := forall₂_parts duration
  obtain ⟨rfl, -⟩ := eq_map_of_asked asked
  exact total

/-- Parts that are zero add nothing. -/
theorem sum_filter_parts
    (parts : List (Nat × String)) :
    (((parts.filter fun part => part.1 ≠ 0).map amountOf).map
      Amount.nanos).sum = ((parts.map amountOf).map Amount.nanos).sum := by
  induction parts with
  | nil => rfl
  | cons part parts inductionHypothesis =>
      rw [List.map_cons, List.map_cons, List.sum_cons, ← inductionHypothesis]
      by_cases isZero : part.1 = 0
      · have nothing : (amountOf part).nanos = 0 := by
          simp only [amountOf, isZero, Nat.zero_mul, Amount.nanos]
          split <;> simp
        rw [List.filter_cons_of_neg (by simpa using isZero),
          nothing, Nat.zero_add]
      · rw [List.filter_cons_of_pos (by simpa using isZero), List.map_cons,
          List.map_cons, List.sum_cons]

/-! ## Whole durations -/

theorem toList_spell
    {duration : Duration}
    (lasting : duration.isZero = false) :
    duration.spell.toList =
      [' '].intercalate
        ((duration.parts.filter fun part => part.1 ≠ 0).map partText) := by
  rw [Duration.spell, if_neg (ne_true_of_eq_false lasting),
    String.toList_intercalate, List.map_map]
  congr 1
  apply List.map_congr_left
  intro part _
  rw [Function.comp_apply, String.toList_append, Nat.toString_eq_repr,
    Nat.toList_repr, partText]

/-- What is spelled is read back. -/
theorem read_spell
    (duration : Duration) :
    read duration.spell = .ok duration := by
  cases lasting : duration.isZero with
  | true =>
      rw [Duration.spell, if_pos lasting, Duration.isZero_iff.mp lasting]
      decide
  | false =>
      have total := (sum_filter_parts duration.parts).trans (sum_parts duration)
      have asks : ∀ part ∈ duration.parts.filter fun part => part.1 ≠ 0,
          AsksFor part (amountOf part) :=
        fun part present => asks_of_mem_parts (List.mem_of_mem_filter present)
      have text := toList_spell lasting
      generalize (duration.parts.filter fun part => part.1 ≠ 0) =
        parts at total asks text
      have nonempty : parts ≠ [] := by
        rintro rfl
        have isZero : duration = .zero :=
          Duration.eq_of_totalNanos_eq total.symm
        rw [isZero] at lasting
        cases lasting
      have listed :=
        listFrom_parts nonempty
          (fun part present => (asks part present).1) false
      rw [← text] at listed
      have below : ∀ amount ∈ parts.map amountOf,
          amount.inSeconds = false → amount.count < nanosPerSecond :=
        List.forall_mem_map.mpr fun part present => (asks part present).2.2
      have added : addAll .zero (parts.map amountOf) = .ok duration :=
        addAll_eq_ok below (total.symm.trans (Nat.zero_add _).symm)
      have unlike : duration.spell ≠ "0" := by
        intro same
        have incomplete : (listFrom (.between false) "0".toList).wellFormed =
            false := by decide
        rw [← same, listed] at incomplete
        cases incomplete
      rw [read, if_neg unlike, readFrom_eq, listed, Listing.sum, added]
      rfl

end Spelling
end HandlePool
