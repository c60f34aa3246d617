import HandlePool.Json.Record
import HandlePool.Proofs.Duration.Amounts
import HandlePool.Proofs.Outcome
import Mathlib.Tactic.SplitIfs

/-!
# Readers move on

What reads the parts of a document either finds a problem or goes on
behind what it has read.  It never stops outright and puts no byte back,
with the one exception of a spelled duration, which stops outright where
the duration overruns.
-/

namespace HandlePool
namespace Json

/-! ## Moving on -/

/-- What is left is at most so long, unless a problem was found; reading
did not stop outright. -/
def MovesOn {α : Type} (bound : Nat) (size : α → Nat) : Except Stop α → Prop
  | .ok value => size value ≤ bound
  | .error (.fault _ _) => True
  | .error (.aborted _) => False

/-- The number of bytes behind a value. -/
def left {α : Type} (result : α × List UInt8) : Nat := result.2.length

namespace MovesOn

variable {α β : Type} {bound limit : Nat} {size : α → Nat} {later : β → Nat}

theorem stopHere
    (problem : Problem)
    (rest : List UInt8) :
    MovesOn bound size (Json.stopHere problem rest) := trivial

theorem mono
    {outcome : Except Stop α}
    (movesOn : MovesOn bound size outcome)
    (within : bound ≤ limit) :
    MovesOn limit size outcome := by
  cases outcome with
  | ok value => exact Nat.le_trans movesOn within
  | error stop => cases stop <;> exact movesOn

theorem bind
    {outcome : Except Stop α}
    {next : α → Except Stop β}
    (movesOn : MovesOn bound size outcome)
    (followed : ∀ value, size value ≤ bound →
      MovesOn limit later (next value)) :
    MovesOn limit later (outcome >>= next) := by
  cases outcome with
  | ok value => exact followed value movesOn
  | error stop => cases stop <;> exact movesOn

theorem map
    {outcome : Except Stop α}
    {function : α → β}
    (movesOn : MovesOn bound size outcome)
    (kept : ∀ value, size value ≤ bound → later (function value) ≤ limit) :
    MovesOn limit later (outcome.map function) := by
  cases outcome with
  | ok value => exact kept value movesOn
  | error stop => cases stop <;> exact movesOn

theorem ne_aborted
    {outcome : Except Stop α}
    (movesOn : MovesOn bound size outcome)
    (reason : Abort) :
    outcome ≠ .error (.aborted reason) := by
  rintro rfl
  exact movesOn

theorem length_le
    {α : Type}
    {reader : Reader α}
    (movesOn : ∀ rest, MovesOn rest.length left (reader rest))
    {value : α}
    {rest after : List UInt8}
    (read : reader rest = .ok (value, after)) :
    after.length ≤ rest.length := by
  have within := movesOn rest
  rwa [read] at within

end MovesOn

/-! ## Texts -/

theorem length_lt_of_skipBlanks
    {bytes rest : List UInt8}
    {byte : UInt8}
    (shape : skipBlanks bytes = byte :: rest) :
    rest.length < bytes.length := by
  have blanks := length_skipBlanks_le bytes
  rw [shape] at blanks
  exact blanks

theorem readLetters_movesOn
    (letters rest : List UInt8) :
    MovesOn rest.length List.length (readLetters letters rest) := by
  cases read : readLetters letters rest with
  | ok after => exact length_le_of_readLetters read
  | error stop =>
      fun_induction readLetters letters rest with
      | case1 => cases read
      | case2 => cases read; trivial
      | case3 letters byte rest inductionHypothesis =>
          exact (inductionHypothesis read).mono (Nat.le_succ _)
      | case4 => cases read; trivial

theorem MovesOn.withCodePoint
    {bound limit value : Nat}
    {outcome : Except Stop (List UInt8 × List UInt8)}
    (movesOn : MovesOn bound left outcome)
    (within : bound ≤ limit) :
    MovesOn limit left (Json.withCodePoint value outcome) :=
  movesOn.map fun _ short => Nat.le_trans short within

theorem readText_movesOn
    (rest : List UInt8) :
    MovesOn rest.length left (readText rest) := by
  fun_induction readText rest with
  | case2 rest => exact Nat.le_succ rest.length
  | case9 _ _ _ _ _ _ _ _ _ _ _ _ rest _ _ _ inductionHypothesis =>
      exact inductionHypothesis.withCodePoint
        (by simp only [List.length_cons]; omega)
  | case14 _ _ _ _ rest _ _ _ _ inductionHypothesis =>
      exact inductionHypothesis.withCodePoint
        (by simp only [List.length_cons]; omega)
  | case16 _ rest _ _ _ _ inductionHypothesis =>
      exact inductionHypothesis.map fun _ short => Nat.le_trans short
        (by simp only [List.length_cons]; omega)
  | case19 _ rest _ _ _ _ _ _ inductionHypothesis =>
      exact inductionHypothesis.map fun _ short => Nat.le_succ_of_le short
  | _ => trivial

/-! ## Numbers -/

theorem length_gather_le
    (limit value : Nat)
    (rest : List UInt8) :
    (gather limit value rest).2.length ≤ rest.length := by
  induction rest generalizing value with
  | nil => exact Nat.le_refl 0
  | cons byte rest inductionHypothesis =>
      rw [gather]
      split
      · exact Nat.le_refl _
      · split
        · exact Nat.le_succ_of_le (inductionHypothesis _)
        · exact Nat.le_refl _

theorem realOfParts_movesOn
    (isPositive : Bool)
    (significand : Nat)
    (exponent : Int)
    (rest : List UInt8) :
    MovesOn rest.length left
      (realOfParts isPositive significand exponent rest) := by
  unfold realOfParts
  split
  · trivial
  · exact Nat.le_refl rest.length

theorem readExponent_movesOn
    (isPositive : Bool)
    (significand : Nat)
    (start : Int)
    (rest : List UInt8) :
    MovesOn rest.length left
      (readExponent isPositive significand start rest) := by
  unfold readExponent
  split
  next isRaising unsigned shape =>
    have signSkipped : unsigned.length ≤ rest.length := by
      split at shape <;> cases shape
      · exact Nat.le_succ _
      · exact Nat.le_succ _
      · exact Nat.le_refl _
    split
    · trivial
    · next byte later =>
      split
      · trivial
      · next digit _ =>
        have gathered := length_gather_le exponentLimit digit later
        have skipped :=
          length_skipDigits_le (gather exponentLimit digit later).2
        rw [List.length_cons] at signSkipped
        dsimp only
        split
        · split
          · trivial
          · exact Nat.le_trans skipped (by omega)
        · exact (realOfParts_movesOn _ _ _ _).mono (by omega)

theorem readExponent?_movesOn
    (isPositive : Bool)
    (significand : Nat)
    (start : Int)
    (rest : List UInt8) :
    MovesOn rest.length left
      (readExponent? isPositive significand start rest) := by
  unfold readExponent?
  split
  · exact (readExponent_movesOn _ _ _ _).mono (Nat.le_succ _)
  · exact (readExponent_movesOn _ _ _ _).mono (Nat.le_succ _)
  · exact realOfParts_movesOn _ _ _ _

theorem readFraction_movesOn
    (isPositive : Bool)
    (significand : Nat)
    (start : Int)
    (rest : List UInt8) :
    MovesOn rest.length left
      (readFraction isPositive significand start rest) := by
  have gathered := length_gather_le wordSize significand rest
  unfold readFraction
  dsimp only
  split
  · have skipped := length_skipDigits_le (gather wordSize significand rest).2
    exact (readExponent?_movesOn _ _ _ _).mono (Nat.le_trans skipped gathered)
  · split
    · split <;> trivial
    · exact (readExponent?_movesOn _ _ _ _).mono gathered

theorem readAfterWhole_movesOn
    (isPositive : Bool)
    (significand : Nat)
    (rest : List UInt8) :
    MovesOn rest.length left (readAfterWhole isPositive significand rest) := by
  unfold readAfterWhole
  split
  · exact (readFraction_movesOn _ _ _ _).mono (Nat.le_succ _)
  · exact (readExponent_movesOn _ _ _ _).mono (Nat.le_succ _)
  · exact (readExponent_movesOn _ _ _ _).mono (Nat.le_succ _)
  · exact Nat.le_refl rest.length

theorem readUnsigned_movesOn
    (isPositive : Bool)
    (rest : List UInt8) :
    MovesOn rest.length left (readUnsigned isPositive rest) := by
  unfold readUnsigned
  split
  · trivial
  · next byte rest =>
    split
    · trivial
    · split
      · trivial
      · exact (readAfterWhole_movesOn _ _ _).mono (Nat.le_succ _)
    · next digit _ _ =>
      have gathered := length_gather_le wordSize digit rest
      have skipped := length_skipDigits_le (gather wordSize digit rest).2
      dsimp only
      split
      · split
        · next after shape =>
          rw [shape, List.length_cons] at skipped
          exact (readFraction_movesOn _ _ _ _).mono
            (by simp only [List.length_cons]; omega)
        · exact (readExponent?_movesOn _ _ _ _).mono
            (by simp only [List.length_cons]; omega)
      · exact (readAfterWhole_movesOn _ _ _).mono (Nat.le_succ_of_le gathered)

theorem readNumber_movesOn
    (rest : List UInt8) :
    MovesOn rest.length left (readNumber rest) := by
  unfold readNumber
  split
  · exact (readUnsigned_movesOn _ _).mono (Nat.le_succ _)
  · exact readUnsigned_movesOn _ _

/-! ## Single values -/

theorem readUnexpected_movesOn
    {α : Type}
    (expected : String)
    (rest : List UInt8) :
    MovesOn rest.length (left : α × List UInt8 → Nat)
      (readUnexpected expected rest) := by
  unfold readUnexpected
  dsimp only
  split
  · trivial
  · exact (readLetters_movesOn _ _).bind fun _ _ => .stopHere _ _
  · exact (readLetters_movesOn _ _).bind fun _ _ => .stopHere _ _
  · exact (readLetters_movesOn _ _).bind fun _ _ => .stopHere _ _
  · exact (readText_movesOn _).bind fun _ _ => .stopHere _ _
  · trivial
  · trivial
  · split
    · exact (readNumber_movesOn _).bind fun _ _ => .stopHere _ _
    · trivial

theorem readCount_movesOn
    (rest : List UInt8) :
    MovesOn rest.length left (readCount rest) := by
  have blanks := length_skipBlanks_le rest
  unfold readCount
  split
  · trivial
  · next byte later shape =>
    rw [shape] at blanks
    split
    · refine (readNumber_movesOn _).bind fun result within => ?_
      obtain ⟨number, after⟩ := result
      cases number with
      | natural value => exact Nat.le_trans within blanks
      | negative value => trivial
      | real bits => trivial
    · exact (readUnexpected_movesOn _ _).mono blanks

theorem readNothing_movesOn
    (rest : List UInt8) :
    MovesOn rest.length left (readNothing rest) := by
  have blanks := length_skipBlanks_le rest
  unfold readNothing
  split
  · trivial
  · next later shape =>
    rw [shape] at blanks
    exact (readLetters_movesOn _ _).bind fun _ within =>
      Nat.le_trans (Nat.le_succ_of_le within) blanks
  · exact (readUnexpected_movesOn _ _).mono blanks

/-- A key is taken off with at least its quote. -/
theorem nextKey_movesOn
    (isFirst : Bool)
    (rest : List UInt8) :
    MovesOn rest.length (fun result => left result + 1)
      (nextKey isFirst rest) := by
  have blanks := length_skipBlanks_le rest
  unfold nextKey
  split
  · trivial
  · next later shape =>
    rw [shape] at blanks
    exact blanks
  · next later shape =>
    have innerBlanks := length_skipBlanks_le later
    rw [shape, List.length_cons] at blanks
    split
    · trivial
    · split
      · trivial
      · next quoted inner =>
        rw [inner, List.length_cons] at innerBlanks
        exact (readText_movesOn quoted).map fun _ short => by
          simp only [left] at short ⊢
          omega
      · trivial
      · trivial
  · next quoted shape =>
    rw [shape, List.length_cons] at blanks
    split
    · exact (readText_movesOn quoted).map fun _ short => by
        simp only [left] at short ⊢
        omega
    · trivial
  · trivial

theorem readColon_movesOn
    (rest : List UInt8) :
    MovesOn rest.length List.length (readColon rest) := by
  have blanks := length_skipBlanks_le rest
  unfold readColon
  split
  · trivial
  · next later shape =>
    rw [shape] at blanks
    exact Nat.le_of_succ_le blanks
  · trivial

theorem choose_movesOn
    {α : Type}
    (choices : Choices α)
    (name rest : List UInt8) :
    MovesOn 0 (fun _ => 0) (choose choices name rest) := by
  unfold choose
  split
  · exact Nat.le_refl 0
  · trivial

theorem readChoice_movesOn
    {α : Type}
    (choices : Choices α)
    (rest : List UInt8) :
    MovesOn rest.length left (readChoice choices rest) := by
  have blanks := length_skipBlanks_le rest
  unfold readChoice
  split
  · trivial
  · next quoted shape =>
    rw [shape, List.length_cons] at blanks
    refine (readText_movesOn quoted).bind fun result within => ?_
    exact (choose_movesOn _ _ _).bind fun _ _ =>
      Nat.le_trans within (Nat.le_of_succ_le blanks)
  · next inside shape =>
    rw [shape, List.length_cons] at blanks
    refine (nextKey_movesOn true inside).bind fun result within => ?_
    obtain ⟨key?, afterKey⟩ := result
    cases key? with
    | none => trivial
    | some name =>
        refine (choose_movesOn _ _ _).bind fun _ _ => ?_
        refine (readColon_movesOn afterKey).bind fun afterColon
          colonWithin => ?_
        refine (readNothing_movesOn afterColon).bind fun result
          nothingWithin => ?_
        obtain ⟨_, afterNothing⟩ := result
        simp only [left] at within nothingWithin
        dsimp only
        split
        · trivial
        · next after shape =>
          have lastBlanks := length_lt_of_skipBlanks shape
          show after.length ≤ rest.length
          omega
        · trivial
  · trivial

/-! ## Durations -/

/-- A quoted text is the next value. -/
def QuotedAt (rest : List UInt8) (text : String) : Prop :=
  ∃ quoted bytes after,
    skipBlanks rest = 0x22 :: quoted ∧ readText quoted = .ok (bytes, after) ∧
    asText bytes = text

/-- Reading a duration stops outright exactly on quoted texts that overrun. -/
theorem readDuration_eq_aborted_iff
    {rest : List UInt8}
    {reason : Abort} :
    readDuration rest = .error (.aborted reason) ↔
      reason = .durationOverflow ∧ ∃ text, QuotedAt rest text ∧
      Spelling.Overruns text := by
  constructor
  · intro aborted
    unfold readDuration at aborted
    split at aborted
    · cases aborted
    · next quoted shape =>
      rw [bind_eq_error_iff] at aborted
      obtain aborted | ⟨⟨bytes, after⟩, read, aborted⟩ := aborted
      · exact absurd aborted ((readText_movesOn quoted).ne_aborted reason)
      dsimp only at aborted
      split at aborted
      · cases aborted
      · cases aborted
      · next found stopped =>
        cases aborted
        obtain ⟨sameReason, overruns⟩ := Spelling.read_eq_aborted_iff.mp stopped
        exact ⟨sameReason, _,
          ⟨quoted, bytes, after, shape, read, rfl⟩, overruns⟩
    · exact absurd aborted ((readUnexpected_movesOn _ _).ne_aborted reason)
  · rintro ⟨sameReason, text,
      ⟨quoted, bytes, after, shape, read, rfl⟩, overruns⟩
    have stopped := Spelling.read_eq_aborted_iff.mpr ⟨sameReason, overruns⟩
    rw [readDuration, shape]
    simp only [read, bind, Except.bind, stopped]

theorem length_le_of_readDuration
    {duration : Duration}
    {rest after : List UInt8}
    (read : readDuration rest = .ok (duration, after)) :
    after.length ≤ rest.length := by
  unfold readDuration at read
  split at read
  · cases read
  · next quoted shape =>
    have opened := length_lt_of_skipBlanks shape
    have text := readText_movesOn quoted
    rw [bind_eq_ok_iff] at read
    obtain ⟨⟨bytes, rest⟩, textRead, read⟩ := read
    rw [textRead] at text
    dsimp only at read
    split at read
    · cases read
      exact Nat.le_trans text (Nat.le_of_lt opened)
    · cases read
    · cases read
  · next later _ _ =>
    have refused :=
      readUnexpected_movesOn (α := Duration) "a duration" (skipBlanks rest)
    rw [read] at refused
    exact Nat.le_trans refused (length_skipBlanks_le rest)

/-! ## Values that are passed over -/

theorem skipText_movesOn
    (rest : List UInt8) :
    MovesOn rest.length List.length (skipText rest) := by
  fun_induction skipText rest with
  | case2 rest => exact Nat.le_succ rest.length
  | case5 _ _ _ _ rest _ _ inductionHypothesis =>
      exact inductionHypothesis.mono (by simp only [List.length_cons]; omega)
  | case7 _ rest _ _ _ _ inductionHypothesis =>
      exact inductionHypothesis.mono (by simp only [List.length_cons]; omega)
  | case10 _ rest _ _ _ _ _ _ inductionHypothesis =>
      exact inductionHypothesis.mono (Nat.le_succ _)
  | _ => trivial

theorem skipExponent_movesOn
    (rest : List UInt8) :
    MovesOn rest.length List.length (skipExponent rest) := by
  have sign := length_skipSign_le rest
  unfold skipExponent
  split
  · trivial
  · next byte later shape =>
    rw [shape, List.length_cons] at sign
    split
    · exact Nat.le_trans (length_skipDigits_le later) (Nat.le_of_succ_le sign)
    · trivial

theorem skipAfterWhole_movesOn
    (rest : List UInt8) :
    MovesOn rest.length List.length (skipAfterWhole rest) := by
  unfold skipAfterWhole
  split
  · next later =>
    have digits := length_skipDigits_le later
    split
    · split
      · next after shape =>
        rw [shape, List.length_cons] at digits
        exact (skipExponent_movesOn after).mono
          (by simp only [List.length_cons]; omega)
      · next after shape =>
        rw [shape, List.length_cons] at digits
        exact (skipExponent_movesOn after).mono
          (by simp only [List.length_cons]; omega)
      · exact Nat.le_succ_of_le digits
    · trivial
  · exact (skipExponent_movesOn _).mono (Nat.le_succ _)
  · exact (skipExponent_movesOn _).mono (Nat.le_succ _)
  · exact Nat.le_refl _

theorem skipUnsigned_movesOn
    (rest : List UInt8) :
    MovesOn rest.length List.length (skipUnsigned rest) := by
  unfold skipUnsigned
  split
  · trivial
  · next byte later =>
    split
    · trivial
    · split
      · trivial
      · exact (skipAfterWhole_movesOn later).mono (Nat.le_succ _)
    · exact (skipAfterWhole_movesOn _).mono
        (Nat.le_succ_of_le (length_skipDigits_le later))

theorem skipScalar_movesOn
    (byte : UInt8)
    (rest : List UInt8) :
    MovesOn (rest.length + 1) List.length (skipScalar byte rest) := by
  unfold skipScalar
  split
  · exact (readLetters_movesOn _ _).mono (Nat.le_succ _)
  · exact (readLetters_movesOn _ _).mono (Nat.le_succ _)
  · exact (readLetters_movesOn _ _).mono (Nat.le_succ _)
  · exact (skipText_movesOn _).mono (Nat.le_succ _)
  · exact (skipUnsigned_movesOn _).mono (Nat.le_succ _)
  · split
    · exact skipUnsigned_movesOn _
    · trivial

theorem skipKey_movesOn
    (rest : List UInt8) :
    MovesOn rest.length List.length (skipKey rest) := by
  unfold skipKey
  split
  · trivial
  · next quoted shape =>
    have opened := length_lt_of_skipBlanks shape
    have text := skipText_movesOn quoted
    split
    · next stop skipped =>
      rw [skipped] at text
      exact MovesOn.mono text (Nat.le_of_lt opened)
    · next after skipped =>
      rw [skipped] at text
      split
      · trivial
      · next later shape =>
        have closed := length_lt_of_skipBlanks shape
        exact Nat.le_of_lt (Nat.lt_of_lt_of_le closed
          (Nat.le_trans text (Nat.le_of_lt opened)))
      · trivial
  · trivial

theorem skim_movesOn
    (want : Want)
    (frames : List Frame)
    (bytes : List UInt8) :
    MovesOn bytes.length List.length (skim want frames bytes) := by
  fun_induction skim want frames bytes with
  | case2 _ _ _ shape inductionHypothesis =>
      exact inductionHypothesis.mono
        (Nat.le_of_lt (length_lt_of_skipBlanks shape))
  | case3 _ _ _ shape inductionHypothesis =>
      exact inductionHypothesis.mono
        (Nat.le_of_lt (length_lt_of_skipBlanks shape))
  | case4 _ _ byte rest _ _ shape _ skipped =>
      have scalar := skipScalar_movesOn byte rest
      rw [skipped] at scalar
      exact scalar.mono (length_lt_of_skipBlanks shape)
  | case5 _ byte rest _ _ shape _ skipped =>
      have scalar := skipScalar_movesOn byte rest
      rw [skipped] at scalar
      exact scalar.mono (length_lt_of_skipBlanks shape)
  | case6 _ byte rest _ _ shape _ skipped _ _ inductionHypothesis =>
      have scalar := skipScalar_movesOn byte rest
      rw [skipped] at scalar
      exact inductionHypothesis.mono
        (Nat.le_trans scalar (length_lt_of_skipBlanks shape))
  | case7 _ bytes _ skipped =>
      have key := skipKey_movesOn bytes
      rwa [skipped] at key
  | case8 _ _ _ skipped inductionHypothesis =>
      exact inductionHypothesis.mono
        (Nat.le_of_lt (length_lt_of_skipKey skipped))
  | case9 => exact Nat.le_refl _
  | case11 _ _ _ shape => exact Nat.le_of_lt (length_lt_of_skipBlanks shape)
  | case12 _ _ _ _ _ shape inductionHypothesis =>
      exact inductionHypothesis.mono
        (Nat.le_of_lt (length_lt_of_skipBlanks shape))
  | case13 _ _ _ _ _ shape _ inductionHypothesis =>
      exact inductionHypothesis.mono (length_lt_of_skipBlanks shape)
  | case14 => exact Nat.le_refl _
  | case16 _ _ _ _ shape inductionHypothesis =>
      exact inductionHypothesis.mono
        (Nat.le_of_lt (length_lt_of_skipBlanks shape))
  | case17 _ _ _ _ shape => exact Nat.le_of_lt (length_lt_of_skipBlanks shape)
  | case18 _ _ _ _ _ _ shape inductionHypothesis =>
      exact inductionHypothesis.mono
        (Nat.le_of_lt (length_lt_of_skipBlanks shape))
  | _ => trivial

end Json
end HandlePool
