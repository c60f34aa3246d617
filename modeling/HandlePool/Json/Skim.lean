import HandlePool.Json.Lexeme
import HandlePool.Json.Number

/-!
# Passing over values

A value nobody asked for is passed over without being kept.  The containers that
are still open are held in a list, so values may nest to any depth.
-/

namespace HandlePool
namespace Json

/-! ## Nothing is put back -/

theorem length_dropWhile_le {α : Type} (predicate : α → Bool) (list : List α) :
    (list.dropWhile predicate).length ≤ list.length := by
  induction list with
  | nil => simp
  | cons head tail inductionHypothesis =>
    simp only [List.dropWhile_cons]
    split
    · exact Nat.le_succ_of_le inductionHypothesis
    · simp

theorem length_skipBlanks_le (rest : List UInt8) :
    (skipBlanks rest).length ≤ rest.length :=
  length_dropWhile_le isBlank rest

theorem length_skipDigits_le (rest : List UInt8) :
    (skipDigits rest).length ≤ rest.length :=
  length_dropWhile_le _ rest

theorem length_le_of_readLetters {letters rest after : List UInt8}
    (read : readLetters letters rest = .ok after) :
      after.length ≤ rest.length := by
  fun_induction readLetters letters rest with
  | case1 rest =>
    cases read
    exact Nat.le_refl _
  | case2 => cases read
  | case3 letters byte rest inductionHypothesis =>
    exact Nat.le_succ_of_le (inductionHypothesis read)
  | case4 => cases read

theorem length_le_of_skipText {rest after : List UInt8}
    (skipped : skipText rest = .ok after) : after.length ≤ rest.length := by
  fun_induction skipText rest with
  | case1 => cases skipped
  | case2 =>
    cases skipped
    exact Nat.le_succ _
  | case3 => cases skipped
  | case4 => cases skipped
  | case5 first second third fourth rest value _ inductionHypothesis =>
    have bound := inductionHypothesis skipped
    simp only [List.length_cons]
    omega
  | case6 => cases skipped
  | case7 letter rest _ _ _ _ inductionHypothesis =>
    have bound := inductionHypothesis skipped
    simp only [List.length_cons]
    omega
  | case8 => cases skipped
  | case9 => cases skipped
  | case10 byte rest _ _ _ _ _ _ inductionHypothesis =>
    exact Nat.le_succ_of_le (inductionHypothesis skipped)

theorem length_skipSign_le (rest : List UInt8) :
    (skipSign rest).length ≤ rest.length := by
  unfold skipSign
  split <;> simp

theorem length_le_of_skipExponent {rest after : List UInt8}
    (skipped : skipExponent rest = .ok after) : after.length ≤ rest.length := by
  have sign := length_skipSign_le rest
  unfold skipExponent at skipped
  split at skipped
  · cases skipped
  · next byte tail shape =>
    rw [shape, List.length_cons] at sign
    split at skipped
    · cases skipped
      have digits := length_skipDigits_le tail
      omega
    · cases skipped

theorem length_le_of_skipAfterWhole {rest after : List UInt8}
    (skipped : skipAfterWhole rest = .ok after) :
      after.length ≤ rest.length := by
  unfold skipAfterWhole at skipped
  split at skipped
  · next tail =>
    have digits := length_skipDigits_le tail
    split at skipped
    · split at skipped
      · next shape =>
        have bound := length_le_of_skipExponent skipped
        rw [shape] at digits
        simp only [List.length_cons] at digits ⊢
        omega
      · next shape =>
        have bound := length_le_of_skipExponent skipped
        rw [shape] at digits
        simp only [List.length_cons] at digits ⊢
        omega
      · cases skipped
        exact Nat.le_succ_of_le digits
    · cases skipped
  · exact Nat.le_succ_of_le (length_le_of_skipExponent skipped)
  · exact Nat.le_succ_of_le (length_le_of_skipExponent skipped)
  · cases skipped
    exact Nat.le_refl _

theorem length_lt_of_skipUnsigned {rest after : List UInt8}
    (skipped : skipUnsigned rest = .ok after) : after.length < rest.length := by
  unfold skipUnsigned at skipped
  split at skipped
  · cases skipped
  · next byte tail =>
    split at skipped
    · cases skipped
    · split at skipped
      · cases skipped
      · exact Nat.lt_succ_of_le (length_le_of_skipAfterWhole skipped)
    · exact Nat.lt_succ_of_le
        (Nat.le_trans (length_le_of_skipAfterWhole skipped)
          (length_skipDigits_le tail))

/-! ## Values -/

/-- A container that is still open. -/
inductive Frame where
  | list
  | object
  deriving DecidableEq, Repr

/-- What must come next inside the open containers. -/
inductive Want where
  /-- A value. -/
  | value
  /-- The key of a member, its colon and its value. -/
  | member
  /-- The first element of the innermost container, or its end. -/
  | first
  /-- A comma, or the end of the innermost container. -/
  | next
  deriving DecidableEq, Repr

/-- Pass over a value that has no parts, given its first byte. -/
def skipScalar (byte : UInt8) (rest : List UInt8) : Except Stop (List UInt8) :=
  match byte with
  | 0x6E => readLetters nullLetters rest
  | 0x74 => readLetters trueLetters rest
  | 0x66 => readLetters falseLetters rest
  | 0x22 => skipText rest
  | 0x2D => skipUnsigned rest
  | byte =>
    if (digit? byte).isSome then skipUnsigned (byte :: rest)
    else stopAhead .expectedValue (byte :: rest)

theorem length_le_of_skipScalar {byte : UInt8} {rest after : List UInt8}
    (skipped : skipScalar byte rest = .ok after) :
      after.length ≤ rest.length := by
  unfold skipScalar at skipped
  split at skipped
  · exact length_le_of_readLetters skipped
  · exact length_le_of_readLetters skipped
  · exact length_le_of_readLetters skipped
  · exact length_le_of_skipText skipped
  · exact Nat.le_of_lt (length_lt_of_skipUnsigned skipped)
  · split at skipped
    · exact Nat.le_of_lt_succ (length_lt_of_skipUnsigned skipped)
    · cases skipped

/-- Pass over the key of a member and its colon. -/
def skipKey (rest : List UInt8) : Except Stop (List UInt8) :=
  match skipBlanks rest with
  | [] => stopHere .endInObject []
  | 0x22 :: rest =>
    match skipText rest with
    | .error stop => .error stop
    | .ok rest =>
      match skipBlanks rest with
      | [] => stopHere .endInObject []
      | 0x3A :: rest => .ok rest
      | rest => stopAhead .expectedColon rest
  | rest => stopAhead .keyMustBeText rest

theorem length_lt_of_skipKey {rest after : List UInt8}
    (skipped : skipKey rest = .ok after) : after.length < rest.length := by
  have blanks := length_skipBlanks_le rest
  unfold skipKey at skipped
  split at skipped
  · cases skipped
  · next afterQuote shape =>
    rw [shape, List.length_cons] at blanks
    split at skipped
    · cases skipped
    · next afterText textSkipped =>
      have textBound := length_le_of_skipText textSkipped
      have innerBlanks := length_skipBlanks_le afterText
      split at skipped
      · cases skipped
      · next innerShape =>
        rw [innerShape, List.length_cons] at innerBlanks
        cases skipped
        omega
      · cases skipped
  · cases skipped

/-- The end of input inside a container. -/
def Frame.atEnd : Frame → Problem
  | .list => .endInList
  | .object => .endInObject

/-- Anything but a comma or the end of a container. -/
def Frame.afterElement : Frame → Problem
  | .list => .expectedCommaOrBracket
  | .object => .expectedCommaOrBrace

/-- What an element of a container starts with. -/
def Frame.element : Frame → Want
  | .list => .value
  | .object => .member

/-- The byte that closes a container. -/
def Frame.close : Frame → UInt8
  | .list => 0x5D
  | .object => 0x7D

/-- Rank of the wants that may be followed by another without reading on. -/
def Want.rank : Want → Nat
  | .first => 1
  | _ => 0

set_option linter.unusedVariables false in
/-- Pass over what is wanted, and over the rest of all open containers. -/
def skim (want : Want) (frames : List Frame) (bytes : List UInt8) :
    Except Stop (List UInt8) :=
  match want with
  | .value =>
    match shape : skipBlanks bytes with
    | [] => stopHere .endInValue []
    | 0x5B :: rest => skim .first (.list :: frames) rest
    | 0x7B :: rest => skim .first (.object :: frames) rest
    | byte :: rest =>
      match skipped : skipScalar byte rest with
      | .error stop => .error stop
      | .ok rest =>
        match frames with
        | [] => .ok rest
        | frames => skim .next frames rest
  | .member =>
    match skipped : skipKey bytes with
    | .error stop => .error stop
    | .ok rest => skim .value frames rest
  | .first =>
    match frames with
    | [] => .ok bytes
    | frame :: frames =>
      match shape : skipBlanks bytes with
      | [] => stopHere frame.atEnd []
      | byte :: rest =>
        if byte = frame.close then
          match frames with
          | [] => .ok rest
          | frames => skim .next frames rest
        else skim frame.element (frame :: frames) (byte :: rest)
  | .next =>
    match frames with
    | [] => .ok bytes
    | frame :: frames =>
      match shape : skipBlanks bytes with
      | [] => stopHere frame.atEnd []
      | 0x2C :: rest => skim frame.element (frame :: frames) rest
      | byte :: rest =>
        if byte = frame.close then
          match frames with
          | [] => .ok rest
          | frames => skim .next frames rest
        else stopAhead frame.afterElement (byte :: rest)
termination_by (bytes.length, want.rank)
decreasing_by
  all_goals
    first
    | (have blanks := length_skipBlanks_le bytes
       rw [shape] at blanks
       simp only [List.length_cons] at blanks
       first
       | (have scalar := length_le_of_skipScalar skipped
          exact Prod.Lex.left _ _ (by omega))
       | exact Prod.Lex.left _ _ (by omega)
       | (cases frame <;>
            first
            | exact Prod.Lex.left _ _ (by simp only [List.length_cons]; omega)
            | (rcases Nat.lt_or_eq_of_le blanks with shorter | same
               · exact Prod.Lex.left _ _ (by simpa using shorter)
               · rw [← same]
                 exact Prod.Lex.right _ (by decide))))
    | (have key := length_lt_of_skipKey skipped
       exact Prod.Lex.left _ _ (by omega))

/-- Pass over one value. -/
def skipValue (bytes : List UInt8) : Except Stop (List UInt8) :=
  skim .value [] bytes

end Json
end HandlePool
