import HandlePool.Duration.Spelling
import HandlePool.Json.Lexeme
import HandlePool.Json.Number

/-!
# Reading single values

Counts, spelled durations and named choices, and the keys of objects.  A value
of another kind than expected is read to its end, so that the message can show
it, unless it is a list or an object.
-/

namespace HandlePool
namespace Json

/-- Read a value that is not the expected one, and say so. -/
def readUnexpected {α : Type} (expected : String) : Reader α := fun rest =>
  let refuse (found : Found) (rest : List UInt8) :
      Except Stop (α × List UInt8) :=
    stopHere (.invalidType found expected) rest
  match rest with
  | [] => stopAhead .expectedValue []
  | 0x6E :: rest => readLetters nullLetters rest >>= refuse .nothing
  | 0x74 :: rest => readLetters trueLetters rest >>= refuse (.boolean true)
  | 0x66 :: rest => readLetters falseLetters rest >>= refuse (.boolean false)
  | 0x22 :: rest => do
    let (bytes, rest) ← readText rest
    refuse (.text (asText bytes)) rest
  | 0x5B :: _ => refuse .sequence rest
  | 0x7B :: _ => refuse .map rest
  | byte :: _ =>
    if byte = 0x2D ∨ (digit? byte).isSome then do
      let (number, rest) ← readNumber rest
      refuse number.found rest
    else stopAhead .expectedValue rest

/-- Read a count that fits in 64 bits. -/
def readCount : Reader UInt64 := fun rest =>
  match skipBlanks rest with
  | [] => stopHere .endInValue []
  | byte :: rest =>
    if byte = 0x2D ∨ (digit? byte).isSome then do
      let (number, rest) ← readNumber (byte :: rest)
      match number with
      | .natural value => .ok (value, rest)
      | .negative value => stopHere (.invalidValue (.integer value) "u64") rest
      | .real bits => stopHere (.invalidType (.real bits) "u64") rest
    else readUnexpected "u64" (byte :: rest)

/-- Read a spelled duration. -/
def readDuration : Reader Duration := fun rest =>
  match skipBlanks rest with
  | [] => stopHere .endInValue []
  | 0x22 :: rest => do
    let (bytes, rest) ← readText rest
    let spelled := asText bytes
    match Spelling.read spelled with
    | .ok duration => .ok (duration, rest)
    | .error .malformed =>
      stopHere (.invalidValue (.text spelled) "a duration") rest
    | .error (.aborted reason) => .error (.aborted reason)
  | rest => readUnexpected "a duration" rest

/-- Read a null. -/
def readNothing : Reader Unit := fun rest =>
  match skipBlanks rest with
  | [] => stopHere .endInValue []
  | 0x6E :: rest => do
    let rest ← readLetters nullLetters rest
    .ok ((), rest)
  | rest => readUnexpected "unit" rest

/-! ## Members of objects -/

/-- Read the next key of an object; `none` at the end of the
object, which is taken off. -/
def nextKey (isFirst : Bool) (rest : List UInt8) :
    Except Stop (Option (List UInt8) × List UInt8) :=
  match skipBlanks rest with
  | [] => stopHere .endInObject []
  | 0x7D :: rest => .ok (none, rest)
  | 0x2C :: rest =>
    if isFirst then stopAhead .keyMustBeText (0x2C :: rest)
    else
      match skipBlanks rest with
      | [] => stopHere .endInValue []
      | 0x22 :: rest => (readText rest).map fun (key, rest) => (some key, rest)
      | 0x7D :: rest => stopAhead .trailingComma (0x7D :: rest)
      | rest => stopAhead .keyMustBeText rest
  | 0x22 :: rest =>
    if isFirst then (readText rest).map fun (key, rest) => (some key, rest)
    else stopAhead .expectedCommaOrBrace (0x22 :: rest)
  | rest =>
    stopAhead (if isFirst then .keyMustBeText else .expectedCommaOrBrace) rest

/-- Read the colon between a key and its value. -/
def readColon (rest : List UInt8) : Except Stop (List UInt8) :=
  match skipBlanks rest with
  | [] => stopHere .endInObject []
  | 0x3A :: rest => .ok rest
  | rest => stopAhead .expectedColon rest

/-! ## Named choices -/

/-- Values that are written by name. -/
abbrev Choices (α : Type) := List (String × α)

/-- The choice of a name that was just read. -/
def choose {α : Type} (choices : Choices α) (name rest : List UInt8) :
    Except Stop α :=
  match choices.find? fun choice => Utf8.encode choice.1.toList == name with
  | some choice => .ok choice.2
  | none => stopHere (.unknownVariant (asText name) (choices.map Prod.fst)) rest

/-- Read a choice, written as its name or as an object with the name as its only
key and null as the value. -/
def readChoice {α : Type} (choices : Choices α) : Reader α := fun rest =>
  match skipBlanks rest with
  | [] => stopHere .endInValue []
  | 0x22 :: rest => do
    let (name, rest) ← readText rest
    let value ← choose choices name rest
    .ok (value, rest)
  | 0x7B :: rest => do
    match ← nextKey true rest with
    | (none, rest) => stopHere .expectedValue rest
    | (some name, rest) => do
      let value ← choose choices name rest
      let rest ← readColon rest
      let (_, rest) ← readNothing rest
      match skipBlanks rest with
      | [] => stopHere .endInObject []
      | 0x7D :: rest => .ok (value, rest)
      | rest => stopHere .expectedValue rest
  | rest => stopAhead .expectedValue rest

end Json
end HandlePool
