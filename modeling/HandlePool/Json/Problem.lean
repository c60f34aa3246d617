import HandlePool.Abort
import HandlePool.Decimal.Shortest
import HandlePool.Text.Quoted

/-!
# What can be wrong with a document

A reader stops at the first problem.  It notes how many bytes were left when the
problem showed; the place in the document is worked out from that number once
the whole document is known.
-/

namespace HandlePool
namespace Json

/-- The value a document has where something else is expected. -/
inductive Found where
  | nothing
  | boolean (value : Bool)
  | integer (value : Int)
  /-- A number that is no 64-bit integer, as the bits of its binary64 form. -/
  | real (bits : UInt64)
  | text (value : String)
  | sequence
  | map
  deriving DecidableEq, Repr

/-- How a message names a value. -/
def Found.name : Found → String
  | .nothing => "null"
  | .boolean value => "boolean `" ++ toString value ++ "`"
  | .integer value => "integer `" ++ toString value ++ "`"
  | .real bits => "floating point `" ++ Shortest.text bits ++ "`"
  | .text value => "string " ++ Quoted.text value
  | .sequence => "sequence"
  | .map => "map"

/-- Something wrong with a document. -/
inductive Problem where
  | endInValue
  | endInText
  | endInList
  | endInObject
  | expectedValue
  | expectedLiteral
  | expectedColon
  | expectedCommaOrBrace
  | expectedCommaOrBracket
  | keyMustBeText
  | trailingComma
  | trailingCharacters
  | invalidNumber
  | numberOutOfRange
  | invalidEscape
  | controlCharacter
  | unfinishedPair
  | loneSurrogate
  /-- A value of the wrong kind. -/
  | invalidType (found : Found) (expected : String)
  /-- A value of the right kind that means nothing here. -/
  | invalidValue (found : Found) (expected : String)
  /-- A list with too few elements. -/
  | invalidLength (length : Nat) (expected : String)
  | missingField (name : String)
  | duplicateField (name : String)
  | unknownVariant (name : String) (known : List String)
  deriving DecidableEq, Repr

/-- The three sorts of problems. -/
inductive Category where
  /-- The text is no document. -/
  | grammar
  /-- The document says something that is not meant here. -/
  | content
  /-- The document ends too early. -/
  | ending
  deriving DecidableEq, Repr

namespace Problem

/-- The sort of a problem. -/
def category : Problem → Category
  | .endInValue | .endInText | .endInList | .endInObject => .ending
  | .invalidType .. | .invalidValue .. | .invalidLength .. | .missingField _
  | .duplicateField _ | .unknownVariant .. => .content
  | _ => .grammar

/-- A list of names for a message. -/
def alternatives (names : List String) : String :=
  let marked := names.map fun name => "`" ++ name ++ "`"
  match marked with
  | [] => "there are no variants"
  | [only] => "expected " ++ only
  | [first, second] => "expected " ++ first ++ " or " ++ second
  | _ => "expected one of " ++ String.intercalate ", " marked

/-- The text of a problem, without its place. -/
def message : Problem → String
  | .endInValue => "EOF while parsing a value"
  | .endInText => "EOF while parsing a string"
  | .endInList => "EOF while parsing a list"
  | .endInObject => "EOF while parsing an object"
  | .expectedValue => "expected value"
  | .expectedLiteral => "expected ident"
  | .expectedColon => "expected `:`"
  | .expectedCommaOrBrace => "expected `,` or `\x7d`"
  | .expectedCommaOrBracket => "expected `,` or `]`"
  | .keyMustBeText => "key must be a string"
  | .trailingComma => "trailing comma"
  | .trailingCharacters => "trailing characters"
  | .invalidNumber => "invalid number"
  | .numberOutOfRange => "number out of range"
  | .invalidEscape => "invalid escape"
  | .controlCharacter =>
    "control character (\\u0000-\\u001F) found while parsing a string"
  | .unfinishedPair => "unexpected end of hex escape"
  | .loneSurrogate => "lone leading surrogate in hex escape"
  | .invalidType found expected =>
    "invalid type: " ++ found.name ++ ", expected " ++ expected
  | .invalidValue found expected =>
    "invalid value: " ++ found.name ++ ", expected " ++ expected
  | .invalidLength length expected =>
    "invalid length " ++ toString length ++ ", expected " ++ expected
  | .missingField name => "missing field `" ++ name ++ "`"
  | .duplicateField name => "duplicate field `" ++ name ++ "`"
  | .unknownVariant name known =>
    "unknown variant `" ++ name ++ "`, " ++ alternatives known

end Problem

/-! ## Places -/

/-- A place in a document: a line from one up, and how many bytes of that line
had been read. -/
structure Place where
  line : Nat
  column : Nat
  deriving DecidableEq, Repr

/-- The place one byte after another place. -/
def Place.after (place : Place) (byte : UInt8) : Place :=
  if byte = 0x0A then ⟨place.line + 1, 0⟩ else ⟨place.line, place.column + 1⟩

/-- The place reached by reading some bytes from the start of a document. -/
def Place.reached (bytes : List UInt8) : Place :=
  bytes.foldl Place.after ⟨1, 0⟩

/-- A problem and its place. -/
structure DocumentError where
  problem : Problem
  place : Place
  deriving DecidableEq, Repr

/-- The text of a problem with its place. -/
def DocumentError.message (error : DocumentError) : String :=
  error.problem.message ++ " at line " ++ toString error.place.line ++
    " column " ++ toString error.place.column

/-- Why a document could not be read. -/
inductive Refusal where
  | document (error : DocumentError)
  /-- Reading stopped outright. -/
  | aborted (reason : Abort)
  deriving DecidableEq, Repr

/-! ## Readers -/

/-- Why a reader stopped. -/
inductive Stop where
  /-- A problem, with the number of bytes left when it showed. -/
  | fault (problem : Problem) (remaining : Nat)
  /-- Reading stopped outright. -/
  | aborted (reason : Abort)
  deriving DecidableEq, Repr

/-- A reader takes a value off the front of the bytes. -/
abbrev Reader (α : Type) := List UInt8 → Except Stop (α × List UInt8)

/-- Stop with a problem found behind the bytes read so far. -/
def stopHere {α : Type} (problem : Problem) (rest : List UInt8) :
    Except Stop α :=
  .error (.fault problem rest.length)

/-- Stop with a problem of the byte that comes next. -/
def stopAhead {α : Type} (problem : Problem) (rest : List UInt8) :
    Except Stop α :=
  .error (.fault problem (rest.length - 1))

/-- The refusal of a whole document. -/
def Stop.refusal (document : List UInt8) : Stop → Refusal
  | .fault problem remaining =>
    .document ⟨problem, .reached (document.take (document.length - remaining))⟩
  | .aborted reason => .aborted reason

end Json
end HandlePool
