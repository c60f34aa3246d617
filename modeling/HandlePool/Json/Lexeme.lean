import HandlePool.Json.Problem

/-!
# Blanks, literals and texts

The smallest parts of a document.  A text is read strictly where its value is
needed, and only passed over where it is not; passing over checks escapes but
not whether surrogates come in pairs.

Bytes are matched by their ASCII numbers: `0x22` is the quote, `0x5C` the
backslash, `0x75` the letter of a numbered escape, and everything below `0x20`
is a control character.
-/

namespace HandlePool
namespace Json

/-- The bytes that may stand between any two parts. -/
def isBlank (byte : UInt8) : Bool :=
  byte == 0x20 || byte == 0x0A || byte == 0x09 || byte == 0x0D

/-- Leave out blanks. -/
def skipBlanks (rest : List UInt8) : List UInt8 := rest.dropWhile isBlank

/-- Read the letters of a literal. -/
def readLetters : List UInt8 → List UInt8 → Except Stop (List UInt8)
  | [], rest => .ok rest
  | _ :: _, [] => stopHere .endInValue []
  | letter :: letters, byte :: rest =>
    if byte = letter then readLetters letters rest
    else stopHere .expectedLiteral rest

/-- The bytes of `ull`, which follow the `n` of a null. -/
def nullLetters : List UInt8 := [0x75, 0x6C, 0x6C]
/-- The bytes of `rue`, which follow the `t` of a true. -/
def trueLetters : List UInt8 := [0x72, 0x75, 0x65]
/-- The bytes of `alse`, which follow the `f` of a false. -/
def falseLetters : List UInt8 := [0x61, 0x6C, 0x73, 0x65]

/-! ## Escapes -/

/-- The value of a hexadecimal digit. -/
def hexDigit? (byte : UInt8) : Option Nat :=
  if 0x30 ≤ byte ∧ byte ≤ 0x39 then some (byte.toNat - 0x30)
  else if 0x41 ≤ byte ∧ byte ≤ 0x46 then some (byte.toNat - 0x37)
  else if 0x61 ≤ byte ∧ byte ≤ 0x66 then some (byte.toNat - 0x57)
  else none

/-- The value of four hexadecimal digits. -/
def hexValue? (first second third fourth : UInt8) : Option Nat := do
  let first ← hexDigit? first
  let second ← hexDigit? second
  let third ← hexDigit? third
  let fourth ← hexDigit? fourth
  some (first * 4096 + second * 256 + third * 16 + fourth)

/-- The byte that a one-letter escape stands for. -/
def shortEscape? (letter : UInt8) : Option UInt8 :=
  match letter with
  | 0x22 => some 0x22
  | 0x5C => some 0x5C
  | 0x2F => some 0x2F
  | 0x62 => some 0x08
  | 0x66 => some 0x0C
  | 0x6E => some 0x0A
  | 0x72 => some 0x0D
  | 0x74 => some 0x09
  | _ => none

/-- The first half of a surrogate pair. -/
def isLeading (value : Nat) : Bool := 0xD800 ≤ value && value ≤ 0xDBFF

/-- The second half of a surrogate pair. -/
def isTrailing (value : Nat) : Bool := 0xDC00 ≤ value && value ≤ 0xDFFF

/-- The code point a surrogate pair stands for. -/
def paired (leading trailing : Nat) : Nat :=
  (leading - 0xD800) * 1024 + (trailing - 0xDC00) + 0x10000

/-- Put the bytes of a code point in front of a text that was read. -/
def withCodePoint (value : Nat) :
    Except Stop (List UInt8 × List UInt8) →
    Except Stop (List UInt8 × List UInt8) :=
  Except.map fun (bytes, rest) =>
    (Utf8.encodeChar (Char.ofNat value) ++ bytes, rest)

/-- Read a text up to and with its closing quote. -/
def readText : Reader (List UInt8)
  | [] => stopHere .endInText []
  | 0x22 :: rest => .ok ([], rest)
  | 0x5C :: [] => stopHere .endInText []
  | 0x5C :: 0x75 :: first :: second :: third :: fourth :: rest =>
    match hexValue? first second third fourth with
    | none => stopHere .invalidEscape rest
    | some value =>
      if isTrailing value then stopHere .loneSurrogate rest
      else if isLeading value then
        match rest with
        | [] => stopHere .endInText []
        | 0x5C :: [] => stopHere .endInText []
        | 0x5C :: 0x75 :: first :: second :: third :: fourth :: rest =>
          match hexValue? first second third fourth with
          | none => stopHere .invalidEscape rest
          | some next =>
            if isTrailing next then
              withCodePoint (paired value next) (readText rest)
            else stopHere .loneSurrogate rest
        | 0x5C :: 0x75 :: _ => stopHere .endInText []
        | 0x5C :: _ :: rest => stopHere .unfinishedPair rest
        | _ :: rest => stopHere .unfinishedPair rest
      else withCodePoint value (readText rest)
  | 0x5C :: 0x75 :: _ => stopHere .endInText []
  | 0x5C :: letter :: rest =>
    match shortEscape? letter with
    | some byte => (readText rest).map fun (bytes, rest) =>
        (byte :: bytes, rest)
    | none => stopHere .invalidEscape rest
  | byte :: rest =>
    if byte < 0x20 then stopHere .controlCharacter rest
    else (readText rest).map fun (bytes, rest) => (byte :: bytes, rest)
termination_by bytes => bytes.length
decreasing_by all_goals simp_all; try omega

/-- Pass over a text up to and with its closing quote. -/
def skipText : List UInt8 → Except Stop (List UInt8)
  | [] => stopHere .endInText []
  | 0x22 :: rest => .ok rest
  | 0x5C :: [] => stopHere .endInText []
  | 0x5C :: 0x75 :: first :: second :: third :: fourth :: rest =>
    match hexValue? first second third fourth with
    | none => stopHere .invalidEscape rest
    | some _ => skipText rest
  | 0x5C :: 0x75 :: _ => stopHere .endInText []
  | 0x5C :: letter :: rest =>
    match shortEscape? letter with
    | some _ => skipText rest
    | none => stopHere .invalidEscape rest
  | byte :: rest =>
    if byte < 0x20 then stopHere .controlCharacter (byte :: rest)
    else skipText rest

/-- The characters of bytes known to be text. -/
def asText (bytes : List UInt8) : String := String.ofList (Utf8.lossy bytes)

end Json
end HandlePool
