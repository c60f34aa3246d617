import HandlePool.Json.Problem

/-!
# Numbers of a document

A number without fraction and exponent is kept exactly if 64 bits hold it; all
others become binary64.  Their digits are gathered into 64 bits as far as they
fit, and the power of ten is applied to the gathered number by one
multiplication or division (and by further divisions far below one), so the
result may differ from the nearest binary64 in its last place.
-/

namespace HandlePool
namespace Json

/-- A number as it was read. -/
inductive Number where
  | natural (value : UInt64)
  /-- An integer below zero. -/
  | negative (value : Int)
  /-- Any other number, as the bits of its binary64 form. -/
  | real (bits : UInt64)
  deriving DecidableEq, Repr

/-- How a message names a number. -/
def Number.found : Number → Found
  | .natural value => .integer value.toNat
  | .negative value => .integer value
  | .real bits => .real bits

/-- The value of a decimal digit. -/
def digit? (byte : UInt8) : Option Nat :=
  if 0x30 ≤ byte ∧ byte ≤ 0x39 then some (byte.toNat - 0x30) else none

/-- A decimal digit comes next. -/
def startsWithDigit (rest : List UInt8) : Bool :=
  match rest with
  | [] => false
  | byte :: _ => (digit? byte).isSome

/-- Leave out the digits that come next. -/
def skipDigits (rest : List UInt8) : List UInt8 :=
  rest.dropWhile fun byte => (digit? byte).isSome

/-- Gather digits into a value as long as it stays below `limit`. -/
def gather (limit value : Nat) : List UInt8 → Nat × List UInt8
  | [] => (value, [])
  | byte :: rest =>
    match digit? byte with
    | none => (value, byte :: rest)
    | some digit =>
      if value * 10 + digit < limit then gather limit (value * 10 + digit) rest
      else (value, byte :: rest)

/-- The greatest power of ten that is applied at once. -/
def powerLimit : Nat := 308

/-- A power of ten in binary64. -/
def powerOfTen (exponent : Nat) : Float := Float.ofScientific 1 false exponent

/-- Divide by the greatest power of ten until the exponent is in reach or
nothing is left of the value. -/
def lower : Nat → Float → Int → Float
  | 0, value, _ => value
  | steps + 1, value, exponent =>
    if -(powerLimit : Int) ≤ exponent then value / powerOfTen exponent.natAbs
    else if value == 0.0 then value
    else lower steps (value / powerOfTen powerLimit) (exponent + powerLimit)

/-- `significand * 10 ^ exponent`, or `none` beyond the range of binary64.
Three divisions take every significand to zero. -/
def scale? (significand : Nat) (exponent : Int) : Option Float :=
  let value := significand.toUInt64.toFloat
  if exponent < 0 then some (lower 4 value exponent)
  else if exponent ≤ powerLimit then
    let scaled := value * powerOfTen exponent.natAbs
    if scaled.isInf then none else some scaled
  else if value == 0.0 then some value
  else none

/-- The binary64 number with these parts. -/
def realOfParts (isPositive : Bool) (significand : Nat) (exponent : Int) :
    Reader Number := fun rest =>
  match scale? significand exponent with
  | none => stopHere .numberOutOfRange rest
  | some value =>
    .ok (.real (if isPositive then value else -value).toBits, rest)

/-- The greatest exponent that is counted. -/
def exponentLimit : Nat := 1 <<< 31

/-- Read what follows the letter of an exponent. -/
def readExponent (isPositive : Bool) (significand : Nat) (start : Int) :
    Reader Number := fun rest =>
  let (isRaising, rest) : Bool × List UInt8 :=
    match rest with
    | 0x2B :: rest => (true, rest)
    | 0x2D :: rest => (false, rest)
    | rest => (true, rest)
  match rest with
  | [] => stopHere .endInValue []
  | byte :: rest =>
    match digit? byte with
    | none => stopHere .invalidNumber rest
    | some digit =>
      let (exponent, rest) := gather exponentLimit digit rest
      if startsWithDigit rest then
        if significand ≠ 0 ∧ isRaising then
          stopHere .numberOutOfRange (rest.drop 1)
        else
          let zero : Float := if isPositive then 0.0 else -0.0
          .ok (.real zero.toBits, skipDigits rest)
      else
        realOfParts isPositive significand
          (if isRaising then start + exponent else start - exponent) rest

/-- Read what follows all digits: an exponent or nothing. -/
def readExponent? (isPositive : Bool) (significand : Nat) (start : Int) :
    Reader Number := fun rest =>
  match rest with
  | 0x65 :: rest | 0x45 :: rest =>
      readExponent isPositive significand start rest
  | rest => realOfParts isPositive significand start rest

/-- The number of values of a 64-bit word. -/
def wordSize : Nat := UInt64.size

/-- Read what follows the point.  Digits that no longer fit are left out. -/
def readFraction (isPositive : Bool) (significand : Nat) (start : Int) :
    Reader Number := fun rest =>
  let (gathered, later) := gather wordSize significand rest
  let places := rest.length - later.length
  if startsWithDigit later then
    readExponent? isPositive gathered (start - places) (skipDigits later)
  else if places = 0 then
    match later with
    | [] => stopHere .endInValue []
    | _ => stopAhead .invalidNumber later
  else readExponent? isPositive gathered (start - places) later

/-- The exact number with these digits, if 64 bits hold it. -/
def exact (isPositive : Bool) (significand : Nat) : Number :=
  if isPositive then .natural significand.toUInt64
  else if significand = 0 ∨ 1 <<< 63 < significand then
    .real (-significand.toUInt64.toFloat).toBits
  else .negative (-(significand : Int))

/-- Read what follows a whole part that fits in 64 bits. -/
def readAfterWhole (isPositive : Bool) (significand : Nat) : Reader Number :=
  fun rest =>
    match rest with
    | 0x2E :: rest => readFraction isPositive significand 0 rest
    | 0x65 :: rest | 0x45 :: rest => readExponent isPositive significand 0 rest
    | rest => .ok (exact isPositive significand, rest)

/-- Read a number without its sign. -/
def readUnsigned (isPositive : Bool) : Reader Number := fun rest =>
  match rest with
  | [] => stopHere .endInValue []
  | byte :: rest =>
    match digit? byte with
    | none => stopHere .invalidNumber rest
    | some 0 =>
      if startsWithDigit rest then stopAhead .invalidNumber rest
      else readAfterWhole isPositive 0 rest
    | some digit =>
      let (significand, later) := gather wordSize digit rest
      if startsWithDigit later then
        let after := skipDigits later
        let places := later.length - after.length
        match after with
        | 0x2E :: after => readFraction isPositive significand places after
        | after => readExponent? isPositive significand places after
      else readAfterWhole isPositive significand later

/-- Read a number that starts with a digit or a minus sign. -/
def readNumber : Reader Number := fun rest =>
  match rest with
  | 0x2D :: rest => readUnsigned false rest
  | rest => readUnsigned true rest

/-! ## Passing over numbers -/

/-- Leave out the sign of an exponent. -/
def skipSign (rest : List UInt8) : List UInt8 :=
  match rest with
  | 0x2B :: rest => rest
  | 0x2D :: rest => rest
  | rest => rest

/-- Pass over an exponent behind its letter. -/
def skipExponent (rest : List UInt8) : Except Stop (List UInt8) :=
  match skipSign rest with
  | [] => stopHere .invalidNumber []
  | byte :: rest =>
    if (digit? byte).isSome then .ok (skipDigits rest)
    else stopHere .invalidNumber rest

/-- Pass over what follows the whole part of a number. -/
def skipAfterWhole (rest : List UInt8) : Except Stop (List UInt8) :=
  match rest with
  | 0x2E :: rest =>
    if startsWithDigit rest then
      match skipDigits rest with
      | 0x65 :: rest | 0x45 :: rest => skipExponent rest
      | rest => .ok rest
    else stopAhead .invalidNumber rest
  | 0x65 :: rest | 0x45 :: rest => skipExponent rest
  | rest => .ok rest

/-- Pass over a number without its sign. -/
def skipUnsigned (rest : List UInt8) : Except Stop (List UInt8) :=
  match rest with
  | [] => stopHere .invalidNumber []
  | byte :: rest =>
    match digit? byte with
    | none => stopHere .invalidNumber rest
    | some 0 =>
      if startsWithDigit rest then stopAhead .invalidNumber rest
      else skipAfterWhole rest
    | some _ => skipAfterWhole (skipDigits rest)

end Json
end HandlePool
