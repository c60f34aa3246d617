import HandlePool.Abort
import HandlePool.Duration

/-!
# Reading spelled durations

A spelled duration is a row of spans, each a number and a unit: `1h 30m`,
`1.5s`, `2days`.  Blanks may stand between digits and around spans.  A span may
have a decimal fraction if it comes out exact.  All counting is done in 64 bits,
and a count that leaves them makes the text malformed, with one exception: the
carry of exactly one full second is checked by nobody and stops the reader.
-/

namespace HandlePool
namespace Spelling

/-- Why a text gave no duration. -/
inductive Failure where
  /-- The text spells no duration. -/
  | malformed
  /-- Reading stopped outright. -/
  | aborted (reason : Abort)
  deriving DecidableEq, Repr

/-- The number of values of a 64-bit counter. -/
def wordSize : Nat := UInt64.size

/-- A count that still fits in 64 bits. -/
def fit (count : Nat) : Except Failure Nat :=
  if count < wordSize then .ok count else .error .malformed

/-- The characters that count as blank. -/
def isBlank (character : Char) : Bool :=
  let point := character.toNat
  (0x9 ≤ point && point ≤ 0xD) || point == 0x20 || point == 0x85 ||
    point == 0xA0 || point == 0x1680 || (0x2000 ≤ point && point ≤ 0x200A) ||
    point == 0x2028 || point == 0x2029 || point == 0x202F || point == 0x205F ||
    point == 0x3000

/-- The characters units are written with. -/
def isUnitLetter (character : Char) : Bool :=
  ('a' ≤ character && character ≤ 'z') ||
    ('A' ≤ character && character ≤ 'Z') || character == 'µ'

/-- The value of a decimal digit. -/
def digit? (character : Char) : Option Nat :=
  if '0' ≤ character && character ≤ '9'
    then some (character.toNat - 48) else none

/-- A unit of time. -/
structure TimeUnit where
  /-- Counts of this unit are whole seconds, and else nanoseconds. -/
  inSeconds : Bool
  /-- How many seconds or nanoseconds one of it lasts. -/
  scale : Nat
  /-- The scale of a fraction, with whether it counts seconds; `none` where a
  fraction is not allowed. -/
  fraction? : Option (Bool × Nat)
  deriving DecidableEq, Repr

/-- A unit that lasts some nanoseconds. -/
def short (scale : Nat) : TimeUnit := ⟨false, scale, some (false, scale)⟩

/-- A unit of some seconds whose fractions count nanoseconds. -/
def medium (scale : Nat) : TimeUnit :=
  ⟨true, scale, some (false, scale * nanosPerSecond)⟩

/-- A unit of some seconds whose fractions count seconds. -/
def long (scale : Nat) : TimeUnit := ⟨true, scale, some (true, scale)⟩

/-- The spellings of all units. -/
def units : List (List String × TimeUnit) :=
  [(["nanos", "nsec", "ns"], ⟨false, 1, none⟩),
   (["usec", "us", "µs"], short 1000),
   (["millis", "msec", "ms"], short 1000000),
   (["seconds", "second", "secs", "sec", "s"], medium 1),
   (["minutes", "minute", "min", "mins", "m"], medium 60),
   (["hours", "hour", "hr", "hrs", "h"], long 3600),
   (["days", "day", "d"], long Duration.daySeconds),
   (["weeks", "week", "wk", "wks", "w"], long (7 * Duration.daySeconds)),
   (["months", "month", "M"], long Duration.monthSeconds),
   (["years", "year", "yr", "yrs", "y"], long Duration.yearSeconds)]

/-- The unit of that spelling. -/
def unit? (spelling : String) : Option TimeUnit :=
  (units.find? fun row => row.1.contains spelling).map Prod.snd

/-- Add seconds and nanoseconds to a duration.  Nanoseconds beyond one full
second are carried first; one full second exactly is carried last. -/
def add (total : Duration) (seconds nanos : Nat) : Except Failure Duration := do
  let nanos ← fit (total.nanos + nanos)
  let carried := if nanosPerSecond < nanos then nanos / nanosPerSecond else 0
  let nanos := if nanosPerSecond < nanos then nanos % nanosPerSecond else nanos
  let seconds ← fit (seconds + carried)
  let seconds ← fit (total.seconds.toNat + seconds)
  if below : nanos < nanosPerSecond then
    .ok ⟨seconds.toUInt64, nanos, below⟩
  else if seconds + 1 < wordSize then
    .ok (.ofSeconds (seconds + 1).toUInt64)
  else .error (.aborted .durationOverflow)

/-- Digits after the point: their value, and the power of ten
they are parts of. -/
structure Fraction where
  numerator : Nat
  denominator : Nat
  deriving DecidableEq, Repr

/-- Add a count that is in seconds or in nanoseconds. -/
def addScaled (total : Duration) (inSeconds : Bool) (count : Nat) :
    Except Failure Duration :=
  if inSeconds then add total count 0 else add total 0 count

/-- Add one span to a duration. -/
def addSpan (total : Duration) (whole : Nat) (fraction? : Option Fraction)
    (spelling : String) : Except Failure Duration :=
  match unit? spelling with
  | none => .error .malformed
  | some timeUnit => do
    let count ← fit (whole * timeUnit.scale)
    let total ← addScaled total timeUnit.inSeconds count
    match fraction? with
    | none => .ok total
    | some fraction =>
      match timeUnit.fraction? with
      | none => .error .malformed
      | some (inSeconds, scale) =>
        let count ← fit (fraction.numerator * scale)
        if count % fraction.denominator = 0 then
          addScaled total inSeconds (count / fraction.denominator)
        else .error .malformed

/-- Where in a span the reader is. -/
inductive Phase where
  /-- Before a number; at least one span must follow if none has been read. -/
  | between (spanRead : Bool)
  /-- In the whole part. -/
  | whole (value : Nat)
  /-- After the point. -/
  | fraction (value : Nat) (places : Fraction)
  /-- In the unit, whose letters are kept last first. -/
  | unit (value : Nat) (places? : Option Fraction) (letters : List Char)
  deriving Repr

/-- The spelling collected in a unit phase. -/
def spelling (letters : List Char) : String := String.ofList letters.reverse

/-- Read on from a phase, one character at a time. -/
def readFrom : Phase → Duration → List Char → Except Failure Duration
  | .between spanRead, total, [] =>
    if spanRead then .ok total else .error .malformed
  | .whole _, _, [] => .error .malformed
  | .fraction _ _, _, [] => .error .malformed
  | .unit value places? letters, total, [] =>
    addSpan total value places? (spelling letters)
  | .between spanRead, total, character :: rest =>
    match digit? character with
    | some value => readFrom (.whole value) total rest
    | none =>
      if isBlank character then readFrom (.between spanRead) total rest
      else .error .malformed
  | .whole value, total, character :: rest =>
    match digit? character with
    | some next => do
      let value ← fit (value * 10 + next)
      readFrom (.whole value) total rest
    | none =>
      if isBlank character then readFrom (.whole value) total rest
      else if isUnitLetter character then
        readFrom (.unit value none [character]) total rest
      else if character = '.' then readFrom (.fraction value ⟨0, 1⟩) total rest
      else .error .malformed
  | .fraction value places, total, character :: rest =>
    match digit? character with
    | some next => do
      let denominator ← fit (places.denominator * 10)
      let numerator ← fit (places.numerator * 10 + next)
      readFrom (.fraction value ⟨numerator, denominator⟩) total rest
    | none =>
      if isBlank character then readFrom (.fraction value places) total rest
      else if isUnitLetter character ∧ places.denominator ≠ 1 then
        readFrom (.unit value (some places) [character]) total rest
      else .error .malformed
  | .unit value places? letters, total, character :: rest =>
    match digit? character with
    | some next => do
      let total ← addSpan total value places? (spelling letters)
      readFrom (.whole next) total rest
    | none =>
      if isBlank character then do
        let total ← addSpan total value places? (spelling letters)
        readFrom (.between true) total rest
      else if isUnitLetter character then
        readFrom (.unit value places? (character :: letters)) total rest
      else .error .malformed

/-- The duration a text spells.  A lone zero needs no unit. -/
def read (text : String) : Except Failure Duration :=
  if text = "0" then .ok .zero
  else readFrom (.between false) .zero text.toList

end Spelling
end HandlePool
