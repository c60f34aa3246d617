/-!
# Durations

A length of time in whole seconds and nanoseconds, with its two written forms:
the exact decimal form used in dumps, and the spelled form `1day 2h 3ms` used in
documents.
-/

namespace HandlePool

/-- Nanoseconds in one second. -/
def nanosPerSecond : Nat := 1000000000

/-- A length of time. -/
structure Duration where
  seconds : UInt64
  nanos : Nat := 0
  nanos_lt : nanos < nanosPerSecond := by decide

namespace Duration

instance : DecidableEq Duration := fun left right =>
  if equal : left.seconds = right.seconds ∧ left.nanos = right.nanos then
    isTrue (by
      cases left
      cases right
      simp_all)
  else
    isFalse fun same => equal (same ▸ ⟨rfl, rfl⟩)

/-- No time at all. -/
def zero : Duration := ⟨0, 0, by decide⟩

/-- Whole seconds. -/
def ofSeconds (seconds : UInt64) : Duration := ⟨seconds, 0, by decide⟩

/-- The length of time in nanoseconds. -/
def totalNanos (duration : Duration) : Nat :=
  duration.seconds.toNat * nanosPerSecond + duration.nanos

/-- The duration lasts no time. -/
def isZero (duration : Duration) : Bool :=
  duration.seconds == 0 && duration.nanos == 0

/-! ## Decimal form -/

/-- A number with leading zeros up to a width. -/
def padded (width value : Nat) : List Char :=
  let digits := Nat.toDigits 10 value
  List.replicate (width - digits.length) '0' ++ digits

/-- Digits without the zeros at their end. -/
def trimZeros (digits : List Char) : List Char :=
  (digits.reverse.dropWhile (· == '0')).reverse

/-- A whole number and `width` places after the point,
trailing zeros left out. -/
def decimal (whole fraction width : Nat) : String :=
  match trimZeros (padded width fraction) with
  | [] => toString whole
  | places => toString whole ++ "." ++ String.ofList places

/-- The exact decimal form, in the largest unit that gives a whole part. -/
def dump (duration : Duration) : String :=
  if duration.seconds ≠ 0 then
    decimal duration.seconds.toNat duration.nanos 9 ++ "s"
  else if 1000000 ≤ duration.nanos then
    decimal (duration.nanos / 1000000) (duration.nanos % 1000000) 6 ++ "ms"
  else if 1000 ≤ duration.nanos then
    decimal (duration.nanos / 1000) (duration.nanos % 1000) 3 ++ "µs"
  else toString duration.nanos ++ "ns"

/-! ## Spelled form -/

/-- Seconds in a year of 365.25 days. -/
def yearSeconds : Nat := 31557600

/-- Seconds in a month of 30.44 days. -/
def monthSeconds : Nat := 2630016

/-- Seconds in a day. -/
def daySeconds : Nat := 86400

/-- The parts of a duration from years down to nanoseconds,
each with its unit. -/
def parts (duration : Duration) : List (Nat × String) :=
  let seconds := duration.seconds.toNat
  let inYear := seconds % yearSeconds
  let inMonth := inYear % monthSeconds
  let inDay := inMonth % daySeconds
  let plural (count : Nat) (unit : String) : Nat × String :=
    (count, if 1 < count then unit ++ "s" else unit)
  [plural (seconds / yearSeconds) "year",
   plural (inYear / monthSeconds) "month",
   plural (inMonth / daySeconds) "day",
   (inDay / 3600, "h"), (inDay % 3600 / 60, "m"), (inDay % 60, "s"),
   (duration.nanos / 1000000, "ms"), (duration.nanos / 1000 % 1000, "us"),
   (duration.nanos % 1000, "ns")]

/-- The spelled form: the parts that are not zero, with spaces between. -/
def spell (duration : Duration) : String :=
  if duration.isZero then "0s"
  else
    String.intercalate " " <|
      (duration.parts.filter fun part => part.1 ≠ 0).map fun part =>
        toString part.1 ++ part.2

end Duration
end HandlePool
