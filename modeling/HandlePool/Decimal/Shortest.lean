/-!
# Shortest decimals

A binary64 number is written with the fewest decimal digits that still read back
as that number, and among those with the digits nearest to it.  The search is
exact: the number, the ends of the interval that rounds to it and the candidates
are compared as natural numbers.
-/

namespace HandlePool
namespace Shortest

/-- A positive number with the interval of reals that round to it, all as
numerators over one denominator. -/
structure Target where
  value : Nat
  low : Nat
  high : Nat
  denominator : Nat
  /-- The ends of the interval round to the number too. -/
  closed : Bool

/-- The target of the number `mantissa * 2 ^ (exponent - 1075)`, where a stored
exponent of zero stands for the same scale as one. -/
def Target.ofParts (exponent fraction : Nat) : Target :=
  let mantissa := if exponent = 0 then fraction else fraction + 1 <<< 52
  let scale := max exponent 1
  -- Below a power of two the next number is only half as far away.
  let below := if fraction = 0 ∧ 1 < exponent then 1 else 2
  let up := 1 <<< (scale - 1077)
  let down := 1 <<< (1077 - scale)
  { value := 4 * mantissa * up
    low := (4 * mantissa - below) * up
    high := (4 * mantissa + 2) * up
    denominator := down
    closed := mantissa % 2 == 0 }

/-- Decimal digits, and the power of ten of the first of them. -/
structure Digits where
  digits : Nat
  leading : Int
  deriving DecidableEq, Repr

/-- `numerator / denominator` as a fraction whose value is compared with
`count * 10 ^ power`. -/
def scaled (numerator : Nat) (power : Int) : Nat :=
  if power < 0 then numerator * Nat.pow 10 power.natAbs else numerator

/-- `count * 10 ^ power` over the target's denominator, on
the scale of `scaled`. -/
def Target.candidate (target : Target) (count : Nat) (power : Int) : Nat :=
  if power < 0 then count * target.denominator
  else count * Nat.pow 10 power.natAbs * target.denominator

/-- `count * 10 ^ power` rounds to the target. -/
def Target.accepts (target : Target) (count : Nat) (power : Int) : Bool :=
  let candidate := target.candidate count power
  let low := scaled target.low power
  let high := scaled target.high power
  if target.closed then low ≤ candidate && candidate ≤ high
  else low < candidate && candidate < high

/-- The power of ten at or below the target. -/
def Target.leading (target : Target) : Int :=
  let lifted := target.value * Nat.pow 10 330 / target.denominator
  Int.ofNat (Nat.toDigits 10 lifted).length - 331

/-- The better of the two neighbours of the target among the multiples of
`10 ^ power`, if one of them rounds to it. -/
def Target.neighbour? (target : Target) (power : Int) : Option Nat :=
  let value := scaled target.value power
  let unit := target.candidate 1 power
  let floor := value / unit
  let floorFits := target.accepts floor power
  let ceilFits := target.accepts (floor + 1) power
  if floorFits && ceilFits then
    let twice := 2 * (value - floor * unit)
    if twice < unit then some floor
    else if unit < twice then some (floor + 1)
    else some (if floor % 2 = 0 then floor else floor + 1)
  else if floorFits then some floor
  else if ceilFits then some (floor + 1)
  else none

/-- The first grid, from coarse to fine, with a decimal that rounds to the
target; `places` grids are left to try. -/
def Target.search (target : Target) : Nat → Int → Nat × Int
  | 0, power => (scaled target.value power / target.candidate 1 power, power)
  | places + 1, power =>
    match target.neighbour? power with
    | some count => (count, power)
    | none => target.search places (power - 1)

/-- The shortest digits of the positive number with these parts. -/
def digitsOf (exponent fraction : Nat) : Digits :=
  let target := Target.ofParts exponent fraction
  let (count, power) := target.search 17 target.leading
  ⟨count, power + Int.ofNat ((Nat.toDigits 10 count).length - 1)⟩

/-! ## Layout -/

/-- How numbers are laid out. -/
structure Layout where
  /-- The least power of ten of a first digit that is written positionally. -/
  positionalFrom : Int
  /-- The greatest such power. -/
  positionalTo : Int

/-- Numbers from a hundred-thousandth up to below ten to the sixteenth are
written positionally. -/
def layout : Layout := ⟨-5, 15⟩

/-- Digits without the zeros at their end. -/
def significant (digits : List Char) : List Char :=
  (digits.reverse.dropWhile (· == '0')).reverse

/-- Digits with the point behind the power of ten zero. -/
def positional (digits : List Char) (leading : Int) : List Char :=
  if leading < 0 then
    '0' :: '.' :: List.replicate (leading.natAbs - 1) '0' ++ digits
  else
    let whole := leading.natAbs + 1
    let filled := digits ++ List.replicate (whole - digits.length) '0'
    let places := filled.drop whole
    filled.take whole ++ '.' :: (if places.isEmpty then ['0'] else places)

/-- Digits with the point behind the first one, and the power of ten. -/
def scientific (digits : List Char) (leading : Int) : List Char :=
  let head := digits.take 1
  let places := digits.drop 1
  let sign := if leading < 0 then ['-'] else ['+']
  head ++ (if places.isEmpty then [] else '.' :: places) ++ 'e' :: sign ++
    Nat.toDigits 10 leading.natAbs

/-- The text of a finite binary64 number given by its bits. -/
def text (bits : UInt64) : String :=
  let raw := bits.toNat
  let sign := if raw / 1 <<< 63 = 0 then [] else ['-']
  let exponent := raw / 1 <<< 52 % 1 <<< 11
  let fraction := raw % 1 <<< 52
  if exponent = 0 ∧ fraction = 0 then String.ofList (sign ++ ['0', '.', '0'])
  else
    let found := digitsOf exponent fraction
    let digits := significant (Nat.toDigits 10 found.digits)
    let body :=
      if layout.positionalFrom ≤ found.leading ∧
      found.leading ≤ layout.positionalTo then positional digits found.leading
      else scientific digits found.leading
    String.ofList (sign ++ body)

end Shortest
end HandlePool
