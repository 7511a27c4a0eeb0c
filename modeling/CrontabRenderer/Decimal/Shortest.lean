import CrontabRenderer.Decimal.Digits

/-!
# Shortest decimals

The decimal with the fewest digits among those that read back as a given binary floating-point
number, and of several such the one nearest to the number. It lies on the coarsest grid of powers of
ten that has a point in the interval of reals rounding to the number.
-/
namespace CrontabRenderer.Decimal

/-- The number `mantissa * 2 ^ exponent`, with a mantissa that is not zero. -/
structure Binary where
  mantissa : Nat
  exponent : Int
  deriving Repr, DecidableEq

/-- One more than the largest fraction: a full mantissa starts here. -/
def Binary.unit : Nat := 0x10000000000000

/-- The magnitude of a finite number that is not zero, from its bits. -/
def Binary.ofBits (bits : UInt64) : Binary :=
  let fraction : Nat := bits.toNat % unit
  let biased : Nat := bits.toNat / unit % 0x800
  if biased = 0 then ⟨fraction, -1074⟩ else ⟨fraction + unit, (biased : Int) - 1075⟩

/-- The decimal `digits * 10 ^ exponent`. -/
structure Shortest where
  digits : Nat
  exponent : Int
  deriving Repr, DecidableEq

/-- The point of the grid of multiples of `10 ^ exponent` that is nearest to the number, if it
rounds to the number. A tie goes to the even multiple. -/
def Binary.onGrid? (x : Binary) (exponent : Int) : Option Shortest :=
  -- Everything is measured in quarters of the last binary place.
  let quarter := x.exponent - 2
  let scale := Nat.pow 2 quarter.toNat * Nat.pow 10 (-exponent).toNat
  let width := Nat.pow 2 (-quarter).toNat * Nat.pow 10 exponent.toNat
  let center := 4 * x.mantissa * scale
  let low := (4 * x.mantissa - (if x.mantissa = unit && -1074 < x.exponent then 1 else 2)) * scale
  let high := (4 * x.mantissa + 2) * scale
  let rounds (multiple : Nat) : Bool :=
    let point := multiple * width
    0 < multiple &&
      if x.mantissa % 2 = 0 then low ≤ point && point ≤ high else low < point && point < high
  let below := center / width
  let above := below + 1
  match rounds below, rounds above with
  | false, false => none
  | true, false => some ⟨below, exponent⟩
  | false, true => some ⟨above, exponent⟩
  | true, true =>
    let toBelow := center - below * width
    let toAbove := above * width - center
    let nearer :=
      if toBelow < toAbove then below
      else if toAbove < toBelow then above
      else if below % 2 = 0 then below else above
    some ⟨nearer, exponent⟩

/-- Tries the grids from coarse to fine. Every number is reached at an exponent above `-345`. -/
def Binary.shortest (x : Binary) : Shortest :=
  ((List.range 655).findSome? fun (step : Nat) => x.onGrid? (309 - (step : Int))).getD ⟨0, 0⟩

/-- The finite number nearest to `mantissa * 10 ^ exponent`, or an infinity beyond them. -/
def toFloat (mantissa : Nat) (exponent : Int) : Float :=
  if mantissa = 0 then 0
  else if 400 < exponent then 1 / 0
  else if exponent + (digits mantissa).length < -400 then 0
  else Float.ofScientific mantissa (exponent < 0) exponent.natAbs

/-- Splits off the digits in front. -/
def spanDigits (s : List Char) : List Char × List Char :=
  (s.takeWhile Char.isDigit, s.dropWhile Char.isDigit)

/-- Reads an optional sign, digits with an optional point among or beside them, and an optional
exponent. -/
def readFloat? (s : List Char) : Option Float := do
  let (negative, s) := match s with
    | '-' :: s => (true, s)
    | '+' :: s => (false, s)
    | s => (false, s)
  let (whole, s) := spanDigits s
  let (fraction, s) := match s with
    | '.' :: s => spanDigits s
    | s => ([], s)
  let mantissa ← ofDigits? 10 (whole ++ fraction)
  let exponent ← match s with
    | [] => some (0 : Int)
    | c :: s =>
      if c = 'e' ∨ c = 'E' then
        match s with
        | '-' :: s => (ofDigits? 10 s).map fun n => -(n : Int)
        | '+' :: s => (ofDigits? 10 s).map fun n => (n : Int)
        | s => (ofDigits? 10 s).map fun n => (n : Int)
      else none
  let magnitude := toFloat mantissa (exponent - fraction.length)
  return if negative then -magnitude else magnitude

end CrontabRenderer.Decimal
