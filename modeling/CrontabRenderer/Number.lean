import CrontabRenderer.Decimal.Shortest

/-!
# Numbers

Numbers as schedule files and JSON write them: exact integers, and binary floating-point numbers for
everything that is written with a point or an exponent.
-/
namespace CrontabRenderer

inductive Number where
  | integer (value : Int)
  | float (value : Float)
  deriving Repr, Inhabited

namespace Number

instance : BEq Number where
  beq
    | .integer a, .integer b => a == b
    | .float a, .float b => a == b
    | _, _ => false

/-- The integers that keep their exact value: those of 64 bits, with or without a sign. -/
def fitsInteger (value : Int) : Bool := -0x8000000000000000 ≤ value && value < 0x10000000000000000

/-- Where a decimal point may stand, counted in places after the first digit of the number: from
`firstPlace` on, and up to `lastPlace`. Other numbers are written with an exponent. -/
structure Layout where
  firstPlace : Int
  lastPlace : Int
  deriving Repr

/-- Numbers from `0.00001` up to below `10 ^ 16` have no exponent. -/
def layout : Layout := ⟨-4, 16⟩

/-- Writes `digits * 10 ^ exponent` with at least one digit on each side of the point, or with an
exponent. -/
def Layout.write (layout : Layout) (x : Decimal.Shortest) : List Char :=
  let ds := Decimal.digits x.digits
  let place : Int := ds.length + x.exponent
  if 0 ≤ x.exponent ∧ place ≤ layout.lastPlace then
    ds ++ List.replicate x.exponent.toNat '0' ++ ['.', '0']
  else if 0 < place ∧ place ≤ layout.lastPlace then
    ds.take place.toNat ++ ['.'] ++ ds.drop place.toNat
  else if layout.firstPlace ≤ place ∧ place ≤ 0 then
    ['0', '.'] ++ List.replicate (-place).toNat '0' ++ ds
  else
    let power := place - 1
    let sign := if power < 0 then ['-'] else []
    let fraction := if ds.length = 1 then [] else '.' :: ds.drop 1
    ds.take 1 ++ fraction ++ ['e'] ++ sign ++ Decimal.digits power.natAbs

/-- The bit of a floating-point number that stands for its sign. -/
def signBit : Nat := 0x8000000000000000

/-- The text of a finite floating-point number: the fewest digits that read back. -/
def floatText (x : Float) : List Char :=
  let bits := x.toBits
  let sign := if signBit ≤ bits.toNat then ['-'] else []
  let magnitude :=
    if bits.toNat % signBit = 0 then ['0', '.', '0']
    else layout.write (Decimal.Binary.ofBits bits).shortest
  sign ++ magnitude

def integerText (value : Int) : List Char :=
  (if value < 0 then ['-'] else []) ++ Decimal.digits value.natAbs

/-- The canonical spelling of a number in a schedule file. -/
def text : Number → String
  | .integer value => .ofList (integerText value)
  | .float x =>
    if x.isNaN then ".nan"
    else if x.isInf then if x < 0 then "-.inf" else ".inf"
    else .ofList (floatText x)

end Number

end CrontabRenderer
