import CrontabRenderer.Number
import CrontabRenderer.Yaml.Error
import CrontabRenderer.Yaml.Node

/-!
# Values of scalars

Which value a scalar is where any value may stand. A plain scalar without a tag is what its text
reads as: null, a truth value, an integer, a floating-point number, or else the text itself.
-/
namespace CrontabRenderer.Yaml

/-- A whole number as it is written. Zero may have a minus sign too. -/
structure Integer where
  negative : Bool
  magnitude : Nat
  deriving Repr, DecidableEq

namespace Integer

def value (n : Integer) : Int := if n.negative then -(n.magnitude : Int) else n.magnitude

/-- The number fits 64 bits. -/
def isHeld (n : Integer) : Bool := Number.fitsInteger n.value

/-- Whole numbers beyond 64 bits and up to 128 bits are read but cannot be held. -/
def isTooLarge (n : Integer) : Bool :=
  !n.isHeld && -0x80000000000000000000000000000000 ≤ n.value &&
    n.value < 0x100000000000000000000000000000000

end Integer

inductive Value where
  | null
  | bool (value : Bool)
  | integer (value : Integer)
  | float (value : Float)
  | text (value : String)
  | sequence (items : List Value)
  | mapping (members : List (Value × Value))
  deriving Repr

namespace Value

def isNullWord (s : String) : Bool := s ∈ ["null", "Null", "NULL", "~"]

def bool? (s : String) : Option Bool :=
  if s ∈ ["true", "True", "TRUE"] then some true
  else if s ∈ ["false", "False", "FALSE"] then some false
  else none

/-- Digits behind a needless zero make a text and not a number. -/
def hasNeedlessZero (s : List Char) : Bool :=
  let digits := match s with
    | '-' :: digits => digits
    | '+' :: digits => digits
    | digits => digits
  1 < digits.length && digits.head? == some '0' && digits.all Char.isDigit

/-- The digits of a whole number with the sign of their base. -/
def magnitude? (s : List Char) : Option Nat :=
  match s with
  | '0' :: 'x' :: digits => Decimal.ofDigits? 16 digits
  | '0' :: 'o' :: digits => Decimal.ofDigits? 8 digits
  | '0' :: 'b' :: digits => Decimal.ofDigits? 2 digits
  | digits => Decimal.ofDigits? 10 digits

/-- A whole number of any size. -/
def integer? (s : List Char) : Option Integer :=
  if hasNeedlessZero s then none
  else match s with
    | '-' :: s => (magnitude? s).map (⟨true, ·⟩)
    | '+' :: s => (magnitude? s).map (⟨false, ·⟩)
    | s => (magnitude? s).map (⟨false, ·⟩)

/-- A floating-point number: an infinity, a finite number, or the one that is none. -/
def float? (s : List Char) : Option Float :=
  let unsigned := match s with
    | '+' :: rest => rest
    | s => s
  let word := String.ofList unsigned
  if unsigned.length < s.length ∧ (unsigned.head? = some '+' ∨ unsigned.head? = some '-') then none
  else if word ∈ [".inf", ".Inf", ".INF"] then some (1 / 0)
  else if String.ofList s ∈ ["-.inf", "-.Inf", "-.INF"] then some (-1 / 0)
  else if String.ofList s ∈ [".nan", ".NaN", ".NAN"] then some (0 / 0)
  else (Decimal.readFloat? unsigned).filter (·.isFinite)

def ofFloatOrText (text : String) : Value :=
  if hasNeedlessZero text.toList then .text text
  else match float? text.toList with
    | some x => .float x
    | none => .text text

def ofPlain (text : String) : Except Error Value :=
  if text.isEmpty ∨ isNullWord text then .ok .null
  else match bool? text with
    | some value => .ok (.bool value)
    | none =>
      match integer? text.toList with
      | some n =>
        if n.isHeld then .ok (.integer n)
        else if n.isTooLarge then .error (.shape (.unexpected "a smaller integer"))
        else .ok (ofFloatOrText text)
      | none => .ok (ofFloatOrText text)

/-- The value of a scalar with a tag of a kind of scalars, which may be written in any style. -/
def ofTagged (tag : Tag) (scalar : Scalar) : Except Error Value :=
  let orElse (wanted : String) (value : Option Value) : Except Error Value :=
    match value with
    | some value => .ok value
    | none => .error (.shape (.unexpected wanted))
  let text := scalar.text
  if tag = .core "bool" then orElse "a boolean" ((bool? text).map .bool)
  else if tag = .core "int" then
    orElse "an integer" (((integer? text.toList).filter Integer.isHeld).map .integer)
  else if tag = .core "float" then orElse "a float" ((float? text.toList).map .float)
  else if tag = .core "null" then orElse "null" (if isNullWord text then some .null else none)
  else if tag.localName?.isSome ∧ scalar.style = .plain then ofPlain text
  else .ok (.text text)

def ofScalar (scalar : Scalar) : Except Error Value :=
  match scalar.tag with
  | some tag =>
    if tag.isLocal then .error (.shape (.unexpected "a value without a tag"))
    else ofTagged tag scalar
  | none => if scalar.style = .plain then ofPlain scalar.text else .ok (.text scalar.text)

end Value

end CrontabRenderer.Yaml
