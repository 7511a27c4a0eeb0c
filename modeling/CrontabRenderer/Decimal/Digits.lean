/-!
# Digits

Digit strings in a base up to sixteen and the numbers they stand for.
-/
namespace CrontabRenderer.Decimal

/-- The value of a digit; `none` for any other character. -/
def digitValue? (c : Char) : Option Nat :=
  if c.isDigit then some (c.toNat - '0'.toNat)
  else if 'a' ≤ c && c ≤ 'f' then some (c.toNat - 'a'.toNat + 10)
  else if 'A' ≤ c && c ≤ 'F' then some (c.toNat - 'A'.toNat + 10)
  else none

/-- Reads a text that consists of digits of the base, at least one of them. -/
def ofDigits? (base : Nat) (s : List Char) : Option Nat :=
  if s.isEmpty then none
  else s.foldl (fun value c => do
    let value ← value
    let digit ← digitValue? c
    if digit < base then some (value * base + digit) else none) (some 0)

def digits (n : Nat) : List Char := Nat.toDigits 10 n

/-- The digits of a number, with zeros in front up to a width. -/
def padded (width n : Nat) : List Char :=
  List.replicate (width - (digits n).length) '0' ++ digits n

end CrontabRenderer.Decimal
