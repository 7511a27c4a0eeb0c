import CrontabRenderer.Text.Combining
import CrontabRenderer.Text.Unprintable

/-!
# Quoted texts

A text between double quotes as messages show it. A character that a reader could not tell from its
neighbours is written by its code point.
-/
namespace CrontabRenderer.Text

/-- The lower-case hexadecimal digits of a number, without leading zeros. -/
def hexDigits (n : Nat) : List Char := Nat.toDigits 16 n

def quotedChar (c : Char) : List Char :=
  match c with
  | '\x00' => ['\\', '0']
  | '\t' => ['\\', 't']
  | '\n' => ['\\', 'n']
  | '\r' => ['\\', 'r']
  | '"' => ['\\', '"']
  | '\\' => ['\\', '\\']
  | c =>
    if c.toNat < 0x7F && 0x20 ≤ c.toNat then [c]
    else if isCombining c || isUnprintable c then
      ['\\', 'u', '\x7b'] ++ hexDigits c.toNat ++ ['\x7d']
    else [c]

def quoted (s : String) : String :=
  .ofList (['"'] ++ s.toList.flatMap quotedChar ++ ['"'])

end CrontabRenderer.Text
