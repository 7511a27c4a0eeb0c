/-!
# Log lines

Messages for the user that are not part of the output. A character by which a message could steer
the terminal is written by its code point.
-/
namespace CrontabRenderer

inductive LogLevel where
  | info
  | warning
  | error
  deriving Repr, DecidableEq

def LogLevel.name : LogLevel → String
  | .info => "INFO"
  | .warning => "WARN"
  | .error => "ERROR"

structure LogLine where
  level : LogLevel
  message : String
  deriving Repr, DecidableEq

namespace LogLine

/-- The bell, the backspace, the form feed, the escape, the delete, and the control characters
beyond ASCII. -/
def shownChar (c : Char) : List Char :=
  let n := c.toNat
  if n = 0x7 ∨ n = 0x8 ∨ n = 0xC ∨ n = 0x1B ∨ n = 0x7F then
    ['\\', 'x', Nat.digitChar (n / 16), Nat.digitChar (n % 16)]
  else if 0x80 ≤ n ∧ n ≤ 0x9F then
    ['\\', 'u', '\x7b', Nat.digitChar (n / 16), Nat.digitChar (n % 16), '\x7d']
  else [c]

def text (line : LogLine) : String :=
  line.level.name ++ " " ++ .ofList (line.message.toList.flatMap shownChar)

end LogLine

end CrontabRenderer
