import CrontabRenderer.Json

/-!
# Reading JSON

`parse?` reads one value with blanks around it. A repeated member of an object replaces the earlier
one. A whole number that fits 64 bits is read exactly, any other number as a floating-point number.
-/
namespace CrontabRenderer.Json

def skipBlanks (s : List Char) : List Char :=
  s.dropWhile fun c => c = ' ' || c = '\t' || c = '\n' || c = '\r'

/-- Four hexadecimal digits. -/
def readUnit : List Char → Option (Nat × List Char)
  | a :: b :: c :: d :: rest => do
    let unit ← Decimal.ofDigits? 16 [a, b, c, d]
    return (unit, rest)
  | _ => none

/-- The character of an escape, from behind its backslash. A character beyond the first plane is
written as two units. -/
def readEscape : List Char → Option (Char × List Char)
  | '"' :: rest => some ('"', rest)
  | '\\' :: rest => some ('\\', rest)
  | '/' :: rest => some ('/', rest)
  | 'b' :: rest => some ('\x08', rest)
  | 'f' :: rest => some ('\x0c', rest)
  | 'n' :: rest => some ('\n', rest)
  | 'r' :: rest => some ('\r', rest)
  | 't' :: rest => some ('\t', rest)
  | 'u' :: rest => do
    let (unit, rest) ← readUnit rest
    if 0xD800 ≤ unit ∧ unit < 0xDC00 then
      match rest with
      | '\\' :: 'u' :: rest =>
        let (low, rest) ← readUnit rest
        if 0xDC00 ≤ low ∧ low < 0xE000 then
          some (Char.ofNat (0x10000 + (unit - 0xD800) * 0x400 + (low - 0xDC00)), rest)
        else none
      | _ => none
    else if 0xDC00 ≤ unit ∧ unit < 0xE000 then none
    else some (Char.ofNat unit, rest)
  | _ => none

/-- The rest of a string, from behind its opening quotation mark; `done` is read already. -/
def readString (fuel : Nat) (done : List Char) (s : List Char) : Option (String × List Char) :=
  match fuel, s with
  | fuel + 1, c :: rest =>
    if c = '"' then some (.ofList done.reverse, rest)
    else if c = '\\' then
      match readEscape rest with
      | some (c, rest) => readString fuel (c :: done) rest
      | none => none
    else if c.toNat < 0x20 then none
    else readString fuel (c :: done) rest
  | _, _ => none

/-- Appends digits to a significand while it fits 64 bits, and gives the digits that do not. -/
def appendDigits (significand : Nat) : List Char → Nat × List Char
  | [] => (significand, [])
  | c :: rest =>
    let longer := 10 * significand + (c.toNat - '0'.toNat)
    if longer < 0x10000000000000000 then appendDigits longer rest else (significand, c :: rest)

/-- A power of ten, infinite from `10 ^ 309` on. -/
def powerOfTen (n : Nat) : Float := Decimal.toFloat 1 n

/-- A significand times a power of ten in floating-point arithmetic. It rounds once for each
operation, so a number of many digits may miss the nearest one by a last place. Numbers that are too
large are refused, numbers that are too small are zero. -/
def scaled? (significand : Nat) (exponent : Int) : Option Float :=
  let x := significand.toFloat
  if significand = 0 then some 0
  else if 0 ≤ exponent then some (x * powerOfTen exponent.toNat) |>.filter (·.isFinite)
  else if -308 ≤ exponent then some (x / powerOfTen (-exponent).toNat)
  else some (x / powerOfTen 308 / powerOfTen (-exponent - 308).toNat)

/-- The exponent of a number, if it has one. -/
def readExponent (s : List Char) : Option (Option Int × List Char) :=
  match s with
  | c :: rest =>
    if c = 'e' ∨ c = 'E' then do
      let (negative, rest) := match rest with
        | '-' :: rest => (true, rest)
        | '+' :: rest => (false, rest)
        | rest => (false, rest)
      let (digits, rest) := Decimal.spanDigits rest
      let size ← Decimal.ofDigits? 10 digits
      return (some (if negative then -size else size), rest)
    else some (none, c :: rest)
  | [] => some (none, [])

/-- A whole number without needless zeros, then an optional fraction and an optional exponent. Of the
digits that the significand has no room for, those of the whole number count as places and those of
the fraction not at all. -/
def readNumber (s : List Char) : Option (Number × List Char) := do
  let (negative, rest) := match s with
    | '-' :: rest => (true, rest)
    | rest => (false, rest)
  let (whole, rest) := Decimal.spanDigits rest
  if whole.isEmpty ∨ (whole.length ≠ 1 ∧ whole.head? = some '0') then none
  let (fraction, rest) ← match rest with
    | '.' :: rest =>
      let (digits, rest) := Decimal.spanDigits rest
      if digits.isEmpty then none else some (digits, rest)
    | rest => some ([], rest)
  let (exponent, rest) ← readExponent rest
  let (significand, places) := appendDigits 0 whole
  let value : Int := if negative then -significand else significand
  if fraction.isEmpty ∧ exponent.isNone ∧ places.isEmpty ∧ Number.fitsInteger value ∧
      (¬negative ∨ significand ≠ 0) then
    return (.integer value, rest)
  let (significand, unused) := appendDigits significand fraction
  let x ← scaled? significand
    (exponent.getD 0 + places.length - (fraction.length - unused.length : Nat))
  return (.float (if negative then -x else x), rest)

/-- Takes a literal word off the front. -/
def readLiteral (word : List Char) (value : Json) (s : List Char) : Option (Json × List Char) :=
  if word.isPrefixOf s then some (value, s.drop word.length) else none

/-- Replaces the value of a name in place, or adds the member at the end. -/
def putMember (name : String) (value : Json) : List (String × Json) → List (String × Json)
  | [] => [(name, value)]
  | member :: rest =>
    if member.1 = name then (name, value) :: rest else member :: putMember name value rest

mutual

/-- One value, from its first character on. -/
def readValue (fuel : Nat) (s : List Char) : Option (Json × List Char) :=
  match fuel with
  | 0 => none
  | fuel + 1 =>
    match skipBlanks s with
    | '"' :: rest =>
      (readString (rest.length + 1) [] rest).map fun (text, rest) => (.string text, rest)
    | '[' :: rest =>
      match skipBlanks rest with
      | ']' :: rest => some (.array [], rest)
      | rest => readItems fuel [] rest
    | '\x7b' :: rest =>
      match skipBlanks rest with
      | '\x7d' :: rest => some (.object [], rest)
      | rest => readMembers fuel [] rest
    | 't' :: rest => readLiteral "true".toList (.bool true) ('t' :: rest)
    | 'f' :: rest => readLiteral "false".toList (.bool false) ('f' :: rest)
    | 'n' :: rest => readLiteral "null".toList .null ('n' :: rest)
    | rest => (readNumber rest).map fun (value, rest) => (.number value, rest)

/-- The items of an array up to its closing bracket, after those in `done`. -/
def readItems (fuel : Nat) (done : List Json) (s : List Char) : Option (Json × List Char) :=
  match fuel with
  | 0 => none
  | fuel + 1 =>
    match readValue fuel s with
    | none => none
    | some (item, rest) =>
      match skipBlanks rest with
      | ',' :: rest => readItems fuel (item :: done) rest
      | ']' :: rest => some (.array (item :: done).reverse, rest)
      | _ => none

/-- The members of an object up to its closing brace, after those in `done`. -/
def readMembers (fuel : Nat) (done : List (String × Json)) (s : List Char) :
    Option (Json × List Char) :=
  match fuel with
  | 0 => none
  | fuel + 1 =>
    match skipBlanks s with
    | '"' :: rest =>
      match readString (rest.length + 1) [] rest with
      | none => none
      | some (name, rest) =>
        match skipBlanks rest with
        | ':' :: rest =>
          match readValue fuel rest with
          | none => none
          | some (value, rest) =>
            match skipBlanks rest with
            | ',' :: rest => readMembers fuel (putMember name value done) rest
            | '\x7d' :: rest => some (.object (putMember name value done), rest)
            | _ => none
        | _ => none
    | _ => none

end

/-- The value that a whole text stands for. -/
def parse? (text : String) : Option Json :=
  let s := text.toList
  match readValue (2 * s.length + 2) s with
  | some (value, rest) => if (skipBlanks rest).isEmpty then some value else none
  | none => none

end CrontabRenderer.Json
