import CrontabRenderer.Decimal.Digits

/-!
# Tags

A tag names a kind of value. It consists of octets, since a text may write them one by one as
escapes, and need not be a text itself.
-/
namespace CrontabRenderer.Yaml

structure Tag where
  octets : List UInt8
  deriving Repr, DecidableEq

namespace Tag

/-- The tag of ASCII characters. -/
def ofAscii (s : List Char) : Tag := ⟨s.map fun c => c.toNat.toUInt8⟩

/-- The tag that is written by octets; one of value zero ends it. -/
def ofOctets (octets : List Nat) : Tag := ⟨(octets.takeWhile (· ≠ 0)).map Nat.toUInt8⟩

def isEmpty (tag : Tag) : Bool := tag.octets.isEmpty

instance : Append Tag where
  append first second := ⟨first.octets ++ second.octets⟩

/-- A mark without a name. -/
def mark : Tag := ofAscii ['!']

/-- The tag of a kind of value that every document knows. -/
def core (name : String) : Tag := ofAscii ("tag:yaml.org,2002:" ++ name).toList

/-- What is behind the mark that a tag starts with. -/
def localName? (tag : Tag) : Option (List UInt8) :=
  match tag.octets with
  | first :: name => if first = 0x21 then some name else none
  | [] => none

/-- The octets are UTF-8. -/
def isText (octets : List UInt8) : Bool := (String.fromUTF8? ⟨octets.toArray⟩).isSome

/-- A mark and a text behind it, which may be empty, name a kind of value that no place asks for. -/
def isLocal (tag : Tag) : Bool := tag.localName?.any isText

/-- How many octets a character has in UTF-8 by its first one. -/
def sequenceLength? (octet : Nat) : Option Nat :=
  if octet < 0x80 then some 1
  else if 0xC0 ≤ octet ∧ octet < 0xE0 then some 2
  else if 0xE0 ≤ octet ∧ octet < 0xF0 then some 3
  else if 0xF0 ≤ octet ∧ octet < 0xF8 then some 4
  else none

/-- An octet written as a percent sign and two hexadecimal digits. -/
def readOctet? (s : List Char) : Option (Nat × List Char) :=
  match s with
  | '%' :: a :: b :: rest => (Decimal.ofDigits? 16 [a, b]).map fun octet => (octet, rest)
  | _ => none

/-- Further octets of a character. -/
def readOctets? : Nat → List Char → Option (List Nat × List Char)
  | 0, s => some ([], s)
  | n + 1, s => do
    let (octet, s) ← readOctet? s
    if 0x80 ≤ octet ∧ octet < 0xC0 then
      let (octets, s) ← readOctets? n s
      return (octet :: octets, s)
    else none

/-- The octets of ASCII characters with escaped octets among them. The escapes have the shape of
characters in UTF-8, whether or not there are such characters. -/
def unescape? : Nat → List Char → Option (List Nat)
  | 0, _ => some []
  | _ + 1, [] => some []
  | fuel + 1, c :: rest =>
    if c = '%' then do
      let (octet, rest) ← readOctet? (c :: rest)
      let (octets, rest) ← readOctets? ((← sequenceLength? octet) - 1) rest
      let behind ← unescape? fuel rest
      return octet :: octets ++ behind
    else (unescape? fuel rest).map (c.toNat :: ·)

/-- The tag that ASCII characters write, with escapes among them. -/
def ofWritten? (s : List Char) : Option Tag := (unescape? s.length s).map ofOctets

end Tag

end CrontabRenderer.Yaml
