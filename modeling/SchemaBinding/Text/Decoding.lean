/-!
# From octets to text

Reading octets as UTF-8 or UTF-16.  A mark at the beginning chooses the encoding, and without one
it is UTF-8.  Octets that encode nothing are replaced, never refused: every longest beginning of a
character that breaks off becomes one replacement character.
-/

namespace SchemaBinding
namespace Text

/-- What stands for octets that encode no character. -/
def replacement : Char :=
  '\uFFFD'

namespace Utf8

/-- Where a reader stands between two octets. -/
inductive State where
  /-- Between characters. -/
  | between
  /--
  Inside a character: how many octets are missing, the range that the next one must be in, and the
  bits read so far.
  -/
  | inside (missing least greatest bits : Nat)
deriving DecidableEq, Repr

/-- The first octet of a character: what it completes at once, and where it leaves the reader. -/
def first (octet : Nat) : List Char × State :=
  if octet < 0x80 then ([Char.ofNat octet], .between)
  else if 0xC2 ≤ octet && octet ≤ 0xDF then ([], .inside 1 0x80 0xBF (octet - 0xC0))
  else if octet = 0xE0 then ([], .inside 2 0xA0 0xBF 0)
  else if octet = 0xED then ([], .inside 2 0x80 0x9F 0xD)
  else if 0xE1 ≤ octet && octet ≤ 0xEF then ([], .inside 2 0x80 0xBF (octet - 0xE0))
  else if octet = 0xF0 then ([], .inside 3 0x90 0xBF 0)
  else if 0xF1 ≤ octet && octet ≤ 0xF3 then ([], .inside 3 0x80 0xBF (octet - 0xF0))
  else if octet = 0xF4 then ([], .inside 3 0x80 0x8F 4)
  else ([replacement], .between)

/--
One more octet.  One that cannot continue the character ends it with a replacement and begins
another.
-/
def step (state : State) (octet : Nat) : List Char × State :=
  match state with
  | .between => first octet
  | .inside missing least greatest bits =>
      if least ≤ octet && octet ≤ greatest then
        let bits := bits * 64 + (octet - 0x80)
        if missing ≤ 1 then ([Char.ofNat bits], .between)
        else ([], .inside (missing - 1) 0x80 0xBF bits)
      else
        let (text, next) := first octet
        (replacement :: text, next)

/-- The characters that octets encode, from a given state on. -/
def decodeFrom (state : State) : List UInt8 → List Char
  | [] => if state = .between then [] else [replacement]
  | octet :: rest =>
      let (text, next) := step state octet.toNat
      text ++ decodeFrom next rest

/-- The characters that octets encode in UTF-8. -/
def decode (octets : List UInt8) : List Char :=
  decodeFrom .between octets

/-- The octets of text in UTF-8. -/
def encode (text : String) : List UInt8 :=
  text.toList.flatMap String.utf8EncodeChar

/-- The text that octets encode, if they encode text without a fault. -/
def decode? (octets : List UInt8) : Option String :=
  let text := String.ofList (decode octets)
  if encode text = octets then some text else none

end Utf8

namespace Utf16

/-- The two ways to order the octets of a unit. -/
inductive ByteOrder where
  /-- The low octet comes first. -/
  | little
  /-- The high octet comes first. -/
  | big
deriving DecidableEq, Repr

/-- A unit from its octets in the order in which they stand. -/
def ByteOrder.unit (order : ByteOrder) (one two : UInt8) : Nat :=
  match order with
  | .little => one.toNat + 256 * two.toNat
  | .big => 256 * one.toNat + two.toNat

/-- Units that begin a pair. -/
def isHigh (unit : Nat) : Bool :=
  0xD800 ≤ unit && unit ≤ 0xDBFF

/-- Units that end a pair. -/
def isLow (unit : Nat) : Bool :=
  0xDC00 ≤ unit && unit ≤ 0xDFFF

/-- A unit that does not end a pair: what it completes, and the pair that it begins. -/
def first (unit : Nat) : List Char × Option Nat :=
  if isHigh unit then ([], some unit)
  else if isLow unit then ([replacement], none)
  else ([Char.ofNat unit], none)

/-- One more unit after the pair that was begun, if one was. -/
def step (high : Option Nat) (unit : Nat) : List Char × Option Nat :=
  match high with
  | none => first unit
  | some high =>
      if isLow unit then
        ([Char.ofNat (0x10000 + (high - 0xD800) * 0x400 + (unit - 0xDC00))], none)
      else
        let (text, next) := first unit
        (replacement :: text, next)

/-- The characters that octets encode, after a pair that was begun, if one was. -/
def decodeFrom (order : ByteOrder) (high : Option Nat) : List UInt8 → List Char
  | [] => if high.isSome then [replacement] else []
  | [_] => [replacement]
  | one :: two :: rest =>
      let (text, next) := step high (order.unit one two)
      text ++ decodeFrom order next rest

/-- The characters that octets encode in UTF-16. -/
def decode (order : ByteOrder) (octets : List UInt8) : List Char :=
  decodeFrom order none octets

end Utf16

/-- The characters of a file.  A byte-order mark decides how to read it and is not part of them. -/
def decodeChars : List UInt8 → List Char
  | 0xEF :: 0xBB :: 0xBF :: rest => Utf8.decode rest
  | 0xFF :: 0xFE :: rest => Utf16.decode .little rest
  | 0xFE :: 0xFF :: rest => Utf16.decode .big rest
  | octets => Utf8.decode octets

/-- The text of a file. -/
def decode (octets : List UInt8) : String :=
  .ofList (decodeChars octets)

end Text
end SchemaBinding
