import SchemaBinding.Xml.Scanner
import SchemaBinding.Xml.Character

/-!
# Tokens of XML

The pieces that a document is made of, as they are written: tags with their attributes, character
data, references, comments and processing instructions.  References are not followed here, and
prefixes are not resolved.
-/

namespace SchemaBinding
namespace Xml

/-- A name as it is written; without a prefix, or with an empty one, the prefix is empty. -/
structure WrittenName where
  /-- The part before the colon. -/
  qualifier : String
  /-- The part after it. -/
  localName : String
deriving DecidableEq, Repr

/-- A reference, to a character or to a declared entity. -/
inductive Reference where
  /-- To a character, by its number or by one of the five names that need no declaration. -/
  | character (c : Char)
  /-- To an entity. -/
  | entity (name : String)
deriving DecidableEq, Repr

/-- A piece of an attribute value. -/
inductive Piece where
  /-- A character that stands for itself. -/
  | plain (c : Char)
  /-- A reference. -/
  | reference (target : Reference)
deriving DecidableEq, Repr

/-- An attribute as it is written. -/
structure WrittenAttribute where
  /-- Its name. -/
  name : WrittenName
  /-- Its value. -/
  value : List Piece
deriving DecidableEq, Repr

/-- How a tag that begins an element ends. -/
inductive TagEnd where
  /-- The content of the element follows. -/
  | opened
  /-- The element is empty. -/
  | empty
  /-- The text ends inside the tag. -/
  | broken
deriving DecidableEq, Repr

/-- A piece of content. -/
inductive Token where
  /-- A tag that begins an element. -/
  | startTag (name : WrittenName) (attributes : List WrittenAttribute) (ending : TagEnd)
  /-- A tag that ends an element. -/
  | endTag (name : WrittenName)
  /-- Character data. -/
  | characters (text : List Char)
  /-- Character data in which nothing is markup. -/
  | literal (text : List Char)
  /-- A reference. -/
  | reference (target : Reference)
  /-- A comment. -/
  | comment (text : List Char)
  /-- A processing instruction. -/
  | instruction (target : String) (content : List Char)
deriving DecidableEq, Repr

namespace Scanner

/-- Spaces, if there are any. -/
def spaces : Scanner Unit := do
  let _ ← takeWhile isSpace

/-- At least one space. -/
def someSpaces : Scanner Unit := do
  require !(← takeWhile isSpace).isEmpty

/-- Fails unless all characters may stand in a document. -/
def requireCharacters (text : List Char) : Scanner Unit :=
  require (text.all isCharacter)

/-- A name in which colons have no meaning. -/
def name : Scanner String := do
  let found ← takeWhile fun c => isNamePart c || c = ':'
  match found with
  | [] => fail
  | first :: _ =>
      require (isNameStart first || first = ':')
      return .ofList found

/-- Whether a part of a name begins as names do; a prefix may also be empty. -/
def beginsName : List Char → Bool
  | [] => false
  | first :: _ => isNameStart first

/-- A name with at most one colon. -/
def writtenName : Scanner WrittenName := do
  let first ← takeWhile isNamePart
  if ← accept ":" then
    let second ← takeWhile isNamePart
    require !(← sees ":")
    require (first.isEmpty || beginsName first)
    require (beginsName second)
    return ⟨.ofList first, .ofList second⟩
  else
    require (beginsName first)
    return ⟨"", .ofList first⟩

/-- The character with a number; numbers that no character has stand for a replacement. -/
def characterOfNumber (number : Nat) : Char :=
  if number.isValidChar then Char.ofNat number else '\uFFFD'

/-- The value of a digit in bases up to sixteen. -/
def digitValue? (c : Char) : Option Nat :=
  if '0' ≤ c && c ≤ '9' then some (c.toNat - '0'.toNat)
  else if 'a' ≤ c && c ≤ 'f' then some (c.toNat - 'a'.toNat + 10)
  else if 'A' ≤ c && c ≤ 'F' then some (c.toNat - 'A'.toNat + 10)
  else none

/-- Whether a character is a digit in a given base. -/
def isDigitIn (base : Nat) (c : Char) : Bool :=
  (digitValue? c).any (· < base)

/-- The number that digits denote in a given base. -/
def numberOfDigits (base : Nat) (digits : List Char) : Nat :=
  digits.foldl (fun number c => number * base + (digitValue? c).getD 0) 0

/-- The number of a character reference, which must fit into 32 bits. -/
def characterNumber (base : Nat) : Scanner Char := do
  let digits ← takeWhile (isDigitIn base)
  require !digits.isEmpty
  let number := numberOfDigits base digits
  require (number < 0x100000000)
  let c := characterOfNumber number
  require (isCharacter c)
  return c

/-- What a named reference refers to. -/
def namedReference (name : String) : Reference :=
  match name with
  | "quot" => .character '"'
  | "amp" => .character '&'
  | "apos" => .character '\''
  | "lt" => .character '<'
  | "gt" => .character '>'
  | other => .entity other

/-- A reference, after its ampersand. -/
def reference : Scanner Reference := do
  let target ←
    if ← accept "#" then
      if ← accept "x" then Reference.character <$> characterNumber 16
      else Reference.character <$> characterNumber 10
    else namedReference <$> name
  expect ";"
  return target

/-- One more piece of an attribute value, unless the value ends. -/
def piece : Scanner (Option Piece) := do
  match ← ahead with
  | [] => return none
  | c :: _ =>
      skip 1
      if c = '&' then return some (.reference (← reference))
      else return some (.plain c)

/-- The pieces of a text that stands as the value of an attribute. -/
def piecesOf (text : List Char) : Option (List Piece) :=
  run (many piece) text

/-- Text between quotes of either kind, which cannot stand in it. -/
def quoted (allowed : Char → Bool) : Scanner (List Char) := do
  let text ← ahead
  match text with
  | [] => fail
  | quote :: _ =>
      require (quote = '"' || quote = '\'')
      skip 1
      let found ← takeWhile fun c => c != quote && allowed c
      expect (.ofList [quote])
      return found

/-- A name and a value, in which references need not be right. -/
def nameAndValue : Scanner (WrittenName × List Char) := do
  let name ← writtenName
  spaces
  expect "="
  spaces
  let value ← quoted fun c => c != '<' && isCharacter c
  return (name, value)

/-- An attribute. -/
def writtenAttribute : Scanner WrittenAttribute := do
  let (name, value) ← nameAndValue
  return ⟨name, ← given (piecesOf value)⟩

/-- One more attribute after at least one space, unless the tag or the text ends. -/
def moreAttributes : Scanner (Option WrittenAttribute) := do
  if (← ahead).isEmpty then return none
  let separated := !(← takeWhile isSpace).isEmpty
  if (← sees "/") || (← sees ">") then return none
  require separated
  return some (← writtenAttribute)

/-- The end of a tag that begins an element. -/
def tagEnd : Scanner TagEnd := do
  if (← ahead).isEmpty then return .broken
  else if ← accept "/" then
    expect ">"
    return .empty
  else
    expect ">"
    return .opened

/-- A tag that begins an element, after its first character. -/
def startTag : Scanner Token := do
  let name ← writtenName
  let attributes ← many moreAttributes
  return .startTag name attributes (← tagEnd)

/-- A tag that ends an element, after its first two characters. -/
def endTag : Scanner Token := do
  let name ← writtenName
  spaces
  expect ">"
  return .endTag name

/-- A comment, after the characters that begin it. -/
def comment : Scanner Token := do
  let text ← takeThrough "-->"
  requireCharacters text
  require !(occurs ['-', '-'] text)
  require (text.getLast? != some '-')
  return .comment text

/-- A processing instruction, after the characters that begin it. -/
def instruction : Scanner Token := do
  require !(← sees "xml ")
  let target ← name
  spaces
  let content ← takeThrough "?>"
  requireCharacters content
  return .instruction target content

/-- Character data in which nothing is markup, after the characters that begin it. -/
def literal : Scanner Token := do
  let text ← takeThrough "]]>"
  requireCharacters text
  return .literal text

/-- Markup, after its first character. -/
def markup : Scanner Token := do
  if ← accept "!--" then comment
  else if ← accept "![CDATA[" then literal
  else if ← accept "?" then instruction
  else if ← accept "/" then endTag
  else startTag

/-- A piece of content that begins with a given character, after that character. -/
def token (first : Char) : Scanner Token :=
  if first = '<' then markup
  else if first = '&' then Token.reference <$> reference
  else do
    let text := first :: (← takeWhile fun c => c != '<' && c != '&')
    requireCharacters text
    require !(occurs [']', ']', '>'] text)
    return .characters text

end Scanner
end Xml
end SchemaBinding
