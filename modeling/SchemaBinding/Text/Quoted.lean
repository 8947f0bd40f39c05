import SchemaBinding.Text.CharClass

/-!
# Quoted text

Text between double quotes, in which every character can be told from every other on a printed
line.
-/

namespace SchemaBinding
namespace Text

/-- A code point in hexadecimal digits. -/
def hexadecimal (code : Nat) : List Char :=
  Nat.toDigits 16 code

/-- A character as it stands in quoted text. -/
def quoteChar (c : Char) : List Char :=
  if c = '"' then ['\\', '"']
  else if c = '\\' then ['\\', '\\']
  else if c = '\n' then ['\\', 'n']
  else if c = '\r' then ['\\', 'r']
  else if c = '\t' then ['\\', 't']
  else if c.toNat = 0 then ['\\', '0']
  else if isInvisible c then ['\\', 'u', '\x7b'] ++ hexadecimal c.toNat ++ ['\x7d']
  else [c]

/-- Text in double quotes. -/
def quote (text : String) : String :=
  .ofList ('"' :: text.toList.flatMap quoteChar ++ ['"'])

end Text
end SchemaBinding
