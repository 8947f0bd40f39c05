import SchemaBinding.Xml.Entity

/-!
# Before the outermost element

What may stand before the outermost element of a document: the XML declaration, comments,
processing instructions and a document type with declarations of entities.
-/

namespace SchemaBinding
namespace Xml
namespace Scanner

/-- At least one space, unless a declaration or the text ends. -/
def declarationSpaces : Scanner Unit := do
  let found ← takeWhile isSpace
  let ends := (← sees "?>") || (← ahead).isEmpty
  require (!found.isEmpty || ends)

/-- The XML declaration, after the characters that begin it. -/
def xmlDeclaration : Scanner Unit := do
  spaces
  require (← sees "version")
  let _ ← nameAndValue
  declarationSpaces
  if ← sees "encoding" then
    let _ ← nameAndValue
    declarationSpaces
  if ← sees "standalone" then
    let _ ← nameAndValue
  spaces
  expect "?>"

/-- One more comment or processing instruction, after spaces. -/
def moreMiscellany : Scanner (Option Unit) := do
  spaces
  if ← accept "<!--" then
    let _ ← comment
    return some ()
  else if ← accept "<?" then
    let _ ← instruction
    return some ()
  else return none

/-- Comments, processing instructions and spaces. -/
def miscellany : Scanner Unit := do
  let _ ← many moreMiscellany

/-- Text between quotes that may hold any characters. -/
def anyQuoted : Scanner (List Char) :=
  quoted fun _ => true

/-- Where something outside the document is to be found, if that stands next. -/
def externalId : Scanner Bool := do
  if ← accept "SYSTEM" then
    someSpaces
    let _ ← anyQuoted
    return true
  else if ← accept "PUBLIC" then
    someSpaces
    let _ ← anyQuoted
    someSpaces
    let _ ← anyQuoted
    return true
  else return false

/-- The declaration of an entity, after the characters that begin it; only texts are kept. -/
def entityDeclaration : Scanner (Option (String × List Char)) := do
  someSpaces
  let general := !(← accept "%")
  if !general then someSpaces
  let declared ← name
  someSpaces
  let text ←
    if ← externalId then
      if general then
        spaces
        if ← accept "NDATA" then
          someSpaces
          let _ ← name
      pure none
    else some <$> anyQuoted
  spaces
  expect ">"
  return text.map fun text => (declared, text)

/-- One more declaration of a document type, unless the declarations end. -/
def moreDeclarations : Scanner (Option (Option (String × List Char))) := do
  spaces
  if ← accept "<!ENTITY" then return some (← entityDeclaration)
  else if ← accept "<!--" then
    let _ ← comment
    return some none
  else if ← accept "<?" then
    let _ ← instruction
    return some none
  else if (← sees "<!ELEMENT") || (← sees "<!ATTLIST") || (← sees "<!NOTATION") then
    let _ ← takeThrough ">"
    return some none
  else return none

/-- A document type, after the characters that begin it. -/
def documentType : Scanner Entities := do
  someSpaces
  let _ ← name
  spaces
  let _ ← externalId
  spaces
  if ← accept ">" then return []
  expect "["
  let found ← many moreDeclarations
  expect "]"
  spaces
  expect ">"
  return found.filterMap id

/-- What stands before the outermost element; a document type only where it is allowed. -/
def prolog (typeAllowed : Bool) : Scanner Entities := do
  let _ ← accept "\uFEFF"
  if ← accept "<?xml " then xmlDeclaration
  miscellany
  if ← accept "<!DOCTYPE" then
    require typeAllowed
    let entities ← documentType
    miscellany
    return entities
  else return []

end Scanner
end Xml
end SchemaBinding
