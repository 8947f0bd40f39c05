import SchemaBinding.ExpandedName
import SchemaBinding.Outline.Basic

/-!
# Errors of schemas

What can be wrong with a schema document, from its text to the model that it describes.
-/

namespace SchemaBinding

/-- The reason why a schema has no binding. -/
inductive SchemaError where
  /-- The document is not well formed. -/
  | notWellFormed
  /-- The outermost element is not a schema. -/
  | notASchema (localName : String)
  /-- A prefix is not declared where it is used. -/
  | prefixNotResolved (label : String)
  /-- An element lacks an attribute that it must have. -/
  | missingAttribute (element attributeName : String)
  /-- A bound on occurrences is neither a number nor `unbounded`. -/
  | invalidOccurs (bound : String)
  /-- Two declarations of one kind have one name. -/
  | duplicateDeclaration (name : ExpandedName)
  /-- A type is declared under the name of a built-in one. -/
  | builtinOverwrite (name : ExpandedName)
  /-- A type is referred to but not declared. -/
  | unresolvedType (name : ExpandedName)
  /-- An element is referred to but not declared. -/
  | unresolvedElement (name : ExpandedName)
  /-- An attribute is referred to but not declared. -/
  | unresolvedAttribute (name : ExpandedName)
  /-- A simple type is derived from itself. -/
  | circularType (name : String)
  /-- The schema describes something that is no model. -/
  | model (error : ModelError)
deriving DecidableEq, Repr

namespace SchemaError

/-- The wording of the error. -/
def message : SchemaError → String
  | notWellFormed => "failed to parse the schema document"
  | notASchema localName => "expected a <schema> root element, found <" ++ localName ++ ">"
  | prefixNotResolved label =>
      "failed to resolve prefix " ++ Text.quote label ++ " to a namespace URI"
  | missingAttribute element attributeName =>
      "<" ++ element ++ "> is missing the " ++ Text.quote attributeName ++ " attribute"
  | invalidOccurs bound => "invalid maxOccurs value " ++ Text.quote bound
  | duplicateDeclaration name => name.text ++ " is declared more than once"
  | builtinOverwrite name => "tried to overwrite built-in type " ++ name.text
  | unresolvedType name => "type " ++ name.text ++ " is not defined"
  | unresolvedElement name => "element " ++ name.text ++ " is not defined"
  | unresolvedAttribute name => "attribute " ++ name.text ++ " is not defined"
  | circularType name => "simple type " ++ name ++ " is derived from itself"
  | model error => error.message

end SchemaError

/--
A part of a schema that may be at fault.  The fault counts only if the part is needed, so it is
kept in place of the part.
-/
abbrev Deferred (α : Type) := Except SchemaError α

end SchemaBinding
