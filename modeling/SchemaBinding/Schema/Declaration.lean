import SchemaBinding.Schema.Error

/-!
# Declarations

The parts of a schema that have a binding, freed from their markup.  Names are resolved where they
stand, and what is at fault is kept as a fault.  Constructs that have no binding are kept by name,
so that they can be reported where they are met.
-/

namespace SchemaBinding
namespace Schema

/-- How a type is given: by a name, by a definition on the spot, or not at all. -/
inductive Use (Definition : Type) where
  /-- By a name. -/
  | named (name : Deferred ExpandedName)
  /-- By a definition on the spot. -/
  | inline (definition : Definition)
  /-- Not at all. -/
  | absent
deriving Repr

/-- The definition of a simple type. -/
inductive SimpleType where
  /-- A restriction of another type. -/
  | restriction (base : Use SimpleType)
  /-- A list of values of another type. -/
  | list (item : Use SimpleType)
  /-- A union of other types. -/
  | union
  /-- No definition. -/
  | undefined
deriving Repr

/-- How the type of an attribute or the like is given. -/
abbrev TypeUse := Use SimpleType

/-- What a type may declare or use as an attribute. -/
inductive AttributeItem where
  /-- An attribute that is declared elsewhere. -/
  | reference (name : Deferred ExpandedName)
  /-- An attribute that is declared on the spot. -/
  | declaration (name : Deferred String) (type : TypeUse)
  /-- A construct without a binding. -/
  | unsupported (construct : String)
deriving Repr

mutual

/-- A part of a model group. -/
inductive Particle where
  /-- An element that is declared elsewhere. -/
  | reference (repeated : Deferred Bool) (name : Deferred ExpandedName)
  /--
  An element that is declared on the spot, with its type and the content of its anonymous complex
  type, if it has one.
  -/
  | element (repeated : Deferred Bool) (name : Deferred String) (type : TypeUse)
      (body : Option (List Content))
  /-- A group inside the group. -/
  | group (repeated : Deferred Bool) (particles : List Particle)
  /-- A construct without a binding. -/
  | unsupported (construct : String)

/-- A part of a complex type. -/
inductive Content where
  /-- A model group. -/
  | group (repeated : Deferred Bool) (particles : List Particle)
  /-- An attribute. -/
  | attributeItem (item : AttributeItem)
  /-- A derivation from a base, with what it adds to the base. -/
  | complexContent (base : Deferred ExpandedName) (added : List Content)
  /-- A derivation from a base without elements, with the attributes that it adds to the base. -/
  | simpleContent (base : Deferred ExpandedName) (added : List AttributeItem)
  /-- A construct without a binding. -/
  | unsupported (construct : String)

end

/-- A declaration at the top of a schema. -/
inductive Declaration where
  /-- A complex type. -/
  | complexType (name : Deferred String) (body : List Content)
  /-- A simple type. -/
  | simpleType (name : Deferred String) (definition : SimpleType)
  /-- An element, with its type and the content of its anonymous complex type, if it has one. -/
  | element (name : Deferred String) (type : TypeUse) (body : Option (List Content))
  /-- An attribute. -/
  | attributeType (name : Deferred String) (type : TypeUse)
  /-- A reference to another document. -/
  | external (construct : String) (location : Option String)
  /-- A construct without a binding. -/
  | unsupported (construct : String)

/-- A schema: its target namespace and what it declares, in the order of the document. -/
structure Document where
  /-- The namespace that declared names are in. -/
  targetNamespace : Option String
  /-- The declarations. -/
  declarations : List Declaration

end Schema
end SchemaBinding
