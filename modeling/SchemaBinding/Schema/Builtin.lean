import SchemaBinding.ExpandedName
import SchemaBinding.TypeRef

/-!
# Built-in types

The types that every schema may use without declaring them, and the types that they are bound to.
Some are bound to primitives, where unsigned numbers take the next larger signed type; the others
are bound to types of the core package.
-/

namespace SchemaBinding
namespace Schema

/-- The namespace of the schema language. -/
def schemaNamespace : String :=
  "http://www.w3.org/2001/XMLSchema"

/-- A name in the namespace of the schema language. -/
def schemaName (localName : String) : ExpandedName :=
  ⟨some schemaNamespace, localName⟩

/-- The type above all others. -/
def anyType : ExpandedName :=
  schemaName "anyType"

/-- Built-in types that are bound to primitives. -/
def primitiveBindings : List (String × TypeRef) :=
  [("boolean", "boolean"), ("float", "float"), ("double", "double"), ("long", "long"),
    ("int", "int"), ("short", "short"), ("byte", "byte"), ("unsignedByte", "short"),
    ("unsignedShort", "int"), ("unsignedInt", "long")].map fun (name, primitive) =>
    (name, TypeRef.primitive primitive)

/-- Built-in types that are bound to types of the core package. -/
def coreBindings : List (String × TypeRef) :=
  [("String", ["anySimpleType", "anyAtomicType", "string", "normalizedString", "token", "language",
      "Name", "NCName", "NMTOKEN", "ID", "IDREF", "ENTITY", "anyURI"]),
    ("BigDecimal", ["decimal"]),
    ("BigInteger", ["integer", "nonNegativeInteger", "positiveInteger", "nonPositiveInteger",
      "negativeInteger", "unsignedLong"]),
    ("Calendar", ["dateTime", "dateTimeStamp", "date", "time", "gYearMonth", "gYear", "gMonthDay",
      "gDay", "gMonth"]),
    ("Duration", ["duration", "yearMonthDuration", "dayTimeDuration"]),
    ("Bytes", ["base64Binary", "hexBinary"]),
    ("QName", ["QName", "NOTATION"]),
    ("Object", ["anyType"])].flatMap fun (core, names) =>
    names.map fun name => (name, TypeRef.core core)

/-- Built-in types that are lists. -/
def listBindings : List (String × TypeRef) :=
  ["IDREFS", "NMTOKENS", "ENTITIES"].map fun name => (name, TypeRef.listOf .string)

/-- All built-in types, by their names in the namespace of the schema language. -/
def builtinBindings : List (String × TypeRef) :=
  primitiveBindings ++ coreBindings ++ listBindings

/-- What a built-in type is bound to. -/
def builtinType? (name : ExpandedName) : Option TypeRef :=
  if name.isIn (some schemaNamespace) then builtinBindings.lookup name.localName else none

/-- Whether a name is that of a built-in type. -/
def isBuiltin (name : ExpandedName) : Bool :=
  (builtinType? name).isSome

end Schema
end SchemaBinding
