import SchemaBinding.Schema.Builtin
import SchemaBinding.Schema.Declaration

/-!
# Resolution of types

Which type a name or a definition in a schema is bound to.  What a schema declares goes before what
is built in.  A simple type is bound to the type at the root of its restrictions, and a list to the
lists of what its items are bound to.
-/

namespace SchemaBinding
namespace Schema

/-- A type declared at the top of a schema. -/
inductive TypeDefinition where
  /-- A complex type, with the class that it is bound to and the type of that class. -/
  | complex (id : ClassId) (type : TypeRef)
  /-- A simple type. -/
  | simple (definition : SimpleType)

/-- An element declared at the top of a schema. -/
structure ElementDefinition where
  /-- How its type is given, apart from a complex type. -/
  type : TypeUse
  /-- The type of the class that its anonymous complex type is bound to. -/
  classType : Option TypeRef

/-- What a schema declares at its top, by name. -/
structure Globals where
  /-- The types. -/
  types : List (ExpandedName × TypeDefinition) := []
  /-- The elements. -/
  elements : List (ExpandedName × ElementDefinition) := []
  /-- The attributes. -/
  attributes : List (ExpandedName × TypeUse) := []

namespace Globals

/-- The names of declared types that are not being resolved. -/
def unresolved (globals : Globals) (pending : List ExpandedName) : List ExpandedName :=
  (globals.types.map Prod.fst).filter (· ∉ pending)

/-- Resolving one more declared type leaves fewer of them unresolved. -/
theorem length_unresolved_cons_lt (globals : Globals) (pending : List ExpandedName)
    {name : ExpandedName} {definition : TypeDefinition}
    (declared : globals.types.lookup name = some definition) (fresh : name ∉ pending) :
    (globals.unresolved (name :: pending)).length < (globals.unresolved pending).length := by
  have split : globals.unresolved (name :: pending) =
      (globals.unresolved pending).filter (· ≠ name) := by
    simp only [unresolved, List.filter_filter]
    congr 1
    funext other
    simp [List.mem_cons, not_or]
  have isKey : name ∈ globals.types.map Prod.fst := by
    obtain ⟨before, after, equal, _⟩ := List.lookup_eq_some_iff.1 declared
    simp [equal]
  rw [split]
  apply List.length_filter_lt_length_iff_exists.2
  exact ⟨name, by simp only [unresolved, List.mem_filter]; exact ⟨isKey, by simpa using fresh⟩,
    by simp⟩

/--
The type that a use of a simple type is bound to.  `pending` names the declared types whose
resolution has led here; one that is met again is derived from itself.
-/
def resolveUse (globals : Globals) (pending : List ExpandedName) :
    TypeUse → Except SchemaError TypeRef
  | .absent => .ok .string
  | .inline .union => .ok .string
  | .inline .undefined => .ok .string
  | .inline (.restriction base) => globals.resolveUse pending base
  | .inline (.list item) => do
      let type ← globals.resolveUse pending item
      return .listOf type
  | .named (.error error) => .error error
  | .named (.ok name) =>
      match found : globals.types.lookup name with
      | some (.complex _ type) => .ok type
      | some (.simple definition) =>
          if fresh : name ∉ pending then
            have := globals.length_unresolved_cons_lt pending found fresh
            globals.resolveUse (name :: pending) (.inline definition)
          else .error (.circularType name.localName)
      | none =>
          match builtinType? name with
          | some type => .ok type
          | none => .error (.unresolvedType name)
termination_by use => ((globals.unresolved pending).length, sizeOf use)

/-- The type that a name is bound to. -/
def resolveType (globals : Globals) (name : ExpandedName) : Except SchemaError TypeRef :=
  globals.resolveUse [] (.named (.ok name))

end Globals

/-- What the base of a derivation is. -/
inductive Base where
  /-- The type above all others. -/
  | any
  /-- A complex type, which is bound to a class. -/
  | complex (id : ClassId)
  /-- A type without elements. -/
  | simple (type : TypeRef)

/-- What the base of a derivation is, by its name. -/
def Globals.resolveBase (globals : Globals) (name : ExpandedName) : Except SchemaError Base :=
  match globals.types.lookup name with
  | some (.complex id _) => .ok (.complex id)
  | some (.simple _) => Base.simple <$> globals.resolveType name
  | none => if name = anyType then .ok .any else Base.simple <$> globals.resolveType name

/-- The type of an element that is declared at the top of the schema. -/
def Globals.elementType (globals : Globals) (element : ElementDefinition) :
    Except SchemaError TypeRef :=
  match element.type, element.classType with
  | .named name, _ => globals.resolveUse [] (.named name)
  | _, some type => .ok type
  | .inline definition, none => globals.resolveUse [] (.inline definition)
  | .absent, none => .ok .object

/-- The type of an attribute that a type refers to by name. -/
def Globals.attributeType (globals : Globals) (target : Option String) (name : ExpandedName) :
    Except SchemaError TypeRef :=
  match globals.attributes.lookup name with
  | some type => globals.resolveUse [] type
  | none => if name.isIn target then .error (.unresolvedAttribute name) else .ok .string

end Schema
end SchemaBinding
