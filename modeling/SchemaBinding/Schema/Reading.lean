import SchemaBinding.Schema.Builtin
import SchemaBinding.Schema.Declaration
import SchemaBinding.Schema.Reference

/-!
# Reading schemas

From the tree of a document to the declarations of the schema that it holds.  Only elements in the
namespace of the schema language count; everything between them is passed over.
-/

namespace SchemaBinding
namespace Schema

/-- The construct that an element of the schema language stands for. -/
def constructOf? (tag : Xml.Tag) : Option String :=
  if tag.name.isIn (some schemaNamespace) then some tag.name.localName else none

/-- An attribute that an element must have. -/
def required (tag : Xml.Tag) (attributeName : String) : Deferred String :=
  match tag.attribute? attributeName with
  | some value => .ok value
  | none => .error (.missingAttribute tag.name.localName attributeName)

/-- The name that an attribute of an element refers to, if the element has the attribute. -/
def reference? (scope : Xml.Scope) (tag : Xml.Tag) (attributeName : String) :
    Option (Deferred ExpandedName) :=
  (tag.attribute? attributeName).map (resolveName scope)

/-- The name that an attribute refers to, of an element that must have the attribute. -/
def requiredReference (scope : Xml.Scope) (tag : Xml.Tag) (attributeName : String) :
    Deferred ExpandedName := do
  resolveName scope (← required tag attributeName)

/-- A number in decimal digits, which may follow a plus sign. -/
def natural? (text : List Char) : Option Nat :=
  let digits :=
    match text with
    | '+' :: rest => rest
    | _ => text
  if digits.isEmpty || !digits.all Text.isDigit then none
  else some (digits.foldl (fun number c => number * 10 + (c.toNat - '0'.toNat)) 0)

/-- Whether a bound on occurrences allows more than one; numbers have at most 64 bits. -/
def allowsMany (bound : String) : Deferred Bool :=
  let text := Text.trim bound
  if text = "unbounded" then .ok true
  else
    match natural? text.toList with
    | some number =>
        if number < 0x10000000000000000 then .ok (1 < number) else .error (.invalidOccurs text)
    | none => .error (.invalidOccurs text)

/-- Whether a particle may occur more than once. -/
def repeated (tag : Xml.Tag) : Deferred Bool :=
  match tag.attribute? "maxOccurs" with
  | none => .ok false
  | some bound => allowsMany bound

/-- A use by name, if there is a name, and another use if there is none. -/
def Use.named? {Definition : Type} (name : Option (Deferred ExpandedName))
    (other : Use Definition) : Use Definition :=
  match name with
  | some name => .named name
  | none => other

mutual

/-- The derivation that a part of a simple type makes. -/
def derivation? (scope : Xml.Scope) : Xml.Node → Option SimpleType
  | .element tag children =>
      let inner := scope.enter tag.declarations
      match constructOf? tag with
      | some "restriction" =>
          some (.restriction (.named? (reference? inner tag "base") (inlineType inner children)))
      | some "list" =>
          some (.list (.named? (reference? inner tag "itemType") (inlineType inner children)))
      | some "union" => some .union
      | _ => none
  | _ => none

/-- The definition that the parts of a simple type give; the first derivation counts. -/
def simpleType (scope : Xml.Scope) : List Xml.Node → SimpleType
  | [] => .undefined
  | node :: rest =>
      match derivation? scope node with
      | some definition => definition
      | none => simpleType scope rest

/-- The simple type that a part of an element defines. -/
def inlineType? (scope : Xml.Scope) : Xml.Node → Option SimpleType
  | .element tag children =>
      if constructOf? tag = some "simpleType" then
        some (simpleType (scope.enter tag.declarations) children)
      else none
  | _ => none

/-- The first simple type that the parts of an element define. -/
def inlineType (scope : Xml.Scope) : List Xml.Node → TypeUse
  | [] => .absent
  | node :: rest =>
      match inlineType? scope node with
      | some definition => .inline definition
      | none => inlineType scope rest

end

/-- How the type of an element or attribute is given, apart from complex types. -/
def typeUse (scope : Xml.Scope) (tag : Xml.Tag) (children : List Xml.Node) : TypeUse :=
  .named? (reference? scope tag "type") (inlineType scope children)

/-- An attribute, unless it is prohibited. -/
def attributeItems (scope : Xml.Scope) (tag : Xml.Tag) (children : List Xml.Node) :
    List AttributeItem :=
  if tag.attribute? "use" = some "prohibited" then []
  else
    match reference? scope tag "ref" with
    | some name => [.reference name]
    | none => [.declaration (required tag "name") (typeUse scope tag children)]

/-- The attributes that a part of an extension of simple content adds. -/
def addedAttribute (scope : Xml.Scope) : Xml.Node → List AttributeItem
  | .element tag children =>
      match constructOf? tag with
      | some "attribute" => attributeItems (scope.enter tag.declarations) tag children
      | none | some "annotation" | some "assert" => []
      | some other => [.unsupported other]
  | _ => []

/-- The derivation that a part of a simple content makes; a restriction adds nothing. -/
def simpleDerivation? (scope : Xml.Scope) : Xml.Node → Option Content
  | .element tag children =>
      let inner := scope.enter tag.declarations
      match constructOf? tag with
      | some "extension" =>
          some (.simpleContent (requiredReference inner tag "base")
            (children.flatMap (addedAttribute inner)))
      | some "restriction" => some (.simpleContent (requiredReference inner tag "base") [])
      | _ => none
  | _ => none

mutual

/-- What a part of a model group declares. -/
def particle (scope : Xml.Scope) : Xml.Node → List Particle
  | .element tag children =>
      let inner := scope.enter tag.declarations
      match constructOf? tag with
      | some "element" =>
          match reference? inner tag "ref" with
          | some name => [.reference (repeated tag) name]
          | none =>
              [.element (repeated tag) (required tag "name") (typeUse inner tag children)
                (body? inner children)]
      | some "sequence" | some "choice" | some "all" =>
          [.group (repeated tag) (particles inner children)]
      | none | some "annotation" => []
      | some other => [.unsupported other]
  | _ => []

/-- What the parts of a model group declare. -/
def particles (scope : Xml.Scope) : List Xml.Node → List Particle
  | [] => []
  | node :: rest => particle scope node ++ particles scope rest

/-- What a part of a complex type declares. -/
def content (scope : Xml.Scope) : Xml.Node → List Content
  | .element tag children =>
      let inner := scope.enter tag.declarations
      match constructOf? tag with
      | some "sequence" | some "choice" | some "all" =>
          [.group (repeated tag) (particles inner children)]
      | some "attribute" => (attributeItems inner tag children).map .attributeItem
      | some "complexContent" => (complexContent? inner children).toList
      | some "simpleContent" => (children.findSome? (simpleDerivation? inner)).toList
      | none | some "annotation" | some "assert" | some "openContent" => []
      | some other => [.unsupported other]
  | _ => []

/-- What the parts of a complex type declare. -/
def contents (scope : Xml.Scope) : List Xml.Node → List Content
  | [] => []
  | node :: rest => content scope node ++ contents scope rest

/-- The derivation that a part of a complex content makes; a restriction adds nothing. -/
def complexDerivation? (scope : Xml.Scope) : Xml.Node → Option Content
  | .element tag children =>
      let inner := scope.enter tag.declarations
      match constructOf? tag with
      | some "extension" =>
          some (.complexContent (requiredReference inner tag "base") (contents inner children))
      | some "restriction" => some (.complexContent (requiredReference inner tag "base") [])
      | _ => none
  | _ => none

/-- The first derivation that the parts of a complex content make. -/
def complexContent? (scope : Xml.Scope) : List Xml.Node → Option Content
  | [] => none
  | node :: rest =>
      match complexDerivation? scope node with
      | some derivation => some derivation
      | none => complexContent? scope rest

/-- The content of the complex type that a part of an element defines. -/
def bodyOf? (scope : Xml.Scope) : Xml.Node → Option (List Content)
  | .element tag children =>
      if constructOf? tag = some "complexType" then
        some (contents (scope.enter tag.declarations) children)
      else none
  | _ => none

/-- The content of the first complex type that the parts of an element define. -/
def body? (scope : Xml.Scope) : List Xml.Node → Option (List Content)
  | [] => none
  | node :: rest =>
      match bodyOf? scope node with
      | some body => some body
      | none => body? scope rest

end

/-- What a part of a schema declares at its top. -/
def declaration? (scope : Xml.Scope) : Xml.Node → Option Declaration
  | .element tag children =>
      let inner := scope.enter tag.declarations
      match constructOf? tag with
      | some "complexType" => some (.complexType (required tag "name") (contents inner children))
      | some "simpleType" => some (.simpleType (required tag "name") (simpleType inner children))
      | some "element" =>
          some (.element (required tag "name") (typeUse inner tag children) (body? inner children))
      | some "attribute" =>
          some (.attributeType (required tag "name") (typeUse inner tag children))
      | none | some "annotation" | some "notation" | some "defaultOpenContent" => none
      | some other =>
          if other ∈ ["import", "include", "redefine", "override"] then
            some (.external other (tag.attribute? "schemaLocation"))
          else some (.unsupported other)
  | _ => none

/-- The schema that a document holds. -/
def Document.ofXml (document : Xml.Document) : Except SchemaError Document :=
  if constructOf? document.root = some "schema" then
    .ok ⟨document.root.attribute? "targetNamespace",
      document.children.filterMap (declaration? document.scope)⟩
  else .error (.notASchema document.root.name.localName)

end Schema
end SchemaBinding
