import SchemaBinding.Proofs.Arena.Finish
import SchemaBinding.Proofs.SchemasSideBySide

/-!
# Walks over documents

The binding of a schema as a walk over the elements of its document, without the declarations read
from them.  A walk works in an arena, where reading a place that is missing or empty breaks it off.
It notes the classes that it creates under the places of their complex types and breaks off where it
needs a class that it has not noted.  It follows names from one declaration to the next, however
these refer to each other, and nothing in its equations says that it ends.
-/

namespace SchemaBinding
namespace Schema

open Xml (Place Spot)

/-- An element of a document: where it stands and what it is. -/
structure Site where
  /-- The way to the element from the outermost one. -/
  place : Place
  /-- The element. -/
  spot : Spot

namespace Site

/-- An element directly inside another one. -/
def inside (site : Site) (child : Nat × Spot) : Site :=
  ⟨site.place ++ [child.1], child.2⟩

/-- The elements directly inside an element. -/
def children (site : Site) : List Site :=
  site.spot.children.map site.inside

/-- The first element directly inside an element that stands for one of some constructs. -/
def first? (site : Site) (wanted : List String) : Option Site :=
  (Schema.first? wanted site.spot).map site.inside

/-- The construct that an element stands for. -/
def construct? (site : Site) : Option String :=
  constructOf? site.spot.tag

/-- The name that an attribute of an element refers to, if the element has the attribute. -/
def reference? (site : Site) (attributeName : String) : Option (Deferred ExpandedName) :=
  Schema.reference? site.spot.scope site.spot.tag attributeName

/-- The name that an element gives itself. -/
def name (site : Site) : Deferred String :=
  required site.spot.tag "name"

/-- How a type is given at an element: by a name or by a definition on the spot. -/
def use (site : Site) (attributeName : String) : TypeUse :=
  .named? (site.reference? attributeName) (inlineType site.spot.scope site.spot.content)

/-- The complex type of a declaration at the top, if it has one that a class is created for. -/
def topType? (site : Site) : Option Site :=
  if site.construct? = some "complexType" then some site
  else if site.construct? = some "element" then site.first? ["complexType"]
  else none

/-- The outermost element of a document. -/
def outermost (document : Xml.Document) : Site :=
  ⟨[], document.spot⟩

end Site

/-- How a walk breaks off. -/
inductive Halt where
  /-- No class was noted for a complex type. -/
  | missing
  /-- The schema is at fault. -/
  | failed (error : SchemaError)
deriving DecidableEq, Repr

/-- What a walk has come to. -/
structure WalkState where
  /-- The model. -/
  arena : Arena := {}
  /-- The warnings, in the order in which they arose. -/
  warnings : List Warning := []
  /-- The classes, each with the place of its complex type. -/
  classes : List (Place × ClassId) := []

/-- A walk, which may break off and may go on for ever. -/
abbrev Walk (α : Type) := ExceptT Halt (StateT WalkState Option) α

/-- The declarations at the top of a schema, by name. -/
structure Declared where
  /-- The types. -/
  types : List (ExpandedName × Site) := []
  /-- The elements. -/
  elements : List (ExpandedName × Site) := []
  /-- The attributes. -/
  attributes : List (ExpandedName × Site) := []

namespace Walk

/-- The result of a walk and the state after it, if the walk ends. -/
def outcome? {α : Type} (walk : Walk α) (state : WalkState) :
    Option (Except Halt α × WalkState) :=
  StateT.run (ExceptT.run walk) state

/-- The value of a part, whose fault counts from here on. -/
def need {α : Type} (part : Deferred α) : Walk α :=
  match part with
  | .ok value => return value
  | .error error => throw (.failed error)

/-- Adds a warning. -/
def warn (warning : Warning) : Walk Unit :=
  modify fun state => { state with warnings := state.warnings ++ [warning] }

/-- Carries out a program in the arena, whatever it leaves of it. -/
def carryOut {α : Type} (program : Arena.Work α) : Walk α := do
  let state ← get
  match program.run state.arena with
  | .ok answer arena => do
      set { state with arena }
      return answer
  | .error error arena => do
      set { state with arena }
      throw (.failed (.model error))

/-- Adds a class. -/
def addClass (name : String) (package : PackageId) (enclosing : Option ClassId) : Walk ClassId :=
  carryOut (Arena.addClass name package enclosing)

/-- The type of a class. -/
def typeOf (id : ClassId) : Walk TypeRef :=
  carryOut (Arena.consult fun arena => arena.typeOf id)

/-- Gives a class one more field. -/
def addField (owner : ClassId) (name : String) (type : TypeRef) : Walk Unit := do
  let _ ← carryOut (Arena.addField owner name type)

/-- Gives a class one more supertype. -/
def addSupertype (owner supertype : ClassId) : Walk Unit :=
  carryOut (Arena.addSupertype owner supertype)

/-- Finishes the model, which uses the arena up. -/
def finish : Walk Outline := do
  match (← get).arena.finished with
  | .ok (outline, _) => return outline
  | .error error => throw (.failed (.model error))

/-- The class that is noted for the complex type at a place, if there is one. -/
def noted? (place : Place) : Walk (Option ClassId) := do
  return (← get).classes.lookup place

/-- The class that is noted for the complex type at a place. -/
def classAt (place : Place) : Walk ClassId := do
  match ← noted? place with
  | some id => return id
  | none => throw .missing

/-- Notes the class for the complex type at a place. -/
def note (place : Place) (id : ClassId) : Walk Unit :=
  modify fun state => { state with classes := (place, id) :: state.classes }

/-- Applies the policy to the declaration of a type. -/
def checkOverwrite (setting : Setting) (name : ExpandedName) : Walk Unit :=
  if isBuiltin name then
    match setting.overwrite with
    | .deny => throw (.failed (.builtinOverwrite name))
    | .warn => warn (.builtinOverwritten name)
    | .allow => return
  else return

/-- Notes a declaration under a name that must be new. -/
def insertNew (entries : List (ExpandedName × Site)) (name : ExpandedName) (site : Site) :
    Walk (List (ExpandedName × Site)) :=
  if (entries.lookup name).isSome then throw (.failed (.duplicateDeclaration name))
  else return entries ++ [(name, site)]

end Walk

open Walk

/-! ## Types -/

namespace Declared

mutual

/-- The type of a name.  `resolving` are the places of the simple types that have led here. -/
def resolveType (declared : Declared) (resolving : List Place) (name : ExpandedName) :
    Walk TypeRef :=
  match declared.types.lookup name with
  | some site =>
      if site.construct? = some "complexType" then do
        let id ← classAt site.place
        typeOf id
      else declared |>.resolveSimpleType resolving site
  | none =>
      match builtinType? name with
      | some type => return type
      | none => throw (.failed (.unresolvedType name))
partial_fixpoint

/-- The type that an attribute of an element names, or else that of the simple type inside the
element. -/
def typeOrInline (declared : Declared) (resolving : List Place) (site : Site)
    (attributeName : String) : Walk TypeRef :=
  match site.reference? attributeName with
  | some name => do
      let name ← need name
      declared |>.resolveType resolving name
  | none =>
      match site.first? ["simpleType"] with
      | some definition => declared |>.resolveSimpleType resolving definition
      | none => return .string
partial_fixpoint

/-- The type at the root of a simple type. -/
def resolveSimpleType (declared : Declared) (resolving : List Place) (site : Site) :
    Walk TypeRef :=
  if site.place ∈ resolving then
    throw (.failed (.circularType ((site.spot.tag.attribute? "name").getD "(anonymous)")))
  else
    match site.first? ["restriction", "list", "union"] with
    | some derivation =>
        if derivation.construct? = some "restriction" then
          declared |>.typeOrInline (site.place :: resolving) derivation "base"
        else if derivation.construct? = some "list" then do
          let item ← declared |>.typeOrInline (site.place :: resolving) derivation "itemType"
          return .listOf item
        else return .string
    | none => return .string
partial_fixpoint

end

/-- What the base of a derivation is, by its name. -/
def resolveBase (declared : Declared) (name : ExpandedName) : Walk Base :=
  match declared.types.lookup name with
  | some site =>
      if site.construct? = some "complexType" then do
        let id ← classAt site.place
        return .complex id
      else do
        let type ← declared.resolveType [] name
        return .simple type
  | none =>
      if name = anyType then return .any
      else do
        let type ← declared.resolveType [] name
        return .simple type

end Declared

/-! ## Content -/

namespace Site

section Content

variable (setting : Setting) (declared : Declared)

/-- Binds an attribute to a field. -/
def visitAttribute (owner : ClassId) (site : Site) : Walk Unit :=
  if site.spot.tag.attribute? "use" = some "prohibited" then return
  else
    match site.reference? "ref" with
    | some name => do
        let name ← need name
        match declared.attributes.lookup name with
        | some declaration => do
            let type ← declared.typeOrInline [] declaration "type"
            addField owner (fieldName name.localName) type
        | none =>
            if name.isIn setting.target then throw (.failed (.unresolvedAttribute name))
            else addField owner (fieldName name.localName) .string
    | none => do
        let name ← need site.name
        let type ← declared.typeOrInline [] site "type"
        addField owner (fieldName name) type

/-- Binds the base of a derivation by complex content to a supertype. -/
def visitComplexBase (owner : ClassId) (derivation : Site) : Walk Unit := do
  let base ← need (baseAt derivation.spot)
  match ← declared.resolveBase base with
  | .any => return
  | .complex supertype => addSupertype owner supertype
  | .simple _ => warn (.complexFromSimple base)

/-- Binds the base of a derivation by simple content to a field or a supertype. -/
def visitSimpleBase (owner : ClassId) (derivation : Site) : Walk Unit := do
  let base ← need (baseAt derivation.spot)
  match ← declared.resolveBase base with
  | .any => warn (.simpleFromAny base)
  | .complex supertype => addSupertype owner supertype
  | .simple type => addField owner "value" type

/-- Binds an element inside an extension by simple content. -/
def visitAdded (owner : ClassId) (site : Site) : Walk Unit :=
  if site.construct? = some "attribute" then visitAttribute setting declared owner site
  else if IsPassedOver ["annotation", "assert"] site.spot.tag then return
  else warn (.unsupported site.spot.tag.name.localName)

/-- Binds simple content: its base, and the attributes that an extension adds. -/
def visitSimpleContent (owner : ClassId) (site : Site) : Walk Unit :=
  match site.first? ["extension", "restriction"] with
  | none => return
  | some derivation => do
      visitSimpleBase declared owner derivation
      if derivation.construct? = some "extension" then
        derivation.children.forM (visitAdded setting declared owner)
      else return

/-- Whether a particle is repeated, by itself or because the group around it is. -/
def isRepeated (around : Bool) (site : Site) : Walk Bool :=
  if around then return true else need (repeated site.spot.tag)

mutual

/-- The type of the element that a declaration declares.  A complex type inside the declaration for
which no class is noted gets one, which is nested in `owner`. -/
def elementType (owner : ClassId) (name : String) (site : Site) : Walk TypeRef :=
  match site.reference? "type" with
  | some name => do
      let name ← need name
      declared.resolveType [] name
  | none =>
      match site.first? ["complexType"] with
      | some type => do
          match ← noted? type.place with
          | some id => typeOf id
          | none => do
              let nested ← addClass (className name) setting.package (some owner)
              note type.place nested
              type |>.visitType nested
              typeOf nested
      | none =>
          match site.first? ["simpleType"] with
          | some definition => declared.resolveSimpleType [] definition
          | none => return .object
partial_fixpoint

/-- Binds an element of a model group to a field. -/
def visitElement (owner : ClassId) (around : Bool) (site : Site) : Walk Unit := do
  let repeated ← isRepeated around site
  match site.reference? "ref" with
  | some name => do
      let name ← need name
      match declared.elements.lookup name with
      | some declaration => do
          let type ← declaration |>.elementType owner name.localName
          addField owner (fieldName name.localName) (particleType repeated type)
      | none => throw (.failed (.unresolvedElement name))
  | none => do
      let name ← need site.name
      let type ← site |>.elementType owner name
      addField owner (fieldName name) (particleType repeated type)
partial_fixpoint

/-- Binds the elements of a model group to fields. -/
def visitGroup (owner : ClassId) (around : Bool) (site : Site) : Walk Unit := do
  let repeated ← isRepeated around site
  site.children.forM fun child =>
    if child.construct? = some "element" then child |>.visitElement owner repeated
    else if IsGroup child.spot.tag then child |>.visitGroup owner repeated
    else if IsPassedOver ["annotation"] child.spot.tag then return
    else warn (.unsupported child.spot.tag.name.localName)
partial_fixpoint

/-- Binds complex content: its base, and the content that an extension adds. -/
def visitComplexContent (owner : ClassId) (site : Site) : Walk Unit :=
  match site.first? ["extension", "restriction"] with
  | none => return
  | some derivation => do
      visitComplexBase declared owner derivation
      if derivation.construct? = some "extension" then derivation |>.visitType owner else return
partial_fixpoint

/-- Binds the content of a complex type, or the content that an extension adds. -/
def visitType (owner : ClassId) (site : Site) : Walk Unit :=
  site.children.forM fun child =>
    if IsGroup child.spot.tag then child |>.visitGroup owner false
    else if child.construct? = some "attribute" then visitAttribute setting declared owner child
    else if child.construct? = some "complexContent" then child |>.visitComplexContent owner
    else if child.construct? = some "simpleContent" then
      visitSimpleContent setting declared owner child
    else if IsPassedOver ["annotation", "assert", "openContent"] child.spot.tag then return
    else warn (.unsupported child.spot.tag.name.localName)
partial_fixpoint

end

end Content

/-! ## Documents -/

/-- The expanded name of a declaration. -/
def declaredName (setting : Setting) (site : Site) : Walk ExpandedName := do
  let name ← need site.name
  return ⟨setting.target, name⟩

/-- Notes a declaration, and creates the class for its complex type. -/
def register (setting : Setting) (declared : Declared) (site : Site) : Walk Declared :=
  match site.construct? with
  | some "complexType" => do
      let name ← declaredName setting site
      checkOverwrite setting name
      let id ← addClass (className name.localName) setting.package none
      note site.place id
      let types ← insertNew declared.types name site
      return { declared with types }
  | some "simpleType" => do
      let name ← declaredName setting site
      checkOverwrite setting name
      let types ← insertNew declared.types name site
      return { declared with types }
  | some "element" => do
      let name ← declaredName setting site
      match site.first? ["complexType"] with
      | some type => do
          let id ← addClass (className name.localName) setting.package none
          note type.place id
      | none => pure ()
      let elements ← insertNew declared.elements name site
      return { declared with elements }
  | some "attribute" => do
      let name ← declaredName setting site
      let attributes ← insertNew declared.attributes name site
      return { declared with attributes }
  | none | some "annotation" | some "notation" | some "defaultOpenContent" => return declared
  | some other => do
      if other ∈ ["import", "include", "redefine", "override"] then
        warn (.notFollowed other (site.spot.tag.attribute? "schemaLocation"))
      else warn (.unsupported other)
      return declared

/-- Fills the class for the complex type of a declaration. -/
def fill (setting : Setting) (declared : Declared) (site : Site) : Walk Unit :=
  match site.topType? with
  | some type => do
      let id ← classAt type.place
      visitType setting declared id type
  | none => return

/-- Binds the schema that an element is. -/
def visitSchema (options : BindingOptions) (site : Site) : Walk Outline := do
  let target := site.spot.tag.attribute? "targetNamespace"
  let package ← Walk.carryOut (Arena.package (packageName options target))
  let setting : Setting := ⟨target, packageName options target, package, options.overwrite⟩
  let declared ← site.children.foldlM (register setting) {}
  site.children.forM (fill setting declared)
  finish

end Site

/-- What a walk over a document ends in, if it ends: an outline or the reason why there is none, and
the warnings that arose. -/
def walkXml (options : BindingOptions) (document : Xml.Document) :
    Option (Except Halt Outline × List Warning) :=
  if constructOf? document.root = some "schema" then
    ((Site.visitSchema options (.outermost document)).outcome? {}).map fun (result, state) =>
      (result, state.warnings)
  else some (.error (.failed (.notASchema document.root.name.localName)), [])

end Schema
end SchemaBinding
