import SchemaBinding.Outline.Finish
import SchemaBinding.Schema.Naming
import SchemaBinding.Schema.Reading
import SchemaBinding.Schema.Resolution
import SchemaBinding.Xml.Parser

/-!
# Binding schemas

From the declarations of a schema to an outline.  A first pass over the declarations notes their
names and creates a class for every complex type at the top; a second pass fills the classes with
fields and supertypes and creates a nested class for every anonymous complex type that it meets.
References between declarations can therefore go in either direction.
-/

namespace SchemaBinding
namespace Schema

/-- What happens when a schema declares a type under the name of a built-in one. -/
inductive OverwritePolicy where
  /-- It is an error. -/
  | deny
  /-- It is reported. -/
  | warn
  /-- It is accepted. -/
  | allow
deriving DecidableEq, Repr

/-- How a schema is bound. -/
structure BindingOptions where
  /-- The package of the classes, in place of the one that the target namespace gives. -/
  package : Option String := none
  /-- What happens to declarations of built-in types. -/
  overwrite : OverwritePolicy := .deny
deriving DecidableEq, Repr

/-- The package of a schema that has no target namespace. -/
def defaultPackage : String :=
  "generated"

/-- Something in a schema that has no binding, or a binding that may surprise. -/
inductive Warning where
  /-- A construct without a binding. -/
  | unsupported (construct : String)
  /-- A reference to another document. -/
  | notFollowed (construct : String) (location : Option String)
  /-- A type under the name of a built-in one. -/
  | builtinOverwritten (name : ExpandedName)
  /-- Complex content that is derived from a type without elements. -/
  | complexFromSimple (base : ExpandedName)
  /-- Simple content that is derived from the type above all others. -/
  | simpleFromAny (base : ExpandedName)
deriving DecidableEq, Repr

namespace Warning

/-- The wording of the warning. -/
def message : Warning → String
  | unsupported _ => "skipping unsupported schema construct"
  | notFollowed construct _ => "<" ++ construct ++ "> is not followed"
  | builtinOverwritten _ => "overwriting built-in type"
  | complexFromSimple _ => "complex content derived from a simple type"
  | simpleFromAny _ => "simple content derived from xs:anyType"

/-- What the warning is about: a label and a value. -/
def subject : Warning → String × String
  | unsupported construct => ("construct", construct)
  | notFollowed _ none => ("schema_location", "None")
  | notFollowed _ (some location) => ("schema_location", "Some(" ++ Text.quote location ++ ")")
  | builtinOverwritten name => ("name", name.text)
  | complexFromSimple base => ("base", base.text)
  | simpleFromAny base => ("base", base.text)

end Warning

/-- What has been bound so far. -/
structure BindingState where
  /-- The model. -/
  draft : Draft
  /-- The warnings, in the order in which they arose. -/
  warnings : List Warning := []

/-- A step of binding, which may fail and keeps the warnings of the steps before it. -/
abbrev Binding (α : Type) := ExceptT SchemaError (StateM BindingState) α

namespace Binding

/-- Adds a warning. -/
def warn (warning : Warning) : Binding Unit :=
  modify fun state => { state with warnings := state.warnings ++ [warning] }

/-- Adds a class. -/
def addClass (name : String) (package : PackageId) (enclosing : Option ClassId) :
    Binding ClassId := do
  let state ← get
  let (id, draft) := state.draft.addClass name package enclosing
  set { state with draft }
  return id

/-- The type of a class. -/
def typeOf (id : ClassId) : Binding TypeRef := do
  match (← get).draft.typeOf id with
  | .ok type => return type
  | .error error => throw (.model error)

/-- Gives a class one more field. -/
def addField (owner : ClassId) (name : String) (type : TypeRef) : Binding Unit := do
  let state ← get
  match state.draft.addField owner name type with
  | .ok (_, draft) => set { state with draft }
  | .error error => throw (.model error)

/-- Gives a class one more supertype. -/
def addSupertype (owner supertype : ClassId) : Binding Unit := do
  let state ← get
  match state.draft.addSupertype owner supertype with
  | .ok draft => set { state with draft }
  | .error error => throw (.model error)

/-- The value of a part, whose fault counts from here on. -/
def need {α : Type} (part : Deferred α) : Binding α :=
  match part with
  | .ok value => return value
  | .error error => throw error

end Binding

/-- What the second pass knows of the schema. -/
structure Environment where
  /-- The target namespace. -/
  target : Option String
  /-- The package of all classes. -/
  package : PackageId
  /-- The declarations at the top. -/
  globals : Globals

open Binding

/-- Binds an attribute to a field. -/
def bindAttribute (environment : Environment) (owner : ClassId) : AttributeItem → Binding Unit
  | .reference name => do
      let name ← need name
      let type ← need (environment.globals.attributeType environment.target name)
      addField owner (fieldName name.localName) type
  | .declaration name use => do
      let name ← need name
      let type ← need (environment.globals.resolveUse [] use)
      addField owner (fieldName name) type
  | .unsupported construct => warn (.unsupported construct)

/-- Binds attributes to fields. -/
def bindAttributes (environment : Environment) (owner : ClassId) : List AttributeItem →
    Binding Unit
  | [] => return
  | item :: rest => do
      bindAttribute environment owner item
      bindAttributes environment owner rest

/-- Whether a particle is repeated, by itself or because the group around it is. -/
def isRepeated (around : Bool) (own : Deferred Bool) : Binding Bool :=
  if around then return true else need own

/-- The type of a field for a particle of a given type. -/
def particleType (repeated : Bool) (type : TypeRef) : TypeRef :=
  if repeated then .listOf type else type

mutual

/--
Binds a part of a model group to fields of a class.  `around` says whether a group around it is
repeated.
-/
def bindParticle (environment : Environment) (owner : ClassId) (around : Bool) :
    Particle → Binding Unit
  | .reference own name => do
      let repeated ← isRepeated around own
      let name ← need name
      match environment.globals.elements.lookup name with
      | none => throw (.unresolvedElement name)
      | some element =>
          let type ← need (environment.globals.elementType element)
          addField owner (fieldName name.localName) (particleType repeated type)
  | .element own name (.named reference) _ => do
      let repeated ← isRepeated around own
      let name ← need name
      let type ← need (environment.globals.resolveUse [] (.named reference))
      addField owner (fieldName name) (particleType repeated type)
  | .element own name _ (some body) => do
      let repeated ← isRepeated around own
      let name ← need name
      let nested ← addClass (className name) environment.package (some owner)
      bindContents environment nested body
      let type ← typeOf nested
      addField owner (fieldName name) (particleType repeated type)
  | .element own name (.inline definition) none => do
      let repeated ← isRepeated around own
      let name ← need name
      let type ← need (environment.globals.resolveUse [] (.inline definition))
      addField owner (fieldName name) (particleType repeated type)
  | .element own name .absent none => do
      let repeated ← isRepeated around own
      let name ← need name
      addField owner (fieldName name) (particleType repeated .object)
  | .group own particles => do
      let repeated ← isRepeated around own
      bindParticles environment owner repeated particles
  | .unsupported construct => warn (.unsupported construct)

/-- Binds the parts of a model group. -/
def bindParticles (environment : Environment) (owner : ClassId) (around : Bool) :
    List Particle → Binding Unit
  | [] => return
  | particle :: rest => do
      bindParticle environment owner around particle
      bindParticles environment owner around rest

/-- Binds a part of a complex type to fields and supertypes of its class. -/
def bindContent (environment : Environment) (owner : ClassId) : Content → Binding Unit
  | .group own particles => do
      let repeated ← need own
      bindParticles environment owner repeated particles
  | .attributeItem item => bindAttribute environment owner item
  | .complexContent base added => do
      let base ← need base
      match ← need (environment.globals.resolveBase base) with
      | .any => pure ()
      | .complex supertype => addSupertype owner supertype
      | .simple _ => warn (.complexFromSimple base)
      bindContents environment owner added
  | .simpleContent base added => do
      let base ← need base
      match ← need (environment.globals.resolveBase base) with
      | .any => warn (.simpleFromAny base)
      | .complex supertype => addSupertype owner supertype
      | .simple type => addField owner "value" type
      bindAttributes environment owner added
  | .unsupported construct => warn (.unsupported construct)

/-- Binds the parts of a complex type. -/
def bindContents (environment : Environment) (owner : ClassId) : List Content → Binding Unit
  | [] => return
  | content :: rest => do
      bindContent environment owner content
      bindContents environment owner rest

end

/-- What the first pass has noted. -/
structure Registry where
  /-- The declarations. -/
  globals : Globals := {}
  /-- The classes for complex types at the top, with the content that is to fill them. -/
  bodies : List (ClassId × List Content) := []

/-- How the first pass creates classes. -/
structure Setting where
  /-- The target namespace. -/
  target : Option String
  /-- The name of the package. -/
  packageName : String
  /-- The package. -/
  package : PackageId
  /-- What happens to declarations of built-in types. -/
  overwrite : OverwritePolicy

namespace Registry

/-- The expanded name of a declaration. -/
def declaredName (setting : Setting) (name : Deferred String) : Binding ExpandedName := do
  return ⟨setting.target, ← need name⟩

/-- Applies the policy to the declaration of a type. -/
def checkOverwrite (setting : Setting) (name : ExpandedName) : Binding Unit :=
  if isBuiltin name then
    match setting.overwrite with
    | .deny => throw (.builtinOverwrite name)
    | .warn => warn (.builtinOverwritten name)
    | .allow => return
  else return

/-- Creates a class at the top. -/
def addTopClass (setting : Setting) (name : ExpandedName) : Binding (ClassId × TypeRef) := do
  let simpleName := className name.localName
  let id ← addClass simpleName setting.package none
  return (id, .reference setting.packageName simpleName)

/-- Notes a definition under a name that must be new. -/
def insertNew {α : Type} (entries : List (ExpandedName × α)) (name : ExpandedName)
    (definition : α) : Binding (List (ExpandedName × α)) :=
  if (entries.lookup name).isSome then throw (.duplicateDeclaration name)
  else return entries ++ [(name, definition)]

/-- Notes a declaration. -/
def register (setting : Setting) (registry : Registry) : Declaration → Binding Registry
  | .complexType name body => do
      let name ← declaredName setting name
      checkOverwrite setting name
      let (id, type) ← addTopClass setting name
      let types ← insertNew registry.globals.types name (.complex id type)
      return { globals := { registry.globals with types }, bodies := registry.bodies ++ [(id, body)] }
  | .simpleType name definition => do
      let name ← declaredName setting name
      checkOverwrite setting name
      let types ← insertNew registry.globals.types name (.simple definition)
      return { registry with globals := { registry.globals with types } }
  | .element name type none => do
      let name ← declaredName setting name
      let elements ← insertNew registry.globals.elements name ⟨type, none⟩
      return { registry with globals := { registry.globals with elements } }
  | .element name type (some body) => do
      let name ← declaredName setting name
      let (id, classType) ← addTopClass setting name
      let elements ← insertNew registry.globals.elements name ⟨type, some classType⟩
      return {
        globals := { registry.globals with elements }
        bodies := registry.bodies ++ [(id, body)] }
  | .attributeType name type => do
      let name ← declaredName setting name
      let attributes ← insertNew registry.globals.attributes name type
      return { registry with globals := { registry.globals with attributes } }
  | .external construct location => do
      warn (.notFollowed construct location)
      return registry
  | .unsupported construct => do
      warn (.unsupported construct)
      return registry

end Registry

/-- Fills the classes that the first pass created. -/
def bindBodies (environment : Environment) : List (ClassId × List Content) → Binding Unit
  | [] => return
  | (owner, body) :: rest => do
      bindContents environment owner body
      bindBodies environment rest

/-- The name of the package of a schema. -/
def packageName (options : BindingOptions) (target : Option String) : String :=
  options.package.getD ((target.map packageOfNamespace).getD defaultPackage)

/-- Both passes over a schema. -/
def bindDocument (options : BindingOptions) (schema : Document) (package : PackageId) :
    Binding Outline := do
  let target := schema.targetNamespace
  let setting : Setting := ⟨target, packageName options target, package, options.overwrite⟩
  let registry ← schema.declarations.foldlM (Registry.register setting) {}
  bindBodies ⟨target, package, registry.globals⟩ registry.bodies
  match (← get).draft.finish with
  | .ok outline => return outline
  | .error error => throw (.model error)

/-- The outline that a schema is bound to, and the warnings that arose. -/
def bind (options : BindingOptions) (schema : Document) :
    Except SchemaError Outline × List Warning :=
  let (package, draft) := Draft.empty.package (packageName options schema.targetNamespace)
  let (result, state) := (bindDocument options schema package).run { draft }
  (result, state.warnings)

/-- The outline of the schema that a document holds, and the warnings that arose. -/
def bindXml (options : BindingOptions) (document : Xml.Document) :
    Except SchemaError Outline × List Warning :=
  match Document.ofXml document with
  | .ok schema => bind options schema
  | .error error => (.error error, [])

/-- The document that a text is. -/
def parseXml (typeAllowed : Bool) (text : String) : Except SchemaError Xml.Document :=
  match Xml.parse typeAllowed text with
  | some document => .ok document
  | none => .error .notWellFormed

end Schema
end SchemaBinding
