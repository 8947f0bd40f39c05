import SchemaBinding.Outline.Basic

/-!
# Drafts

A draft is a model under construction.  Classes may be reserved before they are defined, so that
they can be referred to from the beginning.  Every operation either extends the draft or fails and
leaves it as it was.
-/

namespace SchemaBinding

/-- A model under construction. -/
structure Draft where
  /-- The names of the packages, each once. -/
  packages : List String := []
  /-- The classes; one that is only reserved is missing. -/
  classes : List (Option Class) := []
  /-- The fields of all classes. -/
  fields : List Field := []
deriving DecidableEq, Repr

namespace Draft

/-- A draft without content. -/
def empty : Draft :=
  {}

/-- A class that has been defined. -/
def defined? (draft : Draft) (id : ClassId) : Option Class :=
  draft.classes[id.index]?.join

/-- A class, which must have been defined. -/
def defined (draft : Draft) (id : ClassId) : Except ModelError Class :=
  match draft.defined? id with
  | some found => .ok found
  | none => .error (.undefinedClass id)

/-- The name of a package, which must have been created. -/
def packageName (draft : Draft) (id : PackageId) : Except ModelError String :=
  match draft.packages[id.index]? with
  | some name => .ok name
  | none => .error .unknownId

/-- The package of a name, which is created if there is none. -/
def package (draft : Draft) (name : String) : PackageId × Draft :=
  match draft.packages.idxOf? name with
  | some index => (⟨index⟩, draft)
  | none => (⟨draft.packages.length⟩, { draft with packages := draft.packages ++ [name] })

/-- A class to be defined later. -/
def reserve (draft : Draft) : ClassId × Draft :=
  (⟨draft.classes.length⟩, { draft with classes := draft.classes ++ [none] })

/--
The names of the classes around a class, from the outermost to the innermost, and then `name`,
joined by dots.  `start` is the class whose name is asked for and `steps` the number of classes
that there may be around it.
-/
def qualifiedName (draft : Draft) (start : ClassId) (startName : String) :
    Nat → Option ClassId → String → Except ModelError String
  | _, none, name => .ok name
  | 0, some _, _ => .error (.nestingCycle startName)
  | steps + 1, some id, name =>
      if id = start then .error (.nestingCycle startName)
      else do
        let around ← draft.defined id
        draft.qualifiedName start startName steps around.enclosing (around.name ++ "." ++ name)

/--
The type under which fields refer to a class.  The class and all classes around it must be defined,
and there can be no more classes around it than the draft has.
-/
def typeOf (draft : Draft) (id : ClassId) : Except ModelError TypeRef := do
  let found ← draft.defined id
  let name ← draft.qualifiedName id found.name draft.classes.length found.enclosing found.name
  let package ← draft.packageName found.package
  return .reference package name

/-- A class as messages name it: in full if it has a type, else by its number. -/
def describe (draft : Draft) (id : ClassId) : Except ModelError String :=
  match draft.typeOf id with
  | .ok type => .ok type.fullName
  | .error .unknownId => .error .unknownId
  | .error _ => .ok id.label

/-- Puts a class into its place. -/
def put (draft : Draft) (id : ClassId) (value : Class) : Draft :=
  { draft with classes := draft.classes.set id.index (some value) }

/-- Defines a class that has been reserved. -/
def define (draft : Draft) (id : ClassId) (name : String) (package : PackageId)
    (enclosing : Option ClassId) : Except ModelError (ClassId × Draft) :=
  match draft.classes[id.index]? with
  | none => .error .unknownId
  | some (some _) => do throw (.duplicateClass (← draft.describe id))
  | some none => .ok (id, draft.put id ⟨name, package, enclosing, [], [], []⟩)

/-- Reserves a class and defines it. -/
def addClass (draft : Draft) (name : String) (package : PackageId) (enclosing : Option ClassId) :
    ClassId × Draft :=
  let (id, draft) := draft.reserve
  (id, draft.put id ⟨name, package, enclosing, [], [], []⟩)

/-- Whether a class already declares a field of a name. -/
def declares (draft : Draft) (owner : Class) (name : String) : Bool :=
  owner.fields.any fun field => draft.fields[field.index]?.any (·.name = name)

/-- Gives a class one more field. -/
def addField (draft : Draft) (id : ClassId) (name : String) (type : TypeRef) :
    Except ModelError (FieldId × Draft) := do
  let owner ← draft.defined id
  if draft.declares owner name then
    throw (.duplicateField (← draft.describe id) name)
  let field : FieldId := ⟨draft.fields.length⟩
  let extended : Draft := { draft with fields := draft.fields ++ [⟨name, type, id⟩] }
  return (field, extended.put id { owner with fields := owner.fields ++ [field] })

/-- Gives a class one more supertype, unless it has that one already. -/
def addSupertype (draft : Draft) (id supertype : ClassId) : Except ModelError Draft := do
  let owner ← draft.defined id
  if supertype ∈ owner.supertypes then return draft
  return draft.put id { owner with supertypes := owner.supertypes ++ [supertype] }

end Draft
end SchemaBinding
