import SchemaBinding.TypeRef
import SchemaBinding.Text.Quoted

/-!
# Outlines

An outline is a finished model of packages, classes and fields.  Packages, classes and fields are
known by their place in the order in which they were created, which is part of the outline.  The
type of each class is stored beside it; classes are looked up by that type.
-/

namespace SchemaBinding

/-- A package, by its place in the order of creation.  The limit of handles that are positive numbers
of 32 bits, past which no package can be created, is left out. -/
structure PackageId where
  /-- The number of packages created before. -/
  index : Nat
deriving DecidableEq, Repr

/-- A class, by its place in the order of creation.  The limit of handles that are positive numbers of
32 bits, past which no class can be created, is left out. -/
structure ClassId where
  /-- The number of classes created before. -/
  index : Nat
deriving DecidableEq, Repr

/-- A field, by its place in the order of creation.  The limit of handles that are positive numbers of
32 bits, past which no field can be created, is left out. -/
structure FieldId where
  /-- The number of fields created before. -/
  index : Nat
deriving DecidableEq, Repr

/-- A package as messages refer to it, counting from one. -/
def PackageId.label (id : PackageId) : String :=
  "<PackageContainer #" ++ toString (id.index + 1) ++ ">"

/-- A class as messages refer to it, counting from one. -/
def ClassId.label (id : ClassId) : String :=
  "<ClassDescriptor #" ++ toString (id.index + 1) ++ ">"

/-- A field as messages refer to it, counting from one. -/
def FieldId.label (id : FieldId) : String :=
  "<FieldDescriptor #" ++ toString (id.index + 1) ++ ">"

/-- A property of a class. -/
structure Field where
  /-- The name of the field. -/
  name : String
  /-- The type of the field. -/
  type : TypeRef
  /-- The class that declares the field. -/
  owner : ClassId
deriving DecidableEq, Repr

/-- A class of the model. -/
structure Class where
  /-- The name, without the package and the classes around it. -/
  name : String
  /-- The package. -/
  package : PackageId
  /-- The class directly around it, for a nested class. -/
  enclosing : Option ClassId
  /-- The fields that the class itself declares, in the order of declaration. -/
  fields : List FieldId
  /-- The direct supertypes, in the order of declaration and each once. -/
  supertypes : List ClassId
  /-- The classes directly inside, in the order of creation; a draft leaves them out. -/
  nested : List ClassId
deriving DecidableEq, Repr

/-- How a model can fail to be one. -/
inductive ModelError where
  /-- A class declares two fields of one name. -/
  | duplicateField (owner field : String)
  /-- A class is defined twice, or two classes have one type. -/
  | duplicateClass (name : String)
  /-- A class is referred to but not defined. -/
  | undefinedClass (id : ClassId)
  /-- A class is its own ancestor. -/
  | supertypeCycle (name : String)
  /-- The classes around a class never end. -/
  | nestingCycle (name : String)
  /-- A nested class and the class around it are in different packages. -/
  | packageMismatch (name package enclosingPackage : String)
  /-- A package, class or field was never created. -/
  | unknownId
deriving DecidableEq, Repr

namespace ModelError

/-- The wording of the error. -/
def message : ModelError → String
  | duplicateField owner field => "duplicate field " ++ Text.quote field ++ " in class " ++ owner
  | duplicateClass name => "class " ++ name ++ " is defined more than once"
  | undefinedClass id => "class " ++ id.label ++ " is reserved but never defined"
  | supertypeCycle name => "class " ++ name ++ " is part of a supertype cycle"
  | nestingCycle name => "class " ++ name ++ " is nested within itself"
  | packageMismatch name package enclosingPackage =>
      "nested class " ++ name ++ " is in package " ++ Text.quote package ++
        ", but its enclosing class is in package " ++ Text.quote enclosingPackage
  | unknownId => "there is no such package, class or field"

end ModelError

/-- A finished model. -/
structure Outline where
  /-- The names of the packages. -/
  packages : List String
  /-- The classes. -/
  classes : List Class
  /-- The fields of all classes. -/
  fields : List Field
  /-- The types of the classes, in the same order as the classes. -/
  types : List TypeRef
deriving DecidableEq, Repr

namespace Outline

/-- The name of a package. -/
def package? (outline : Outline) (id : PackageId) : Option String :=
  outline.packages[id.index]?

/-- A class. -/
def class? (outline : Outline) (id : ClassId) : Option Class :=
  outline.classes[id.index]?

/-- A field. -/
def field? (outline : Outline) (id : FieldId) : Option Field :=
  outline.fields[id.index]?

/-- The type under which fields refer to a class. -/
def typeOf? (outline : Outline) (id : ClassId) : Option TypeRef :=
  outline.types[id.index]?

/-- All classes, nested or not. -/
def classIds (outline : Outline) : List ClassId :=
  (List.range outline.classes.length).map ClassId.mk

/-- The class directly around a class. -/
def enclosing? (outline : Outline) (id : ClassId) : Option ClassId :=
  outline.class? id |>.bind Class.enclosing

/-- The classes that are not nested. -/
def topLevel (outline : Outline) : List ClassId :=
  outline.classIds.filter fun id => outline.enclosing? id = none

/-- The classes nested directly in a class. -/
def nested (outline : Outline) (id : ClassId) : List ClassId :=
  (outline.class? id).elim [] Class.nested

/-- The direct supertypes of a class. -/
def supertypes (outline : Outline) (id : ClassId) : List ClassId :=
  (outline.class? id).elim [] Class.supertypes

/-- The fields that a class declares. -/
def fieldsOf (outline : Outline) (id : ClassId) : List Field :=
  ((outline.class? id).elim [] Class.fields).filterMap outline.field?

/-- The name of the package of a class. -/
def packageNameOf? (outline : Outline) (id : ClassId) : Option String := do
  outline.package? (← outline.class? id).package

/-- The names of the packages that have classes at the top, in ascending order. -/
def packageNames (outline : Outline) : List String :=
  (outline.topLevel.filterMap outline.packageNameOf?).eraseDups.mergeSort

/-- The class of a package that has a given name there. -/
def classByName? (outline : Outline) (package name : String) : Option ClassId :=
  (outline.types.idxOf? (.reference package name)).map ClassId.mk

/-- The class that has the package and the name of a type, whatever the arguments of the type. -/
def classOf? (outline : Outline) (type : TypeRef) : Option ClassId := do
  outline.classByName? (← type.package) type.name

/-- The full name of a class. -/
def fullName? (outline : Outline) (id : ClassId) : Option String :=
  (outline.typeOf? id).map TypeRef.fullName

end Outline
end SchemaBinding
