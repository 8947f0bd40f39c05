import SchemaBinding.Schema.Error

/-!
# Kinds of errors

What is wrong with a schema or a model, whatever part of it is at fault.  Errors of one kind differ
in the names and texts that they carry.
-/

namespace SchemaBinding

/-- The ways in which a model can fail to be one. -/
inductive ModelError.Kind where
  /-- A class declares two fields of one name. -/
  | duplicateField
  /-- A class is defined twice, or two classes have one type. -/
  | duplicateClass
  /-- A class is referred to but not defined. -/
  | undefinedClass
  /-- A class is its own ancestor. -/
  | supertypeCycle
  /-- The classes around a class never end. -/
  | nestingCycle
  /-- A nested class and the class around it are in different packages. -/
  | packageMismatch
  /-- A package, class or field was never created. -/
  | unknownId
deriving DecidableEq, Repr

/-- The way in which a model fails to be one, whatever class is at fault. -/
def ModelError.kind : ModelError → Kind
  | duplicateField _ _ => .duplicateField
  | duplicateClass _ => .duplicateClass
  | undefinedClass _ => .undefinedClass
  | supertypeCycle _ => .supertypeCycle
  | nestingCycle _ => .nestingCycle
  | packageMismatch _ _ _ => .packageMismatch
  | unknownId => .unknownId

/-- The reasons why a schema has no binding. -/
inductive SchemaError.Kind where
  /-- The document is not well formed. -/
  | notWellFormed
  /-- The outermost element is not a schema. -/
  | notASchema
  /-- A prefix is not declared where it is used. -/
  | prefixNotResolved
  /-- An element lacks an attribute that it must have. -/
  | missingAttribute
  /-- A bound on occurrences is neither a number nor `unbounded`. -/
  | invalidOccurs
  /-- Two declarations of one kind have one name. -/
  | duplicateDeclaration
  /-- A type is declared under the name of a built-in one. -/
  | builtinOverwrite
  /-- A type is referred to but not declared. -/
  | unresolvedType
  /-- An element is referred to but not declared. -/
  | unresolvedElement
  /-- An attribute is referred to but not declared. -/
  | unresolvedAttribute
  /-- A simple type is derived from itself. -/
  | circularType
  /-- The schema describes something that is no model. -/
  | model (kind : ModelError.Kind)
deriving DecidableEq, Repr

/-- The reason why a schema has no binding, whatever part of the schema is at fault. -/
def SchemaError.kind : SchemaError → Kind
  | notWellFormed => .notWellFormed
  | notASchema _ => .notASchema
  | prefixNotResolved _ => .prefixNotResolved
  | missingAttribute _ _ => .missingAttribute
  | invalidOccurs _ => .invalidOccurs
  | duplicateDeclaration _ => .duplicateDeclaration
  | builtinOverwrite _ => .builtinOverwrite
  | unresolvedType _ => .unresolvedType
  | unresolvedElement _ => .unresolvedElement
  | unresolvedAttribute _ => .unresolvedAttribute
  | circularType _ => .circularType
  | model error => .model error.kind

end SchemaBinding
