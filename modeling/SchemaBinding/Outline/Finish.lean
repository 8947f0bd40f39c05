import SchemaBinding.Outline.Draft

/-!
# Finishing a draft

A draft becomes an outline if every class is defined and has a type of its own, if nested classes
are in the packages of the classes around them, and if no class is its own ancestor.  Only then does
each class learn which classes are nested in it.
-/

namespace SchemaBinding
namespace Draft

/-- The type of a class, if the class may stand beside classes of the types already seen. -/
def checkedType (draft : Draft) (seen : List TypeRef) (id : ClassId) :
    Except ModelError TypeRef := do
  let type ← draft.typeOf id
  let found ← draft.defined id
  if let some around := found.enclosing then
    let enclosing ← draft.defined around
    if enclosing.package ≠ found.package then
      throw (.packageMismatch type.fullName (← draft.packageName found.package)
        (← draft.packageName enclosing.package))
  if type ∈ seen then throw (.duplicateClass type.fullName)
  return type

/-- The types of classes after those already seen. -/
def checkedTypes (draft : Draft) (seen : List TypeRef) : List ClassId →
    Except ModelError (List TypeRef)
  | [] => .ok seen
  | id :: rest => do
      let type ← draft.checkedType seen id
      draft.checkedTypes (seen ++ [type]) rest

/-- All classes of the draft, defined or not. -/
def classIds (draft : Draft) : List ClassId :=
  (List.range draft.classes.length).map ClassId.mk

/--
Visits the ancestors of a class that have not been visited, and then the class.  `path` leads to
the class and `visited` is the answer of earlier visits; a class that is met on its own path is an
ancestor of itself.  `depth` bounds the length of the path.
-/
def visit (draft : Draft) (types : List TypeRef) :
    Nat → List ClassId → List ClassId → ClassId → Except ModelError (List ClassId)
  | depth, path, visited, id =>
      if id ∈ visited then .ok visited
      else if id ∈ path then
        match types[id.index]? with
        | some type => .error (.supertypeCycle type.fullName)
        | none => .error .unknownId
      else
        match depth, draft.defined? id with
        | depth + 1, some found => do
            let visited ← found.supertypes.foldlM (draft.visit types depth (id :: path)) visited
            return id :: visited
        | _, _ => .error .unknownId

/-- Checks that no class is an ancestor of itself. -/
def checkAncestry (draft : Draft) (types : List TypeRef) : Except ModelError Unit := do
  let _ ← draft.classIds.foldlM (draft.visit types (draft.classes.length + 1) []) []

/-- Notes a class in the class directly around it, if there is one. -/
def noteNested (draft : Draft) (id : ClassId) : Except ModelError Draft := do
  match (← draft.defined id).enclosing with
  | none => return draft
  | some around =>
      let outer ← draft.defined around
      return draft.put around { outer with nested := outer.nested ++ [id] }

/-- The outline of the draft. -/
def finish (draft : Draft) : Except ModelError Outline := do
  let types ← draft.checkedTypes [] draft.classIds
  draft.checkAncestry types
  let draft ← draft.classIds.foldlM noteNested draft
  return ⟨draft.packages, draft.classes.filterMap id, draft.fields, types⟩

end Draft
end SchemaBinding
