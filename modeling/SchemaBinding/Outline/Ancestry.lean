import SchemaBinding.Outline.Basic
import SchemaBinding.Derivation

/-!
# Ancestors in an outline

The supertypes of a class, their supertypes and so on, and the derivations between types that
follow from them.
-/

namespace SchemaBinding
namespace Outline

/-- The classes of the outline that have not been met. -/
def unmet (outline : Outline) (met : List ClassId) : List ClassId :=
  outline.classIds.filter (· ∉ met)

/-- Meeting a class of the outline leaves fewer of them unmet. -/
theorem length_unmet_cons_lt (outline : Outline) (met : List ClassId) (id : ClassId)
    (isClass : id ∈ outline.classIds) (fresh : id ∉ met) :
    (outline.unmet (id :: met)).length < (outline.unmet met).length := by
  have split : outline.unmet (id :: met) = (outline.unmet met).filter (· ≠ id) := by
    simp only [unmet, List.filter_filter]
    congr 1
    funext other
    simp [List.mem_cons, not_or]
  rw [split]
  apply List.length_filter_lt_length_iff_exists.2
  exact ⟨id, by simp [unmet, isClass, fresh], by simp⟩

/--
The classes met on a walk that goes to the first class of `pending` next and then to the supertypes
of that class before the others.  `met` holds the classes met before, the last one first.
-/
def walk (outline : Outline) (met : List ClassId) : List ClassId → List ClassId
  | [] => met.reverse
  | id :: pending =>
      if fresh : id ∉ met then
        if isClass : id ∈ outline.classIds then
          have := outline.length_unmet_cons_lt met id isClass fresh
          outline.walk (id :: met) (outline.supertypes id ++ pending)
        else outline.walk met pending
      else outline.walk met pending
termination_by pending => ((outline.unmet met).length, pending.length)

/-- The ancestors of a class, each once. -/
def ancestors (outline : Outline) (id : ClassId) : List ClassId :=
  outline.walk [] (outline.supertypes id)

/-- Whether a type is another or one of its ancestors; the object type is above all others. -/
def isAncestor (outline : Outline) (declared actual : TypeRef) : Bool :=
  declared = actual || declared = .object ||
    match outline.classOf? actual with
    | none => false
    | some id => (outline.ancestors id).any fun ancestor => outline.typeOf? ancestor = some declared

/-- The derivations between the classes of the outline. -/
def graph (outline : Outline) : DerivationGraph :=
  ⟨outline.isAncestor⟩

end Outline
end SchemaBinding
