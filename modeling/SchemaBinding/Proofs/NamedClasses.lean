import SchemaBinding.Proofs.Derivations

/-!
# Types that name classes

The class that a type names is found by its package and its name, whatever its arguments are.  So a
type is below the ancestors of the class whose type it is without its arguments.  A type without
arguments is below others only if it is the type of a class; a type with arguments is taken for a
class of which it only shares the name.
-/

namespace SchemaBinding

/-- The type without its arguments. -/
def TypeRef.bare (type : TypeRef) : TypeRef :=
  { type with arguments := [] }

theorem TypeRef.bare_eq_self_iff
    {type : TypeRef} :
    type.bare = type ↔ type.arguments = [] := by
  constructor
  · intro same
    rw [← same]
    rfl
  · intro flat
    cases type
    exact congrArg (TypeRef.mk _ _) flat.symm

namespace Outline

open Relation (TransGen)

variable {outline : Outline} {actual declared : TypeRef}

/-- Whether a type is that of a class which has a class of another type among its ancestors. -/
def HasAbove (outline : Outline) (actual declared : TypeRef) : Prop :=
  ∃ id, outline.typeOf? id = some actual ∧
    ∃ ancestor ∈ outline.ancestors id, outline.typeOf? ancestor = some declared

/-- Whether a type names no class but one whose type it is. -/
def NamesOwnClass (outline : Outline) (actual : TypeRef) : Prop :=
  ∀ id, outline.classOf? actual = some id → outline.typeOf? id = some actual

/-- Whether only the ancestors of a class of a type are above the type.  The type itself and the
object type do not count, which are above the type in any case. -/
def BelowAsClass (outline : Outline) (actual : TypeRef) : Prop :=
  ∀ declared, declared ≠ actual → declared ≠ .object → outline.isAncestor declared actual →
    outline.HasAbove actual declared

/-- The types of classes have no arguments. -/
theorem Finished.arguments_of_typeOf?
    (finished : outline.Finished)
    {id : ClassId}
    {type : TypeRef}
    (typed : outline.typeOf? id = some type) :
    type.arguments = [] := by
  have isClass := finished.mem_classIds_of_typeOf? typed
  obtain ⟨_, _, _, _, isReference⟩ := finished.wellFormed.typed id isClass
  rw [typed, Option.some.injEq] at isReference
  rw [isReference]
  rfl

/-- A type names the class whose type it is without its arguments. -/
theorem Finished.classOf?_eq_some_iff_bare
    (finished : outline.Finished)
    {type : TypeRef}
    {id : ClassId} :
    outline.classOf? type = some id ↔ outline.typeOf? id = some type.bare := by
  have formed := finished.wellFormed
  rw [formed.classOf?_eq_some_iff]
  constructor
  · rintro ⟨package, isPackage, typed⟩
    rw [typed, TypeRef.bare, isPackage]
    rfl
  · intro typed
    obtain ⟨package, name, _, _, isReference⟩ :=
      formed.typed id (finished.mem_classIds_of_typeOf? typed)
    rw [typed, Option.some.injEq] at isReference
    have isPackage : type.package = some package := congrArg TypeRef.package isReference
    refine ⟨package, isPackage, ?_⟩
    rw [typed, TypeRef.bare, isPackage]
    rfl

/-- What a type reaches is above the class whose type it is without its arguments. -/
theorem Finished.reaches_iff_hasAbove
    (finished : outline.Finished) :
    outline.Reaches actual declared ↔ outline.HasAbove actual.bare declared := by
  have formed := finished.wellFormed
  constructor
  · rintro ⟨id, ancestor, found, path, typed⟩
    exact ⟨id, finished.classOf?_eq_some_iff_bare.1 found, ancestor,
      formed.mem_ancestors_iff.2 path, typed⟩
  · rintro ⟨id, isBare, ancestor, above, typed⟩
    exact ⟨id, ancestor, finished.classOf?_eq_some_iff_bare.2 isBare,
      formed.mem_ancestors_iff.1 above, typed⟩

theorem Finished.isAncestor_iff_hasAbove
    (finished : outline.Finished)
    (different : declared ≠ actual)
    (notObject : declared ≠ .object) :
    outline.isAncestor declared actual ↔ outline.HasAbove actual.bare declared := by
  rw [finished.wellFormed.isAncestor_iff, finished.reaches_iff_hasAbove]
  simp only [different, notObject, false_or]

/-- A type with arguments never is the type of the class that it names. -/
theorem Finished.namesOwnClass_iff
    (finished : outline.Finished) :
    outline.NamesOwnClass actual ↔
      actual.arguments = [] ∨ ∀ id, outline.typeOf? id ≠ some actual.bare := by
  constructor
  · intro own
    refine Classical.or_iff_not_imp_left.2 fun parametric id isBare => ?_
    have isActual := own id (finished.classOf?_eq_some_iff_bare.2 isBare)
    exact parametric (finished.arguments_of_typeOf? isActual)
  · rintro (flat | unnamed) id found
    · rw [finished.classOf?_eq_some_iff_bare, TypeRef.bare_eq_self_iff.2 flat] at found
      exact found
    · exact absurd (finished.classOf?_eq_some_iff_bare.1 found) (unnamed id)

/-- A type with arguments is below others as a class is only if it is below none. -/
theorem Finished.belowAsClass_iff
    (finished : outline.Finished) :
    outline.BelowAsClass actual ↔
      actual.arguments = [] ∨ ∀ declared, outline.HasAbove actual.bare declared →
        declared = .object := by
  constructor
  · intro asClass
    refine Classical.or_iff_not_imp_left.2 fun parametric declared hasAbove => ?_
    by_contra notObject
    have ⟨_, _, _, _, typed⟩ := hasAbove
    have different : declared ≠ actual := by
      rintro rfl
      exact parametric (finished.arguments_of_typeOf? typed)
    have above := (finished.isAncestor_iff_hasAbove different notObject).2 hasAbove
    obtain ⟨_, isActual, _⟩ := asClass declared different notObject above
    exact parametric (finished.arguments_of_typeOf? isActual)
  · intro flatOrTop declared different notObject above
    have hasAbove := (finished.isAncestor_iff_hasAbove different notObject).1 above
    rcases flatOrTop with flat | top
    · rw [TypeRef.bare_eq_self_iff.2 flat] at hasAbove
      exact hasAbove
    · exact absurd (top declared hasAbove) notObject

/-- Whichever type is given, the class that it names and the types above it are those of the type
without its arguments, and every other substitution is refused.  So a type without arguments names a
class only if it is the type of that class, and has types above it only as the type of a class.  Of
types with arguments the first holds only if there is no class of that package and name, and the
second only if there is nothing above that class, the object type apart. -/
theorem Finished.derives_as_bare
    (finished : outline.Finished)
    (actual : TypeRef) :
    (∀ id, outline.classOf? actual = some id ↔ outline.typeOf? id = some actual.bare) ∧
      (∀ declared, declared ≠ actual → declared ≠ .object →
        (outline.graph.strictlyDerives actual declared = .ok true ↔
          outline.HasAbove actual.bare declared) ∧
        (outline.graph.strictlyDerives actual declared = .error ⟨declared, actual⟩ ↔
          ¬outline.HasAbove actual.bare declared)) ∧
      (outline.NamesOwnClass actual ↔
        actual.arguments = [] ∨ ∀ id, outline.typeOf? id ≠ some actual.bare) ∧
      (outline.BelowAsClass actual ↔
        actual.arguments = [] ∨ ∀ declared, outline.HasAbove actual.bare declared →
          declared = .object) := by
  refine ⟨fun _ => finished.classOf?_eq_some_iff_bare, ?_, finished.namesOwnClass_iff,
    finished.belowAsClass_iff⟩
  intro declared different notObject
  have above_iff := finished.isAncestor_iff_hasAbove different notObject
  rw [DerivationGraph.strictlyDerives_eq_true_iff, DerivationGraph.strictlyDerives_eq_error_iff,
    ← above_iff]
  exact ⟨and_iff_right different.symm, by simp [graph, different.symm]⟩

theorem diamondOutline_bare :
    diamondOutline.NamesOwnClass (.reference "p" "Outer.Inner") ∧
      diamondOutline.BelowAsClass (.reference "p" "Outer.Inner") ∧
      diamondOutline.graph.strictlyDerives (.reference "p" "Outer.Inner") (.reference "p" "Base") =
        .ok true ∧
      diamondOutline.graph.strictlyDerives (.parametric "p" "Base" [.string])
        (.reference "p" "Outer") = .error ⟨.reference "p" "Outer", .parametric "p" "Base" [.string]⟩ := by
  obtain ⟨_, inner, own, asClass⟩ :=
    diamondOutline_finished.derives_as_bare (.reference "p" "Outer.Inner")
  obtain ⟨names, base, _, _⟩ :=
    diamondOutline_finished.derives_as_bare (.parametric "p" "Base" [.string])
  have formed := diamondOutline_finished.wellFormed
  refine ⟨own.2 (.inl rfl), asClass.2 (.inl rfl), (inner _ (by decide) (by decide)).1.2 ?_,
    (base _ (by decide) (by decide)).2.2 ?_⟩
  · have above : (⟨1⟩ : ClassId) ∈ diamondOutline.ancestors ⟨2⟩ :=
      formed.mem_ancestors_iff.2 (.single (extends_iff.2 (by decide)))
    exact ⟨⟨2⟩, rfl, ⟨1⟩, above, rfl⟩
  · rintro ⟨id, typed, ancestor, above, _⟩
    have named : diamondOutline.classOf? (.parametric "p" "Base" [.string]) = some ⟨1⟩ := by decide
    obtain rfl := Option.some.inj (((names id).2 typed).symm.trans named)
    obtain ⟨supertype, direct, _⟩ := TransGen.head'_iff.1 (formed.mem_ancestors_iff.1 above)
    exact absurd (extends_iff.1 direct) List.not_mem_nil

/-- A type with arguments that shares package and name with a class has the ancestors of the class
above it, although no class has this type. -/
theorem parametricInner_derives :
    diamondOutline.Finished ∧
      diamondOutline.classOf? (.parametric "p" "Outer.Inner" [.string]) = some ⟨2⟩ ∧
      (∀ id, diamondOutline.typeOf? id ≠ some (.parametric "p" "Outer.Inner" [.string])) ∧
      diamondOutline.graph.strictlyDerives (.parametric "p" "Outer.Inner" [.string])
        (.reference "p" "Base") = .ok true ∧
      ¬diamondOutline.NamesOwnClass (.parametric "p" "Outer.Inner" [.string]) ∧
      ¬diamondOutline.BelowAsClass (.parametric "p" "Outer.Inner" [.string]) := by
  have noClass : ∀ id, diamondOutline.typeOf? id ≠
      some (.parametric "p" "Outer.Inner" [.string]) := by
    intro id typed
    exact absurd (diamondOutline_finished.arguments_of_typeOf? typed) (by decide)
  have above : diamondOutline.isAncestor (.reference "p" "Base")
      (.parametric "p" "Outer.Inner" [.string]) = true := by
    cbv
  have named : diamondOutline.classOf? (.parametric "p" "Outer.Inner" [.string]) = some ⟨2⟩ := by
    decide
  refine ⟨diamondOutline_finished, named, noClass, ?_, fun own => noClass _ (own _ named), ?_⟩
  · exact DerivationGraph.strictlyDerives_eq_true_iff.2 ⟨by decide, above⟩
  · intro asClass
    obtain ⟨id, typed, _⟩ := asClass (.reference "p" "Base") (by decide) (by decide) above
    exact noClass id typed

end Outline
end SchemaBinding
