import SchemaBinding.Proofs.Ancestors

/-!
# Derivations between types

What an outline says of which types derive from which.  Between the types of its classes these are
the paths of supertypes, and the object type is above everything.  The laws of derivation hold
unless an outline has a class that is the object type and puts other classes above it.
-/

namespace SchemaBinding

open Relation (ReflTransGen TransGen)

/-! ## Strict derivation -/

namespace DerivationGraph

variable {graph : DerivationGraph} {actual declared : TypeRef}

theorem strictlyDerives_eq_false_iff :
    graph.strictlyDerives actual declared = .ok false ↔ actual = declared := by
  unfold strictlyDerives
  split
  next same => simp [same]
  next different => split <;> simp [different]

theorem strictlyDerives_eq_true_iff :
    graph.strictlyDerives actual declared = .ok true ↔
      actual ≠ declared ∧ graph.isAncestor declared actual := by
  unfold strictlyDerives
  split
  next same => simp [same]
  next different => split <;> simp_all

theorem strictlyDerives_eq_error_iff
    {error : InvalidSubstitution} :
    graph.strictlyDerives actual declared = .error error ↔
      error = ⟨declared, actual⟩ ∧ actual ≠ declared ∧ ¬graph.isAncestor declared actual := by
  unfold strictlyDerives
  split
  next same => simp [same]
  next different =>
    split
    next above => simp [above]
    next unrelated =>
      rw [Except.error.injEq, eq_comm]
      simp [different, unrelated]

/-- Every type is its own ancestor. -/
def Reflexive (graph : DerivationGraph) : Prop :=
  ∀ type, graph.isAncestor type type

/-- An ancestor of an ancestor is one. -/
def Transitive (graph : DerivationGraph) : Prop :=
  ∀ upper middle lower, graph.isAncestor upper middle → graph.isAncestor middle lower →
    graph.isAncestor upper lower

/-- No two types are strictly derived from one another. -/
def Asymmetric (graph : DerivationGraph) : Prop :=
  ∀ left right, ¬(graph.strictlyDerives left right = .ok true ∧
    graph.strictlyDerives right left = .ok true)

end DerivationGraph

/-! ## Classes and their types -/

namespace Outline

variable {outline : Outline}

theorem WellFormed.classByName?_eq_some_iff
    (formed : outline.WellFormed)
    {package name : String}
    {id : ClassId} :
    outline.classByName? package name = some id ↔
      outline.typeOf? id = some (.reference package name) := by
  rw [classByName?, Option.map_eq_some_iff]
  constructor
  · rintro ⟨index, isFirst, rfl⟩
    obtain ⟨bound, same, _⟩ := List.idxOf?_eq_some_iff.1 isFirst
    rw [typeOf?, List.getElem?_eq_getElem bound, same]
  · intro typed
    have member := List.mem_of_getElem? typed
    obtain ⟨index, isFirst⟩ := Option.isSome_iff_exists.1 (List.isSome_idxOf?.2 member)
    obtain ⟨bound, same, _⟩ := List.idxOf?_eq_some_iff.1 isFirst
    refine ⟨index, isFirst, formed.distinct ?_ typed⟩
    rw [typeOf?, List.getElem?_eq_getElem bound, same]

/-- A type names the class that has its package and its name, whatever its arguments are. -/
theorem WellFormed.classOf?_eq_some_iff
    (formed : outline.WellFormed)
    {type : TypeRef}
    {id : ClassId} :
    outline.classOf? type = some id ↔ ∃ package, type.package = some package ∧
      outline.typeOf? id = some (.reference package type.name) := by
  unfold classOf?
  cases type.package with
  | none => simp
  | some package => simp [formed.classByName?_eq_some_iff]

theorem WellFormed.classOf?_of_typeOf?
    (formed : outline.WellFormed)
    {id : ClassId}
    {type : TypeRef}
    (isClass : id ∈ outline.classIds)
    (typed : outline.typeOf? id = some type) :
    outline.classOf? type = some id := by
  obtain ⟨package, name, _, _, isReference⟩ := formed.typed id isClass
  rw [typed, Option.some.injEq] at isReference
  subst isReference
  exact formed.classOf?_eq_some_iff.2 ⟨package, rfl, typed⟩

theorem WellFormed.mem_classIds_of_transGen
    (formed : outline.WellFormed)
    {id ancestor : ClassId}
    (path : TransGen (Extends outline.class?) id ancestor) :
    ancestor ∈ outline.classIds := by
  obtain ⟨_, _, direct⟩ := TransGen.tail'_iff.1 path
  exact formed.supertype_mem (extends_iff.1 direct)

/-- A path of supertypes from the class that a type names to the class of another type. -/
def Reaches (outline : Outline) (actual declared : TypeRef) : Prop :=
  ∃ id ancestor, outline.classOf? actual = some id ∧
    TransGen (Extends outline.class?) id ancestor ∧ outline.typeOf? ancestor = some declared

/-- The three reasons why a type can be above another. -/
theorem WellFormed.isAncestor_iff
    (formed : outline.WellFormed)
    {declared actual : TypeRef} :
    outline.isAncestor declared actual ↔
      declared = actual ∨ declared = .object ∨ outline.Reaches actual declared := by
  unfold isAncestor Reaches
  cases outline.classOf? actual with
  | none => simp
  | some id => simp [formed.mem_ancestors_iff, or_assoc]

theorem Reaches.trans
    (formed : outline.WellFormed)
    {upper middle lower : TypeRef}
    (lowerReaches : outline.Reaches lower middle)
    (middleReaches : outline.Reaches middle upper) :
    outline.Reaches lower upper := by
  obtain ⟨id, between, found, lowerPath, typed⟩ := lowerReaches
  obtain ⟨_, ancestor, betweenFound, upperPath, upperTyped⟩ := middleReaches
  have isBetween := formed.classOf?_of_typeOf? (formed.mem_classIds_of_transGen lowerPath) typed
  rw [isBetween, Option.some.injEq] at betweenFound
  subst betweenFound
  exact ⟨id, ancestor, found, lowerPath.trans upperPath, upperTyped⟩

/-- No type reaches itself. -/
theorem Reaches.irrefl
    (finished : outline.Finished)
    (type : TypeRef) :
    ¬outline.Reaches type type := by
  rintro ⟨id, ancestor, found, path, typed⟩
  have formed := finished.wellFormed
  have isAncestor := formed.classOf?_of_typeOf? (formed.mem_classIds_of_transGen path) typed
  rw [isAncestor, Option.some.injEq] at found
  exact finished.not_transGen_self id (found ▸ path)

/-! ## Derivations between classes -/

/-- The derivations of an outline are the paths of supertypes: one class is above another if and
only if there is such a path, or if its type is the object type; and strict derivation asks for two
different classes. -/
theorem Finished.derives_iff_path
    (finished : outline.Finished)
    {id other : ClassId}
    (isClass : id ∈ outline.classIds)
    (otherIsClass : other ∈ outline.classIds) :
    ∃ type otherType, outline.typeOf? id = some type ∧ outline.typeOf? other = some otherType ∧
      (outline.isAncestor otherType type ↔
        ReflTransGen (Extends outline.class?) id other ∨ otherType = .object) ∧
      (outline.graph.strictlyDerives type otherType = .ok false ↔ id = other) ∧
      (outline.graph.strictlyDerives type otherType = .ok true ↔
        id ≠ other ∧ (ReflTransGen (Extends outline.class?) id other ∨ otherType = .object)) ∧
      ∀ error, outline.graph.strictlyDerives type otherType = .error error ↔
        error = ⟨otherType, type⟩ ∧
          ¬(ReflTransGen (Extends outline.class?) id other ∨ otherType = .object) := by
  have formed := finished.wellFormed
  obtain ⟨package, name, _, _, typed⟩ := formed.typed id isClass
  obtain ⟨otherPackage, otherName, _, _, otherTyped⟩ := formed.typed other otherIsClass
  have sameType : TypeRef.reference package name = .reference otherPackage otherName ↔
      id = other := by
    constructor
    · exact fun same => formed.distinct typed (same ▸ otherTyped)
    · rintro rfl
      exact Option.some.inj (typed.symm.trans otherTyped)
  have isAncestor : outline.isAncestor (.reference otherPackage otherName)
      (.reference package name) ↔ ReflTransGen (Extends outline.class?) id other ∨
        TypeRef.reference otherPackage otherName = .object := by
    have reaches : outline.Reaches (.reference package name) (.reference otherPackage otherName) ↔
        TransGen (Extends outline.class?) id other := by
      constructor
      · rintro ⟨start, ancestor, found, path, ancestorTyped⟩
        rw [formed.classOf?_of_typeOf? isClass typed, Option.some.injEq] at found
        rw [found, ← formed.distinct ancestorTyped otherTyped]
        exact path
      · intro path
        exact ⟨id, other, formed.classOf?_of_typeOf? isClass typed, path, otherTyped⟩
    rw [formed.isAncestor_iff, reaches, eq_comm, sameType,
      Relation.reflTransGen_iff_eq_or_transGen, eq_comm (a := other)]
    tauto
  refine ⟨_, _, typed, otherTyped, isAncestor, ?_, ?_, fun error => ?_⟩
  · rw [DerivationGraph.strictlyDerives_eq_false_iff, sameType]
  · rw [DerivationGraph.strictlyDerives_eq_true_iff, ne_eq, sameType]
    exact and_congr_right fun _ => isAncestor
  · rw [DerivationGraph.strictlyDerives_eq_error_iff, ne_eq, sameType, ← isAncestor]
    refine and_congr_right fun _ => ⟨And.right, fun unrelated => ⟨?_, unrelated⟩⟩
    rintro rfl
    exact unrelated (isAncestor.2 (.inl .refl))

/-- The outline of the diamond, in which the nested class extends the two others. -/
def diamondOutline : Outline where
  packages := ["p"]
  classes := [⟨"Outer", ⟨0⟩, none, [⟨0⟩], [⟨1⟩], [⟨2⟩]⟩, ⟨"Base", ⟨0⟩, none, [], [], []⟩,
    ⟨"Inner", ⟨0⟩, some ⟨0⟩, [], [⟨0⟩, ⟨1⟩], []⟩]
  fields := [⟨"inner", .reference "p" "Outer.Inner", ⟨0⟩⟩]
  types := [.reference "p" "Outer", .reference "p" "Base", .reference "p" "Outer.Inner"]

theorem diamondOutline_finished : diamondOutline.Finished :=
  finished_iff_ofScript.2 ⟨diamond, by decide⟩

theorem diamondOutline_derives :
    diamondOutline.graph.strictlyDerives (.reference "p" "Outer.Inner") (.reference "p" "Base") =
        .ok true ∧
      diamondOutline.graph.strictlyDerives (.reference "p" "Base") (.reference "p" "Outer.Inner") =
        .error ⟨.reference "p" "Outer.Inner", .reference "p" "Base"⟩ := by
  constructor
  · obtain ⟨type, otherType, typed, otherTyped, _, _, derives, _⟩ :=
      diamondOutline_finished.derives_iff_path (show ⟨2⟩ ∈ diamondOutline.classIds by decide)
        (show ⟨1⟩ ∈ diamondOutline.classIds by decide)
    cases typed
    cases otherTyped
    exact derives.2 ⟨by decide, .inl (.single (extends_iff.2 (by decide)))⟩
  · obtain ⟨type, otherType, typed, otherTyped, _, _, _, unrelated⟩ :=
      diamondOutline_finished.derives_iff_path (show ⟨1⟩ ∈ diamondOutline.classIds by decide)
        (show ⟨2⟩ ∈ diamondOutline.classIds by decide)
    cases typed
    cases otherTyped
    refine (unrelated _).2 ⟨rfl, ?_⟩
    rintro (path | isObject)
    · rcases ReflTransGen.cases_head_iff.1 path with same | ⟨supertype, direct, _⟩
      · exact absurd same (by decide)
      · exact absurd (extends_iff.1 direct) List.not_mem_nil
    · exact absurd isObject (by decide)

/-! ## The laws of derivation -/

/-- Whether nothing is above the object type, should it be the type of a class. -/
def ObjectOnTop (outline : Outline) : Prop :=
  ∀ id, outline.typeOf? id = some .object → outline.supertypes id = []

theorem ObjectOnTop.not_reaches
    (onTop : outline.ObjectOnTop)
    (formed : outline.WellFormed)
    (type : TypeRef) :
    ¬outline.Reaches .object type := by
  rintro ⟨id, ancestor, found, path, _⟩
  obtain ⟨package, samePackage, typed⟩ := formed.classOf?_eq_some_iff.1 found
  cases samePackage
  obtain ⟨supertype, direct, _⟩ := TransGen.head'_iff.1 path
  have above := extends_iff.1 direct
  rw [onTop id typed] at above
  exact List.not_mem_nil above

/-- A class that is the object type is below the types of its supertypes. -/
theorem WellFormed.reaches_of_supertype
    (formed : outline.WellFormed)
    {id supertype : ClassId}
    (typed : outline.typeOf? id = some .object)
    (direct : supertype ∈ outline.supertypes id) :
    ∃ package name, outline.Reaches .object (.reference package name) := by
  obtain ⟨package, name, _, _, above⟩ := formed.typed supertype (formed.supertype_mem direct)
  have found : outline.classOf? .object = some id :=
    formed.classOf?_eq_some_iff.2 ⟨_, rfl, typed⟩
  exact ⟨package, name, id, supertype, found, .single (extends_iff.2 direct), above⟩

theorem objectOnTop_of_not_reaches
    (formed : outline.WellFormed)
    (absent : ∀ package name, ¬outline.Reaches .object (.reference package name)) :
    outline.ObjectOnTop := by
  intro id typed
  apply List.eq_nil_iff_forall_not_mem.2
  intro supertype direct
  obtain ⟨package, name, reaches⟩ := formed.reaches_of_supertype typed direct
  exact absent package name reaches

theorem reflexive_graph
    (formed : outline.WellFormed) :
    outline.graph.Reflexive :=
  fun _ => formed.isAncestor_iff.2 (.inl rfl)

theorem ObjectOnTop.transitive
    (onTop : outline.ObjectOnTop)
    (formed : outline.WellFormed) :
    outline.graph.Transitive := by
  intro upper middle lower upperAbove middleAbove
  rcases formed.isAncestor_iff.1 upperAbove with rfl | rfl | middleReaches
  · exact middleAbove
  · exact formed.isAncestor_iff.2 (.inr (.inl rfl))
  · rcases formed.isAncestor_iff.1 middleAbove with rfl | rfl | lowerReaches
    · exact upperAbove
    · exact absurd middleReaches (onTop.not_reaches formed upper)
    · exact formed.isAncestor_iff.2 (.inr (.inr (lowerReaches.trans formed middleReaches)))

/-- Below everything else, strict derivation is a path of supertypes. -/
theorem ObjectOnTop.reaches_of_strictlyDerives
    (onTop : outline.ObjectOnTop)
    (formed : outline.WellFormed)
    {left right : TypeRef}
    (leftDerives : outline.graph.strictlyDerives left right = .ok true)
    (rightDerives : outline.graph.strictlyDerives right left = .ok true) :
    outline.Reaches left right := by
  obtain ⟨different, above⟩ := DerivationGraph.strictlyDerives_eq_true_iff.1 leftDerives
  obtain ⟨_, below⟩ := DerivationGraph.strictlyDerives_eq_true_iff.1 rightDerives
  rcases formed.isAncestor_iff.1 above with rfl | rfl | reaches
  · exact absurd rfl different
  · rcases formed.isAncestor_iff.1 below with rfl | rfl | reaches
    · exact absurd rfl different
    · exact absurd rfl different
    · exact absurd reaches (onTop.not_reaches formed left)
  · exact reaches

theorem ObjectOnTop.asymmetric
    (onTop : outline.ObjectOnTop)
    (finished : outline.Finished) :
    outline.graph.Asymmetric := by
  rintro left right ⟨leftDerives, rightDerives⟩
  have formed := finished.wellFormed
  have leftReaches := onTop.reaches_of_strictlyDerives formed leftDerives rightDerives
  have rightReaches := onTop.reaches_of_strictlyDerives formed rightDerives leftDerives
  exact Reaches.irrefl finished left (leftReaches.trans formed rightReaches)

/-- A class above the object type would have to be above the primitives as well. -/
theorem not_reaches_of_transitive
    (finished : outline.Finished)
    (transitive : outline.graph.Transitive)
    (package name : String) :
    ¬outline.Reaches .object (.reference package name) := by
  intro reaches
  have formed := finished.wellFormed
  have above : outline.isAncestor (.reference package name) .object :=
    formed.isAncestor_iff.2 (.inr (.inr reaches))
  have below : outline.isAncestor .object (.primitive "int") :=
    formed.isAncestor_iff.2 (.inr (.inl rfl))
  have both : outline.isAncestor (.reference package name) (.primitive "int") :=
    transitive (.reference package name) .object (.primitive "int") above below
  -- A primitive names no class: nothing but itself and the object type can be above it.
  rcases formed.isAncestor_iff.1 both with same | isObject | ⟨id, _, found, _⟩
  · exact absurd (congrArg TypeRef.package same) (Option.some_ne_none package)
  · exact Reaches.irrefl finished .object (isObject ▸ reaches)
  · obtain ⟨other, isPrimitive, _⟩ := formed.classOf?_eq_some_iff.1 found
    exact absurd isPrimitive.symm (Option.some_ne_none other)

/-- A class above the object type would also be strictly derived from it. -/
theorem not_reaches_of_asymmetric
    (finished : outline.Finished)
    (asymmetric : outline.graph.Asymmetric)
    (package name : String) :
    ¬outline.Reaches .object (.reference package name) := by
  intro reaches
  have formed := finished.wellFormed
  have different : TypeRef.object ≠ .reference package name := by
    intro isObject
    exact Reaches.irrefl finished .object (isObject.symm ▸ reaches)
  apply asymmetric .object (.reference package name)
  constructor
  · rw [DerivationGraph.strictlyDerives_eq_true_iff]
    exact ⟨different, formed.isAncestor_iff.2 (.inr (.inr reaches))⟩
  · rw [DerivationGraph.strictlyDerives_eq_true_iff]
    exact ⟨different.symm, formed.isAncestor_iff.2 (.inr (.inl rfl))⟩

/-- Derivation in an outline is reflexive.  It is transitive, and strict only one way, exactly if no
class is above the object type. -/
theorem Finished.derivation_laws
    (finished : outline.Finished) :
    outline.graph.Reflexive ∧ (outline.graph.Transitive ↔ outline.ObjectOnTop) ∧
      (outline.graph.Asymmetric ↔ outline.ObjectOnTop) := by
  have formed := finished.wellFormed
  refine ⟨reflexive_graph formed, ⟨fun transitive => ?_, fun onTop => onTop.transitive formed⟩,
    ⟨fun asymmetric => ?_, fun onTop => onTop.asymmetric finished⟩⟩
  · exact objectOnTop_of_not_reaches formed (not_reaches_of_transitive finished transitive)
  · exact objectOnTop_of_not_reaches formed (not_reaches_of_asymmetric finished asymmetric)

theorem diamondOutline_laws :
    diamondOutline.graph.Reflexive ∧ diamondOutline.graph.Transitive ∧
      diamondOutline.graph.Asymmetric := by
  have onTop : diamondOutline.ObjectOnTop := by
    intro id typed
    have member := List.mem_of_getElem? typed
    exact absurd member (by decide)
  obtain ⟨reflexive, transitive, asymmetric⟩ := diamondOutline_finished.derivation_laws
  exact ⟨reflexive, transitive.2 onTop, asymmetric.2 onTop⟩

/-- An outline in which the object type is a class and extends another one. -/
def loweredObject : Outline where
  packages := ["core", "p"]
  classes := [⟨"Object", ⟨0⟩, none, [], [⟨1⟩], []⟩, ⟨"A", ⟨1⟩, none, [], [], []⟩]
  fields := []
  types := [.object, .reference "p" "A"]

theorem loweredObject_finished : loweredObject.Finished :=
  finished_iff_ofScript.2 ⟨[.package "core", .package "p", .addClass "Object" ⟨0⟩ none,
    .addClass "A" ⟨1⟩ none, .addSupertype ⟨0⟩ ⟨1⟩], by decide⟩

theorem loweredObject_breaks_laws :
    loweredObject.Finished ∧
      loweredObject.isAncestor (.reference "p" "A") .object = true ∧
      loweredObject.isAncestor .object (.primitive "int") = true ∧
      loweredObject.isAncestor (.reference "p" "A") (.primitive "int") = false ∧
      loweredObject.graph.strictlyDerives .object (.reference "p" "A") = .ok true ∧
      loweredObject.graph.strictlyDerives (.reference "p" "A") .object = .ok true := by
  refine ⟨loweredObject_finished, ?_⟩
  cbv

end Outline
end SchemaBinding
