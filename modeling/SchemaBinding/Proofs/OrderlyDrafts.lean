import SchemaBinding.Proofs.ErrorKinds
import SchemaBinding.Proofs.Identity

/-!
# Orderly drafts

Drafts in which every class is defined at once, in the only package and inside an earlier class.
Such a draft can still have two fields or two classes of one name, or a class that is its own
ancestor, but nothing else can be wrong with it.
-/

namespace SchemaBinding

theorem PackageId.eq_of_index_eq
    {left right : PackageId}
    (same : left.index = right.index) :
    left = right := by
  cases left
  cases right
  exact congrArg mk same

/-- Whether a model fails because names meet or because a class is derived from itself. -/
def ModelError.Clashes (error : ModelError) : Prop :=
  error.kind ∈ [.duplicateField, .duplicateClass, .supertypeCycle]

/-- Whether an operation leaves packages alone and defines the classes that it creates. -/
def Operation.DefinesAtOnce : Operation → Prop
  | package _ => False
  | reserve => False
  | define _ _ _ _ => False
  | addClass _ _ _ => True
  | addField _ _ _ => True
  | addSupertype _ _ => True
  | typeOf _ => True

namespace Draft

/-- Whether every class of a draft is defined, in its only package and inside an earlier class. -/
structure Orderly (draft : Draft) : Prop where
  built : ∃ transcript, Built transcript draft
  onePackage : draft.packages.length = 1
  defined : ∀ {id}, draft.Holds (.ofClass id) → ∃ found, draft.defined? id = some found ∧
    ∀ outer ∈ found.enclosing, outer.index < id.index

namespace Orderly

variable {draft : Draft} {id : ClassId}

theorem coherent
    (orderly : draft.Orderly) :
    draft.Coherent :=
  orderly.built.elim fun _ built => built.coherent

theorem holds_package
    (orderly : draft.Orderly) :
    draft.Holds (.ofPackage ⟨0⟩) := by
  simp [Holds, orderly.onePackage]

/-- All fields have places. -/
theorem fieldsPlaced
    (orderly : draft.Orderly) :
    Arena.FieldsPlaced draft := by
  intro id found isFound field isField
  obtain ⟨_, isEntry, _⟩ := (orderly.coherent.classes isFound).owns field isField
  exact (List.getElem?_eq_some_iff.1 isEntry).1

theorem package_index
    (orderly : draft.Orderly)
    {found : Class}
    (isFound : draft.defined? id = some found) :
    found.package.index = 0 := by
  have bound := (orderly.coherent.classes isFound).package_lt
  rwa [orderly.onePackage, Nat.lt_one_iff] at bound

/-- Classes come after those around them, so the way outwards ends. -/
theorem reachesTop
    (orderly : draft.Orderly)
    (held : draft.Holds (.ofClass id)) :
    ReachesTop draft.defined? id := by
  obtain ⟨index⟩ := id
  induction index using Nat.strongRecOn with
  | ind index inductionHypothesis =>
      obtain ⟨found, isFound, earlier⟩ := orderly.defined held
      cases enclosed : found.enclosing with
      | none => exact ⟨[], .outermost (by rw [isFound]; exact enclosed)⟩
      | some outer =>
          have smaller : outer.index < index := earlier outer enclosed
          obtain ⟨rest, around⟩ := inductionHypothesis outer.index smaller
            (Nat.lt_trans smaller held)
          exact ⟨outer :: rest, .inside (by rw [isFound]; exact enclosed) around⟩

/-- Every class has a type. -/
theorem exists_typeOf
    (orderly : draft.Orderly)
    (held : draft.Holds (.ofClass id)) :
    ∃ type, draft.typeOf id = .ok type := by
  have isClass := mem_classIds.2 held
  have ends := orderly.coherent.typeOutcome isClass
  generalize draft.typeOf id = result at ends
  cases ends with
  | typed hasType => exact ⟨_, rfl⟩
  | @undefined rest missing around member undefined =>
      have missingHeld : draft.Holds (.ofClass missing) := by
        rcases List.mem_cons.1 member with rfl | further
        · exact held
        · exact mem_classIds.1 (orderly.coherent.around_subset around further)
      obtain ⟨found, isFound, _⟩ := orderly.defined missingHeld
      rw [undefined] at isFound
      cases isFound
  | endless name endless => exact absurd (orderly.reachesTop held) endless

/-- A draft remains orderly when no class is added. -/
theorem of_keeps
    (orderly : draft.Orderly)
    {next : Draft}
    (keeps : draft.Keeps next)
    (built : ∃ transcript, Built transcript next)
    (packages : next.packages = draft.packages)
    (length : next.classes.length = draft.classes.length) :
    next.Orderly where
  built := built
  onePackage := packages ▸ orderly.onePackage
  defined := by
    intro id held
    have wasHeld : id.index < draft.classes.length := Nat.lt_of_lt_of_eq held length
    obtain ⟨found, isFound, earlier⟩ := orderly.defined wasHeld
    obtain ⟨later, isLater, continues⟩ := keeps.continues isFound
    exact ⟨later, isLater, continues.enclosing_eq ▸ earlier⟩

/-- Orderly drafts remain so. -/
theorem perform
    (orderly : draft.Orderly)
    {operation : Operation}
    (atOnce : operation.DefinesAtOnce)
    (held : ∀ handle ∈ operation.handles, draft.Holds handle) :
    (draft.perform operation).2.Orderly := by
  have builtNext : ∃ transcript, Built transcript (draft.perform operation).2 := by
    obtain ⟨transcript, built⟩ := orderly.built
    exact ⟨_, built.perform operation fun handle member =>
      (built.gives_iff_holds handle).2 (held handle member)⟩
  have step := draft.perform_step operation
  have keeps := step.keeps
  generalize draft.perform operation = result at builtNext step keeps ⊢
  obtain ⟨answer, next⟩ := result
  dsimp only at builtNext step keeps ⊢
  cases step with
  | failed | typeOf | knownSupertype => exact orderly
  | knownPackage | newPackage | reserve | define => exact atOnce.elim
  | addField owned name type owner =>
      exact orderly.of_keeps keeps builtNext rfl (length_classes_withField _ _ _ _ _)
  | newSupertype => exact orderly.of_keeps keeps builtNext rfl (length_classes_put _ _ _)
  | addClass name home enclosing =>
      refine ⟨builtNext, orderly.onePackage, fun {other} otherHeld => ?_⟩
      rw [defined?_withClass]
      split_ifs with isNew
      · refine ⟨_, rfl, fun outer enclosed => ?_⟩
        rw [isNew]
        exact held (.ofClass outer) (List.mem_cons_of_mem _
          (List.mem_map_of_mem (Option.mem_toList.2 enclosed)))
      · have bound : other.index < draft.classes.length + 1 :=
          Nat.lt_of_lt_of_eq otherHeld (length_classes_withClass _ _)
        exact orderly.defined (Nat.lt_of_le_of_ne (Nat.lt_succ_iff.1 bound) isNew)

/-- A field that is refused has the name of another one. -/
theorem clashes_of_addField
    (orderly : draft.Orderly)
    (held : draft.Holds (.ofClass id))
    {name : String}
    {type : TypeRef}
    {error : ModelError}
    (refused : draft.addField id name type = .error error) :
    error.Clashes := by
  obtain ⟨owner, isOwner, _⟩ := orderly.defined held
  obtain ⟨ownerType, typed⟩ := orderly.exists_typeOf held
  cases declares : draft.declares owner name with
  | false => simp [addField_eq_of_fresh type isOwner declares] at refused
  | true =>
      have described : draft.describe id = .ok ownerType.fullName := by
        unfold describe
        rw [typed]
      rw [addField_eq_of_duplicate type isOwner declares, described] at refused
      obtain rfl : ModelError.duplicateField ownerType.fullName name = error := by
        simpa [Except.bind] using refused
      simp [ModelError.Clashes, ModelError.kind]

/-- A class always gets its supertypes. -/
theorem exists_addSupertype
    (orderly : draft.Orderly)
    (held : draft.Holds (.ofClass id))
    (supertype : ClassId) :
    ∃ next, draft.addSupertype id supertype = .ok next := by
  obtain ⟨owner, isOwner, _⟩ := orderly.defined held
  exact ⟨_, addSupertype_eq supertype isOwner⟩

/-- If the draft cannot be finished, then two classes have one type or a class is its own ancestor. -/
theorem clashes_of_finish
    (orderly : draft.Orderly)
    {error : ModelError}
    (refused : draft.finish = .error error) :
    error.Clashes := by
  obtain ⟨transcript, built⟩ := orderly.built
  have violated := built.finish_accepts_valid.2 error refused
  cases error with
  | duplicateClass | supertypeCycle => simp [ModelError.Clashes, ModelError.kind]
  | duplicateField | unknownId => exact violated.elim
  | undefinedClass id =>
      obtain ⟨isClass, undefined⟩ := violated
      obtain ⟨found, isFound, _⟩ := orderly.defined (mem_classIds.1 isClass)
      rw [undefined] at isFound
      cases isFound
  | nestingCycle name =>
      obtain ⟨id, isClass, endless⟩ := violated
      exact absurd (orderly.reachesTop (mem_classIds.1 isClass)) endless
  | packageMismatch name package enclosing =>
      obtain ⟨id, _, leaves, _⟩ := violated
      refine absurd (fun found outer around isFound _ isAround => ?_) leaves
      have samePackage : around.package.index = found.package.index :=
        (orderly.package_index isAround).trans (orderly.package_index isFound).symm
      exact PackageId.eq_of_index_eq samePackage

end Orderly
end Draft
end SchemaBinding
