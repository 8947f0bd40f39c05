import Mathlib.Logic.Relation
import SchemaBinding.Outline.Ancestry
import SchemaBinding.Proofs.Finished

/-!
# Ancestors

The search for the ancestors of a class meets every class to which a path of supertypes leads, and
no other class.  A class is never among its own ancestors.
-/

namespace SchemaBinding
namespace Outline

open Relation (ReflTransGen TransGen)

variable {outline : Outline}

theorem extends_iff
    {id supertype : ClassId} :
    Extends outline.class? id supertype ↔ supertype ∈ outline.supertypes id := by
  unfold Extends supertypes
  cases outline.class? id <;> simp

/-- Where a walk stands that began at the roots, with the classes that it met and those to which it
still has to go. -/
structure Walks (outline : Outline) (roots met pending : List ClassId) : Prop where
  /-- The walk only goes to classes of the outline. -/
  isClass : ∀ id ∈ pending, id ∈ outline.classIds
  /-- The roots lead to all classes that the walk met or will go to. -/
  reached : ∀ id ∈ met ++ pending, ∃ root ∈ roots, ReflTransGen (Extends outline.class?) root id
  /-- No root is left out. -/
  root : ∀ id ∈ roots, id ∈ met ++ pending
  /-- No supertype of a class that was met is left out. -/
  above : ∀ id ∈ met, ∀ supertype, Extends outline.class? id supertype →
    supertype ∈ met ++ pending

namespace Walks

variable {roots met pending : List ClassId} {id : ClassId}

theorem start
    (formed : outline.WellFormed)
    (id : ClassId) :
    outline.Walks (outline.supertypes id) [] (outline.supertypes id) where
  isClass _ member := formed.supertype_mem member
  reached root member := ⟨root, member, .refl⟩
  root _ member := member
  above _ member := absurd member List.not_mem_nil

/-- A class that was met before can be left out. -/
theorem skip
    (walks : outline.Walks roots met (id :: pending))
    (known : id ∈ met) :
    outline.Walks roots met pending := by
  have remains : ∀ other, other ∈ met ++ id :: pending ↔ other ∈ met ++ pending := by
    intro other
    simp only [List.mem_append, List.mem_cons]
    constructor
    · rintro (before | rfl | later)
      · exact .inl before
      · exact .inl known
      · exact .inr later
    · rintro (before | later)
      · exact .inl before
      · exact .inr (.inr later)
  refine ⟨fun other member => walks.isClass other (List.mem_cons_of_mem _ member), ?_, ?_, ?_⟩
  · exact fun other member => walks.reached other ((remains other).2 member)
  · exact fun root isRoot => (remains root).1 (walks.root root isRoot)
  · exact fun other member supertype direct =>
      (remains supertype).1 (walks.above other member supertype direct)

/-- A class is met, and the walk goes to its supertypes next. -/
theorem meet
    (walks : outline.Walks roots met (id :: pending))
    (formed : outline.WellFormed) :
    outline.Walks roots (id :: met) (outline.supertypes id ++ pending) := by
  have remains : ∀ other ∈ met ++ id :: pending,
      other ∈ (id :: met) ++ (outline.supertypes id ++ pending) := by
    intro other member
    simp only [List.mem_append, List.mem_cons] at member ⊢
    tauto
  constructor
  case isClass =>
    intro other member
    rcases List.mem_append.1 member with above | later
    · exact formed.supertype_mem above
    · exact walks.isClass other (List.mem_cons_of_mem _ later)
  case reached =>
    intro other member
    by_cases above : other ∈ outline.supertypes id
    · obtain ⟨root, isRoot, path⟩ := walks.reached id (by simp)
      exact ⟨root, isRoot, path.tail (extends_iff.2 above)⟩
    · apply walks.reached other
      simp only [List.mem_append, List.mem_cons, above, false_or] at member ⊢
      tauto
  case root => exact fun root isRoot => remains root (walks.root root isRoot)
  case above =>
    intro other member supertype direct
    rcases List.mem_cons.1 member with rfl | before
    · simp [extends_iff.1 direct]
    · exact remains supertype (walks.above other before supertype direct)

/-- A walk that has nowhere to go has met all classes to which the roots lead. -/
theorem mem_iff
    (walks : outline.Walks roots met []) :
    id ∈ met ↔ ∃ root ∈ roots, ReflTransGen (Extends outline.class?) root id := by
  constructor
  · intro member
    exact walks.reached id (List.mem_append_left _ member)
  · rintro ⟨root, isRoot, path⟩
    induction path with
    | refl => simpa using walks.root root isRoot
    | tail _ direct inductionHypothesis =>
        simpa using walks.above _ inductionHypothesis _ direct

/-- A walk meets the classes to which its roots lead. -/
theorem mem_walk_iff
    (formed : outline.WellFormed)
    (walks : outline.Walks roots met pending) :
    id ∈ outline.walk met pending ↔
      ∃ root ∈ roots, ReflTransGen (Extends outline.class?) root id := by
  fun_induction outline.walk met pending with
  | case1 met => rw [List.mem_reverse, walks.mem_iff]
  | case2 met next pending fresh isClass fewer inductionHypothesis =>
      exact inductionHypothesis (walks.meet formed)
  | case3 met next pending fresh isNoClass inductionHypothesis =>
      exact absurd (walks.isClass next List.mem_cons_self) isNoClass
  | case4 met next pending known inductionHypothesis =>
      exact inductionHypothesis (walks.skip (not_not.1 known))

end Walks

/-- The ancestors of a class are the classes to which one or more steps to a supertype lead. -/
theorem WellFormed.mem_ancestors_iff
    (formed : outline.WellFormed)
    {id ancestor : ClassId} :
    ancestor ∈ outline.ancestors id ↔ TransGen (Extends outline.class?) id ancestor := by
  rw [ancestors, (Walks.start formed id).mem_walk_iff formed, TransGen.head'_iff]
  simp only [extends_iff]

/-- No class of a finished outline is its own ancestor. -/
theorem Finished.not_transGen_self
    (finished : outline.Finished)
    (id : ClassId) :
    ¬TransGen (Extends outline.class?) id id := by
  obtain ⟨transcript, draft, built, result⟩ := finished
  obtain ⟨valid, types, _, rfl⟩ := built.coherent.valid_of_finish result
  intro cycle
  refine valid.acyclic id (TransGen.mono (fun other supertype direct => ?_) id id cycle)
  obtain ⟨found, isFound, member⟩ := direct
  rw [valid.class?_outlineWith, Option.map_eq_some_iff] at isFound
  obtain ⟨source, defined, rfl⟩ := isFound
  exact ⟨source, defined, member⟩

end Outline
end SchemaBinding
