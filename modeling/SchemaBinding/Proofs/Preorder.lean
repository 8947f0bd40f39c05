import SchemaBinding.Proofs.Derivations

/-!
# Ancestors in preorder

The search for the ancestors of a class keeps the classes to which it still has to go on a stack,
where one class may stand many times.  It lists the ancestors in the order in which a recursion
lists them that goes to the supertypes of each class from left to right and passes over what is
listed.  Nothing in the equations of either says that it ends; both break off where a class is
missing.
-/

namespace SchemaBinding
namespace Outline

open Relation (TransGen)

/-! ## Two ways to list the ancestors -/

/-- Where the search for ancestors stands. -/
structure AncestorSearch where
  /-- The classes that were listed, in no order that counts. -/
  seen : List ClassId
  /-- The classes to which the search still has to go, the next one last. -/
  pending : List ClassId
  /-- The classes that were listed, in this order. -/
  listed : List ClassId

/-- What a search lists in the end. -/
def search? (outline : Outline) (search : AncestorSearch) : Option (List ClassId) :=
  match search.pending.getLast? with
  | none => some search.listed
  | some id =>
      let pending := search.pending.dropLast
      if id ∈ search.seen then outline |>.search? { search with pending }
      else do
        let found ← outline.class? id
        outline |>.search? {
          seen := id :: search.seen
          pending := pending ++ found.supertypes.reverse
          listed := search.listed ++ [id] }
partial_fixpoint

/-- The ancestors of a class, as the search lists them. -/
def searchAncestors? (outline : Outline) (id : ClassId) : Option (List ClassId) := do
  let found ← outline.class? id
  outline.search? ⟨[], found.supertypes.reverse, []⟩

/-- Lists a class, unless it is listed, and then its supertypes from left to right, each with what
is above it. -/
def preorder? (outline : Outline) (listed : List ClassId) (id : ClassId) :
    Option (List ClassId) :=
  if id ∈ listed then some listed
  else do
    let found ← outline.class? id
    found.supertypes.foldlM (outline |>.preorder?) (listed ++ [id])
partial_fixpoint

/-- The ancestors of a class, as the recursion lists them. -/
def preorderAncestors? (outline : Outline) (id : ClassId) : Option (List ClassId) := do
  let found ← outline.class? id
  found.supertypes.foldlM outline.preorder? []

variable {outline : Outline}

/-! ## Both list what a walk meets -/

/-- The search takes the last class of the stack. -/
theorem search?_append_singleton
    (seen pending listed : List ClassId)
    (id : ClassId) :
    outline.search? ⟨seen, pending ++ [id], listed⟩ =
      if id ∈ seen then outline.search? ⟨seen, pending, listed⟩
      else (outline.class? id).bind fun found =>
        outline.search? ⟨id :: seen, pending ++ found.supertypes.reverse, listed ++ [id]⟩ := by
  rw [search?, List.getLast?_concat, List.dropLast_concat]
  rfl

/-- A search and a walk that have met the same classes list the same ones in the end.  The stack is
what is pending on the walk, the other way round. -/
theorem WellFormed.search?_eq
    (formed : outline.WellFormed)
    {seen met pending : List ClassId}
    (sameSeen : ∀ id, id ∈ seen ↔ id ∈ met)
    (areClasses : ∀ id ∈ pending, id ∈ outline.classIds) :
    outline.search? ⟨seen, pending.reverse, met.reverse⟩ = some (outline.walk met pending) := by
  fun_induction outline.walk met pending generalizing seen with
  | case1 met =>
      rw [search?]
      rfl
  | case2 met id pending fresh isClass fewer inductionHypothesis =>
      obtain ⟨found, isFound⟩ := exists_class? isClass
      have above := supertypes_of_class? isFound
      have further : ∀ other ∈ outline.supertypes id ++ pending, other ∈ outline.classIds :=
        List.forall_mem_append.2 ⟨fun _ member => formed.supertype_mem member,
          fun other member => areClasses other (List.mem_cons_of_mem _ member)⟩
      have sameAfter : ∀ other, other ∈ id :: seen ↔ other ∈ id :: met := fun other => by
        rw [List.mem_cons, List.mem_cons, sameSeen]
      rw [List.reverse_cons, search?_append_singleton, if_neg ((sameSeen id).not.2 fresh), isFound,
        Option.bind_some, ← above, ← List.reverse_append, ← List.reverse_cons]
      exact inductionHypothesis sameAfter further
  | case3 met id pending fresh isNoClass inductionHypothesis =>
      exact absurd (areClasses id List.mem_cons_self) isNoClass
  | case4 met id pending known inductionHypothesis =>
      have isSeen : id ∈ seen := (sameSeen id).2 (not_not.1 known)
      rw [List.reverse_cons, search?_append_singleton, if_pos isSeen]
      exact inductionHypothesis sameSeen fun other member =>
        areClasses other (List.mem_cons_of_mem _ member)

/-- What the recursion lists from some classes on is what a walk to these classes meets.  The
classes above a class come before the other pending ones on the walk as they do in the recursion, so
that the two meet in the list of all of them. -/
theorem WellFormed.foldlM_preorder?_eq
    (formed : outline.WellFormed)
    {met pending : List ClassId}
    (areClasses : ∀ id ∈ pending, id ∈ outline.classIds) :
    pending.foldlM outline.preorder? met.reverse = some (outline.walk met pending) := by
  fun_induction outline.walk met pending with
  | case1 met => rfl
  | case2 met id pending fresh isClass fewer inductionHypothesis =>
      obtain ⟨found, isFound⟩ := exists_class? isClass
      have further : ∀ other ∈ outline.supertypes id ++ pending, other ∈ outline.classIds :=
        List.forall_mem_append.2 ⟨fun _ member => formed.supertype_mem member,
          fun other member => areClasses other (List.mem_cons_of_mem _ member)⟩
      have unlisted : id ∉ met.reverse := by simpa using fresh
      have visited : outline.preorder? met.reverse id =
          (outline.supertypes id).foldlM outline.preorder? (id :: met).reverse := by
        rw [preorder?, if_neg unlisted, isFound, supertypes_of_class? isFound, List.reverse_cons]
        rfl
      rw [List.foldlM_cons, visited, ← List.foldlM_append]
      exact inductionHypothesis further
  | case3 met id pending fresh isNoClass inductionHypothesis =>
      exact absurd (areClasses id List.mem_cons_self) isNoClass
  | case4 met id pending known inductionHypothesis =>
      have isListed : id ∈ met.reverse := by simpa using known
      rw [List.foldlM_cons, preorder?, if_pos isListed]
      exact inductionHypothesis fun other member => areClasses other (List.mem_cons_of_mem _ member)

/-! ## The order of the list -/

/-- Whether each class of a list is a root or a supertype of a class behind it. -/
inductive Rooted (outline : Outline) (roots : List ClassId) : List ClassId → Prop
  /-- Nothing is listed. -/
  | nil : Rooted outline roots []
  /-- One more class is listed. -/
  | cons {id : ClassId} {rest : List ClassId} (rooted : Rooted outline roots rest)
      (leads : id ∈ roots ∨ ∃ child ∈ rest, id ∈ outline.supertypes child) :
      Rooted outline roots (id :: rest)

theorem Rooted.leads_of_append
    {roots before after : List ClassId}
    {id : ClassId}
    (rooted : outline.Rooted roots (after ++ id :: before)) :
    id ∈ roots ∨ ∃ child ∈ before, id ∈ outline.supertypes child := by
  induction after with
  | nil =>
      cases rooted with
      | cons rooted leads => exact leads
  | cons other after inductionHypothesis =>
      cases rooted with
      | cons rooted leads => exact inductionHypothesis rooted

/-- A walk meets each class once, and each after a class that leads to it. -/
theorem rooted_walk
    {roots met pending : List ClassId}
    (nodup : met.Nodup)
    (rooted : outline.Rooted roots met)
    (leads : ∀ id ∈ pending, id ∈ roots ∨ ∃ child ∈ met, id ∈ outline.supertypes child) :
    (outline.walk met pending).Nodup ∧ outline.Rooted roots (outline.walk met pending).reverse := by
  fun_induction outline.walk met pending with
  | case1 met =>
      rw [List.nodup_reverse, List.reverse_reverse]
      exact ⟨nodup, rooted⟩
  | case2 met id pending fresh isClass fewer inductionHypothesis =>
      obtain ⟨idLeads, pendingLeads⟩ := List.forall_mem_cons.1 leads
      refine inductionHypothesis (List.nodup_cons.2 ⟨fresh, nodup⟩) (.cons rooted idLeads) ?_
      refine List.forall_mem_append.2 ⟨fun supertype member => ?_, fun other member => ?_⟩
      · exact .inr ⟨id, List.mem_cons_self, member⟩
      · refine (pendingLeads other member).imp_right ?_
        rintro ⟨child, isMet, above⟩
        exact ⟨child, List.mem_cons_of_mem _ isMet, above⟩
  | case3 met id pending fresh isNoClass inductionHypothesis
  | case4 met id pending known inductionHypothesis =>
      exact inductionHypothesis nodup rooted (List.forall_mem_cons.1 leads).2

/-- The search for the ancestors of a class ends, and so does the recursion that goes from left to
right, depth first, and passes over what is listed; both list the same classes in the same order.
These are the classes to which one or more steps to a supertype lead, each once, and never the class
itself.  Each is a supertype of the class or comes after one of which it is a supertype. -/
theorem Finished.ancestors_preorder
    (finished : outline.Finished)
    {id : ClassId}
    (isClass : id ∈ outline.classIds) :
    outline.searchAncestors? id = some (outline.ancestors id) ∧
      outline.preorderAncestors? id = some (outline.ancestors id) ∧
      (∀ ancestor, ancestor ∈ outline.ancestors id ↔
        TransGen (Extends outline.class?) id ancestor) ∧
      (outline.ancestors id).Nodup ∧ id ∉ outline.ancestors id ∧
      ∀ before ancestor after, outline.ancestors id = before ++ ancestor :: after →
        ancestor ∈ outline.supertypes id ∨
          ∃ child ∈ before, ancestor ∈ outline.supertypes child := by
  have formed := finished.wellFormed
  obtain ⟨found, isFound⟩ := exists_class? isClass
  have above := supertypes_of_class? isFound
  have areClasses : ∀ supertype ∈ outline.supertypes id, supertype ∈ outline.classIds :=
    fun _ member => formed.supertype_mem member
  have ordered : (outline.ancestors id).Nodup ∧
      outline.Rooted (outline.supertypes id) (outline.ancestors id).reverse :=
    rooted_walk List.nodup_nil .nil fun supertype member => .inl member
  obtain ⟨nodup, rooted⟩ := ordered
  refine ⟨?_, ?_, fun _ => formed.mem_ancestors_iff, nodup, ?_, ?_⟩
  · rw [searchAncestors?, isFound, Option.bind_eq_bind, Option.bind_some, ← above]
    exact formed.search?_eq (fun _ => Iff.rfl) areClasses
  · rw [preorderAncestors?, isFound, Option.bind_eq_bind, Option.bind_some, ← above]
    have listed : (outline.supertypes id).foldlM outline.preorder? ([] : List ClassId).reverse =
        some (outline.ancestors id) := formed.foldlM_preorder?_eq areClasses
    exact listed
  · rw [formed.mem_ancestors_iff]
    exact finished.not_transGen_self id
  · intro before ancestor after split
    rw [split, List.reverse_append, List.reverse_cons, List.append_assoc] at rooted
    simpa using rooted.leads_of_append

/-- The nested class of the diamond leads to one of the others in two ways. -/
theorem diamondOutline_preorder :
    diamondOutline.searchAncestors? ⟨2⟩ = some [⟨0⟩, ⟨1⟩] ∧
      diamondOutline.preorderAncestors? ⟨2⟩ = some [⟨0⟩, ⟨1⟩] ∧
      ⟨2⟩ ∉ diamondOutline.ancestors ⟨2⟩ := by
  have listed : diamondOutline.ancestors ⟨2⟩ = [⟨0⟩, ⟨1⟩] := by cbv
  have isClass : (⟨2⟩ : ClassId) ∈ diamondOutline.classIds := by decide
  obtain ⟨searched, recursed, _, _, apart, _⟩ := diamondOutline_finished.ancestors_preorder isClass
  exact ⟨listed ▸ searched, listed ▸ recursed, apart⟩

end Outline
end SchemaBinding
