import Mathlib.Data.List.Perm.Subperm
import Mathlib.Logic.Relation
import SchemaBinding.Proofs.Nesting

/-!
# Supertypes without cycles

The search that finishing a draft makes over the supertypes.  Its answer lists classes so that the
supertypes of a class come behind it, which leaves no room for a cycle; and the class that it blames
is reached from itself.  The bound on the length of its path is never met.
-/

namespace SchemaBinding

open Relation (TransGen)

/-- Whether one class has another as a direct supertype. -/
def Extends (lookup : ClassId → Option Class) (id supertype : ClassId) : Prop :=
  ∃ found, lookup id = some found ∧ supertype ∈ found.supertypes

/-- A list of classes, each of which stands before all of its supertypes. -/
inductive Settled (lookup : ClassId → Option Class) : List ClassId → Prop
  /-- Nothing is listed. -/
  | nil : Settled lookup []
  /-- A class joins the list once its supertypes are there. -/
  | cons {id : ClassId} {rest : List ClassId} (settled : Settled lookup rest)
      (fresh : id ∉ rest) (above : ∀ supertype, Extends lookup id supertype → supertype ∈ rest) :
      Settled lookup (id :: rest)

namespace Settled

variable {lookup : ClassId → Option Class} {listed : List ClassId}

theorem mem_of_extends
    (settled : Settled lookup listed)
    {id supertype : ClassId}
    (member : id ∈ listed)
    (direct : Extends lookup id supertype) :
    supertype ∈ listed := by
  induction settled with
  | nil => exact absurd member List.not_mem_nil
  | cons settled fresh above inductionHypothesis =>
      rcases List.mem_cons.1 member with rfl | later
      · exact List.mem_cons_of_mem _ (above supertype direct)
      · exact List.mem_cons_of_mem _ (inductionHypothesis later)

theorem mem_of_transGen
    (settled : Settled lookup listed)
    {id ancestor : ClassId}
    (member : id ∈ listed)
    (reached : TransGen (Extends lookup) id ancestor) :
    ancestor ∈ listed := by
  induction reached with
  | single direct => exact settled.mem_of_extends member direct
  | tail _ direct inductionHypothesis => exact settled.mem_of_extends inductionHypothesis direct

/-- No listed class is its own ancestor. -/
theorem not_transGen_self
    (settled : Settled lookup listed)
    {id : ClassId}
    (member : id ∈ listed) :
    ¬TransGen (Extends lookup) id id := by
  induction settled with
  | nil => exact absurd member List.not_mem_nil
  | @cons first rest settled fresh above inductionHypothesis =>
      intro cycle
      rcases List.mem_cons.1 member with rfl | later
      · -- The first step of the cycle leads into the rest, and the rest is never left again.
        obtain ⟨supertype, direct, back⟩ := TransGen.head'_iff.1 cycle
        have inside := above supertype direct
        rcases Relation.reflTransGen_iff_eq_or_transGen.1 back with rfl | further
        · exact fresh inside
        · exact fresh (settled.mem_of_transGen inside further)
      · exact inductionHypothesis later cycle

end Settled

namespace Draft

variable {draft : Draft} {types : List TypeRef}

/-- How visiting some classes can end: with a longer list that holds them and nothing else of the
path, or with the name of a class that is reached from itself. -/
inductive VisitOutcome (draft : Draft) (types : List TypeRef) (path visited targets : List ClassId) :
    Except ModelError (List ClassId) → Prop
  /-- The classes are listed. -/
  | listed {after : List ClassId} (settled : Settled draft.defined? after)
      (keeps : visited ⊆ after) (reaches : targets ⊆ after)
      (avoids : ∀ id ∈ after, id ∉ visited → id ∉ path) :
      VisitOutcome draft types path visited targets (.ok after)
  /-- A class is its own ancestor. -/
  | cyclic {culprit : ClassId} {type : TypeRef}
      (cycle : TransGen (Extends draft.defined?) culprit culprit)
      (typed : types[culprit.index]? = some type) :
      VisitOutcome draft types path visited targets (.error (.supertypeCycle type.fullName))

/-- Visits one after the other end as a visit of all. -/
theorem visitOutcome_foldlM
    (depth : Nat)
    (path targets : List ClassId)
    {visited : List ClassId}
    (settled : Settled draft.defined? visited)
    (visitOne : ∀ earlier id, Settled draft.defined? earlier → id ∈ targets →
      VisitOutcome draft types path earlier [id] (draft.visit types depth path earlier id)) :
    VisitOutcome draft types path visited targets
      (targets.foldlM (draft.visit types depth path) visited) := by
  induction targets generalizing visited with
  | nil =>
      exact .listed settled (List.Subset.refl _) (List.nil_subset _)
        fun id member absent => absurd member absent
  | cons first rest inductionHypothesis =>
      rw [List.foldlM_cons]
      have outcome := visitOne visited first settled List.mem_cons_self
      generalize draft.visit types depth path visited first = result at outcome
      cases outcome with
      | cyclic cycle typed => exact .cyclic cycle typed
      | @listed middle middleSettled keeps reaches avoids =>
          have later := inductionHypothesis middleSettled fun earlier id isSettled member =>
            visitOne earlier id isSettled (List.mem_cons_of_mem _ member)
          simp only [bind, Except.bind]
          generalize rest.foldlM (draft.visit types depth path) middle = result at later ⊢
          cases later with
          | cyclic cycle typed => exact .cyclic cycle typed
          | @listed after afterSettled keepsLater reachesLater avoidsLater =>
              refine .listed afterSettled (List.Subset.trans keeps keepsLater) ?_ ?_
              · have firstListed : first ∈ after := keepsLater (reaches List.mem_cons_self)
                exact List.cons_subset.2 ⟨firstListed, reachesLater⟩
              · intro id member absent
                by_cases present : id ∈ middle
                · exact avoids id present absent
                · exact avoidsLater id member present

/-- Whether the supertypes of all classes of a draft are classes of the draft. -/
def ClosedAbove (draft : Draft) : Prop :=
  ∀ id supertype, Extends draft.defined? id supertype → supertype ∈ draft.classIds

theorem Coherent.closedAbove (coherent : draft.Coherent) : draft.ClosedAbove := by
  rintro id supertype ⟨found, defined, member⟩
  exact mem_classIds.2 ((coherent.classes defined).supertype_lt supertype member)

/-- A visit ends in one of the two ways.  The path leads to the visited class, and what is left of
the depth makes up for its length. -/
theorem ClosedAbove.visitOutcome
    (closed : draft.ClosedAbove)
    (allDefined : ∀ id ∈ draft.classIds, (draft.defined? id).isSome)
    (allTyped : types.length = draft.classes.length)
    {depth : Nat}
    {path visited : List ClassId}
    {id : ClassId}
    (isClass : id ∈ draft.classIds)
    (nodup : path.Nodup)
    (inside : path ⊆ draft.classIds)
    (leads : ∀ earlier ∈ path, TransGen (Extends draft.defined?) earlier id)
    (enough : draft.classes.length < depth + path.length)
    (settled : Settled draft.defined? visited) :
    VisitOutcome draft types path visited [id] (draft.visit types depth path visited id) := by
  induction depth generalizing path visited id with
  | zero =>
      have bound := length_le_of_nodup nodup inside
      omega
  | succ depth inductionHypothesis =>
      unfold visit
      by_cases known : id ∈ visited
      · rw [if_pos known]
        exact .listed settled (List.Subset.refl _) (by simpa using known)
          fun other member absent => absurd member absent
      · rw [if_neg known]
        by_cases met : id ∈ path
        · rw [if_pos met]
          have bound : id.index < types.length := allTyped ▸ mem_classIds.1 isClass
          rw [List.getElem?_eq_getElem bound]
          exact .cyclic (leads id met) (List.getElem?_eq_getElem bound)
        · rw [if_neg met]
          obtain ⟨found, defined⟩ := Option.isSome_iff_exists.1 (allDefined id isClass)
          have direct : ∀ supertype ∈ found.supertypes, Extends draft.defined? id supertype :=
            fun supertype member => ⟨found, defined, member⟩
          have outcome := visitOutcome_foldlM depth (id :: path) found.supertypes
            settled fun earlier supertype earlierSettled member =>
              inductionHypothesis
                (closed id supertype (direct supertype member))
                (List.nodup_cons.2 ⟨met, nodup⟩)
                (List.cons_subset.2 ⟨isClass, inside⟩)
                (List.forall_mem_cons.2 ⟨.single (direct supertype member),
                  fun other onPath => (leads other onPath).tail (direct supertype member)⟩)
                (by simp only [List.length_cons]; omega)
                earlierSettled
          simp only [defined]
          generalize found.supertypes.foldlM (draft.visit types depth (id :: path)) visited =
            result at outcome
          cases outcome with
          | cyclic cycle typed => exact .cyclic cycle typed
          | @listed after afterSettled keeps reaches avoids =>
              have fresh : id ∉ after := fun member => avoids id member known List.mem_cons_self
              refine .listed (.cons afterSettled fresh ?_) (List.subset_cons_of_subset _ keeps)
                (by simp) ?_
              · rintro supertype ⟨other, otherDefined, member⟩
                rw [defined, Option.some.injEq] at otherDefined
                subst otherDefined
                exact reaches member
              · intro other member absent onPath
                rcases List.mem_cons.1 member with rfl | later
                · exact met onPath
                · exact avoids other later absent (List.mem_cons_of_mem _ onPath)

/-- The check of the supertypes succeeds exactly if no class is its own ancestor; otherwise it
blames a class that is. -/
theorem ClosedAbove.checkAncestry_cases
    (closed : draft.ClosedAbove)
    (allDefined : ∀ id ∈ draft.classIds, (draft.defined? id).isSome)
    (allTyped : types.length = draft.classes.length) :
    (draft.checkAncestry types = .ok () ∧
        ∀ id, ¬TransGen (Extends draft.defined?) id id) ∨
      ∃ culprit type, draft.checkAncestry types = .error (.supertypeCycle type.fullName) ∧
        TransGen (Extends draft.defined?) culprit culprit ∧
        types[culprit.index]? = some type := by
  have outcome := visitOutcome_foldlM (draft.classes.length + 1) [] draft.classIds
    Settled.nil fun earlier id earlierSettled member =>
      closed.visitOutcome allDefined allTyped member .nil (List.nil_subset _)
        (fun _ onPath => absurd onPath List.not_mem_nil) (by simp) earlierSettled
  unfold checkAncestry
  generalize draft.classIds.foldlM (draft.visit types (draft.classes.length + 1) []) [] =
    result at outcome ⊢
  cases outcome with
  | @cyclic culprit type cycle typed => exact .inr ⟨culprit, type, rfl, cycle, typed⟩
  | listed settled keeps reaches avoids =>
      refine .inl ⟨rfl, fun id cycle => ?_⟩
      obtain ⟨supertype, ⟨found, defined, _⟩, _⟩ := TransGen.head'_iff.1 cycle
      have isClass := mem_classIds.2 (index_lt_of_defined defined)
      exact settled.not_transGen_self (reaches isClass) cycle

end Draft
end SchemaBinding
