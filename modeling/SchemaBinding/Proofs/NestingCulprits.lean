import Mathlib.Data.Set.Finite.Basic
import Mathlib.Dynamics.PeriodicPts.Defs
import Mathlib.Order.Interval.Finset.Nat
import Mathlib.Order.Preorder.Finite
import SchemaBinding.Proofs.NestingChains
import SchemaBinding.Proofs.Validity

/-!
# Who is blamed for endless nesting

A class whose chain never ends is said to be nested within itself.  There are only so many classes,
so that the chain comes to one that is; but it may have a tail that leads there, and then the class
that is blamed is on the tail and not on the circle.  It is on the circle exactly if no two classes
of the chain are directly inside the same class.  Finishing a draft blames the first class, in the
order of creation, whose chain never ends, on whichever part it may be.
-/

namespace SchemaBinding

open Relation (ReflTransGen TransGen)
open Function (IsPeriodicPt)

/-! ## Tails -/

/-- Whether no two classes on the chain of a class are directly inside the same class. -/
def Tailless (lookup : ClassId → Option Class) (id : ClassId) : Prop :=
  ∀ first second outer, ReflTransGen (EnclosedBy lookup) id first →
    ReflTransGen (EnclosedBy lookup) id second → EnclosedBy lookup first outer →
      EnclosedBy lookup second outer → first = second

/-- One step outwards, if there is a class to step to. -/
def stepOutwards (lookup : ClassId → Option Class) (inner : Option ClassId) : Option ClassId :=
  inner.bind fun id => (lookup id).bind Class.enclosing

section Tails

variable {lookup : ClassId → Option Class} {id other : ClassId}

theorem stepOutwards_eq_some_iff
    {inner : Option ClassId} :
    stepOutwards lookup inner = some other ↔
      ∃ last, inner = some last ∧ EnclosedBy lookup last other :=
  Option.bind_eq_some_iff

/-- A chain leads to what steps outwards lead to. -/
theorem path_iff_iterate :
    ReflTransGen (EnclosedBy lookup) id other ↔
      ∃ steps, (stepOutwards lookup)^[steps] (some id) = some other := by
  constructor
  · intro path
    induction path with
    | refl => exact ⟨0, rfl⟩
    | tail _ enclosed inductionHypothesis =>
        obtain ⟨steps, reached⟩ := inductionHypothesis
        refine ⟨steps + 1, ?_⟩
        rw [Function.iterate_succ_apply', reached]
        exact enclosed
  · rintro ⟨steps, reached⟩
    induction steps generalizing other with
    | zero => exact Option.some.inj reached ▸ .refl
    | succ steps inductionHypothesis =>
        rw [Function.iterate_succ_apply', stepOutwards_eq_some_iff] at reached
        obtain ⟨last, reachedLast, enclosed⟩ := reached
        exact (inductionHypothesis reachedLast).tail enclosed

/-- A class is around itself if steps outwards from it come back to it. -/
theorem cycle_iff_periodic :
    TransGen (EnclosedBy lookup) id id ↔
      ∃ steps, IsPeriodicPt (stepOutwards lookup) (steps + 1) (some id) := by
  rw [TransGen.tail'_iff]
  constructor
  · rintro ⟨last, path, enclosed⟩
    obtain ⟨steps, reached⟩ := path_iff_iterate.1 path
    refine ⟨steps, ?_⟩
    rw [IsPeriodicPt, Function.IsFixedPt, Function.iterate_succ_apply', reached]
    exact enclosed
  · rintro ⟨steps, back⟩
    rw [IsPeriodicPt, Function.IsFixedPt, Function.iterate_succ_apply',
      stepOutwards_eq_some_iff] at back
    obtain ⟨last, reached, enclosed⟩ := back
    exact ⟨last, path_iff_iterate.2 ⟨steps, reached⟩, enclosed⟩

/-- From a class whose chain never ends any number of steps can be taken. -/
theorem Endless.exists_iterate
    (endless : Endless lookup id)
    (steps : Nat) :
    ∃ last, (stepOutwards lookup)^[steps] (some id) = some last := by
  induction steps with
  | zero => exact ⟨id, rfl⟩
  | succ steps inductionHypothesis =>
      obtain ⟨last, reached⟩ := inductionHypothesis
      obtain ⟨outer, enclosed⟩ := endless last (path_iff_iterate.2 ⟨steps, reached⟩)
      exact ⟨outer, by rw [Function.iterate_succ_apply', reached]; exact enclosed⟩

/-- An endless chain comes to a class that is around itself if there are only so many classes. -/
theorem Endless.exists_cycle
    {count : Nat}
    (endless : Endless lookup id)
    (bounded : ∀ {inner outer}, EnclosedBy lookup inner outer → outer.index < count) :
    ∃ met, ReflTransGen (EnclosedBy lookup) id met ∧ TransGen (EnclosedBy lookup) met met := by
  let inRange : Set (Option ClassId) := (fun index => some ⟨index⟩) '' Set.Iio count
  have staysInRange : ∀ steps, (stepOutwards lookup)^[steps + 1] (some id) ∈ inRange := by
    intro steps
    obtain ⟨outer, reached⟩ := endless.exists_iterate (steps + 1)
    rw [reached]
    rw [Function.iterate_succ_apply', stepOutwards_eq_some_iff] at reached
    obtain ⟨last, _, enclosed⟩ := reached
    exact ⟨outer.index, bounded enclosed, rfl⟩
  -- There are more numbers of steps than classes, so that two of them lead to the same class.
  obtain ⟨early, late, before, same⟩ :=
    Set.Finite.exists_lt_map_eq_of_forall_mem staysInRange ((Set.finite_Iio count).image _)
  obtain ⟨further, rfl⟩ := Nat.exists_eq_add_of_lt before
  obtain ⟨met, reached⟩ := endless.exists_iterate (early + 1)
  refine ⟨met, path_iff_iterate.2 ⟨_, reached⟩, cycle_iff_periodic.2 ⟨further, ?_⟩⟩
  rw [IsPeriodicPt, Function.IsFixedPt, ← reached, ← Function.iterate_add_apply, same]
  congr 1
  omega

/-- All classes on the chain of a class that is around itself are around themselves. -/
theorem periodic_of_path
    {steps : Nat}
    (back : IsPeriodicPt (stepOutwards lookup) steps (some id))
    (path : ReflTransGen (EnclosedBy lookup) id other) :
    IsPeriodicPt (stepOutwards lookup) steps (some other) := by
  obtain ⟨further, reached⟩ := path_iff_iterate.1 path
  exact reached ▸ back.apply_iterate further

/-- A chain that comes to a class that is around itself begins at such a class exactly if it has no
tail. -/
theorem cycle_iff_tailless
    (path : ReflTransGen (EnclosedBy lookup) id other)
    (cycle : TransGen (EnclosedBy lookup) other other) :
    TransGen (EnclosedBy lookup) id id ↔ Tailless lookup id := by
  constructor
  · intro ownCycle first second outer firstPath secondPath firstInside secondInside
    obtain ⟨steps, back⟩ := cycle_iff_periodic.1 ownCycle
    have sameStep : stepOutwards lookup (some first) = stepOutwards lookup (some second) :=
      Eq.trans firstInside secondInside.symm
    exact Option.some.inj ((periodic_of_path back firstPath).eq_of_apply_eq
      (periodic_of_path back secondPath) (Nat.succ_pos steps) (Nat.succ_pos steps) sameStep)
  · intro tailless
    -- Going back on the chain, the class before one on the circle is the one before it there.
    induction path with
    | refl => exact cycle
    | @tail last outer path enclosed inductionHypothesis =>
        obtain ⟨before, around, closing⟩ := TransGen.tail'_iff.1 cycle
        have same : last = before :=
          tailless last before outer path ((path.tail enclosed).trans around) enclosed closing
        exact inductionHypothesis (.head' enclosed (same ▸ around))

end Tails

namespace Draft

variable {draft : Draft} {id : ClassId}

/-! ## Where finishing fails -/

/-- Whether finishing a draft fails with an error at a class: it does not pass the check of types,
but the classes that were created before it do. -/
def FailsAt (draft : Draft) (id : ClassId) (error : ModelError) : Prop :=
  id ∈ draft.classIds ∧ ∃ types, draft.checkedTypes [] (draft.classIds.take id.index) = .ok types ∧
    draft.checkedType types id = .error error

theorem checkedTypes_append
    (seen : List TypeRef)
    (before after : List ClassId) :
    draft.checkedTypes seen (before ++ after) =
      draft.checkedTypes seen before >>= fun types => draft.checkedTypes types after := by
  induction before generalizing seen with
  | nil => rfl
  | cons first rest inductionHypothesis =>
      rw [List.cons_append, checkedTypes, checkedTypes, bind_assoc]
      exact congrArg _ (funext fun type => inductionHypothesis (seen ++ [type]))

/-- The check of classes fails if one of them fails after the ones before it have passed. -/
theorem checkedTypes_eq_error_iff
    {seen : List TypeRef}
    {ids : List ClassId}
    {error : ModelError} :
    draft.checkedTypes seen ids = .error error ↔
      ∃ before id after types, ids = before ++ id :: after ∧
        draft.checkedTypes seen before = .ok types ∧ draft.checkedType types id = .error error := by
  constructor
  · intro failed
    induction ids generalizing seen with
    | nil => cases failed
    | cons first rest inductionHypothesis =>
        rw [checkedTypes] at failed
        cases checked : draft.checkedType seen first with
        | error reason =>
            rw [checked] at failed
            cases failed
            exact ⟨[], first, rest, seen, rfl, rfl, checked⟩
        | ok type =>
            rw [checked] at failed
            obtain ⟨before, id, after, types, rfl, passed, stopped⟩ := inductionHypothesis failed
            refine ⟨first :: before, id, after, types, rfl, ?_, stopped⟩
            rw [checkedTypes, checked]
            exact passed
  · rintro ⟨before, id, after, types, rfl, passed, stopped⟩
    rw [checkedTypes_append, passed]
    simp only [bind, Except.bind, checkedTypes, stopped]

/-- The number of a class is its place among all. -/
theorem getElem?_classIds_eq_some_iff
    {index : Nat} :
    draft.classIds[index]? = some id ↔ id ∈ draft.classIds ∧ id.index = index := by
  rw [mem_classIds, classIds, List.getElem?_map, Option.map_eq_some_iff]
  constructor
  · rintro ⟨place, atPlace, rfl⟩
    obtain ⟨inRange, rfl⟩ := List.getElem?_eq_some_iff.1 atPlace
    simpa using inRange
  · rintro ⟨inRange, rfl⟩
    exact ⟨id.index, List.getElem?_range inRange, rfl⟩

/-- The classes before a class are those that were created before it. -/
theorem classIds_eq_append_cons_iff
    {before : List ClassId} :
    (∃ after, draft.classIds = before ++ id :: after) ↔
      id ∈ draft.classIds ∧ before = draft.classIds.take id.index := by
  constructor
  · rintro ⟨after, split⟩
    have place : draft.classIds[before.length]? = some id := by simp [split]
    obtain ⟨isClass, index⟩ := getElem?_classIds_eq_some_iff.1 place
    exact ⟨isClass, by rw [split, List.take_left' index.symm]⟩
  · rintro ⟨isClass, rfl⟩
    have place := getElem?_classIds_eq_some_iff.2 ⟨isClass, rfl⟩
    obtain ⟨inRange, atPlace⟩ := List.getElem?_eq_some_iff.1 place
    have onwards : draft.classIds.drop id.index = id :: draft.classIds.drop (id.index + 1) := by
      rw [List.drop_eq_getElem_cons inRange, atPlace]
    exact ⟨_, by rw [← onwards, List.take_append_drop]⟩

/-- The check of all classes fails if finishing fails at one of them. -/
theorem exists_failsAt_iff
    {error : ModelError} :
    (∃ id, draft.FailsAt id error) ↔ draft.checkedTypes [] draft.classIds = .error error := by
  rw [checkedTypes_eq_error_iff]
  constructor
  · rintro ⟨id, isClass, types, passed, stopped⟩
    obtain ⟨after, split⟩ := classIds_eq_append_cons_iff.2 ⟨isClass, rfl⟩
    exact ⟨_, id, after, types, split, passed, stopped⟩
  · rintro ⟨before, id, after, types, split, passed, stopped⟩
    obtain ⟨isClass, rfl⟩ := classIds_eq_append_cons_iff.1 ⟨after, split⟩
    exact ⟨id, isClass, types, passed, stopped⟩

/-- Finishing fails for the nesting of a class if it does so at one of the classes. -/
theorem Coherent.finish_eq_nestingCycle_iff
    (coherent : draft.Coherent)
    {name : String} :
    draft.finish = .error (.nestingCycle name) ↔ ∃ id, draft.FailsAt id (.nestingCycle name) := by
  rw [exists_failsAt_iff]
  constructor
  · intro failed
    cases checked : draft.checkedTypes [] draft.classIds with
    | error error =>
        simpa only [finish, checked, bind, Except.bind, Except.error.injEq] using failed
    | ok types =>
        -- All classes have types then, so that what follows fails for other reasons.
        rcases coherent.finish_cases with ⟨_, _, _, finished⟩ | ⟨error, other, violated⟩
        · rw [failed] at finished
          cases finished
        · obtain rfl : ModelError.nestingCycle name = error :=
            Except.error.inj (failed.symm.trans other)
          obtain ⟨id, isClass, endless⟩ := violated
          obtain ⟨_, _, _, _, _, named, _⟩ :=
            exists_hasType (coherent.typed_of_checkedTypes checked) isClass
          exact absurd named.reachesTop endless
  · intro failed
    rw [finish, failed]
    rfl

/-- A class at which finishing fails for its nesting has no type for the same reason. -/
theorem Coherent.typeOf_of_failsAt
    (coherent : draft.Coherent)
    {name : String}
    (fails : draft.FailsAt id (.nestingCycle name)) :
    draft.typeOf id = .error (.nestingCycle name) := by
  obtain ⟨_, types, _, stopped⟩ := fails
  cases asked : draft.typeOf id with
  | error error => simpa only [checkedType, asked, bind, Except.bind] using stopped
  | ok type =>
      rcases checkedType_of_hasType types asked coherent with
        ⟨_, checked⟩ | ⟨_, _, _, checked⟩
      · rw [stopped] at checked
        split at checked <;> cases checked
      · rw [stopped] at checked
        cases checked

/-- A class at which finishing fails is created before the other classes whose chains never end. -/
theorem Coherent.index_le_of_failsAt
    (coherent : draft.Coherent)
    {error : ModelError}
    (fails : draft.FailsAt id error)
    {other : ClassId}
    (endless : Endless draft.defined? other) :
    id.index ≤ other.index := by
  obtain ⟨_, types, passed, _⟩ := fails
  by_contra later
  obtain ⟨outer, enclosed⟩ := endless other .refl
  obtain ⟨found, defined, _⟩ := Option.bind_eq_some_iff.1 enclosed
  have isClass := mem_classIds.2 (index_lt_of_defined defined)
  have before : other ∈ draft.classIds.take id.index := by
    have place := getElem?_classIds_eq_some_iff.2 ⟨isClass, rfl⟩
    rw [← List.getElem?_take_of_lt (Nat.lt_of_not_le later)] at place
    exact List.mem_of_getElem? place
  have taken := List.take_sublist id.index draft.classIds
  have outcome := coherent.checkOutcome taken.subset (draft.nodup_classIds.sublist taken)
    List.nodup_nil fun _ member => absurd member List.not_mem_nil
  rw [passed] at outcome
  cases outcome with
  | passed typed =>
      obtain ⟨place, rfl⟩ := List.mem_iff_get.1 before
      obtain ⟨sameLength, related⟩ := List.forall₂_iff_get.1 typed
      obtain ⟨_, _, _, _, named, _⟩ := related place place.isLt (sameLength ▸ place.isLt)
      exact endless_iff_not_reachesTop.1 endless named.reachesTop

end Draft

/-- If asking for the type of a class fails for its nesting, or finishing does so at the class, then
the error names the class and its chain comes to a class that is around itself; but the class is
itself around itself if and only if its chain has no tail.  Finishing fails for the nesting of a
class if and only if it does so at one, and there is none created before that whose chain never
ends. -/
theorem Built.nestingCycle_culprit
    {transcript : Transcript}
    {draft : Draft}
    (built : Built transcript draft) :
    (∀ id name, transcript.Gives (.ofClass id) →
      draft.typeOf id = .error (.nestingCycle name) ∨ draft.FailsAt id (.nestingCycle name) →
        (∃ found, draft.defined? id = some found ∧ found.name = name) ∧
          (∃ culprit, ReflTransGen (EnclosedBy draft.defined?) id culprit ∧
            TransGen (EnclosedBy draft.defined?) culprit culprit) ∧
          (TransGen (EnclosedBy draft.defined?) id id ↔ Tailless draft.defined? id)) ∧
      (∀ name, draft.finish = .error (.nestingCycle name) ↔
        ∃ id, draft.FailsAt id (.nestingCycle name)) ∧
      ∀ id name, draft.FailsAt id (.nestingCycle name) →
        ∀ other, Endless draft.defined? other → id.index ≤ other.index := by
  have coherent := built.coherent
  refine ⟨?_, fun _ => coherent.finish_eq_nestingCycle_iff,
    fun _ _ fails _ => coherent.index_le_of_failsAt fails⟩
  intro id name given failed
  have asked : draft.typeOf id = .error (.nestingCycle name) :=
    failed.elim (·) coherent.typeOf_of_failsAt
  obtain ⟨endless, named⟩ :=
    (coherent.typeOf_eq_nestingCycle_iff (built.mem_classIds given)).1 asked
  obtain ⟨culprit, path, cycle⟩ := endless.exists_cycle fun enclosed =>
    Draft.mem_classIds.1 (coherent.enclosing_mem enclosed)
  exact ⟨named, ⟨culprit, path, cycle⟩, cycle_iff_tailless path cycle⟩

/-- A script that makes two classes each of which is inside the other, and then one more inside the
first. -/
def ring : List Operation :=
  [.package "p", .reserve, .addClass "Second" ⟨0⟩ (some ⟨0⟩), .define ⟨0⟩ "First" ⟨0⟩ (some ⟨1⟩),
    .addClass "Third" ⟨0⟩ (some ⟨0⟩)]

/-- The first class is blamed rightly; the third one has no type, and its chain comes to a class
that is around itself. -/
theorem ring_culprits :
    ∃ transcript draft, ring.foldlM carryOut ([], .empty) = some (transcript, draft) ∧
      draft.finish = .error (.nestingCycle "First") ∧
      TransGen (EnclosedBy draft.defined?) ⟨0⟩ ⟨0⟩ ∧ Tailless draft.defined? ⟨0⟩ ∧
      draft.typeOf ⟨2⟩ = .error (.nestingCycle "Third") ∧
      ∃ culprit, ReflTransGen (EnclosedBy draft.defined?) ⟨2⟩ culprit ∧
        TransGen (EnclosedBy draft.defined?) culprit culprit := by
  have carried : ring.foldlM carryOut ([], .empty) =
      some (transcribe Draft.perform .empty ring) := by decide
  have built := built_iff_foldlM.2 ⟨ring, carried⟩
  have givenFirst : (transcribe Draft.perform .empty ring).1.Gives (.ofClass ⟨0⟩) := by decide
  have givenThird : (transcribe Draft.perform .empty ring).1.Gives (.ofClass ⟨2⟩) := by decide
  have fails : (transcribe Draft.perform .empty ring).2.FailsAt ⟨0⟩ (.nestingCycle "First") :=
    ⟨by decide, [], rfl, by decide⟩
  have asked : (transcribe Draft.perform .empty ring).2.typeOf ⟨2⟩ =
      .error (.nestingCycle "Third") := by decide
  obtain ⟨culprits, finishing, _⟩ := built.nestingCycle_culprit
  obtain ⟨_, _, ofFirst⟩ := culprits ⟨0⟩ "First" givenFirst (.inr fails)
  obtain ⟨_, ofThird, _⟩ := culprits ⟨2⟩ "Third" givenThird (.inl asked)
  have cycle : TransGen (EnclosedBy (transcribe Draft.perform .empty ring).2.defined?) ⟨0⟩ ⟨0⟩ :=
    .head (show EnclosedBy _ ⟨0⟩ ⟨1⟩ from rfl) (.single rfl)
  exact ⟨_, _, carried, (finishing "First").2 ⟨⟨0⟩, fails⟩, cycle, ofFirst.1 cycle, asked, ofThird⟩

/-- A script that makes a class inside one that is directly inside itself. -/
def tailedLoop : List Operation :=
  [.package "p", .reserve, .reserve, .define ⟨0⟩ "Tail" ⟨0⟩ (some ⟨1⟩),
    .define ⟨1⟩ "Loop" ⟨0⟩ (some ⟨1⟩)]

/-- A class that is not around itself is blamed, by asking for its type and by finishing. -/
theorem tailedLoop_blames_tail :
    ∃ transcript draft, tailedLoop.foldlM carryOut ([], .empty) = some (transcript, draft) ∧
      Built transcript draft ∧ transcript.Gives (.ofClass ⟨0⟩) ∧
      draft.typeOf ⟨0⟩ = .error (.nestingCycle "Tail") ∧
      draft.finish = .error (.nestingCycle "Tail") ∧
      draft.FailsAt ⟨0⟩ (.nestingCycle "Tail") ∧
      ¬TransGen (EnclosedBy draft.defined?) ⟨0⟩ ⟨0⟩ := by
  have carried : tailedLoop.foldlM carryOut ([], .empty) =
      some (transcribe Draft.perform .empty tailedLoop) := by decide
  have inside : ∀ inner outer,
      EnclosedBy (transcribe Draft.perform .empty tailedLoop).2.defined? inner outer →
        outer = ⟨1⟩ := by
    rintro ⟨_ | _ | index⟩ outer enclosed <;> cases enclosed <;> rfl
  refine ⟨_, _, carried, built_iff_foldlM.2 ⟨tailedLoop, carried⟩, by decide, by decide, by decide,
    ⟨by decide, [], rfl, by decide⟩, ?_⟩
  intro cycle
  obtain ⟨last, _, closing⟩ := TransGen.tail'_iff.1 cycle
  cases inside last ⟨0⟩ closing

end SchemaBinding
