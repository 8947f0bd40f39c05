import Mathlib.Logic.Relation
import SchemaBinding.Proofs.Arena
import SchemaBinding.Proofs.Nesting

/-!
# Chains of nested classes

What becomes of asking for the type of a class is settled by the chain of the class, the class
around it and so on.  The chain comes to an undefined class, or to one that is not nested, or it
never ends.  The walk along the chain, as it runs, counts the classes that it passes and gives up
when it is back at its start or has passed as many as there are; it always ends, and it gives up on
no chain that ends.
-/

namespace SchemaBinding

open Relation (ReflTransGen)

/-! ## Chains -/

/-- Whether a class is directly around another. -/
def EnclosedBy (lookup : ClassId → Option Class) (inner outer : ClassId) : Prop :=
  (lookup inner).bind Class.enclosing = some outer

/-- Whether all classes on the chain of a class are defined and inside a further one. -/
def Endless (lookup : ClassId → Option Class) (id : ClassId) : Prop :=
  ∀ other, ReflTransGen (EnclosedBy lookup) id other → ∃ outer, EnclosedBy lookup other outer

/-- Whether the chain of a class consists of given classes, all of them defined, and ends at the
last one. -/
inductive ChainOf (lookup : ClassId → Option Class) : ClassId → List Class → Prop
  /-- The chain of a class that is not nested ends at the class. -/
  | outermost {id : ClassId} {found : Class} (defined : lookup id = some found)
      (top : found.enclosing = none) : ChainOf lookup id [found]
  /-- The chain of a nested class goes on with that of the class around it. -/
  | inside {id outer : ClassId} {found : Class} {others : List Class}
      (defined : lookup id = some found) (enclosed : found.enclosing = some outer)
      (chain : ChainOf lookup outer others) : ChainOf lookup id (found :: others)

section Chains

variable {lookup : ClassId → Option Class} {id : ClassId} {rest : List ClassId}

theorem rightUnique_enclosedBy : Relator.RightUnique (EnclosedBy lookup) :=
  fun _ _ _ first second => Option.some.inj (first.symm.trans second)

theorem not_enclosedBy_of_undefined
    {missing outer : ClassId}
    (undefined : lookup missing = none) :
    ¬EnclosedBy lookup missing outer := by
  intro enclosed
  rw [EnclosedBy, undefined] at enclosed
  cases enclosed

/-- The classes around a class are those to which the chain leads. -/
theorem Around.mem_iff
    (around : Around lookup id rest)
    {other : ClassId} :
    other ∈ id :: rest ↔ ReflTransGen (EnclosedBy lookup) id other := by
  induction around with
  | @outermost id top =>
      have ends : ∀ outer, ¬EnclosedBy lookup id outer := fun outer enclosed =>
        Option.some_ne_none _ (enclosed.symm.trans top)
      rw [List.mem_singleton, Relation.reflTransGen_iff_eq ends]
  | @inside id outer rest enclosed around inductionHypothesis =>
      have direct : EnclosedBy lookup id outer := enclosed
      rw [List.mem_cons, inductionHypothesis]
      constructor
      · rintro (rfl | path)
        · exact .refl
        · exact .head direct path
      · intro path
        rcases path.cases_head with same | ⟨next, first, further⟩
        · exact .inl same.symm
        · exact .inr (rightUnique_enclosedBy first direct ▸ further)

/-- A chain never ends unless it comes to a class that no class is around. -/
theorem endless_iff_not_reachesTop :
    Endless lookup id ↔ ¬ReachesTop lookup id := by
  constructor
  · rintro endless ⟨rest, around⟩
    induction around with
    | outermost top =>
        obtain ⟨outer, enclosed⟩ := endless _ .refl
        exact Option.some_ne_none _ (enclosed.symm.trans top)
    | inside enclosed around inductionHypothesis =>
        exact inductionHypothesis fun other path => endless other (.head enclosed path)
  · intro notReaches other path
    by_contra last
    have top : (lookup other).bind Class.enclosing = none :=
      Option.eq_none_iff_forall_ne_some.2 fun outer enclosed => last ⟨outer, enclosed⟩
    refine notReaches (path.head_induction_on ⟨[], .outermost top⟩ ?_)
    rintro inner outer enclosed _ ⟨rest, around⟩
    exact ⟨outer :: rest, .inside enclosed around⟩

/-- There is at most one undefined class on a chain, since no class is around it. -/
theorem eq_of_undefined
    {missing other : ClassId}
    (path : ReflTransGen (EnclosedBy lookup) id missing)
    (undefined : lookup missing = none)
    (otherPath : ReflTransGen (EnclosedBy lookup) id other)
    (otherUndefined : lookup other = none) :
    missing = other := by
  have stays : ∀ {last further}, lookup last = none →
      ReflTransGen (EnclosedBy lookup) last further → last = further := by
    intro last further isUndefined onwards
    rcases onwards.cases_head with same | ⟨outer, enclosed, _⟩
    · exact same
    · exact absurd enclosed (not_enclosedBy_of_undefined isUndefined)
  rcases ReflTransGen.total_of_right_unique rightUnique_enclosedBy path otherPath with
    onwards | onwards
  · exact stays undefined onwards
  · exact (stays otherUndefined onwards).symm

/-- All classes on the chain of a class that has a name through them are defined. -/
theorem DottedName.isSome_of_path
    {name : String}
    (named : DottedName lookup id name)
    {other : ClassId}
    (path : ReflTransGen (EnclosedBy lookup) id other) :
    (lookup other).isSome := by
  obtain ⟨rest, around⟩ := named.reachesTop
  exact named.defined_of_around around other (around.mem_iff.2 path)

/-! ## Names -/

/-- The names of classes from the innermost to the outermost, joined by dots from the outermost to
the innermost. -/
def joinedNames (classes : List Class) : String :=
  ".".intercalate (classes.map Class.name).reverse

theorem joinedNames_cons
    (found : Class)
    {others : List Class}
    (nonempty : others ≠ []) :
    joinedNames (found :: others) = joinedNames others ++ "." ++ found.name := by
  have namesNonempty : (others.map Class.name).reverse ≠ [] := by simpa using nonempty
  rw [joinedNames, joinedNames, List.map_cons, List.reverse_cons,
    String.intercalate_append_of_ne_nil namesNonempty (List.cons_ne_nil _ _),
    String.intercalate_singleton]

theorem ChainOf.head?_eq
    {classes : List Class}
    (chain : ChainOf lookup id classes) :
    classes.head? = lookup id := by
  cases chain with
  | outermost defined top => exact defined.symm
  | inside defined enclosed chain => exact defined.symm

theorem ChainOf.ne_nil
    {classes : List Class}
    (chain : ChainOf lookup id classes) :
    classes ≠ [] := by
  cases chain <;> exact List.cons_ne_nil _ _

/-- The name of a class through the classes around it joins the names of its chain. -/
theorem dottedName_iff
    {name : String} :
    DottedName lookup id name ↔
      ∃ classes, ChainOf lookup id classes ∧ name = joinedNames classes := by
  constructor
  · intro named
    induction named with
    | outermost defined top =>
        exact ⟨_, .outermost defined top, String.intercalate_singleton.symm⟩
    | inside defined enclosed named inductionHypothesis =>
        obtain ⟨others, chain, rfl⟩ := inductionHypothesis
        exact ⟨_, .inside defined enclosed chain, (joinedNames_cons _ chain.ne_nil).symm⟩
  · rintro ⟨classes, chain, rfl⟩
    induction chain with
    | @outermost id found defined top =>
        have own : joinedNames [found] = found.name := String.intercalate_singleton
        exact own ▸ .outermost defined top
    | inside defined enclosed chain inductionHypothesis =>
        rw [joinedNames_cons _ chain.ne_nil]
        exact .inside defined enclosed inductionHypothesis

end Chains

namespace Draft

/-! ## The walk as it runs -/

/-- Goes outwards and puts the name of each class that it passes before those of the others.  It
gives up when it is back at its start, or has passed more classes than there are. -/
def ascend (draft : Draft) (start : ClassId) (startName : String) (depth : Nat)
    (current : Option ClassId) (name : String) : ExceptT ModelError Option String :=
  match current with
  | none => return name
  | some id =>
      if id = start ∨ draft.classes.length < depth + 1 then throw (.nestingCycle startName)
      else
        match draft.defined id with
        | .error error => throw error
        | .ok around =>
            draft |>.ascend start startName (depth + 1) around.enclosing (around.name ++ "." ++ name)
partial_fixpoint

/-- The type under which fields refer to a class, if the walk from it ends. -/
def seekType (draft : Draft) (id : ClassId) : ExceptT ModelError Option TypeRef := do
  let found ← liftExcept (draft.defined id)
  let name ← draft.ascend id found.name 0 found.enclosing found.name
  let package ← liftExcept (draft.packageName found.package)
  return .reference package name

/-- The walk ends, with what is the outcome when the classes that it may still pass are counted. -/
theorem run_ascend
    (draft : Draft)
    (start : ClassId)
    (startName : String)
    (depth : Nat)
    (current : Option ClassId)
    (name : String) :
    (draft.ascend start startName depth current name).run =
      some ((Arena.ofDraft draft).qualifiedName start startName depth current name) := by
  fun_induction Arena.qualifiedName (Arena.ofDraft draft) start startName depth current name with
  | case1 depth name =>
      rw [ascend]
      rfl
  | case2 depth id name stop =>
      have givesUp : id = start ∨ draft.classes.length < depth + 1 := stop
      rw [ascend]
      simp only [givesUp, if_true]
      rfl
  | case3 depth id name goesOn error failed =>
      have passes : ¬(id = start ∨ draft.classes.length < depth + 1) := goesOn
      rw [Arena.defined_ofDraft] at failed
      rw [ascend]
      simp only [passes, if_false, failed]
      rfl
  | case4 depth id name goesOn around found inductionHypothesis =>
      have passes : ¬(id = start ∨ draft.classes.length < depth + 1) := goesOn
      rw [Arena.defined_ofDraft] at found
      rw [ascend]
      simp only [passes, if_false, found]
      exact inductionHypothesis

/-- Asking for a type ends, whatever the classes are. -/
theorem run_seekType
    (draft : Draft)
    (id : ClassId) :
    (draft.seekType id).run = some (draft.typeOf id) := by
  rw [seekType, typeOf]
  cases draft.defined id with
  | error error => rfl
  | ok found =>
      change (draft.ascend id found.name 0 found.enclosing found.name >>= _).run = some
        (draft.qualifiedName id found.name draft.classes.length found.enclosing found.name >>= _)
      rw [ExceptT.run_bind, run_ascend, Arena.qualifiedName_ofDraft, Nat.sub_zero]
      cases draft.qualifiedName id found.name draft.classes.length found.enclosing found.name with
      | error error => rfl
      | ok name =>
          dsimp only [bind, Except.bind]
          cases draft.packageName found.package <;> rfl

/-! ## Outcomes -/

variable {draft : Draft} {id : ClassId}

/-- A class that is blamed for its nesting is blamed under its own name. -/
theorem name_of_typeOf
    {name : String}
    (failed : draft.typeOf id = .error (.nestingCycle name)) :
    ∃ found, draft.defined? id = some found ∧ found.name = name := by
  unfold typeOf at failed
  cases search : draft.defined id with
  | error error =>
      obtain ⟨_, rfl⟩ := defined_eq_error_iff.1 search
      simp [search, bind, Except.bind] at failed
  | ok found =>
      refine ⟨found, defined_eq_ok_iff.1 search, ?_⟩
      simp only [search, bind, Except.bind] at failed
      cases walked : draft.qualifiedName id found.name draft.classes.length found.enclosing
          found.name with
      | ok full =>
          cases packaged : draft.packages[found.package.index]? <;>
            simp [walked, packageName, packaged, pure, Except.pure] at failed
      | error error =>
          obtain rfl : error = .nestingCycle name := by simpa [walked] using failed
          cases enclosed : found.enclosing with
          | none => simp [enclosed, qualifiedName] at walked
          | some outer =>
              rw [enclosed] at walked
              rcases error_of_qualifiedName walked with blamed | ⟨_, _, _, _, _, blamed⟩
              · exact (ModelError.nestingCycle.inj blamed).symm
              · cases blamed

/-- Asking for a type fails for an undefined class exactly if the chain comes to it. -/
theorem Coherent.typeOf_eq_undefinedClass_iff
    (coherent : draft.Coherent)
    (isClass : id ∈ draft.classIds)
    {missing : ClassId} :
    draft.typeOf id = .error (.undefinedClass missing) ↔
      ReflTransGen (EnclosedBy draft.defined?) id missing ∧ draft.defined? missing = none := by
  have outcome := coherent.typeOutcome isClass
  generalize draft.typeOf id = result at outcome ⊢
  cases outcome with
  | typed hasType =>
      obtain ⟨_, _, _, _, named, _⟩ := hasType
      refine iff_of_false nofun ?_
      rintro ⟨path, undefined⟩
      simpa [undefined] using named.isSome_of_path path
  | @undefined rest other around member undefined =>
      have path := around.mem_iff.1 member
      rw [Except.error.injEq, ModelError.undefinedClass.injEq]
      constructor
      · rintro rfl
        exact ⟨path, undefined⟩
      · rintro ⟨otherPath, otherUndefined⟩
        exact eq_of_undefined path undefined otherPath otherUndefined
  | endless name notReaches =>
      refine iff_of_false nofun ?_
      rintro ⟨path, undefined⟩
      obtain ⟨outer, enclosed⟩ := endless_iff_not_reachesTop.2 notReaches missing path
      exact not_enclosedBy_of_undefined undefined enclosed

/-- Asking for a type fails for the nesting of the class exactly if its chain never ends. -/
theorem Coherent.typeOf_eq_nestingCycle_iff
    (coherent : draft.Coherent)
    (isClass : id ∈ draft.classIds)
    {name : String} :
    draft.typeOf id = .error (.nestingCycle name) ↔
      Endless draft.defined? id ∧ ∃ found, draft.defined? id = some found ∧ found.name = name := by
  have outcome := coherent.typeOutcome isClass
  have named : ∀ {other}, draft.typeOf id = .error (.nestingCycle other) →
      ∃ found, draft.defined? id = some found ∧ found.name = other := name_of_typeOf
  rw [endless_iff_not_reachesTop]
  generalize draft.typeOf id = result at outcome named ⊢
  cases outcome with
  | typed hasType =>
      obtain ⟨_, _, _, _, dotted, _⟩ := hasType
      exact iff_of_false nofun fun endless => endless.1 dotted.reachesTop
  | undefined around member undefined =>
      exact iff_of_false nofun fun endless => endless.1 ⟨_, around⟩
  | endless other notReaches =>
      obtain ⟨found, defined, rfl⟩ := named rfl
      rw [Except.error.injEq, ModelError.nestingCycle.injEq]
      constructor
      · rintro rfl
        exact ⟨notReaches, found, defined, rfl⟩
      · rintro ⟨_, same, sameDefined, rfl⟩
        rw [Option.some.inj (defined.symm.trans sameDefined)]

/-- Asking for a type succeeds exactly if the chain ends at a class that is not nested. -/
theorem Coherent.typeOf_eq_ok_iff_chainOf
    (coherent : draft.Coherent)
    {type : TypeRef} :
    draft.typeOf id = .ok type ↔
      ∃ found others package, ChainOf draft.defined? id (found :: others) ∧
        draft.packages[found.package.index]? = some package ∧
        type = .reference package (joinedNames (found :: others)) := by
  rw [coherent.typeOf_eq_ok_iff]
  constructor
  · rintro ⟨found, name, package, defined, named, packaged, rfl⟩
    obtain ⟨classes, chain, rfl⟩ := dottedName_iff.1 named
    obtain ⟨others, rfl⟩ := List.head?_eq_some_iff.1 (chain.head?_eq.trans defined)
    exact ⟨found, others, package, chain, packaged, rfl⟩
  · rintro ⟨found, others, package, chain, packaged, rfl⟩
    exact ⟨found, _, package, chain.head?_eq.symm, dottedName_iff.2 ⟨_, chain, rfl⟩, packaged, rfl⟩

/-- Asking for a type fails for no other reason. -/
theorem Coherent.error_of_typeOf
    (coherent : draft.Coherent)
    (isClass : id ∈ draft.classIds)
    {error : ModelError}
    (failed : draft.typeOf id = .error error) :
    (∃ missing, error = .undefinedClass missing) ∨ ∃ name, error = .nestingCycle name := by
  have outcome := coherent.typeOutcome isClass
  rw [failed] at outcome
  cases outcome with
  | undefined => exact .inl ⟨_, rfl⟩
  | endless => exact .inr ⟨_, rfl⟩

end Draft

theorem Built.mem_classIds
    {transcript : Transcript}
    {draft : Draft}
    (built : Built transcript draft)
    {id : ClassId}
    (given : transcript.Gives (.ofClass id)) :
    id ∈ draft.classIds :=
  Draft.mem_classIds.2 ((built.gives_iff_holds _).1 given)

/-- Asking for the type of a class ends.  It fails for the first undefined class on the chain of the
class, if there is one; it fails for the nesting of the class, under its name, if and only if all
classes on the chain are defined and the chain never ends; and else, however long the chain is, it
gives the type of the package of the class and the names on the chain, joined by dots from the
outermost to that of the class. -/
theorem Built.typeOf_follows_chain
    {transcript : Transcript}
    {draft : Draft}
    (built : Built transcript draft)
    {id : ClassId}
    (given : transcript.Gives (.ofClass id)) :
    (draft.seekType id).run = some (draft.typeOf id) ∧
      (∀ missing, draft.typeOf id = .error (.undefinedClass missing) ↔
        ReflTransGen (EnclosedBy draft.defined?) id missing ∧ draft.defined? missing = none) ∧
      (∀ name, draft.typeOf id = .error (.nestingCycle name) ↔
        Endless draft.defined? id ∧ ∃ found, draft.defined? id = some found ∧ found.name = name) ∧
      (∀ type, draft.typeOf id = .ok type ↔
        ∃ found others package, ChainOf draft.defined? id (found :: others) ∧
          draft.packages[found.package.index]? = some package ∧
          type = .reference package (joinedNames (found :: others))) ∧
      ∀ error, draft.typeOf id = .error error →
        (∃ missing, error = .undefinedClass missing) ∨ ∃ name, error = .nestingCycle name := by
  have isClass := built.mem_classIds given
  exact ⟨draft.run_seekType id, fun _ => built.coherent.typeOf_eq_undefinedClass_iff isClass,
    fun _ => built.coherent.typeOf_eq_nestingCycle_iff isClass,
    fun _ => built.coherent.typeOf_eq_ok_iff_chainOf,
    fun _ => built.coherent.error_of_typeOf isClass⟩

/-- A script that nests each class but the first in the one before it. -/
def dolls : List Operation :=
  [.package "p", .addClass "Outer" ⟨0⟩ none, .addClass "Middle" ⟨0⟩ (some ⟨0⟩),
    .addClass "Inner" ⟨0⟩ (some ⟨1⟩)]

/-- Operations that nest a class in one that is nested in itself. -/
def knot : List Operation :=
  [.reserve, .define ⟨3⟩ "Knot" ⟨0⟩ (some ⟨3⟩), .addClass "Tail" ⟨0⟩ (some ⟨3⟩)]

/-- A chain of all classes ends, and one that leads into a knot does not. -/
theorem dolls_follow_chain :
    ∃ transcript draft later next, dolls.foldlM carryOut ([], .empty) = some (transcript, draft) ∧
      draft.classes.length = 3 ∧
      (draft.seekType ⟨2⟩).run = some (.ok (.reference "p" "Outer.Middle.Inner")) ∧
      knot.foldlM carryOut (transcript, draft) = some (later, next) ∧
      Endless next.defined? ⟨4⟩ := by
  have carried : dolls.foldlM carryOut ([], .empty) =
      some (transcribe Draft.perform .empty dolls) := by decide
  have carriedOn : knot.foldlM carryOut (transcribe Draft.perform .empty dolls) =
      some (transcribe Draft.perform .empty (dolls ++ knot)) := by decide
  have built := built_iff_foldlM.2 ⟨dolls, carried⟩
  have builtNext := built_of_foldlM built carriedOn
  have given : (transcribe Draft.perform .empty dolls).1.Gives (.ofClass ⟨2⟩) := by decide
  have givenNext : (transcribe Draft.perform .empty (dolls ++ knot)).1.Gives (.ofClass ⟨4⟩) := by
    decide
  have chain : ChainOf (transcribe Draft.perform .empty dolls).2.defined? ⟨2⟩
      [⟨"Inner", ⟨0⟩, some ⟨1⟩, [], [], []⟩, ⟨"Middle", ⟨0⟩, some ⟨0⟩, [], [], []⟩,
        ⟨"Outer", ⟨0⟩, none, [], [], []⟩] :=
    .inside rfl rfl (.inside rfl rfl (.outermost rfl rfl))
  refine ⟨_, _, _, _, carried, by decide, ?_, carriedOn, ?_⟩
  · obtain ⟨ended, _, _, typed, _⟩ := built.typeOf_follows_chain given
    rw [ended, (typed _).2 ⟨_, _, "p", chain, rfl, rfl⟩]
    decide
  · obtain ⟨_, _, blamed, _⟩ := builtNext.typeOf_follows_chain givenNext
    exact ((blamed "Tail").1 (by decide)).1

end SchemaBinding
