import Mathlib.Data.List.Lattice
import Mathlib.Data.List.Perm.Subperm
import SchemaBinding.Proofs.Coherence

/-!
# Nesting of classes

The classes around a class, and the name that a class has through them.  Both a draft and an outline
look classes up by their handles, so the lookup is a parameter here.  The walk outwards that gives a
class its type is cut off after as many steps as there are classes; it is shown that the cut never
strikes a class whose walk ends.
-/

namespace SchemaBinding

/-- The classes around a class, from the innermost to the outermost. -/
inductive Around (lookup : ClassId → Option Class) : ClassId → List ClassId → Prop
  /-- No class is around a class that is not nested. -/
  | outermost {id : ClassId} (top : (lookup id).bind Class.enclosing = none) : Around lookup id []
  /-- Around a nested class are its enclosing class and the classes around that one. -/
  | inside {id outer : ClassId} {rest : List ClassId}
      (enclosed : (lookup id).bind Class.enclosing = some outer)
      (around : Around lookup outer rest) : Around lookup id (outer :: rest)

/-- Whether the way outwards from a class ends at a class that is not nested. -/
def ReachesTop (lookup : ClassId → Option Class) (id : ClassId) : Prop :=
  ∃ rest, Around lookup id rest

/-- The name that a class has through the classes around it, joined by dots. -/
inductive DottedName (lookup : ClassId → Option Class) : ClassId → String → Prop
  /-- A class that is not nested has its own name. -/
  | outermost {id : ClassId} {found : Class} (defined : lookup id = some found)
      (top : found.enclosing = none) : DottedName lookup id found.name
  /-- The name of a nested class follows that of its enclosing class. -/
  | inside {id outer : ClassId} {found : Class} {outerName : String}
      (defined : lookup id = some found) (enclosed : found.enclosing = some outer)
      (named : DottedName lookup outer outerName) :
      DottedName lookup id (outerName ++ "." ++ found.name)

namespace Around

variable {lookup : ClassId → Option Class} {id : ClassId} {rest : List ClassId}

theorem unique
    {other : List ClassId}
    (left : Around lookup id rest)
    (right : Around lookup id other) :
    rest = other := by
  induction left generalizing other with
  | outermost top =>
      cases right with
      | outermost => rfl
      | inside enclosed => simp [top] at enclosed
  | inside enclosed around inductionHypothesis =>
      cases right with
      | outermost top => simp [enclosed] at top
      | inside otherEnclosed otherAround =>
          rw [enclosed, Option.some.injEq] at otherEnclosed
          subst otherEnclosed
          rw [inductionHypothesis otherAround]

/-- The classes around an enclosing class are fewer. -/
theorem of_mem
    {outer : ClassId}
    (around : Around lookup id rest)
    (member : outer ∈ rest) :
    ∃ further, Around lookup outer further ∧ further.length < rest.length := by
  induction around with
  | outermost => exact absurd member List.not_mem_nil
  | @inside id enclosing rest enclosed around inductionHypothesis =>
      rcases List.mem_cons.1 member with rfl | later
      · exact ⟨rest, around, Nat.lt_succ_self _⟩
      · obtain ⟨further, aroundOuter, shorter⟩ := inductionHypothesis later
        exact ⟨further, aroundOuter, Nat.lt_succ_of_lt shorter⟩

/-- No class is around itself if the way outwards from it ends. -/
theorem not_mem_self (around : Around lookup id rest) : id ∉ rest := by
  intro member
  obtain ⟨further, aroundSelf, shorter⟩ := around.of_mem member
  rw [around.unique aroundSelf] at shorter
  exact Nat.lt_irrefl _ shorter

theorem nodup (around : Around lookup id rest) : (id :: rest).Nodup := by
  induction around with
  | outermost => exact List.nodup_singleton _
  | inside enclosed around inductionHypothesis =>
      exact List.nodup_cons.2 ⟨(Around.inside enclosed around).not_mem_self, inductionHypothesis⟩

/-- The classes around a class are in range if every enclosing class is. -/
theorem index_lt
    {count : Nat}
    (bounded : ∀ {inner outer}, (lookup inner).bind Class.enclosing = some outer →
      outer.index < count)
    (around : Around lookup id rest) :
    ∀ outer ∈ rest, outer.index < count := by
  induction around with
  | outermost => exact fun _ member => absurd member List.not_mem_nil
  | inside enclosed around inductionHypothesis =>
      exact List.forall_mem_cons.2 ⟨bounded enclosed, inductionHypothesis⟩

/-- There are fewer classes around a class than classes in range. -/
theorem length_lt
    {count : Nat}
    (bounded : ∀ {inner outer}, (lookup inner).bind Class.enclosing = some outer →
      outer.index < count)
    (isClass : id.index < count)
    (around : Around lookup id rest) :
    rest.length < count := by
  have inRange : (id :: rest).map ClassId.index ⊆ List.range count := by
    intro index member
    obtain ⟨other, listed, rfl⟩ := List.mem_map.1 member
    rw [List.mem_range]
    rcases List.mem_cons.1 listed with rfl | later
    · exact isClass
    · exact around.index_lt bounded other later
  have distinct : ((id :: rest).map ClassId.index).Nodup :=
    around.nodup.map fun _ _ => ClassId.eq_of_index_eq
  have atMost := (List.subperm_of_subset distinct inRange).length_le
  rw [List.length_map, List.length_range, List.length_cons] at atMost
  omega

end Around

theorem DottedName.unique
    {lookup : ClassId → Option Class}
    {id : ClassId}
    {name other : String}
    (left : DottedName lookup id name)
    (right : DottedName lookup id other) :
    name = other := by
  induction left generalizing other with
  | outermost defined top =>
      cases right with
      | outermost otherDefined =>
          rw [defined, Option.some.injEq] at otherDefined
          rw [otherDefined]
      | inside otherDefined enclosed =>
          rw [defined, Option.some.injEq] at otherDefined
          rw [← otherDefined, top] at enclosed
          exact absurd enclosed.symm (Option.some_ne_none _)
  | inside defined enclosed named inductionHypothesis =>
      cases right with
      | outermost otherDefined top =>
          rw [defined, Option.some.injEq] at otherDefined
          rw [← otherDefined, enclosed] at top
          exact absurd top (Option.some_ne_none _)
      | inside otherDefined otherEnclosed otherNamed =>
          rw [defined, Option.some.injEq] at otherDefined
          subst otherDefined
          rw [enclosed, Option.some.injEq] at otherEnclosed
          subst otherEnclosed
          rw [inductionHypothesis otherNamed]

theorem DottedName.defined
    {lookup : ClassId → Option Class}
    {id : ClassId}
    {name : String}
    (named : DottedName lookup id name) :
    ∃ found, lookup id = some found := by
  cases named with
  | outermost defined => exact ⟨_, defined⟩
  | inside defined => exact ⟨_, defined⟩

/-- The class directly around a class that has a name through it is defined. -/
theorem DottedName.defined_of_enclosing
    {lookup : ClassId → Option Class}
    {id outer : ClassId}
    {found : Class}
    {name : String}
    (named : DottedName lookup id name)
    (defined : lookup id = some found)
    (enclosed : found.enclosing = some outer) :
    ∃ around, lookup outer = some around := by
  cases named with
  | outermost otherDefined top =>
      rw [defined, Option.some.injEq] at otherDefined
      rw [← otherDefined, enclosed] at top
      cases top
  | inside otherDefined otherEnclosed outerNamed =>
      rw [defined, Option.some.injEq] at otherDefined
      rw [← otherDefined, enclosed, Option.some.injEq] at otherEnclosed
      rw [otherEnclosed]
      exact outerNamed.defined

/-- A class that has a name through the classes around it is inside finitely many. -/
theorem DottedName.reachesTop
    {lookup : ClassId → Option Class}
    {id : ClassId}
    {name : String}
    (named : DottedName lookup id name) :
    ReachesTop lookup id := by
  induction named with
  | outermost defined top => exact ⟨[], .outermost (by rw [defined]; exact top)⟩
  | inside defined enclosed named inductionHypothesis =>
      obtain ⟨rest, around⟩ := inductionHypothesis
      exact ⟨_, .inside (by rw [defined]; exact enclosed) around⟩

/-- All classes around a class that has a name through them are defined. -/
theorem DottedName.defined_of_around
    {lookup : ClassId → Option Class}
    {id : ClassId}
    {name : String}
    {rest : List ClassId}
    (named : DottedName lookup id name)
    (around : Around lookup id rest) :
    ∀ other ∈ id :: rest, (lookup other).isSome := by
  induction named generalizing rest with
  | outermost defined top =>
      cases around with
      | outermost => simp [defined]
      | inside enclosed => simp [defined, top] at enclosed
  | inside defined enclosed named inductionHypothesis =>
      cases around with
      | outermost top => simp [defined, enclosed] at top
      | inside aroundSelf aroundNext =>
          simp only [defined, Option.bind_some, enclosed, Option.some.injEq] at aroundSelf
          subst aroundSelf
          rw [List.forall_mem_cons]
          exact ⟨by simp [defined], inductionHypothesis aroundNext⟩

/-- Classes with the same names inside the same classes, up to numbering, have the same dotted
names. -/
theorem DottedName.map
    {lookup other : ClassId → Option Class}
    {forward : ClassId → ClassId}
    (same : ∀ {id found}, lookup id = some found → ∃ image, other (forward id) = some image ∧
      image.name = found.name ∧ image.enclosing = found.enclosing.map forward)
    {id : ClassId}
    {name : String}
    (named : DottedName lookup id name) :
    DottedName other (forward id) name := by
  induction named with
  | outermost defined top =>
      obtain ⟨image, imageDefined, sameName, sameEnclosing⟩ := same defined
      rw [← sameName]
      exact .outermost imageDefined (by rw [sameEnclosing, top]; rfl)
  | inside defined enclosed named inductionHypothesis =>
      obtain ⟨image, imageDefined, sameName, sameEnclosing⟩ := same defined
      rw [← sameName]
      exact .inside imageDefined (by rw [sameEnclosing, enclosed]; rfl) inductionHypothesis

namespace Draft

variable {draft : Draft} {start id : ClassId}

/-! ## The walk outwards -/

theorem mem_classIds
    {id : ClassId} :
    id ∈ draft.classIds ↔ id.index < draft.classes.length := by
  simp only [classIds, List.mem_map, List.mem_range]
  constructor
  · rintro ⟨index, bound, rfl⟩
    exact bound
  · intro bound
    exact ⟨id.index, bound, rfl⟩

@[simp] theorem length_classIds (draft : Draft) :
    draft.classIds.length = draft.classes.length := by
  simp [classIds]

/-- Classes of a draft that are listed without repetition are no more than it has. -/
theorem length_le_of_nodup
    {listed : List ClassId}
    (nodup : listed.Nodup)
    (inside : listed ⊆ draft.classIds) :
    listed.length ≤ draft.classes.length := by
  have bound := (List.subperm_of_subset nodup inside).length_le
  rw [length_classIds] at bound
  exact bound

/-- The class directly around a class of a coherent draft is one of the draft. -/
theorem Coherent.enclosing_mem
    (coherent : draft.Coherent)
    {outer : ClassId}
    (enclosed : (draft.defined? id).bind Class.enclosing = some outer) :
    outer ∈ draft.classIds := by
  obtain ⟨found, defined, around⟩ := Option.bind_eq_some_iff.1 enclosed
  exact mem_classIds.2 ((coherent.classes defined).enclosing_lt outer around)

theorem Coherent.around_subset
    (coherent : draft.Coherent)
    {rest : List ClassId}
    (around : Around draft.defined? id rest) :
    rest ⊆ draft.classIds := by
  intro outer member
  apply mem_classIds.2
  exact around.index_lt (fun enclosed => mem_classIds.1 (coherent.enclosing_mem enclosed))
    outer member

/-- There are fewer classes around a class than classes in the draft. -/
theorem Coherent.length_around_lt
    (coherent : draft.Coherent)
    (isClass : id ∈ draft.classIds)
    {rest : List ClassId}
    (around : Around draft.defined? id rest) :
    rest.length < draft.classes.length := by
  apply around.length_lt _ (mem_classIds.1 isClass)
  exact fun enclosed => mem_classIds.1 (coherent.enclosing_mem enclosed)

theorem dottedName_of_qualifiedName
    {startName name full : String}
    {steps : Nat}
    (walked : draft.qualifiedName start startName steps (some id) name = .ok full) :
    ∃ outerName, DottedName draft.defined? id outerName ∧ full = outerName ++ "." ++ name := by
  induction steps generalizing id name with
  | zero => simp [qualifiedName] at walked
  | succ steps inductionHypothesis =>
      rw [qualifiedName] at walked
      split at walked
      next => simp at walked
      next =>
        cases search : draft.defined id with
        | error error => simp [search, bind, Except.bind] at walked
        | ok found =>
            have defined := defined_eq_ok_iff.1 search
            simp only [search, bind, Except.bind] at walked
            cases around : found.enclosing with
            | none =>
                rw [around, qualifiedName, Except.ok.injEq] at walked
                exact ⟨found.name, .outermost defined around, walked.symm⟩
            | some outer =>
                rw [around] at walked
                obtain ⟨outerName, named, split⟩ := inductionHypothesis walked
                refine ⟨outerName ++ "." ++ found.name, .inside defined around named, ?_⟩
                rw [split]
                simp only [String.append_assoc]

/-- A walk that can end does so within the steps that it is given, at the outermost class or at one
that is not defined. -/
theorem qualifiedName_of_around
    (startName : String)
    {rest : List ClassId}
    {steps : Nat}
    (around : Around draft.defined? id rest)
    (leaves : start ∉ id :: rest)
    (enough : rest.length < steps)
    (name : String) :
    (∃ outerName, DottedName draft.defined? id outerName ∧
        draft.qualifiedName start startName steps (some id) name =
          .ok (outerName ++ "." ++ name)) ∨
      ∃ missing ∈ id :: rest, draft.defined? missing = none ∧
        draft.qualifiedName start startName steps (some id) name =
          .error (.undefinedClass missing) := by
  induction around generalizing steps name with
  | @outermost id top =>
      obtain ⟨steps, rfl⟩ := Nat.exists_eq_add_one_of_ne_zero (Nat.ne_of_gt enough)
      have isOther : id ≠ start := fun same => leaves (same ▸ List.mem_cons_self)
      rw [qualifiedName, if_neg isOther]
      cases search : draft.defined id with
      | error error =>
          obtain ⟨undefined, rfl⟩ := defined_eq_error_iff.1 search
          exact .inr ⟨id, List.mem_cons_self, undefined, rfl⟩
      | ok found =>
          have defined := defined_eq_ok_iff.1 search
          have isTop : found.enclosing = none := by simpa [defined] using top
          refine .inl ⟨found.name, .outermost defined isTop, ?_⟩
          simp only [bind, Except.bind, isTop, qualifiedName]
  | @inside id outer rest enclosed around inductionHypothesis =>
      obtain ⟨steps, rfl⟩ := Nat.exists_eq_add_one_of_ne_zero
        (Nat.ne_of_gt (Nat.lt_of_le_of_lt (Nat.zero_le _) enough))
      obtain ⟨found, defined, isAround⟩ := Option.bind_eq_some_iff.1 enclosed
      have isOther : id ≠ start := fun same => leaves (same ▸ List.mem_cons_self)
      rw [qualifiedName, if_neg isOther, defined_eq_ok_iff.2 defined]
      simp only [bind, Except.bind, isAround]
      have leavesRest : start ∉ outer :: rest := fun member => leaves (List.mem_cons_of_mem _ member)
      have enoughRest : rest.length < steps := by
        simp only [List.length_cons] at enough
        omega
      rcases inductionHypothesis leavesRest enoughRest (found.name ++ "." ++ name) with
        ⟨outerName, named, walked⟩ | ⟨missing, member, undefined, walked⟩
      · refine .inl ⟨outerName ++ "." ++ found.name, .inside defined isAround named, ?_⟩
        rw [walked]
        simp only [String.append_assoc]
      · exact .inr ⟨missing, List.mem_cons_of_mem _ member, undefined, walked⟩

/-- A walk fails because of the nesting of the class where it began or of an undefined class. -/
theorem error_of_qualifiedName
    {startName name : String}
    {steps : Nat}
    {error : ModelError}
    (walked : draft.qualifiedName start startName steps (some id) name = .error error) :
    error = .nestingCycle startName ∨
      ∃ rest, Around draft.defined? id rest ∧ ∃ missing ∈ id :: rest,
        draft.defined? missing = none ∧ error = .undefinedClass missing := by
  induction steps generalizing id name with
  | zero =>
      rw [qualifiedName, Except.error.injEq] at walked
      exact .inl walked.symm
  | succ steps inductionHypothesis =>
      rw [qualifiedName] at walked
      split at walked
      next =>
        rw [Except.error.injEq] at walked
        exact .inl walked.symm
      next =>
        cases search : draft.defined id with
        | error reason =>
            obtain ⟨undefined, rfl⟩ := defined_eq_error_iff.1 search
            simp only [search, bind, Except.bind, Except.error.injEq] at walked
            have around : Around draft.defined? id [] := .outermost (by rw [undefined]; rfl)
            exact .inr ⟨[], around, id, List.mem_cons_self, undefined, walked.symm⟩
        | ok found =>
            have defined := defined_eq_ok_iff.1 search
            simp only [search, bind, Except.bind] at walked
            cases enclosed : found.enclosing with
            | none =>
                rw [enclosed, qualifiedName] at walked
                cases walked
            | some outer =>
                rw [enclosed] at walked
                rcases inductionHypothesis walked with
                  blamed | ⟨rest, around, missing, member, undefined, blamed⟩
                · exact .inl blamed
                · have further : Around draft.defined? id (outer :: rest) :=
                    .inside (by rw [defined]; exact enclosed) around
                  exact .inr ⟨outer :: rest, further, missing, List.mem_cons_of_mem _ member,
                    undefined, blamed⟩

/-! ## Types of classes -/

/-- Whether a class has a given type: its package, and its name through the classes around it. -/
def HasType (draft : Draft) (id : ClassId) (type : TypeRef) : Prop :=
  ∃ found name package, draft.defined? id = some found ∧ DottedName draft.defined? id name ∧
    draft.packages[found.package.index]? = some package ∧ type = .reference package name

theorem HasType.unique
    {left right : TypeRef}
    (leftTyped : draft.HasType id left)
    (rightTyped : draft.HasType id right) :
    left = right := by
  obtain ⟨found, name, package, defined, named, packaged, rfl⟩ := leftTyped
  obtain ⟨otherFound, otherName, otherPackage, otherDefined, otherNamed, otherPackaged, rfl⟩ :=
    rightTyped
  rw [defined, Option.some.injEq] at otherDefined
  subst otherDefined
  rw [packaged, Option.some.injEq] at otherPackaged
  rw [named.unique otherNamed, otherPackaged]

/-- The outcome of asking for a type once the name of the class is known. -/
theorem typeOf_of_qualifiedName
    {found : Class}
    {name package : String}
    (defined : draft.defined? id = some found)
    (walked : draft.qualifiedName id found.name draft.classes.length found.enclosing found.name =
      .ok name)
    (packaged : draft.packages[found.package.index]? = some package) :
    draft.typeOf id = .ok (.reference package name) := by
  simp only [typeOf, defined_eq_ok_iff.2 defined, bind, Except.bind, walked, packageName, packaged]
  rfl

theorem hasType_of_typeOf
    {type : TypeRef}
    (typed : draft.typeOf id = .ok type) :
    draft.HasType id type := by
  unfold typeOf at typed
  cases search : draft.defined id with
  | error error => simp [search, bind, Except.bind] at typed
  | ok found =>
      have defined := defined_eq_ok_iff.1 search
      simp only [search, bind, Except.bind] at typed
      cases walked : draft.qualifiedName id found.name draft.classes.length found.enclosing
          found.name with
      | error error => simp [walked] at typed
      | ok name =>
          simp only [walked, packageName] at typed
          cases packaged : draft.packages[found.package.index]? with
          | none => simp [packaged] at typed
          | some package =>
              simp only [packaged, pure, Except.pure, Except.ok.injEq] at typed
              refine ⟨found, name, package, defined, ?_, packaged, typed.symm⟩
              cases around : found.enclosing with
              | none =>
                  rw [around, qualifiedName, Except.ok.injEq] at walked
                  exact walked ▸ .outermost defined around
              | some outer =>
                  rw [around] at walked
                  obtain ⟨outerName, named, rfl⟩ := dottedName_of_qualifiedName walked
                  exact .inside defined around named

/-- How asking for the type of a class can end. -/
inductive TypeOutcome (draft : Draft) (id : ClassId) : Except ModelError TypeRef → Prop
  /-- The class has a type. -/
  | typed {type : TypeRef} (hasType : draft.HasType id type) : TypeOutcome draft id (.ok type)
  /-- The class or one around it is not defined. -/
  | undefined {rest : List ClassId} {missing : ClassId} (around : Around draft.defined? id rest)
      (member : missing ∈ id :: rest) (undefined : draft.defined? missing = none) :
      TypeOutcome draft id (.error (.undefinedClass missing))
  /-- The classes around the class never end. -/
  | endless (name : String) (endless : ¬ReachesTop draft.defined? id) :
      TypeOutcome draft id (.error (.nestingCycle name))

/-- The package of a class of a coherent draft has a name. -/
theorem Coherent.packaged
    (coherent : draft.Coherent)
    {found : Class}
    (defined : draft.defined? id = some found) :
    ∃ package, draft.packages[found.package.index]? = some package :=
  ⟨_, List.getElem?_eq_getElem (coherent.classes defined).package_lt⟩

/-- A walk that began inside a class and failed for its nesting would never have ended. -/
theorem Coherent.endless_of_qualifiedName
    (coherent : draft.Coherent)
    {outer : ClassId}
    {startName name : String}
    (isClass : id ∈ draft.classIds)
    (enclosed : (draft.defined? id).bind Class.enclosing = some outer)
    (walked : draft.qualifiedName id startName draft.classes.length (some outer) name =
      .error (.nestingCycle startName)) :
    ¬ReachesTop draft.defined? id := by
  rintro ⟨rest, around⟩
  cases around with
  | outermost top => simp [enclosed] at top
  | @inside _ next rest aroundSelf aroundNext =>
      rw [enclosed, Option.some.injEq] at aroundSelf
      subst aroundSelf
      have whole := Around.inside enclosed aroundNext
      have enough : rest.length < draft.classes.length :=
        Nat.lt_of_succ_lt (coherent.length_around_lt isClass whole)
      rcases qualifiedName_of_around startName aroundNext whole.not_mem_self enough name
          with ⟨_, _, ends⟩ | ⟨_, _, _, ends⟩
      · rw [walked] at ends
        cases ends
      · rw [walked] at ends
        cases ends

theorem Coherent.typeOutcome
    (coherent : draft.Coherent)
    (isClass : id ∈ draft.classIds) :
    TypeOutcome draft id (draft.typeOf id) := by
  cases search : draft.defined id with
  | error error =>
      obtain ⟨undefined, rfl⟩ := defined_eq_error_iff.1 search
      have failed : draft.typeOf id = .error (.undefinedClass id) := by
        simp only [typeOf, search, bind, Except.bind]
      rw [failed]
      exact .undefined (.outermost (by rw [undefined]; rfl)) List.mem_cons_self undefined
  | ok found =>
      have defined := defined_eq_ok_iff.1 search
      obtain ⟨package, packaged⟩ := coherent.packaged defined
      cases walked : draft.qualifiedName id found.name draft.classes.length found.enclosing
          found.name with
      | ok name =>
          have typed := typeOf_of_qualifiedName defined walked packaged
          rw [typed]
          exact .typed (hasType_of_typeOf typed)
      | error error =>
          have failed : draft.typeOf id = .error error := by
            simp only [typeOf, search, bind, Except.bind, walked]
          rw [failed]
          cases around : found.enclosing with
          | none => simp [around, qualifiedName] at walked
          | some outer =>
              have enclosed : (draft.defined? id).bind Class.enclosing = some outer := by
                rw [defined]
                exact around
              rw [around] at walked
              rcases error_of_qualifiedName walked with
                rfl | ⟨rest, aroundOuter, missing, member, undefined, rfl⟩
              · exact .endless _ (coherent.endless_of_qualifiedName isClass enclosed walked)
              · exact .undefined (.inside enclosed aroundOuter) (List.mem_cons_of_mem _ member)
                  undefined

/-- A class has a type exactly if asking for one succeeds. -/
theorem Coherent.typeOf_eq_ok_iff
    (coherent : draft.Coherent)
    {type : TypeRef} :
    draft.typeOf id = .ok type ↔ draft.HasType id type := by
  constructor
  · exact hasType_of_typeOf
  · intro hasType
    have isClass : id ∈ draft.classIds := by
      obtain ⟨found, _, _, defined, _⟩ := hasType
      exact mem_classIds.2 (index_lt_of_defined defined)
    have outcome := coherent.typeOutcome isClass
    generalize draft.typeOf id = result at outcome ⊢
    cases outcome with
    | typed otherTyped => rw [hasType.unique otherTyped]
    | undefined around member undefined =>
        obtain ⟨_, _, _, _, named, _⟩ := hasType
        have defined := named.defined_of_around around _ member
        rw [undefined] at defined
        exact absurd defined (by simp)
    | endless name endless =>
        obtain ⟨_, _, _, _, named, _⟩ := hasType
        exact absurd named.reachesTop endless

end Draft
end SchemaBinding
