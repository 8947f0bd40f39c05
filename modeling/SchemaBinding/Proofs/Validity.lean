import SchemaBinding.Proofs.Acyclicity

/-!
# Valid drafts

When a draft can be finished.  Finishing checks the classes one after the other and then the
supertypes; the conditions here speak of the draft as a whole.  The two are shown to agree, and every
error to name a condition that the draft breaks.
-/

namespace SchemaBinding

open Relation (TransGen)

namespace Draft

/-- Whether a class, if it is nested, is in the package of the class around it. -/
def KeepsPackage (draft : Draft) (id : ClassId) : Prop :=
  ∀ found outer around, draft.defined? id = some found → found.enclosing = some outer →
    draft.defined? outer = some around → around.package = found.package

/-- What a draft must be to become an outline. -/
structure Valid (draft : Draft) : Prop where
  /-- Every class is defined. -/
  defined : ∀ id ∈ draft.classIds, (draft.defined? id).isSome
  /-- The classes around a class end at one that is not nested. -/
  reachesTop : ∀ id ∈ draft.classIds, ReachesTop draft.defined? id
  /-- Nested classes are in the packages of the classes around them. -/
  keepsPackage : ∀ id ∈ draft.classIds, draft.KeepsPackage id
  /-- No two classes have the same package and the same name through the classes around them. -/
  distinct : ∀ first second type, draft.HasType first type → draft.HasType second type →
    first = second
  /-- No class is its own ancestor. -/
  acyclic : ∀ id, ¬TransGen (Extends draft.defined?) id id

/-- Whether a draft breaks the condition that an error speaks of. -/
def Violates (draft : Draft) : ModelError → Prop
  | .undefinedClass id => id ∈ draft.classIds ∧ draft.defined? id = none
  | .nestingCycle _ => ∃ id ∈ draft.classIds, ¬ReachesTop draft.defined? id
  | .packageMismatch name _ _ =>
      ∃ id ∈ draft.classIds, ¬draft.KeepsPackage id ∧
        ∃ type, draft.HasType id type ∧ name = type.fullName
  | .duplicateClass name =>
      ∃ first second type, draft.HasType first type ∧ draft.HasType second type ∧
        first ≠ second ∧ name = type.fullName
  | .supertypeCycle name =>
      ∃ id type, TransGen (Extends draft.defined?) id id ∧ draft.HasType id type ∧
        name = type.fullName
  | .duplicateField _ _ => False
  | .unknownId => False

theorem Valid.not_violates
    {draft : Draft}
    (valid : draft.Valid)
    (error : ModelError) :
    ¬draft.Violates error := by
  cases error with
  | undefinedClass id =>
      rintro ⟨isClass, undefined⟩
      have defined := valid.defined id isClass
      rw [undefined] at defined
      exact Bool.noConfusion defined
  | nestingCycle name =>
      rintro ⟨id, isClass, endless⟩
      exact endless (valid.reachesTop id isClass)
  | packageMismatch name package enclosingPackage =>
      rintro ⟨id, isClass, differs, _⟩
      exact differs (valid.keepsPackage id isClass)
  | duplicateClass name =>
      rintro ⟨first, second, type, firstTyped, secondTyped, different, _⟩
      exact different (valid.distinct first second type firstTyped secondTyped)
  | supertypeCycle name =>
      rintro ⟨id, type, cycle, _⟩
      exact valid.acyclic id cycle
  | duplicateField owner field => exact id
  | unknownId => exact id

/-! ## The check of each class -/

variable {draft : Draft}

theorem nodup_classIds (draft : Draft) : draft.classIds.Nodup :=
  List.Nodup.map (fun _ _ same => congrArg ClassId.index same) List.nodup_range

theorem HasType.mem_classIds
    {id : ClassId}
    {type : TypeRef}
    (hasType : draft.HasType id type) :
    id ∈ draft.classIds := by
  obtain ⟨found, _, _, defined, _⟩ := hasType
  exact Draft.mem_classIds.2 (index_lt_of_defined defined)

/-- How the check of some classes, after others whose types were seen, can end. -/
inductive CheckOutcome (draft : Draft) (seen : List TypeRef) (ids : List ClassId) :
    Except ModelError (List TypeRef) → Prop
  /-- The classes have types of their own and keep their packages. -/
  | passed {types : List TypeRef} (typed : List.Forall₂ draft.HasType ids types)
      (keeps : ∀ id ∈ ids, draft.KeepsPackage id) (nodup : (seen ++ types).Nodup) :
      CheckOutcome draft seen ids (.ok (seen ++ types))
  /-- The draft breaks a condition. -/
  | failed {error : ModelError} (violated : draft.Violates error) :
      CheckOutcome draft seen ids (.error error)

/-- The check of a class that has a type comes down to its package and to its type being new. -/
theorem checkedType_of_hasType
    (seen : List TypeRef)
    {id : ClassId}
    {type : TypeRef}
    (typed : draft.typeOf id = .ok type)
    (coherent : draft.Coherent) :
    (draft.KeepsPackage id ∧ draft.checkedType seen id =
        if type ∈ seen then .error (.duplicateClass type.fullName) else .ok type) ∨
      (¬draft.KeepsPackage id ∧ ∃ package enclosingPackage, draft.checkedType seen id =
        .error (.packageMismatch type.fullName package enclosingPackage)) := by
  obtain ⟨found, name, package, defined, named, packaged, _⟩ := hasType_of_typeOf typed
  simp only [checkedType, typed, bind, Except.bind, defined_eq_ok_iff.2 defined]
  cases enclosed : found.enclosing with
  | none =>
      refine .inl ⟨?_, ?_⟩
      · intro other outer around otherDefined otherEnclosed
        rw [defined, Option.some.injEq] at otherDefined
        subst otherDefined
        rw [enclosed] at otherEnclosed
        cases otherEnclosed
      · by_cases duplicate : type ∈ seen <;> simp only [duplicate, if_true, if_false] <;> rfl
  | some outer =>
      obtain ⟨around, aroundDefined⟩ := named.defined_of_enclosing defined enclosed
      obtain ⟨aroundPackage, aroundPackaged⟩ := coherent.packaged aroundDefined
      by_cases same : around.package = found.package
      · refine .inl ⟨?_, ?_⟩
        · intro other otherOuter otherAround otherDefined otherEnclosed otherAroundDefined
          rw [defined, Option.some.injEq] at otherDefined
          subst otherDefined
          rw [enclosed, Option.some.injEq] at otherEnclosed
          subst otherEnclosed
          rw [aroundDefined, Option.some.injEq] at otherAroundDefined
          subst otherAroundDefined
          exact same
        · simp only [defined_eq_ok_iff.2 aroundDefined, same, ne_eq, not_true_eq_false, if_false]
          split <;> rfl
      · refine .inr ⟨fun keeps => same (keeps found outer around defined enclosed aroundDefined),
          package, aroundPackage, ?_⟩
        simp only [defined_eq_ok_iff.2 aroundDefined, ne_eq, same, not_false_eq_true, if_true,
          packageName, packaged, aroundPackaged]
        rfl

/-- How the check of one class can end. -/
theorem Coherent.checkedType_cases
    (coherent : draft.Coherent)
    {seen : List TypeRef}
    {id : ClassId}
    (isClass : id ∈ draft.classIds)
    (seenElsewhere : ∀ type ∈ seen, ∃ other, other ≠ id ∧ draft.HasType other type) :
    (∃ type, draft.checkedType seen id = .ok type ∧ draft.HasType id type ∧
        draft.KeepsPackage id ∧ type ∉ seen) ∨
      ∃ error, draft.checkedType seen id = .error error ∧ draft.Violates error := by
  cases asked : draft.typeOf id with
  | error error =>
      refine .inr ⟨error, by simp only [checkedType, asked, bind, Except.bind], ?_⟩
      have outcome := coherent.typeOutcome isClass
      rw [asked] at outcome
      cases outcome with
      | @undefined rest missing around member undefined =>
          refine ⟨?_, undefined⟩
          rcases List.mem_cons.1 member with rfl | later
          · exact isClass
          · exact coherent.around_subset around later
      | endless name endless => exact ⟨id, isClass, endless⟩
  | ok type =>
      have hasType := hasType_of_typeOf asked
      rcases checkedType_of_hasType seen asked coherent with
        ⟨keeps, checked⟩ | ⟨differs, package, enclosingPackage, checked⟩
      · by_cases duplicate : type ∈ seen
        · obtain ⟨other, different, otherTyped⟩ := seenElsewhere type duplicate
          rw [if_pos duplicate] at checked
          exact .inr ⟨_, checked, other, id, type, otherTyped, hasType, different, rfl⟩
        · rw [if_neg duplicate] at checked
          exact .inl ⟨type, checked, hasType, keeps, duplicate⟩
      · exact .inr ⟨_, checked, id, isClass, differs, type, hasType, rfl⟩

/-- How the check of some classes ends. -/
theorem Coherent.checkOutcome
    (coherent : draft.Coherent)
    {seen : List TypeRef}
    {ids : List ClassId}
    (areClasses : ids ⊆ draft.classIds)
    (distinct : ids.Nodup)
    (seenNodup : seen.Nodup)
    (seenElsewhere : ∀ type ∈ seen, ∃ other, other ∉ ids ∧ draft.HasType other type) :
    CheckOutcome draft seen ids (draft.checkedTypes seen ids) := by
  induction ids generalizing seen with
  | nil =>
      have passed : CheckOutcome draft seen [] (.ok (seen ++ [])) :=
        .passed .nil (fun _ member => absurd member List.not_mem_nil) (by simpa using seenNodup)
      simpa [checkedTypes] using passed
  | cons id rest inductionHypothesis =>
      obtain ⟨isClass, restAreClasses⟩ := List.cons_subset.1 areClasses
      obtain ⟨absent, restDistinct⟩ := List.nodup_cons.1 distinct
      have elsewhere : ∀ type ∈ seen, ∃ other, other ≠ id ∧ draft.HasType other type := by
        intro type member
        obtain ⟨other, apart, typed⟩ := seenElsewhere type member
        exact ⟨other, List.ne_of_not_mem_cons apart, typed⟩
      rcases coherent.checkedType_cases isClass elsewhere with
        ⟨type, checked, hasType, keeps, fresh⟩ | ⟨error, checked, violated⟩
      · simp only [checkedTypes, checked, bind, Except.bind]
        have seenLater : ∀ other ∈ seen ++ [type],
            ∃ earlier, earlier ∉ rest ∧ draft.HasType earlier other := by
          intro other member
          rcases List.mem_append.1 member with before | last
          · obtain ⟨earlier, apart, typed⟩ := seenElsewhere other before
            exact ⟨earlier, List.not_mem_of_not_mem_cons apart, typed⟩
          · rw [List.mem_singleton] at last
            exact ⟨id, absent, last ▸ hasType⟩
        have nodup : (seen ++ [type]).Nodup := by
          rw [List.nodup_append]
          refine ⟨seenNodup, List.nodup_singleton _, ?_⟩
          intro earlier member other last
          rw [List.mem_singleton] at last
          exact fun same => fresh (last ▸ same ▸ member)
        have outcome := inductionHypothesis restAreClasses restDistinct nodup seenLater
        generalize draft.checkedTypes (seen ++ [type]) rest = result at outcome ⊢
        cases outcome with
        | failed violated => exact .failed violated
        | @passed types typed restKeeps allNodup =>
            rw [List.append_assoc] at allNodup ⊢
            exact .passed (.cons hasType typed) (List.forall_mem_cons.2 ⟨keeps, restKeeps⟩) allNodup
      · simp only [checkedTypes, checked, bind, Except.bind]
        exact .failed violated

/-- Classes whose types pass the check have these types. -/
theorem Coherent.typed_of_checkedTypes
    (coherent : draft.Coherent)
    {types : List TypeRef}
    (checked : draft.checkedTypes [] draft.classIds = .ok types) :
    List.Forall₂ draft.HasType draft.classIds types := by
  have outcome := coherent.checkOutcome (List.Subset.refl _) draft.nodup_classIds List.nodup_nil
    (fun _ member => absurd member List.not_mem_nil)
  rw [checked] at outcome
  cases outcome with
  | passed typed => exact typed

/-! ## Nested classes -/

/-- The draft with given lists of nested classes in place of its own. -/
def withNested (draft : Draft) (nested : ClassId → List ClassId) : Draft :=
  { draft with
    classes := draft.classes.mapIdx fun index value =>
      value.map fun found => { found with nested := nested ⟨index⟩ } }

/-- The classes of the draft that are nested directly in a class. -/
def nestedIn (draft : Draft) (outer : ClassId) : List ClassId :=
  draft.classIds.filter fun inner => (draft.defined? inner).bind Class.enclosing = some outer

@[simp] theorem length_classes_withNested
    (draft : Draft)
    (nested : ClassId → List ClassId) :
    (draft.withNested nested).classes.length = draft.classes.length := by
  simp [withNested]

theorem defined?_withNested
    (draft : Draft)
    (nested : ClassId → List ClassId)
    (id : ClassId) :
    (draft.withNested nested).defined? id =
      (draft.defined? id).map fun found => { found with nested := nested id } := by
  unfold defined? withNested
  rw [List.getElem?_mapIdx]
  cases draft.classes[id.index]? with
  | none => rfl
  | some value => cases value <;> rfl

theorem Coherent.withNested_nil
    (coherent : draft.Coherent) :
    draft.withNested (fun _ => []) = draft := by
  unfold withNested
  have same : (draft.classes.mapIdx fun _ value =>
      value.map fun found => { found with nested := [] }) = draft.classes := by
    apply List.ext_getElem?
    intro index
    rw [List.getElem?_mapIdx]
    cases lookup : draft.classes[index]? with
    | none => rfl
    | some value =>
        cases value with
        | none => rfl
        | some found =>
            have defined : draft.defined? ⟨index⟩ = some found := by simp [defined?, lookup]
            have unnested := (coherent.classes defined).nested_eq
            cases found
            simp_all
  rw [same]

/-- Setting the nested classes of one class changes one of the given lists. -/
theorem put_withNested
    (nested : ClassId → List ClassId)
    {id : ClassId}
    {found : Class}
    (defined : draft.defined? id = some found)
    (inner : List ClassId) :
    (draft.withNested nested).put id { found with nested := inner } =
      draft.withNested (Function.update nested id inner) := by
  unfold put withNested
  congr 1
  apply List.ext_getElem?
  intro index
  rw [List.getElem?_set, List.getElem?_mapIdx, List.getElem?_mapIdx]
  by_cases same : id.index = index
  · subst same
    have bound := index_lt_of_defined defined
    have lookup : draft.classes[id.index] = some found := by
      simpa [defined?, List.getElem?_eq_getElem bound] using defined
    simp [bound, lookup]
  · have different : (⟨index⟩ : ClassId) ≠ id := fun equal => same (by rw [← equal])
    simp [same, different]

/-- Noting classes one after the other appends each to the list of its enclosing class. -/
theorem foldlM_noteNested
    (coherent : draft.Coherent)
    (allDefined : ∀ id ∈ draft.classIds, (draft.defined? id).isSome)
    {ids : List ClassId}
    (areClasses : ids ⊆ draft.classIds)
    (nested : ClassId → List ClassId) :
    ids.foldlM noteNested (draft.withNested nested) =
      .ok (draft.withNested fun outer => nested outer ++
        ids.filter fun inner => (draft.defined? inner).bind Class.enclosing = some outer) := by
  induction ids generalizing nested with
  | nil => simp [pure, Except.pure]
  | cons id rest inductionHypothesis =>
      obtain ⟨isClass, restAreClasses⟩ := List.cons_subset.1 areClasses
      obtain ⟨found, defined⟩ := Option.isSome_iff_exists.1 (allDefined id isClass)
      have lookup : (draft.withNested nested).defined id =
          .ok { found with nested := nested id } := by
        rw [defined_eq_ok_iff, defined?_withNested, defined]
        rfl
      rw [List.foldlM_cons, noteNested, lookup]
      simp only [bind, Except.bind]
      cases enclosed : found.enclosing with
      | none =>
          have isTop : (draft.defined? id).bind Class.enclosing = none := by
            rw [defined]
            exact enclosed
          simp only [pure, Except.pure, inductionHypothesis restAreClasses, List.filter_cons, isTop]
          rfl
      | some outer =>
          have isInside : (draft.defined? id).bind Class.enclosing = some outer := by
            rw [defined]
            exact enclosed
          obtain ⟨around, aroundDefined⟩ := Option.isSome_iff_exists.1
            (allDefined outer (coherent.enclosing_mem isInside))
          have outerLookup : (draft.withNested nested).defined outer =
              .ok { around with nested := nested outer } := by
            rw [defined_eq_ok_iff, defined?_withNested, aroundDefined]
            rfl
          simp only [outerLookup, pure, Except.pure]
          have noted := put_withNested nested aroundDefined (nested outer ++ [id])
          rw [noted, inductionHypothesis restAreClasses]
          congr 2
          funext other
          by_cases same : other = outer
          · subst same
            simp [isInside]
          · have apart : outer ≠ other := fun equal => same equal.symm
            simp [same, isInside, apart]

/-- Noting all classes gives each class the classes that are nested in it. -/
theorem Coherent.foldlM_noteNested_classIds
    (coherent : draft.Coherent)
    (allDefined : ∀ id ∈ draft.classIds, (draft.defined? id).isSome) :
    draft.classIds.foldlM noteNested draft = .ok (draft.withNested draft.nestedIn) := by
  have noted := foldlM_noteNested coherent allDefined (List.Subset.refl _) fun _ => []
  rw [coherent.withNested_nil] at noted
  rw [noted]
  simp only [List.nil_append]
  rfl

/-! ## Finishing -/

/-- The outline of a draft whose classes have given types. -/
def outlineWith (draft : Draft) (types : List TypeRef) : Outline :=
  ⟨draft.packages, (draft.withNested draft.nestedIn).classes.filterMap id, draft.fields, types⟩

theorem hasType_iff_getElem?
    {types : List TypeRef}
    (typed : List.Forall₂ draft.HasType draft.classIds types)
    {id : ClassId}
    {type : TypeRef} :
    types[id.index]? = some type ↔ draft.HasType id type := by
  have lengths : draft.classIds.length = types.length := typed.length_eq
  have atIndex : ∀ {other : ClassId} {found : TypeRef}, types[other.index]? = some found →
      draft.HasType other found := by
    intro other found lookup
    obtain ⟨bound, rfl⟩ := List.getElem?_eq_some_iff.1 lookup
    have inRange : other.index < draft.classIds.length := by omega
    have place : draft.classIds.get ⟨other.index, inRange⟩ = other := by
      simp [classIds]
    have relation := (List.forall₂_iff_get.1 typed).2 other.index inRange bound
    rw [place] at relation
    exact relation
  refine ⟨atIndex, fun hasType => ?_⟩
  have bound : id.index < types.length := by
    rw [← lengths, length_classIds]
    exact Draft.mem_classIds.1 hasType.mem_classIds
  have lookup := List.getElem?_eq_getElem bound
  rw [lookup, (atIndex lookup).unique hasType]

/-- Each class of a draft whose classes have given types has a type. -/
theorem exists_hasType
    {types : List TypeRef}
    (typed : List.Forall₂ draft.HasType draft.classIds types)
    {id : ClassId}
    (isClass : id ∈ draft.classIds) :
    ∃ type, draft.HasType id type := by
  have bound : id.index < types.length := by
    rw [← typed.length_eq, length_classIds]
    exact Draft.mem_classIds.1 isClass
  exact ⟨_, (hasType_iff_getElem? typed).1 (List.getElem?_eq_getElem bound)⟩

theorem isSome_of_typed
    {types : List TypeRef}
    (typed : List.Forall₂ draft.HasType draft.classIds types) :
    ∀ id ∈ draft.classIds, (draft.defined? id).isSome := by
  intro id isClass
  obtain ⟨_, found, _, _, defined, _⟩ := exists_hasType typed isClass
  rw [defined]
  rfl

/-- Finishing succeeds exactly on valid drafts; otherwise it blames a condition that is broken. -/
theorem Coherent.finish_cases
    (coherent : draft.Coherent) :
    (draft.Valid ∧ ∃ types, List.Forall₂ draft.HasType draft.classIds types ∧
        draft.finish = .ok (draft.outlineWith types)) ∨
      ∃ error, draft.finish = .error error ∧ draft.Violates error := by
  have outcome := coherent.checkOutcome (List.Subset.refl _) draft.nodup_classIds List.nodup_nil
    (fun _ member => absurd member List.not_mem_nil)
  unfold finish
  generalize draft.checkedTypes [] draft.classIds = result at outcome ⊢
  cases outcome with
  | @failed error violated => exact .inr ⟨error, rfl, violated⟩
  | @passed types typed keeps nodup =>
      rw [List.nil_append] at nodup ⊢
      have allDefined := isSome_of_typed typed
      have lengths : types.length = draft.classes.length := by
        rw [← typed.length_eq, length_classIds]
      rcases coherent.closedAbove.checkAncestry_cases allDefined lengths with
        ⟨checked, acyclic⟩ | ⟨culprit, type, checked, cycle, culpritTyped⟩
      · refine .inl ⟨⟨allDefined, ?_, keeps, ?_, acyclic⟩, types, typed, ?_⟩
        · intro id isClass
          obtain ⟨_, _, _, _, _, named, _⟩ := exists_hasType typed isClass
          exact named.reachesTop
        · intro first second type firstTyped secondTyped
          have firstLookup := (hasType_iff_getElem? typed).2 firstTyped
          have secondLookup := (hasType_iff_getElem? typed).2 secondTyped
          obtain ⟨firstBound, firstAt⟩ := List.getElem?_eq_some_iff.1 firstLookup
          obtain ⟨secondBound, secondAt⟩ := List.getElem?_eq_some_iff.1 secondLookup
          exact ClassId.eq_of_index_eq
            ((nodup.getElem_inj_iff).1 (firstAt.trans secondAt.symm))
        · simp only [bind, Except.bind, checked, coherent.foldlM_noteNested_classIds allDefined]
          rfl
      · refine .inr ⟨.supertypeCycle type.fullName, ?_, culprit, type, cycle,
          (hasType_iff_getElem? typed).1 culpritTyped, rfl⟩
        simp only [bind, Except.bind, checked]

/-- A draft that finishes is valid, and its outline has the types of its classes. -/
theorem Coherent.valid_of_finish
    (coherent : draft.Coherent)
    {outline : Outline}
    (finished : draft.finish = .ok outline) :
    draft.Valid ∧ ∃ types, List.Forall₂ draft.HasType draft.classIds types ∧
      outline = draft.outlineWith types := by
  rcases coherent.finish_cases with ⟨valid, types, typed, passed⟩ | ⟨error, failed, _⟩
  · rw [passed, Except.ok.injEq] at finished
    exact ⟨valid, types, typed, finished.symm⟩
  · rw [failed] at finished
    cases finished

/-- The types of the classes of a draft are their types in its outline. -/
theorem Coherent.typeOf?_eq_some_iff
    (coherent : draft.Coherent)
    {outline : Outline}
    (finished : draft.finish = .ok outline)
    {id : ClassId}
    {type : TypeRef} :
    outline.typeOf? id = some type ↔ draft.HasType id type := by
  obtain ⟨valid, types, typed, rfl⟩ := coherent.valid_of_finish finished
  exact hasType_iff_getElem? typed

/-! ## The view of an outline -/

/-- Every place is filled if every class is defined, whatever the nested classes are. -/
theorem isSome_of_mem_withNested
    (allDefined : ∀ id ∈ draft.classIds, (draft.defined? id).isSome)
    (nested : ClassId → List ClassId)
    {value : Option Class}
    (member : value ∈ (draft.withNested nested).classes) :
    value.isSome := by
  obtain ⟨index, bound, rfl⟩ := List.mem_iff_getElem.1 member
  have inRange : index < draft.classes.length := by simpa using bound
  obtain ⟨found, defined⟩ := Option.isSome_iff_exists.1
    (allDefined ⟨index⟩ (Draft.mem_classIds.2 inRange))
  have lookup : draft.classes[index] = some found := by
    simpa [defined?, List.getElem?_eq_getElem inRange] using defined
  simp [withNested, lookup]

theorem getElem?_filterMap_id
    {Item : Type}
    {items : List (Option Item)}
    (present : ∀ item ∈ items, item.isSome)
    (index : Nat) :
    (items.filterMap id)[index]? = items[index]?.join := by
  induction items generalizing index with
  | nil => rfl
  | cons first rest inductionHypothesis =>
      obtain ⟨value, rfl⟩ := Option.isSome_iff_exists.1 (present first List.mem_cons_self)
      have restPresent : ∀ item ∈ rest, item.isSome := fun item member =>
        present item (List.mem_cons_of_mem _ member)
      cases index with
      | zero => rfl
      | succ index => exact inductionHypothesis restPresent index

/-- The classes of the outline are those of the draft, with the classes nested in them. -/
theorem Valid.class?_outlineWith
    (valid : draft.Valid)
    (types : List TypeRef)
    (id : ClassId) :
    (draft.outlineWith types).class? id =
      (draft.defined? id).map fun found => { found with nested := draft.nestedIn id } := by
  rw [← defined?_withNested]
  exact getElem?_filterMap_id (fun _ => isSome_of_mem_withNested valid.defined _) id.index

/-- A class is as it was defined, with the classes inside it. -/
theorem Valid.class?_of_defined
    (valid : draft.Valid)
    (types : List TypeRef)
    {id : ClassId}
    {found : Class}
    (defined : draft.defined? id = some found) :
    (draft.outlineWith types).class? id = some { found with nested := draft.nestedIn id } := by
  rw [valid.class?_outlineWith, defined]
  rfl

theorem Valid.classIds_outlineWith
    (valid : draft.Valid)
    (types : List TypeRef) :
    (draft.outlineWith types).classIds = draft.classIds := by
  have lengths : (draft.outlineWith types).classes.length = draft.classes.length := by
    rw [← length_classes_withNested draft draft.nestedIn]
    exact List.filterMap_length_eq_length.2 fun _ => isSome_of_mem_withNested valid.defined _
  unfold Outline.classIds
  rw [lengths]
  rfl

end Draft

/-- A draft that was built with its own handles becomes an outline if and only if every class is
defined, the classes around a class end, nested classes keep the package of the class around them,
no two classes share package and dotted name, and no class is its own ancestor.  If it does not, the
error speaks of a condition that the draft breaks. -/
theorem Built.finish_accepts_valid
    {transcript : Transcript}
    {draft : Draft}
    (built : Built transcript draft) :
    ((∃ outline, draft.finish = .ok outline) ↔ draft.Valid) ∧
      ∀ error, draft.finish = .error error → draft.Violates error := by
  rcases built.coherent.finish_cases with
    ⟨valid, types, _, finished⟩ | ⟨error, failed, violated⟩
  · refine ⟨⟨fun _ => valid, fun _ => ⟨_, finished⟩⟩, fun error failed => ?_⟩
    rw [finished] at failed
    cases failed
  · refine ⟨⟨?_, fun valid => absurd violated (valid.not_violates error)⟩, fun other otherFailed => ?_⟩
    · rintro ⟨outline, finished⟩
      rw [failed] at finished
      cases finished
    · rw [failed, Except.error.injEq] at otherFailed
      exact otherFailed ▸ violated

/-- A script that nests a class in one that is reserved first, and that ends in a diamond. -/
def diamond : List Operation :=
  [.reserve, .package "p", .addClass "Base" ⟨0⟩ none, .addClass "Inner" ⟨0⟩ (some ⟨0⟩),
    .define ⟨0⟩ "Outer" ⟨0⟩ none, .addField ⟨0⟩ "inner" (.reference "p" "Outer.Inner"),
    .addSupertype ⟨0⟩ ⟨1⟩, .addSupertype ⟨2⟩ ⟨0⟩, .addSupertype ⟨2⟩ ⟨1⟩]

theorem diamond_valid :
    ∃ transcript draft, diamond.foldlM carryOut ([], .empty) = some (transcript, draft) ∧
      Built transcript draft ∧ draft.Valid := by
  refine ⟨_, _, rfl, ?_⟩
  have built := built_iff_foldlM.2 ⟨diamond, rfl⟩
  exact ⟨built, built.finish_accepts_valid.1.1 ⟨_, rfl⟩⟩

end SchemaBinding
