import SchemaBinding.Proofs.Ancestors
import SchemaBinding.Proofs.Arena.Finish
import SchemaBinding.Proofs.Derivations
import SchemaBinding.Proofs.Enumeration

/-!
# Handles

No handle leads nowhere.  Work that uses its own handles never breaks off for a place that is
missing or empty, nor does finishing.  In the outline the handles that were given out, and those
that are found by following them, answer every query.  The queries here break off where an entry is
missing; they are shown to answer what the queries answer that pass over what is missing.
-/

namespace SchemaBinding

open Relation (ReflTransGen)

/-- The items of a list, each with what is read of it. -/
def readEach {Item Result : Type} (read : Item → Option Result) (items : List Item) :
    Option (List (Item × Result)) :=
  items.mapM fun item => (read item).map fun result => (item, result)

section Reading

variable {Item Result : Type} {read : Item → Option Result} {items : List Item}

theorem mapM_eq_some_map
    {result : Item → Result}
    (each : ∀ item ∈ items, read item = some (result item)) :
    items.mapM read = some (items.map result) := by
  induction items with
  | nil => rfl
  | cons first rest inductionHypothesis =>
      obtain ⟨firstRead, restRead⟩ := List.forall_mem_cons.1 each
      simp [List.mapM_cons, firstRead, inductionHypothesis restRead]

/-- If all items can be read, then none is passed over. -/
theorem mapM_eq_some_filterMap
    (each : ∀ item ∈ items, (read item).isSome) :
    items.mapM read = some (items.filterMap read) := by
  induction items with
  | nil => rfl
  | cons first rest inductionHypothesis =>
      obtain ⟨firstRead, restRead⟩ := List.forall_mem_cons.1 each
      obtain ⟨result, isResult⟩ := Option.isSome_iff_exists.1 firstRead
      simp [List.mapM_cons, isResult, inductionHypothesis restRead]

theorem readEach_eq
    (each : ∀ item ∈ items, (read item).isSome) :
    readEach read items =
      some (items.filterMap fun item => (read item).map fun result => (item, result)) := by
  apply mapM_eq_some_filterMap
  simpa using each

/-- The items of which something was read that passes a test. -/
theorem map_fst_filter_read
    (test : Result → Bool)
    (items : List Item) :
    ((items.filterMap fun item => (read item).map fun result => (item, result)).filter
        fun entry => test entry.2).map Prod.fst =
      items.filter fun item => (read item).any test := by
  induction items with
  | nil => rfl
  | cons first rest inductionHypothesis =>
      cases isRead : read first with
      | none => simp [isRead, inductionHypothesis]
      | some result => by_cases passes : test result <;> simp [isRead, passes, inductionHypothesis]

/-- What was read of the items. -/
theorem map_snd_read
    (items : List Item) :
    (items.filterMap fun item => (read item).map fun result => (item, result)).map Prod.snd =
      items.filterMap read := by
  simp [List.map_filterMap, Function.comp_def]

end Reading

namespace Outline

/-! ## Queries that break off -/

/-- The classes that are not nested. -/
def topLevel? (outline : Outline) : Option (List ClassId) := do
  let classes ← readEach outline.class? outline.classIds
  return (classes.filter fun entry => entry.2.enclosing.isNone).map Prod.fst

/-- The classes that are not nested, each with the name of its package. -/
def packagedTopLevel? (outline : Outline) : Option (List (ClassId × String)) := do
  readEach outline.packageNameOf? (← outline.topLevel?)

/-- The names of the packages that have classes at the top, in ascending order. -/
def packageNames? (outline : Outline) : Option (List String) := do
  return ((← outline.packagedTopLevel?).map Prod.snd).eraseDups.mergeSort

/-- The fields that a class declares. -/
def fieldsOf? (outline : Outline) (id : ClassId) : Option (List Field) := do
  (← outline.class? id).fields.mapM outline.field?

/-- The classes met on a walk, all of which must be there. -/
def walk? (outline : Outline) (met : List ClassId) : List ClassId → Option (List ClassId)
  | [] => some met.reverse
  | id :: pending =>
      if fresh : id ∉ met then
        match isFound : outline.class? id with
        | none => none
        | some found =>
            have := outline.length_unmet_cons_lt met id (mem_classIds_of_class? isFound) fresh
            outline.walk? (id :: met) (found.supertypes ++ pending)
      else outline.walk? met pending
termination_by pending => ((outline.unmet met).length, pending.length)

/-- The ancestors of a class, each once. -/
def ancestors? (outline : Outline) (id : ClassId) : Option (List ClassId) := do
  outline.walk? [] (← outline.class? id).supertypes

/-- Whether a type is another or one of its ancestors. -/
def isAncestor? (outline : Outline) (declared actual : TypeRef) : Option Bool :=
  if declared = actual ∨ declared = .object then some true
  else
    match outline.classOf? actual with
    | none => some false
    | some id => do
        let types ← (← outline.ancestors? id).mapM outline.typeOf?
        return types.any (· = declared)

/-- A class of the block of a package, with what is shown of the classes nested in it. -/
def showClass? (outline : Outline) (options : SignatureOptions) (package : String) (id : ClassId)
    (nested : List ClassTree) : Option ClassTree := do
  let found ← outline.class? id
  let supertypes ← found.supertypes.mapM outline.typeOf?
  let fields ← found.fields.mapM outline.field?
  return {
    name := found.name
    supertypes := supertypes.map (displaySupertype options package)
    fields := fields.map fun field => (displayType options field.type, field.name)
    nested }

/-- A class of the block of a package, with the classes nested in it, which must end within a given
depth. -/
def classTree? (outline : Outline) (options : SignatureOptions) (package : String) :
    Nat → ClassId → Option ClassTree
  | 0, id => do
      let found ← outline.class? id
      if found.nested = [] then outline.showClass? options package id [] else none
  | depth + 1, id => do
      let found ← outline.class? id
      let nested ← found.nested.mapM (outline.classTree? options package depth)
      outline.showClass? options package id nested

/-- The blocks of all packages. -/
def packageBlocks? (outline : Outline) (options : SignatureOptions) :
    Option (List PackageBlock) := do
  let packaged ← outline.packagedTopLevel?
  (packaged.map Prod.snd).eraseDups.mergeSort.mapM fun package => do
    let classes ← ((packaged.filter fun entry => entry.2 == package).map Prod.fst).mapM
      (outline.classTree? options package outline.classes.length)
    return ⟨package, classes⟩

/-- The signature. -/
def signature? (outline : Outline) (options : SignatureOptions) : Option String := do
  let blocks ← outline.packageBlocks? options
  return String.join ((blocks.flatMap PackageBlock.lines).flatMap Line.pieces)

/-! ## Where handles lead -/

/-- Whether a handle is found in what another one stands for. -/
inductive LeadsTo (outline : Outline) : Handle → Handle → Prop
  /-- The package of a class. -/
  | package {id : ClassId} {found : Class} (isFound : outline.class? id = some found) :
      LeadsTo outline (.ofClass id) (.ofPackage found.package)
  /-- The class directly around a class. -/
  | enclosing {id outer : ClassId} {found : Class} (isFound : outline.class? id = some found)
      (enclosed : found.enclosing = some outer) : LeadsTo outline (.ofClass id) (.ofClass outer)
  /-- A supertype of a class. -/
  | supertype {id supertype : ClassId} {found : Class} (isFound : outline.class? id = some found)
      (member : supertype ∈ found.supertypes) : LeadsTo outline (.ofClass id) (.ofClass supertype)
  /-- A class directly inside a class. -/
  | nested {id inner : ClassId} {found : Class} (isFound : outline.class? id = some found)
      (member : inner ∈ found.nested) : LeadsTo outline (.ofClass id) (.ofClass inner)
  /-- A field of a class. -/
  | field {id : ClassId} {field : FieldId} {found : Class}
      (isFound : outline.class? id = some found) (member : field ∈ found.fields) : LeadsTo outline (.ofClass id) (.ofField field)
  /-- The class that declares a field. -/
  | owner {id : FieldId} {found : Field} (isFound : outline.field? id = some found) :
      LeadsTo outline (.ofField id) (.ofClass found.owner)

/-- Whether a handle is one of the outline. -/
def Holds (outline : Outline) : Handle → Prop
  | .ofPackage id => id.index < outline.packages.length
  | .ofClass id => id ∈ outline.classIds
  | .ofField id => id.index < outline.fields.length

/-- Whether a handle answers all queries that it can be given to. -/
def Answers (outline : Outline) : Handle → Prop
  | .ofPackage id => (outline.package? id).isSome
  | .ofClass id => (outline.class? id).isSome ∧ (outline.typeOf? id).isSome ∧
      (outline.fullName? id).isSome ∧ (outline.packageNameOf? id).isSome ∧
      outline.fieldsOf? id = some (outline.fieldsOf id) ∧
      outline.ancestors? id = some (outline.ancestors id)
  | .ofField id => (outline.field? id).isSome

variable {outline : Outline}

/-- What a handle of a finished outline leads to is one of its handles. -/
theorem Finished.holds_of_leadsTo
    (finished : outline.Finished)
    {handle other : Handle}
    (holds : outline.Holds handle)
    (leads : outline.LeadsTo handle other) :
    outline.Holds other := by
  have formed := finished.wellFormed
  obtain ⟨transcript, draft, built, result⟩ := finished
  have coherent := built.coherent
  obtain ⟨valid, types, typed, rfl⟩ := coherent.valid_of_finish result
  have source : ∀ {id found}, (draft.outlineWith types).class? id = some found →
      ∃ own, draft.defined? id = some own ∧ { own with nested := draft.nestedIn id } = found := by
    intro id found isFound
    rw [valid.class?_outlineWith] at isFound
    exact Option.map_eq_some_iff.1 isFound
  cases leads with
  | package isFound =>
      obtain ⟨own, defined, rfl⟩ := source isFound
      exact (coherent.classes defined).package_lt
  | enclosing isFound enclosed =>
      exact formed.enclosing_mem (Option.bind_eq_some_iff.2 ⟨_, isFound, enclosed⟩)
  | supertype isFound member =>
      exact formed.supertype_mem (supertypes_of_class? isFound ▸ member)
  | nested isFound member =>
      exact mem_classIds_of_enclosing? (formed.mem_nested.1 (nested_of_class? isFound ▸ member))
  | field isFound member =>
      obtain ⟨own, defined, rfl⟩ := source isFound
      obtain ⟨entry, lookup, _⟩ := (coherent.classes defined).owns _ member
      exact (List.getElem?_eq_some_iff.1 lookup).1
  | owner isFound =>
      obtain ⟨own, defined, _⟩ := coherent.owned isFound
      have isClass := Draft.mem_classIds.2 (Draft.index_lt_of_defined defined)
      rw [← valid.classIds_outlineWith types] at isClass
      exact isClass

/-! ## What handles answer -/

/-- A walk that only goes to classes of the outline finds all of them there. -/
theorem WellFormed.walk?_eq
    (formed : outline.WellFormed)
    {met pending : List ClassId}
    (areClasses : ∀ id ∈ pending, id ∈ outline.classIds) :
    outline.walk? met pending = some (outline.walk met pending) := by
  fun_induction outline.walk met pending with
  | case1 met => rw [walk?]
  | case2 met id pending fresh isClass fewer inductionHypothesis =>
      have further : ∀ other ∈ outline.supertypes id ++ pending, other ∈ outline.classIds := by
        rw [List.forall_mem_append]
        exact ⟨fun _ member => formed.supertype_mem member,
          fun other member => areClasses other (List.mem_cons_of_mem _ member)⟩
      rw [walk?, dif_pos fresh]
      split
      next isMissing =>
        obtain ⟨found, isFound⟩ := exists_class? isClass
        rw [isMissing] at isFound
        cases isFound
      next found isFound =>
        rw [← supertypes_of_class? isFound]
        exact inductionHypothesis further
  | case3 met id pending fresh isNoClass inductionHypothesis =>
      exact absurd (areClasses id List.mem_cons_self) isNoClass
  | case4 met id pending known inductionHypothesis =>
      rw [walk?, dif_neg known]
      exact inductionHypothesis fun other member => areClasses other (List.mem_cons_of_mem _ member)

theorem WellFormed.ancestors?_eq
    (formed : outline.WellFormed)
    {id : ClassId}
    (isClass : id ∈ outline.classIds) :
    outline.ancestors? id = some (outline.ancestors id) := by
  obtain ⟨found, isFound⟩ := exists_class? isClass
  rw [ancestors?, isFound, ancestors, supertypes_of_class? isFound]
  exact formed.walk?_eq fun supertype member =>
    formed.supertype_mem (supertypes_of_class? isFound ▸ member)

/-- All fields of a class are there. -/
theorem Finished.isSome_field?
    (finished : outline.Finished)
    {id : ClassId}
    {found : Class}
    (isFound : outline.class? id = some found)
    {field : FieldId}
    (member : field ∈ found.fields) :
    (outline.field? field).isSome := by
  have holds : outline.Holds (.ofClass id) := mem_classIds_of_class? isFound
  have bound : field.index < outline.fields.length :=
    finished.holds_of_leadsTo holds (.field isFound member)
  simp [field?, bound]

theorem Finished.mapM_field?
    (finished : outline.Finished)
    {id : ClassId}
    {found : Class}
    (isFound : outline.class? id = some found) :
    found.fields.mapM outline.field? = some (outline.fieldsOf id) := by
  rw [fieldsOf_of_class? isFound]
  exact mapM_eq_some_filterMap fun field member => finished.isSome_field? isFound member

/-- All supertypes of a class have types. -/
theorem WellFormed.mapM_supertypes
    (formed : outline.WellFormed)
    {id : ClassId}
    {found : Class}
    (isFound : outline.class? id = some found) :
    found.supertypes.mapM outline.typeOf? =
      some ((outline.supertypes id).filterMap outline.typeOf?) := by
  have above := supertypes_of_class? isFound
  rw [above]
  exact mapM_eq_some_filterMap fun supertype member =>
    formed.isSome_typeOf? (formed.supertype_mem (above ▸ member))

theorem Finished.fieldsOf?_eq
    (finished : outline.Finished)
    {id : ClassId}
    (isClass : id ∈ outline.classIds) :
    outline.fieldsOf? id = some (outline.fieldsOf id) := by
  obtain ⟨found, isFound⟩ := exists_class? isClass
  rw [fieldsOf?, isFound]
  exact finished.mapM_field? isFound

/-- Every handle of a finished outline answers all queries. -/
theorem Finished.answers_of_holds
    (finished : outline.Finished)
    {handle : Handle}
    (holds : outline.Holds handle) :
    outline.Answers handle := by
  have formed := finished.wellFormed
  cases handle with
  | ofPackage id =>
      have bound : id.index < outline.packages.length := holds
      simp [Answers, package?, bound]
  | ofField id =>
      have bound : id.index < outline.fields.length := holds
      simp [Answers, field?, bound]
  | ofClass id =>
      have isClass : id ∈ outline.classIds := holds
      have typed := formed.isSome_typeOf? isClass
      refine ⟨Option.isSome_iff_exists.2 (exists_class? isClass), typed, ?_,
        formed.isSome_packageNameOf? isClass, finished.fieldsOf?_eq isClass,
        formed.ancestors?_eq isClass⟩
      rw [fullName?, Option.isSome_map]
      exact typed

/-! ## What an outline answers -/

theorem Finished.isAncestor?_eq
    (finished : outline.Finished)
    (declared actual : TypeRef) :
    outline.isAncestor? declared actual = some (outline.isAncestor declared actual) := by
  have formed := finished.wellFormed
  unfold isAncestor? isAncestor
  by_cases above : declared = actual ∨ declared = .object
  · rcases above with same | isObject <;> simp [*]
  · obtain ⟨apart, notObject⟩ := not_or.1 above
    rw [if_neg above]
    cases isNamed : outline.classOf? actual with
    | none => simp [apart, notObject]
    | some id =>
        obtain ⟨_, _, typed⟩ := formed.classOf?_eq_some_iff.1 isNamed
        have ancestors := formed.ancestors?_eq (finished.mem_classIds_of_typeOf? typed)
        have types : (outline.ancestors id).mapM outline.typeOf? =
            some ((outline.ancestors id).filterMap outline.typeOf?) := by
          apply mapM_eq_some_filterMap
          intro ancestor member
          exact formed.isSome_typeOf?
            (formed.mem_classIds_of_transGen (formed.mem_ancestors_iff.1 member))
        simp only [ancestors, types, Option.bind_eq_bind, Option.bind_some, List.any_filterMap]
        simp only [apart, notObject, decide_false, Bool.false_or]
        congr 2
        funext ancestor
        cases outline.typeOf? ancestor <;> simp

theorem topLevel?_eq (outline : Outline) : outline.topLevel? = some outline.topLevel := by
  have each : ∀ id ∈ outline.classIds, (outline.class? id).isSome := fun id isClass =>
    Option.isSome_iff_exists.2 (exists_class? isClass)
  rw [topLevel?, readEach_eq each, Option.bind_eq_bind, Option.bind_some,
    map_fst_filter_read fun found : Class => found.enclosing.isNone]
  refine congrArg some (List.filter_congr fun id isClass => ?_)
  obtain ⟨found, isFound⟩ := exists_class? isClass
  rw [enclosing?, isFound]
  cases enclosed : found.enclosing <;> simp [enclosed]

theorem WellFormed.packagedTopLevel?_eq
    (formed : outline.WellFormed) :
    outline.packagedTopLevel? = some (outline.topLevel.filterMap fun id =>
      (outline.packageNameOf? id).map fun package => (id, package)) := by
  rw [packagedTopLevel?, topLevel?_eq, Option.bind_eq_bind, Option.bind_some]
  exact readEach_eq fun id isTop => formed.isSome_packageNameOf? (mem_topLevel.1 isTop).1

theorem WellFormed.packageNames?_eq
    (formed : outline.WellFormed) :
    outline.packageNames? = some outline.packageNames := by
  rw [packageNames?, formed.packagedTopLevel?_eq, Option.bind_eq_bind, Option.bind_some,
    map_snd_read]
  rfl

/-- The classes that are read to be at the top of a package. -/
theorem map_fst_filter_packaged
    (outline : Outline)
    (package : String) :
    ((outline.topLevel.filterMap fun id =>
        (outline.packageNameOf? id).map fun name => (id, name)).filter
          fun entry => entry.2 == package).map Prod.fst = outline.topLevelOf package := by
  rw [map_fst_filter_read fun name => name == package]
  refine List.filter_congr fun id _ => ?_
  cases outline.packageNameOf? id with
  | none => rfl
  | some name => simp [Bool.beq_eq_decide_eq]

/-- All that is shown of a class itself is there. -/
theorem Finished.showClass?_eq
    (finished : outline.Finished)
    (options : SignatureOptions)
    (package : String)
    (depth : Nat)
    {id : ClassId}
    (isClass : id ∈ outline.classIds)
    (nested : List ClassTree) :
    outline.showClass? options package id nested =
      some { outline.classTree options package depth id with nested } := by
  have formed := finished.wellFormed
  obtain ⟨found, isFound⟩ := exists_class? isClass
  have supertypes := formed.mapM_supertypes isFound
  have fields := finished.mapM_field? isFound
  unfold showClass? classTree
  simp only [isFound, Option.bind_eq_bind, Option.bind_some, supertypes, fields, Option.elim_some]
  rfl

/-- A class tree ends within a given depth if the nest of this depth leaves out no class. -/
theorem Finished.classTree?_eq
    (finished : outline.Finished)
    (options : SignatureOptions)
    (package : String)
    {depth : Nat}
    {id : ClassId}
    (isClass : id ∈ outline.classIds)
    (complete : (outline.nest depth id).Complete outline) :
    outline.classTree? options package depth id =
      some (outline.classTree options package depth id) := by
  induction depth generalizing id with
  | zero =>
      obtain ⟨found, isFound⟩ := exists_class? isClass
      obtain ⟨same, _⟩ := complete
      have none : found.nested = [] := (nested_of_class? isFound).symm.trans same.symm
      rw [classTree?, isFound, Option.bind_eq_bind, Option.bind_some, if_pos none,
        finished.showClass?_eq options package 0 isClass, classTree]
  | succ depth inductionHypothesis =>
      obtain ⟨found, isFound⟩ := exists_class? isClass
      obtain ⟨_, inside⟩ := complete
      have nested := nested_of_class? isFound
      have inner : found.nested.mapM (outline.classTree? options package depth) =
          some (found.nested.map (outline.classTree options package depth)) := by
        apply mapM_eq_some_map
        intro inner member
        rw [← nested] at member
        have enclosed := finished.wellFormed.mem_nested.1 member
        exact inductionHypothesis (mem_classIds_of_enclosing? enclosed)
          (inside _ (List.mem_map_of_mem member))
      simp only [classTree?, isFound, Option.bind_eq_bind, Option.bind_some, inner,
        finished.showClass?_eq options package (depth + 1) isClass]
      rw [← nested, ← classTree_nested]
      rfl

/-- The blocks of a finished outline need no entry that is missing. -/
theorem Finished.packageBlocks?_eq
    (finished : outline.Finished)
    (options : SignatureOptions) :
    outline.packageBlocks? options = some (outline.packageBlocks options) := by
  have formed := finished.wellFormed
  rw [packageBlocks?, formed.packagedTopLevel?_eq, Option.bind_eq_bind, Option.bind_some,
    map_snd_read]
  refine mapM_eq_some_map fun package _ => ?_
  rw [map_fst_filter_packaged]
  have trees : (outline.topLevelOf package).mapM
      (outline.classTree? options package outline.classes.length) =
        some ((outline.topLevelOf package).map
          (outline.classTree options package outline.classes.length)) := by
    apply mapM_eq_some_map
    intro id member
    obtain ⟨isClass, top⟩ := mem_topLevel.1 (mem_topLevelOf.1 member).1
    exact finished.classTree?_eq options package isClass
      (formed.complete_nest isClass (.outermost top) (Nat.le_add_right _ _))
  rw [trees]
  rfl

theorem Finished.signature?_eq
    (finished : outline.Finished)
    (options : SignatureOptions) :
    outline.signature? options = some (outline.signature options) := by
  rw [signature?, finished.packageBlocks?_eq]
  rfl

end Outline

/-! ## Drafts that use their own handles -/

namespace Draft.Coherent

variable {draft : Draft}

theorem typeOf_ne_unknownId
    (coherent : draft.Coherent)
    {id : ClassId}
    (held : draft.Holds (.ofClass id)) :
    draft.typeOf id ≠ .error .unknownId := by
  intro failed
  have outcome := coherent.typeOutcome (mem_classIds.2 held)
  rw [failed] at outcome
  cases outcome

theorem exists_describe
    (coherent : draft.Coherent)
    {id : ClassId}
    (held : draft.Holds (.ofClass id)) :
    ∃ name, draft.describe id = .ok name := by
  have known := coherent.typeOf_ne_unknownId held
  unfold describe
  cases typed : draft.typeOf id with
  | ok type => exact ⟨_, rfl⟩
  | error error =>
      cases error with
      | unknownId => exact absurd typed known
      | _ => exact ⟨_, rfl⟩

/-- An operation that is given handles of the draft finds all the places that it needs. -/
theorem perform_ne_unknownId
    (coherent : draft.Coherent)
    {operation : Operation}
    (given : ∀ handle ∈ operation.handles, draft.Holds handle) :
    (draft.perform operation).1 ≠ .failed .unknownId := by
  cases operation with
  | package | reserve | addClass => simp [perform]
  | define id name package enclosing =>
      have held : draft.Holds (.ofClass id) := given _ List.mem_cons_self
      have bound : id.index < draft.classes.length := held
      obtain ⟨described, isDescribed⟩ := coherent.exists_describe held
      rw [perform, define, List.getElem?_eq_getElem bound]
      cases draft.classes[id.index] with
      | none => simp [settle]
      | some found => simp [isDescribed, settle, bind, Except.bind, throw, throwThe,
          MonadExceptOf.throw]
  | addField id name type =>
      have held : draft.Holds (.ofClass id) := given _ List.mem_cons_self
      obtain ⟨described, isDescribed⟩ := coherent.exists_describe held
      cases found : draft.defined? id with
      | none =>
          have undefined := defined_eq_error_iff.2 ⟨found, rfl⟩
          simp [perform, addField, undefined, settle, bind, Except.bind]
      | some owner =>
          cases duplicate : draft.declares owner name with
          | false =>
              rw [perform, addField_eq_of_fresh type found duplicate]
              simp [settle]
          | true =>
              rw [perform, addField_eq_of_duplicate type found duplicate, isDescribed]
              simp [settle, Except.bind]
  | addSupertype id supertype =>
      cases found : draft.defined? id with
      | none =>
          have undefined := defined_eq_error_iff.2 ⟨found, rfl⟩
          simp [perform, addSupertype, undefined, settle, bind, Except.bind]
      | some owner =>
          rw [perform, addSupertype_eq supertype found]
          simp [settle]
  | typeOf id =>
      have known := coherent.typeOf_ne_unknownId (given _ List.mem_cons_self)
      rw [perform]
      cases typed : draft.typeOf id with
      | ok type => simp [settle]
      | error error =>
          rw [typed] at known
          simpa [settle] using known

theorem finish_ne_unknownId
    (coherent : draft.Coherent) :
    draft.finish ≠ .error .unknownId := by
  intro failed
  rcases coherent.finish_cases with ⟨_, _, _, finished⟩ | ⟨error, otherFailed, violated⟩
  · rw [failed] at finished
    cases finished
  · rw [failed, Except.error.injEq] at otherFailed
    exact (otherFailed ▸ violated : draft.Violates .unknownId)

end Draft.Coherent

/-- No operation of a transcript broke off. -/
theorem Built.answer_ne_unknownId
    {transcript : Transcript}
    {draft : Draft}
    (built : Built transcript draft) :
    ∀ entry ∈ transcript, entry.answer ≠ .failed .unknownId := by
  induction built with
  | empty => exact nofun
  | @perform transcript draft built operation given inductionHypothesis =>
      rw [List.forall_mem_append, List.forall_mem_singleton]
      exact ⟨inductionHypothesis, built.coherent.perform_ne_unknownId fun handle member =>
        (built.gives_iff_holds handle).1 (given handle member)⟩

/-- The handles of a draft are handles of its outline. -/
theorem Draft.Coherent.holds_outline
    {draft : Draft}
    (coherent : draft.Coherent)
    {outline : Outline}
    (finished : draft.finish = .ok outline)
    {handle : Handle}
    (holds : draft.Holds handle) :
    outline.Holds handle := by
  obtain ⟨valid, types, _, rfl⟩ := coherent.valid_of_finish finished
  cases handle with
  | ofPackage | ofField => exact holds
  | ofClass id =>
      have isClass := Draft.mem_classIds.2 holds
      rw [← valid.classIds_outlineWith types] at isClass
      exact isClass

/-- No handle leads nowhere.  Work in an arena that uses its own handles answers every operation,
and neither an operation nor finishing breaks off for a place that is missing or empty; and in the
outline every handle that was given out, and every one to which it leads, answers all queries.  So
do the queries that are given no handle, and the signature is written to its end. -/
theorem Built.handles_lead_somewhere
    {transcript : Transcript}
    {draft : Draft}
    (built : Built transcript draft) :
    transcribe Arena.perform .empty transcript.operations = (transcript, .ofDraft draft) ∧
      (∀ entry ∈ transcript, entry.answer ≠ .failed .unknownId) ∧
      (Arena.ofDraft draft).finished ≠ .error .unknownId ∧
      ∀ outline names, (Arena.ofDraft draft).finished = .ok (outline, names) →
        (∀ handle other, transcript.Gives handle → ReflTransGen outline.LeadsTo handle other →
          outline.Answers other) ∧
        (∀ name id, names.lookup name = some id → outline.Answers (.ofClass id)) ∧
        (∀ declared actual,
          outline.isAncestor? declared actual = some (outline.isAncestor declared actual)) ∧
        outline.topLevel? = some outline.topLevel ∧
        outline.packageNames? = some outline.packageNames ∧
        ∀ options, outline.signature? options = some (outline.signature options) := by
  refine ⟨built.transcribe_arena, built.answer_ne_unknownId, ?_, ?_⟩
  · rw [Arena.finished_ofDraft built.coherent]
    have known := built.coherent.finish_ne_unknownId
    cases made : draft.finish with
    | ok outline => exact nofun
    | error error =>
        rw [made] at known
        exact fun failed => known (congrArg Except.error (Except.error.inj failed))
  · intro outline names isFinished
    obtain ⟨made, rfl⟩ := built.coherent.finished_arena isFinished
    have finished : outline.Finished := ⟨transcript, draft, built, made⟩
    have formed := finished.wellFormed
    refine ⟨?_, ?_, finished.isAncestor?_eq, outline.topLevel?_eq, formed.packageNames?_eq,
      finished.signature?_eq⟩
    · intro handle other given path
      have holds := built.coherent.holds_outline made ((built.gives_iff_holds handle).1 given)
      refine finished.answers_of_holds ?_
      induction path with
      | refl => exact holds
      | tail _ direct inductionHypothesis =>
          exact finished.holds_of_leadsTo inductionHypothesis direct
    · rintro ⟨package, name⟩ id isNamed
      rw [built.coherent.lookup_nameIndex made, formed.classByName?_eq_some_iff] at isNamed
      have holds : outline.Holds (.ofClass id) := finished.mem_classIds_of_typeOf? isNamed
      exact finished.answers_of_holds holds

theorem diamond_handles :
    (transcribe Arena.perform .empty diamond).1 = (transcribe Draft.perform .empty diamond).1 ∧
      (∃ names, (transcribe Arena.perform .empty diamond).2.finished =
        .ok (Outline.diamondOutline, names)) ∧
      Outline.diamondOutline.Answers (.ofClass ⟨1⟩) ∧
      Outline.diamondOutline.signature? {} = some (Outline.diamondOutline.signature {}) := by
  have carried : diamond.foldlM carryOut ([], .empty) =
      some (transcribe Draft.perform .empty diamond) := by decide
  have built : Built (transcribe Draft.perform .empty diamond).1
      (transcribe Draft.perform .empty diamond).2 := built_iff_foldlM.2 ⟨_, carried⟩
  have made : (transcribe Draft.perform .empty diamond).2.finish =
      .ok Outline.diamondOutline := by decide
  have finished := Arena.finished_ofDraft built.coherent
  rw [made] at finished
  obtain ⟨answers, _, _, outlines⟩ := built.handles_lead_somewhere
  obtain ⟨reached, _, _, _, _, signed⟩ := outlines _ _ finished
  have given : (transcribe Draft.perform .empty diamond).1.Gives (.ofField ⟨0⟩) := by decide
  have field : Outline.diamondOutline.field? ⟨0⟩ =
      some ⟨"inner", .reference "p" "Outer.Inner", ⟨0⟩⟩ := by decide
  have outer : Outline.diamondOutline.class? ⟨0⟩ =
      some ⟨"Outer", ⟨0⟩, none, [⟨0⟩], [⟨1⟩], [⟨2⟩]⟩ := by decide
  have inner : Outline.diamondOutline.class? ⟨2⟩ =
      some ⟨"Inner", ⟨0⟩, some ⟨0⟩, [], [⟨0⟩, ⟨1⟩], []⟩ := by decide
  -- The field leads to its class, which leads to the class nested in it and on to a supertype.
  have path : ReflTransGen Outline.diamondOutline.LeadsTo (.ofField ⟨0⟩) (.ofClass ⟨1⟩) :=
    .head (.owner field) <| .head (.nested outer (by decide)) <|
      .single (.supertype inner (by decide))
  rw [operations_transcribe] at answers
  rw [answers]
  exact ⟨rfl, ⟨_, finished⟩, reached _ _ given path, signed {}⟩

end SchemaBinding
