import Mathlib.Data.List.Sort
import SchemaBinding.Proofs.Validity

/-!
# Outlines as records

An outline loses nothing of the transcript that led to it and adds nothing to it.  Its packages,
classes and fields are those that the transcript gave out; every class is what the one successful
definition of it said, and has the fields and supertypes that it was given, in the order in which it
was given them.  This leaves nothing open: an outline that records the same transcript is the same.
-/

namespace SchemaBinding

namespace Transcript

/-- The definitions of a class that succeeded: its name, its package and the class around it. -/
def definitions (transcript : Transcript) (id : ClassId) :
    List (String × PackageId × Option ClassId) :=
  transcript.filterMap fun
    | ⟨.define _ name package enclosing, .handle (.ofClass defined)⟩ =>
        if defined = id then some (name, package, enclosing) else none
    | ⟨.addClass name package enclosing, .handle (.ofClass defined)⟩ =>
        if defined = id then some (name, package, enclosing) else none
    | _ => none

/-- The fields that a class was given successfully, each with its handle. -/
def fieldCalls (transcript : Transcript) (id : ClassId) : List (FieldId × Field) :=
  transcript.filterMap fun
    | ⟨.addField owner name type, .handle (.ofField field)⟩ =>
        if owner = id then some (field, ⟨name, type, id⟩) else none
    | _ => none

/-- The supertypes that a class was given successfully, as often as it was given them. -/
def supertypeCalls (transcript : Transcript) (id : ClassId) : List ClassId :=
  transcript.filterMap fun
    | ⟨.addSupertype owner supertype, .done⟩ => if owner = id then some supertype else none
    | _ => none

/-- The names that packages were asked for by, each with the handle that was the answer. -/
def packageCalls (transcript : Transcript) : List (String × PackageId) :=
  transcript.filterMap fun
    | ⟨.package name, .handle (.ofPackage id)⟩ => some (name, id)
    | _ => none

section Append

variable (first second : Transcript)

theorem definitions_append
    (id : ClassId) :
    definitions (first ++ second) id = definitions first id ++ definitions second id :=
  List.filterMap_append

theorem fieldCalls_append
    (id : ClassId) :
    fieldCalls (first ++ second) id = fieldCalls first id ++ fieldCalls second id :=
  List.filterMap_append

theorem supertypeCalls_append
    (id : ClassId) :
    supertypeCalls (first ++ second) id = supertypeCalls first id ++ supertypeCalls second id :=
  List.filterMap_append

theorem packageCalls_append :
    packageCalls (first ++ second) = packageCalls first ++ packageCalls second :=
  List.filterMap_append

end Append

end Transcript

/-- Whether an outline records a transcript, without loss and without additions. -/
structure Outline.Records (outline : Outline) (transcript : Transcript) : Prop where
  /-- The packages are those that were given out. -/
  mem_packages : ∀ package : PackageId,
    package.index < outline.packages.length ↔ transcript.Gives (.ofPackage package)
  /-- The classes are those that were given out. -/
  mem_classes : ∀ id, id ∈ outline.classIds ↔ transcript.Gives (.ofClass id)
  /-- The fields are those that were given out. -/
  mem_fields : ∀ field : FieldId,
    field.index < outline.fields.length ↔ transcript.Gives (.ofField field)
  /-- A class is what the only successful definition of it said. -/
  definition : ∀ id ∈ outline.classIds, ∃ found, outline.class? id = some found ∧
    transcript.definitions id = [(found.name, found.package, found.enclosing)]
  /-- The fields of a class are those that it was given, in that order, with itself as the owner. -/
  fields : ∀ id ∈ outline.classIds, ∃ found, outline.class? id = some found ∧
    found.fields.map (fun field => (field, outline.field? field)) =
      (transcript.fieldCalls id).map fun call => (call.1, some call.2)
  /-- No class has two fields of one name. -/
  names : ∀ id ∈ outline.classIds, ((outline.fieldsOf id).map Field.name).Nodup
  /-- Every field is one of exactly one class. -/
  owner : ∀ field : FieldId, field.index < outline.fields.length →
    ∃! id, id ∈ outline.classIds ∧ ∃ found, outline.class? id = some found ∧ field ∈ found.fields
  /-- No class has a field twice. -/
  once : ∀ id ∈ outline.classIds, ∀ found, outline.class? id = some found → found.fields.Nodup
  /-- The supertypes of a class are those that it was given, each where it was given first. -/
  supertypes : ∀ id ∈ outline.classIds,
    outline.supertypes id = (transcript.supertypeCalls id).eraseDups
  /-- The nested classes of a class are those that it is directly around. -/
  mem_nested : ∀ id ∈ outline.classIds, ∀ inner,
    inner ∈ outline.nested id ↔ inner ∈ outline.classIds ∧ outline.enclosing? inner = some id
  /-- Nested classes come once each and in the order of their creation. -/
  nested_sorted : ∀ id ∈ outline.classIds,
    (outline.nested id).Pairwise fun first second => first.index < second.index
  /-- The name of a package is the one that it was asked for by. -/
  package : ∀ id name, outline.package? id = some name ↔ (name, id) ∈ transcript.packageCalls
  /-- Packages are the same if and only if their names are. -/
  packages : ∀ first second : PackageId, first.index < outline.packages.length →
    second.index < outline.packages.length →
      (first = second ↔ outline.package? first = outline.package? second)
  /-- The type of a class is made of its package and of its name through the classes around it. -/
  typed : ∀ id type, outline.typeOf? id = some type ↔
    ∃ package name, outline.packageNameOf? id = some package ∧
      DottedName outline.class? id name ∧ type = .reference package name

namespace Draft

/-- What a class of a draft was defined as; nothing if it is not defined. -/
def definitions (draft : Draft) (id : ClassId) : List (String × PackageId × Option ClassId) :=
  (draft.defined? id).toList.map fun found => (found.name, found.package, found.enclosing)

/-- The fields of a class of a draft, each with its handle; none if the class is not defined. -/
def fieldsOf (draft : Draft) (id : ClassId) : List (FieldId × Option Field) :=
  ((draft.defined? id).elim [] Class.fields).map fun field => (field, draft.fields[field.index]?)

/-- The supertypes of a class of a draft; none if it is not defined. -/
def supertypes (draft : Draft) (id : ClassId) : List ClassId :=
  (draft.defined? id).elim [] Class.supertypes

/-- Whether a draft agrees with a transcript on every class, defined or not. -/
structure Follows (draft : Draft) (transcript : Transcript) : Prop where
  definitions : ∀ id, draft.definitions id = transcript.definitions id
  fields : ∀ id, draft.fieldsOf id = (transcript.fieldCalls id).map fun call => (call.1, some call.2)
  supertypes : ∀ id, draft.supertypes id = (transcript.supertypeCalls id).eraseDups
  packages : ∀ call ∈ transcript.packageCalls, draft.packages[call.2.index]? = some call.1

namespace Follows

variable {draft next : Draft} {transcript : Transcript}

/-- A draft still agrees when it changes by just what one more entry says. -/
theorem extend
    (follows : draft.Follows transcript)
    {entry : Entry}
    (packages : draft.packages <+: next.packages)
    (newPackage : ∀ call ∈ Transcript.packageCalls [entry],
      next.packages[call.2.index]? = some call.1)
    (definitions : ∀ id, next.definitions id =
      draft.definitions id ++ Transcript.definitions [entry] id)
    (fields : ∀ id, next.fieldsOf id = draft.fieldsOf id ++
      (Transcript.fieldCalls [entry] id).map fun call => (call.1, some call.2))
    (supertypes : ∀ id, next.supertypes id = draft.supertypes id ++
      ((Transcript.supertypeCalls [entry] id).removeAll (draft.supertypes id)).eraseDups) :
    next.Follows (transcript ++ [entry]) where
  definitions id := by
    rw [Transcript.definitions_append, definitions, follows.definitions]
  fields id := by
    rw [Transcript.fieldCalls_append, fields, follows.fields, List.map_append]
  supertypes id := by
    have sameNew : ∀ calls : List ClassId, calls.removeAll (draft.supertypes id) =
        calls.removeAll (transcript.supertypeCalls id) := by
      intro calls
      apply List.filter_congr
      intro call _
      rw [follows.supertypes]
      simp
    rw [Transcript.supertypeCalls_append, supertypes, sameNew, follows.supertypes,
      List.eraseDups_append]
  packages call member := by
    rw [Transcript.packageCalls_append, List.mem_append] at member
    rcases member with earlier | last
    · exact getElem?_of_prefix packages (follows.packages call earlier)
    · exact newPackage call last

/-- A draft still agrees when it keeps its classes and fields and the entry says nothing of either. -/
theorem keep
    (follows : draft.Follows transcript)
    {entry : Entry}
    (sameClasses : ∀ id, next.defined? id = draft.defined? id)
    (sameFields : next.fields = draft.fields)
    (packages : draft.packages <+: next.packages)
    (newPackage : ∀ call ∈ Transcript.packageCalls [entry],
      next.packages[call.2.index]? = some call.1)
    (noDefinition : ∀ id, Transcript.definitions [entry] id = [])
    (noField : ∀ id, Transcript.fieldCalls [entry] id = [])
    (noSupertype : ∀ id, Transcript.supertypeCalls [entry] id = []) :
    next.Follows (transcript ++ [entry]) := by
  refine follows.extend packages newPackage ?_ ?_ ?_
  · intro id
    rw [noDefinition, List.append_nil, Draft.definitions, Draft.definitions, sameClasses]
  · intro id
    rw [noField, List.map_nil, List.append_nil, Draft.fieldsOf, Draft.fieldsOf, sameClasses,
      sameFields]
  · intro id
    rw [noSupertype, Draft.supertypes, Draft.supertypes, sameClasses]
    exact (List.append_nil _).symm

/-- A new class, without fields and supertypes, is what the entry says that defines it. -/
theorem define
    (follows : draft.Follows transcript)
    {id : ClassId}
    {entry : Entry}
    (name : String)
    (package : PackageId)
    (enclosing : Option ClassId)
    (undefined : draft.defined? id = none)
    (defined : ∀ other, next.defined? other =
      if other = id then some ⟨name, package, enclosing, [], [], []⟩ else draft.defined? other)
    (samePackages : next.packages = draft.packages)
    (sameFields : next.fields = draft.fields)
    (definition : ∀ other, Transcript.definitions [entry] other =
      if id = other then [(name, package, enclosing)] else [])
    (noField : ∀ other, Transcript.fieldCalls [entry] other = [])
    (noSupertype : ∀ other, Transcript.supertypeCalls [entry] other = [])
    (noPackage : Transcript.packageCalls [entry] = []) :
    next.Follows (transcript ++ [entry]) := by
  refine follows.extend (samePackages ▸ List.prefix_rfl) (by simp [noPackage]) ?_ ?_ ?_
  · intro other
    rw [definition]
    unfold Draft.definitions
    rw [defined]
    by_cases same : other = id
    · subst same
      simp [undefined]
    · have apart : id ≠ other := fun equal => same equal.symm
      simp [same, apart]
  · intro other
    rw [noField]
    unfold Draft.fieldsOf
    rw [defined, sameFields]
    by_cases same : other = id
    · subst same
      simp [undefined]
    · simp [same]
  · intro other
    rw [noSupertype]
    unfold Draft.supertypes
    rw [defined]
    by_cases same : other = id
    · subst same
      simp [undefined, List.removeAll]
    · simp [same, List.removeAll]

/-- The fields that a class has keep their entries when another one is appended. -/
theorem map_getElem?_append
    {id : ClassId}
    {found : Class}
    (coherent : found.CoherentIn draft id)
    (field : Field) :
    found.fields.map (fun handle => (handle, (draft.fields ++ [field])[handle.index]?)) =
      found.fields.map fun handle => (handle, draft.fields[handle.index]?) := by
  apply List.map_congr_left
  intro handle member
  obtain ⟨entry, lookup, _⟩ := coherent.owns handle member
  rw [lookup, getElem?_of_prefix (List.prefix_append _ _) lookup]

theorem addField
    (follows : draft.Follows transcript)
    (coherent : draft.Coherent)
    {id : ClassId}
    {owner : Class}
    (found : draft.defined? id = some owner)
    (name : String)
    (type : TypeRef) :
    (draft.withField id owner name type).Follows (transcript ++
      [⟨.addField id name type, .handle (.ofField ⟨draft.fields.length⟩)⟩]) := by
  refine follows.extend List.prefix_rfl (by simp [Transcript.packageCalls]) ?_ ?_ ?_
  · intro other
    unfold Draft.definitions
    rw [defined?_withField found]
    by_cases same : other = id
    · subst same
      simp [found, Transcript.definitions]
    · simp [same, Transcript.definitions]
  · intro other
    unfold Draft.fieldsOf
    rw [defined?_withField found, fields_withField]
    by_cases same : other = id
    · subst same
      rw [if_pos rfl, found]
      simp only [Option.elim_some, List.map_append]
      rw [map_getElem?_append (coherent.classes found)]
      simp [Transcript.fieldCalls]
    · have apart : id ≠ other := fun equal => same equal.symm
      rw [if_neg same]
      cases defined : draft.defined? other with
      | none => simp [Transcript.fieldCalls, apart]
      | some value =>
          simp only [Option.elim_some]
          rw [map_getElem?_append (coherent.classes defined)]
          simp [Transcript.fieldCalls, apart]
  · intro other
    unfold Draft.supertypes
    rw [defined?_withField found]
    by_cases same : other = id
    · subst same
      simp [found, Transcript.supertypeCalls, List.removeAll]
    · simp [same, Transcript.supertypeCalls, List.removeAll]

theorem newSupertype
    (follows : draft.Follows transcript)
    {id supertype : ClassId}
    {owner : Class}
    (found : draft.defined? id = some owner)
    (fresh : supertype ∉ owner.supertypes) :
    (draft.put id { owner with supertypes := owner.supertypes ++ [supertype] }).Follows
      (transcript ++ [⟨.addSupertype id supertype, .done⟩]) := by
  refine follows.extend List.prefix_rfl (by simp [Transcript.packageCalls]) ?_ ?_ ?_
  · intro other
    unfold Draft.definitions
    rw [defined?_put_of_defined found]
    by_cases same : other = id
    · subst same
      simp [found, Transcript.definitions]
    · simp [same, Transcript.definitions]
  · intro other
    unfold Draft.fieldsOf
    rw [defined?_put_of_defined found, fields_put]
    by_cases same : other = id
    · subst same
      simp [found, Transcript.fieldCalls]
    · simp [same, Transcript.fieldCalls]
  · intro other
    unfold Draft.supertypes
    rw [defined?_put_of_defined found]
    by_cases same : other = id
    · subst same
      simp [found, Transcript.supertypeCalls, List.removeAll, fresh, List.eraseDups_cons]
    · have apart : id ≠ other := fun equal => same equal.symm
      simp [same, apart, Transcript.supertypeCalls, List.removeAll]

/-- Every step keeps a draft in agreement with its transcript. -/
theorem step
    (follows : draft.Follows transcript)
    (coherent : draft.Coherent)
    {operation : Operation}
    {answer : Answer}
    (step : Step draft operation answer next) :
    next.Follows (transcript ++ [⟨operation, answer⟩]) := by
  cases step with
  | failed operation error =>
      refine follows.keep (fun _ => rfl) rfl List.prefix_rfl ?_ ?_ ?_ ?_
      · cases operation <;> simp [Transcript.packageCalls]
      all_goals cases operation <;> exact fun _ => rfl
  | typeOf id type typed =>
      refine follows.keep (fun _ => rfl) rfl List.prefix_rfl ?_ (fun _ => rfl) (fun _ => rfl)
        fun _ => rfl
      simp [Transcript.packageCalls]
  | knownPackage name id known =>
      refine follows.keep (fun _ => rfl) rfl List.prefix_rfl ?_ (fun _ => rfl) (fun _ => rfl)
        fun _ => rfl
      simp [Transcript.packageCalls, known]
  | newPackage name fresh =>
      refine follows.keep (fun _ => rfl) rfl (List.prefix_append _ _) ?_ (fun _ => rfl)
        (fun _ => rfl) fun _ => rfl
      simp [Transcript.packageCalls, withPackage]
  | reserve =>
      have sameClasses : ∀ id, (draft.withClass none).defined? id = draft.defined? id := by
        intro id
        rw [defined?_withClass]
        split
        next isLast => simp [defined?, isLast]
        next => rfl
      refine follows.keep sameClasses rfl List.prefix_rfl ?_ (fun _ => rfl) (fun _ => rfl)
        fun _ => rfl
      simp [Transcript.packageCalls]
  | define id name package enclosing reserved =>
      have bound := (List.getElem?_eq_some_iff.1 reserved).1
      have undefined : draft.defined? id = none := by simp [defined?, reserved]
      refine follows.define name package enclosing undefined (fun other => ?_) rfl rfl ?_ ?_ ?_ ?_
      · rw [defined?_put]
        simp [bound]
      · intro other
        by_cases same : id = other <;> simp [Transcript.definitions, same]
      all_goals simp [Transcript.packageCalls, Transcript.fieldCalls, Transcript.supertypeCalls]
  | addClass name package enclosing =>
      have undefined : draft.defined? ⟨draft.classes.length⟩ = none := by simp [defined?]
      refine follows.define name package enclosing undefined (fun other => ?_) rfl rfl ?_ ?_ ?_ ?_
      · rw [defined?_withClass]
        by_cases isLast : other.index = draft.classes.length
        · have same : other = ⟨draft.classes.length⟩ := ClassId.eq_of_index_eq isLast
          rw [if_pos isLast, if_pos same]
        · have apart : other ≠ ⟨draft.classes.length⟩ := fun same => isLast (by rw [same])
          rw [if_neg isLast, if_neg apart]
      · intro other
        by_cases same : ⟨draft.classes.length⟩ = other <;> simp [Transcript.definitions, same]
      all_goals simp [Transcript.packageCalls, Transcript.fieldCalls, Transcript.supertypeCalls]
  | addField id name type owner found fresh => exact follows.addField coherent found name type
  | knownSupertype id supertype owner found known =>
      refine follows.extend List.prefix_rfl ?_ ?_ ?_ ?_
      · simp [Transcript.packageCalls]
      · simp [Transcript.definitions]
      · simp [Transcript.fieldCalls]
      · intro other
        by_cases same : id = other
        · subst same
          simp [Transcript.supertypeCalls, List.removeAll, Draft.supertypes, found, known]
        · simp [Transcript.supertypeCalls, List.removeAll, same]
  | newSupertype id supertype owner found fresh => exact follows.newSupertype found fresh

end Follows

end Draft

/-- A draft agrees with the transcript that built it. -/
theorem Built.follows
    {transcript : Transcript}
    {draft : Draft}
    (built : Built transcript draft) :
    draft.Follows transcript := by
  induction built with
  | empty =>
      exact {
        definitions := fun _ => rfl
        fields := fun _ => rfl
        supertypes := fun _ => rfl
        packages := nofun }
  | perform built operation given inductionHypothesis =>
      exact inductionHypothesis.step built.coherent (Draft.perform_step _ operation)

/-- A package that was given out was asked for by a name. -/
theorem Built.exists_packageCall
    {transcript : Transcript}
    {draft : Draft}
    (built : Built transcript draft)
    {id : PackageId}
    (given : transcript.Gives (.ofPackage id)) :
    ∃ name, (name, id) ∈ transcript.packageCalls := by
  induction built with
  | empty =>
      obtain ⟨entry, member, _⟩ := given
      exact absurd member List.not_mem_nil
  | @perform transcript draft built operation handles inductionHypothesis =>
      simp only [Transcript.packageCalls_append, List.mem_append]
      obtain ⟨entry, member, answered⟩ := given
      rw [List.mem_append, List.mem_singleton] at member
      rcases member with earlier | rfl
      · obtain ⟨name, called⟩ := inductionHypothesis ⟨entry, earlier, answered⟩
        exact ⟨name, .inl called⟩
      · have step := draft.perform_step operation
        rw [show (draft.perform operation).1 = .handle (.ofPackage id) from answered] at step ⊢
        obtain ⟨name, rfl⟩ := step.package_of_given
        exact ⟨name, .inr (by simp [Transcript.packageCalls])⟩

/-! ## Outlines of drafts -/

namespace Draft

variable {draft : Draft}

theorem mem_nestedIn
    {outer inner : ClassId} :
    inner ∈ draft.nestedIn outer ↔
      inner ∈ draft.classIds ∧ (draft.defined? inner).bind Class.enclosing = some outer := by
  simp [nestedIn]

theorem nestedIn_pairwise
    (draft : Draft)
    (outer : ClassId) :
    (draft.nestedIn outer).Pairwise fun first second => first.index < second.index := by
  refine List.Pairwise.filter _ ?_
  rw [classIds, List.pairwise_map]
  exact List.pairwise_lt_range

theorem Valid.enclosing?_outlineWith
    (valid : draft.Valid)
    (types : List TypeRef)
    (id : ClassId) :
    (draft.outlineWith types).enclosing? id = (draft.defined? id).bind Class.enclosing := by
  unfold Outline.enclosing?
  rw [valid.class?_outlineWith]
  cases draft.defined? id <;> rfl

theorem Valid.packageNameOf?_outlineWith
    (valid : draft.Valid)
    (types : List TypeRef)
    (id : ClassId) :
    (draft.outlineWith types).packageNameOf? id =
      (draft.defined? id).bind fun found => draft.packages[found.package.index]? := by
  unfold Outline.packageNameOf?
  rw [valid.class?_outlineWith]
  cases draft.defined? id <;> rfl

/-- The names of the classes through the classes around them are those that they have in the draft. -/
theorem Valid.dottedName_outlineWith
    (valid : draft.Valid)
    (types : List TypeRef)
    {id : ClassId}
    {name : String} :
    DottedName (draft.outlineWith types).class? id name ↔ DottedName draft.defined? id name := by
  have inDraft : ∀ {id image}, (draft.outlineWith types).class? id = some image →
      ∃ found, draft.defined? id = some found ∧ found.name = image.name ∧
        found.enclosing = image.enclosing.map fun outer => outer := by
    intro id image seen
    rw [valid.class?_outlineWith] at seen
    obtain ⟨found, defined, rfl⟩ := Option.map_eq_some_iff.1 seen
    exact ⟨found, defined, rfl, by simp⟩
  have inOutline : ∀ {id found}, draft.defined? id = some found →
      ∃ image, (draft.outlineWith types).class? id = some image ∧ image.name = found.name ∧
        image.enclosing = found.enclosing.map fun outer => outer := fun defined =>
    ⟨_, valid.class?_of_defined types defined, rfl, by simp⟩
  exact ⟨fun named => named.map inDraft, fun named => named.map inOutline⟩

/-- The types of a draft, seen from the outline. -/
theorem Valid.hasType_iff_outlineWith
    (valid : draft.Valid)
    (types : List TypeRef)
    {id : ClassId}
    {type : TypeRef} :
    draft.HasType id type ↔
      ∃ package name, (draft.outlineWith types).packageNameOf? id = some package ∧
        DottedName (draft.outlineWith types).class? id name ∧ type = .reference package name := by
  simp only [valid.packageNameOf?_outlineWith, valid.dottedName_outlineWith, Option.bind_eq_some_iff]
  constructor
  · rintro ⟨found, name, package, defined, named, packaged, same⟩
    exact ⟨package, name, ⟨found, defined, packaged⟩, named, same⟩
  · rintro ⟨package, name, ⟨found, defined, packaged⟩, named, same⟩
    exact ⟨found, name, package, defined, named, packaged, same⟩

/-- Every class of the outline was defined in the draft. -/
theorem Valid.exists_defined
    (valid : draft.Valid)
    (types : List TypeRef)
    {id : ClassId}
    (isClass : id ∈ (draft.outlineWith types).classIds) :
    ∃ found, draft.defined? id = some found ∧
      (draft.outlineWith types).class? id = some { found with nested := draft.nestedIn id } := by
  rw [valid.classIds_outlineWith] at isClass
  obtain ⟨found, defined⟩ := Option.isSome_iff_exists.1 (valid.defined id isClass)
  exact ⟨found, defined, valid.class?_of_defined types defined⟩

/-- The only class with a field is the owner that the field itself names. -/
theorem Valid.existsUnique_owner
    (valid : draft.Valid)
    (types : List TypeRef)
    (coherent : draft.Coherent)
    {field : FieldId}
    {entry : Field}
    (isField : draft.fields[field.index]? = some entry) :
    ∃! id, id ∈ (draft.outlineWith types).classIds ∧
      ∃ found, (draft.outlineWith types).class? id = some found ∧ field ∈ found.fields := by
  obtain ⟨found, defined, member⟩ := coherent.owned isField
  refine ⟨entry.owner, ⟨?_, _, valid.class?_of_defined types defined, member⟩, ?_⟩
  · rw [valid.classIds_outlineWith]
    exact Draft.mem_classIds.2 (index_lt_of_defined defined)
  · rintro other ⟨isClass, found, seen, member⟩
    obtain ⟨value, defined, valueSeen⟩ := valid.exists_defined types isClass
    obtain rfl := Option.some.inj (valueSeen.symm.trans seen)
    obtain ⟨same, isSame, owner⟩ := (coherent.classes defined).owns field member
    obtain rfl := Option.some.inj (isSame.symm.trans isField)
    exact owner.symm

end Draft

/-- The outline of a valid draft records the transcript that built the draft. -/
theorem Built.records
    {transcript : Transcript}
    {draft : Draft}
    (built : Built transcript draft)
    (valid : draft.Valid)
    {types : List TypeRef}
    (typed : List.Forall₂ draft.HasType draft.classIds types) :
    (draft.outlineWith types).Records transcript := by
  have coherent := built.coherent
  have follows := built.follows
  constructor
  case mem_packages =>
    exact fun package => (built.gives_iff_holds (.ofPackage package)).symm
  case mem_classes =>
    intro id
    rw [valid.classIds_outlineWith, Draft.mem_classIds]
    exact (built.gives_iff_holds (.ofClass id)).symm
  case mem_fields =>
    exact fun field => (built.gives_iff_holds (.ofField field)).symm
  case definition =>
    intro id isClass
    obtain ⟨found, defined, seen⟩ := valid.exists_defined types isClass
    refine ⟨_, seen, ?_⟩
    rw [← follows.definitions, Draft.definitions, defined]
    rfl
  case fields =>
    intro id isClass
    obtain ⟨found, defined, seen⟩ := valid.exists_defined types isClass
    refine ⟨_, seen, ?_⟩
    rw [← follows.fields, Draft.fieldsOf, defined]
    rfl
  case names =>
    intro id isClass
    obtain ⟨found, defined, seen⟩ := valid.exists_defined types isClass
    unfold Outline.fieldsOf
    rw [seen]
    exact (coherent.classes defined).names_nodup
  case owner =>
    intro field bound
    exact valid.existsUnique_owner types coherent (List.getElem?_eq_getElem bound)
  case once =>
    intro id isClass found seen
    obtain ⟨value, defined, valueSeen⟩ := valid.exists_defined types isClass
    rw [seen, Option.some.injEq] at valueSeen
    rw [valueSeen]
    exact (coherent.classes defined).fields_nodup
  case supertypes =>
    intro id isClass
    obtain ⟨found, defined, seen⟩ := valid.exists_defined types isClass
    rw [← follows.supertypes, Draft.supertypes, Outline.supertypes, defined, seen]
    rfl
  case mem_nested =>
    intro id isClass inner
    obtain ⟨found, defined, seen⟩ := valid.exists_defined types isClass
    rw [valid.enclosing?_outlineWith, valid.classIds_outlineWith, Outline.nested, seen]
    exact Draft.mem_nestedIn
  case nested_sorted =>
    intro id isClass
    obtain ⟨found, defined, seen⟩ := valid.exists_defined types isClass
    rw [Outline.nested, seen]
    exact draft.nestedIn_pairwise id
  case package =>
    intro id name
    refine ⟨fun isName => ?_, follows.packages (name, id)⟩
    have holds : draft.Holds (.ofPackage id) := (List.getElem?_eq_some_iff.1 isName).1
    obtain ⟨asked, called⟩ := built.exists_packageCall ((built.gives_iff_holds _).2 holds)
    have isAsked : some asked = some name := (follows.packages _ called).symm.trans isName
    rwa [Option.some.inj isAsked] at called
  case packages =>
    intro first second firstBound secondBound
    refine ⟨fun same => same ▸ rfl, fun same => ?_⟩
    have indices := (List.getElem?_inj firstBound coherent.packages_nodup).1 same
    cases first
    cases second
    exact congrArg PackageId.mk indices
  case typed =>
    intro id type
    rw [← valid.hasType_iff_outlineWith types]
    exact Draft.hasType_iff_getElem? typed

/-! ## What a record determines -/

instance : Std.Asymm fun first second : ClassId => first.index < second.index :=
  ⟨fun _ _ => Nat.lt_asymm⟩

namespace Outline

variable {outline : Outline}

theorem mem_classIds
    {id : ClassId} :
    id ∈ outline.classIds ↔ id.index < outline.classes.length := by
  simp only [classIds, List.mem_map, List.mem_range]
  constructor
  · rintro ⟨index, bound, rfl⟩
    exact bound
  · intro bound
    exact ⟨id.index, bound, rfl⟩

theorem mem_classIds_of_class?
    {id : ClassId}
    {found : Class}
    (isFound : outline.class? id = some found) :
    id ∈ outline.classIds := by
  apply mem_classIds.2
  by_contra outside
  unfold class? at isFound
  rw [List.getElem?_eq_none (by omega)] at isFound
  cases isFound

theorem exists_class?
    {id : ClassId}
    (isClass : id ∈ outline.classIds) :
    ∃ found, outline.class? id = some found :=
  ⟨_, List.getElem?_eq_getElem (mem_classIds.1 isClass)⟩

namespace Records

variable {other : Outline} {transcript : Transcript}

theorem definitions_of_class?
    (records : outline.Records transcript)
    {id : ClassId}
    {found : Class}
    (isFound : outline.class? id = some found) :
    transcript.definitions id = [(found.name, found.package, found.enclosing)] := by
  obtain ⟨same, isSame, definition⟩ := records.definition id (mem_classIds_of_class? isFound)
  obtain rfl : found = same := Option.some.inj (isFound.symm.trans isSame)
  exact definition

theorem fields_of_class?
    (records : outline.Records transcript)
    {id : ClassId}
    {found : Class}
    (isFound : outline.class? id = some found) :
    found.fields.map (fun field => (field, outline.field? field)) =
      (transcript.fieldCalls id).map fun call => (call.1, some call.2) := by
  obtain ⟨same, isSame, calls⟩ := records.fields id (mem_classIds_of_class? isFound)
  obtain rfl : found = same := Option.some.inj (isFound.symm.trans isSame)
  exact calls

/-- A class of one of two outlines that record the same is a class of the other. -/
theorem exists_image
    (records : outline.Records transcript)
    (otherRecords : other.Records transcript)
    {id : ClassId}
    {found : Class}
    (isFound : outline.class? id = some found) :
    ∃ image, other.class? id = some image :=
  exists_class? ((otherRecords.mem_classes id).2
    ((records.mem_classes id).1 (mem_classIds_of_class? isFound)))

/-- The two classes have the same definition. -/
theorem definition_eq
    (records : outline.Records transcript)
    (otherRecords : other.Records transcript)
    {id : ClassId}
    {found image : Class}
    (isFound : outline.class? id = some found)
    (isImage : other.class? id = some image) :
    found.name = image.name ∧ found.package = image.package ∧ found.enclosing = image.enclosing := by
  have definition := records.definitions_of_class? isFound
  simpa [definition] using otherRecords.definitions_of_class? isImage

theorem enclosing?_of_enclosing?
    (records : outline.Records transcript)
    (otherRecords : other.Records transcript)
    {inner outer : ClassId}
    (enclosed : outline.enclosing? inner = some outer) :
    other.enclosing? inner = some outer := by
  obtain ⟨found, isFound, isAround⟩ := Option.bind_eq_some_iff.1 enclosed
  obtain ⟨image, isImage⟩ := records.exists_image otherRecords isFound
  obtain ⟨_, _, enclosing⟩ := records.definition_eq otherRecords isFound isImage
  rw [enclosing?, isImage]
  exact enclosing.symm.trans isAround

/-- The two classes have the same fields, and the outlines have the same under their handles. -/
theorem fields_eq
    (records : outline.Records transcript)
    (otherRecords : other.Records transcript)
    {id : ClassId}
    {found image : Class}
    (isFound : outline.class? id = some found)
    (isImage : other.class? id = some image) :
    found.fields = image.fields ∧
      ∀ field ∈ found.fields, outline.field? field = other.field? field := by
  have paired :=
    (records.fields_of_class? isFound).trans (otherRecords.fields_of_class? isImage).symm
  have handles : found.fields = image.fields := by
    simpa [Function.comp_def] using congrArg (List.map Prod.fst) paired
  rw [← handles] at paired
  exact ⟨handles, fun field member => (Prod.mk.inj (List.map_inj_left.1 paired field member)).2⟩

theorem nested_eq
    (records : outline.Records transcript)
    (otherRecords : other.Records transcript)
    {id : ClassId}
    (isClass : id ∈ outline.classIds)
    (isOther : id ∈ other.classIds) :
    outline.nested id = other.nested id := by
  apply (records.nested_sorted id isClass).eq_of_mem_iff (otherRecords.nested_sorted id isOther)
  intro inner
  rw [records.mem_nested id isClass, otherRecords.mem_nested id isOther, records.mem_classes,
    otherRecords.mem_classes]
  have enclosed : outline.enclosing? inner = some id ↔ other.enclosing? inner = some id :=
    ⟨records.enclosing?_of_enclosing? otherRecords, otherRecords.enclosing?_of_enclosing? records⟩
  rw [enclosed]

theorem class?_of_class?
    (records : outline.Records transcript)
    (otherRecords : other.Records transcript)
    {id : ClassId}
    {found : Class}
    (isFound : outline.class? id = some found) :
    other.class? id = some found := by
  obtain ⟨image, isImage⟩ := records.exists_image otherRecords isFound
  have isClass := mem_classIds_of_class? isFound
  have isOther := mem_classIds_of_class? isImage
  obtain ⟨name, package, enclosing⟩ := records.definition_eq otherRecords isFound isImage
  obtain ⟨fields, _⟩ := records.fields_eq otherRecords isFound isImage
  have supertypes : outline.supertypes id = other.supertypes id :=
    (records.supertypes id isClass).trans (otherRecords.supertypes id isOther).symm
  have nested := records.nested_eq otherRecords isClass isOther
  simp only [Outline.supertypes, Outline.nested, isFound, isImage, Option.elim_some]
    at supertypes nested
  cases found
  cases image
  simp_all

theorem field?_of_field?
    (records : outline.Records transcript)
    (otherRecords : other.Records transcript)
    {field : FieldId}
    {entry : Field}
    (isField : outline.field? field = some entry) :
    other.field? field = some entry := by
  have bound : field.index < outline.fields.length := (List.getElem?_eq_some_iff.1 isField).1
  obtain ⟨id, ⟨_, found, isFound, member⟩, _⟩ := records.owner field bound
  have isImage := records.class?_of_class? otherRecords isFound
  rw [← (records.fields_eq otherRecords isFound isImage).2 field member]
  exact isField

/-- An outline that records the same transcript is the same outline. -/
theorem unique
    (records : outline.Records transcript)
    (otherRecords : other.Records transcript) :
    other = outline := by
  have packages : other.package? = outline.package? := by
    funext id
    apply Option.ext
    intro name
    rw [records.package, otherRecords.package]
  have classes : other.class? = outline.class? := by
    funext id
    apply Option.ext
    exact fun found => ⟨otherRecords.class?_of_class? records, records.class?_of_class? otherRecords⟩
  have fields : other.field? = outline.field? := by
    funext field
    apply Option.ext
    exact fun entry => ⟨otherRecords.field?_of_field? records, records.field?_of_field? otherRecords⟩
  have types : other.typeOf? = outline.typeOf? := by
    funext id
    apply Option.ext
    intro type
    rw [records.typed, otherRecords.typed, classes]
    simp only [packageNameOf?, classes, packages]
  cases outline
  cases other
  congr
  · exact List.ext_getElem? fun index => congrFun packages ⟨index⟩
  · exact List.ext_getElem? fun index => congrFun classes ⟨index⟩
  · exact List.ext_getElem? fun index => congrFun fields ⟨index⟩
  · exact List.ext_getElem? fun index => congrFun types ⟨index⟩

end Records

end Outline

/-- The outline that is made of a draft records the transcript of the draft, and it is the only outline
that does. -/
theorem Built.finish_records
    {transcript : Transcript}
    {draft : Draft}
    {outline : Outline}
    (built : Built transcript draft)
    (finished : draft.finish = .ok outline) :
    outline.Records transcript ∧ ∀ other : Outline, other.Records transcript → other = outline := by
  obtain ⟨valid, types, typed, rfl⟩ := built.coherent.valid_of_finish finished
  have records := built.records valid typed
  exact ⟨records, fun other otherRecords => records.unique otherRecords⟩

theorem diamond_records :
    ∃ transcript draft outline, diamond.foldlM carryOut ([], .empty) = some (transcript, draft) ∧
      draft.finish = .ok outline ∧
      (outline.Records transcript ∧
        ∀ other : Outline, other.Records transcript → other = outline) ∧
      transcript.supertypeCalls ⟨2⟩ = [⟨0⟩, ⟨1⟩] ∧ outline.nested ⟨0⟩ = [⟨2⟩] := by
  refine ⟨_, _, _, rfl, rfl, ?_, rfl, rfl⟩
  exact Built.finish_records (built_iff_foldlM.2 ⟨diamond, rfl⟩) rfl

end SchemaBinding
