import Mathlib.Data.List.Nodup
import SchemaBinding.Proofs.Transcript

/-!
# Coherent drafts

What holds of every draft that was built with its own handles: the handles inside it lead somewhere,
packages are told apart by their names, and the fields of the classes are a partition of all fields.
Each step of a draft preserves this.
-/

namespace SchemaBinding
namespace Draft

/-! ## Classes after a step -/

theorem defined?_put
    (draft : Draft)
    (id other : ClassId)
    (value : Class) :
    (draft.put id value).defined? other =
      if other = id ∧ id.index < draft.classes.length then some value
      else draft.defined? other := by
  unfold defined? put
  rw [List.getElem?_set]
  by_cases same : other = id
  · subst same
    by_cases bound : other.index < draft.classes.length
    · simp [bound]
    · simp [bound]
  · have indices : id.index ≠ other.index := fun equal =>
      same (ClassId.eq_of_index_eq equal.symm)
    simp [same, indices]

theorem index_lt_of_defined
    {draft : Draft}
    {id : ClassId}
    {found : Class}
    (defined : draft.defined? id = some found) :
    id.index < draft.classes.length := by
  by_contra bound
  unfold defined? at defined
  rw [List.getElem?_eq_none (Nat.le_of_not_lt bound)] at defined
  exact Option.some_ne_none found defined.symm

theorem defined?_put_of_defined
    {draft : Draft}
    {id : ClassId}
    {found : Class}
    (defined : draft.defined? id = some found)
    (other : ClassId)
    (value : Class) :
    (draft.put id value).defined? other =
      if other = id then some value else draft.defined? other := by
  rw [defined?_put]
  simp [index_lt_of_defined defined]

/-- Putting a class where it already is changes nothing. -/
theorem put_of_defined
    {draft : Draft}
    {id : ClassId}
    {found : Class}
    (defined : draft.defined? id = some found) :
    draft.put id found = draft := by
  have place : draft.classes[id.index]? = some (some found) :=
    Option.join_eq_some_iff.1 defined
  obtain ⟨bound, same⟩ := List.getElem?_eq_some_iff.1 place
  rw [put, ← same, List.set_getElem_self]

theorem defined?_withClass
    (draft : Draft)
    (value : Option Class)
    (id : ClassId) :
    (draft.withClass value).defined? id =
      if id.index = draft.classes.length then value else draft.defined? id := by
  unfold defined? withClass
  by_cases last : id.index = draft.classes.length
  · simp [last]
  · rw [if_neg last, List.getElem?_append]
    by_cases bound : id.index < draft.classes.length
    · simp [bound]
    · have outside : [value][id.index - draft.classes.length]? = none :=
        List.getElem?_eq_none (by simp; omega)
      simp [bound, outside]

theorem defined?_withField
    {draft : Draft}
    {id : ClassId}
    {owner : Class}
    (found : draft.defined? id = some owner)
    (name : String)
    (type : TypeRef)
    (other : ClassId) :
    (draft.withField id owner name type).defined? other =
      if other = id then
        some { owner with fields := owner.fields ++ [⟨draft.fields.length⟩] }
      else draft.defined? other := by
  have shifted :
      ({ draft with fields := draft.fields ++ [⟨name, type, id⟩] } : Draft).defined? id =
        some owner := found
  exact defined?_put_of_defined shifted other _

@[simp] theorem length_classes_put
    (draft : Draft)
    (id : ClassId)
    (value : Class) :
    (draft.put id value).classes.length = draft.classes.length := by
  simp [put]

@[simp] theorem length_classes_withField
    (draft : Draft)
    (id : ClassId)
    (owner : Class)
    (name : String)
    (type : TypeRef) :
    (draft.withField id owner name type).classes.length = draft.classes.length := by
  simp [withField]

@[simp] theorem length_classes_withClass
    (draft : Draft)
    (value : Option Class) :
    (draft.withClass value).classes.length = draft.classes.length + 1 := by
  simp [withClass]

@[simp] theorem fields_put
    (draft : Draft)
    (id : ClassId)
    (value : Class) :
    (draft.put id value).fields = draft.fields := rfl

@[simp] theorem fields_withClass
    (draft : Draft)
    (value : Option Class) :
    (draft.withClass value).fields = draft.fields := rfl

@[simp] theorem fields_withField
    (draft : Draft)
    (id : ClassId)
    (owner : Class)
    (name : String)
    (type : TypeRef) :
    (draft.withField id owner name type).fields = draft.fields ++ [⟨name, type, id⟩] := rfl

/-! ## Growth -/

/-- One draft has come about from another: what there was still has its place. -/
structure Grows (draft next : Draft) : Prop where
  packages : draft.packages <+: next.packages
  classes : draft.classes.length ≤ next.classes.length
  fields : draft.fields <+: next.fields

theorem Grows.refl (draft : Draft) : draft.Grows draft :=
  ⟨List.prefix_rfl, Nat.le_refl _, List.prefix_rfl⟩

theorem Grows.trans
    {draft middle next : Draft}
    (first : draft.Grows middle)
    (second : middle.Grows next) :
    draft.Grows next :=
  ⟨first.packages.trans second.packages, Nat.le_trans first.classes second.classes,
    first.fields.trans second.fields⟩

theorem getElem?_of_prefix
    {Item : Type}
    {earlier later : List Item}
    {index : Nat}
    {item : Item}
    (begins : earlier <+: later)
    (found : earlier[index]? = some item) :
    later[index]? = some item := by
  obtain ⟨rest, rfl⟩ := begins
  rw [List.getElem?_append_left (List.getElem?_eq_some_iff.1 found).1]
  exact found

/-- Nothing is lost in a step. -/
theorem Step.grows
    {draft next : Draft}
    {operation : Operation}
    {answer : Answer}
    (step : Step draft operation answer next) :
    draft.Grows next := by
  cases step with
  | failed | typeOf | knownPackage | knownSupertype => exact .refl draft
  | newPackage => exact ⟨List.prefix_append _ _, Nat.le_refl _, List.prefix_rfl⟩
  | reserve | addClass => exact ⟨List.prefix_rfl, by simp, List.prefix_rfl⟩
  | define | newSupertype => exact ⟨List.prefix_rfl, by simp, List.prefix_rfl⟩
  | addField => exact ⟨List.prefix_rfl, by simp, List.prefix_append _ _⟩

/-- Whether a handle leads somewhere in a draft. -/
def Holds (draft : Draft) : Handle → Prop
  | .ofPackage id => id.index < draft.packages.length
  | .ofClass id => id.index < draft.classes.length
  | .ofField id => id.index < draft.fields.length

theorem Grows.holds
    {draft next : Draft}
    (grows : draft.Grows next)
    {handle : Handle}
    (holds : draft.Holds handle) :
    next.Holds handle := by
  cases handle with
  | ofPackage id => exact Nat.lt_of_lt_of_le holds grows.packages.length_le
  | ofClass id => exact Nat.lt_of_lt_of_le holds grows.classes
  | ofField id => exact Nat.lt_of_lt_of_le holds grows.fields.length_le

/-- A handle that a step gives out leads somewhere. -/
theorem Step.holds
    {draft next : Draft}
    {operation : Operation}
    {handle : Handle}
    (step : Step draft operation (.handle handle) next) :
    next.Holds handle := by
  cases step with
  | knownPackage name id known => exact (List.getElem?_eq_some_iff.1 known).1
  | newPackage => simp [Holds, withPackage]
  | reserve | addClass | addField => simp [Holds]
  | define id name package enclosing reserved =>
      have bound := (List.getElem?_eq_some_iff.1 reserved).1
      simpa [Holds] using bound

/-- Only the question for a package gives out the handle of one. -/
theorem Step.package_of_given
    {draft next : Draft}
    {operation : Operation}
    {id : PackageId}
    (step : Step draft operation (.handle (.ofPackage id)) next) :
    ∃ name, operation = .package name := by
  cases step with
  | knownPackage name | newPackage name => exact ⟨name, rfl⟩

/-- The handles that a step makes were not there before, and it gives them out. -/
theorem Step.gives
    {draft next : Draft}
    {operation : Operation}
    {answer : Answer}
    (step : Step draft operation answer next)
    {handle : Handle}
    (holds : next.Holds handle) :
    draft.Holds handle ∨ answer = .handle handle := by
  cases step with
  | failed | typeOf | knownPackage | knownSupertype => exact .inl holds
  | newPackage =>
      cases handle with
      | ofPackage id =>
          cases id
          simp only [Holds, withPackage, List.length_append, List.length_singleton] at holds ⊢
          grind
      | ofClass | ofField => exact .inl holds
  | reserve | addClass =>
      cases handle with
      | ofClass id =>
          cases id
          simp only [Holds, length_classes_withClass] at holds ⊢
          grind
      | ofPackage | ofField => exact .inl holds
  | define | newSupertype =>
      cases handle with
      | ofClass id => exact .inl (by simpa [Holds] using holds)
      | ofPackage | ofField => exact .inl holds
  | addField =>
      cases handle with
      | ofPackage id => exact .inl holds
      | ofClass id => exact .inl (by simpa [Holds] using holds)
      | ofField id =>
          cases id
          simp only [Holds, fields_withField, List.length_append, List.length_singleton] at holds ⊢
          grind

end Draft

/-- The handles of a draft are those that were given out. -/
theorem Built.gives_iff_holds
    {transcript : Transcript}
    {draft : Draft}
    (built : Built transcript draft)
    (handle : Handle) :
    transcript.Gives handle ↔ draft.Holds handle := by
  induction built with
  | empty => cases handle <;> simp [Transcript.Gives, Draft.Holds, Draft.empty]
  | @perform transcript draft built operation given inductionHypothesis =>
      have step := draft.perform_step operation
      constructor
      · rintro ⟨entry, member, answered⟩
        rw [List.mem_append, List.mem_singleton] at member
        rcases member with earlier | rfl
        · exact step.grows.holds (inductionHypothesis.1 ⟨entry, earlier, answered⟩)
        · rw [show (draft.perform operation).1 = .handle handle from answered] at step
          exact step.holds
      · intro holds
        rcases step.gives holds with earlier | answered
        · obtain ⟨entry, member, answered⟩ := inductionHypothesis.2 earlier
          exact ⟨entry, List.mem_append_left _ member, answered⟩
        · exact ⟨_, List.mem_append_right _ (List.mem_singleton_self _), answered⟩

/-! ## Coherence -/

/-- The fields that a draft has under some of its handles. -/
def Draft.fieldsAt (draft : Draft) (handles : List FieldId) : List Field :=
  handles.filterMap fun field => draft.fields[field.index]?

/-- What a class has to do with the draft that it is in. -/
structure Class.CoherentIn (draft : Draft) (id : ClassId) (found : Class) : Prop where
  package_lt : found.package.index < draft.packages.length
  enclosing_lt : ∀ outer, found.enclosing = some outer → outer.index < draft.classes.length
  supertype_lt : ∀ supertype ∈ found.supertypes, supertype.index < draft.classes.length
  supertypes_nodup : found.supertypes.Nodup
  owns : ∀ field ∈ found.fields, ∃ entry, draft.fields[field.index]? = some entry ∧ entry.owner = id
  fields_nodup : found.fields.Nodup
  names_nodup : ((draft.fieldsAt found.fields).map Field.name).Nodup
  nested_eq : found.nested = []

/-- What holds of drafts that are built with their own handles. -/
structure Draft.Coherent (draft : Draft) : Prop where
  packages_nodup : draft.packages.Nodup
  classes : ∀ {id found}, draft.defined? id = some found → found.CoherentIn draft id
  owned : ∀ {index entry}, draft.fields[index]? = some entry →
    ∃ found, draft.defined? entry.owner = some found ∧ ⟨index⟩ ∈ found.fields

namespace Class.CoherentIn

variable {draft next : Draft} {id : ClassId} {found : Class}

/-- A class without fields and supertypes is coherent if its handles lead somewhere. -/
theorem fresh
    {name : String}
    {package : PackageId}
    {enclosing : Option ClassId}
    (packageHeld : draft.Holds (.ofPackage package))
    (enclosingHeld : ∀ outer ∈ enclosing, draft.Holds (.ofClass outer)) :
    (⟨name, package, enclosing, [], [], []⟩ : Class).CoherentIn draft id where
  package_lt := packageHeld
  enclosing_lt := enclosingHeld
  supertype_lt := nofun
  supertypes_nodup := .nil
  owns := nofun
  fields_nodup := .nil
  names_nodup := .nil
  nested_eq := rfl

theorem fieldsAt_eq_of_grows
    (coherent : found.CoherentIn draft id)
    (grows : draft.Grows next) :
    next.fieldsAt found.fields = draft.fieldsAt found.fields := by
  apply List.filterMap_congr
  intro field member
  obtain ⟨entry, lookup, _⟩ := coherent.owns field member
  rw [lookup]
  exact Draft.getElem?_of_prefix grows.fields lookup

theorem of_grows
    (coherent : found.CoherentIn draft id)
    (grows : draft.Grows next) :
    found.CoherentIn next id where
  package_lt := Nat.lt_of_lt_of_le coherent.package_lt grows.packages.length_le
  enclosing_lt outer around := Nat.lt_of_lt_of_le (coherent.enclosing_lt outer around) grows.classes
  supertype_lt supertype member :=
    Nat.lt_of_lt_of_le (coherent.supertype_lt supertype member) grows.classes
  supertypes_nodup := coherent.supertypes_nodup
  owns field member := by
    obtain ⟨entry, lookup, owner⟩ := coherent.owns field member
    exact ⟨entry, Draft.getElem?_of_prefix grows.fields lookup, owner⟩
  fields_nodup := coherent.fields_nodup
  names_nodup := by
    rw [coherent.fieldsAt_eq_of_grows grows]
    exact coherent.names_nodup
  nested_eq := coherent.nested_eq

/-- A class remains coherent when it is given one more supertype. -/
theorem withSupertype
    (coherent : found.CoherentIn draft id)
    {supertype : ClassId}
    (held : draft.Holds (.ofClass supertype))
    (fresh : supertype ∉ found.supertypes) :
    ({ found with supertypes := found.supertypes ++ [supertype] } : Class).CoherentIn draft id where
  package_lt := coherent.package_lt
  enclosing_lt := coherent.enclosing_lt
  supertype_lt other member := by
    rw [List.mem_append, List.mem_singleton] at member
    rcases member with earlier | rfl
    · exact coherent.supertype_lt other earlier
    · exact held
  supertypes_nodup := by
    rw [List.nodup_append]
    refine ⟨coherent.supertypes_nodup, List.nodup_singleton _, ?_⟩
    intro earlier member other last
    rw [List.mem_singleton] at last
    subst last
    exact fun same => fresh (same ▸ member)
  owns := coherent.owns
  fields_nodup := coherent.fields_nodup
  names_nodup := coherent.names_nodup
  nested_eq := coherent.nested_eq

/-- A new field comes after those that a class has. -/
theorem fieldsAt_withField
    (coherent : found.CoherentIn draft id)
    (name : String)
    (type : TypeRef) :
    (draft.withField id found name type).fieldsAt (found.fields ++ [⟨draft.fields.length⟩]) =
      draft.fieldsAt found.fields ++ [⟨name, type, id⟩] := by
  have before : (draft.withField id found name type).fieldsAt found.fields =
      draft.fieldsAt found.fields :=
    coherent.fieldsAt_eq_of_grows ⟨List.prefix_rfl, by simp, List.prefix_append _ _⟩
  rw [← before]
  simp [Draft.fieldsAt]

/-- A class remains coherent when it is given one more field, of a name that is new to it. -/
theorem withField
    (coherent : found.CoherentIn draft id)
    {name : String}
    {type : TypeRef}
    (fresh : draft.declares found name = false) :
    ({ found with fields := found.fields ++ [⟨draft.fields.length⟩] } : Class).CoherentIn
      (draft.withField id found name type) id where
  package_lt := coherent.package_lt
  enclosing_lt := by simpa using coherent.enclosing_lt
  supertype_lt := by simpa using coherent.supertype_lt
  supertypes_nodup := coherent.supertypes_nodup
  owns field member := by
    rw [List.mem_append, List.mem_singleton] at member
    rcases member with earlier | rfl
    · obtain ⟨entry, lookup, owner⟩ := coherent.owns field earlier
      exact ⟨entry, Draft.getElem?_of_prefix (List.prefix_append _ _) lookup, owner⟩
    · exact ⟨⟨name, type, id⟩, by simp, rfl⟩
  fields_nodup := by
    rw [List.nodup_append]
    refine ⟨coherent.fields_nodup, List.nodup_singleton _, ?_⟩
    intro earlier member last isLast
    rw [List.mem_singleton] at isLast
    subst isLast
    obtain ⟨entry, lookup, _⟩ := coherent.owns earlier member
    have bound := (List.getElem?_eq_some_iff.1 lookup).1
    rintro rfl
    exact Nat.lt_irrefl _ bound
  names_nodup := by
    rw [coherent.fieldsAt_withField name type, List.map_append, List.nodup_append]
    refine ⟨coherent.names_nodup, List.nodup_singleton _, ?_⟩
    intro earlier member last isLast
    simp only [List.map_cons, List.map_nil, List.mem_singleton] at isLast
    subst isLast
    rintro rfl
    simp only [Draft.fieldsAt, List.mem_map, List.mem_filterMap] at member
    obtain ⟨entry, ⟨field, isField, lookup⟩, sameName⟩ := member
    have declared : draft.declares found earlier = true := by
      simp only [Draft.declares, List.any_eq_true]
      exact ⟨field, isField, by simp [lookup, sameName]⟩
    rw [declared] at fresh
    exact Bool.noConfusion fresh
  nested_eq := coherent.nested_eq

end Class.CoherentIn

namespace Draft.Coherent

variable {draft next : Draft}

/-- Setting a class that has no fields yet, or the same ones, keeps a draft coherent. -/
theorem put
    (coherent : draft.Coherent)
    {id : ClassId}
    {value : Class}
    (valueCoherent : value.CoherentIn draft id)
    (keepsFields : ∀ found, draft.defined? id = some found → value.fields = found.fields) :
    (draft.put id value).Coherent where
  packages_nodup := coherent.packages_nodup
  classes := by
    intro other found defined
    have grows : draft.Grows (draft.put id value) := ⟨List.prefix_rfl, by simp, List.prefix_rfl⟩
    rw [defined?_put] at defined
    split at defined
    next isSet =>
      rw [Option.some.injEq] at defined
      rw [← defined, isSet.1]
      exact valueCoherent.of_grows grows
    next => exact (coherent.classes defined).of_grows grows
  owned := by
    intro index entry lookup
    obtain ⟨found, defined, member⟩ := coherent.owned lookup
    rw [defined?_put]
    split
    next isSet =>
      refine ⟨value, rfl, ?_⟩
      rw [keepsFields found (isSet.1 ▸ defined)]
      exact member
    next => exact ⟨found, defined, member⟩

theorem withClass
    (coherent : draft.Coherent)
    {value : Option Class}
    (valueCoherent : ∀ found ∈ value, found.CoherentIn (draft.withClass value)
      ⟨draft.classes.length⟩) :
    (draft.withClass value).Coherent where
  packages_nodup := coherent.packages_nodup
  classes := by
    intro id found defined
    rw [defined?_withClass] at defined
    split at defined
    next isLast =>
      have same : id = ⟨draft.classes.length⟩ := ClassId.eq_of_index_eq isLast
      exact same ▸ valueCoherent found defined
    next => exact (coherent.classes defined).of_grows ⟨List.prefix_rfl, by simp, List.prefix_rfl⟩
  owned := by
    intro index entry lookup
    obtain ⟨found, defined, member⟩ := coherent.owned lookup
    refine ⟨found, ?_, member⟩
    rw [defined?_withClass, if_neg (Nat.ne_of_lt (index_lt_of_defined defined))]
    exact defined

theorem withField
    (coherent : draft.Coherent)
    {id : ClassId}
    {owner : Class}
    {name : String}
    {type : TypeRef}
    (found : draft.defined? id = some owner)
    (fresh : draft.declares owner name = false) :
    (draft.withField id owner name type).Coherent where
  packages_nodup := coherent.packages_nodup
  classes := by
    intro other value defined
    rw [defined?_withField found] at defined
    split at defined
    next isOwner =>
      rw [Option.some.injEq] at defined
      rw [← defined, isOwner]
      exact (coherent.classes found).withField fresh
    next =>
      exact (coherent.classes defined).of_grows
        ⟨List.prefix_rfl, by simp, List.prefix_append _ _⟩
  owned := by
    intro index entry lookup
    rw [fields_withField, List.getElem?_append] at lookup
    simp only [defined?_withField found]
    split at lookup
    next =>
      obtain ⟨value, defined, member⟩ := coherent.owned lookup
      split
      next isOwner =>
        rw [isOwner, found, Option.some.injEq] at defined
        subst defined
        exact ⟨_, rfl, List.mem_append_left _ member⟩
      next => exact ⟨value, defined, member⟩
    next bound =>
      obtain ⟨last, same⟩ := List.getElem?_eq_some_iff.1 lookup
      have isLast : index = draft.fields.length := by
        simp only [List.length_singleton] at last
        omega
      subst isLast
      simp only [Nat.sub_self, List.getElem_cons_zero] at same
      subst same
      exact ⟨_, if_pos rfl, List.mem_append_right _ (List.mem_singleton_self _)⟩

/-- Coherence is preserved by a step whose handles lead somewhere. -/
theorem step
    (coherent : draft.Coherent)
    {operation : Operation}
    {answer : Answer}
    (step : Step draft operation answer next)
    (given : ∀ handle ∈ operation.handles, draft.Holds handle) :
    next.Coherent := by
  cases step with
  | failed | typeOf | knownPackage | knownSupertype => exact coherent
  | newPackage name fresh =>
      exact {
        packages_nodup := by
          simp only [withPackage, List.nodup_append, List.nodup_singleton, true_and]
          refine ⟨coherent.packages_nodup, ?_⟩
          intro earlier member last isLast
          rw [List.mem_singleton] at isLast
          exact fun same => fresh (isLast ▸ same ▸ member)
        classes := fun defined =>
          (coherent.classes defined).of_grows
            ⟨List.prefix_append _ _, Nat.le_refl _, List.prefix_rfl⟩
        owned := coherent.owned }
  | reserve => exact coherent.withClass nofun
  | define id name package enclosing reserved =>
      simp only [Operation.handles, List.forall_mem_cons, List.forall_mem_map,
        Option.mem_toList] at given
      refine coherent.put (.fresh given.2.1 given.2.2) ?_
      intro found defined
      simp [defined?, reserved] at defined
  | addClass name package enclosing =>
      simp only [Operation.handles, List.forall_mem_cons, List.forall_mem_map,
        Option.mem_toList] at given
      refine coherent.withClass ?_
      intro found isNew
      rw [Option.mem_some_iff] at isNew
      subst isNew
      refine .fresh given.1 ?_
      intro outer around
      have held := given.2 outer around
      simp only [Holds, length_classes_withClass] at held ⊢
      omega
  | addField id name type owner found fresh => exact coherent.withField found fresh
  | newSupertype id supertype owner found fresh =>
      simp only [Operation.handles, List.forall_mem_cons] at given
      refine coherent.put ((coherent.classes found).withSupertype given.2.1 fresh) ?_
      intro other defined
      rw [found, Option.some.injEq] at defined
      rw [defined]

end Draft.Coherent

/-- Every draft that is built with its own handles is coherent. -/
theorem Built.coherent
    {transcript : Transcript}
    {draft : Draft}
    (built : Built transcript draft) :
    draft.Coherent := by
  induction built with
  | empty =>
      exact {
        packages_nodup := .nil
        classes := nofun
        owned := nofun }
  | perform built operation given inductionHypothesis =>
      exact inductionHypothesis.step (Draft.perform_step _ operation)
        fun handle member => (built.gives_iff_holds handle).1 (given handle member)

end SchemaBinding
