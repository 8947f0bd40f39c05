import SchemaBinding.Outline.Signature
import SchemaBinding.Proofs.Record

/-!
# Finished outlines

What holds of every outline that was made of a draft, in terms of the outline alone: which classes
there are around and inside a class, and that its type tells it apart from all other classes.
-/

namespace SchemaBinding
namespace Outline

/-- Whether an outline was made of a draft that was built with its own handles. -/
def Finished (outline : Outline) : Prop :=
  ∃ transcript draft, Built transcript draft ∧ draft.finish = .ok outline

/-- The outline that a script leads to, if it uses its own handles only and leads to one. -/
def ofScript (operations : List Operation) : Option Outline :=
  (operations.foldlM carryOut ([], .empty)).bind fun state => state.2.finish.toOption

theorem finished_iff_ofScript
    {outline : Outline} :
    outline.Finished ↔ ∃ operations, ofScript operations = some outline := by
  have result : ∀ {draft : Draft}, draft.finish.toOption = some outline ↔
      draft.finish = .ok outline := by
    intro draft
    cases draft.finish <;> simp [Except.toOption]
  constructor
  · rintro ⟨transcript, draft, built, finished⟩
    obtain ⟨operations, carried⟩ := built_iff_foldlM.1 built
    refine ⟨operations, ?_⟩
    rw [ofScript, carried]
    exact result.2 finished
  · rintro ⟨operations, scripted⟩
    obtain ⟨⟨transcript, draft⟩, carried, finished⟩ := Option.bind_eq_some_iff.1 scripted
    exact ⟨transcript, draft, built_iff_foldlM.2 ⟨operations, carried⟩, result.1 finished⟩

/-- What holds of finished outlines. -/
structure WellFormed (outline : Outline) : Prop where
  typed : ∀ id ∈ outline.classIds, ∃ package name, outline.packageNameOf? id = some package ∧
    DottedName outline.class? id name ∧ outline.typeOf? id = some (.reference package name)
  distinct : ∀ {first second type}, outline.typeOf? first = some type →
    outline.typeOf? second = some type → first = second
  enclosing_mem : ∀ {inner outer}, outline.enclosing? inner = some outer → outer ∈ outline.classIds
  keepsPackage : ∀ {inner outer}, outline.enclosing? inner = some outer →
    outline.packageNameOf? inner = outline.packageNameOf? outer
  mem_nested : ∀ {outer inner}, inner ∈ outline.nested outer ↔ outline.enclosing? inner = some outer
  nested_sorted : ∀ outer, (outline.nested outer).Pairwise fun first second =>
    first.index < second.index
  supertype_mem : ∀ {id supertype}, supertype ∈ outline.supertypes id →
    supertype ∈ outline.classIds

variable {outline : Outline}

theorem nodup_classIds (outline : Outline) : outline.classIds.Nodup :=
  List.nodup_range.map fun _ _ => congrArg ClassId.index

theorem classIds_sorted
    (outline : Outline) :
    outline.classIds.Pairwise fun first second => first.index < second.index := by
  rw [classIds, List.pairwise_map]
  exact List.pairwise_lt_range

theorem supertypes_of_class?
    {id : ClassId}
    {found : Class}
    (isFound : outline.class? id = some found) :
    outline.supertypes id = found.supertypes := by
  rw [supertypes, isFound]
  rfl

theorem nested_of_class?
    {id : ClassId}
    {found : Class}
    (isFound : outline.class? id = some found) :
    outline.nested id = found.nested := by
  rw [nested, isFound]
  rfl

theorem fieldsOf_of_class?
    {id : ClassId}
    {found : Class}
    (isFound : outline.class? id = some found) :
    outline.fieldsOf id = found.fields.filterMap outline.field? := by
  rw [fieldsOf, isFound]
  rfl

theorem mem_classIds_of_enclosing?
    {inner outer : ClassId}
    (enclosed : outline.enclosing? inner = some outer) :
    inner ∈ outline.classIds := by
  obtain ⟨found, isFound, _⟩ := Option.bind_eq_some_iff.1 enclosed
  exact mem_classIds_of_class? isFound

theorem WellFormed.isSome_typeOf?
    (formed : outline.WellFormed)
    {id : ClassId}
    (isClass : id ∈ outline.classIds) :
    (outline.typeOf? id).isSome := by
  obtain ⟨_, _, _, _, typed⟩ := formed.typed id isClass
  rw [typed]
  rfl

theorem WellFormed.isSome_packageNameOf?
    (formed : outline.WellFormed)
    {id : ClassId}
    (isClass : id ∈ outline.classIds) :
    (outline.packageNameOf? id).isSome := by
  obtain ⟨_, _, packaged, _⟩ := formed.typed id isClass
  rw [packaged]
  rfl

/-- The classes around a class are fewer than the classes of the outline. -/
theorem WellFormed.length_around_lt
    (wellFormed : outline.WellFormed)
    {id : ClassId}
    {rest : List ClassId}
    (isClass : id ∈ outline.classIds)
    (around : Around outline.class? id rest) :
    rest.length < outline.classes.length := by
  apply around.length_lt _ (mem_classIds.1 isClass)
  exact fun enclosed => mem_classIds.1 (wellFormed.enclosing_mem enclosed)

/-- All supertypes of a class have types. -/
theorem WellFormed.map_typeOf?_supertypes
    (wellFormed : outline.WellFormed)
    (id : ClassId) :
    (outline.supertypes id).map outline.typeOf? =
      ((outline.supertypes id).filterMap outline.typeOf?).map some := by
  rw [List.map_filterMap_some_eq_filter_map_isSome]
  symm
  apply List.filter_eq_self.2
  intro type member
  obtain ⟨supertype, isSupertype, rfl⟩ := List.mem_map.1 member
  exact wellFormed.isSome_typeOf? (wellFormed.supertype_mem isSupertype)

end Outline

namespace Draft

variable {draft : Draft}

theorem Valid.supertypes_outlineWith
    (valid : draft.Valid)
    (types : List TypeRef)
    (id : ClassId) :
    (draft.outlineWith types).supertypes id = (draft.defined? id).elim [] Class.supertypes := by
  unfold Outline.supertypes
  rw [valid.class?_outlineWith]
  cases draft.defined? id <;> rfl

theorem Valid.nested_outlineWith
    (valid : draft.Valid)
    (coherent : draft.Coherent)
    (types : List TypeRef)
    (outer : ClassId) :
    (draft.outlineWith types).nested outer = draft.nestedIn outer := by
  unfold Outline.nested
  rw [valid.class?_outlineWith]
  cases outerDefined : draft.defined? outer with
  | some found => rfl
  | none =>
      symm
      apply List.eq_nil_iff_forall_not_mem.2
      intro inner member
      obtain ⟨_, enclosed⟩ := mem_nestedIn.1 member
      have defined := valid.defined outer (coherent.enclosing_mem enclosed)
      rw [outerDefined] at defined
      cases defined

/-- The outline of a valid draft is well formed. -/
theorem Valid.wellFormed
    (valid : draft.Valid)
    (coherent : draft.Coherent)
    {types : List TypeRef}
    (typed : List.Forall₂ draft.HasType draft.classIds types) :
    (draft.outlineWith types).WellFormed := by
  have typeOf?_iff : ∀ id type, (draft.outlineWith types).typeOf? id = some type ↔
      draft.HasType id type := fun _ _ => hasType_iff_getElem? typed
  have isDefined : ∀ id ∈ draft.classIds, ∃ found, draft.defined? id = some found := fun id isClass =>
    Option.isSome_iff_exists.1 (valid.defined id isClass)
  constructor
  case typed =>
    intro id isClass
    rw [valid.classIds_outlineWith] at isClass
    have bound : id.index < types.length := by
      rw [← typed.length_eq, length_classIds]
      exact Draft.mem_classIds.1 isClass
    have lookup : types[id.index]? = some types[id.index] := List.getElem?_eq_getElem bound
    obtain ⟨package, name, packaged, named, same⟩ :=
      (valid.hasType_iff_outlineWith types).1 ((typeOf?_iff id _).1 lookup)
    exact ⟨package, name, packaged, named, same ▸ lookup⟩
  case distinct =>
    intro first second type firstTyped secondTyped
    exact valid.distinct first second type ((typeOf?_iff _ _).1 firstTyped)
      ((typeOf?_iff _ _).1 secondTyped)
  case enclosing_mem =>
    intro inner outer enclosed
    rw [valid.enclosing?_outlineWith] at enclosed
    rw [valid.classIds_outlineWith]
    exact coherent.enclosing_mem enclosed
  case keepsPackage =>
    intro inner outer enclosed
    rw [valid.enclosing?_outlineWith] at enclosed
    obtain ⟨around, aroundDefined⟩ := isDefined outer (coherent.enclosing_mem enclosed)
    obtain ⟨found, defined, isAround⟩ := Option.bind_eq_some_iff.1 enclosed
    have isClass : inner ∈ draft.classIds := Draft.mem_classIds.2 (index_lt_of_defined defined)
    have same := valid.keepsPackage inner isClass found outer around defined isAround aroundDefined
    rw [valid.packageNameOf?_outlineWith, valid.packageNameOf?_outlineWith, defined, aroundDefined]
    simp only [Option.bind_some, same]
  case mem_nested =>
    intro outer inner
    rw [valid.nested_outlineWith coherent, valid.enclosing?_outlineWith, mem_nestedIn]
    constructor
    · exact fun member => member.2
    · intro enclosed
      obtain ⟨found, defined, _⟩ := Option.bind_eq_some_iff.1 enclosed
      exact ⟨Draft.mem_classIds.2 (index_lt_of_defined defined), enclosed⟩
  case nested_sorted =>
    intro outer
    rw [valid.nested_outlineWith coherent]
    exact draft.nestedIn_pairwise outer
  case supertype_mem =>
    intro id supertype member
    rw [valid.supertypes_outlineWith] at member
    rw [valid.classIds_outlineWith]
    cases defined : draft.defined? id with
    | none => simp [defined] at member
    | some found =>
        rw [defined] at member
        exact Draft.mem_classIds.2 ((coherent.classes defined).supertype_lt supertype member)

end Draft

/-- Every finished outline is well formed. -/
theorem Outline.Finished.wellFormed
    {outline : Outline}
    (finished : outline.Finished) :
    outline.WellFormed := by
  obtain ⟨transcript, draft, built, result⟩ := finished
  obtain ⟨valid, types, typed, rfl⟩ := built.coherent.valid_of_finish result
  exact valid.wellFormed built.coherent typed

/-- Only classes have types. -/
theorem Outline.Finished.mem_classIds_of_typeOf?
    {outline : Outline}
    (finished : outline.Finished)
    {id : ClassId}
    {type : TypeRef}
    (typed : outline.typeOf? id = some type) :
    id ∈ outline.classIds := by
  obtain ⟨transcript, draft, built, result⟩ := finished
  obtain ⟨valid, types, allTyped, rfl⟩ := built.coherent.valid_of_finish result
  rw [valid.classIds_outlineWith]
  exact ((Draft.hasType_iff_getElem? allTyped).1 typed).mem_classIds

end SchemaBinding
