import Mathlib.Data.Set.Function
import SchemaBinding.Proofs.Arena.Finish
import SchemaBinding.Proofs.Derivations

/-!
# Identity of classes

By what a class is known, while a draft is worked on and in the outline that it becomes.  Operations
only ever add to what a draft says, so that handles, names and types that were given out remain what
they were.  In the outline a class is known by its type as well as by its package and its name
through the classes around it, whatever dots there are in these names: the types of the classes and
the index of their names are two tables that say the same.
-/

namespace SchemaBinding

/-- The class that an operation changes, if there is one that it is given to change. -/
def Operation.subject : Operation → Option ClassId
  | define id _ _ _ => some id
  | addField id _ _ => some id
  | addSupertype id _ => some id
  | package _ => none
  | reserve => none
  | addClass _ _ _ => none
  | typeOf _ => none

/-- Whether a class is what another one was, perhaps with more fields and supertypes after those
that there were. -/
structure Class.Continues (found later : Class) : Prop where
  name_eq : later.name = found.name
  package_eq : later.package = found.package
  enclosing_eq : later.enclosing = found.enclosing
  fields : found.fields <+: later.fields
  supertypes : found.supertypes <+: later.supertypes

namespace Class.Continues

theorem refl (found : Class) : found.Continues found :=
  ⟨rfl, rfl, rfl, List.prefix_rfl, List.prefix_rfl⟩

theorem trans
    {found middle later : Class}
    (first : found.Continues middle)
    (second : middle.Continues later) :
    found.Continues later where
  name_eq := second.name_eq.trans first.name_eq
  package_eq := second.package_eq.trans first.package_eq
  enclosing_eq := second.enclosing_eq.trans first.enclosing_eq
  fields := first.fields.trans second.fields
  supertypes := first.supertypes.trans second.supertypes

end Class.Continues

namespace Draft

/-! ## What operations keep -/

/-- Whether another draft still says all that a draft says. -/
structure Keeps (draft next : Draft) : Prop extends draft.Grows next where
  continues : ∀ {id found}, draft.defined? id = some found →
    ∃ later, next.defined? id = some later ∧ found.Continues later

variable {draft next : Draft}

theorem Keeps.refl (draft : Draft) : draft.Keeps draft :=
  ⟨.refl draft, fun defined => ⟨_, defined, .refl _⟩⟩

theorem Keeps.trans
    {middle : Draft}
    (first : draft.Keeps middle)
    (second : middle.Keeps next) :
    draft.Keeps next := by
  refine ⟨first.toGrows.trans second.toGrows, fun defined => ?_⟩
  obtain ⟨between, betweenDefined, continuesFirst⟩ := first.continues defined
  obtain ⟨later, laterDefined, continuesSecond⟩ := second.continues betweenDefined
  exact ⟨later, laterDefined, continuesFirst.trans continuesSecond⟩

/-- Every step keeps what the draft says. -/
theorem Step.keeps
    {operation : Operation}
    {answer : Answer}
    (step : Step draft operation answer next) :
    draft.Keeps next := by
  refine ⟨step.grows, fun {id found} defined => ?_⟩
  cases step with
  | failed | typeOf | knownPackage | newPackage | knownSupertype =>
      exact ⟨found, defined, .refl found⟩
  | reserve | addClass =>
      refine ⟨found, ?_, .refl found⟩
      rw [defined?_withClass, if_neg (Nat.ne_of_lt (index_lt_of_defined defined))]
      exact defined
  | define place name package enclosing reserved =>
      have undefined : draft.defined? place = none := by simp [defined?, reserved]
      have apart : id ≠ place := by
        rintro rfl
        rw [undefined] at defined
        cases defined
      refine ⟨found, ?_, .refl found⟩
      rw [defined?_put, if_neg fun isSet => apart isSet.1]
      exact defined
  | addField owned name type owner isOwner fresh =>
      rw [defined?_withField isOwner]
      by_cases same : id = owned
      · subst same
        rw [isOwner, Option.some.injEq] at defined
        subst defined
        exact ⟨_, if_pos rfl, rfl, rfl, rfl, List.prefix_append _ _, List.prefix_rfl⟩
      · exact ⟨found, (if_neg same).trans defined, .refl found⟩
  | newSupertype owned supertype owner isOwner fresh =>
      rw [defined?_put_of_defined isOwner]
      by_cases same : id = owned
      · subst same
        rw [isOwner, Option.some.injEq] at defined
        subst defined
        exact ⟨_, if_pos rfl, rfl, rfl, rfl, List.prefix_rfl, List.prefix_append _ _⟩
      · exact ⟨found, (if_neg same).trans defined, .refl found⟩

/-- A step changes no class but the one that its operation is given to change. -/
theorem Step.defined?_eq
    {operation : Operation}
    {answer : Answer}
    (step : Step draft operation answer next)
    {id : ClassId}
    (held : draft.Holds (.ofClass id))
    (apart : operation.subject ≠ some id) :
    next.defined? id = draft.defined? id := by
  have held : id.index < draft.classes.length := held
  cases step with
  | failed | typeOf | knownPackage | newPackage | knownSupertype => rfl
  | reserve | addClass => rw [defined?_withClass, if_neg (Nat.ne_of_lt held)]
  | define place =>
      have other : id ≠ place := fun same => apart (congrArg some same.symm)
      rw [defined?_put, if_neg fun isSet => other isSet.1]
  | addField owned name type owner isOwner =>
      have other : id ≠ owned := fun same => apart (congrArg some same.symm)
      rw [defined?_withField isOwner, if_neg other]
  | newSupertype owned supertype owner isOwner =>
      have other : id ≠ owned := fun same => apart (congrArg some same.symm)
      rw [defined?_put_of_defined isOwner, if_neg other]

/-- What a draft says, it says after every script. -/
theorem keeps_transcribe
    (draft : Draft)
    (operations : List Operation) :
    draft.Keeps (transcribe perform draft operations).2 := by
  induction operations generalizing draft with
  | nil => exact .refl draft
  | cons operation rest inductionHypothesis =>
      exact (draft.perform_step operation).keeps.trans (inductionHypothesis _)

/-- A class that no operation of a script is given to change is after the script what it was. -/
theorem defined?_transcribe
    {operations : List Operation}
    {id : ClassId}
    (held : draft.Holds (.ofClass id))
    (apart : ∀ operation ∈ operations, operation.subject ≠ some id) :
    (transcribe perform draft operations).2.defined? id = draft.defined? id := by
  induction operations generalizing draft with
  | nil => rfl
  | cons operation rest inductionHypothesis =>
      obtain ⟨firstApart, restApart⟩ := List.forall_mem_cons.1 apart
      have step := draft.perform_step operation
      exact (inductionHypothesis (step.grows.holds held) restApart).trans
        (step.defined?_eq held firstApart)

theorem Keeps.dottedName
    (keeps : draft.Keeps next)
    {id : ClassId}
    {name : String}
    (named : DottedName draft.defined? id name) :
    DottedName next.defined? id name := by
  have sameClass : ∀ {id found}, draft.defined? id = some found →
      ∃ image, next.defined? id = some image ∧ image.name = found.name ∧
        image.enclosing = found.enclosing.map fun outer => outer := by
    intro other value otherDefined
    obtain ⟨image, imageDefined, imageContinues⟩ := keeps.continues otherDefined
    exact ⟨image, imageDefined, imageContinues.name_eq, by simp [imageContinues.enclosing_eq]⟩
  exact named.map sameClass

theorem Keeps.hasType
    (keeps : draft.Keeps next)
    {id : ClassId}
    {type : TypeRef}
    (typed : draft.HasType id type) :
    next.HasType id type := by
  obtain ⟨found, name, package, defined, named, packaged, rfl⟩ := typed
  obtain ⟨later, laterDefined, continues⟩ := keeps.continues defined
  refine ⟨later, name, package, laterDefined, keeps.dottedName named, ?_, rfl⟩
  rw [continues.package_eq]
  exact getElem?_of_prefix keeps.packages packaged

/-- Whether an outline says all that a draft says. -/
structure KeptIn (draft : Draft) (outline : Outline) : Prop where
  packages : draft.packages <+: outline.packages
  fields : draft.fields <+: outline.fields
  continues : ∀ {id found}, draft.defined? id = some found →
    ∃ later, outline.class? id = some later ∧ found.Continues later

/-- The outline of a draft says all that the draft says. -/
theorem Coherent.keptIn
    (coherent : draft.Coherent)
    {outline : Outline}
    (finished : draft.finish = .ok outline) :
    draft.KeptIn outline := by
  obtain ⟨valid, types, typed, rfl⟩ := coherent.valid_of_finish finished
  refine ⟨List.prefix_rfl, List.prefix_rfl, fun {id found} defined => ?_⟩
  exact ⟨_, valid.class?_of_defined types defined, rfl, rfl, rfl, List.prefix_rfl, List.prefix_rfl⟩

theorem Keeps.keptIn
    {outline : Outline}
    (keeps : draft.Keeps next)
    (kept : next.KeptIn outline) :
    draft.KeptIn outline := by
  refine ⟨keeps.packages.trans kept.packages, keeps.fields.trans kept.fields, fun defined => ?_⟩
  obtain ⟨between, betweenDefined, continuesFirst⟩ := keeps.continues defined
  obtain ⟨later, laterDefined, continuesSecond⟩ := kept.continues betweenDefined
  exact ⟨later, laterDefined, continuesFirst.trans continuesSecond⟩

end Draft

/-- The type that a transcript gives for a class is the type that the class has. -/
theorem Built.hasType_of_told
    {transcript : Transcript}
    {draft : Draft}
    (built : Built transcript draft)
    {id : ClassId}
    {type : TypeRef}
    (told : ⟨.typeOf id, .type type⟩ ∈ transcript) :
    draft.HasType id type := by
  induction built with
  | empty => exact absurd told List.not_mem_nil
  | @perform transcript draft built operation given inductionHypothesis =>
      have step := draft.perform_step operation
      rcases List.mem_append.1 told with earlier | last
      · exact step.keeps.hasType (inductionHypothesis earlier)
      · rw [List.mem_singleton, Entry.mk.injEq] at last
        obtain ⟨rfl, answered⟩ := last
        rw [← answered] at step
        generalize (draft.perform (.typeOf id)).2 = next at step ⊢
        cases step with
        | typeOf _ _ typed => exact Draft.hasType_of_typeOf typed

/-- Operations that use handles of a draft lead where they lead with whatever handles. -/
theorem transcribe_of_foldlM
    {start finish : Transcript × Draft}
    {operations : List Operation}
    (carried : operations.foldlM carryOut start = some finish) :
    finish.2 = (transcribe Draft.perform start.2 operations).2 := by
  induction operations generalizing start with
  | nil =>
      rw [List.foldlM_nil] at carried
      cases carried
      rfl
  | cons operation rest inductionHypothesis =>
      rw [List.foldlM_cons, carryOut] at carried
      by_cases given : ∀ handle ∈ operation.handles, start.1.Gives handle
      · rw [if_pos given] at carried
        exact inductionHypothesis carried
      · rw [if_neg given] at carried
        cases carried

/-- Whatever operations a draft goes on with, it keeps all classes with their names, packages,
enclosing classes, fields and supertypes, and its packages and fields; a class that none of the
operations is given to change stays as it is, and a type that was given out is the type of its class
from then on.  All of this is so in the outline as well. -/
theorem Built.keeps_all
    {transcript later : Transcript}
    {draft next : Draft}
    (built : Built transcript draft)
    {operations : List Operation}
    (carried : operations.foldlM carryOut (transcript, draft) = some (later, next)) :
    draft.Keeps next ∧
      (∀ id, transcript.Gives (.ofClass id) → (∀ operation ∈ operations,
        operation.subject ≠ some id) → next.defined? id = draft.defined? id) ∧
      (∀ id type, ⟨.typeOf id, .type type⟩ ∈ transcript →
        next.perform (.typeOf id) = (.type type, next)) ∧
      ∀ outline, next.finish = .ok outline → draft.KeptIn outline ∧
        ∀ id type, ⟨.typeOf id, .type type⟩ ∈ transcript →
          outline.typeOf? id = some type ∧ outline.classOf? type = some id := by
  have builtNext : Built later next := built_of_foldlM built carried
  have leads : next = (transcribe Draft.perform draft operations).2 := transcribe_of_foldlM carried
  have keeps : draft.Keeps next := leads ▸ draft.keeps_transcribe operations
  have typed : ∀ {id type}, ⟨.typeOf id, .type type⟩ ∈ transcript → next.HasType id type :=
    fun told => keeps.hasType (built.hasType_of_told told)
  refine ⟨keeps, ?_, ?_, ?_⟩
  · intro id given apart
    rw [leads]
    exact Draft.defined?_transcribe ((built.gives_iff_holds _).1 given) apart
  · intro id type told
    rw [Draft.perform, builtNext.coherent.typeOf_eq_ok_iff.2 (typed told)]
    rfl
  · intro outline finished
    refine ⟨keeps.keptIn (builtNext.coherent.keptIn finished), fun id type told => ?_⟩
    have isFinished : outline.Finished := ⟨later, next, builtNext, finished⟩
    have outlineTyped := (builtNext.coherent.typeOf?_eq_some_iff finished).2 (typed told)
    exact ⟨outlineTyped, isFinished.wellFormed.classOf?_of_typeOf?
      (isFinished.mem_classIds_of_typeOf? outlineTyped) outlineTyped⟩

/-- A script that nests a class and asks for its type. -/
def items : List Operation :=
  [.package "p", .reserve, .addClass "Item" ⟨0⟩ (some ⟨0⟩), .define ⟨0⟩ "Items" ⟨0⟩ none,
    .typeOf ⟨1⟩]

/-- Operations that add a class whose full name is that of the nested one. -/
def otherItem : List Operation :=
  [.package "p.Items", .addClass "Item" ⟨1⟩ none,
    .addField ⟨1⟩ "other" (.reference "p.Items" "Item"), .addSupertype ⟨2⟩ ⟨1⟩, .addSupertype ⟨1⟩ ⟨0⟩]

/-- The outline of both. -/
def itemsOutline : Outline where
  packages := ["p", "p.Items"]
  classes := [⟨"Items", ⟨0⟩, none, [], [], [⟨1⟩]⟩, ⟨"Item", ⟨0⟩, some ⟨0⟩, [⟨0⟩], [⟨0⟩], []⟩,
    ⟨"Item", ⟨1⟩, none, [], [⟨1⟩], []⟩]
  fields := [⟨"other", .reference "p.Items" "Item", ⟨1⟩⟩]
  types := [.reference "p" "Items", .reference "p" "Items.Item", .reference "p.Items" "Item"]

theorem items_kept :
    ∃ transcript draft later next, items.foldlM carryOut ([], .empty) = some (transcript, draft) ∧
      otherItem.foldlM carryOut (transcript, draft) = some (later, next) ∧ draft.Keeps next ∧
      next.perform (.typeOf ⟨1⟩) = (.type (.reference "p" "Items.Item"), next) ∧
      itemsOutline.typeOf? ⟨1⟩ = some (.reference "p" "Items.Item") ∧
      itemsOutline.classOf? (.reference "p" "Items.Item") = some ⟨1⟩ := by
  have carried : items.foldlM carryOut ([], .empty) =
      some (transcribe Draft.perform .empty items) := by decide
  have carriedOn : otherItem.foldlM carryOut (transcribe Draft.perform .empty items) =
      some (transcribe Draft.perform .empty (items ++ otherItem)) := by decide
  have told : ⟨.typeOf ⟨1⟩, .type (.reference "p" "Items.Item")⟩ ∈
      (transcribe Draft.perform .empty items).1 := by decide
  have finished : (transcribe Draft.perform .empty (items ++ otherItem)).2.finish =
      .ok itemsOutline := by decide
  have built := built_iff_foldlM.2 ⟨items, carried⟩
  obtain ⟨keeps, _, sameType, inOutline⟩ := built.keeps_all carriedOn
  exact ⟨_, _, _, _, carried, carriedOn, keeps, sameType _ _ told,
    (inOutline _ finished).2 _ _ told⟩

/-! ## Classes of an outline -/

/-- A class has the type that its package and its name through the classes around it make up. -/
theorem Outline.WellFormed.typeOf?_eq_some_iff
    {outline : Outline}
    (formed : outline.WellFormed)
    {id : ClassId}
    {package name : String}
    (isClass : id ∈ outline.classIds) :
    outline.typeOf? id = some (.reference package name) ↔
      outline.packageNameOf? id = some package ∧ DottedName outline.class? id name := by
  obtain ⟨ownPackage, ownName, packaged, named, typed⟩ := formed.typed id isClass
  rw [typed, Option.some.injEq]
  constructor
  · intro same
    rw [TypeRef.reference, TypeRef.reference, TypeRef.mk.injEq, Option.some.injEq] at same
    obtain ⟨rfl, rfl, _⟩ := same
    exact ⟨packaged, named⟩
  · rintro ⟨otherPackaged, otherNamed⟩
    rw [packaged, Option.some.injEq] at otherPackaged
    rw [otherPackaged, named.unique otherNamed]

/-- Classes of a finished outline are told apart exactly.  No two have the same type; the index of
names, like the search among the types, finds under a package and a name the class that has them,
its name being made up of those of the classes around it; and the type of a class leads back to
it. -/
theorem Built.outline_identifies
    {transcript : Transcript}
    {draft : Draft}
    {outline : Outline}
    {names : NameIndex}
    (built : Built transcript draft)
    (finished : (Arena.ofDraft draft).finished = .ok (outline, names)) :
    Set.InjOn outline.typeOf? {id | id ∈ outline.classIds} ∧
      (∀ package name id, names.lookup (package, name) = some id ↔
        outline.packageNameOf? id = some package ∧ DottedName outline.class? id name) ∧
      (∀ package name, outline.classByName? package name = names.lookup (package, name)) ∧
      ∀ id ∈ outline.classIds, ∃ type, outline.typeOf? id = some type ∧
        outline.classOf? type = some id := by
  obtain ⟨made, rfl⟩ := built.coherent.finished_arena finished
  have isFinished : outline.Finished := ⟨transcript, draft, built, made⟩
  have formed := isFinished.wellFormed
  have sameLookup := built.coherent.lookup_nameIndex made
  refine ⟨?_, ?_, fun package name => (sameLookup package name).symm, ?_⟩
  · intro first isClass second _ sameType
    obtain ⟨_, _, _, _, typed⟩ := formed.typed first isClass
    exact formed.distinct typed (sameType ▸ typed)
  · intro package name id
    rw [sameLookup, formed.classByName?_eq_some_iff]
    constructor
    · intro typed
      exact (formed.typeOf?_eq_some_iff (isFinished.mem_classIds_of_typeOf? typed)).1 typed
    · rintro ⟨packaged, named⟩
      obtain ⟨_, isFound⟩ := named.defined
      exact (formed.typeOf?_eq_some_iff (Outline.mem_classIds_of_class? isFound)).2
        ⟨packaged, named⟩
  · intro id isClass
    obtain ⟨_, _, _, _, typed⟩ := formed.typed id isClass
    exact ⟨_, typed, formed.classOf?_of_typeOf? isClass typed⟩

theorem items_identified :
    ∃ names, (Arena.ofDraft (transcribe Draft.perform .empty (items ++ otherItem)).2).finished =
        .ok (itemsOutline, names) ∧
      names.lookup ("p", "Items.Item") = some ⟨1⟩ ∧ names.lookup ("p.Items", "Item") = some ⟨2⟩ ∧
      itemsOutline.fullName? ⟨1⟩ = some "p.Items.Item" ∧
      itemsOutline.fullName? ⟨2⟩ = some "p.Items.Item" ∧
      itemsOutline.typeOf? ⟨1⟩ ≠ itemsOutline.typeOf? ⟨2⟩ := by
  have carried : (items ++ otherItem).foldlM carryOut ([], .empty) =
      some (transcribe Draft.perform .empty (items ++ otherItem)) := by decide
  have made : (transcribe Draft.perform .empty (items ++ otherItem)).2.finish =
      .ok itemsOutline := by decide
  have built : Built (transcribe Draft.perform .empty (items ++ otherItem)).1
      (transcribe Draft.perform .empty (items ++ otherItem)).2 := built_iff_foldlM.2 ⟨_, carried⟩
  have finished := Arena.finished_ofDraft built.coherent
  rw [made] at finished
  have around : itemsOutline.class? ⟨0⟩ = some ⟨"Items", ⟨0⟩, none, [], [], [⟨1⟩]⟩ := by decide
  have inside : itemsOutline.class? ⟨1⟩ =
      some ⟨"Item", ⟨0⟩, some ⟨0⟩, [⟨0⟩], [⟨0⟩], []⟩ := by decide
  have apart : itemsOutline.class? ⟨2⟩ = some ⟨"Item", ⟨1⟩, none, [], [⟨1⟩], []⟩ := by decide
  obtain ⟨distinct, named, _⟩ := built.outline_identifies finished
  refine ⟨_, finished, (named _ _ _).2 ⟨by decide, ?_⟩, (named _ _ _).2 ⟨by decide, ?_⟩,
    by decide, by decide, fun same => ?_⟩
  · exact .inside inside rfl (.outermost around rfl)
  · exact .outermost apart rfl
  · exact absurd (distinct (show ⟨1⟩ ∈ itemsOutline.classIds by decide)
      (show ⟨2⟩ ∈ itemsOutline.classIds by decide) same) (by decide)

end SchemaBinding
