import SchemaBinding.Proofs.BindingRuns
import SchemaBinding.Proofs.ComplexTypes
import SchemaBinding.Proofs.Identity

/-!
# Portraits of drafts

What a draft says of each class, freed from handles: the complex type that the class is made for, its
fields, and its bases by their names.  A list of such portraits stands for a draft, and each step of
the binding is matched by what it does to the list, so that binding can be followed without drafts.
The match goes both ways: what succeeds on a draft has its result on the list, and what has a result
on the list succeeds on every draft that the list stands for.
-/

namespace SchemaBinding
namespace Schema

/-- The complex type that a class is made for, and what the class has been given. -/
structure Portrait where
  /-- The complex type. -/
  type : ComplexType
  /-- The names and types of the fields. -/
  fields : List (String × TypeRef) := []
  /-- The names of the bases. -/
  bases : List ExpandedName := []

/-- The portrait with one more base, unless it has that one already. -/
def Portrait.withBase (portrait : Portrait) (base : ExpandedName) : Portrait :=
  if base ∈ portrait.bases then portrait else { portrait with bases := portrait.bases ++ [base] }

/-- Whether a class is that of a declared complex type. -/
def Globals.Declares (globals : Globals) (id : ClassId) (name : ExpandedName) : Prop :=
  ∃ type, globals.types.lookup name = some (.complex id type)

/-- Whether no two declared complex types have one class. -/
def Globals.Distinct (globals : Globals) : Prop :=
  ∀ {id first second}, globals.Declares id first → globals.Declares id second → first = second

theorem Globals.Distinct.biUnique
    {globals : Globals}
    (distinct : globals.Distinct) :
    Relator.BiUnique globals.Declares := by
  refine ⟨?_, fun id first second => distinct⟩
  rintro first second name ⟨_, isFirst⟩ ⟨_, isSecond⟩
  rw [isFirst, Option.some.injEq, TypeDefinition.complex.injEq] at isSecond
  exact isSecond.1

/-- The complex type that a class is made for. -/
def typeAt (portraits : List Portrait) (id : ClassId) : Option ComplexType :=
  portraits[id.index]?.map Portrait.type

/-- Whether a class of a draft is what a portrait says. -/
structure Fits (package : String) (globals : Globals) (draft : Draft) (portraits : List Portrait)
    (id : ClassId) (portrait : Portrait) (found : Class) : Prop where
  defined : draft.defined? id = some found
  name : found.name = className (nameOf portrait.type.named)
  enclosing : found.enclosing.map (typeAt portraits) = portrait.type.around?.map some
  fields : (draft.fieldsAt found.fields).map (fun field => (field.name, field.type)) =
    portrait.fields
  supertypes : List.Forall₂ globals.Declares found.supertypes portrait.bases
  typed : draft.HasType id (.reference package portrait.type.path)

/-- Whether portraits stand for a draft that was built for a schema. -/
structure Shows (package : String) (globals : Globals) (draft : Draft)
    (portraits : List Portrait) : Prop where
  built : ∃ transcript, Built transcript draft
  packages : draft.packages = [package]
  length : draft.classes.length = portraits.length
  held : ∀ {id name}, globals.Declares id name → draft.Holds (.ofClass id)
  fits : ∀ {id portrait}, portraits[id.index]? = some portrait →
    ∃ found, Fits package globals draft portraits id portrait found

section Draft

variable {package : String} {globals : Globals} {draft next : Draft}
  {portraits later : List Portrait} {id : ClassId} {portrait : Portrait} {found : Class}

/-- The class directly around another one remains what it is. -/
theorem map_typeAt
    {enclosing : Option ClassId}
    {around : Option ComplexType}
    (surrounds : enclosing.map (typeAt portraits) = around.map some)
    (types : ∀ {other type}, typeAt portraits other = some type → typeAt later other = some type) :
    enclosing.map (typeAt later) = around.map some := by
  cases enclosing with
  | none => exact surrounds
  | some outer =>
      obtain ⟨type, isAround, isType⟩ := Option.map_eq_some_iff.1 surrounds.symm
      rw [Option.map_some, types isType.symm, isAround, Option.map_some]

/-- A class remains what its portrait says if it is not changed. -/
theorem Fits.keep
    (fits : Fits package globals draft portraits id portrait found)
    (coherent : draft.Coherent)
    (keeps : draft.Keeps next)
    (same : next.defined? id = draft.defined? id)
    (types : ∀ {other type}, typeAt portraits other = some type → typeAt later other = some type) :
    Fits package globals next later id portrait found where
  defined := same.trans fits.defined
  name := fits.name
  enclosing := map_typeAt fits.enclosing types
  fields := by
    rw [(coherent.classes fits.defined).fieldsAt_eq_of_grows keeps.toGrows]
    exact fits.fields
  supertypes := fits.supertypes
  typed := keeps.hasType fits.typed

theorem exists_built_perform
    (built : ∃ transcript, Built transcript draft)
    {operation : Operation}
    (held : ∀ handle ∈ operation.handles, draft.Holds handle) :
    ∃ transcript, Built transcript (draft.perform operation).2 := by
  obtain ⟨transcript, built⟩ := built
  exact ⟨_, built.perform operation fun handle member =>
    (built.gives_iff_holds handle).2 (held handle member)⟩

namespace Shows

theorem coherent
    (shows : Shows package globals draft portraits) :
    draft.Coherent := by
  obtain ⟨transcript, built⟩ := shows.built
  exact built.coherent

theorem holds_iff
    (shows : Shows package globals draft portraits) :
    draft.Holds (.ofClass id) ↔ ∃ portrait, portraits[id.index]? = some portrait := by
  show id.index < draft.classes.length ↔ _
  rw [shows.length]
  constructor
  · exact fun bound => ⟨_, List.getElem?_eq_getElem bound⟩
  · rintro ⟨portrait, isPortrait⟩
    exact (List.getElem?_eq_some_iff.1 isPortrait).1

/-- After an operation the portraits still stand for the draft if the new ones and that of the class
that was to be changed do. -/
theorem perform
    (shows : Shows package globals draft portraits)
    {operation : Operation}
    {answer : Answer}
    (performed : draft.perform operation = (answer, next))
    (held : ∀ handle ∈ operation.handles, draft.Holds handle)
    (packages : next.packages = draft.packages)
    (length : next.classes.length = later.length)
    (types : ∀ {other type}, typeAt portraits other = some type → typeAt later other = some type)
    (fits : ∀ {id portrait}, later[id.index]? = some portrait →
      (portraits[id.index]? = some portrait ∧ operation.subject ≠ some id) ∨
        ∃ found, Fits package globals next later id portrait found) :
    Shows package globals next later := by
  have built := exists_built_perform shows.built held
  have step := draft.perform_step operation
  rw [performed] at built step
  have keeps := step.keeps
  refine ⟨built, packages.trans shows.packages, length, ?_, ?_⟩
  · exact fun declared => keeps.toGrows.holds (shows.held declared)
  · intro id portrait isPortrait
    rcases fits isPortrait with ⟨wasPortrait, apart⟩ | new
    · obtain ⟨found, fitted⟩ := shows.fits wasPortrait
      have same := step.defined?_eq (shows.holds_iff.2 ⟨portrait, wasPortrait⟩) apart
      exact ⟨found, fitted.keep shows.coherent keeps same types⟩
    · exact new

theorem typeAt_append
    {other : ClassId}
    {type : ComplexType}
    (isType : typeAt portraits other = some type)
    (more : List Portrait) :
    typeAt (portraits ++ more) other = some type := by
  obtain ⟨portrait, isPortrait, rfl⟩ := Option.map_eq_some_iff.1 isType
  rw [typeAt, List.getElem?_append_left (List.getElem?_eq_some_iff.1 isPortrait).1, isPortrait]
  rfl

theorem typeAt_set
    (isPortrait : portraits[id.index]? = some portrait)
    {changed : Portrait}
    (sameType : changed.type = portrait.type)
    (other : ClassId) :
    typeAt (portraits.set id.index changed) other = typeAt portraits other := by
  unfold typeAt
  rw [List.getElem?_set]
  split_ifs with same bound
  · rw [← same, isPortrait, Option.map_some, Option.map_some, sameType]
  · rw [← same, List.getElem?_eq_none (Nat.le_of_not_lt bound)]
  · rfl

theorem holds_of_typeAt
    (shows : Shows package globals draft portraits)
    {type : ComplexType}
    (isType : typeAt portraits id = some type) :
    draft.Holds (.ofClass id) := by
  obtain ⟨portrait, isPortrait, _⟩ := Option.map_eq_some_iff.1 isType
  exact shows.holds_iff.2 ⟨portrait, isPortrait⟩

/-- Classes are named after their complex types. -/
theorem dottedName
    (shows : Shows package globals draft portraits)
    {type : ComplexType}
    (isType : typeAt portraits id = some type) :
    DottedName draft.defined? id type.path := by
  obtain ⟨portrait, isPortrait, rfl⟩ := Option.map_eq_some_iff.1 isType
  obtain ⟨found, fits⟩ := shows.fits isPortrait
  obtain ⟨_, _, _, _, named, _, same⟩ := fits.typed
  obtain ⟨_, rfl, _⟩ := TypeRef.mk.inj same
  exact named

/-- A new class has the type that its complex type gives it. -/
theorem hasType_of_defined
    (shows : Shows package globals draft portraits)
    (keeps : draft.Keeps next)
    {type : ComplexType}
    (defined : next.defined? id = some found)
    (named : found.name = className (nameOf type.named))
    (isFirst : found.package = ⟨0⟩)
    (around : found.enclosing.map (typeAt portraits) = type.around?.map some) :
    next.HasType id (.reference package type.path) := by
  refine ⟨found, type.path, package, defined, ?_, ?_, rfl⟩
  · cases type with
    | top tag place spot =>
        have isTop : found.enclosing = none := by simpa [ComplexType.around?] using around
        rw [ComplexType.path, ← show found.name = className (nameOf tag) from named]
        exact .outermost defined isTop
    | nested outerType tag place spot =>
        obtain ⟨outer, enclosed, isType⟩ := Option.map_eq_some_iff.1 around
        rw [ComplexType.path, ← show found.name = className (nameOf tag) from named]
        exact .inside defined enclosed (keeps.dottedName (shows.dottedName isType))
  · rw [isFirst]
    have isPackage : draft.packages[0]? = some package := by simp [shows.packages]
    exact Draft.getElem?_of_prefix keeps.packages isPackage

/-- A new class has a portrait without fields and bases. -/
theorem withClass
    (shows : Shows package globals draft portraits)
    (type : ComplexType)
    {enclosing : Option ClassId}
    (around : enclosing.map (typeAt portraits) = type.around?.map some) :
    Shows package globals
      (draft.withClass (some ⟨className (nameOf type.named), ⟨0⟩, enclosing, [], [], []⟩))
      (portraits ++ [⟨type, [], []⟩]) := by
  have performed : draft.perform (.addClass (className (nameOf type.named)) ⟨0⟩ enclosing) =
      (.handle (.ofClass ⟨draft.classes.length⟩),
        draft.withClass (some ⟨className (nameOf type.named), ⟨0⟩, enclosing, [], [], []⟩)) := by
    rw [Draft.perform, Draft.addClass_eq]
  have step := draft.perform_step (.addClass (className (nameOf type.named)) ⟨0⟩ enclosing)
  rw [performed] at step
  refine shows.perform performed ?_ rfl (by simp [shows.length]) (typeAt_append · _) ?_
  · rw [Operation.handles, List.forall_mem_cons, List.forall_mem_map]
    refine ⟨by simp [Draft.Holds, shows.packages], fun outer isOuter => ?_⟩
    rw [Option.mem_toList] at isOuter
    subst isOuter
    obtain ⟨outerType, _, isType⟩ := Option.map_eq_some_iff.1 around.symm
    exact shows.holds_of_typeAt isType.symm
  · intro id portrait isPortrait
    rw [List.getElem?_append] at isPortrait
    split_ifs at isPortrait with bound
    · exact .inl ⟨isPortrait, fun isSubject => by cases isSubject⟩
    · have last := (List.getElem?_eq_some_iff.1 isPortrait).1
      rw [List.length_singleton] at last
      have isLast : id.index = draft.classes.length := by
        rw [shows.length]
        omega
      rw [Nat.lt_one_iff.1 last, List.getElem?_cons_zero, Option.some.injEq] at isPortrait
      subst isPortrait
      have defined := Draft.defined?_withClass draft
        (some ⟨className (nameOf type.named), ⟨0⟩, enclosing, [], [], []⟩) id
      rw [if_pos isLast] at defined
      exact .inr ⟨_, defined, rfl, map_typeAt around (typeAt_append · _), rfl, .nil,
        shows.hasType_of_defined step.keeps defined rfl rfl around⟩

/-- A class fits a changed portrait when only its fields and supertypes are changed. -/
theorem fits_of_changed
    (shows : Shows package globals draft portraits)
    (isPortrait : portraits[id.index]? = some portrait)
    (wasDefined : draft.defined? id = some found)
    (keeps : draft.Keeps next)
    {changed : Class}
    (defined : next.defined? id = some changed)
    {fields : List (String × TypeRef)}
    {bases : List ExpandedName}
    (hasFields : (next.fieldsAt changed.fields).map (fun field => (field.name, field.type)) = fields)
    (hasBases : List.Forall₂ globals.Declares changed.supertypes bases) :
    Fits package globals next (portraits.set id.index ⟨portrait.type, fields, bases⟩) id
      ⟨portrait.type, fields, bases⟩ changed := by
  obtain ⟨old, fits⟩ := shows.fits isPortrait
  obtain rfl : old = found := Option.some.inj (fits.defined.symm.trans wasDefined)
  obtain ⟨later, laterDefined, continues⟩ := keeps.continues wasDefined
  obtain rfl : later = changed := Option.some.inj (laterDefined.symm.trans defined)
  refine ⟨defined, continues.name_eq.trans fits.name, ?_, hasFields, hasBases,
    keeps.hasType fits.typed⟩
  rw [continues.enclosing_eq]
  apply map_typeAt fits.enclosing
  intro other type isType
  have sameType : (⟨portrait.type, fields, bases⟩ : Portrait).type = portrait.type := rfl
  exact (typeAt_set isPortrait sameType other).trans isType

/-- An operation that changes the fields and supertypes of a class changes its portrait. -/
theorem change
    (shows : Shows package globals draft portraits)
    (isPortrait : portraits[id.index]? = some portrait)
    {operation : Operation}
    {answer : Answer}
    (performed : draft.perform operation = (answer, next))
    (subject : operation.subject = some id)
    (held : ∀ handle ∈ operation.handles, draft.Holds handle)
    (packages : next.packages = draft.packages)
    (length : next.classes.length = draft.classes.length)
    {changed : Portrait}
    (sameType : changed.type = portrait.type)
    (fits : ∃ after, Fits package globals next (portraits.set id.index changed) id changed after) :
    Shows package globals next (portraits.set id.index changed) := by
  refine shows.perform performed held packages ?_ ?_ ?_
  · rw [List.length_set, length, shows.length]
  · intro other type isType
    exact (typeAt_set isPortrait sameType other).trans isType
  · intro other otherPortrait isOther
    rw [List.getElem?_set] at isOther
    split_ifs at isOther with same bound
    · obtain rfl : id = other := ClassId.eq_of_index_eq same
      rw [Option.some.injEq] at isOther
      subst isOther
      exact .inr fits
    · refine .inl ⟨isOther, fun isSubject => same ?_⟩
      rw [subject, Option.some.injEq] at isSubject
      rw [isSubject]

/-- A new field is the last one of its class. -/
theorem withField
    (shows : Shows package globals draft portraits)
    (isPortrait : portraits[id.index]? = some portrait)
    (defined : draft.defined? id = some found)
    {name : String}
    (type : TypeRef)
    (fresh : draft.declares found name = false) :
    Shows package globals (draft.withField id found name type)
      (portraits.set id.index { portrait with fields := portrait.fields ++ [(name, type)] }) := by
  have performed : draft.perform (.addField id name type) =
      (.handle (.ofField ⟨draft.fields.length⟩), draft.withField id found name type) := by
    rw [Draft.perform, Draft.addField_eq_of_fresh type defined fresh]
    rfl
  have step := draft.perform_step (.addField id name type)
  rw [performed] at step
  have held : draft.Holds (.ofClass id) := shows.holds_iff.2 ⟨portrait, isPortrait⟩
  refine shows.change isPortrait performed rfl (by simpa [Operation.handles] using held) rfl
    (by simp) rfl ?_
  obtain ⟨old, fits⟩ := shows.fits isPortrait
  obtain rfl : old = found := Option.some.inj (fits.defined.symm.trans defined)
  have changed := Draft.defined?_withField defined name type id
  rw [if_pos rfl] at changed
  refine ⟨_, shows.fits_of_changed isPortrait defined step.keeps changed ?_ fits.supertypes⟩
  rw [(shows.coherent.classes defined).fieldsAt_withField, List.map_append, fits.fields]
  rfl

theorem declares_iff
    (fits : Fits package globals draft portraits id portrait found)
    {name : String} :
    draft.declares found name ↔ name ∈ portrait.fields.map Prod.fst := by
  rw [← fits.fields, List.map_map]
  simp only [Draft.declares, Draft.fieldsAt, List.any_eq_true, Option.any_eq_true, List.mem_map,
    List.mem_filterMap, Function.comp_apply, decide_eq_true_eq]
  constructor
  · rintro ⟨field, isField, entry, found, rfl⟩
    exact ⟨entry, ⟨field, isField, found⟩, rfl⟩
  · rintro ⟨entry, ⟨field, isField, found⟩, rfl⟩
    exact ⟨field, isField, entry, found, rfl⟩

/-- A new base is the last one of its class. -/
theorem withSupertype
    (shows : Shows package globals draft portraits)
    (isPortrait : portraits[id.index]? = some portrait)
    (defined : draft.defined? id = some found)
    {base : ExpandedName}
    {supertype : ClassId}
    {type : TypeRef}
    (declared : globals.types.lookup base = some (.complex supertype type))
    (fresh : supertype ∉ found.supertypes) :
    Shows package globals
      (draft.put id { found with supertypes := found.supertypes ++ [supertype] })
      (portraits.set id.index { portrait with bases := portrait.bases ++ [base] }) := by
  have performed : draft.perform (.addSupertype id supertype) =
      (.done, draft.put id { found with supertypes := found.supertypes ++ [supertype] }) := by
    rw [Draft.perform, Draft.addSupertype_eq supertype defined, if_neg fresh]
    rfl
  have step := draft.perform_step (.addSupertype id supertype)
  rw [performed] at step
  have held : ∀ handle ∈ (Operation.addSupertype id supertype).handles, draft.Holds handle := by
    rw [Operation.handles, List.forall_mem_cons, List.forall_mem_singleton]
    exact ⟨shows.holds_iff.2 ⟨portrait, isPortrait⟩, shows.held ⟨type, declared⟩⟩
  refine shows.change isPortrait performed rfl held rfl (by simp) rfl ?_
  obtain ⟨old, fits⟩ := shows.fits isPortrait
  obtain rfl : old = found := Option.some.inj (fits.defined.symm.trans defined)
  have changed := Draft.defined?_put_of_defined defined id
    { old with supertypes := old.supertypes ++ [supertype] }
  rw [if_pos rfl] at changed
  refine ⟨_, shows.fits_of_changed isPortrait defined step.keeps changed fits.fields ?_⟩
  exact List.rel_append fits.supertypes (.cons ⟨type, declared⟩ .nil)

end Shows
end Draft

/-! ## Steps on portraits -/

/-- Whether a step on the drafts of some portraits comes down to a relation between its value and the
portraits after it. -/
structure Computes {α : Type} (package : String) (globals : Globals) (portraits : List Portrait)
    (step : Binding α) (result : α → List Portrait → Prop) : Prop where
  sound : ∀ {state value next}, Shows package globals state.draft portraits →
    Leads step state value next →
      ∃ after, result value after ∧ Shows package globals next.draft after
  complete : ∀ {state value after}, Shows package globals state.draft portraits →
    result value after →
      ∃ next, Leads step state value next ∧ Shows package globals next.draft after

namespace Computes

variable {α β : Type} {package : String} {globals : Globals} {portraits : List Portrait}

/-- A step that leaves the draft alone. -/
theorem of_leads_iff
    {step : Binding α}
    {property : α → Prop}
    (leads : ∀ {state value}, (∃ next, Leads step state value next) ↔ property value)
    (keeps : ∀ {state value next}, Leads step state value next → next.draft = state.draft) :
    Computes package globals portraits step fun value after =>
      property value ∧ after = portraits where
  sound shows run := ⟨portraits, ⟨leads.1 ⟨_, run⟩, rfl⟩, keeps run ▸ shows⟩
  complete := by
    rintro state value after shows ⟨holds, rfl⟩
    obtain ⟨next, run⟩ := leads.2 holds
    exact ⟨next, run, keeps run ▸ shows⟩

theorem congr
    {step : Binding α}
    {result other : α → List Portrait → Prop}
    (computes : Computes package globals portraits step result)
    (same : ∀ value after, result value after ↔ other value after) :
    Computes package globals portraits step other where
  sound shows run := by
    obtain ⟨after, holds, showsAfter⟩ := computes.sound shows run
    exact ⟨after, (same _ _).1 holds, showsAfter⟩
  complete shows holds := computes.complete shows ((same _ _).2 holds)

theorem bind
    {step : Binding α}
    {rest : α → Binding β}
    {result : α → List Portrait → Prop}
    {final : α → List Portrait → β → List Portrait → Prop}
    (first : Computes package globals portraits step result)
    (second : ∀ value middle, result value middle →
      Computes package globals middle (rest value) (final value middle)) :
    Computes package globals portraits (step >>= rest) fun value after =>
      ∃ between middle, result between middle ∧ final between middle value after where
  sound shows run := by
    obtain ⟨between, state, runFirst, runSecond⟩ := leads_bind_iff.1 run
    obtain ⟨middle, holds, showsMiddle⟩ := first.sound shows runFirst
    obtain ⟨after, holdsAfter, showsAfter⟩ := (second between middle holds).sound showsMiddle runSecond
    exact ⟨after, ⟨between, middle, holds, holdsAfter⟩, showsAfter⟩
  complete := by
    rintro state value after shows ⟨between, middle, holds, holdsAfter⟩
    obtain ⟨next, runFirst, showsMiddle⟩ := first.complete shows holds
    obtain ⟨last, runSecond, showsAfter⟩ :=
      (second between middle holds).complete showsMiddle holdsAfter
    exact ⟨last, leads_bind_iff.2 ⟨between, next, runFirst, runSecond⟩, showsAfter⟩

theorem pure
    (given : α) :
    Computes package globals portraits (Pure.pure given) fun value after =>
      value = given ∧ after = portraits := by
  apply of_leads_iff
  · intro state value
    simp only [leads_pure_iff, exists_and_left, exists_eq', and_true, eq_comm]
  · intro state value next run
    rw [(leads_pure_iff.1 run).2]

theorem need
    (part : Deferred α) :
    Computes package globals portraits (Binding.need part) fun value after =>
      part = .ok value ∧ after = portraits := by
  apply of_leads_iff
  · intro state value
    simp only [leads_need_iff, exists_and_left, exists_eq', and_true]
  · intro state value next run
    rw [(leads_need_iff.1 run).2]

/-- A step after a part whose value it needs. -/
theorem needThen
    {part : Deferred α}
    {rest : α → Binding β}
    {final : α → β → List Portrait → Prop}
    (second : ∀ value, part = .ok value →
      Computes package globals portraits (rest value) (final value)) :
    Computes package globals portraits (Binding.need part >>= rest) fun value after =>
      ∃ between, part = .ok between ∧ final between value after := by
  cases part with
  | error error =>
      refine ⟨fun shows run => absurd run not_leads_throw, ?_⟩
      rintro state value after shows ⟨between, impossible, _⟩
      cases impossible
  | ok between =>
      apply (second between rfl).congr
      intro value after
      simp

theorem throw
    (error : SchemaError) :
    Computes package globals portraits (MonadExcept.throw error : Binding α) fun _ _ => False where
  sound _ run := absurd run not_leads_throw
  complete _ impossible := impossible.elim

theorem warn
    (warning : Warning) :
    Computes package globals portraits (Binding.warn warning) fun _ after => after = portraits where
  sound shows run := ⟨portraits, rfl, (Prod.mk.inj run).2 ▸ shows⟩
  complete := by
    rintro state value after shows rfl
    exact ⟨{ state with warnings := state.warnings ++ [warning] }, rfl, shows⟩

/-- A new class gets the next number. -/
theorem addClass
    (type : ComplexType)
    {enclosing : Option ClassId}
    (around : enclosing.map (typeAt portraits) = type.around?.map some) :
    Computes package globals portraits
      (Binding.addClass (className (nameOf type.named)) ⟨0⟩ enclosing) fun id after =>
        id = ⟨portraits.length⟩ ∧ after = portraits ++ [⟨type, [], []⟩] := by
  have added : ∀ state : BindingState, Leads
      (Binding.addClass (className (nameOf type.named)) ⟨0⟩ enclosing) state
        ⟨state.draft.classes.length⟩ ⟨state.draft.withClass
          (some ⟨className (nameOf type.named), ⟨0⟩, enclosing, [], [], []⟩), state.warnings⟩ := by
    intro state
    have same := state.draft.addClass_eq (className (nameOf type.named)) ⟨0⟩ enclosing
    obtain ⟨sameId, sameDraft⟩ := Prod.mk.inj same
    rw [← sameId, ← sameDraft]
    rfl
  constructor
  · intro state id next shows run
    obtain ⟨same, rfl⟩ := Prod.mk.inj ((added state).symm.trans run)
    obtain rfl := Except.ok.inj same
    exact ⟨_, ⟨by rw [shows.length], rfl⟩, shows.withClass type around⟩
  · rintro state id after shows ⟨rfl, rfl⟩
    rw [← shows.length]
    exact ⟨_, added state, shows.withClass type around⟩

/-- A class that has a portrait has the type that its complex type gives it. -/
theorem typeOf
    {id : ClassId}
    {type : ComplexType}
    (isType : typeAt portraits id = some type) :
    Computes package globals portraits (Binding.typeOf id) fun value after =>
      value = .reference package type.path ∧ after = portraits := by
  obtain ⟨portrait, isPortrait, rfl⟩ := Option.map_eq_some_iff.1 isType
  have asked : ∀ {state : BindingState}, Shows package globals state.draft portraits →
      Leads (Binding.typeOf id) state (.reference package portrait.type.path) state := by
    intro state shows
    obtain ⟨found, fits⟩ := shows.fits isPortrait
    refine leads_bind_iff.2 ⟨state, state, leads_get_iff.2 ⟨rfl, rfl⟩, ?_⟩
    rw [shows.coherent.typeOf_eq_ok_iff.2 fits.typed]
    exact leads_pure_iff.2 ⟨rfl, rfl⟩
  constructor
  · intro state value next shows run
    obtain ⟨same, rfl⟩ := Prod.mk.inj ((asked shows).symm.trans run)
    exact ⟨portraits, ⟨(Except.ok.inj same).symm, rfl⟩, shows⟩
  · rintro state value after shows ⟨rfl, rfl⟩
    exact ⟨state, asked shows, shows⟩

theorem leads_addField_iff
    {id : ClassId}
    {found : Class}
    {state next : BindingState}
    {name : String}
    {type : TypeRef}
    {value : Unit}
    (defined : state.draft.defined? id = some found) :
    Leads (Binding.addField id name type) state value next ↔
      state.draft.declares found name = false ∧
        next = ⟨state.draft.withField id found name type, state.warnings⟩ := by
  unfold Binding.addField
  rw [leads_bind_iff]
  simp only [leads_get_iff]
  constructor
  · rintro ⟨_, _, ⟨rfl, rfl⟩, run⟩
    cases declared : state.draft.declares found name with
    | false =>
        rw [Draft.addField_eq_of_fresh type defined declared] at run
        exact ⟨rfl, (leads_set_iff.1 run).symm⟩
    | true =>
        rw [Draft.addField_eq_of_duplicate type defined declared] at run
        cases described : state.draft.describe id <;> rw [described] at run <;>
          exact absurd run not_leads_throw
  · rintro ⟨fresh, rfl⟩
    refine ⟨state, state, ⟨rfl, rfl⟩, ?_⟩
    rw [Draft.addField_eq_of_fresh type defined fresh]
    exact leads_set_iff.2 rfl

/-- A field is added if its class has no field of that name. -/
theorem addField
    {id : ClassId}
    {portrait : Portrait}
    (isPortrait : portraits[id.index]? = some portrait)
    (name : String)
    (type : TypeRef) :
    Computes package globals portraits (Binding.addField id name type) fun _ after =>
      name ∉ portrait.fields.map Prod.fst ∧
        after = portraits.set id.index
          { portrait with fields := portrait.fields ++ [(name, type)] } := by
  have fresh_iff : ∀ {draft found}, Fits package globals draft portraits id portrait found →
      (draft.declares found name = false ↔ name ∉ portrait.fields.map Prod.fst) := by
    intro draft found fits
    rw [← Shows.declares_iff fits, Bool.not_eq_true]
  constructor
  · intro state value next shows run
    obtain ⟨found, fits⟩ := shows.fits isPortrait
    obtain ⟨fresh, rfl⟩ := (leads_addField_iff fits.defined).1 run
    exact ⟨_, ⟨(fresh_iff fits).1 fresh, rfl⟩, shows.withField isPortrait fits.defined type fresh⟩
  · rintro state value after shows ⟨absent, rfl⟩
    obtain ⟨found, fits⟩ := shows.fits isPortrait
    have fresh := (fresh_iff fits).2 absent
    exact ⟨_, (leads_addField_iff fits.defined).2 ⟨fresh, rfl⟩,
      shows.withField isPortrait fits.defined type fresh⟩

/-- A supertype is added unless its class has it already. -/
theorem addSupertype
    {id supertype : ClassId}
    {portrait : Portrait}
    {base : ExpandedName}
    {type : TypeRef}
    (isPortrait : portraits[id.index]? = some portrait)
    (declared : globals.types.lookup base = some (.complex supertype type))
    (distinct : globals.Distinct) :
    Computes package globals portraits (Binding.addSupertype id supertype) fun _ after =>
      after = portraits.set id.index (portrait.withBase base) := by
  have member_iff : ∀ {draft found}, Fits package globals draft portraits id portrait found →
      (supertype ∈ found.supertypes ↔ base ∈ portrait.bases) := by
    intro draft found fits
    exact List.rel_mem distinct.biUnique ⟨type, declared⟩ fits.supertypes
  have added : ∀ {state : BindingState}, Shows package globals state.draft portraits →
      ∃ next, Leads (Binding.addSupertype id supertype) state () next ∧
        Shows package globals next.draft (portraits.set id.index (portrait.withBase base)) := by
    intro state shows
    obtain ⟨found, fits⟩ := shows.fits isPortrait
    refine ⟨⟨if supertype ∈ found.supertypes then state.draft else state.draft.put id
      { found with supertypes := found.supertypes ++ [supertype] }, state.warnings⟩, ?_, ?_⟩
    · refine leads_bind_iff.2 ⟨state, state, leads_get_iff.2 ⟨rfl, rfl⟩, ?_⟩
      rw [Draft.addSupertype_eq supertype fits.defined]
      exact leads_set_iff.2 rfl
    · unfold Portrait.withBase
      by_cases known : base ∈ portrait.bases
      · obtain ⟨bound, same⟩ := List.getElem?_eq_some_iff.1 isPortrait
        rw [if_pos known, if_pos ((member_iff fits).2 known), ← same, List.set_getElem_self]
        exact shows
      · have fresh := fun member => known ((member_iff fits).1 member)
        rw [if_neg known, if_neg fresh]
        exact shows.withSupertype isPortrait fits.defined declared fresh
  constructor
  · intro state value next shows run
    obtain ⟨expected, reached, showsAfter⟩ := added shows
    obtain ⟨_, rfl⟩ := Prod.mk.inj (reached.symm.trans run)
    exact ⟨_, rfl, showsAfter⟩
  · rintro state value after shows rfl
    exact added shows

end Computes

end Schema
end SchemaBinding
