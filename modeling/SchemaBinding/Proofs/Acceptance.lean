import SchemaBinding.Proofs.Registration
import SchemaBinding.Proofs.Renumbering

/-!
# Accepted schemas

Which documents are bound to an outline, and to which one.  A document must be a schema whose
declarations can be noted, every complex type that a class is made for must have a portrait, and the
draft that the portraits stand for must be one that can be finished.
-/

namespace SchemaBinding
namespace Schema

open Relation (TransGen)
open Xml (Spot)

/-! ## The second pass -/

section SecondPass

variable {package : String} {environment : Environment}

/-- The class of a complex type at the top is filled, and the classes inside it are added. -/
theorem computes_body
    (isFirst : environment.package = ⟨0⟩)
    (distinct : environment.globals.Distinct)
    (before rest inner : List Portrait)
    (type : ComplexType) :
    Computes package environment.globals (before ++ type.blank :: rest ++ inner)
      (bindContents environment ⟨before.length⟩ (contents type.spot.scope type.spot.content))
      fun _ after => ∃ filled further, type.portrait? environment package = some filled ∧
        type.inside.mapM (ComplexType.portrait? environment package) = some further ∧
        after = before ++ [filled] ++ rest ++ (inner ++ further) := by
  have isBlank : (before ++ type.blank :: rest ++ inner)[before.length]? = some ⟨type, [], []⟩ := by
    rw [List.append_assoc, List.getElem?_append_right (Nat.le_refl _), Nat.sub_self]
    rfl
  have atOwner : ∀ filled, (before ++ type.blank :: rest ++ inner).set before.length filled =
      before ++ [filled] ++ rest ++ inner := by
    intro filled
    rw [List.append_assoc, List.set_append_right _ _ (Nat.le_refl _), Nat.sub_self]
    simp
  rw [bindContents_eq, ComplexType.inside_eq]
  apply (completes isFirst distinct type isBlank).congr
  intro _ after
  unfold Fills
  simp only [atOwner]
  simp only [List.append_assoc]
  rfl

variable (package environment) in
/-- The classes of complex types at the top are filled in their order. -/
theorem computes_bindBodies
    (isFirst : environment.package = ⟨0⟩)
    (distinct : environment.globals.Distinct)
    (before inner : List Portrait)
    (types : List ComplexType) :
    Computes package environment.globals (before ++ types.map ComplexType.blank ++ inner)
      (bindBodies environment
        ((types.zipIdx before.length).map fun (type, index) => type.body ⟨index⟩))
      fun _ after => ∃ filled further,
        types.mapM (ComplexType.portrait? environment package) = some filled ∧
        (types.flatMap ComplexType.inside).mapM (ComplexType.portrait? environment package) =
          some further ∧
        after = before ++ filled ++ (inner ++ further) := by
  induction types generalizing before inner with
  | nil =>
      apply (Computes.pure ()).congr
      intro _ after
      simp
  | cons type rest inductionHypothesis =>
      have others : ∀ (_ : Unit) middle, (∃ filled further,
          type.portrait? environment package = some filled ∧
            type.inside.mapM (ComplexType.portrait? environment package) = some further ∧
            middle = before ++ [filled] ++ rest.map ComplexType.blank ++ (inner ++ further)) →
          Computes package environment.globals middle
            (bindBodies environment
              ((rest.zipIdx (before.length + 1)).map fun (type, index) => type.body ⟨index⟩))
            fun _ after => ∃ filled further allFilled allFurther,
              type.portrait? environment package = some filled ∧
                type.inside.mapM (ComplexType.portrait? environment package) = some further ∧
                rest.mapM (ComplexType.portrait? environment package) = some allFilled ∧
                (rest.flatMap ComplexType.inside).mapM
                  (ComplexType.portrait? environment package) = some allFurther ∧
                after = before ++ [filled] ++ allFilled ++ (inner ++ further ++ allFurther) := by
        rintro _ _ ⟨filled, further, isFilled, isFurther, rfl⟩
        have length : before.length + 1 = (before ++ [filled]).length := by simp
        rw [length]
        apply (inductionHypothesis (before ++ [filled]) (inner ++ further)).congr
        intro _ after
        simp [isFilled, isFurther]
      apply ((computes_body isFirst distinct before (rest.map ComplexType.blank) inner type).bind
        others).congr
      intro _ after
      simp only [List.mapM_cons, List.flatMap_cons, List.mapM_append, Option.bind_eq_bind,
        Option.bind_eq_some_iff, Option.pure_def, Option.some.injEq]
      constructor
      · rintro ⟨_, _, _, filled, further, allFilled, allFurther, isFilled, isFurther, isAll, isLast,
          rfl⟩
        refine ⟨filled :: allFilled, further ++ allFurther,
          ⟨filled, isFilled, allFilled, isAll, rfl⟩, ⟨further, isFurther, allFurther, isLast, rfl⟩, ?_⟩
        simp
      · rintro ⟨_, _, ⟨filled, isFilled, allFilled, isAll, rfl⟩,
          ⟨further, isFurther, allFurther, isLast, rfl⟩, rfl⟩
        refine ⟨(), _, ⟨filled, further, isFilled, isFurther, rfl⟩, filled, further, allFilled,
          allFurther, isFilled, isFurther, isAll, isLast, ?_⟩
        simp

end SecondPass

/-! ## Both passes -/

/-- How the classes for the declarations of a document are created. -/
def settingOf (options : BindingOptions) (document : Xml.Document) : Setting :=
  let target := document.root.attribute? "targetNamespace"
  ⟨target, packageName options target, ⟨0⟩, options.overwrite⟩

/-- What the second pass knows of a document. -/
def environmentOf (options : BindingOptions) (document : Xml.Document) : Environment :=
  ⟨document.root.attribute? "targetNamespace", ⟨0⟩,
    (registryOf (settingOf options document) document).globals⟩

/-- The portrait of the class for a complex type of a document. -/
def portraitIn? (options : BindingOptions) (document : Xml.Document) (type : ComplexType) :
    Option Portrait :=
  type.portrait? (environmentOf options document) (settingOf options document).packageName

/-- Whether a document is a schema that the passes can be made over, with given portraits of the
classes in the end. -/
structure Describes (options : BindingOptions) (document : Xml.Document)
    (portraits : List Portrait) : Prop where
  isSchema : constructOf? document.root = some "schema"
  registrable : ∀ child ∈ document.spot.children, Registrable (settingOf options document) child.2
  proper : (environmentOf options document).globals.Proper
  described : (complexTypes document).mapM (portraitIn? options document) = some portraits

/-- Whether portraits stand for a draft that was built for a document. -/
def ShowsIn (options : BindingOptions) (document : Xml.Document) (draft : Draft)
    (portraits : List Portrait) : Prop :=
  Shows (settingOf options document).packageName (environmentOf options document).globals draft
    portraits

section Both

variable {options : BindingOptions} {document : Xml.Document} {portraits : List Portrait}
  {outline : Outline}

/-- What the draft is before the passes. -/
def initialState (options : BindingOptions) (document : Xml.Document) : BindingState :=
  { draft := (Draft.empty.package (settingOf options document).packageName).2 }

theorem shows_initialState
    (options : BindingOptions)
    (document : Xml.Document) :
    Shows (settingOf options document).packageName {} (initialState options document).draft [] where
  built := ⟨_, Built.empty.perform (.package _) nofun⟩
  packages := rfl
  length := rfl
  held declares := by
    obtain ⟨_, declared⟩ := declares
    cases declared
  fits := nofun

/-- What is known of the declarations in the end may be taken to be known once the classes at the top
exist. -/
theorem shows_of_registered
    {draft : Draft}
    (shows : Shows (settingOf options document).packageName {} draft
      ((topTypes document).map ComplexType.blank)) :
    ShowsIn options document draft ((topTypes document).map ComplexType.blank) where
  built := shows.built
  packages := shows.packages
  length := shows.length
  held declares := by
    show _ < draft.classes.length
    rw [shows.length, List.length_map]
    exact index_lt_of_declares declares
  fits := by
    intro id portrait isPortrait
    obtain ⟨found, fits⟩ := shows.fits isPortrait
    obtain ⟨type, _, rfl⟩ := List.mem_map.1 (List.mem_of_getElem? isPortrait)
    have noSupertypes : found.supertypes = [] := List.forall₂_nil_right_iff.1 fits.supertypes
    refine ⟨found, fits.defined, fits.name, fits.enclosing, fits.fields, ?_, fits.typed⟩
    rw [noSupertypes]
    exact .nil

/-- Both passes, before the draft is finished. -/
def bothPasses (options : BindingOptions) (document : Xml.Document) : Binding Unit := do
  let registry ← (document.children.filterMap (declaration? document.scope)).foldlM
    (Registry.register (settingOf options document)) {}
  bindBodies ⟨document.root.attribute? "targetNamespace", ⟨0⟩, registry.globals⟩ registry.bodies

theorem computes_secondPass :
    Computes (settingOf options document).packageName (environmentOf options document).globals
      ((topTypes document).map ComplexType.blank)
      (bindBodies (environmentOf options document)
        (registryOf (settingOf options document) document).bodies)
      fun _ after => (complexTypes document).mapM (portraitIn? options document) = some after := by
  have computes := computes_bindBodies (settingOf options document).packageName
    (environmentOf options document) rfl distinct_registryOf [] [] (topTypes document)
  rw [List.nil_append, List.append_nil] at computes
  rw [bodies_registryOf]
  apply computes.congr
  intro _ after
  unfold complexTypes innerTypes
  rw [List.mapM_append]
  simp only [Option.bind_eq_bind, Option.bind_eq_some_iff, Option.pure_def, Option.some.injEq,
    List.nil_append]
  constructor
  · rintro ⟨filled, further, isFilled, isFurther, rfl⟩
    exact ⟨filled, isFilled, further, isFurther, rfl⟩
  · rintro ⟨filled, isFilled, further, isFurther, rfl⟩
    exact ⟨filled, further, isFilled, isFurther, rfl⟩

/-- The passes succeed over the documents that portraits describe, and lead to a draft that the
portraits stand for. -/
theorem leads_bothPasses
    (isSchema : constructOf? document.root = some "schema") :
    (∀ {value next}, Leads (bothPasses options document) (initialState options document) value next →
      ∃ portraits, Describes options document portraits ∧
        ShowsIn options document next.draft portraits) ∧
    ∀ {portraits}, Describes options document portraits →
      ∃ next, Leads (bothPasses options document) (initialState options document) () next ∧
        ShowsIn options document next.draft portraits := by
  have first := settles_declarations (settingOf options document)
    (settingOf options document).packageName rfl document
  have start := shows_initialState options document
  constructor
  · intro value next run
    obtain ⟨registry, middle, runFirst, runSecond⟩ := leads_bind_iff.1 run
    obtain ⟨_, ⟨⟨registrable, proper⟩, rfl, rfl⟩, shows⟩ := first.sound start runFirst
    obtain ⟨portraits, described, showsAfter⟩ :=
      computes_secondPass.sound (shows_of_registered shows) runSecond
    exact ⟨portraits, ⟨isSchema, registrable, proper, described⟩, showsAfter⟩
  · intro portraits describes
    obtain ⟨middle, runFirst, shows⟩ :=
      first.complete start ⟨⟨describes.registrable, describes.proper⟩, rfl, rfl⟩
    obtain ⟨next, runSecond, showsAfter⟩ :=
      computes_secondPass.complete (shows_of_registered shows) describes.described
    exact ⟨next, leads_bind_iff.2 ⟨_, middle, runFirst, runSecond⟩, showsAfter⟩

theorem outcome_of_isSchema
    (isSchema : constructOf? document.root = some "schema") :
    (bindXml options document).1 = (outcome (do
      bothPasses options document
      match (← get).draft.finish with
      | .ok outline => return outline
      | .error error => throw (.model error)) (initialState options document)).1 := by
  unfold bindXml Document.ofXml
  rw [if_pos isSchema]
  unfold bothPasses
  rw [bind_assoc]
  rfl

/-- A schema is accepted if the passes succeed over it and lead to a draft that can be finished. -/
theorem accepted_iff
    (isSchema : constructOf? document.root = some "schema") :
    (bindXml options document).1 = .ok outline ↔
      ∃ next, Leads (bothPasses options document) (initialState options document) () next ∧
        next.draft.finish = .ok outline := by
  have succeeds_iff : ∀ {α : Type} {step : Binding α} {state : BindingState} {value : α},
      (outcome step state).1 = .ok value ↔ ∃ next, Leads step state value next := by
    intro α step state value
    constructor
    · exact fun isValue => ⟨_, Prod.ext isValue rfl⟩
    · rintro ⟨next, leads⟩
      exact congrArg Prod.fst leads
  rw [outcome_of_isSchema isSchema, succeeds_iff]
  constructor
  · rintro ⟨last, leads⟩
    obtain ⟨_, next, leadsPasses, leads⟩ := leads_bind_iff.1 leads
    obtain ⟨_, _, leadsGet, leads⟩ := leads_bind_iff.1 leads
    obtain ⟨rfl, rfl⟩ := leads_get_iff.1 leadsGet
    refine ⟨next, leadsPasses, ?_⟩
    cases finished : next.draft.finish with
    | error error =>
        rw [finished] at leads
        exact absurd leads not_leads_throw
    | ok result =>
        rw [finished] at leads
        rw [(leads_pure_iff.1 leads).1]
  · rintro ⟨next, leads, finished⟩
    refine ⟨next, leads_bind_iff.2 ⟨(), next, leads, leads_bind_iff.2 ⟨next, next,
      leads_get_iff.2 ⟨rfl, rfl⟩, ?_⟩⟩⟩
    rw [finished]
    exact leads_pure_iff.2 ⟨rfl, rfl⟩

theorem isSchema_of_accepted
    (accepted : (bindXml options document).1 = .ok outline) :
    constructOf? document.root = some "schema" := by
  by_contra noSchema
  unfold bindXml Document.ofXml at accepted
  rw [if_neg noSchema] at accepted
  cases accepted

/-- An accepted document is described by portraits, and its outline is made of a draft that they
stand for. -/
theorem describes_of_accepted
    (accepted : (bindXml options document).1 = .ok outline) :
    ∃ portraits draft, Describes options document portraits ∧
      ShowsIn options document draft portraits ∧ draft.finish = .ok outline := by
  have isSchema := isSchema_of_accepted accepted
  obtain ⟨next, leads, finished⟩ := (accepted_iff isSchema).1 accepted
  obtain ⟨portraits, describes, shows⟩ := (leads_bothPasses isSchema).1 leads
  exact ⟨portraits, next.draft, describes, shows, finished⟩

/-- A document that portraits describe is accepted if the draft that they stand for can be
finished. -/
theorem Describes.exists_draft
    (describes : Describes options document portraits) :
    ∃ draft, ShowsIn options document draft portraits ∧
      ∀ outline, draft.finish = .ok outline → (bindXml options document).1 = .ok outline := by
  have isSchema := describes.isSchema
  obtain ⟨next, leads, shows⟩ := (leads_bothPasses isSchema).2 describes
  exact ⟨next.draft, shows, fun outline finished => (accepted_iff isSchema).2 ⟨next, leads, finished⟩⟩

/-! ## The outline -/

/-- Whether portraits say what the classes of an outline are. -/
structure Depicts (options : BindingOptions) (document : Xml.Document) (outline : Outline)
    (portraits : List Portrait) : Prop where
  formed : outline.WellFormed
  packages : outline.packages = [(settingOf options document).packageName]
  length : outline.classes.length = portraits.length
  found : ∀ {id portrait}, portraits[id.index]? = some portrait →
    ∃ found, outline.class? id = some found ∧
      found.name = className (nameOf portrait.type.named) ∧
      found.enclosing.map (typeAt portraits) = portrait.type.around?.map some
  typed : ∀ {id portrait}, portraits[id.index]? = some portrait →
    outline.typeOf? id =
      some (.reference (settingOf options document).packageName portrait.type.path)
  fields : ∀ {id portrait}, portraits[id.index]? = some portrait →
    outline.fieldList id = portrait.fields
  supertypes : ∀ {id portrait}, portraits[id.index]? = some portrait →
    List.Forall₂ (environmentOf options document).globals.Declares (outline.supertypes id)
      portrait.bases

/-- Portraits that stand for a draft say what the classes of its outline are. -/
theorem depicts_of_finish
    {draft : Draft}
    (shows : ShowsIn options document draft portraits)
    (finished : draft.finish = .ok outline) :
    Depicts options document outline portraits := by
  obtain ⟨valid, types, typed, rfl⟩ := shows.coherent.valid_of_finish finished
  have isClass : ∀ {id portrait}, portraits[id.index]? = some portrait →
      ∃ found, Fits (settingOf options document).packageName
        (environmentOf options document).globals draft portraits id portrait found ∧
          (draft.outlineWith types).class? id =
            some { found with nested := draft.nestedIn id } := by
    intro id portrait isPortrait
    obtain ⟨found, fits⟩ := shows.fits isPortrait
    exact ⟨found, fits, valid.class?_of_defined types fits.defined⟩
  constructor
  case formed => exact valid.wellFormed shows.coherent typed
  case packages => exact shows.packages
  case length =>
    have sameIds := congrArg List.length (valid.classIds_outlineWith types)
    rw [← shows.length, ← Draft.length_classIds, ← sameIds, Outline.classIds, List.length_map,
      List.length_range]
  case found =>
    intro id portrait isPortrait
    obtain ⟨found, fits, isFound⟩ := isClass isPortrait
    exact ⟨_, isFound, fits.name, fits.enclosing⟩
  case typed =>
    intro id portrait isPortrait
    obtain ⟨found, fits, _⟩ := isClass isPortrait
    exact (Draft.hasType_iff_getElem? typed).2 fits.typed
  case fields =>
    intro id portrait isPortrait
    obtain ⟨found, fits, isFound⟩ := isClass isPortrait
    rw [Outline.fieldList, Outline.fieldsOf_of_class? isFound]
    exact fits.fields
  case supertypes =>
    intro id portrait isPortrait
    obtain ⟨found, fits, isFound⟩ := isClass isPortrait
    rw [Outline.supertypes_of_class? isFound]
    exact fits.supertypes

/-- The outline of an accepted document is depicted by portraits that describe the document. -/
theorem depicts_of_accepted
    (accepted : (bindXml options document).1 = .ok outline) :
    ∃ portraits, Describes options document portraits ∧
      Depicts options document outline portraits := by
  obtain ⟨portraits, draft, describes, shows, finished⟩ := describes_of_accepted accepted
  exact ⟨portraits, describes, depicts_of_finish shows finished⟩

theorem mapM_eq_some_iff
    {Source Target : Type}
    {read : Source → Option Target}
    {sources : List Source}
    {targets : List Target} :
    sources.mapM read = some targets ↔ sources.map read = targets.map some := by
  induction sources generalizing targets with
  | nil =>
      cases targets <;> simp
  | cons source rest inductionHypothesis =>
      simp only [List.mapM_cons, Option.bind_eq_bind, Option.bind_eq_some_iff, Option.pure_def,
        Option.some.injEq, inductionHypothesis]
      constructor
      · rintro ⟨target, isTarget, others, areOthers, rfl⟩
        rw [List.map_cons, List.map_cons, isTarget, areOthers]
      · cases targets with
        | nil => exact nofun
        | cons target others =>
            intro same
            obtain ⟨isTarget, areOthers⟩ := List.cons.inj same
            exact ⟨target, isTarget, others, areOthers, rfl⟩

/-- The portraits of a document are those of its complex types, in the order of their classes. -/
theorem Describes.map_getElem?
    (describes : Describes options document portraits)
    (index : Nat) :
    (complexTypes document)[index]?.map (portraitIn? options document) =
      portraits[index]?.map some := by
  have same := congrArg (fun list => list[index]?) (mapM_eq_some_iff.1 describes.described)
  simpa only [List.getElem?_map] using same

theorem Describes.length_eq
    (describes : Describes options document portraits) :
    portraits.length = (complexTypes document).length := by
  have same := congrArg List.length (mapM_eq_some_iff.1 describes.described)
  rw [List.length_map, List.length_map] at same
  exact same.symm

theorem Describes.exists_portrait
    (describes : Describes options document portraits)
    {index : Nat}
    {type : ComplexType}
    (isType : (complexTypes document)[index]? = some type) :
    ∃ portrait, portraits[index]? = some portrait ∧ portrait.type = type ∧
      portraitIn? options document type = some portrait := by
  have same := describes.map_getElem? index
  rw [isType, Option.map_some, eq_comm, Option.map_eq_some_iff] at same
  obtain ⟨portrait, isPortrait, described⟩ := same
  exact ⟨portrait, isPortrait, ComplexType.type_of_portrait? described.symm, described.symm⟩

theorem Describes.typeAt_eq
    (describes : Describes options document portraits)
    (id : ClassId) :
    typeAt portraits id = (complexTypes document)[id.index]? := by
  unfold typeAt
  cases isType : (complexTypes document)[id.index]? with
  | some type =>
      obtain ⟨portrait, isPortrait, sameType, _⟩ := describes.exists_portrait isType
      rw [isPortrait, Option.map_some, sameType]
  | none =>
      have same := describes.map_getElem? id.index
      rw [isType, Option.map_none, eq_comm, Option.map_eq_none_iff] at same
      rw [same, Option.map_none]

end Both

/-! ## Finishing -/

/-- Whether a declared complex type is derived from another one. -/
def DerivesFrom (globals : Globals) (portraits : List Portrait) (name base : ExpandedName) : Prop :=
  ∃ id portrait, globals.Declares id name ∧ portraits[id.index]? = some portrait ∧
    base ∈ portrait.bases

/-- Whether the classes that portraits say can be together in an outline: no two have one name, and
no declared complex type is derived from itself. -/
structure Consistent (globals : Globals) (portraits : List Portrait) : Prop where
  distinct : (portraits.map fun portrait => portrait.type.path).Nodup
  acyclic : ∀ name, ¬TransGen (DerivesFrom globals portraits) name name

theorem exists_of_mem_of_forall₂
    {Source Target : Type}
    {related : Source → Target → Prop}
    {sources : List Source}
    {targets : List Target}
    (relates : List.Forall₂ related sources targets)
    {source : Source}
    (member : source ∈ sources) :
    ∃ target ∈ targets, related source target := by
  induction relates with
  | nil => cases member
  | cons first rest inductionHypothesis =>
      rcases List.mem_cons.1 member with rfl | isRest
      · exact ⟨_, List.mem_cons_self, first⟩
      · obtain ⟨target, isTarget, holds⟩ := inductionHypothesis isRest
        exact ⟨target, List.mem_cons_of_mem _ isTarget, holds⟩

section Finishing

variable {package : String} {globals : Globals} {draft : Draft} {portraits : List Portrait}

/-- Supertypes are declared complex types, and derivations between classes are derivations between
their complex types. -/
theorem Shows.declares_of_transGen
    (shows : Shows package globals draft portraits)
    {id ancestor : ClassId}
    (path : TransGen (Extends draft.defined?) id ancestor) :
    ∃ base, globals.Declares ancestor base ∧
      ∀ name, globals.Declares id name → TransGen (DerivesFrom globals portraits) name base := by
  have step : ∀ {id ancestor}, Extends draft.defined? id ancestor →
      ∃ base, globals.Declares ancestor base ∧
        ∀ name, globals.Declares id name → DerivesFrom globals portraits name base := by
    rintro id ancestor ⟨found, defined, isSupertype⟩
    obtain ⟨portrait, isPortrait⟩ := shows.holds_iff.1 (Draft.index_lt_of_defined defined)
    obtain ⟨other, fits⟩ := shows.fits isPortrait
    obtain rfl : other = found := Option.some.inj (fits.defined.symm.trans defined)
    obtain ⟨base, isBase, declares⟩ := exists_of_mem_of_forall₂ fits.supertypes isSupertype
    exact ⟨base, declares, fun name isName => ⟨id, portrait, isName, isPortrait, isBase⟩⟩
  induction path with
  | single extends_base =>
      obtain ⟨base, declares, derives⟩ := step extends_base
      exact ⟨base, declares, fun name isName => .single (derives name isName)⟩
  | tail path extends_base inductionHypothesis =>
      obtain ⟨middle, isMiddle, derivesMiddle⟩ := inductionHypothesis
      obtain ⟨base, declares, derives⟩ := step extends_base
      refine ⟨base, declares, fun name isName => ?_⟩
      exact (derivesMiddle name isName).tail (derives middle isMiddle)

/-- Derivations between complex types are derivations between their classes. -/
theorem Shows.transGen_of_derives
    (shows : Shows package globals draft portraits)
    (distinct : globals.Distinct)
    {name base : ExpandedName}
    (path : TransGen (DerivesFrom globals portraits) name base) :
    ∃ id ancestor, globals.Declares id name ∧ globals.Declares ancestor base ∧
      TransGen (Extends draft.defined?) id ancestor := by
  have step : ∀ {name base}, DerivesFrom globals portraits name base →
      ∃ id ancestor, globals.Declares id name ∧ globals.Declares ancestor base ∧
        Extends draft.defined? id ancestor := by
    rintro name base ⟨id, portrait, declares, isPortrait, isBase⟩
    obtain ⟨found, fits⟩ := shows.fits isPortrait
    obtain ⟨ancestor, isSupertype, isDeclared⟩ := exists_of_mem_of_forall₂ fits.supertypes.flip isBase
    exact ⟨id, ancestor, declares, isDeclared, found, fits.defined, isSupertype⟩
  induction path with
  | single derives =>
      obtain ⟨id, ancestor, isName, isBase, extends_base⟩ := step derives
      exact ⟨id, ancestor, isName, isBase, .single extends_base⟩
  | tail path derives inductionHypothesis =>
      obtain ⟨id, middle, isName, isMiddle, extended⟩ := inductionHypothesis
      obtain ⟨other, ancestor, isOther, isBase, extends_base⟩ := step derives
      obtain rfl : middle = other := distinct.biUnique.1 isMiddle isOther
      exact ⟨id, ancestor, isName, isBase, extended.tail extends_base⟩

theorem Fits.index_package
    {id : ClassId}
    {portrait : Portrait}
    {found : Class}
    (fits : Fits package globals draft portraits id portrait found)
    (packages : draft.packages = [package]) :
    found.package.index = 0 := by
  obtain ⟨other, _, _, defined, _, packaged, _⟩ := fits.typed
  obtain rfl : other = found := Option.some.inj (defined.symm.trans fits.defined)
  have bound := (List.getElem?_eq_some_iff.1 packaged).1
  rw [packages, List.length_singleton] at bound
  exact Nat.lt_one_iff.1 bound

theorem Shows.exists_fits
    (shows : Shows package globals draft portraits)
    {id : ClassId}
    (isClass : id ∈ draft.classIds) :
    ∃ portrait found, portraits[id.index]? = some portrait ∧
      Fits package globals draft portraits id portrait found := by
  obtain ⟨portrait, isPortrait⟩ := shows.holds_iff.1 (Draft.mem_classIds.1 isClass)
  obtain ⟨found, fits⟩ := shows.fits isPortrait
  exact ⟨portrait, found, isPortrait, fits⟩

/-- A class has the type that the path of its portrait names, and no other. -/
theorem Shows.hasType_iff
    (shows : Shows package globals draft portraits)
    {id : ClassId}
    {type : TypeRef} :
    draft.HasType id type ↔
      ∃ path, (portraits.map fun portrait => portrait.type.path)[id.index]? = some path ∧
        type = .reference package path := by
  simp only [List.getElem?_map, Option.map_eq_some_iff]
  constructor
  · intro typed
    obtain ⟨portrait, _, isPortrait, fits⟩ := shows.exists_fits typed.mem_classIds
    exact ⟨_, ⟨portrait, isPortrait, rfl⟩, typed.unique fits.typed⟩
  · rintro ⟨_, ⟨portrait, isPortrait, rfl⟩, rfl⟩
    obtain ⟨_, fits⟩ := shows.fits isPortrait
    exact fits.typed

/-- All classes are in one package, so that their types differ exactly if their paths do. -/
theorem Shows.distinct_iff
    (shows : Shows package globals draft portraits) :
    (∀ first second type, draft.HasType first type → draft.HasType second type → first = second) ↔
      (portraits.map fun portrait => portrait.type.path).Nodup := by
  constructor
  · intro distinct
    rw [List.nodup_iff_getElem?_ne_getElem?]
    intro first second before bound same
    have isPath := List.getElem?_eq_getElem bound
    have firstTyped := shows.hasType_iff.2 ⟨_, same.trans isPath, rfl⟩
    have secondTyped := shows.hasType_iff.2 ⟨_, isPath, rfl⟩
    have equal := distinct ⟨first⟩ ⟨second⟩ _ firstTyped secondTyped
    exact Nat.ne_of_lt before (ClassId.mk.inj equal)
  · intro nodup first second type firstTyped secondTyped
    obtain ⟨path, isFirst, rfl⟩ := shows.hasType_iff.1 firstTyped
    obtain ⟨other, isSecond, sameType⟩ := shows.hasType_iff.1 secondTyped
    obtain rfl := (TypeRef.mk.inj sameType).2.1
    have bound := (List.getElem?_eq_some_iff.1 isFirst).1
    have sameIndex := (List.getElem?_inj bound nodup).1 (isFirst.trans isSecond.symm)
    exact ClassId.eq_of_index_eq sameIndex

/-- The classes of a draft that can be finished can be together. -/
theorem Shows.consistent
    (shows : Shows package globals draft portraits)
    (distinct : globals.Distinct)
    (valid : draft.Valid) :
    Consistent globals portraits where
  distinct := shows.distinct_iff.1 valid.distinct
  acyclic name path := by
    obtain ⟨id, ancestor, isName, isBase, extended⟩ := shows.transGen_of_derives distinct path
    obtain rfl : id = ancestor := distinct.biUnique.1 isName isBase
    exact valid.acyclic id extended

/-- A draft can be finished if the classes that its portraits say can be together. -/
theorem Shows.valid
    (shows : Shows package globals draft portraits)
    (consistent : Consistent globals portraits) :
    draft.Valid := by
  constructor
  case defined =>
    intro id isClass
    obtain ⟨_, _, _, fits⟩ := shows.exists_fits isClass
    rw [fits.defined]
    rfl
  case reachesTop =>
    intro id isClass
    obtain ⟨_, _, _, fits⟩ := shows.exists_fits isClass
    obtain ⟨_, _, _, _, named, _⟩ := fits.typed
    exact named.reachesTop
  case keepsPackage =>
    intro id isClass found outer around defined isAround aroundDefined
    obtain ⟨_, other, _, fits⟩ := shows.exists_fits isClass
    obtain rfl : other = found := Option.some.inj (fits.defined.symm.trans defined)
    obtain ⟨_, outerFound, _, outerFits⟩ :=
      shows.exists_fits (Draft.mem_classIds.2 (Draft.index_lt_of_defined aroundDefined))
    obtain rfl : outerFound = around :=
      Option.some.inj (outerFits.defined.symm.trans aroundDefined)
    have same : outerFound.package.index = other.package.index := by
      rw [fits.index_package shows.packages, outerFits.index_package shows.packages]
    exact congrArg PackageId.mk same
  case distinct => exact shows.distinct_iff.2 consistent.distinct
  case acyclic =>
    intro id path
    obtain ⟨name, declares, derives⟩ := shows.declares_of_transGen path
    exact consistent.acyclic name (derives name declares)

end Finishing

/-- A document is accepted if portraits describe it that can be together. -/
theorem exists_outline_iff
    {options : BindingOptions}
    {document : Xml.Document} :
    (∃ outline, (bindXml options document).1 = .ok outline) ↔
      ∃ portraits, Describes options document portraits ∧
        Consistent (environmentOf options document).globals portraits := by
  constructor
  · rintro ⟨outline, accepted⟩
    obtain ⟨portraits, draft, describes, shows, finished⟩ := describes_of_accepted accepted
    exact ⟨portraits, describes,
      shows.consistent distinct_registryOf (shows.coherent.valid_of_finish finished).1⟩
  · rintro ⟨portraits, describes, consistent⟩
    obtain ⟨draft, shows, accepts⟩ := describes.exists_draft
    have valid := shows.valid consistent
    rcases shows.coherent.finish_cases with ⟨_, types, _, finished⟩ | ⟨error, _, violates⟩
    · exact ⟨_, accepts _ finished⟩
    · exact absurd violates (valid.not_violates error)

end Schema
end SchemaBinding
