import Mathlib.Data.List.Induction
import SchemaBinding.Proofs.DeclaredTypes
import SchemaBinding.Proofs.WalkedDocuments

/-!
# Policies for built-in types

How the policy for declarations of built-in types bears on what a schema is bound to.  It is a gate: a
type that is declared under the name of a built-in one is let through silently or with a report, or it
ends the binding there.  What is let through is bound in the same way, so that a schema that no policy
stops has the same outline under all of them.
-/

namespace SchemaBinding
namespace Schema

open Xml (Spot)

/-! ## Overwritten types -/

/-- The constructs that declare something under a name, in groups within which names must differ. -/
def symbolSpaces : List (List String) :=
  [["complexType", "simpleType"], ["element"], ["attribute"]]

/-- Whether an element is one of some constructs. -/
def IsOneOf (constructs : List String) (spot : Spot) : Prop :=
  ∃ construct ∈ constructs, constructOf? spot.tag = some construct

instance (constructs : List String) (spot : Spot) : Decidable (IsOneOf constructs spot) :=
  inferInstanceAs (Decidable (∃ construct ∈ constructs, constructOf? spot.tag = some construct))

/-- Whether declarations at the top of a schema are in order: they have names, and those of one group
have different ones. -/
structure InOrder (children : List (Nat × Spot)) : Prop where
  named : ∀ space ∈ symbolSpaces, ∀ child ∈ children, IsOneOf space child.2 →
    (child.2.tag.attribute? "name").isSome
  distinct : ∀ space ∈ symbolSpaces,
    ((children.filter fun child => IsOneOf space child.2).map fun child => nameOf child.2.tag).Nodup

/-- Whether the first pass, as long as no policy stops it, looks at some declarations of a document
and no further: at all of them, or up to the first one that is not in order with those before. -/
structure LooksAt (document : Xml.Document) (seen : List (Nat × Spot)) : Prop where
  isPrefix : seen <+: document.spot.children
  inOrder : ∀ before child, before ++ [child] <+: seen →
    constructOf? document.root = some "schema" ∧ InOrder before
  ends : seen = document.spot.children ∨
    ¬(constructOf? document.root = some "schema" ∧ InOrder seen)

/-- The name of a built-in type that an element declares a type under. -/
def overwritten? (target : Option String) (spot : Spot) : Option ExpandedName :=
  if IsOneOf ["complexType", "simpleType"] spot then
    ((spot.tag.attribute? "name").map (ExpandedName.mk target)).filter isBuiltin
  else none

/-- The name that a report of an overwritten type is about. -/
def Warning.overwritten? : Warning → Option ExpandedName
  | .builtinOverwritten name => some name
  | _ => none

/-- Warnings without the reports of overwritten types. -/
def withoutOverwritten (warnings : List Warning) : List Warning :=
  warnings.filter fun warning => warning.overwritten? = none

/-! ## Gated steps -/

/-- Whether a step that depends on the policy comes from one draft to one result and one draft, except
for what it does about types that overwrite built-in ones with given names. -/
structure Gated {α : Type} (step : OverwritePolicy → Binding α) (draft : Draft)
    (names : List ExpandedName) (result : Except SchemaError α) (next : Draft) : Prop where
  runs : ∃ added, added.filterMap Warning.overwritten? = names ∧ ∀ earlier,
    outcome (step .warn) ⟨draft, earlier⟩ = (result, ⟨next, earlier ++ added⟩) ∧
    outcome (step .allow) ⟨draft, earlier⟩ = (result, ⟨next, earlier ++ withoutOverwritten added⟩)
  accepts : names = [] → ∀ earlier,
    outcome (step .deny) ⟨draft, earlier⟩ = outcome (step .allow) ⟨draft, earlier⟩
  denies : ∀ name, names.head? = some name → ∀ earlier,
    (outcome (step .deny) ⟨draft, earlier⟩).1 = .error (.builtinOverwrite name)

/-- Whether a step does not depend on the warnings before it and reports no overwritten types. -/
def Ungated {α : Type} (step : Binding α) : Prop :=
  ∀ draft, ∃ result next, Gated (fun _ => step) draft [] result next

section Steps

variable {α β : Type} {step : OverwritePolicy → Binding α} {rest : OverwritePolicy → α → Binding β}
  {draft middle next : Draft} {names others : List ExpandedName}

theorem outcome_bind_of_error
    {step : Binding α}
    {state : BindingState}
    {error : SchemaError}
    (failed : (outcome step state).1 = .error error)
    (rest : α → Binding β) :
    outcome (step >>= rest) state = (.error error, (outcome step state).2) := by
  rw [outcome_bind]
  generalize outcome step state = run at failed ⊢
  obtain ⟨result, last⟩ := run
  obtain rfl : result = .error error := failed
  rfl

theorem withoutOverwritten_append
    (warnings more : List Warning) :
    withoutOverwritten (warnings ++ more) = withoutOverwritten warnings ++ withoutOverwritten more :=
  List.filter_append ..

namespace Gated

theorem bind
    (rest : OverwritePolicy → α → Binding β)
    {value : α}
    {result : Except SchemaError β}
    (first : Gated step draft names (.ok value) middle)
    (second : Gated (fun policy => rest policy value) middle others result next) :
    Gated (fun policy => step policy >>= rest policy) draft (names ++ others) result next := by
  obtain ⟨added, isNames, run⟩ := first.runs
  obtain ⟨more, isOthers, runMore⟩ := second.runs
  constructor
  case runs =>
    refine ⟨added ++ more, by rw [List.filterMap_append, isNames, isOthers], fun earlier => ?_⟩
    rw [outcome_bind, outcome_bind, (run earlier).1, (run earlier).2]
    dsimp only
    rw [(runMore _).1, (runMore _).2, withoutOverwritten_append, List.append_assoc,
      List.append_assoc]
    exact ⟨rfl, rfl⟩
  case accepts =>
    intro none earlier
    obtain ⟨noNames, noOthers⟩ := List.append_eq_nil_iff.1 none
    rw [outcome_bind, outcome_bind, first.accepts noNames, (run earlier).2]
    exact second.accepts noOthers _
  case denies =>
    intro name isFirst earlier
    cases names with
    | nil =>
        rw [outcome_bind, first.accepts rfl, (run earlier).2]
        exact second.denies name isFirst _
    | cons other names =>
        rw [outcome_bind_of_error (first.denies other rfl earlier)]
        exact congrArg (fun name => Except.error (SchemaError.builtinOverwrite name))
          (Option.some.inj isFirst)

/-- After an error there are no more steps. -/
theorem bind_error
    {error : SchemaError}
    (first : Gated step draft names (.error error) middle) :
    Gated (fun policy => step policy >>= rest policy) draft names (.error error) middle := by
  obtain ⟨added, isNames, run⟩ := first.runs
  have fails : ∀ earlier, (outcome (step .allow) ⟨draft, earlier⟩).1 = .error error := fun earlier =>
    congrArg Prod.fst (run earlier).2
  constructor
  case runs =>
    refine ⟨added, isNames, fun earlier => ?_⟩
    rw [outcome_bind, outcome_bind, (run earlier).1, (run earlier).2]
    exact ⟨rfl, rfl⟩
  case accepts =>
    intro none earlier
    rw [outcome_bind, outcome_bind, first.accepts none, (run earlier).2]
  case denies =>
    intro name isFirst earlier
    rw [outcome_bind_of_error (first.denies name isFirst earlier)]

/-- A step that keeps the warnings whatever they are. -/
theorem of_keeps
    {step : Binding α}
    {result : Except SchemaError α}
    (keeps : ∀ earlier, outcome step ⟨draft, earlier⟩ = (result, ⟨next, earlier⟩)) :
    Gated (fun _ => step) draft [] result next := by
  refine ⟨⟨[], rfl, fun earlier => ?_⟩, fun _ _ => rfl, nofun⟩
  rw [keeps, withoutOverwritten, List.filter_nil, List.append_nil]
  exact ⟨rfl, rfl⟩

theorem pure
    (value : α)
    (draft : Draft) :
    Gated (fun _ => Pure.pure value) draft [] (.ok value) draft :=
  of_keeps fun _ => rfl

theorem throw
    (error : SchemaError)
    (draft : Draft) :
    Gated (fun _ => (MonadExcept.throw error : Binding α)) draft [] (.error error) draft :=
  of_keeps fun _ => rfl

end Gated

namespace Ungated

/-- A step that may change the draft and keeps the warnings. -/
theorem of_keeps
    {step : Binding α}
    (keeps : ∀ draft, ∃ result next, ∀ earlier,
      outcome step ⟨draft, earlier⟩ = (result, ⟨next, earlier⟩)) :
    Ungated step := by
  intro draft
  obtain ⟨result, next, run⟩ := keeps draft
  exact ⟨result, next, .of_keeps run⟩

theorem pure
    (value : α) :
    Ungated (Pure.pure value) :=
  fun draft => ⟨.ok value, draft, .pure value draft⟩

theorem throw
    (error : SchemaError) :
    Ungated (MonadExcept.throw error : Binding α) :=
  fun draft => ⟨.error error, draft, .throw error draft⟩

theorem need
    (part : Deferred α) :
    Ungated (Binding.need part) := by
  cases part with
  | ok value => exact .pure value
  | error error => exact .throw error

theorem warn
    {warning : Warning}
    (isOther : warning.overwritten? = none) :
    Ungated (Binding.warn warning) := by
  have kept : withoutOverwritten [warning] = [warning] :=
    List.filter_cons_of_pos (decide_eq_true isOther)
  refine fun draft => ⟨.ok (), draft, ⟨[warning], ?_, fun earlier => ?_⟩, fun _ _ => rfl, nofun⟩
  · rw [List.filterMap_cons, isOther]
    rfl
  · rw [kept]
    exact ⟨rfl, rfl⟩

theorem bind
    {step : Binding α}
    {rest : α → Binding β}
    (first : Ungated step)
    (second : ∀ value, Ungated (rest value)) :
    Ungated (step >>= rest) := by
  intro draft
  obtain ⟨result, middle, gated⟩ := first draft
  cases result with
  | error error => exact ⟨_, _, gated.bind_error⟩
  | ok value =>
      obtain ⟨result, next, gatedRest⟩ := second value middle
      exact ⟨result, next, gated.bind (fun _ => rest) gatedRest⟩

theorem addClass
    (name : String)
    (package : PackageId)
    (enclosing : Option ClassId) :
    Ungated (Binding.addClass name package enclosing) :=
  of_keeps fun draft => ⟨.ok (draft.addClass name package enclosing).1,
    (draft.addClass name package enclosing).2, fun _ => rfl⟩

theorem typeOf
    (id : ClassId) :
    Ungated (Binding.typeOf id) :=
  of_keeps fun draft => ⟨(draft.typeOf id).mapError .model, draft, fun earlier =>
    outcome_typeOf id ⟨draft, earlier⟩⟩

theorem addField
    (owner : ClassId)
    (name : String)
    (type : TypeRef) :
    Ungated (Binding.addField owner name type) := by
  refine of_keeps fun draft => ?_
  cases added : draft.addField owner name type with
  | error error =>
      refine ⟨.error (.model error), draft, fun earlier => ?_⟩
      simp only [outcome_addField, added]
  | ok result =>
      refine ⟨.ok (), result.2, fun earlier => ?_⟩
      simp only [outcome_addField, added]

theorem addSupertype
    (owner supertype : ClassId) :
    Ungated (Binding.addSupertype owner supertype) := by
  refine of_keeps fun draft => ?_
  cases added : draft.addSupertype owner supertype with
  | error error =>
      refine ⟨.error (.model error), draft, fun earlier => ?_⟩
      simp only [outcome_addSupertype, added]
  | ok result =>
      refine ⟨.ok (), result, fun earlier => ?_⟩
      simp only [outcome_addSupertype, added]

end Ungated

end Steps

/-! ## The second pass -/

section SecondPass

variable (environment : Environment) (owner : ClassId)

theorem ungated_bindAttribute
    (item : AttributeItem) :
    Ungated (bindAttribute environment owner item) := by
  cases item with
  | reference name =>
      exact .bind (.need name) fun _ => .bind (.need _) fun _ => .addField _ _ _
  | declaration name use =>
      exact .bind (.need name) fun _ => .bind (.need _) fun _ => .addField _ _ _
  | unsupported construct => exact .warn rfl

theorem ungated_bindAttributes
    (items : List AttributeItem) :
    Ungated (bindAttributes environment owner items) := by
  induction items with
  | nil => exact .pure ()
  | cons item rest inductionHypothesis =>
      exact .bind (ungated_bindAttribute environment owner item) fun _ => inductionHypothesis

theorem ungated_isRepeated
    (around : Bool)
    (own : Deferred Bool) :
    Ungated (isRepeated around own) := by
  unfold isRepeated
  split
  · exact .pure true
  · exact .need own

/-- The steps of a particle before its type is known. -/
theorem ungated_named
    {rest : Bool → String → Binding Unit}
    (around : Bool)
    (own : Deferred Bool)
    (name : Deferred String)
    (others : ∀ repeated name, Ungated (rest repeated name)) :
    Ungated (do
      let repeated ← isRepeated around own
      let name ← Binding.need name
      rest repeated name) :=
  .bind (ungated_isRepeated around own) fun repeated => .bind (.need name) fun name =>
    others repeated name

mutual

theorem ungated_bindParticle
    (owner : ClassId)
    (around : Bool)
    (particle : Particle) :
    Ungated (bindParticle environment owner around particle) := by
  match particle with
  | .reference own name =>
      rw [bindParticle]
      refine .bind (ungated_isRepeated around own) fun repeated => .bind (.need name) fun name => ?_
      cases environment.globals.elements.lookup name with
      | none => exact .throw _
      | some element => exact .bind (.need _) fun _ => .addField _ _ _
  | .element own name (.named reference) body =>
      rw [bindParticle]
      exact ungated_named around own name fun _ _ => .bind (.need _) fun _ => .addField _ _ _
  | .element own name (.inline definition) (some body) =>
      rw [bindParticle]
      · exact ungated_named around own name fun _ _ => .bind (.addClass _ _ _) fun nested =>
          .bind (ungated_bindContents nested body) fun _ => .bind (.typeOf nested) fun _ =>
            .addField _ _ _
      · nofun
  | .element own name .absent (some body) =>
      rw [bindParticle]
      · exact ungated_named around own name fun _ _ => .bind (.addClass _ _ _) fun nested =>
          .bind (ungated_bindContents nested body) fun _ => .bind (.typeOf nested) fun _ =>
            .addField _ _ _
      · nofun
  | .element own name (.inline definition) none =>
      rw [bindParticle]
      exact ungated_named around own name fun _ _ => .bind (.need _) fun _ => .addField _ _ _
  | .element own name .absent none =>
      rw [bindParticle]
      exact ungated_named around own name fun _ _ => .addField _ _ _
  | .group own particles =>
      rw [bindParticle]
      exact .bind (ungated_isRepeated around own) fun repeated =>
        ungated_bindParticles owner repeated particles
  | .unsupported construct =>
      rw [bindParticle]
      exact .warn rfl

theorem ungated_bindParticles
    (owner : ClassId)
    (around : Bool)
    (particles : List Particle) :
    Ungated (bindParticles environment owner around particles) := by
  match particles with
  | [] =>
      rw [bindParticles]
      exact .pure ()
  | particle :: rest =>
      rw [bindParticles]
      exact .bind (ungated_bindParticle owner around particle) fun _ =>
        ungated_bindParticles owner around rest

theorem ungated_bindContent
    (owner : ClassId)
    (content : Content) :
    Ungated (bindContent environment owner content) := by
  match content with
  | .group own particles =>
      rw [bindContent]
      exact .bind (.need own) fun repeated => ungated_bindParticles owner repeated particles
  | .attributeItem item =>
      rw [bindContent]
      exact ungated_bindAttribute environment owner item
  | .complexContent base added =>
      rw [bindContent]
      refine .bind (.need base) fun base => .bind (.need _) fun kind => ?_
      have rest := ungated_bindContents owner added
      cases kind with
      | any => exact .bind (.pure ()) fun _ => rest
      | complex supertype => exact .bind (.addSupertype _ _) fun _ => rest
      | simple type => exact .bind (.warn rfl) fun _ => rest
  | .simpleContent base added =>
      rw [bindContent]
      refine .bind (.need base) fun base => .bind (.need _) fun kind => ?_
      have rest := ungated_bindAttributes environment owner added
      cases kind with
      | any => exact .bind (.warn rfl) fun _ => rest
      | complex supertype => exact .bind (.addSupertype _ _) fun _ => rest
      | simple type => exact .bind (.addField _ _ _) fun _ => rest
  | .unsupported construct =>
      rw [bindContent]
      exact .warn rfl

theorem ungated_bindContents
    (owner : ClassId)
    (contents : List Content) :
    Ungated (bindContents environment owner contents) := by
  match contents with
  | [] =>
      rw [bindContents]
      exact .pure ()
  | content :: rest =>
      rw [bindContents]
      exact .bind (ungated_bindContent owner content) fun _ => ungated_bindContents owner rest

end

theorem ungated_bindBodies
    (bodies : List (ClassId × List Content)) :
    Ungated (bindBodies environment bodies) := by
  induction bodies with
  | nil => exact .pure ()
  | cons body rest inductionHypothesis =>
      exact .bind (ungated_bindContents environment body.1 body.2) fun _ => inductionHypothesis

end SecondPass

/-! ## The first pass -/

section FirstPass

variable {setting : Setting} {spot : Spot}

/-- A way of creating classes, under another policy. -/
def Setting.under (setting : Setting) (policy : OverwritePolicy) : Setting :=
  { setting with overwrite := policy }

variable (setting) in
theorem gated_checkOverwrite
    (name : ExpandedName)
    (draft : Draft) :
    Gated (fun policy => Registry.checkOverwrite (setting.under policy) name) draft
      ((some name).filter isBuiltin).toList (.ok ()) draft := by
  unfold Registry.checkOverwrite
  by_cases builtin : isBuiltin name
  · simp only [if_pos builtin, Option.filter_some_pos builtin, Option.toList_some]
    refine ⟨⟨[.builtinOverwritten name], rfl, fun earlier => ⟨rfl, ?_⟩⟩, ?_, ?_⟩
    · rw [show withoutOverwritten [.builtinOverwritten name] = [] from rfl, List.append_nil]
      rfl
    · intro noName
      cases noName
    · intro other isFirst earlier
      obtain rfl := Option.some.inj isFirst
      rfl
  · simp only [Option.filter_some, if_neg builtin, Option.toList_none]
    exact .pure () draft

theorem ungated_insertNew
    {Entry : Type}
    (entries : List (ExpandedName × Entry))
    (name : ExpandedName)
    (definition : Entry) :
    Ungated (Registry.insertNew entries name definition) := by
  unfold Registry.insertNew
  split
  · exact .throw _
  · exact .pure _

theorem ungated_addTopClass
    (name : ExpandedName) :
    Ungated (Registry.addTopClass setting name) :=
  .bind (.addClass _ _ _) fun _ => .pure _

theorem ungated_declaredName
    (name : Deferred String) :
    Ungated (Registry.declaredName setting name) :=
  .bind (.need name) fun _ => .pure _

variable (setting) in
/-- The declaration of a type is noted after the policy has been applied to its name. -/
theorem registerAt_of_type
    {child : Nat × Spot}
    (isType : IsOneOf ["complexType", "simpleType"] child.2)
    (registry : Registry) :
    ∃ rest : ExpandedName → Binding Registry, (∀ name, Ungated (rest name)) ∧
      ∀ policy, registerAt (setting.under policy) registry child =
        Registry.declaredName setting (required child.2.tag "name") >>= fun name =>
          Registry.checkOverwrite (setting.under policy) name >>= fun _ => rest name := by
  obtain ⟨construct, known, isConstruct⟩ := isType
  unfold registerAt declarationAt?
  rw [isConstruct]
  rcases List.mem_pair.1 known with rfl | rfl
  · refine ⟨fun name => do
      let created ← Registry.addTopClass setting name
      let types ← Registry.insertNew registry.globals.types name (.complex created.1 created.2)
      return { globals := { registry.globals with types }, bodies := registry.bodies ++
        [(created.1, contents child.2.scope child.2.content)] }, fun name => ?_, fun policy => rfl⟩
    exact .bind (ungated_addTopClass name) fun _ => .bind (ungated_insertNew _ _ _) fun _ => .pure _
  · refine ⟨fun name => do
      let types ← Registry.insertNew registry.globals.types name
        (.simple (simpleType child.2.scope child.2.content))
      return { registry with globals := { registry.globals with types } }, fun name => ?_,
      fun policy => rfl⟩
    exact .bind (ungated_insertNew _ _ _) fun _ => .pure _

variable (setting) in
/-- The policy does not matter where no type is declared. -/
theorem registerAt_of_noType
    {child : Nat × Spot}
    (noType : ¬IsOneOf ["complexType", "simpleType"] child.2)
    (registry : Registry) :
    Ungated (registerAt setting registry child) ∧
      ∀ policy, registerAt (setting.under policy) registry child =
        registerAt setting registry child := by
  have other : ∀ construct ∈ ["complexType", "simpleType"],
      constructOf? child.2.tag ≠ some construct :=
    fun construct known isConstruct => noType ⟨construct, known, isConstruct⟩
  unfold registerAt declarationAt?
  split
  next declaration declared =>
    split at declared
    next isComplex => exact absurd isComplex (other _ (by decide))
    next isSimple => exact absurd isSimple (other _ (by decide))
    next =>
      cases declared
      cases body? child.2.scope child.2.content with
      | none =>
          exact ⟨.bind (ungated_declaredName _) fun _ => .bind (ungated_insertNew _ _ _) fun _ =>
            .pure _, fun _ => rfl⟩
      | some body =>
          exact ⟨.bind (ungated_declaredName _) fun name => .bind (ungated_addTopClass name) fun _ =>
            .bind (ungated_insertNew _ _ _) fun _ => .pure _, fun _ => rfl⟩
    next =>
      cases declared
      exact ⟨.bind (ungated_declaredName _) fun _ => .bind (ungated_insertNew _ _ _) fun _ =>
        .pure _, fun _ => rfl⟩
    next => cases declared
    next => cases declared
    next => cases declared
    next => cases declared
    next =>
      split_ifs at declared
      · cases declared
        exact ⟨.bind (.warn rfl) fun _ => .pure _, fun _ => rfl⟩
      · cases declared
        exact ⟨.bind (.warn rfl) fun _ => .pure _, fun _ => rfl⟩
  next => exact ⟨.pure _, fun _ => rfl⟩

variable (setting) in
/-- Noting a declaration is gated by the name of the built-in type that it overwrites. -/
theorem gated_registerAt
    (registry : Registry)
    (child : Nat × Spot)
    (draft : Draft) :
    ∃ result next, Gated (fun policy => registerAt (setting.under policy) registry child) draft
      (overwritten? setting.target child.2).toList result next := by
  unfold overwritten?
  by_cases isType : IsOneOf ["complexType", "simpleType"] child.2
  · obtain ⟨rest, ungated, run⟩ := registerAt_of_type setting isType registry
    rw [if_pos isType]
    simp only [run]
    unfold Registry.declaredName required
    cases child.2.tag.attribute? "name" with
    | none => exact ⟨_, _, (Gated.throw _ draft).bind_error⟩
    | some text =>
        obtain ⟨result, next, gated⟩ := ungated ⟨setting.target, text⟩ draft
        refine ⟨result, next, ?_⟩
        have noted := (gated_checkOverwrite setting ⟨setting.target, text⟩ draft).bind
          (fun _ _ => rest ⟨setting.target, text⟩) gated
        rwa [List.append_nil] at noted
  · obtain ⟨ungated, run⟩ := registerAt_of_noType setting isType registry
    rw [if_neg isType]
    simp only [run]
    exact ungated draft

/-! ## Declarations in order -/

theorem InOrder.of_isPrefix
    {children seen : List (Nat × Spot)}
    (inOrder : InOrder children)
    (isPrefix : seen <+: children) :
    InOrder seen where
  named space known child member := inOrder.named space known child (isPrefix.subset member)
  distinct space known :=
    (inOrder.distinct space known).sublist ((isPrefix.sublist.filter _).map _)

variable (setting) in
/-- Names that are noted are those of the declarations of one group. -/
theorem map_fst_foldl_note
    {Entry : Type}
    (entries : Registry → List (ExpandedName × Entry))
    (space : List String)
    (adds : ∀ registry child, (entries (registry.note setting child)).map Prod.fst =
      (entries registry).map Prod.fst ++
        if IsOneOf space child.2 then [setting.nameAt child.2] else [])
    (registry : Registry)
    (children : List (Nat × Spot)) :
    (entries (children.foldl (Registry.note setting) registry)).map Prod.fst =
      (entries registry).map Prod.fst ++
        (children.filter fun child => IsOneOf space child.2).map fun child =>
          setting.nameAt child.2 := by
  induction children generalizing registry with
  | nil => simp
  | cons child rest inductionHypothesis =>
      rw [List.foldl_cons, inductionHypothesis, adds, List.append_assoc, List.filter_cons]
      split_ifs <;> simp_all

variable (setting) in
/-- Expanded names differ if the names themselves do. -/
theorem nodup_map_nameAt_iff
    {children : List (Nat × Spot)} :
    (children.map fun child => setting.nameAt child.2).Nodup ↔
      (children.map fun child => nameOf child.2.tag).Nodup := by
  have injective : Function.Injective (ExpandedName.mk setting.target) := fun _ _ same =>
    (ExpandedName.mk.inj same).2
  rw [← List.nodup_map_iff injective, List.map_map]
  rfl

theorem isOneOf_singleton_iff
    {construct : String} :
    IsOneOf [construct] spot ↔ constructOf? spot.tag = some construct := by
  simp [IsOneOf]

variable (setting) in
/-- What is noted is proper if no two declarations in one symbol space have one name. -/
theorem proper_foldl_note_iff
    (children : List (Nat × Spot)) :
    (children.foldl (Registry.note (setting.under .allow)) {}).globals.Proper ↔
      ∀ space ∈ symbolSpaces, ((children.filter fun child => IsOneOf space child.2).map
        fun child => nameOf child.2.tag).Nodup := by
  have types := map_fst_foldl_note (setting.under .allow)
    (fun registry => registry.globals.types) ["complexType", "simpleType"]
    (fun registry child => by
      simp only [Registry.note, notedType?, IsOneOf, List.map_append]
      split_ifs <;> simp_all) {} children
  have elements := map_fst_foldl_note (setting.under .allow)
    (fun registry => registry.globals.elements) ["element"]
    (fun registry child => by
      simp only [Registry.note, notedElement?, isOneOf_singleton_iff, List.map_append]
      split_ifs <;> rfl) {} children
  have attributes := map_fst_foldl_note (setting.under .allow)
    (fun registry => registry.globals.attributes) ["attribute"]
    (fun registry child => by
      simp only [Registry.note, notedAttribute?, isOneOf_singleton_iff, List.map_append]
      split_ifs <;> rfl) {} children
  simp only [List.map_nil, List.nil_append] at types elements attributes
  simp only [symbolSpaces, List.forall_mem_cons, ← nodup_map_nameAt_iff (setting.under .allow),
    ← types, ← elements, ← attributes]
  constructor
  · exact fun proper => ⟨proper.types, proper.elements, proper.attributes, List.forall_mem_nil _⟩
  · exact fun distinct => ⟨distinct.1, distinct.2.1, distinct.2.2.1⟩

/-- Without regard to the policy, what is declared needs a name and nothing else. -/
theorem registrable_under_allow_iff
    {spot : Spot} :
    Registrable (setting.under .allow) spot ↔
      ∀ space ∈ symbolSpaces, IsOneOf space spot → (spot.tag.attribute? "name").isSome := by
  have declares_iff : (∃ space ∈ symbolSpaces, IsOneOf space spot) ↔ constructOf? spot.tag ∈
      [some "complexType", some "simpleType", some "element", some "attribute"] := by
    simp [symbolSpaces, IsOneOf, or_assoc]
  constructor
  · exact fun registrable space known isOne =>
      registrable.named (declares_iff.1 ⟨space, known, isOne⟩)
  · intro named
    refine ⟨fun known => ?_, fun _ _ => (by decide : OverwritePolicy.allow ≠ .deny)⟩
    obtain ⟨space, isSpace, isOne⟩ := declares_iff.2 known
    exact named space isSpace isOne

variable (setting) in
/-- Declarations are in order if they can be noted without regard to the policy. -/
theorem inOrder_iff
    (children : List (Nat × Spot)) :
    InOrder children ↔
      (∀ child ∈ children, Registrable (setting.under .allow) child.2) ∧
        (children.foldl (Registry.note (setting.under .allow)) {}).globals.Proper := by
  rw [proper_foldl_note_iff]
  constructor
  · rintro ⟨named, distinct⟩
    exact ⟨fun child member => registrable_under_allow_iff.2 fun space known =>
      named space known child member, distinct⟩
  · rintro ⟨registrable, distinct⟩
    exact ⟨fun space known child member =>
      registrable_under_allow_iff.1 (registrable child member) space known, distinct⟩

section Fold

variable {package : String} {draft next : Draft} {names : List ExpandedName}
  {result : Except SchemaError Registry} {children : List (Nat × Spot)}

/-- The first pass succeeds if the declarations are in order, as long as no policy stops it. -/
theorem inOrder_iff_of_gated
    (isFirst : setting.package = ⟨0⟩)
    (shows : Shows package {} draft [])
    (gated : Gated (fun policy => children.foldlM (registerAt (setting.under policy)) {}) draft names
      result next) :
    InOrder children ↔ ∃ registry, result = .ok registry := by
  have length : ([] : List Portrait).length = ({} : Registry).bodies.length := rfl
  have isFirstUnder : (setting.under .allow).package = ⟨0⟩ := isFirst
  have settles : Settles package {} [] (children.foldlM (registerAt (setting.under .allow)) {}) _ _
      _ :=
    settles_registerAll isFirstUnder length ⟨.nil, .nil, .nil⟩ children
  obtain ⟨added, _, run⟩ := gated.runs
  have isResult := congrArg Prod.fst (run []).2
  have start : Shows package {} (⟨draft, []⟩ : BindingState).draft [] := shows
  rw [inOrder_iff setting]
  constructor
  · intro inOrder
    obtain ⟨last, leads, _⟩ := settles.complete start ⟨inOrder, rfl, rfl⟩
    exact ⟨_, isResult.symm.trans (congrArg Prod.fst leads)⟩
  · rintro ⟨registry, rfl⟩
    obtain ⟨_, ⟨inOrder, _⟩, _⟩ := settles.sound start (run []).2
    exact inOrder

variable (setting) in
/-- The first pass is gated by the names of built-in types that the declarations it looks at
overwrite. -/
theorem gated_registerAll
    (isFirst : setting.package = ⟨0⟩)
    (shows : Shows package {} draft [])
    (children : List (Nat × Spot)) :
    ∃ seen result next,
      Gated (fun policy => children.foldlM (registerAt (setting.under policy)) {}) draft
        (seen.filterMap fun child => overwritten? setting.target child.2) result next ∧
      seen <+: children ∧ (∀ before child, before ++ [child] <+: seen → InOrder before) ∧
      (seen = children ∨ ¬InOrder seen) := by
  -- The last declaration is looked at if those before it are in order.
  induction children using List.reverseRecOn with
  | nil =>
      refine ⟨[], .ok {}, draft, .pure _ draft, List.prefix_rfl, fun before child isPrefix => ?_,
        .inl rfl⟩
      cases before <;> cases List.prefix_nil.1 isPrefix
  | append_singleton children child inductionHypothesis =>
      obtain ⟨seen, result, middle, gated, isPrefix, inOrder, ends⟩ := inductionHypothesis
      have succeeds := inOrder_iff_of_gated isFirst shows gated
      simp only [List.foldlM_append, List.foldlM_cons, List.foldlM_nil, bind_pure]
      cases result with
      | error error =>
          have disorder : ¬InOrder children := by
            rw [succeeds]
            exact fun ⟨_, impossible⟩ => nomatch impossible
          have stops : ¬InOrder seen := ends.elim (fun same => same ▸ disorder) id
          exact ⟨seen, _, _, gated.bind_error, isPrefix.trans (List.prefix_append _ _), inOrder,
            .inr stops⟩
      | ok registry =>
          have ordered : InOrder children := succeeds.2 ⟨registry, rfl⟩
          obtain rfl : seen = children :=
            ends.resolve_right (not_not.2 (ordered.of_isPrefix isPrefix))
          obtain ⟨result, next, gatedLast⟩ := gated_registerAt setting registry child
            middle
          refine ⟨seen ++ [child], result, next, ?_, List.prefix_rfl, ?_, .inl rfl⟩
          · have names : [child].filterMap (fun child => overwritten? setting.target child.2) =
                (overwritten? setting.target child.2).toList := by
              rw [List.filterMap_eq_flatMap_toList, List.flatMap_singleton]
            rw [List.filterMap_append, names]
            exact gated.bind _ gatedLast
          · intro before other within
            rcases List.prefix_concat_iff.1 within with same | within
            · obtain rfl := (List.append_inj' same rfl).1
              exact ordered
            · exact inOrder before other within

end Fold

end FirstPass

/-! ## Whole documents -/

theorem ungated_finishBinding : Ungated finishBinding :=
  .of_keeps fun draft => ⟨draft.finish.mapError .model, draft, fun _ => outcome_finishBinding _⟩

/-- The binding of a schema is gated by the names of built-in types that the types it looks at
overwrite. -/
theorem gated_bothPasses
    (package : Option String)
    {document : Xml.Document}
    (isSchema : constructOf? document.root = some "schema") :
    ∃ seen result next, LooksAt document seen ∧
      Gated (fun policy => do
        bothPasses ⟨package, policy⟩ document
        finishBinding) (initialState ⟨package, .allow⟩ document).draft
        (seen.filterMap fun child =>
          overwritten? (document.root.attribute? "targetNamespace") child.2) result next := by
  let setting := settingOf ⟨package, .allow⟩ document
  let rest (registry : Registry) : Binding Outline := do
    bindBodies ⟨document.root.attribute? "targetNamespace", ⟨0⟩, registry.globals⟩ registry.bodies
    finishBinding
  have split (policy : OverwritePolicy) : (do
      bothPasses ⟨package, policy⟩ document
      finishBinding) =
        document.spot.children.foldlM (registerAt (setting.under policy)) {} >>= rest := by
    unfold bothPasses
    rw [foldlM_declarations, bind_assoc]
    rfl
  obtain ⟨seen, result, middle, gated, isPrefix, inOrder, ends⟩ :=
    gated_registerAll setting rfl (shows_initialState ⟨package, .allow⟩ document)
      document.spot.children
  have looksAt : LooksAt document seen :=
    ⟨isPrefix, fun before child within => ⟨isSchema, inOrder before child within⟩,
      ends.imp_right fun disorder both => disorder both.2⟩
  simp only [split]
  cases result with
  | error error => exact ⟨seen, _, _, looksAt, gated.bind_error⟩
  | ok registry =>
      have ungated : Ungated (rest registry) :=
        .bind (ungated_bindBodies _ _) fun _ => ungated_finishBinding
      obtain ⟨result, next, gatedRest⟩ := ungated middle
      have whole := gated.bind (fun _ => rest) gatedRest
      rw [List.append_nil] at whole
      exact ⟨seen, result, next, looksAt, whole⟩

section Accepted

variable {package : Option String} {document : Xml.Document} {outline : Outline}
  {name : ExpandedName}

/-- What a schema that is accepted under the strictest policy notes is not under names of built-in
types. -/
theorem not_isBuiltin_of_denied
    (accepted : (bindXml ⟨package, .deny⟩ document).1 = .ok outline)
    {definition : TypeDefinition}
    (noted : (environmentOf ⟨package, .deny⟩ document).globals.types.lookup name = some definition) :
    ¬isBuiltin name := by
  obtain ⟨_, describes, _⟩ := depicts_of_accepted accepted
  have allowed : ∀ child ∈ document.spot.children, ∀ construct ∈ ["complexType", "simpleType"],
      constructOf? child.2.tag = some construct →
        ¬isBuiltin ((settingOf ⟨package, .deny⟩ document).nameAt child.2) := by
    intro child member construct known isConstruct builtin
    refine (describes.registrable child member).allowed ?_ builtin rfl
    rw [isConstruct]
    simpa using known
  cases definition with
  | complex id type =>
      obtain ⟨child, member, isComplex, rfl, _⟩ := complex_of_mem_types (mem_of_lookup noted)
      exact allowed child member _ (by decide) isComplex
  | simple definition =>
      obtain ⟨child, member, isSimple, rfl, _⟩ := simple_mem_types_iff.1 (mem_of_lookup noted)
      exact allowed child member _ (by decide) isSimple

/-- A schema that is accepted under the strictest policy declares no type under the name of a built-in
one, and refers by such a name to the built-in type, whatever the policy. -/
theorem resolves_of_denied
    (accepted : (bindXml ⟨package, .deny⟩ document).1 = .ok outline)
    {type : TypeRef}
    (builtin : builtinType? name = some type)
    (policy : OverwritePolicy) :
    NoType document name ∧
      (∀ pending, (environmentOf ⟨package, policy⟩ document).globals.resolveUse pending
        (.named (.ok name)) = .ok type) ∧
      (environmentOf ⟨package, policy⟩ document).globals.resolveBase name =
        .ok (if name = anyType then .any else .simple type) := by
  have isBuiltin : isBuiltin name := by rw [isBuiltin, builtin]; rfl
  have undeclared : (environmentOf ⟨package, .deny⟩ document).globals.types.lookup name = none :=
    Option.eq_none_iff_forall_ne_some.2 fun definition noted =>
      not_isBuiltin_of_denied accepted noted isBuiltin
  obtain ⟨_, describes, _⟩ := depicts_of_accepted accepted
  have same : environmentOf ⟨package, policy⟩ document = environmentOf ⟨package, .deny⟩ document :=
    rfl
  rw [same]
  have resolved : ∀ pending, (environmentOf ⟨package, .deny⟩ document).globals.resolveUse pending
      (.named (.ok name)) = .ok type := by
    intro pending
    rw [resolveUse_of_undeclared undeclared, builtin, Option.elim_some]
  refine ⟨describes.registered.noType_of_lookup undeclared, resolved, ?_⟩
  simp only [Globals.resolveBase, undeclared, Globals.resolveType, resolved]
  split <;> rfl

end Accepted

/-- What a document is bound to under each policy depends on the built-in types that the types the
first pass looks at overwrite. -/
theorem exists_looksAt
    (package : Option String)
    (document : Xml.Document) :
    ∃ seen, LooksAt document seen ∧
      let names := seen.filterMap fun child =>
        overwritten? (document.root.attribute? "targetNamespace") child.2
      let under := fun policy => bindXml ⟨package, policy⟩ document
      (under .warn).1 = (under .allow).1 ∧
      (under .warn).2.filterMap Warning.overwritten? = names ∧
      withoutOverwritten (under .warn).2 = (under .allow).2 ∧
      (∀ name, names.head? = some name → (under .deny).1 = .error (.builtinOverwrite name)) ∧
      (names = [] → under .deny = under .allow) := by
  by_cases isSchema : constructOf? document.root = some "schema"
  · obtain ⟨seen, result, next, looksAt, gated⟩ := gated_bothPasses package isSchema
    obtain ⟨added, isNames, run⟩ := gated.runs
    have ends (policy : OverwritePolicy) : bindXml ⟨package, policy⟩ document =
        let ended := outcome (do
          bothPasses ⟨package, policy⟩ document
          finishBinding) ⟨(initialState ⟨package, .allow⟩ document).draft, []⟩
        (ended.1, ended.2.warnings) :=
      bindXml_of_isSchema ⟨package, policy⟩ isSchema
    refine ⟨seen, looksAt, ?_⟩
    dsimp only at ends ⊢
    rw [ends, ends, ends, (run []).1, (run []).2]
    refine ⟨rfl, isNames, rfl, fun name isFirst => gated.denies name isFirst [], fun none => ?_⟩
    rw [gated.accepts none, (run []).2]
  · have refused (policy : OverwritePolicy) : bindXml ⟨package, policy⟩ document =
        (.error (.notASchema document.root.name.localName), []) := by
      unfold bindXml Document.ofXml
      rw [if_neg isSchema]
    refine ⟨[], ⟨List.nil_prefix, fun before child within => ?_, .inr fun both => isSchema both.1⟩,
      ?_⟩
    · cases before <;> cases List.prefix_nil.1 within
    · dsimp only
      rw [refused, refused, refused]
      exact ⟨rfl, rfl, rfl, nofun, fun _ => rfl⟩

/-- The policy for declarations of built-in types is a gate.  Reporting such declarations or allowing
them makes no difference for what a document is bound to, and the warnings differ by one report for
each type that the first pass looks at and that has the name of a built-in one.  If such declarations
are denied, the first of these types is refused; if there are none, the result is the same.  In a
schema that is accepted then, the names of built-in types stand for the built-in types under every
policy. -/
theorem bindXml_overwrite
    (package : Option String)
    (document : Xml.Document) :
    ∃ seen, LooksAt document seen ∧
      let names := seen.filterMap fun child =>
        overwritten? (document.root.attribute? "targetNamespace") child.2
      let under := fun policy => bindXml ⟨package, policy⟩ document
      (under .warn).1 = (under .allow).1 ∧
      (under .warn).2.filterMap Warning.overwritten? = names ∧
      withoutOverwritten (under .warn).2 = (under .allow).2 ∧
      (∀ name, names.head? = some name → (under .deny).1 = .error (.builtinOverwrite name)) ∧
      (names = [] → under .deny = under .allow) ∧
      ∀ outline, (under .deny).1 = .ok outline →
        ∀ policy, (under policy).1 = .ok outline ∧
          ∀ name type, builtinType? name = some type → NoType document name ∧
            (∀ pending, (environmentOf ⟨package, policy⟩ document).globals.resolveUse pending
              (.named (.ok name)) = .ok type) ∧
            (environmentOf ⟨package, policy⟩ document).globals.resolveBase name =
              .ok (if name = anyType then .any else .simple type) := by
  obtain ⟨seen, looksAt, sameResult, reports, sameWarnings, denies, accepts⟩ :=
    exists_looksAt package document
  refine ⟨seen, looksAt, sameResult, reports, sameWarnings, denies, accepts, ?_⟩
  intro outline accepted policy
  refine ⟨?_, fun name type builtin => resolves_of_denied accepted builtin policy⟩
  cases isFirst : (seen.filterMap fun child =>
      overwritten? (document.root.attribute? "targetNamespace") child.2).head? with
  | some name =>
      rw [denies name isFirst] at accepted
      cases accepted
  | none =>
      have allowed := accepts (List.head?_eq_none_iff.1 isFirst)
      rw [allowed] at accepted
      cases policy with
      | deny => rwa [allowed]
      | warn => rwa [sameResult]
      | allow => exact accepted

/-- A schema of the namespace of the schema language itself that declares two types, the second one under
the name of a built-in type. -/
def overwritingSchema : Xml.Document where
  root := ⟨schemaName "schema", [], [⟨⟨none, "targetNamespace"⟩, schemaNamespace⟩]⟩
  children := [
    schemaNode "simpleType" [("name", "shoeSize")] [],
    schemaNode "simpleType" [("name", "string")] []]

example :
    (bindXml ⟨none, .deny⟩ overwritingSchema).1 = .error (.builtinOverwrite (schemaName "string")) ∧
      (bindXml ⟨none, .warn⟩ overwritingSchema).2 = [.builtinOverwritten (schemaName "string")] ∧
      (bindXml ⟨none, .allow⟩ overwritingSchema).2 = [] := by
  decide +kernel

end Schema
end SchemaBinding
