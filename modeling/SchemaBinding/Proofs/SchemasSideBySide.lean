import SchemaBinding.Proofs.SideBySide

/-!
# Schemas side by side

A schema is bound twice, once as it is and once in other words.  Every step of the second run does
what the same step of the first run does, from the resolution of types to both passes as a whole.
-/

namespace SchemaBinding
namespace Schema
namespace Retelling

variable {retelling : Retelling}

/-! ## Resolution -/

section Resolution

variable (known : Globals)

theorem lookup_types
    (name : ExpandedName) :
    (retelling.globals known).types.lookup name =
      (known.types.lookup name).map retelling.definition :=
  lookup_map _ _ _

theorem lookup_elements
    (name : ExpandedName) :
    (retelling.globals known).elements.lookup name =
      (known.elements.lookup name).map retelling.element :=
  lookup_map _ _ _

theorem lookup_attributes
    (name : ExpandedName) :
    (retelling.globals known).attributes.lookup name =
      (known.attributes.lookup name).map (Use.mapFaults retelling.retell) :=
  lookup_map _ _ _

theorem retype_string : retelling.retype .string = .string := by
  have isString : builtinType? (schemaName "string") = some .string := by decide
  exact retelling.builtin isString

theorem retype_object : retelling.retype .object = .object := by
  have isObject : builtinType? anyType = some .object := by decide
  exact retelling.builtin isObject

/-- Types that the second run keeps match themselves. -/
theorem matches_kept
    {type : TypeRef}
    (kept : retelling.retype type = type) :
    Matches retelling.errors retelling.retype (.ok type) (.ok type) := by
  have same : Matches retelling.errors retelling.retype (.ok type) (.ok (retelling.retype type)) :=
    .ok type
  rwa [kept] at same

theorem lookup_complex
    {name : ExpandedName}
    {id : ClassId}
    {type : TypeRef}
    (declared : known.types.lookup name = some (.complex id type)) :
    (retelling.globals known).types.lookup name = some (.complex id (retelling.retype type)) := by
  rw [lookup_types, declared]
  rfl

theorem lookup_simple
    {name : ExpandedName}
    {definition : SimpleType}
    (declared : known.types.lookup name = some (.simple definition)) :
    (retelling.globals known).types.lookup name =
      some (.simple (definition.mapFaults retelling.retell)) := by
  rw [lookup_types, declared]
  rfl

theorem lookup_undeclared
    {name : ExpandedName}
    (undeclared : known.types.lookup name = none) :
    (retelling.globals known).types.lookup name = none := by
  rw [lookup_types, undeclared]
  rfl

/-- Uses of simple types are bound to the other types. -/
theorem matches_resolveUse
    (pending : List ExpandedName)
    (use : TypeUse) :
    Matches retelling.errors retelling.retype (known.resolveUse pending use)
      ((retelling.globals known).resolveUse pending (use.mapFaults retelling.retell)) := by
  fun_induction Globals.resolveUse known pending use with
  | case1 =>
      rw [Use.mapFaults, Globals.resolveUse]
      exact matches_kept retype_string
  | case2 | case3 =>
      rw [Use.mapFaults, SimpleType.mapFaults, Globals.resolveUse]
      exact matches_kept retype_string
  | case4 pending base inductionHypothesis =>
      rw [Use.mapFaults, SimpleType.mapFaults, Globals.resolveUse]
      exact inductionHypothesis
  | case5 pending item inductionHypothesis =>
      rw [Use.mapFaults, SimpleType.mapFaults, Globals.resolveUse]
      exact inductionHypothesis.map fun type => (retelling.listOf type).symm
  | case6 pending error =>
      rw [Use.mapFaults_error, Globals.resolveUse]
      exact .error (retelling.retold error)
  | case7 pending name id type declared =>
      rw [Use.mapFaults_ok, resolveUse_of_complex (lookup_complex known declared)]
      exact .ok type
  | case8 pending name definition declared fresh fewer inductionHypothesis =>
      rw [Use.mapFaults_ok, resolveUse_of_simple (lookup_simple known declared), if_neg fresh]
      exact inductionHypothesis
  | case9 pending name definition declared isPending =>
      rw [Use.mapFaults_ok, resolveUse_of_simple (lookup_simple known declared),
        if_pos (not_not.1 isPending)]
      exact .error (errors_self rfl)
  | case10 pending name undeclared type isBuiltin =>
      rw [Use.mapFaults_ok, resolveUse_of_undeclared (lookup_undeclared known undeclared),
        isBuiltin, Option.elim_some]
      exact matches_kept (retelling.builtin isBuiltin)
  | case11 pending name undeclared notBuiltin =>
      rw [Use.mapFaults_ok, resolveUse_of_undeclared (lookup_undeclared known undeclared),
        notBuiltin, Option.elim_none]
      exact .error (errors_self rfl)

theorem matches_elementType
    (declared : ElementDefinition) :
    Matches retelling.errors retelling.retype (known.elementType declared)
      ((retelling.globals known).elementType (retelling.element declared)) := by
  obtain ⟨use, classType⟩ := declared
  cases use with
  | named name => exact matches_resolveUse known [] (.named name)
  | inline definition =>
      cases classType with
      | none => exact matches_resolveUse known [] (.inline definition)
      | some type => exact .ok type
  | absent =>
      cases classType with
      | none => exact matches_kept retype_object
      | some type => exact .ok type

theorem matches_attributeType
    (target : Option String)
    (name : ExpandedName) :
    Matches retelling.errors retelling.retype (known.attributeType target name)
      ((retelling.globals known).attributeType target name) := by
  unfold Globals.attributeType
  rw [lookup_attributes]
  cases known.attributes.lookup name with
  | some use => exact matches_resolveUse known [] use
  | none =>
      dsimp only [Option.map_none]
      split
      · exact .error (errors_self rfl)
      · exact matches_kept retype_string

theorem matches_resolveType
    (name : ExpandedName) :
    Matches retelling.errors retelling.base (Base.simple <$> known.resolveType name)
      (Base.simple <$> (retelling.globals known).resolveType name) :=
  (matches_resolveUse known [] (.named (.ok name))).map fun _ => rfl

theorem matches_resolveBase
    (name : ExpandedName) :
    Matches retelling.errors retelling.base (known.resolveBase name)
      ((retelling.globals known).resolveBase name) := by
  unfold Globals.resolveBase
  rw [lookup_types]
  cases known.types.lookup name with
  | none =>
      dsimp only [Option.map_none]
      split
      · exact .ok Base.any
      · exact matches_resolveType known name
  | some definition =>
      cases definition with
      | complex id type => exact .ok (Base.complex id)
      | simple definition => exact matches_resolveType known name

end Resolution

/-! ## The second pass -/

section SecondPass

variable (known : Environment) (owner : ClassId)

theorem retype_particleType
    (repeated : Bool)
    (type : TypeRef) :
    retelling.retype (particleType repeated type) =
      particleType repeated (retelling.retype type) := by
  unfold particleType
  split
  · exact retelling.listOf type
  · rfl

theorem mirrors_isRepeated
    (around : Bool)
    (own : Deferred Bool) :
    retelling.Mirrors id (isRepeated around own)
      (isRepeated around (own.mapError retelling.retell)) := by
  unfold isRepeated
  split
  · exact .pure true
  · exact .needPart own

/-- A field for a particle is given the other type. -/
theorem mirrors_addParticleField
    (name : String)
    (repeated : Bool)
    (type : TypeRef) :
    retelling.Mirrors id (Binding.addField owner name (particleType repeated type))
      (Binding.addField owner name (particleType repeated (retelling.retype type))) := by
  rw [← retype_particleType]
  exact .addField owner name _

theorem mirrors_bindAttribute
    (item : AttributeItem) :
    retelling.Mirrors id (bindAttribute known owner item)
      (bindAttribute (retelling.environment known) owner (item.mapFaults retelling.retell)) := by
  cases item with
  | reference name =>
      refine (Mirrors.needPart name).andThen fun found => ?_
      exact (Mirrors.need (matches_attributeType known.globals _ found)).bind fun type =>
        .addField owner _ type
  | declaration name use =>
      refine (Mirrors.needPart name).andThen fun found => ?_
      exact (Mirrors.need (matches_resolveUse known.globals [] use)).bind fun type =>
        .addField owner _ type
  | unsupported construct => exact .warn _

theorem mirrors_bindAttributes
    (items : List AttributeItem) :
    retelling.Mirrors id (bindAttributes known owner items)
      (bindAttributes (retelling.environment known) owner
        (items.map (AttributeItem.mapFaults retelling.retell))) := by
  induction items with
  | nil => exact .pure ()
  | cons item rest inductionHypothesis =>
      exact (mirrors_bindAttribute known owner item).andThen fun _ => inductionHypothesis

/-- A field for a particle whose type is given by a use. -/
theorem mirrors_typedParticle
    (around : Bool)
    (own : Deferred Bool)
    (name : Deferred String)
    (use : TypeUse) :
    retelling.Mirrors id (do
      let repeated ← isRepeated around own
      let name ← Binding.need name
      let type ← Binding.need (known.globals.resolveUse [] use)
      Binding.addField owner (fieldName name) (particleType repeated type)) (do
      let repeated ← isRepeated around (own.mapError retelling.retell)
      let name ← Binding.need (name.mapError retelling.retell)
      let type ← Binding.need
        ((retelling.globals known.globals).resolveUse [] (use.mapFaults retelling.retell))
      Binding.addField owner (fieldName name) (particleType repeated type)) := by
  refine (mirrors_isRepeated around own).andThen fun repeated => ?_
  refine (Mirrors.needPart name).andThen fun found => ?_
  exact (Mirrors.need (matches_resolveUse known.globals [] use)).bind fun type =>
    mirrors_addParticleField owner _ repeated type

/-- A nested class and a field of its type. -/
theorem mirrors_nested
    (around : Bool)
    (own : Deferred Bool)
    (name : Deferred String)
    {body otherBody : List Content}
    (contents : ∀ nested, retelling.Mirrors id (bindContents known nested body)
      (bindContents (retelling.environment known) nested otherBody)) :
    retelling.Mirrors id (do
      let repeated ← isRepeated around own
      let name ← Binding.need name
      let nested ← Binding.addClass (className name) known.package (some owner)
      bindContents known nested body
      let type ← Binding.typeOf nested
      Binding.addField owner (fieldName name) (particleType repeated type)) (do
      let repeated ← isRepeated around (own.mapError retelling.retell)
      let name ← Binding.need (name.mapError retelling.retell)
      let nested ← Binding.addClass (className name) known.package (some owner)
      bindContents (retelling.environment known) nested otherBody
      let type ← Binding.typeOf nested
      Binding.addField owner (fieldName name) (particleType repeated type)) := by
  refine (mirrors_isRepeated around own).andThen fun repeated => ?_
  refine (Mirrors.needPart name).andThen fun found => ?_
  refine (Mirrors.addClass _ _ _).andThen fun nested => ?_
  refine (contents nested).andThen fun _ => ?_
  exact (Mirrors.typeOf nested).bind fun type => mirrors_addParticleField owner _ repeated type

mutual

theorem mirrors_bindParticle
    (owner : ClassId)
    (around : Bool)
    (particle : Particle) :
    retelling.Mirrors id (bindParticle known owner around particle)
      (bindParticle (retelling.environment known) owner around
        (particle.mapFaults retelling.retell)) := by
  match particle with
  | .reference own name =>
      rw [Particle.mapFaults, bindParticle, bindParticle]
      refine (mirrors_isRepeated around own).andThen fun repeated => ?_
      refine (Mirrors.needPart name).andThen fun found => ?_
      rw [show (retelling.environment known).globals = retelling.globals known.globals from rfl,
        lookup_elements]
      cases known.globals.elements.lookup found with
      | none => exact .throw (errors_self rfl)
      | some declared =>
          exact (Mirrors.need (matches_elementType known.globals declared)).bind fun type =>
            mirrors_addParticleField owner _ repeated type
  | .element own name (.named reference) none =>
      rw [Particle.mapFaults, Use.mapFaults, bindParticle, bindParticle]
      exact mirrors_typedParticle known owner around own name (.named reference)
  | .element own name (.named reference) (some _) =>
      rw [Particle.mapFaults, Use.mapFaults, bindParticle, bindParticle]
      exact mirrors_typedParticle known owner around own name (.named reference)
  | .element own name (.inline definition) (some body) =>
      rw [Particle.mapFaults, Use.mapFaults, bindParticle, bindParticle]
      · exact mirrors_nested known owner around own name fun nested =>
          mirrors_bindContents nested body
      · nofun
      · nofun
  | .element own name .absent (some body) =>
      rw [Particle.mapFaults, Use.mapFaults, bindParticle, bindParticle]
      · exact mirrors_nested known owner around own name fun nested =>
          mirrors_bindContents nested body
      · nofun
      · nofun
  | .element own name (.inline definition) none =>
      rw [Particle.mapFaults, Use.mapFaults, bindParticle, bindParticle]
      exact mirrors_typedParticle known owner around own name (.inline definition)
  | .element own name .absent none =>
      rw [Particle.mapFaults, Use.mapFaults, bindParticle, bindParticle]
      refine (mirrors_isRepeated around own).andThen fun repeated => ?_
      refine (Mirrors.needPart name).andThen fun found => ?_
      have field : retelling.Mirrors id
          (Binding.addField owner (fieldName found) (particleType repeated .object))
          (Binding.addField owner (fieldName found)
            (particleType repeated (retelling.retype .object))) :=
        mirrors_addParticleField owner _ repeated .object
      rwa [retype_object] at field
  | .group own particles =>
      rw [Particle.mapFaults, bindParticle, bindParticle]
      exact (mirrors_isRepeated around own).andThen fun repeated =>
        mirrors_bindParticles owner repeated particles
  | .unsupported construct =>
      rw [Particle.mapFaults, bindParticle, bindParticle]
      exact .warn _

theorem mirrors_bindParticles
    (owner : ClassId)
    (around : Bool)
    (particles : List Particle) :
    retelling.Mirrors id (bindParticles known owner around particles)
      (bindParticles (retelling.environment known) owner around
        (mapFaultsOfParticles retelling.retell particles)) := by
  match particles with
  | [] =>
      rw [mapFaultsOfParticles, bindParticles, bindParticles]
      exact .pure ()
  | particle :: rest =>
      rw [mapFaultsOfParticles, bindParticles, bindParticles]
      exact (mirrors_bindParticle owner around particle).andThen fun _ =>
        mirrors_bindParticles owner around rest

theorem mirrors_bindContent
    (owner : ClassId)
    (content : Content) :
    retelling.Mirrors id (bindContent known owner content)
      (bindContent (retelling.environment known) owner (content.mapFaults retelling.retell)) := by
  match content with
  | .group own particles =>
      rw [Content.mapFaults, bindContent, bindContent]
      exact (Mirrors.needPart own).andThen fun repeated =>
        mirrors_bindParticles owner repeated particles
  | .attributeItem item =>
      rw [Content.mapFaults, bindContent, bindContent]
      exact mirrors_bindAttribute known owner item
  | .complexContent name added =>
      rw [Content.mapFaults, bindContent, bindContent]
      refine (Mirrors.needPart name).andThen fun found => ?_
      refine (Mirrors.need (matches_resolveBase known.globals found)).bind fun kind => ?_
      have rest := mirrors_bindContents owner added
      cases kind with
      | any => exact (Mirrors.pure ()).andThen fun _ => rest
      | complex supertype => exact (Mirrors.addSupertype owner supertype).andThen fun _ => rest
      | simple type => exact (Mirrors.warn _).andThen fun _ => rest
  | .simpleContent name added =>
      rw [Content.mapFaults, bindContent, bindContent]
      refine (Mirrors.needPart name).andThen fun found => ?_
      refine (Mirrors.need (matches_resolveBase known.globals found)).bind fun kind => ?_
      have rest : retelling.Mirrors id (bindAttributes known owner added)
          (bindAttributes (retelling.environment known) owner
            (added.map (AttributeItem.mapFaults retelling.retell))) :=
        mirrors_bindAttributes known owner added
      cases kind with
      | any => exact (Mirrors.warn _).andThen fun _ => rest
      | complex supertype => exact (Mirrors.addSupertype owner supertype).andThen fun _ => rest
      | simple type => exact (Mirrors.addField owner "value" type).andThen fun _ => rest
  | .unsupported construct =>
      rw [Content.mapFaults, bindContent, bindContent]
      exact .warn _

theorem mirrors_bindContents
    (owner : ClassId)
    (contents : List Content) :
    retelling.Mirrors id (bindContents known owner contents)
      (bindContents (retelling.environment known) owner
        (mapFaultsOfContents retelling.retell contents)) := by
  match contents with
  | [] =>
      rw [mapFaultsOfContents, bindContents, bindContents]
      exact .pure ()
  | content :: rest =>
      rw [mapFaultsOfContents, bindContents, bindContents]
      exact (mirrors_bindContent owner content).andThen fun _ => mirrors_bindContents owner rest

end

theorem mirrors_bindBodies
    (bodies : List (ClassId × List Content)) :
    retelling.Mirrors id (bindBodies known bodies)
      (bindBodies (retelling.environment known) (bodies.map retelling.body)) := by
  induction bodies with
  | nil => exact .pure ()
  | cons body rest inductionHypothesis =>
      exact (mirrors_bindContents known body.1 body.2).andThen fun _ => inductionHypothesis

end SecondPass

/-! ## The first pass -/

section FirstPass

variable {setting otherSetting : Setting}

theorem mirrors_declaredName
    (carries : retelling.Carries setting otherSetting)
    (name : Deferred String) :
    retelling.Mirrors id (Registry.declaredName setting name)
      (Registry.declaredName otherSetting (name.mapError retelling.retell)) := by
  unfold Registry.declaredName
  rw [carries.target]
  exact (Mirrors.needPart name).andThen fun found => .pure _

theorem mirrors_checkOverwrite
    (carries : retelling.Carries setting otherSetting)
    (name : ExpandedName) :
    retelling.Mirrors id (Registry.checkOverwrite setting name)
      (Registry.checkOverwrite otherSetting name) := by
  unfold Registry.checkOverwrite
  rw [carries.overwrite]
  split
  · cases setting.overwrite with
    | deny => exact .throw (errors_self rfl)
    | warn => exact .warn _
    | allow => exact .pure ()
  · exact .pure ()

theorem mirrors_addTopClass
    (carries : retelling.Carries setting otherSetting)
    (name : ExpandedName) :
    retelling.Mirrors (Prod.map id retelling.retype) (Registry.addTopClass setting name)
      (Registry.addTopClass otherSetting name) := by
  unfold Registry.addTopClass
  dsimp only
  rw [carries.package, ← carries.reference]
  exact (Mirrors.addClass _ _ _).andThen fun id => .pure (id, _)

theorem mirrors_insertNew
    {α β : Type}
    {change : α → β}
    (entries : List (ExpandedName × α))
    (name : ExpandedName)
    (definition : α) :
    retelling.Mirrors (List.map (Prod.map id change)) (Registry.insertNew entries name definition)
      (Registry.insertNew (entries.map (Prod.map id change)) name (change definition)) := by
  unfold Registry.insertNew
  rw [lookup_map, Option.isSome_map]
  split
  · exact .throw (errors_self rfl)
  · rw [show entries.map (Prod.map id change) ++ [(name, change definition)] =
      (entries ++ [(name, definition)]).map (Prod.map id change) by simp]
    exact .pure _

theorem bodies_registry_append
    (known : Registry)
    (id : ClassId)
    (content : List Content) :
    (retelling.registry known).bodies ++ [(id, mapFaultsOfContents retelling.retell content)] =
      (known.bodies ++ [(id, content)]).map retelling.body := by
  rw [List.map_append]
  rfl

/-- Declarations are noted with the other types. -/
theorem mirrors_register
    (carries : retelling.Carries setting otherSetting)
    (known : Registry)
    (declaration : Declaration) :
    retelling.Mirrors retelling.registry (Registry.register setting known declaration)
      (Registry.register otherSetting (retelling.registry known)
        (declaration.mapFaults retelling.retell)) := by
  cases declaration with
  | complexType name body =>
      refine (mirrors_declaredName carries name).andThen fun found => ?_
      refine (mirrors_checkOverwrite carries found).andThen fun _ => ?_
      refine (mirrors_addTopClass carries found).bind fun created => ?_
      refine (mirrors_insertNew known.globals.types found (.complex created.1 created.2)).bind
        fun types => ?_
      rw [bodies_registry_append]
      exact Mirrors.pure (⟨{ known.globals with types },
        known.bodies ++ [(created.1, body)]⟩ : Registry)
  | simpleType name definition =>
      refine (mirrors_declaredName carries name).andThen fun found => ?_
      refine (mirrors_checkOverwrite carries found).andThen fun _ => ?_
      exact (mirrors_insertNew known.globals.types found (.simple definition)).bind fun types =>
        .pure { known with globals := { known.globals with types } }
  | element name type body =>
      cases body with
      | none =>
          refine (mirrors_declaredName carries name).andThen fun found => ?_
          exact (mirrors_insertNew known.globals.elements found ⟨type, none⟩).bind fun elements =>
            .pure { known with globals := { known.globals with elements } }
      | some body =>
          refine (mirrors_declaredName carries name).andThen fun found => ?_
          refine (mirrors_addTopClass carries found).bind fun created => ?_
          refine (mirrors_insertNew known.globals.elements found ⟨type, some created.2⟩).bind
            fun elements => ?_
          rw [bodies_registry_append]
          exact Mirrors.pure (⟨{ known.globals with elements },
            known.bodies ++ [(created.1, body)]⟩ : Registry)
  | attributeType name type =>
      refine (mirrors_declaredName carries name).andThen fun found => ?_
      exact (mirrors_insertNew known.globals.attributes found type).bind fun attributes =>
        .pure { known with globals := { known.globals with attributes } }
  | external construct location => exact (Mirrors.warn _).andThen fun _ => .pure known
  | unsupported construct => exact (Mirrors.warn _).andThen fun _ => .pure known

theorem mirrors_registerAll
    (carries : retelling.Carries setting otherSetting)
    (known : Registry)
    (declarations : List Declaration) :
    retelling.Mirrors retelling.registry (declarations.foldlM (Registry.register setting) known)
      ((declarations.map (Declaration.mapFaults retelling.retell)).foldlM
        (Registry.register otherSetting) (retelling.registry known)) := by
  induction declarations generalizing known with
  | nil => exact .pure known
  | cons declaration rest inductionHypothesis =>
      exact (mirrors_register carries known declaration).bind fun next => inductionHypothesis next

end FirstPass

/-! ## Both passes -/

/-- How the classes for a schema are created. -/
def settingFor (options : BindingOptions) (schema : Document) : Setting :=
  ⟨schema.targetNamespace, packageName options schema.targetNamespace, ⟨0⟩, options.overwrite⟩

theorem mirrors_bindDeclarations
    {options other : BindingOptions}
    {schema : Document}
    (carries : retelling.Carries (settingFor options schema) (settingFor other schema)) :
    retelling.Mirrors id (bindDeclarations options schema)
      (bindDeclarations other (schema.mapFaults retelling.retell)) := by
  have registered := mirrors_registerAll carries {} schema.declarations
  exact registered.bind fun known =>
    mirrors_bindBodies ⟨schema.targetNamespace, ⟨0⟩, known.globals⟩ known.bodies

end Retelling

/-- The state in which the binding of a schema begins. -/
def beginning (options : BindingOptions) (schema : Document) : BindingState where
  draft := (Draft.empty.package (packageName options schema.targetNamespace)).2

/-- The outline that the draft of a state becomes. -/
def BindingState.finish (state : BindingState) : Except SchemaError Outline :=
  state.draft.finish.mapError .model

/-- Finishes the draft. -/
def finishBinding : Binding Outline := do
  match (← get).draft.finish with
  | .ok outline => return outline
  | .error error => throw (.model error)

theorem outcome_finishBinding
    (state : BindingState) :
    outcome finishBinding state = (state.finish, state) := by
  unfold finishBinding BindingState.finish
  rw [outcome_bind, show outcome get state = (.ok state, state) from rfl]
  dsimp only
  cases state.draft.finish <;> rfl

/-- A schema is bound by both passes, and then the draft is finished. -/
theorem bind_eq
    (options : BindingOptions)
    (schema : Document) :
    Schema.bind options schema =
      match outcome (bindDeclarations options schema) (beginning options schema) with
      | (.ok _, last) => (last.finish, last.warnings)
      | (.error error, last) => (.error error, last.warnings) := by
  have split : bindDocument options schema ⟨0⟩ = (do
      bindDeclarations options schema
      finishBinding) := by
    unfold bindDeclarations
    rw [bind_assoc]
    rfl
  have run : Schema.bind options schema =
      ((outcome (bindDocument options schema ⟨0⟩) (beginning options schema)).1,
        (outcome (bindDocument options schema ⟨0⟩) (beginning options schema)).2.warnings) :=
    rfl
  rw [run, split, outcome_bind]
  rcases outcome (bindDeclarations options schema) (beginning options schema) with ⟨result, last⟩
  cases result with
  | error error => rfl
  | ok value =>
      dsimp only
      rw [outcome_finishBinding]

/-- The drafts that both passes lead to. -/
theorem boundDraft_of_bindDeclarations
    {options : BindingOptions}
    {schema : Document}
    {value : Unit}
    {last : BindingState}
    (leads : Leads (bindDeclarations options schema) (beginning options schema) value last) :
    BoundDraft (packageName options schema.targetNamespace) last.draft :=
  ((safe_bindDeclarations options schema).preserves (boundDraft_package _)
    (fun _ member => absurd member List.not_mem_nil) leads).1

namespace Retelling

variable {retelling : Retelling}

/-- Schemas are bound alike if finishing their drafts goes along with the other types. -/
theorem matches_bind
    {options other : BindingOptions}
    {schema : Document}
    {image : Outline → Outline}
    (carries : retelling.Carries (settingFor options schema) (settingFor other schema))
    (begins : retelling.state (beginning options schema) = beginning other schema)
    (finishes : ∀ draft, BoundDraft (packageName options schema.targetNamespace) draft →
      Matches (fun error other => retelling.errors (.model error) (.model other)) image draft.finish
        (retelling.redraft draft).finish) :
    Matches retelling.errors image (Schema.bind options schema).1
        (Schema.bind other (schema.mapFaults retelling.retell)).1 ∧
      (Schema.bind other (schema.mapFaults retelling.retell)).2 =
        (Schema.bind options schema).2 := by
  have mirrors := mirrors_bindDeclarations carries
  have results := mirrors.results (beginning options schema)
  have states := mirrors.states (beginning options schema)
  rw [bind_eq, bind_eq, show beginning other (schema.mapFaults retelling.retell) =
    retelling.state (beginning options schema) from begins.symm]
  generalize isRun : outcome (bindDeclarations options schema) (beginning options schema) = run
    at results states ⊢
  generalize outcome (bindDeclarations other (schema.mapFaults retelling.retell))
    (retelling.state (beginning options schema)) = otherRun at results states ⊢
  obtain ⟨result, last⟩ := run
  obtain ⟨otherResult, otherLast⟩ := otherRun
  obtain rfl : otherLast = retelling.state last := states
  cases results with
  | error related => exact ⟨.error related, rfl⟩
  | ok value =>
      refine ⟨?_, rfl⟩
      exact (finishes last.draft (boundDraft_of_bindDeclarations isRun)).ofMapError

end Retelling
end Schema
end SchemaBinding
