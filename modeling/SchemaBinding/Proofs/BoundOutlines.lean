import SchemaBinding.Proofs.BindingRuns
import SchemaBinding.Proofs.Finished

/-!
# Outlines of schemas

Both passes over a schema are safe, so that every outline they lead to is a finished one with the
package of the schema, with generated names and with fields of bound types.
-/

namespace SchemaBinding
namespace Schema

/-- The classes that the types of a schema are bound to. -/
def Globals.handles (globals : Globals) : List Handle :=
  globals.types.filterMap fun
    | (_, .complex id _) => some (.ofClass id)
    | (_, .simple _) => none

theorem Globals.mem_handles
    {globals : Globals}
    {name : ExpandedName}
    {id : ClassId}
    {type : TypeRef}
    (declared : globals.types.lookup name = some (.complex id type)) :
    .ofClass id ∈ globals.handles := by
  obtain ⟨before, after, split, _⟩ := List.lookup_eq_some_iff.1 declared
  rw [handles, List.mem_filterMap]
  exact ⟨(name, .complex id type), by simp [split], rfl⟩

theorem mem_handles_of_resolveBase
    {globals : Globals}
    {name : ExpandedName}
    {id : ClassId}
    (resolved : globals.resolveBase name = .ok (.complex id)) :
    .ofClass id ∈ globals.handles := by
  have notType : ∀ {result : Except SchemaError TypeRef},
      Base.simple <$> result ≠ .ok (.complex id) := by
    intro result mapped
    cases result <;> simp [Functor.map, Except.map] at mapped
  unfold Globals.resolveBase at resolved
  split at resolved
  next declared =>
    rw [Except.ok.injEq, Base.complex.injEq] at resolved
    exact resolved ▸ Globals.mem_handles declared
  next => exact absurd resolved notType
  next =>
    split at resolved
    next => cases resolved
    next => exact absurd resolved notType

/-! ## The second pass -/

section SecondPass

variable {package : String} {environment : Environment} {owner : ClassId} {requires : List Handle}

theorem nameable_value : Text.Nameable "value".toList := by
  apply Text.nameable_of_all
  decide +kernel

theorem safe_bindAttribute
    (bound : environment.globals.BoundIn package)
    (held : .ofClass owner ∈ requires)
    (item : AttributeItem) :
    Safe package requires (bindAttribute environment owner item) (fun _ => []) fun _ => True := by
  cases item with
  | reference name =>
      apply (Safe.need name).andThen
      intro found _
      apply (Safe.need _).andThen
      intro type resolved
      exact .addField held (nameable_fieldName _) (bound.attributeType resolved)
  | declaration name use =>
      apply (Safe.need name).andThen
      intro found _
      apply (Safe.need _).andThen
      intro type resolved
      exact .addField held (nameable_fieldName _) (bound.resolveUse resolved)
  | unsupported construct => exact .warn _

theorem safe_bindAttributes
    (bound : environment.globals.BoundIn package)
    (held : .ofClass owner ∈ requires)
    (items : List AttributeItem) :
    Safe package requires (bindAttributes environment owner items) (fun _ => []) fun _ => True := by
  induction items with
  | nil => exact .pure (List.nil_subset _) trivial
  | cons item rest inductionHypothesis =>
      apply (safe_bindAttribute bound held item).andThen
      intro _ _
      exact inductionHypothesis

theorem safe_isRepeated
    (around : Bool)
    (own : Deferred Bool) :
    Safe package requires (isRepeated around own) (fun _ => []) fun _ => True := by
  unfold isRepeated
  split
  · exact .pure (List.nil_subset _) trivial
  · exact (Safe.need own).weaken (List.Subset.refl _) (fun _ => List.Subset.refl _) fun _ _ => trivial

/-- What is bound for a part with a name is bound safely if it is for every name. -/
theorem safe_named
    {Name : Type}
    {rest : Bool → Name → Binding Unit}
    (around : Bool)
    (own : Deferred Bool)
    (name : Deferred Name)
    (others : ∀ repeated found, Safe package requires (rest repeated found) (fun _ => [])
      fun _ => True) :
    Safe package requires (do
      let repeated ← isRepeated around own
      let name ← Binding.need name
      rest repeated name) (fun _ => []) fun _ => True := by
  apply (safe_isRepeated around own).andThen
  intro repeated _
  apply (Safe.need name).andThen
  intro found _
  exact others repeated found

theorem boundType_particleType
    {type : TypeRef}
    (bound : BoundType package type)
    (repeated : Bool) :
    BoundType package (particleType repeated type) := by
  unfold particleType
  split
  · exact .listOf bound
  · exact bound

/-- An element whose type can be told without a class for it leads to a field of that type. -/
theorem safe_typedElement
    (held : .ofClass owner ∈ requires)
    (around : Bool)
    (own : Deferred Bool)
    (name : Deferred String)
    {resolved : Except SchemaError TypeRef}
    (boundType : ∀ {type}, resolved = .ok type → BoundType package type) :
    Safe package requires (do
      let repeated ← isRepeated around own
      let name ← Binding.need name
      let type ← Binding.need resolved
      Binding.addField owner (fieldName name) (particleType repeated type)) (fun _ => [])
      fun _ => True := by
  refine safe_named around own name fun repeated found => ?_
  apply (Safe.need resolved).andThen
  intro type isType
  exact .addField held (nameable_fieldName _) (boundType_particleType (boundType isType) repeated)

/-- An element with an anonymous complex type leads to a nested class and a field of its type. -/
theorem safe_nested
    (isFirst : environment.package = ⟨0⟩)
    (held : .ofClass owner ∈ requires)
    (around : Bool)
    (own : Deferred Bool)
    (name : Deferred String)
    {body : List Content}
    (contents : ∀ nested, Safe package (requires ++ [.ofClass nested])
      (bindContents environment nested body) (fun _ => []) fun _ => True) :
    Safe package requires (do
      let repeated ← isRepeated around own
      let name ← Binding.need name
      let nested ← Binding.addClass (className name) environment.package (some owner)
      bindContents environment nested body
      let type ← Binding.typeOf nested
      Binding.addField owner (fieldName name) (particleType repeated type)) (fun _ => [])
      fun _ => True := by
  refine safe_named around own name fun repeated found => ?_
  rw [isFirst]
  apply (Safe.addClass found (some owner) (by simpa using held)).bind
  intro nested _
  apply (contents nested).andThen
  intro _ _
  apply (Safe.typeOf nested).andThen
  intro type boundType
  exact .addField (List.mem_append_left _ held) (nameable_fieldName _)
    (boundType_particleType boundType repeated)

mutual

theorem safe_bindParticle
    (bound : environment.globals.BoundIn package)
    (isFirst : environment.package = ⟨0⟩)
    {owner : ClassId}
    {requires : List Handle}
    (globalsHeld : environment.globals.handles ⊆ requires)
    (held : .ofClass owner ∈ requires)
    (around : Bool)
    (particle : Particle) :
    Safe package requires (bindParticle environment owner around particle) (fun _ => [])
      fun _ => True := by
  match particle with
  | .reference own name =>
      rw [bindParticle]
      refine safe_named around own name fun repeated found => ?_
      split
      next => exact .throw
      next element declared =>
        apply (Safe.need _).andThen
        intro type resolved
        exact .addField held (nameable_fieldName _)
          (boundType_particleType (bound.elementType declared resolved) repeated)
  | .element own name (.named reference) _ =>
      rw [bindParticle]
      exact safe_typedElement held around own name bound.resolveUse
  | .element own name (.inline definition) (some body) =>
      rw [bindParticle]
      · apply safe_nested isFirst held around own name
        intro nested
        exact safe_bindContents bound isFirst (List.subset_append_of_subset_left _ globalsHeld)
          (List.mem_append_right _ List.mem_cons_self) body
      · nofun
  | .element own name .absent (some body) =>
      rw [bindParticle]
      · apply safe_nested isFirst held around own name
        intro nested
        exact safe_bindContents bound isFirst (List.subset_append_of_subset_left _ globalsHeld)
          (List.mem_append_right _ List.mem_cons_self) body
      · nofun
  | .element own name (.inline definition) none =>
      rw [bindParticle]
      exact safe_typedElement held around own name bound.resolveUse
  | .element own name .absent none =>
      rw [bindParticle]
      refine safe_named around own name fun repeated found => ?_
      exact .addField held (nameable_fieldName _)
        (boundType_particleType (.flat (.core (by decide))) repeated)
  | .group own particles =>
      rw [bindParticle]
      apply (safe_isRepeated around own).andThen
      intro repeated _
      exact safe_bindParticles bound isFirst globalsHeld held repeated particles
  | .unsupported construct =>
      rw [bindParticle]
      exact .warn _

theorem safe_bindParticles
    (bound : environment.globals.BoundIn package)
    (isFirst : environment.package = ⟨0⟩)
    {owner : ClassId}
    {requires : List Handle}
    (globalsHeld : environment.globals.handles ⊆ requires)
    (held : .ofClass owner ∈ requires)
    (around : Bool)
    (particles : List Particle) :
    Safe package requires (bindParticles environment owner around particles) (fun _ => [])
      fun _ => True := by
  match particles with
  | [] =>
      rw [bindParticles]
      exact .pure (List.nil_subset _) trivial
  | particle :: rest =>
      rw [bindParticles]
      apply (safe_bindParticle bound isFirst globalsHeld held around particle).andThen
      intro _ _
      exact safe_bindParticles bound isFirst globalsHeld held around rest

theorem safe_bindContent
    (bound : environment.globals.BoundIn package)
    (isFirst : environment.package = ⟨0⟩)
    {owner : ClassId}
    {requires : List Handle}
    (globalsHeld : environment.globals.handles ⊆ requires)
    (held : .ofClass owner ∈ requires)
    (content : Content) :
    Safe package requires (bindContent environment owner content) (fun _ => []) fun _ => True := by
  match content with
  | .group own particles =>
      rw [bindContent]
      apply (Safe.need own).andThen
      intro repeated _
      exact safe_bindParticles bound isFirst globalsHeld held repeated particles
  | .attributeItem item =>
      rw [bindContent]
      exact safe_bindAttribute bound held item
  | .complexContent base added =>
      rw [bindContent]
      apply (Safe.need base).andThen
      intro found _
      apply (Safe.need _).andThen
      intro kind resolved
      have rest := safe_bindContents bound isFirst globalsHeld held added
      cases kind with
      | any =>
          have nothing : Safe package requires (pure ()) (fun _ => []) fun _ => True :=
            .pure (List.nil_subset _) trivial
          exact nothing.andThen fun _ _ => rest
      | complex supertype =>
          have supertypeHeld := globalsHeld (mem_handles_of_resolveBase resolved)
          exact (Safe.addSupertype held supertypeHeld).andThen fun _ _ => rest
      | simple type => exact (Safe.warn _).andThen fun _ _ => rest
  | .simpleContent base added =>
      rw [bindContent]
      apply (Safe.need base).andThen
      intro found _
      apply (Safe.need _).andThen
      intro kind resolved
      have rest := safe_bindAttributes bound held added
      cases kind with
      | any => exact (Safe.warn _).andThen fun _ _ => rest
      | complex supertype =>
          have supertypeHeld := globalsHeld (mem_handles_of_resolveBase resolved)
          exact (Safe.addSupertype held supertypeHeld).andThen fun _ _ => rest
      | simple type =>
          have boundType := bound.resolveBase resolved
          exact (Safe.addField held nameable_value boundType).andThen fun _ _ => rest
  | .unsupported construct =>
      rw [bindContent]
      exact .warn _

theorem safe_bindContents
    (bound : environment.globals.BoundIn package)
    (isFirst : environment.package = ⟨0⟩)
    {owner : ClassId}
    {requires : List Handle}
    (globalsHeld : environment.globals.handles ⊆ requires)
    (held : .ofClass owner ∈ requires)
    (contents : List Content) :
    Safe package requires (bindContents environment owner contents) (fun _ => [])
      fun _ => True := by
  match contents with
  | [] =>
      rw [bindContents]
      exact .pure (List.nil_subset _) trivial
  | content :: rest =>
      rw [bindContents]
      apply (safe_bindContent bound isFirst globalsHeld held content).andThen
      intro _ _
      exact safe_bindContents bound isFirst globalsHeld held rest

end

end SecondPass

/-! ## The first pass -/

section FirstPass

variable {package : String} {setting : Setting} {requires : List Handle}

/-- The handles that the first pass leaves to the second. -/
def Registry.handles (registry : Registry) : List Handle :=
  registry.globals.handles ++ registry.bodies.map fun body => .ofClass body.1

theorem safe_declaredName
    (name : Deferred String) :
    Safe package requires (Registry.declaredName setting name) (fun _ => []) fun _ => True := by
  apply (Safe.need name).andThen
  intro found _
  exact .pure (List.nil_subset _) trivial

theorem safe_checkOverwrite
    (name : ExpandedName) :
    Safe package requires (Registry.checkOverwrite setting name) (fun _ => []) fun _ => True := by
  unfold Registry.checkOverwrite
  split
  · split
    · exact .throw
    · exact .warn _
    · exact .pure (List.nil_subset _) trivial
  · exact .pure (List.nil_subset _) trivial

theorem safe_insertNew
    {α : Type}
    (entries : List (ExpandedName × α))
    (name : ExpandedName)
    (definition : α) :
    Safe package requires (Registry.insertNew entries name definition) (fun _ => [])
      fun extended => extended = entries ++ [(name, definition)] := by
  unfold Registry.insertNew
  split
  · exact .throw
  · exact .pure (List.nil_subset _) rfl

theorem safe_addTopClass
    (samePackage : setting.packageName = package)
    (isFirst : setting.package = ⟨0⟩)
    (name : ExpandedName) :
    Safe package requires (Registry.addTopClass setting name)
      (fun created => [.ofClass created.1]) fun created => BoundType package created.2 := by
  unfold Registry.addTopClass
  rw [isFirst, samePackage]
  apply (Safe.addClass name.localName none (List.nil_subset _)).bind
  intro id _
  exact .pure (List.subset_append_right _ _) (.flat (.reference (.outermost _)))

theorem lookup_append_singleton
    {α : Type}
    {entries : List (ExpandedName × α)}
    {name other : ExpandedName}
    {definition found : α}
    (declared : (entries ++ [(name, definition)]).lookup other = some found) :
    entries.lookup other = some found ∨ found = definition := by
  rw [List.lookup_append, Option.or_eq_some_iff] at declared
  rcases declared with earlier | ⟨_, last⟩
  · exact .inl earlier
  · simp only [List.lookup_cons, List.lookup_nil] at last
    split at last
    · exact .inr (Option.some.inj last).symm
    · cases last

theorem handles_declareType
    (globals : Globals)
    (name : ExpandedName)
    (definition : TypeDefinition) :
    Globals.handles { globals with types := globals.types ++ [(name, definition)] } =
      globals.handles ++
        match definition with
        | .complex id _ => [.ofClass id]
        | .simple _ => [] := by
  cases definition <;> simp [Globals.handles]

/-- A complex type adds the class that it is bound to, as a type and as one with a body. -/
theorem handles_subset_of_complexType
    {registry : Registry}
    (held : registry.handles ⊆ requires)
    (name : ExpandedName)
    (id : ClassId)
    (type : TypeRef)
    (body : List Content) :
    Registry.handles {
      globals := {
        registry.globals with types := registry.globals.types ++ [(name, .complex id type)] }
      bodies := registry.bodies ++ [(id, body)] } ⊆ requires ++ [.ofClass id] := by
  obtain ⟨globalsHeld, bodiesHeld⟩ := List.append_subset.1 held
  simp only [Registry.handles, handles_declareType, List.map_append, List.append_subset]
  refine ⟨⟨?_, ?_⟩, ?_, ?_⟩
  · exact List.subset_append_of_subset_left _ globalsHeld
  · exact List.subset_append_right _ _
  · exact List.subset_append_of_subset_left _ bodiesHeld
  · exact List.subset_append_right _ _

/-- An element with an anonymous complex type adds a class with a body only. -/
theorem handles_subset_of_element
    {registry : Registry}
    (held : registry.handles ⊆ requires)
    (id : ClassId)
    (elements : List (ExpandedName × ElementDefinition))
    (body : List Content) :
    Registry.handles {
      globals := { registry.globals with elements }
      bodies := registry.bodies ++ [(id, body)] } ⊆ requires ++ [.ofClass id] := by
  obtain ⟨globalsHeld, bodiesHeld⟩ := List.append_subset.1 held
  simp only [Registry.handles, List.map_append, List.append_subset]
  refine ⟨List.subset_append_of_subset_left _ globalsHeld, ?_, ?_⟩
  · exact List.subset_append_of_subset_left _ bodiesHeld
  · exact List.subset_append_right _ _

theorem boundIn_declareType
    {globals : Globals}
    (bound : globals.BoundIn package)
    (name : ExpandedName)
    {definition : TypeDefinition}
    (boundType : ∀ id type, definition = .complex id type → BoundType package type) :
    Globals.BoundIn { globals with types := globals.types ++ [(name, definition)] } package where
  types declared := by
    rcases lookup_append_singleton declared with earlier | same
    · exact bound.types earlier
    · exact boundType _ _ same.symm
  elements := bound.elements

theorem boundIn_declareElement
    {globals : Globals}
    (bound : globals.BoundIn package)
    (name : ExpandedName)
    {element : ElementDefinition}
    (boundType : ∀ type, element.classType = some type → BoundType package type) :
    Globals.BoundIn { globals with elements := globals.elements ++ [(name, element)] } package where
  types := bound.types
  elements declared isClass := by
    rcases lookup_append_singleton declared with earlier | rfl
    · exact bound.elements earlier isClass
    · exact boundType _ isClass

/-- A declaration is registered safely, and leaves the types of the declarations bound. -/
theorem safe_register
    (samePackage : setting.packageName = package)
    (isFirst : setting.package = ⟨0⟩)
    {registry : Registry}
    (bound : registry.globals.BoundIn package)
    (held : registry.handles ⊆ requires)
    (declaration : Declaration) :
    Safe package requires (Registry.register setting registry declaration) Registry.handles
      fun next => next.globals.BoundIn package := by
  cases declaration with
  | complexType name body =>
      apply (safe_declaredName name).andThen
      intro declared _
      apply (safe_checkOverwrite declared).andThen
      intro _ _
      apply (safe_addTopClass samePackage isFirst declared).bind
      intro created boundType
      apply (safe_insertNew _ _ _).andThen
      rintro types rfl
      apply Safe.pure
      · exact handles_subset_of_complexType held declared created.1 created.2 body
      · exact boundIn_declareType bound declared fun _ _ same => by
          rw [TypeDefinition.complex.injEq] at same
          exact same.2 ▸ boundType
  | simpleType name definition =>
      apply (safe_declaredName name).andThen
      intro declared _
      apply (safe_checkOverwrite declared).andThen
      intro _ _
      apply (safe_insertNew _ _ _).andThen
      rintro types rfl
      apply Safe.pure
      · rw [Registry.handles, handles_declareType, List.append_nil]
        exact held
      · exact boundIn_declareType bound declared nofun
  | element name type body =>
      cases body with
      | none =>
          apply (safe_declaredName name).andThen
          intro declared _
          apply (safe_insertNew _ _ _).andThen
          rintro elements rfl
          apply Safe.pure
          · exact held
          · exact boundIn_declareElement bound declared nofun
      | some body =>
          apply (safe_declaredName name).andThen
          intro declared _
          apply (safe_addTopClass samePackage isFirst declared).bind
          intro created boundType
          apply (safe_insertNew _ _ _).andThen
          rintro elements rfl
          apply Safe.pure
          · exact handles_subset_of_element held created.1 _ body
          · exact boundIn_declareElement bound declared fun type same => by
              rw [Option.some.injEq] at same
              exact same ▸ boundType
  | attributeType name type =>
      apply (safe_declaredName name).andThen
      intro declared _
      apply (safe_insertNew _ _ _).andThen
      rintro attributes rfl
      apply Safe.pure
      · exact held
      · exact ⟨bound.types, bound.elements⟩
  | external construct location =>
      apply (Safe.warn _).andThen
      intro _ _
      exact .pure held bound
  | unsupported construct =>
      apply (Safe.warn _).andThen
      intro _ _
      exact .pure held bound

theorem safe_registerAll
    (samePackage : setting.packageName = package)
    (isFirst : setting.package = ⟨0⟩)
    {registry : Registry}
    (bound : registry.globals.BoundIn package)
    (held : registry.handles ⊆ requires)
    (declarations : List Declaration) :
    Safe package requires (declarations.foldlM (Registry.register setting) registry)
      Registry.handles fun next => next.globals.BoundIn package := by
  induction declarations generalizing registry requires with
  | nil => exact .pure held bound
  | cons declaration rest inductionHypothesis =>
      rw [List.foldlM_cons]
      apply (safe_register samePackage isFirst bound held declaration).bind
      intro next nextBound
      exact inductionHypothesis nextBound (List.subset_append_right _ _)

end FirstPass

/-! ## Both passes -/

theorem safe_bindBodies
    {package : String}
    {environment : Environment}
    {requires : List Handle}
    (bound : environment.globals.BoundIn package)
    (isFirst : environment.package = ⟨0⟩)
    (globalsHeld : environment.globals.handles ⊆ requires)
    {bodies : List (ClassId × List Content)}
    (held : (bodies.map fun body => Handle.ofClass body.1) ⊆ requires) :
    Safe package requires (bindBodies environment bodies) (fun _ => []) fun _ => True := by
  induction bodies with
  | nil => exact .pure (List.nil_subset _) trivial
  | cons body rest inductionHypothesis =>
      obtain ⟨owner, contents⟩ := body
      obtain ⟨ownerHeld, restHeld⟩ := List.cons_subset.1 held
      apply (safe_bindContents bound isFirst globalsHeld ownerHeld contents).andThen
      intro _ _
      exact inductionHypothesis restHeld

/-- Both passes over the declarations, before the draft is finished. -/
def bindDeclarations (options : BindingOptions) (schema : Document) : Binding Unit := do
  let target := schema.targetNamespace
  let setting : Setting := ⟨target, packageName options target, ⟨0⟩, options.overwrite⟩
  let registry ← schema.declarations.foldlM (Registry.register setting) {}
  bindBodies ⟨target, ⟨0⟩, registry.globals⟩ registry.bodies

theorem safe_bindDeclarations
    (options : BindingOptions)
    (schema : Document) :
    Safe (packageName options schema.targetNamespace) [] (bindDeclarations options schema)
      (fun _ => []) fun _ => True := by
  have emptyBound : ({} : Registry).globals.BoundIn (packageName options schema.targetNamespace) :=
    ⟨nofun, nofun⟩
  have nothingHeld : ({} : Registry).handles ⊆ [] := List.Subset.refl _
  have registered : Safe (packageName options schema.targetNamespace) []
      (schema.declarations.foldlM (Registry.register ⟨schema.targetNamespace,
        packageName options schema.targetNamespace, ⟨0⟩, options.overwrite⟩) {})
      Registry.handles fun next =>
        next.globals.BoundIn (packageName options schema.targetNamespace) := by
    apply safe_registerAll _ _ emptyBound nothingHeld
    · rfl
    · rfl
  apply registered.bind
  intro registry bound
  rw [List.nil_append]
  apply safe_bindBodies bound rfl
  · exact List.subset_append_left _ _
  · exact List.subset_append_right _ _

theorem boundDraft_package
    (package : String) :
    BoundDraft package (Draft.empty.package package).2 where
  built := ⟨_, Built.empty.perform (.package package) nofun⟩
  packages := rfl
  names defined := by
    have undefined : ∀ id, (Draft.empty.package package).2.defined? id = none := fun _ => rfl
    rw [undefined] at defined
    cases defined
  fields := nofun

/-- The outline of a schema is finished from a draft that the binding builds. -/
theorem boundDraft_of_bind
    {options : BindingOptions}
    {schema : Document}
    {outline : Outline}
    (accepted : (Schema.bind options schema).1 = .ok outline) :
    ∃ draft, BoundDraft (packageName options schema.targetNamespace) draft ∧
      draft.finish = .ok outline := by
  have leads : ∃ next, Leads (bindDocument options schema ⟨0⟩)
      { draft := (Draft.empty.package (packageName options schema.targetNamespace)).2 }
      outline next :=
    ⟨_, Prod.ext accepted rfl⟩
  obtain ⟨next, leads⟩ := leads
  obtain ⟨registry, first, leadsRegister, leads⟩ := leads_bind_iff.1 leads
  obtain ⟨_, second, leadsBodies, leads⟩ := leads_bind_iff.1 leads
  obtain ⟨_, _, leadsGet, leads⟩ := leads_bind_iff.1 leads
  obtain ⟨rfl, rfl⟩ := leads_get_iff.1 leadsGet
  have leadsDeclarations : Leads (bindDeclarations options schema)
      { draft := (Draft.empty.package (packageName options schema.targetNamespace)).2 } () second :=
    leads_bind_iff.2 ⟨registry, first, leadsRegister, leadsBodies⟩
  obtain ⟨bound, _⟩ := (safe_bindDeclarations options schema).preserves
    (boundDraft_package _) (fun _ member => absurd member List.not_mem_nil) leadsDeclarations
  refine ⟨second.draft, bound, ?_⟩
  cases finished : second.draft.finish with
  | error error =>
      rw [finished] at leads
      exact absurd leads not_leads_throw
  | ok result =>
      rw [finished] at leads
      rw [(leads_pure_iff.1 leads).1]

end Schema
end SchemaBinding
