import SchemaBinding.Proofs.Portraits

/-!
# Contributions to classes

What each part of the content of a complex type gives to the class of that type: a field, a base or
nothing.  A part depends on no other one, except that the names of fields must differ, so that the
portrait of a class follows from the content of its complex type alone.  Binding the content of a
complex type completes its portrait and adds those of the complex types inside it.
-/

namespace SchemaBinding
namespace Schema

open Xml (Spot)

/-! ## Contributions -/

/-- What a part of the content of a complex type gives to the class of that type. -/
inductive Contribution where
  /-- Nothing. -/
  | nothing
  /-- A field, with its type. -/
  | field (field : String × TypeRef)
  /-- A base. -/
  | base (name : ExpandedName)

/-- Whether a part of the content is repeated, by itself or because a group around it is. -/
def Item.repeats (item : Item) : Deferred Bool :=
  if anyRepeated item.around then .ok true else repeated item.spot.tag

/-- An element as a declaration, with the type of the class that its anonymous complex type would be
bound to. -/
def elementAt (spot : Spot) (classType : TypeRef) : ElementDefinition :=
  ⟨typeUse spot.scope spot.tag spot.content, (firstComplexType? spot).map fun _ => classType⟩

/-- The field for an element of a model group in a complex type with a given path. -/
def particleField (environment : Environment) (package path : String) (item : Item) :
    Deferred (String × TypeRef) := do
  let repeated ← item.repeats
  match reference? item.spot.scope item.spot.tag "ref" with
  | some name =>
      let name ← name
      match environment.globals.elements.lookup name with
      | none => throw (.unresolvedElement name)
      | some element =>
          let type ← environment.globals.elementType element
          return (fieldName name.localName, particleType repeated type)
  | none =>
      let name ← required item.spot.tag "name"
      let classType := TypeRef.reference package (path ++ "." ++ className name)
      let type ← environment.globals.elementType (elementAt item.spot classType)
      return (fieldName name, particleType repeated type)

/-- Whether an attribute is kept out of a complex type. -/
def IsProhibited (spot : Spot) : Prop :=
  spot.tag.attribute? "use" = some "prohibited"

instance (spot : Spot) : Decidable (IsProhibited spot) :=
  inferInstanceAs (Decidable (spot.tag.attribute? "use" = some "prohibited"))

/-- The field for an attribute that is not prohibited. -/
def attributeField (environment : Environment) (spot : Spot) : Deferred (String × TypeRef) :=
  match reference? spot.scope spot.tag "ref" with
  | some name => do
      let name ← name
      let type ← environment.globals.attributeType environment.target name
      return (fieldName name.localName, type)
  | none => do
      let name ← required spot.tag "name"
      let type ← environment.globals.resolveUse [] (typeUse spot.scope spot.tag spot.content)
      return (fieldName name, type)

/-- What a derivation from a base gives to a class, if a simple base gives a certain contribution. -/
def Base.contribution (simple : TypeRef → Contribution) (name : ExpandedName) : Base → Contribution
  | .any => .nothing
  | .complex _ => .base name
  | .simple type => simple type

/-- What a derivation gives to a class, if a simple base gives a certain contribution. -/
def baseContribution (environment : Environment) (simple : TypeRef → Contribution) (spot : Spot) :
    Deferred Contribution := do
  let base ← baseAt spot
  let kind ← environment.globals.resolveBase base
  return kind.contribution simple base

/-- What a part of the content of a complex type gives to its class. -/
def Item.contribution (environment : Environment) (package path : String) (item : Item) :
    Deferred Contribution :=
  match item.role with
  | .group => do
      let _ ← item.repeats
      return .nothing
  | .particle => do return .field (← particleField environment package path item)
  | .attributeUse =>
      if IsProhibited item.spot then return .nothing
      else do return .field (← attributeField environment item.spot)
  | .complexBase => baseContribution environment (fun _ => .nothing) item.spot
  | .simpleBase => baseContribution environment (fun type => .field ("value", type)) item.spot
  | .unsupported => return .nothing

/-- The portrait with one more contribution, if the class has no field of that name. -/
def Portrait.add (portrait : Portrait) : Contribution → Option Portrait
  | .nothing => some portrait
  | .field field =>
      if field.1 ∈ portrait.fields.map Prod.fst then none
      else some { portrait with fields := portrait.fields ++ [field] }
  | .base name => some (portrait.withBase name)

/-- The portrait with what one more part of the content contributes. -/
def Portrait.take (environment : Environment) (package : String) (portrait : Portrait)
    (item : Item) : Option Portrait :=
  (item.contribution environment package portrait.type.path).toOption.bind portrait.add

/-- The portrait of the class for a complex type. -/
def ComplexType.portrait? (environment : Environment) (package : String) (type : ComplexType) :
    Option Portrait :=
  (contentItems type.spot).foldlM (Portrait.take environment package) ⟨type, [], []⟩

theorem Portrait.take_eq_some_iff
    {environment : Environment}
    {package : String}
    {portrait after : Portrait}
    {item : Item} :
    portrait.take environment package item = some after ↔
      ∃ contribution, item.contribution environment package portrait.type.path = .ok contribution ∧
        portrait.add contribution = some after := by
  unfold take
  cases item.contribution environment package portrait.type.path <;> simp [Except.toOption]

theorem Portrait.type_of_add
    {portrait after : Portrait}
    {contribution : Contribution}
    (added : portrait.add contribution = some after) :
    after.type = portrait.type := by
  cases contribution with
  | nothing =>
      obtain rfl := Option.some.inj added
      rfl
  | field field =>
      rw [add] at added
      split_ifs at added
      obtain rfl := Option.some.inj added
      rfl
  | base name =>
      obtain rfl := Option.some.inj added
      unfold withBase
      split_ifs <;> rfl

theorem Portrait.type_of_take
    {environment : Environment}
    {package : String}
    {portrait after : Portrait}
    {item : Item}
    (taken : portrait.take environment package item = some after) :
    after.type = portrait.type := by
  obtain ⟨_, _, added⟩ := take_eq_some_iff.1 taken
  exact type_of_add added

theorem Portrait.type_of_foldlM
    {environment : Environment}
    {package : String}
    {items : List Item}
    {portrait after : Portrait}
    (taken : items.foldlM (Portrait.take environment package) portrait = some after) :
    after.type = portrait.type := by
  induction items generalizing portrait with
  | nil =>
      obtain rfl := Option.some.inj taken
      rfl
  | cons item rest inductionHypothesis =>
      rw [List.foldlM_cons] at taken
      obtain ⟨middle, isMiddle, taken⟩ := Option.bind_eq_some_iff.1 taken
      rw [inductionHypothesis taken, type_of_take isMiddle]

/-- The field that a contribution is, if it is one. -/
def Contribution.field? : Contribution → Option (String × TypeRef)
  | .field entry => some entry
  | .nothing => none
  | .base _ => none

theorem Portrait.fields_of_add
    {portrait after : Portrait}
    {contribution : Contribution}
    (added : portrait.add contribution = some after) :
    after.fields = portrait.fields ++ contribution.field?.toList := by
  cases contribution with
  | nothing =>
      obtain rfl := Option.some.inj added
      exact (List.append_nil _).symm
  | field field =>
      rw [add] at added
      split_ifs at added
      obtain rfl := Option.some.inj added
      rfl
  | base name =>
      obtain rfl := Option.some.inj added
      unfold withBase
      split_ifs <;> exact (List.append_nil _).symm

/-- A portrait has the fields that the parts of the content contribute, in their order. -/
theorem Portrait.fields_of_foldlM
    {environment : Environment}
    {package : String}
    {items : List Item}
    {portrait after : Portrait}
    (taken : items.foldlM (Portrait.take environment package) portrait = some after) :
    ∃ contributions : List Contribution,
      items.map (Item.contribution environment package portrait.type.path) =
        contributions.map .ok ∧
      after.fields = portrait.fields ++ contributions.filterMap Contribution.field? := by
  induction items generalizing portrait with
  | nil =>
      obtain rfl := Option.some.inj taken
      exact ⟨[], rfl, (List.append_nil _).symm⟩
  | cons item rest inductionHypothesis =>
      rw [List.foldlM_cons] at taken
      obtain ⟨middle, isMiddle, taken⟩ := Option.bind_eq_some_iff.1 taken
      obtain ⟨contribution, isContribution, added⟩ := take_eq_some_iff.1 isMiddle
      obtain ⟨contributions, areContributions, fields⟩ := inductionHypothesis taken
      rw [type_of_take isMiddle] at areContributions
      refine ⟨contribution :: contributions, ?_, ?_⟩
      · rw [List.map_cons, List.map_cons, isContribution, areContributions]
      · rw [fields, fields_of_add added, List.append_assoc, List.filterMap_cons]
        cases contribution.field? <;> rfl

/-! ## Binding one part -/

section Parts

variable {package : String} {environment : Environment} {owner : ClassId}
  {portraits : List Portrait} {portrait : Portrait}

theorem attribute?_of_required
    {tag : Xml.Tag}
    {attributeName value : String}
    (isValue : required tag attributeName = .ok value) :
    tag.attribute? attributeName = some value := by
  unfold required at isValue
  cases found : tag.attribute? attributeName with
  | none =>
      rw [found] at isValue
      cases isValue
  | some other =>
      rw [found, Except.ok.injEq] at isValue
      rw [isValue]

theorem nameOf_of_required
    {tag : Xml.Tag}
    {name : String}
    (isName : required tag "name" = .ok name) :
    nameOf tag = name := by
  rw [nameOf, attribute?_of_required isName]
  rfl

theorem need_bind
    {α β : Type}
    (part : Deferred α)
    (rest : α → Deferred β) :
    Binding.need (part >>= rest) = (do
      let value ← Binding.need part
      Binding.need (rest value)) := by
  cases part <;> rfl

theorem isRepeated_eq
    (item : Item) :
    isRepeated (anyRepeated item.around) (repeated item.spot.tag) = Binding.need item.repeats := by
  unfold isRepeated Item.repeats
  split_ifs <;> rfl

theorem need_pure
    {α : Type}
    (value : α) :
    Binding.need (pure value) = pure value := rfl

/-- An attribute gives a field unless it is prohibited. -/
theorem bindAttributes_eq
    {spot : Spot}
    (allowed : ¬IsProhibited spot) :
    bindAttributes environment owner (attributesAt spot) = (do
      let field ← Binding.need (attributeField environment spot)
      Binding.addField owner field.1 field.2) := by
  unfold attributesAt attributeItems attributeField
  rw [if_neg (show ¬spot.tag.attribute? "use" = some "prohibited" from allowed)]
  cases reference? spot.scope spot.tag "ref" with
  | some name | none =>
      dsimp only
      rw [bindAttributes_eq_forM, forM_singleton, bindAttribute]
      simp only [need_bind, need_pure, bind_assoc, pure_bind]

/-- Whether the type of an element is given in another way than by an anonymous complex type. -/
theorem plain_cases
    {item : Item}
    (isParticle : item.role = .particle)
    (noReference : item.spot.tag.attribute? "ref" = none)
    (plain : item.anonymous? = none) :
    (∃ name, typeUse item.spot.scope item.spot.tag item.spot.content = .named name) ∨
      firstComplexType? item.spot = none := by
  cases isType : item.spot.tag.attribute? "type" with
  | some text =>
      refine .inl ⟨resolveName item.spot.scope text, ?_⟩
      rw [typeUse, reference?, isType]
      rfl
  | none =>
      rw [Item.anonymous?, if_pos ⟨isParticle, noReference, isType⟩] at plain
      exact .inr plain

/-- An element without an anonymous complex type of its own gives a field. -/
theorem bindParticle_eq
    (package path : String)
    {item : Item}
    (isParticle : item.role = .particle)
    (plain : item.anonymous? = none) :
    bindParticle environment owner (anyRepeated item.around) (particleAt item.spot) = (do
      let field ← Binding.need (particleField environment package path item)
      Binding.addField owner field.1 field.2) := by
  unfold particleAt particleField
  cases isReference : item.spot.tag.attribute? "ref" with
  | some text =>
      rw [reference?, isReference, Option.map_some]
      dsimp only
      rw [bindParticle, isRepeated_eq]
      simp only [need_bind, bind_assoc]
      refine bind_congr fun many => bind_congr fun name => ?_
      cases environment.globals.elements.lookup name with
      | none => rfl
      | some element => simp only [need_bind, need_pure, bind_assoc, pure_bind]
  | none =>
      rw [reference?, isReference, Option.map_none]
      dsimp only
      rw [body?_eq]
      cases use : typeUse item.spot.scope item.spot.tag item.spot.content with
      | named name =>
          rw [bindParticle, isRepeated_eq]
          simp only [need_bind, need_pure, bind_assoc, pure_bind, elementAt, use,
            Globals.elementType]
      | inline definition =>
          have noClass := (plain_cases isParticle isReference plain).resolve_left (by simp [use])
          rw [noClass, Option.map_none, bindParticle, isRepeated_eq]
          simp only [need_bind, need_pure, bind_assoc, pure_bind, elementAt, use, noClass,
            Option.map_none, Globals.elementType]
      | absent =>
          have noClass := (plain_cases isParticle isReference plain).resolve_left (by simp [use])
          rw [noClass, Option.map_none, bindParticle, isRepeated_eq]
          simp only [need_bind, need_pure, bind_assoc, pure_bind, elementAt, use, noClass,
            Option.map_none, Globals.elementType]
          rfl

theorem computes_addField
    (isPortrait : portraits[owner.index]? = some portrait)
    (field : String × TypeRef) :
    Computes package environment.globals portraits (Binding.addField owner field.1 field.2)
      fun _ after => ∃ filled, portrait.add (.field field) = some filled ∧
        after = portraits.set owner.index filled := by
  apply (Computes.addField isPortrait field.1 field.2).congr
  intro _ after
  rw [Portrait.add]
  split_ifs with declared
  · simp [declared]
  · simp [declared]

/-- A field whose making may be at fault. -/
theorem computes_field
    (isPortrait : portraits[owner.index]? = some portrait)
    (part : Deferred (String × TypeRef)) :
    Computes package environment.globals portraits (do
      let field ← Binding.need part
      Binding.addField owner field.1 field.2) fun _ after =>
        ∃ field, part = .ok field ∧ ∃ filled, portrait.add (.field field) = some filled ∧
          after = portraits.set owner.index filled :=
  .needThen fun field _ => computes_addField isPortrait field

theorem set_of_getElem?
    (isPortrait : portraits[owner.index]? = some portrait) :
    portraits.set owner.index portrait = portraits := by
  obtain ⟨bound, same⟩ := List.getElem?_eq_some_iff.1 isPortrait
  rw [← same, List.set_getElem_self]

theorem declares_of_resolveBase
    {globals : Globals}
    {base : ExpandedName}
    {id : ClassId}
    (resolved : globals.resolveBase base = .ok (.complex id)) :
    globals.Declares id base := by
  have notSimple : ∀ {result : Except SchemaError TypeRef},
      Base.simple <$> result ≠ .ok (.complex id) := by
    intro result mapped
    cases result <;> simp [Functor.map, Except.map] at mapped
  unfold Globals.resolveBase at resolved
  split at resolved
  next found type declared =>
    rw [Except.ok.injEq, Base.complex.injEq] at resolved
    exact ⟨type, resolved ▸ declared⟩
  next => exact absurd resolved notSimple
  next =>
    split at resolved
    · cases resolved
    · exact absurd resolved notSimple

theorem bind_eq_ok_iff
    {α β : Type}
    {part : Deferred α}
    {rest : α → Deferred β}
    {value : β} :
    (part >>= rest) = .ok value ↔ ∃ found, part = .ok found ∧ rest found = .ok value := by
  cases part <;> simp [Bind.bind, Except.bind]

/-- A derivation is bound to what it contributes, if it is from a simple base. -/
theorem computes_base
    (isPortrait : portraits[owner.index]? = some portrait)
    (distinct : environment.globals.Distinct)
    (spot : Spot)
    {simple : TypeRef → Contribution}
    {bindBase : ExpandedName → Base → Binding Unit}
    (bindsComplex : ∀ name id, bindBase name (.complex id) = Binding.addSupertype owner id)
    (bindsOther : ∀ name kind, (∀ id, kind ≠ .complex id) →
      Computes package environment.globals portraits (bindBase name kind) fun _ after =>
        ∃ filled, portrait.add (kind.contribution simple name) = some filled ∧
          after = portraits.set owner.index filled) :
    Computes package environment.globals portraits (do
      let base ← Binding.need (baseAt spot)
      let kind ← Binding.need (environment.globals.resolveBase base)
      bindBase base kind) fun _ after =>
        ∃ contribution, baseContribution environment simple spot = .ok contribution ∧
          ∃ filled, portrait.add contribution = some filled ∧
            after = portraits.set owner.index filled := by
  have each : ∀ base kind, environment.globals.resolveBase base = .ok kind →
      Computes package environment.globals portraits (bindBase base kind) fun _ after =>
        ∃ filled, portrait.add (kind.contribution simple base) = some filled ∧
          after = portraits.set owner.index filled := by
    intro base kind resolved
    cases kind with
    | complex id =>
        obtain ⟨type, declared⟩ := declares_of_resolveBase resolved
        rw [bindsComplex]
        apply (Computes.addSupertype isPortrait declared distinct).congr
        intro _ after
        simp [Base.contribution, Portrait.add]
    | any | simple type => exact bindsOther base _ fun id same => by cases same
  apply (Computes.needThen fun base _ => Computes.needThen fun kind resolved =>
    each base kind resolved).congr
  intro _ after
  simp only [baseContribution, bind_eq_ok_iff, pure, Except.pure, Except.ok.injEq]
  constructor
  · rintro ⟨base, isBase, kind, isKind, filled⟩
    exact ⟨_, ⟨base, isBase, kind, isKind, rfl⟩, filled⟩
  · rintro ⟨_, ⟨base, isBase, kind, isKind, rfl⟩, filled⟩
    exact ⟨base, isBase, kind, isKind, filled⟩

/-- Binds the base of a derivation by complex content. -/
def bindComplexBase (owner : ClassId) (name : ExpandedName) : Base → Binding Unit
  | .any => return
  | .complex supertype => Binding.addSupertype owner supertype
  | .simple _ => Binding.warn (.complexFromSimple name)

/-- Binds the base of a derivation by simple content. -/
def bindSimpleBase (owner : ClassId) (name : ExpandedName) : Base → Binding Unit
  | .any => Binding.warn (.simpleFromAny name)
  | .complex supertype => Binding.addSupertype owner supertype
  | .simple type => Binding.addField owner "value" type

theorem bindContent_complexBase
    (base : Deferred ExpandedName) :
    bindContent environment owner (.complexContent base []) = (do
      let base ← Binding.need base
      let kind ← Binding.need (environment.globals.resolveBase base)
      bindComplexBase owner base kind) := by
  rw [bindContent]
  refine bind_congr fun name => bind_congr fun kind => ?_
  cases kind <;> simp [bindContents, bindComplexBase]

theorem bindContent_simpleBase
    (base : Deferred ExpandedName) :
    bindContent environment owner (.simpleContent base []) = (do
      let base ← Binding.need base
      let kind ← Binding.need (environment.globals.resolveBase base)
      bindSimpleBase owner base kind) := by
  rw [bindContent]
  refine bind_congr fun name => bind_congr fun kind => ?_
  cases kind <;> simp [bindAttributes, bindSimpleBase]

/-- A part that contributes nothing leaves the portraits as they are. -/
theorem add_nothing_iff
    (isPortrait : portraits[owner.index]? = some portrait)
    {after : List Portrait} :
    (∃ filled, portrait.add .nothing = some filled ∧ after = portraits.set owner.index filled) ↔
      after = portraits := by
  simp [Portrait.add, set_of_getElem? isPortrait]

/-- A part that makes a field contributes the field. -/
theorem add_field_iff
    (part : Deferred (String × TypeRef))
    {after : List Portrait} :
    (∃ field, part = .ok field ∧ ∃ filled, portrait.add (.field field) = some filled ∧
      after = portraits.set owner.index filled) ↔
    ∃ contribution, (do return .field (← part) : Deferred Contribution) = .ok contribution ∧
      ∃ filled, portrait.add contribution = some filled ∧
        after = portraits.set owner.index filled := by
  cases part <;> simp [Bind.bind, Except.bind, pure, Except.pure]

/-- A part without an anonymous complex type of its own is bound to what it contributes. -/
theorem computes_plain
    (isPortrait : portraits[owner.index]? = some portrait)
    (distinct : environment.globals.Distinct)
    {item : Item}
    (plain : item.anonymous? = none) :
    Computes package environment.globals portraits (bindItem environment owner item) fun _ after =>
      ∃ contribution, item.contribution environment package portrait.type.path = .ok contribution ∧
        ∃ filled, portrait.add contribution = some filled ∧
          after = portraits.set owner.index filled := by
  unfold bindItem Item.contribution
  cases role : item.role with
  | group =>
      dsimp only
      rw [isRepeated_eq]
      apply (Computes.needThen fun _ _ => Computes.pure ()).congr
      intro _ after
      cases item.repeats <;>
        simp [Bind.bind, Except.bind, pure, Except.pure, add_nothing_iff isPortrait]
  | particle =>
      dsimp only
      rw [bindParticle_eq package portrait.type.path role plain]
      exact (computes_field isPortrait _).congr fun _ _ => add_field_iff _
  | attributeUse =>
      dsimp only
      split_ifs with prohibited
      · have none : attributesAt item.spot = [] := if_pos prohibited
        rw [none]
        apply (Computes.pure ()).congr
        intro _ after
        simp [pure, Except.pure, add_nothing_iff isPortrait]
      · rw [bindAttributes_eq prohibited]
        exact (computes_field isPortrait _).congr fun _ _ => add_field_iff _
  | complexBase =>
      dsimp only
      rw [bindContent_complexBase]
      refine computes_base isPortrait distinct item.spot (fun _ _ => rfl) fun name kind other => ?_
      cases kind with
      | any =>
          exact (Computes.pure ()).congr fun _ _ => by
            simp [Base.contribution, add_nothing_iff isPortrait]
      | complex id => exact absurd rfl (other id)
      | simple type =>
          exact (Computes.warn _).congr fun _ _ => by
            simp [Base.contribution, add_nothing_iff isPortrait]
  | simpleBase =>
      dsimp only
      rw [bindContent_simpleBase]
      refine computes_base isPortrait distinct item.spot (fun _ _ => rfl) fun name kind other => ?_
      cases kind with
      | any =>
          exact (Computes.warn _).congr fun _ _ => by
            simp [Base.contribution, add_nothing_iff isPortrait]
      | complex id => exact absurd rfl (other id)
      | simple type => exact computes_addField isPortrait ("value", type)
  | unsupported =>
      apply (Computes.warn _).congr
      intro _ after
      simp only [pure, Except.pure, Except.ok.injEq, exists_eq_left', add_nothing_iff isPortrait]

/-! ## Binding an anonymous complex type -/

theorem inlineType_ne_named
    (spot : Spot)
    (name : Deferred ExpandedName) :
    inlineType spot.scope spot.content ≠ .named name := by
  rw [inlineType_eq]
  intro isNamed
  cases isFirst : first? ["simpleType"] spot <;> rw [isFirst] at isNamed <;> cases isNamed

theorem typeUse_ne_named
    {spot : Spot}
    (noType : spot.tag.attribute? "type" = none)
    (name : Deferred ExpandedName) :
    typeUse spot.scope spot.tag spot.content ≠ .named name := by
  rw [typeUse, reference?, noType]
  exact inlineType_ne_named spot name

/-- An element with an anonymous complex type of its own has the type of its class. -/
theorem elementType_elementAt
    {spot : Spot}
    (noType : spot.tag.attribute? "type" = none)
    {found : Nat × Spot}
    (first : firstComplexType? spot = some found)
    (classType : TypeRef) :
    environment.globals.elementType (elementAt spot classType) = .ok classType := by
  unfold elementAt Globals.elementType
  rw [first]
  cases use : typeUse spot.scope spot.tag spot.content with
  | named name => exact absurd use (typeUse_ne_named noType name)
  | inline | absent => rfl

theorem particleField_nested
    (package path : String)
    {item : Item}
    {found : Nat × Spot}
    (isAnonymous : item.anonymous? = some found) :
    particleField environment package path item = (do
      let repeated ← item.repeats
      let name ← required item.spot.tag "name"
      return (fieldName name,
        particleType repeated (.reference package (path ++ "." ++ className name)))) := by
  obtain ⟨_, noReference, noType, first⟩ := Item.anonymous?_eq_some_iff.1 isAnonymous
  unfold particleField
  rw [reference?, noReference, Option.map_none]
  simp only [elementType_elementAt noType first]
  rfl

/-- A part with an anonymous complex type of its own contributes a field of the type of its class. -/
theorem contribution_nested
    (package path : String)
    {item : Item}
    {found : Nat × Spot}
    (isAnonymous : item.anonymous? = some found) :
    item.contribution environment package path = (do
      let repeated ← item.repeats
      let name ← required item.spot.tag "name"
      return .field (fieldName name,
        particleType repeated (.reference package (path ++ "." ++ className name)))) := by
  rw [Item.contribution, (Item.anonymous?_eq_some_iff.1 isAnonymous).1]
  dsimp only
  rw [particleField_nested package path isAnonymous]
  simp only [bind_assoc, pure_bind]

theorem bindItem_nested
    {item : Item}
    {found : Nat × Spot}
    (isAnonymous : item.anonymous? = some found) :
    bindItem environment owner item = (do
      let repeated ← Binding.need item.repeats
      let name ← Binding.need (required item.spot.tag "name")
      let nested ← Binding.addClass (className name) environment.package (some owner)
      bindItems environment nested (contentItems found.2)
      let type ← Binding.typeOf nested
      Binding.addField owner (fieldName name) (particleType repeated type)) := by
  obtain ⟨isParticle, noReference, noType, first⟩ := Item.anonymous?_eq_some_iff.1 isAnonymous
  unfold bindItem particleAt
  rw [isParticle, reference?, noReference, Option.map_none]
  dsimp only
  rw [body?_eq, first, Option.map_some]
  rw [bindParticle, isRepeated_eq]
  · simp only [bindContents_eq]
  · exact fun name => typeUse_ne_named noType name

end Parts

/-! ## Binding all parts -/

section Whole

variable {package : String} {environment : Environment}

/-- Whether portraits come about from others when parts of the content of one class are taken: its
portrait is extended, and those of the complex types inside the parts come last. -/
def Fills (package : String) (environment : Environment) (owner : ClassId)
    (portraits : List Portrait) (portrait : Portrait) (items : List Item)
    (after : List Portrait) : Prop :=
  ∃ filled inner, items.foldlM (Portrait.take environment package) portrait = some filled ∧
    (items.flatMap portrait.type.insideItem).mapM (ComplexType.portrait? environment package) =
      some inner ∧
    after = portraits.set owner.index filled ++ inner

theorem set_set_append
    {owner : ClassId}
    {portraits : List Portrait}
    {portrait : Portrait}
    (isPortrait : portraits[owner.index]? = some portrait)
    (taken filled : Portrait)
    (inner : List Portrait) :
    (portraits.set owner.index taken ++ inner).set owner.index filled =
      portraits.set owner.index filled ++ inner := by
  have bound := (List.getElem?_eq_some_iff.1 isPortrait).1
  rw [List.set_append_left _ _ (by simpa using bound), List.set_set]

theorem fills_cons_iff
    {owner : ClassId}
    {portraits after : List Portrait}
    {portrait : Portrait}
    (isPortrait : portraits[owner.index]? = some portrait)
    {item : Item}
    {rest : List Item} :
    Fills package environment owner portraits portrait (item :: rest) after ↔
      ∃ taken inner, portrait.take environment package item = some taken ∧
        (portrait.type.insideItem item).mapM (ComplexType.portrait? environment package) =
          some inner ∧
        Fills package environment owner (portraits.set owner.index taken ++ inner) taken rest
          after := by
  unfold Fills
  simp only [List.foldlM_cons, List.flatMap_cons, List.mapM_append, Option.bind_eq_bind,
    Option.bind_eq_some_iff, Option.pure_def, Option.some.injEq]
  constructor
  · rintro ⟨filled, _, ⟨taken, isTaken, isFilled⟩, ⟨inner, isInner, further, isFurther, rfl⟩, rfl⟩
    refine ⟨taken, inner, isTaken, isInner, filled, further, isFilled, ?_, ?_⟩
    · rw [Portrait.type_of_take isTaken]
      exact isFurther
    · rw [set_set_append isPortrait, List.append_assoc]
  · rintro ⟨taken, inner, isTaken, isInner, filled, further, isFilled, isFurther, rfl⟩
    rw [Portrait.type_of_take isTaken] at isFurther
    refine ⟨filled, _, ⟨taken, isTaken, isFilled⟩, ⟨inner, isInner, further, isFurther, rfl⟩, ?_⟩
    rw [set_set_append isPortrait, List.append_assoc]

/-- Whether binding the whole content of a complex type completes its portrait. -/
def Completes (package : String) (environment : Environment) (type : ComplexType) : Prop :=
  ∀ {owner : ClassId} {portraits : List Portrait}, portraits[owner.index]? = some ⟨type, [], []⟩ →
    Computes package environment.globals portraits
      (bindItems environment owner (contentItems type.spot)) fun _ after =>
        Fills package environment owner portraits ⟨type, [], []⟩ (contentItems type.spot) after

/-- A class for a complex type of its own begins without fields and ends with the whole portrait. -/
theorem fills_new_iff
    {portraits after : List Portrait}
    {inner : ComplexType} :
    Fills package environment ⟨portraits.length⟩ (portraits ++ [⟨inner, [], []⟩]) ⟨inner, [], []⟩
        (contentItems inner.spot) after ↔
      ∃ whole below, inner.portrait? environment package = some whole ∧
        inner.inside.mapM (ComplexType.portrait? environment package) = some below ∧
        after = portraits ++ whole :: below := by
  unfold Fills ComplexType.portrait?
  rw [ComplexType.inside_eq]
  simp only [List.set_append_right _ _ (Nat.le_refl portraits.length), Nat.sub_self,
    List.set_cons_zero, List.append_assoc, List.singleton_append]

/-- A class has the fields that the content of its complex type contributes, in document order. -/
theorem ComplexType.fields_of_portrait?
    {type : ComplexType}
    {portrait : Portrait}
    (described : type.portrait? environment package = some portrait) :
    ∃ contributions : List Contribution,
      (contentItems type.spot).map (Item.contribution environment package type.path) =
        contributions.map .ok ∧
      portrait.fields = contributions.filterMap Contribution.field? := by
  obtain ⟨contributions, areContributions, fields⟩ := Portrait.fields_of_foldlM described
  rw [List.nil_append] at fields
  exact ⟨contributions, areContributions, fields⟩

theorem ComplexType.type_of_portrait?
    {type : ComplexType}
    {portrait : Portrait}
    (described : type.portrait? environment package = some portrait) :
    portrait.type = type :=
  Portrait.type_of_foldlM described

/-- A class is referred to by a field of the class around it. -/
theorem computes_reference
    {owner : ClassId}
    {portraits : List Portrait}
    {portrait whole : Portrait}
    (isPortrait : portraits[owner.index]? = some portrait)
    (below : List Portrait)
    (field : String)
    (many : Bool) :
    Computes package environment.globals (portraits ++ whole :: below) (do
      let type ← Binding.typeOf ⟨portraits.length⟩
      Binding.addField owner field (particleType many type)) fun _ after =>
        ∃ taken, portrait.add
            (.field (field, particleType many (.reference package whole.type.path))) = some taken ∧
          after = portraits.set owner.index taken ++ whole :: below := by
  have bound := (List.getElem?_eq_some_iff.1 isPortrait).1
  have isType : typeAt (portraits ++ whole :: below) ⟨portraits.length⟩ = some whole.type := by
    rw [typeAt, List.getElem?_append_right (Nat.le_refl _), Nat.sub_self]
    rfl
  have isOwner : (portraits ++ whole :: below)[owner.index]? = some portrait := by
    rw [List.getElem?_append_left bound, isPortrait]
  have added : ∀ type middle,
      type = .reference package whole.type.path ∧ middle = portraits ++ whole :: below →
        Computes package environment.globals middle
          (Binding.addField owner field (particleType many type)) fun _ after =>
            ∃ taken, portrait.add (.field (field, particleType many type)) = some taken ∧
              after = middle.set owner.index taken := by
    rintro _ _ ⟨rfl, rfl⟩
    exact computes_addField isOwner (field, _)
  apply ((Computes.typeOf isType).bind added).congr
  rintro _ after
  constructor
  · rintro ⟨_, _, ⟨rfl, rfl⟩, taken, isTaken, rfl⟩
    exact ⟨taken, isTaken, List.set_append_left _ _ bound⟩
  · rintro ⟨taken, isTaken, rfl⟩
    exact ⟨_, _, ⟨rfl, rfl⟩, taken, isTaken, (List.set_append_left _ _ bound).symm⟩

/-- The class for a complex type is created, filled and referred to. -/
theorem computes_class
    {owner : ClassId}
    {portraits : List Portrait}
    {portrait : Portrait}
    (isPortrait : portraits[owner.index]? = some portrait)
    {inner : ComplexType}
    (around : inner.around? = some portrait.type)
    (completes : Completes package environment inner)
    (field : String)
    (many : Bool) :
    Computes package environment.globals portraits (do
      let nested ← Binding.addClass (className (nameOf inner.named)) ⟨0⟩ (some owner)
      bindItems environment nested (contentItems inner.spot)
      let type ← Binding.typeOf nested
      Binding.addField owner field (particleType many type)) fun _ after =>
        ∃ whole below taken, inner.portrait? environment package = some whole ∧
          inner.inside.mapM (ComplexType.portrait? environment package) = some below ∧
          portrait.add (.field (field, particleType many (.reference package inner.path))) =
            some taken ∧
          after = portraits.set owner.index taken ++ whole :: below := by
  have surrounds : (some owner).map (typeAt portraits) = inner.around?.map some := by
    rw [around, Option.map_some, Option.map_some, typeAt, isPortrait, Option.map_some]
  have isNew : (portraits ++ [⟨inner, [], []⟩])[(⟨portraits.length⟩ : ClassId).index]? =
      some ⟨inner, [], []⟩ :=
    List.getElem?_concat_length
  have referred : ∀ (_ : Unit) middle, Fills package environment ⟨portraits.length⟩
      (portraits ++ [⟨inner, [], []⟩]) ⟨inner, [], []⟩ (contentItems inner.spot) middle →
        Computes package environment.globals middle (do
          let type ← Binding.typeOf ⟨portraits.length⟩
          Binding.addField owner field (particleType many type)) fun _ after =>
            ∃ taken, portrait.add
                (.field (field, particleType many (.reference package inner.path))) = some taken ∧
              after = middle.set owner.index taken := by
    intro _ middle fills
    obtain ⟨whole, below, described, _, rfl⟩ := fills_new_iff.1 fills
    have bound := (List.getElem?_eq_some_iff.1 isPortrait).1
    rw [← ComplexType.type_of_portrait? described]
    simp only [List.set_append_left _ _ bound]
    exact computes_reference isPortrait below field many
  have filled : ∀ id middle, id = ⟨portraits.length⟩ ∧ middle = portraits ++ [⟨inner, [], []⟩] →
      Computes package environment.globals middle (do
        bindItems environment id (contentItems inner.spot)
        let type ← Binding.typeOf id
        Binding.addField owner field (particleType many type)) fun _ after =>
          ∃ (_ : Unit) (between : List Portrait), Fills package environment ⟨portraits.length⟩
              (portraits ++ [⟨inner, [], []⟩]) ⟨inner, [], []⟩ (contentItems inner.spot) between ∧
            ∃ taken, portrait.add
                (.field (field, particleType many (.reference package inner.path))) = some taken ∧
              after = between.set owner.index taken := by
    rintro _ _ ⟨rfl, rfl⟩
    exact (completes isNew).bind referred
  apply ((Computes.addClass inner surrounds).bind filled).congr
  intro _ after
  have bound := (List.getElem?_eq_some_iff.1 isPortrait).1
  simp only [fills_new_iff]
  constructor
  · rintro ⟨_, _, ⟨rfl, rfl⟩, _, _, ⟨whole, below, described, isBelow, rfl⟩, taken, isTaken, rfl⟩
    exact ⟨whole, below, taken, described, isBelow, isTaken, List.set_append_left _ _ bound⟩
  · rintro ⟨whole, below, taken, described, isBelow, isTaken, rfl⟩
    exact ⟨_, _, ⟨rfl, rfl⟩, (), _, ⟨whole, below, described, isBelow, rfl⟩, taken, isTaken,
      (List.set_append_left _ _ bound).symm⟩

/-- A part with an anonymous complex type of its own gives a field, and the portraits of that type
and of those inside it. -/
theorem computes_nested
    {owner : ClassId}
    {portraits : List Portrait}
    {portrait : Portrait}
    (isFirst : environment.package = ⟨0⟩)
    (isPortrait : portraits[owner.index]? = some portrait)
    {item : Item}
    {inner : ComplexType}
    (isWithin : portrait.type.within? item = some inner)
    (completes : Completes package environment inner) :
    Computes package environment.globals portraits (bindItem environment owner item) fun _ after =>
      ∃ taken below, portrait.take environment package item = some taken ∧
        (portrait.type.insideItem item).mapM (ComplexType.portrait? environment package) =
          some below ∧
        after = portraits.set owner.index taken ++ below := by
  obtain ⟨index, spot, isAnonymous, isInner⟩ := ComplexType.within?_eq_some_iff.1 isWithin
  have around : inner.around? = some portrait.type := by rw [← isInner]; rfl
  have named : inner.named = item.spot.tag := by rw [← isInner]; rfl
  have content : inner.spot = spot := by rw [← isInner]; rfl
  have path : inner.path = portrait.type.path ++ "." ++ className (nameOf item.spot.tag) := by
    rw [← isInner]; rfl
  have own : portrait.type.insideItem item = inner :: inner.inside := by
    rw [ComplexType.insideItem, isWithin, Option.elim_some]
  rw [bindItem_nested isAnonymous, isFirst, own]
  have created : ∀ many name, required item.spot.tag "name" = .ok name →
      Computes package environment.globals portraits (do
        let nested ← Binding.addClass (className name) ⟨0⟩ (some owner)
        bindItems environment nested (contentItems spot)
        let type ← Binding.typeOf nested
        Binding.addField owner (fieldName name) (particleType many type)) fun _ after =>
          ∃ whole below taken, inner.portrait? environment package = some whole ∧
            inner.inside.mapM (ComplexType.portrait? environment package) = some below ∧
            portrait.add (.field (fieldName name,
              particleType many (.reference package inner.path))) = some taken ∧
            after = portraits.set owner.index taken ++ whole :: below := by
    intro many name isName
    have same : nameOf inner.named = name := by rw [named, nameOf_of_required isName]
    rw [← same, ← content]
    exact computes_class isPortrait around completes _ many
  apply (Computes.needThen fun many _ => Computes.needThen fun name isName =>
    created many name isName).congr
  intro _ after
  simp only [Portrait.take_eq_some_iff, contribution_nested package portrait.type.path isAnonymous,
    bind_eq_ok_iff, pure, Except.pure, Except.ok.injEq]
  constructor
  · rintro ⟨many, isMany, name, isName, whole, below, taken, described, isBelow, added, rfl⟩
    rw [path, nameOf_of_required isName] at added
    refine ⟨taken, whole :: below, ⟨_, ⟨many, isMany, name, isName, rfl⟩, added⟩, ?_, rfl⟩
    rw [List.mapM_cons, described, isBelow]
    rfl
  · rintro ⟨taken, below, ⟨_, ⟨many, isMany, name, isName, rfl⟩, added⟩, isBelow, rfl⟩
    rw [List.mapM_cons] at isBelow
    obtain ⟨whole, described, isBelow⟩ := Option.bind_eq_some_iff.1 isBelow
    obtain ⟨further, isFurther, same⟩ := Option.bind_eq_some_iff.1 isBelow
    obtain rfl := Option.some.inj same
    have same : className name = className (nameOf item.spot.tag) := by
      rw [nameOf_of_required isName]
    rw [same, ← path] at added
    exact ⟨many, isMany, name, isName, whole, further, taken, described, isFurther, added, rfl⟩

/-- A part of the content gives its contribution, and the portraits inside it. -/
theorem computes_bindItem
    (isFirst : environment.package = ⟨0⟩)
    (distinct : environment.globals.Distinct)
    {owner : ClassId}
    {item : Item}
    {portraits : List Portrait}
    {portrait : Portrait}
    (isPortrait : portraits[owner.index]? = some portrait)
    (completes : ∀ inner, portrait.type.within? item = some inner →
      Completes package environment inner) :
    Computes package environment.globals portraits (bindItem environment owner item) fun _ after =>
      ∃ taken below, portrait.take environment package item = some taken ∧
        (portrait.type.insideItem item).mapM (ComplexType.portrait? environment package) =
          some below ∧
        after = portraits.set owner.index taken ++ below := by
  cases isWithin : portrait.type.within? item with
  | some inner => exact computes_nested isFirst isPortrait isWithin (completes inner isWithin)
  | none =>
      have plain : item.anonymous? = none := by
        simpa [ComplexType.within?] using isWithin
      have nothing : portrait.type.insideItem item = [] := by
        rw [ComplexType.insideItem, isWithin, Option.elim_none]
      apply (computes_plain isPortrait distinct plain).congr
      intro _ after
      simp only [Portrait.take_eq_some_iff, nothing, List.mapM_nil, pure, Option.some.injEq]
      constructor
      · rintro ⟨contribution, isContribution, filled, added, rfl⟩
        exact ⟨filled, [], ⟨contribution, isContribution, added⟩, rfl, (List.append_nil _).symm⟩
      · rintro ⟨filled, _, ⟨contribution, isContribution, added⟩, rfl, rfl⟩
        exact ⟨contribution, isContribution, filled, added, List.append_nil _⟩

/-- Parts of the content of a complex type are bound to what they contribute. -/
theorem computes_bindItems
    (isFirst : environment.package = ⟨0⟩)
    (distinct : environment.globals.Distinct)
    {owner : ClassId}
    {items : List Item}
    {portraits : List Portrait}
    {portrait : Portrait}
    (isPortrait : portraits[owner.index]? = some portrait)
    (completes : ∀ item ∈ items, ∀ inner, portrait.type.within? item = some inner →
      Completes package environment inner) :
    Computes package environment.globals portraits (bindItems environment owner items)
      fun _ after => Fills package environment owner portraits portrait items after := by
  induction items generalizing portraits portrait with
  | nil =>
      apply (Computes.pure ()).congr
      intro _ after
      simp [Fills, set_of_getElem? isPortrait]
  | cons item rest inductionHypothesis =>
      obtain ⟨itemCompletes, restCompletes⟩ := List.forall_mem_cons.1 completes
      rw [bindItems, List.forM_cons]
      have further : ∀ (_ : Unit) middle, (∃ taken below,
          portrait.take environment package item = some taken ∧
            (portrait.type.insideItem item).mapM (ComplexType.portrait? environment package) =
              some below ∧
            middle = portraits.set owner.index taken ++ below) →
          Computes package environment.globals middle (bindItems environment owner rest)
            fun _ after => ∃ taken below, portrait.take environment package item = some taken ∧
              (portrait.type.insideItem item).mapM (ComplexType.portrait? environment package) =
                some below ∧
              middle = portraits.set owner.index taken ++ below ∧
              Fills package environment owner middle taken rest after := by
        rintro _ _ ⟨taken, below, isTaken, isBelow, rfl⟩
        have bound := (List.getElem?_eq_some_iff.1 isPortrait).1
        have isNext : (portraits.set owner.index taken ++ below)[owner.index]? = some taken := by
          rw [List.getElem?_append_left (by simpa using bound), List.getElem?_set_self bound]
        have sameType := Portrait.type_of_take isTaken
        apply (inductionHypothesis isNext (sameType.symm ▸ restCompletes)).congr
        intro _ after
        constructor
        · exact fun fills => ⟨taken, below, isTaken, isBelow, rfl, fills⟩
        · rintro ⟨other, _, isOther, _, _, fills⟩
          obtain rfl := Option.some.inj (isTaken.symm.trans isOther)
          exact fills
      apply ((computes_bindItem isFirst distinct isPortrait itemCompletes).bind further).congr
      intro _ after
      rw [fills_cons_iff isPortrait]
      constructor
      · rintro ⟨_, _, _, taken, below, isTaken, isBelow, rfl, fills⟩
        exact ⟨taken, below, isTaken, isBelow, fills⟩
      · rintro ⟨taken, below, isTaken, isBelow, fills⟩
        exact ⟨(), _, ⟨taken, below, isTaken, isBelow, rfl⟩, taken, below, isTaken, isBelow, rfl, fills⟩

/-- Binding the content of a complex type completes its portrait. -/
theorem completes
    (isFirst : environment.package = ⟨0⟩)
    (distinct : environment.globals.Distinct)
    (type : ComplexType) :
    Completes package environment type := by
  intro owner portraits isPortrait
  apply computes_bindItems isFirst distinct isPortrait
  -- The induction is on the nesting: a complex type inside a part is smaller than the one around it.
  intro item member inner isWithin
  exact completes isFirst distinct inner
termination_by sizeOf type.spot.content
decreasing_by exact ComplexType.sizeOf_content_lt_of_within? member isWithin

end Whole

end Schema
end SchemaBinding
