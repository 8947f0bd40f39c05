import SchemaBinding.Proofs.MappedContent
import SchemaBinding.Schema.Binding

/-!
# Flattened content

The content of a complex type is read as a tree of model groups and derivations and bound along that
tree.  It is shown that the tree plays no part: binding it comes down to binding the listed parts of
the content one after the other.
-/

namespace SchemaBinding
namespace Schema

open Xml (Place Spot)

/-! ## Reading at a spot -/

/-- The first complex type directly inside an element, with its position. -/
def firstComplexType? (spot : Spot) : Option (Nat × Spot) :=
  first? ["complexType"] spot

/-- The attributes that an element declares as an attribute of a complex type. -/
def attributesAt (spot : Spot) : List AttributeItem :=
  attributeItems spot.scope spot.tag spot.content

/-- The particle that an element of a model group is. -/
def particleAt (spot : Spot) : Particle :=
  match reference? spot.scope spot.tag "ref" with
  | some name => .reference (repeated spot.tag) name
  | none =>
      .element (repeated spot.tag) (required spot.tag "name")
        (typeUse spot.scope spot.tag spot.content) (body? spot.scope spot.content)

/-- What an element inside a model group declares. -/
def particlesAt (child : Spot) : List Particle :=
  if constructOf? child.tag = some "element" then [particleAt child]
  else if IsGroup child.tag then [.group (repeated child.tag) (particles child.scope child.content)]
  else if IsPassedOver ["annotation"] child.tag then []
  else [.unsupported child.tag.name.localName]

/-- What an element inside an extension of simple content adds. -/
def addedAt (child : Spot) : List AttributeItem :=
  if constructOf? child.tag = some "attribute" then attributesAt child
  else if IsPassedOver ["annotation", "assert"] child.tag then []
  else [.unsupported child.tag.name.localName]

/-- The name of the base of a derivation. -/
def baseAt (derivation : Spot) : Deferred ExpandedName :=
  requiredReference derivation.scope derivation.tag "base"

/-- The derivation by simple content that an element makes. -/
def simpleContentAt (derivation : Spot) : Content :=
  .simpleContent (baseAt derivation)
    (if constructOf? derivation.tag = some "extension" then
      derivation.content.flatMap (addedAttribute derivation.scope)
    else [])

/-- The derivation by complex content that an element makes. -/
def complexContentAt (derivation : Spot) : Content :=
  .complexContent (baseAt derivation)
    (if constructOf? derivation.tag = some "extension" then
      contents derivation.scope derivation.content
    else [])

/-- What an element directly inside a complex type declares. -/
def contentsAt (child : Spot) : List Content :=
  if IsGroup child.tag then [.group (repeated child.tag) (particles child.scope child.content)]
  else if constructOf? child.tag = some "attribute" then (attributesAt child).map .attributeItem
  else if constructOf? child.tag = some "complexContent" then
    ((firstDerivation? child).map fun found => complexContentAt found.2).toList
  else if constructOf? child.tag = some "simpleContent" then
    ((firstDerivation? child).map fun found => simpleContentAt found.2).toList
  else if IsPassedOver ["annotation", "assert", "openContent"] child.tag then []
  else [.unsupported child.tag.name.localName]

theorem eq_localName_of_constructOf?
    {tag : Xml.Tag}
    {construct : String}
    (isConstruct : constructOf? tag = some construct) :
    construct = tag.name.localName := by
  unfold constructOf? at isConstruct
  split at isConstruct
  · exact (Option.some.inj isConstruct).symm
  · cases isConstruct

theorem particle_eq
    (scope : Xml.Scope)
    (node : Xml.Node) :
    particle scope node = (node.spot? scope).elim [] particlesAt := by
  cases node with
  | text | comment | instruction => simp [particle, Xml.Node.spot?]
  | element tag children =>
      rw [Xml.Node.spot?, Option.elim_some, particlesAt, particle]
      dsimp only
      split
      next isElement =>
        simp only [isElement, if_true, particleAt]
        cases reference? (scope.enter tag.declarations) tag "ref" <;> rfl
      next isSequence => simp [IsGroup, isSequence]
      next isChoice => simp [IsGroup, isChoice]
      next isAll => simp [IsGroup, isAll]
      next isForeign => simp [IsGroup, IsPassedOver, isForeign]
      next isRemark => simp [IsGroup, IsPassedOver, isRemark]
      next other noElement noSequence noChoice noAll noRemark isOther =>
        have same := eq_localName_of_constructOf? isOther
        simp_all [IsGroup, IsPassedOver]

theorem particles_eq
    (spot : Spot) :
    particles spot.scope spot.content = spot.children.flatMap fun child => particlesAt child.2 := by
  rw [← spot.flatMap_content fun node => particle_eq spot.scope node]
  induction spot.content with
  | nil => rw [particles, List.flatMap_nil]
  | cons node rest inductionHypothesis => rw [particles, List.flatMap_cons, inductionHypothesis]

theorem addedAttribute_eq
    (scope : Xml.Scope)
    (node : Xml.Node) :
    addedAttribute scope node = (node.spot? scope).elim [] addedAt := by
  cases node with
  | text | comment | instruction => rfl
  | element tag children =>
      rw [Xml.Node.spot?, Option.elim_some, addedAt, addedAttribute]
      split
      next isAttribute => simp [isAttribute, attributesAt]
      next isForeign => simp [IsPassedOver, isForeign]
      next isRemark => simp [IsPassedOver, isRemark]
      next isAssert => simp [IsPassedOver, isAssert]
      next other noAttribute noRemark noAssert isOther =>
        have same := eq_localName_of_constructOf? isOther
        simp_all [IsPassedOver]

theorem added_eq
    (derivation : Spot) :
    derivation.content.flatMap (addedAttribute derivation.scope) =
      derivation.children.flatMap fun child => addedAt child.2 :=
  derivation.flatMap_content fun node => addedAttribute_eq derivation.scope node

/-- Whether an element is a derivation. -/
def isDerivation (child : Spot) : Bool :=
  (constructOf? child.tag).any (· ∈ ["extension", "restriction"])

theorem isDerivation_iff
    {child : Spot} :
    isDerivation child ↔
      constructOf? child.tag = some "extension" ∨ constructOf? child.tag = some "restriction" := by
  unfold isDerivation
  cases constructOf? child.tag <;> simp

theorem simpleDerivation?_eq
    (scope : Xml.Scope)
    (node : Xml.Node) :
    simpleDerivation? scope node =
      (node.spot? scope).bind fun child =>
        if isDerivation child then some (simpleContentAt child) else none := by
  cases node with
  | text | comment | instruction => rfl
  | element tag children =>
      rw [Xml.Node.spot?, Option.bind_some, simpleDerivation?]
      split
      next isExtension => simp [isDerivation, simpleContentAt, baseAt, isExtension]
      next isRestriction => simp [isDerivation, simpleContentAt, baseAt, isRestriction]
      next noExtension noRestriction =>
        exact (if_neg fun derives => (isDerivation_iff.1 derives).elim noExtension noRestriction).symm

theorem simpleContent_eq
    (content : Spot) :
    content.content.findSome? (simpleDerivation? content.scope) =
      (firstDerivation? content).map fun found => simpleContentAt found.2 :=
  content.findSome?_content fun node => simpleDerivation?_eq content.scope node

theorem complexDerivation?_eq
    (scope : Xml.Scope)
    (node : Xml.Node) :
    complexDerivation? scope node =
      (node.spot? scope).bind fun child =>
        if isDerivation child then some (complexContentAt child) else none := by
  cases node with
  | text | comment | instruction => simp [complexDerivation?, Xml.Node.spot?]
  | element tag children =>
      rw [Xml.Node.spot?, Option.bind_some, complexDerivation?]
      split
      next isExtension => simp [isDerivation, complexContentAt, baseAt, isExtension]
      next isRestriction => simp [isDerivation, complexContentAt, baseAt, isRestriction]
      next noExtension noRestriction =>
        exact (if_neg fun derives => (isDerivation_iff.1 derives).elim noExtension noRestriction).symm

theorem complexContent?_eq
    (content : Spot) :
    complexContent? content.scope content.content =
      (firstDerivation? content).map fun found => complexContentAt found.2 := by
  rw [show (firstDerivation? content).map (fun found => complexContentAt found.2) =
    content.content.findSome? (complexDerivation? content.scope) from
      (content.findSome?_content fun node => complexDerivation?_eq content.scope node).symm]
  induction content.content with
  | nil => rw [complexContent?, List.findSome?_nil]
  | cons node rest inductionHypothesis =>
      rw [complexContent?, List.findSome?_cons, inductionHypothesis]
      cases complexDerivation? content.scope node <;> rfl

theorem content_eq
    (scope : Xml.Scope)
    (node : Xml.Node) :
    content scope node = (node.spot? scope).elim [] contentsAt := by
  cases node with
  | text | comment | instruction => simp [content, Xml.Node.spot?]
  | element tag children =>
      rw [Xml.Node.spot?, Option.elim_some, contentsAt, content]
      dsimp only
      split
      next isSequence => simp [IsGroup, isSequence]
      next isChoice => simp [IsGroup, isChoice]
      next isAll => simp [IsGroup, isAll]
      next isAttribute => simp [IsGroup, isAttribute, attributesAt]
      next isComplex =>
        simp [IsGroup, isComplex, complexContent?_eq ⟨scope.enter tag.declarations, tag, children⟩]
      next isSimple =>
        simp [IsGroup, isSimple, simpleContent_eq ⟨scope.enter tag.declarations, tag, children⟩]
      next isForeign => simp [IsGroup, IsPassedOver, isForeign]
      next isRemark => simp [IsGroup, IsPassedOver, isRemark]
      next isAssert => simp [IsGroup, IsPassedOver, isAssert]
      next isOpen => simp [IsGroup, IsPassedOver, isOpen]
      next other noSequence noChoice noAll noAttribute noComplex noSimple noRemark noAssert
          noOpen isOther =>
        have same := eq_localName_of_constructOf? isOther
        simp_all [IsGroup, IsPassedOver]

theorem contents_eq
    (spot : Spot) :
    contents spot.scope spot.content = spot.children.flatMap fun child => contentsAt child.2 := by
  rw [← spot.flatMap_content fun node => content_eq spot.scope node]
  induction spot.content with
  | nil => rw [contents, List.flatMap_nil]
  | cons node rest inductionHypothesis => rw [contents, List.flatMap_cons, inductionHypothesis]

theorem bodyOf?_eq
    (scope : Xml.Scope)
    (node : Xml.Node) :
    bodyOf? scope node =
      (node.spot? scope).bind fun child =>
        if (constructOf? child.tag).any (· ∈ ["complexType"]) then
          some (contents child.scope child.content)
        else none := by
  cases node with
  | text | comment | instruction => simp [bodyOf?, Xml.Node.spot?]
  | element tag children =>
      rw [Xml.Node.spot?, Option.bind_some, bodyOf?]
      cases constructOf? tag <;> simp

theorem body?_eq
    (spot : Spot) :
    body? spot.scope spot.content =
      (firstComplexType? spot).map fun found => contents found.2.scope found.2.content := by
  rw [show (firstComplexType? spot).map (fun found => contents found.2.scope found.2.content) =
    spot.content.findSome? (bodyOf? spot.scope) from
      (spot.findSome?_content fun node => bodyOf?_eq spot.scope node).symm]
  induction spot.content with
  | nil => rw [body?, List.findSome?_nil]
  | cons node rest inductionHypothesis =>
      rw [body?, List.findSome?_cons, inductionHypothesis]
      cases bodyOf? spot.scope node <;> rfl

/-- The derivation that an element in a simple type makes. -/
def derivationAt (spot : Spot) : SimpleType :=
  let inside := inlineType spot.scope spot.content
  if constructOf? spot.tag = some "restriction" then
    .restriction (.named? (reference? spot.scope spot.tag "base") inside)
  else if constructOf? spot.tag = some "list" then
    .list (.named? (reference? spot.scope spot.tag "itemType") inside)
  else .union

/-- What an element directly inside another one defines as a simple type. -/
theorem inlineType?_eq
    (scope : Xml.Scope)
    (node : Xml.Node) :
    inlineType? scope node = (node.spot? scope).bind fun child =>
      if (constructOf? child.tag).any (· ∈ ["simpleType"]) then
        some (simpleType child.scope child.content)
      else none := by
  cases node with
  | text | comment | instruction => simp [inlineType?, Xml.Node.spot?]
  | element tag children =>
      rw [Xml.Node.spot?, Option.bind_some, inlineType?]
      cases constructOf? tag <;> simp

theorem inlineType_eq
    (spot : Spot) :
    inlineType spot.scope spot.content =
      (first? ["simpleType"] spot).elim .absent fun found =>
        .inline (simpleType found.2.scope found.2.content) := by
  have read : ∀ nodes, inlineType spot.scope nodes =
      (nodes.findSome? (inlineType? spot.scope)).elim .absent .inline := by
    intro nodes
    induction nodes with
    | nil => rw [inlineType, List.findSome?_nil, Option.elim_none]
    | cons node rest inductionHypothesis =>
        rw [inlineType, List.findSome?_cons, inductionHypothesis]
        cases inlineType? spot.scope node <;> rfl
  rw [read, spot.findSome?_content (inlineType?_eq spot.scope), first?]
  cases spot.children.find? fun child =>
    (constructOf? child.2.tag).any (· ∈ ["simpleType"]) <;> rfl

theorem derivation?_eq
    (scope : Xml.Scope)
    (node : Xml.Node) :
    derivation? scope node = (node.spot? scope).bind fun child =>
      if (constructOf? child.tag).any (· ∈ ["restriction", "list", "union"]) then
        some (derivationAt child)
      else none := by
  cases node with
  | text | comment | instruction => simp [derivation?, Xml.Node.spot?]
  | element tag children =>
      rw [Xml.Node.spot?, Option.bind_some, derivation?]
      split
      next isRestriction => simp [derivationAt, isRestriction]
      next isList => simp [derivationAt, isList]
      next isUnion => simp [derivationAt, isUnion]
      next noRestriction noList noUnion =>
        cases construct : constructOf? tag with
        | none => rfl
        | some other => simp_all

theorem simpleType_eq
    (spot : Spot) :
    simpleType spot.scope spot.content =
      (first? ["restriction", "list", "union"] spot).elim .undefined fun found =>
        derivationAt found.2 := by
  have read : ∀ nodes, simpleType spot.scope nodes =
      (nodes.findSome? (derivation? spot.scope)).getD .undefined := by
    intro nodes
    induction nodes with
    | nil => rw [simpleType, List.findSome?_nil, Option.getD_none]
    | cons node rest inductionHypothesis =>
        rw [simpleType, List.findSome?_cons, inductionHypothesis]
        cases derivation? spot.scope node <;> rfl
  rw [read, spot.findSome?_content (derivation?_eq spot.scope), first?]
  cases spot.children.find? fun child =>
    (constructOf? child.2.tag).any (· ∈ ["restriction", "list", "union"]) <;> rfl

/-! ## Binding part by part -/

/-- Whether a group around an element says that it is repeated. -/
def anyRepeated (around : List Xml.Tag) : Bool :=
  around.any fun tag => (repeated tag).toOption = some true

/-- Binds a part of the content of a complex type, apart from the parts that are listed inside it. -/
def bindItem (environment : Environment) (owner : ClassId) (item : Item) : Binding Unit :=
  match item.role with
  | .group => do
      let _ ← isRepeated (anyRepeated item.around) (repeated item.spot.tag)
  | .particle =>
      bindParticle environment owner (anyRepeated item.around) (particleAt item.spot)
  | .attributeUse => bindAttributes environment owner (attributesAt item.spot)
  | .complexBase => bindContent environment owner (.complexContent (baseAt item.spot) [])
  | .simpleBase => bindContent environment owner (.simpleContent (baseAt item.spot) [])
  | .unsupported => Binding.warn (.unsupported item.spot.tag.name.localName)

/-- Binds parts of the content of a complex type one after the other. -/
def bindItems (environment : Environment) (owner : ClassId) (items : List Item) : Binding Unit :=
  forM items (bindItem environment owner)

section Steps

variable {Part Step : Type} {bind other : Step → Binding Unit}

theorem forM_congr
    {steps : List Step}
    (same : ∀ step ∈ steps, bind step = other step) :
    forM steps bind = forM steps other := by
  induction steps with
  | nil => rfl
  | cons step rest inductionHypothesis =>
      obtain ⟨sameStep, sameRest⟩ := List.forall_mem_cons.1 same
      rw [List.forM_cons, List.forM_cons, sameStep, inductionHypothesis sameRest]

theorem forM_flatMap
    (parts : List Part)
    (steps : Part → List Step) :
    forM (parts.flatMap steps) bind = forM parts fun part => forM (steps part) bind := by
  induction parts with
  | nil => rfl
  | cons part rest inductionHypothesis =>
      rw [List.flatMap_cons, List.forM_append, inductionHypothesis, List.forM_cons]

theorem forM_singleton
    (step : Step) :
    forM [step] bind = bind step := by
  rw [List.forM_cons, List.forM_nil]
  exact bind_pure (bind step)

end Steps

section Binding

variable (environment : Environment) (owner : ClassId)

theorem bindParticles_eq_forM
    (around : Bool)
    (particles : List Particle) :
    bindParticles environment owner around particles =
      forM particles (bindParticle environment owner around) := by
  induction particles with
  | nil => rw [bindParticles, List.forM_nil]
  | cons particle rest inductionHypothesis =>
      rw [bindParticles, inductionHypothesis, List.forM_cons]

theorem bindAttributes_eq_forM
    (items : List AttributeItem) :
    bindAttributes environment owner items = forM items (bindAttribute environment owner) := by
  induction items with
  | nil => rfl
  | cons item rest inductionHypothesis =>
      rw [bindAttributes, inductionHypothesis, List.forM_cons]

theorem bindContents_eq_forM
    (contents : List Content) :
    bindContents environment owner contents = forM contents (bindContent environment owner) := by
  induction contents with
  | nil => rw [bindContents, List.forM_nil]
  | cons content rest inductionHypothesis =>
      rw [bindContents, inductionHypothesis, List.forM_cons]

theorem bindItems_cons_below
    (item : Item)
    (above : Place)
    (inner : List Item) :
    bindItems environment owner (item :: inner.map (Item.below above)) = (do
      bindItem environment owner item
      bindItems environment owner inner) := by
  rw [bindItems, List.forM_cons, List.forM_map]
  rfl

theorem bindItems_below
    (above : Place)
    (items : List Item) :
    bindItems environment owner (items.map (Item.below above)) =
      bindItems environment owner items := by
  rw [bindItems, List.forM_map]
  rfl

/-- Once a group is known to be at no fault, the groups around its parts tell whether one of them is
repeated. -/
theorem isRepeated_bind
    (around : List Xml.Tag)
    (tag : Xml.Tag)
    (rest : Bool → Binding Unit) :
    (isRepeated (anyRepeated around) (repeated tag) >>= rest) = (do
      let _ ← isRepeated (anyRepeated around) (repeated tag)
      rest (anyRepeated (around ++ [tag]))) := by
  have split : anyRepeated (around ++ [tag]) =
      (anyRepeated around || decide ((repeated tag).toOption = some true)) := by
    simp [anyRepeated]
  rw [split]
  cases anyRepeated around with
  | true => simp [isRepeated]
  | false =>
      cases own : repeated tag with
      | error error => rfl
      | ok many => cases many <;> simp [isRepeated, Binding.need, Except.toOption]

/-- The parts of a model group are bound one after the other. -/
theorem bindParticles_eq
    (around : List Xml.Tag)
    (group : Spot) :
    bindParticles environment owner (anyRepeated around) (particles group.scope group.content) =
      bindItems environment owner (groupItems around group) := by
  rw [particles_eq, bindParticles_eq_forM, forM_flatMap, groupItems_eq, bindItems, forM_flatMap]
  apply forM_congr
  intro child isChild
  rw [particlesAt, groupChildItems]
  split_ifs
  · rw [forM_singleton, forM_singleton]
    rfl
  · -- What is inside the group is bound with the group among those around it.
    have inside := bindParticles_eq (around ++ [child.2.tag]) child.2
    rw [forM_singleton, ← bindItems, bindItems_cons_below, bindParticle, isRepeated_bind, inside,
      bindItem, bind_assoc]
    rfl
  · rfl
  · rw [forM_singleton, forM_singleton, bindParticle]
    rfl
termination_by sizeOf group.content
decreasing_by exact Spot.sizeOf_content_lt isChild

/-- The attributes that an extension adds are bound after the derivation. -/
theorem bindContent_simpleContent
    (base : Deferred ExpandedName)
    (added : List AttributeItem) :
    bindContent environment owner (.simpleContent base added) = (do
      bindContent environment owner (.simpleContent base [])
      bindAttributes environment owner added) := by
  rw [bindContent, bindContent, bind_assoc]
  refine bind_congr fun name => ?_
  rw [bind_assoc]
  refine bind_congr fun kind => ?_
  cases kind <;> simp [bindAttributes]

/-- The content that an extension adds is bound after the derivation. -/
theorem bindContent_complexContent
    (base : Deferred ExpandedName)
    (added : List Content) :
    bindContent environment owner (.complexContent base added) = (do
      bindContent environment owner (.complexContent base [])
      bindContents environment owner added) := by
  rw [bindContent, bindContent, bind_assoc]
  refine bind_congr fun name => ?_
  rw [bind_assoc]
  refine bind_congr fun kind => ?_
  cases kind <;> simp [bindContents]

theorem bindAttributes_flatMap
    (children : List (Nat × Spot)) :
    bindAttributes environment owner (children.flatMap fun child => addedAt child.2) =
      bindItems environment owner (children.flatMap addedChildItems) := by
  rw [bindAttributes_eq_forM, forM_flatMap, bindItems, forM_flatMap]
  apply forM_congr
  intro child _
  rw [addedAt, addedChildItems]
  split_ifs
  · rw [forM_singleton, ← bindAttributes_eq_forM]
    rfl
  · rfl
  · rw [forM_singleton, forM_singleton]
    rfl

/-- The parts of a derivation by simple content are bound one after the other. -/
theorem bindContent_simpleContentAt
    (derivation : Nat × Spot) :
    bindContent environment owner (simpleContentAt derivation.2) =
      bindItems environment owner (⟨[derivation.1], .simpleBase, [], derivation.2⟩ ::
        if constructOf? derivation.2.tag = some "extension" then
          (addedItems derivation.2).map (Item.below [derivation.1])
        else []) := by
  rw [simpleContentAt, bindContent_simpleContent]
  split_ifs
  · rw [bindItems_cons_below, added_eq, bindAttributes_flatMap]
    rfl
  · rw [bindItems, forM_singleton]
    exact bind_pure _

/-- The parts of a derivation by complex content are bound one after the other if those of an
extension are. -/
theorem bindContent_complexContentAt
    (derivation : Nat × Spot)
    (inside : bindContents environment owner (contents derivation.2.scope derivation.2.content) =
      bindItems environment owner (contentItems derivation.2)) :
    bindContent environment owner (complexContentAt derivation.2) =
      bindItems environment owner (⟨[derivation.1], .complexBase, [], derivation.2⟩ ::
        if constructOf? derivation.2.tag = some "extension" then
          (contentItems derivation.2).map (Item.below [derivation.1])
        else []) := by
  rw [complexContentAt, bindContent_complexContent]
  split_ifs
  · rw [bindItems_cons_below, inside]
    rfl
  · rw [bindItems, forM_singleton, bindContents]
    exact bind_pure _

theorem forM_toList_map
    {Step : Type}
    (found : Option (Nat × Spot))
    (read : Spot → Step)
    (bind : Step → Binding Unit) :
    forM (found.map fun derivation => read derivation.2).toList bind =
      forM found.toList fun derivation => bind (read derivation.2) := by
  cases found <;> rfl

/-- The parts of a complex type are bound one after the other. -/
theorem bindContents_eq
    (host : Spot) :
    bindContents environment owner (contents host.scope host.content) =
      bindItems environment owner (contentItems host) := by
  rw [contents_eq, bindContents_eq_forM, forM_flatMap, contentItems_eq, bindItems, forM_flatMap]
  apply forM_congr
  intro child isChild
  rw [contentsAt, contentChildItems]
  split_ifs
  · have inside := bindParticles_eq environment owner [child.2.tag] child.2
    have whole := isRepeated_bind [] child.2.tag fun around =>
      bindParticles environment owner around (particles child.2.scope child.2.content)
    rw [List.nil_append, inside] at whole
    rw [forM_singleton, ← bindItems, bindItems_cons_below, bindContent, bindItem, bind_assoc]
    exact whole
  · rw [List.forM_map, forM_singleton]
    show forM _ _ = bindAttributes _ _ _
    rw [bindAttributes_eq_forM]
    refine forM_congr fun item _ => ?_
    rw [bindContent]
  · rw [forM_toList_map, ← bindItems, bindItems_below, complexItems_eq, derivationItems, bindItems,
      forM_flatMap]
    refine forM_congr fun derivation found => ?_
    exact bindContent_complexContentAt environment owner derivation (bindContents_eq derivation.2)
  · rw [forM_toList_map, ← bindItems, bindItems_below, derivationItems, bindItems, forM_flatMap]
    refine forM_congr fun derivation _ => ?_
    exact bindContent_simpleContentAt environment owner derivation
  · rfl
  · rw [forM_singleton, forM_singleton, bindContent]
    rfl
termination_by sizeOf host.content
decreasing_by
  exact Nat.lt_trans (Spot.sizeOf_content_lt (mem_children_of_first? (Option.mem_toList.1 found)))
    (Spot.sizeOf_content_lt isChild)

end Binding

end Schema
end SchemaBinding
