import SchemaBinding.Proofs.SchemasSideBySide

/-!
# Bounds that nobody reads

Inside a model group that may occur more than once the bounds of elements and groups do not matter,
and they are not looked at.  Taking them out of a document, whatever they say, leaves what the document
is bound to as it is.
-/

namespace SchemaBinding
namespace Schema

open Xml (Spot)

/-! ## Taking bounds out -/

/-- What a tag says, apart from a bound on occurrences. -/
def withoutBound (tag : Xml.Tag) : Xml.Tag :=
  { tag with attributes := tag.attributes.filter fun found => found.name ≠ ⟨none, "maxOccurs"⟩ }

/-- A tag, without its bound if it is that of an element or group inside a repeated group. -/
def pruneTag (inRepeated : Bool) (tag : Xml.Tag) : Xml.Tag :=
  if inRepeated ∧ (IsGroup tag ∨ constructOf? tag = some "element") then withoutBound tag else tag

/-- Whether what is inside an element is inside a repeated group. -/
def isRepeatedInside (inRepeated : Bool) (tag : Xml.Tag) : Bool :=
  IsGroup tag ∧ (inRepeated ∨ (repeated tag).toOption = some true)

mutual

/-- A part of a document without the bounds of what is inside repeated groups. -/
def pruneNode (inRepeated : Bool) : Xml.Node → Xml.Node
  | .element tag children =>
      .element (pruneTag inRepeated tag) (pruneNodes (isRepeatedInside inRepeated tag) children)
  | .text characters => .text characters
  | .comment characters => .comment characters
  | .instruction target content => .instruction target content

/-- Parts of a document without the bounds of what is inside repeated groups. -/
def pruneNodes (inRepeated : Bool) : List Xml.Node → List Xml.Node
  | [] => []
  | node :: rest => pruneNode inRepeated node :: pruneNodes inRepeated rest

end

/-- A document without the bounds of what is inside repeated groups. -/
def pruneDocument (document : Xml.Document) : Xml.Document :=
  { document with children := pruneNodes false document.children }

/-- An element without the bounds of what is inside repeated groups. -/
def pruneSpot (inRepeated : Bool) (spot : Spot) : Spot :=
  ⟨spot.scope, pruneTag inRepeated spot.tag,
    pruneNodes (isRepeatedInside inRepeated spot.tag) spot.content⟩

section Tags

variable {inRepeated : Bool} {tag : Xml.Tag} {attributeName : String}

theorem name_pruneTag : (pruneTag inRepeated tag).name = tag.name := by
  unfold pruneTag
  split <;> rfl

theorem declarations_pruneTag : (pruneTag inRepeated tag).declarations = tag.declarations := by
  unfold pruneTag
  split <;> rfl

/-- Only bounds are taken out. -/
theorem attribute?_pruneTag
    (kept : attributeName ≠ "maxOccurs") :
    (pruneTag inRepeated tag).attribute? attributeName = tag.attribute? attributeName := by
  unfold pruneTag
  split
  · unfold withoutBound Xml.Tag.attribute?
    rw [List.find?_filter]
    congr 2
    funext found
    by_cases same : found.name = ⟨none, attributeName⟩ <;> simp [same, kept]
  · rfl

/-- A bound, which says nothing inside a repeated group. -/
def pruneBound (inRepeated : Bool) (own : Deferred Bool) : Deferred Bool :=
  if inRepeated then .ok false else own

theorem repeated_pruneTag
    (isPart : IsGroup tag ∨ constructOf? tag = some "element") :
    repeated (pruneTag inRepeated tag) = pruneBound inRepeated (repeated tag) := by
  unfold pruneTag pruneBound
  cases inRepeated with
  | false => rfl
  | true =>
      have noBound : (withoutBound tag).attribute? "maxOccurs" = none := by
        unfold withoutBound Xml.Tag.attribute?
        rw [List.find?_filter, Option.map_eq_none_iff, List.find?_eq_none]
        simp
      rw [if_pos ⟨rfl, isPart⟩, if_pos rfl, repeated, noBound]

end Tags

/-! ## Elements -/

section Elements

variable {inRepeated : Bool} {spot : Spot} {attributeName : String}

theorem constructOf?_pruneSpot :
    constructOf? (pruneSpot inRepeated spot).tag = constructOf? spot.tag := by
  unfold constructOf? pruneSpot
  rw [name_pruneTag]

theorem isGroup_pruneSpot : IsGroup (pruneSpot inRepeated spot).tag ↔ IsGroup spot.tag := by
  unfold IsGroup
  rw [constructOf?_pruneSpot]

theorem isPassedOver_pruneSpot
    {constructs : List String} :
    IsPassedOver constructs (pruneSpot inRepeated spot).tag ↔ IsPassedOver constructs spot.tag := by
  unfold IsPassedOver
  rw [constructOf?_pruneSpot]

theorem name_pruneSpot : (pruneSpot inRepeated spot).tag.name = spot.tag.name :=
  name_pruneTag

theorem attribute?_pruneSpot
    (kept : attributeName ≠ "maxOccurs") :
    (pruneSpot inRepeated spot).tag.attribute? attributeName =
      spot.tag.attribute? attributeName :=
  attribute?_pruneTag kept

theorem required_pruneSpot
    (kept : attributeName ≠ "maxOccurs") :
    required (pruneSpot inRepeated spot).tag attributeName = required spot.tag attributeName := by
  unfold required
  rw [attribute?_pruneSpot kept, name_pruneSpot]

theorem reference?_pruneSpot
    (kept : attributeName ≠ "maxOccurs") :
    reference? (pruneSpot inRepeated spot).scope (pruneSpot inRepeated spot).tag attributeName =
      reference? spot.scope spot.tag attributeName := by
  unfold reference?
  rw [attribute?_pruneSpot kept]
  rfl

theorem repeated_pruneSpot
    (isPart : IsGroup spot.tag ∨ constructOf? spot.tag = some "element") :
    repeated (pruneSpot inRepeated spot).tag = pruneBound inRepeated (repeated spot.tag) :=
  repeated_pruneTag isPart

theorem pruneNodes_eq_map
    (nodes : List Xml.Node) :
    pruneNodes inRepeated nodes = nodes.map (pruneNode inRepeated) := by
  induction nodes with
  | nil => rw [pruneNodes, List.map_nil]
  | cons node rest inductionHypothesis => rw [pruneNodes, List.map_cons, inductionHypothesis]

theorem spot?_pruneNode
    (outer : Xml.Scope)
    (node : Xml.Node) :
    (pruneNode inRepeated node).spot? outer = (node.spot? outer).map (pruneSpot inRepeated) := by
  cases node with
  | element tag children =>
      rw [pruneNode, Xml.Node.spot?, Xml.Node.spot?, declarations_pruneTag]
      rfl
  | text | comment | instruction => rw [pruneNode, Xml.Node.spot?, Option.map_none]

/-- The elements inside an element stay where they are. -/
theorem children_pruneSpot
    (spot : Spot) :
    (pruneSpot inRepeated spot).children =
      spot.children.map (Prod.map id (pruneSpot (isRepeatedInside inRepeated spot.tag))) := by
  unfold Spot.children
  rw [pruneSpot, pruneNodes_eq_map, List.zipIdx_map, List.filterMap_map, List.map_filterMap]
  congr 1
  funext ⟨node, index⟩
  show ((pruneNode _ node).spot? spot.scope).map _ = ((node.spot? spot.scope).map _).map _
  rw [spot?_pruneNode, Option.map_map, Option.map_map]
  rfl

theorem first?_pruneSpot
    (wanted : List String)
    (spot : Spot) :
    first? wanted (pruneSpot inRepeated spot) =
      (first? wanted spot).map (Prod.map id (pruneSpot (isRepeatedInside inRepeated spot.tag))) := by
  unfold first?
  rw [children_pruneSpot, List.find?_map]
  congr 2
  funext child
  simp [constructOf?_pruneSpot]

/-- What is read from the elements inside an element. -/
theorem flatMap_children_pruneSpot
    {Part : Type}
    {parts : Spot → List Part}
    (change : Part → Part)
    {spot : Spot}
    (each : ∀ child ∈ spot.children, parts (pruneSpot (isRepeatedInside inRepeated spot.tag) child.2) =
      (parts child.2).map change) :
    ((pruneSpot inRepeated spot).children.flatMap fun child => parts child.2) =
      (spot.children.flatMap fun child => parts child.2).map change := by
  rw [children_pruneSpot, List.flatMap_map, List.map_flatMap]
  exact List.flatMap_congr fun child member => each child member

end Elements

/-! ## Reading -/

mutual

/-- A part of a model group, without the bounds of what is inside repeated groups. -/
def pruneParticle (inRepeated : Bool) : Particle → Particle
  | .reference own name => .reference (pruneBound inRepeated own) name
  | .element own name type none => .element (pruneBound inRepeated own) name type none
  | .element own name type (some body) =>
      .element (pruneBound inRepeated own) name type (some (pruneContents body))
  | .group own particles =>
      .group (pruneBound inRepeated own)
        (pruneParticles (inRepeated || decide (own.toOption = some true)) particles)
  | .unsupported construct => .unsupported construct

/-- The parts of a model group, without the bounds of what is inside repeated groups. -/
def pruneParticles (inRepeated : Bool) : List Particle → List Particle
  | [] => []
  | particle :: rest => pruneParticle inRepeated particle :: pruneParticles inRepeated rest

/-- A part of a complex type, without the bounds of what is inside repeated groups. -/
def pruneContent : Content → Content
  | .group own particles =>
      .group own (pruneParticles (decide (own.toOption = some true)) particles)
  | .attributeItem item => .attributeItem item
  | .complexContent base added => .complexContent base (pruneContents added)
  | .simpleContent base added => .simpleContent base added
  | .unsupported construct => .unsupported construct

/-- The parts of a complex type, without the bounds of what is inside repeated groups. -/
def pruneContents : List Content → List Content
  | [] => []
  | content :: rest => pruneContent content :: pruneContents rest

end

/-- A declaration, without the bounds of what is inside repeated groups. -/
def pruneDeclaration : Declaration → Declaration
  | .complexType name body => .complexType name (pruneContents body)
  | .element name type body => .element name type (body.map pruneContents)
  | .simpleType name definition => .simpleType name definition
  | .attributeType name type => .attributeType name type
  | .external construct location => .external construct location
  | .unsupported construct => .unsupported construct

theorem pruneParticle_element
    (inRepeated : Bool)
    (own : Deferred Bool)
    (name : Deferred String)
    (type : TypeUse)
    (body : Option (List Content)) :
    pruneParticle inRepeated (.element own name type body) =
      .element (pruneBound inRepeated own) name type (body.map pruneContents) := by
  cases body <;> rw [pruneParticle] <;> rfl

theorem pruneParticles_eq_map
    {inRepeated : Bool}
    (particles : List Particle) :
    pruneParticles inRepeated particles = particles.map (pruneParticle inRepeated) := by
  induction particles with
  | nil => rw [pruneParticles, List.map_nil]
  | cons particle rest inductionHypothesis =>
      rw [pruneParticles, List.map_cons, inductionHypothesis]

theorem pruneContents_eq_map
    (contents : List Content) :
    pruneContents contents = contents.map pruneContent := by
  induction contents with
  | nil => rw [pruneContents, List.map_nil]
  | cons content rest inductionHypothesis =>
      rw [pruneContents, List.map_cons, inductionHypothesis]

/-! ### Simple types -/

section SimpleTypes

variable {inRepeated : Bool} {spot : Spot}

/-- Whether the simple type directly inside an element stays the same. -/
def KeepsInside (inRepeated : Bool) (spot : Spot) : Prop :=
  inlineType (pruneSpot inRepeated spot).scope (pruneSpot inRepeated spot).content =
    inlineType spot.scope spot.content

theorem derivationAt_pruneSpot
    (keeps : KeepsInside inRepeated spot) :
    derivationAt (pruneSpot inRepeated spot) = derivationAt spot := by
  unfold derivationAt
  dsimp only
  rw [keeps, constructOf?_pruneSpot, reference?_pruneSpot (by decide),
    reference?_pruneSpot (by decide)]

theorem simpleType_pruneSpot_of_keeps
    (keeps : ∀ child ∈ spot.children,
      KeepsInside (isRepeatedInside inRepeated spot.tag) child.2) :
    simpleType (pruneSpot inRepeated spot).scope (pruneSpot inRepeated spot).content =
      simpleType spot.scope spot.content := by
  rw [simpleType_eq, simpleType_eq, first?_pruneSpot]
  cases isFirst : first? ["restriction", "list", "union"] spot with
  | none => rfl
  | some child => exact derivationAt_pruneSpot (keeps child (mem_children_of_first? isFirst))

theorem keepsInside
    (inRepeated : Bool)
    (spot : Spot) :
    KeepsInside inRepeated spot := by
  unfold KeepsInside
  rw [inlineType_eq, inlineType_eq, first?_pruneSpot]
  cases isFirst : first? ["simpleType"] spot with
  | none => rfl
  | some child =>
      exact congrArg Use.inline <| simpleType_pruneSpot_of_keeps fun further isFurther =>
        keepsInside _ further.2
termination_by sizeOf spot.content
decreasing_by
  exact Nat.lt_trans (Spot.sizeOf_content_lt isFurther)
    (Spot.sizeOf_content_lt (mem_children_of_first? isFirst))

/-- Simple types have no bounds. -/
theorem simpleType_pruneSpot :
    simpleType (pruneSpot inRepeated spot).scope (pruneSpot inRepeated spot).content =
      simpleType spot.scope spot.content :=
  simpleType_pruneSpot_of_keeps fun child _ => keepsInside _ child.2

theorem typeUse_pruneSpot :
    typeUse (pruneSpot inRepeated spot).scope (pruneSpot inRepeated spot).tag
        (pruneSpot inRepeated spot).content =
      typeUse spot.scope spot.tag spot.content := by
  unfold typeUse
  rw [keepsInside, reference?_pruneSpot (by decide)]

end SimpleTypes

/-! ### Complex types -/

section ComplexTypes

variable {inRepeated : Bool} {spot : Spot}

theorem baseAt_pruneSpot : baseAt (pruneSpot inRepeated spot) = baseAt spot := by
  unfold baseAt requiredReference
  rw [required_pruneSpot (by decide)]
  rfl

/-- Attributes have no bounds. -/
theorem attributesAt_pruneSpot :
    attributesAt (pruneSpot inRepeated spot) = attributesAt spot := by
  unfold attributesAt attributeItems
  rw [typeUse_pruneSpot, attribute?_pruneSpot (by decide), reference?_pruneSpot (by decide),
    required_pruneSpot (by decide)]

theorem addedAt_pruneSpot : addedAt (pruneSpot inRepeated spot) = addedAt spot := by
  unfold addedAt
  rw [attributesAt_pruneSpot, constructOf?_pruneSpot, if_congr isPassedOver_pruneSpot rfl rfl,
    name_pruneSpot]

theorem added_pruneSpot :
    (pruneSpot inRepeated spot).content.flatMap (addedAttribute (pruneSpot inRepeated spot).scope) =
      spot.content.flatMap (addedAttribute spot.scope) := by
  rw [added_eq, added_eq, flatMap_children_pruneSpot id, List.map_id]
  exact fun child _ => by rw [addedAt_pruneSpot, List.map_id]

theorem simpleContentAt_pruneSpot :
    simpleContentAt (pruneSpot inRepeated spot) = simpleContentAt spot := by
  unfold simpleContentAt
  rw [baseAt_pruneSpot, added_pruneSpot, constructOf?_pruneSpot]

theorem firstDerivation?_pruneSpot :
    firstDerivation? (pruneSpot inRepeated spot) =
      (firstDerivation? spot).map
        (Prod.map id (pruneSpot (isRepeatedInside inRepeated spot.tag))) :=
  first?_pruneSpot _ _

/-- Whether the content of an element, read as that of a complex type, loses unread bounds. -/
def PrunesContents (inRepeated : Bool) (spot : Spot) : Prop :=
  contents (pruneSpot inRepeated spot).scope (pruneSpot inRepeated spot).content =
    pruneContents (contents spot.scope spot.content)

theorem complexContentAt_pruneSpot
    (prunes : PrunesContents inRepeated spot) :
    complexContentAt (pruneSpot inRepeated spot) = pruneContent (complexContentAt spot) := by
  unfold complexContentAt
  rw [baseAt_pruneSpot, prunes, pruneContent, constructOf?_pruneSpot]
  split
  · rfl
  · rw [pruneContents]

/-- The first complex type inside an element loses unread bounds if complex types do. -/
theorem body?_pruneSpot_of_prunes
    (prunes : ∀ child, firstComplexType? spot = some child →
      PrunesContents (isRepeatedInside inRepeated spot.tag) child.2) :
    body? (pruneSpot inRepeated spot).scope (pruneSpot inRepeated spot).content =
      (body? spot.scope spot.content).map pruneContents := by
  rw [body?_eq, body?_eq, firstComplexType?, first?_pruneSpot]
  cases isFirst : first? ["complexType"] spot with
  | none =>
      rw [firstComplexType?, isFirst]
      rfl
  | some child =>
      rw [firstComplexType?, isFirst]
      exact congrArg some (prunes child isFirst)

theorem particleAt_pruneSpot
    (isElement : constructOf? spot.tag = some "element")
    (body : body? (pruneSpot inRepeated spot).scope (pruneSpot inRepeated spot).content =
      (body? spot.scope spot.content).map pruneContents) :
    particleAt (pruneSpot inRepeated spot) = pruneParticle inRepeated (particleAt spot) := by
  unfold particleAt
  rw [typeUse_pruneSpot, body, reference?_pruneSpot (by decide), repeated_pruneSpot (.inr isElement),
    required_pruneSpot (by decide)]
  cases reference? spot.scope spot.tag "ref" with
  | some name => rw [pruneParticle]
  | none => rw [pruneParticle_element]

theorem isRepeatedInside_of_group
    {tag : Xml.Tag}
    (isGroup : IsGroup tag) :
    isRepeatedInside inRepeated tag =
      (inRepeated || decide ((repeated tag).toOption = some true)) := by
  simp [isRepeatedInside, isGroup]

/-- What an element inside a model group declares loses unread bounds if what is inside it does. -/
theorem particlesAt_pruneSpot
    (body : body? (pruneSpot inRepeated spot).scope (pruneSpot inRepeated spot).content =
      (body? spot.scope spot.content).map pruneContents)
    (inside : particles (pruneSpot inRepeated spot).scope (pruneSpot inRepeated spot).content =
      pruneParticles (isRepeatedInside inRepeated spot.tag)
        (particles spot.scope spot.content)) :
    particlesAt (pruneSpot inRepeated spot) =
      (particlesAt spot).map (pruneParticle inRepeated) := by
  unfold particlesAt
  rw [inside, constructOf?_pruneSpot, if_congr isGroup_pruneSpot rfl rfl,
    if_congr isPassedOver_pruneSpot rfl rfl, name_pruneSpot]
  split_ifs with isElement isGroup
  · rw [particleAt_pruneSpot isElement body, List.map_singleton]
  · rw [isRepeatedInside_of_group isGroup, repeated_pruneSpot (.inl isGroup), List.map_singleton,
      pruneParticle]
  · rfl
  · rw [List.map_singleton, pruneParticle]

/-- What an element directly inside a complex type declares loses unread bounds if what is inside it
does. -/
theorem contentsAt_pruneSpot
    (inside : particles (pruneSpot false spot).scope (pruneSpot false spot).content =
      pruneParticles (isRepeatedInside false spot.tag) (particles spot.scope spot.content))
    (derivation : ∀ child, firstDerivation? spot = some child →
      PrunesContents (isRepeatedInside false spot.tag) child.2) :
    contentsAt (pruneSpot false spot) = (contentsAt spot).map pruneContent := by
  unfold contentsAt
  rw [inside, constructOf?_pruneSpot, if_congr isGroup_pruneSpot rfl rfl,
    if_congr isPassedOver_pruneSpot rfl rfl, name_pruneSpot, attributesAt_pruneSpot,
    firstDerivation?_pruneSpot]
  split_ifs with isGroup isAttribute isComplex isSimple
  · rw [isRepeatedInside_of_group isGroup, repeated_pruneSpot (.inl isGroup), List.map_singleton,
      pruneContent]
    rfl
  · rw [List.map_map]
    exact List.map_congr_left fun item _ => by rw [Function.comp_apply, pruneContent]
  · cases isFirst : firstDerivation? spot with
    | none => rfl
    | some child =>
        exact congrArg (fun content => [content])
          (complexContentAt_pruneSpot (derivation child isFirst))
  · cases firstDerivation? spot with
    | none => rfl
    | some child =>
        have kept : pruneContent (simpleContentAt child.2) = simpleContentAt child.2 := by
          rw [simpleContentAt, pruneContent]
        exact congrArg (fun content => [content]) (simpleContentAt_pruneSpot.trans kept.symm)
  · rfl
  · rw [List.map_singleton, pruneContent]

/-- The first element that stands for one of some constructs is no group if none of them is one. -/
theorem notGroup_of_first?
    {wanted : List String}
    (noGroup : ∀ name ∈ wanted, name ∉ ["sequence", "choice", "all"])
    {child : Nat × Spot}
    (isFirst : first? wanted spot = some child) :
    ¬IsGroup child.2.tag := by
  intro isGroup
  have isWanted := List.find?_some isFirst
  rw [Option.any_eq_true] at isWanted
  obtain ⟨name, isName, isWanted⟩ := isWanted
  rw [IsGroup, isName] at isGroup
  exact noGroup name (of_decide_eq_true isWanted) (by simpa using isGroup)

mutual

/-- The parts of a model group lose unread bounds. -/
theorem particles_pruneSpot
    (inRepeated : Bool)
    (spot : Spot) :
    particles (pruneSpot inRepeated spot).scope (pruneSpot inRepeated spot).content =
      pruneParticles (isRepeatedInside inRepeated spot.tag)
        (particles spot.scope spot.content) := by
  rw [particles_eq, particles_eq, pruneParticles_eq_map]
  apply flatMap_children_pruneSpot _
  intro child isChild
  refine particlesAt_pruneSpot (body?_pruneSpot_of_prunes fun type isType => ?_)
    (particles_pruneSpot _ child.2)
  exact contents_pruneSpot _ type.2 (notGroup_of_first? (by decide) isType)
termination_by sizeOf spot.content
decreasing_by
  · exact Nat.lt_trans (Spot.sizeOf_content_lt (mem_children_of_first? isType))
      (Spot.sizeOf_content_lt isChild)
  · exact Spot.sizeOf_content_lt isChild

/-- The content of a complex type loses unread bounds. -/
theorem contents_pruneSpot
    (inRepeated : Bool)
    (spot : Spot)
    (notGroup : ¬IsGroup spot.tag) :
    PrunesContents inRepeated spot := by
  have outside : isRepeatedInside inRepeated spot.tag = false := by
    simp [isRepeatedInside, notGroup]
  unfold PrunesContents
  rw [contents_eq, contents_eq, pruneContents_eq_map]
  apply flatMap_children_pruneSpot _
  intro child isChild
  rw [outside]
  refine contentsAt_pruneSpot (particles_pruneSpot _ child.2) fun derivation isFirst => ?_
  exact contents_pruneSpot _ derivation.2 (notGroup_of_first? (by decide) isFirst)
termination_by sizeOf spot.content
decreasing_by
  · exact Spot.sizeOf_content_lt isChild
  · exact Nat.lt_trans (Spot.sizeOf_content_lt (mem_children_of_first? isFirst))
      (Spot.sizeOf_content_lt isChild)

end

/-- The first complex type inside an element loses unread bounds. -/
theorem body?_pruneSpot :
    body? (pruneSpot inRepeated spot).scope (pruneSpot inRepeated spot).content =
      (body? spot.scope spot.content).map pruneContents :=
  body?_pruneSpot_of_prunes fun type isType =>
    contents_pruneSpot _ type.2 (notGroup_of_first? (by decide) isType)

end ComplexTypes

/-! ### Schemas -/

theorem declarationAt?_pruneSpot
    {inRepeated : Bool}
    (spot : Spot) :
    declarationAt? (pruneSpot inRepeated spot) = (declarationAt? spot).map pruneDeclaration := by
  unfold declarationAt?
  rw [constructOf?_pruneSpot, required_pruneSpot (by decide), simpleType_pruneSpot,
    typeUse_pruneSpot, body?_pruneSpot, attribute?_pruneSpot (by decide)]
  split
  next isComplex =>
    have notGroup : ¬IsGroup spot.tag := by
      rw [IsGroup, isComplex]
      decide
    rw [contents_pruneSpot inRepeated spot notGroup]
    rfl
  next => rfl
  next => rfl
  next => rfl
  next => rfl
  next => rfl
  next => rfl
  next => rfl
  next => split <;> rfl

/-- A document without unread bounds holds the schema without them. -/
theorem declarations_pruneDocument
    (document : Xml.Document) :
    (pruneDocument document).children.filterMap (declaration? (pruneDocument document).scope) =
      (document.children.filterMap (declaration? document.scope)).map pruneDeclaration := by
  have isPruned (node : Xml.Node) : declaration? document.scope (pruneNode false node) =
      (declaration? document.scope node).map pruneDeclaration := by
    rw [declaration?_eq, declaration?_eq, spot?_pruneNode]
    cases node.spot? document.scope with
    | none => rfl
    | some spot => exact declarationAt?_pruneSpot spot
  show (pruneNodes false document.children).filterMap (declaration? document.scope) = _
  rw [pruneNodes_eq_map, List.filterMap_map, List.map_filterMap]
  exact List.filterMap_congr fun node _ => isPruned node

/-! ## Binding -/

section Binding

variable (environment : Environment)

theorem isRepeated_pruneBound
    (around : Bool)
    (own : Deferred Bool) :
    isRepeated around (pruneBound around own) = isRepeated around own := by
  unfold isRepeated pruneBound
  cases around <;> rfl

mutual

theorem bindParticle_pruneParticle
    (owner : ClassId)
    (around : Bool)
    (particle : Particle) :
    bindParticle environment owner around (pruneParticle around particle) =
      bindParticle environment owner around particle := by
  match particle with
  | .reference own name =>
      rw [pruneParticle, bindParticle, bindParticle, isRepeated_pruneBound]
  | .element own name (.named reference) none =>
      rw [pruneParticle, bindParticle, bindParticle, isRepeated_pruneBound]
  | .element own name (.named reference) (some body) =>
      rw [pruneParticle, bindParticle, bindParticle, isRepeated_pruneBound]
  | .element own name (.inline definition) (some body) =>
      rw [pruneParticle, bindParticle, bindParticle, isRepeated_pruneBound]
      · simp only [bindContents_pruneContents]
      · nofun
      · nofun
  | .element own name .absent (some body) =>
      rw [pruneParticle, bindParticle, bindParticle, isRepeated_pruneBound]
      · simp only [bindContents_pruneContents]
      · nofun
      · nofun
  | .element own name (.inline definition) none =>
      rw [pruneParticle, bindParticle, bindParticle, isRepeated_pruneBound]
  | .element own name .absent none =>
      rw [pruneParticle, bindParticle, bindParticle, isRepeated_pruneBound]
  | .group own particles =>
      rw [pruneParticle, bindParticle, bindParticle, isRepeated_pruneBound]
      -- What is inside is repeated if the group is, and then the bounds inside are taken out.
      cases around with
      | true => exact bindParticles_pruneParticles owner true particles
      | false =>
          cases own with
          | error error => rfl
          | ok repeated =>
              have same := bindParticles_pruneParticles owner repeated particles
              cases repeated <;> exact same
  | .unsupported construct => rw [pruneParticle]

theorem bindParticles_pruneParticles
    (owner : ClassId)
    (around : Bool)
    (particles : List Particle) :
    bindParticles environment owner around (pruneParticles around particles) =
      bindParticles environment owner around particles := by
  match particles with
  | [] => rw [pruneParticles]
  | particle :: rest =>
      rw [pruneParticles, bindParticles, bindParticles, bindParticle_pruneParticle,
        bindParticles_pruneParticles]

theorem bindContent_pruneContent
    (owner : ClassId)
    (content : Content) :
    bindContent environment owner (pruneContent content) =
      bindContent environment owner content := by
  match content with
  | .group own particles =>
      rw [pruneContent, bindContent, bindContent]
      cases own with
      | error error => rfl
      | ok repeated =>
          have same := bindParticles_pruneParticles owner repeated particles
          cases repeated <;> exact same
  | .attributeItem item => rw [pruneContent]
  | .complexContent base added =>
      rw [pruneContent, bindContent, bindContent]
      simp only [bindContents_pruneContents]
  | .simpleContent base added => rw [pruneContent]
  | .unsupported construct => rw [pruneContent]

theorem bindContents_pruneContents
    (owner : ClassId)
    (contents : List Content) :
    bindContents environment owner (pruneContents contents) =
      bindContents environment owner contents := by
  match contents with
  | [] => rw [pruneContents]
  | content :: rest =>
      rw [pruneContents, bindContents, bindContents, bindContent_pruneContent,
        bindContents_pruneContents]

end

theorem bindBodies_pruneContents
    (bodies : List (ClassId × List Content)) :
    bindBodies environment (bodies.map (Prod.map id pruneContents)) =
      bindBodies environment bodies := by
  induction bodies with
  | nil => rfl
  | cons body rest inductionHypothesis =>
      rw [List.map_cons, bindBodies, bindBodies, inductionHypothesis]
      exact congrArg (· >>= fun _ => bindBodies environment rest)
        (bindContents_pruneContents environment body.1 body.2)

end Binding

/-- What is noted of declarations without unread bounds. -/
def pruneRegistry (registry : Registry) : Registry :=
  { registry with bodies := registry.bodies.map (Prod.map id pruneContents) }

theorem register_pruneDeclaration
    (setting : Setting)
    (registry : Registry)
    (declaration : Declaration) :
    Registry.register setting (pruneRegistry registry) (pruneDeclaration declaration) =
      pruneRegistry <$> Registry.register setting registry declaration := by
  cases declaration with
  | element name type body =>
      cases body <;> simp [pruneDeclaration, Registry.register, pruneRegistry]
  | _ => simp [pruneDeclaration, Registry.register, pruneRegistry]

theorem registerAll_pruneDeclaration
    (setting : Setting)
    (registry : Registry)
    (declarations : List Declaration) :
    (declarations.map pruneDeclaration).foldlM (Registry.register setting)
        (pruneRegistry registry) =
      pruneRegistry <$> declarations.foldlM (Registry.register setting) registry := by
  induction declarations generalizing registry with
  | nil => simp
  | cons declaration rest inductionHypothesis =>
      rw [List.map_cons, List.foldlM_cons, List.foldlM_cons, register_pruneDeclaration,
        bind_map_left, map_bind]
      exact bind_congr fun next => inductionHypothesis next

theorem bindDeclarations_pruneDeclaration
    (options : BindingOptions)
    (target : Option String)
    (declarations : List Declaration) :
    bindDeclarations options ⟨target, declarations.map pruneDeclaration⟩ =
      bindDeclarations options ⟨target, declarations⟩ := by
  have registered := registerAll_pruneDeclaration
    ⟨target, packageName options target, ⟨0⟩, options.overwrite⟩ {} declarations
  unfold bindDeclarations
  dsimp only
  rw [show pruneRegistry {} = {} from rfl] at registered
  rw [registered, bind_map_left]
  exact bind_congr fun registry =>
    bindBodies_pruneContents ⟨target, ⟨0⟩, registry.globals⟩ registry.bodies

/-- A document is bound in the same way without the bounds of what is inside repeated groups. -/
theorem bindXml_pruneDocument
    (options : BindingOptions)
    (document : Xml.Document) :
    bindXml options (pruneDocument document) = bindXml options document := by
  unfold bindXml Document.ofXml
  rw [declarations_pruneDocument]
  by_cases isSchema : constructOf? document.root = some "schema"
  · rw [if_pos isSchema, if_pos (show constructOf? (pruneDocument document).root = _ from isSchema)]
    dsimp only
    rw [bind_eq, bind_eq, show (pruneDocument document).root = document.root from rfl,
      bindDeclarations_pruneDeclaration]
    rfl
  · rw [if_neg isSchema, if_neg (show ¬constructOf? (pruneDocument document).root = _ from isSchema)]
    rfl

end Schema
end SchemaBinding
