import SchemaBinding.Schema.Resolution

/-!
# Faults in declarations

What a schema declares is kept together with the faults of its parts.  The faults may be told in
other words, while everything else stays as it is.
-/

namespace SchemaBinding
namespace Schema

variable (retell : SchemaError → SchemaError)

mutual

/-- The definition of a simple type, with its faults told in other words. -/
def SimpleType.mapFaults : SimpleType → SimpleType
  | .restriction base => .restriction base.mapFaults
  | .list item => .list item.mapFaults
  | .union => .union
  | .undefined => .undefined

/-- The use of a type, with its faults told in other words. -/
def Use.mapFaults : Use SimpleType → Use SimpleType
  | .named name => .named (name.mapError retell)
  | .inline definition => .inline definition.mapFaults
  | .absent => .absent

end

/-- An attribute, with its faults told in other words. -/
def AttributeItem.mapFaults : AttributeItem → AttributeItem
  | .reference name => .reference (name.mapError retell)
  | .declaration name type => .declaration (name.mapError retell) (type.mapFaults retell)
  | .unsupported construct => .unsupported construct

mutual

/-- A part of a model group, with its faults told in other words. -/
def Particle.mapFaults : Particle → Particle
  | .reference own name => .reference (own.mapError retell) (name.mapError retell)
  | .element own name type none =>
      .element (own.mapError retell) (name.mapError retell) (type.mapFaults retell) none
  | .element own name type (some body) =>
      .element (own.mapError retell) (name.mapError retell) (type.mapFaults retell)
        (some (mapFaultsOfContents body))
  | .group own particles => .group (own.mapError retell) (mapFaultsOfParticles particles)
  | .unsupported construct => .unsupported construct

/-- The parts of a model group, with their faults told in other words. -/
def mapFaultsOfParticles : List Particle → List Particle
  | [] => []
  | particle :: rest => particle.mapFaults :: mapFaultsOfParticles rest

/-- A part of a complex type, with its faults told in other words. -/
def Content.mapFaults : Content → Content
  | .group own particles => .group (own.mapError retell) (mapFaultsOfParticles particles)
  | .attributeItem item => .attributeItem (item.mapFaults retell)
  | .complexContent base added => .complexContent (base.mapError retell) (mapFaultsOfContents added)
  | .simpleContent base added =>
      .simpleContent (base.mapError retell) (added.map (AttributeItem.mapFaults retell))
  | .unsupported construct => .unsupported construct

/-- The parts of a complex type, with their faults told in other words. -/
def mapFaultsOfContents : List Content → List Content
  | [] => []
  | content :: rest => content.mapFaults :: mapFaultsOfContents rest

end

/-- A declaration, with its faults told in other words. -/
def Declaration.mapFaults : Declaration → Declaration
  | .complexType name body => .complexType (name.mapError retell) (mapFaultsOfContents retell body)
  | .simpleType name definition =>
      .simpleType (name.mapError retell) (definition.mapFaults retell)
  | .element name type body =>
      .element (name.mapError retell) (type.mapFaults retell)
        (body.map (mapFaultsOfContents retell))
  | .attributeType name type => .attributeType (name.mapError retell) (type.mapFaults retell)
  | .external construct location => .external construct location
  | .unsupported construct => .unsupported construct

/-- A schema, with its faults told in other words. -/
def Document.mapFaults (schema : Document) : Document where
  targetNamespace := schema.targetNamespace
  declarations := schema.declarations.map (Declaration.mapFaults retell)

variable {retell}

theorem Use.mapFaults_ok
    (name : ExpandedName) :
    (Use.named (.ok name)).mapFaults retell = .named (.ok name) :=
  rfl

theorem Use.mapFaults_error
    (error : SchemaError) :
    (Use.named (.error error)).mapFaults retell = .named (.error (retell error)) :=
  rfl

theorem mapFaultsOfParticles_eq_map
    (particles : List Particle) :
    mapFaultsOfParticles retell particles = particles.map (Particle.mapFaults retell) := by
  induction particles with
  | nil => rfl
  | cons particle rest inductionHypothesis =>
      rw [mapFaultsOfParticles, inductionHypothesis, List.map_cons]

theorem mapFaultsOfContents_eq_map
    (contents : List Content) :
    mapFaultsOfContents retell contents = contents.map (Content.mapFaults retell) := by
  induction contents with
  | nil => rfl
  | cons content rest inductionHypothesis =>
      rw [mapFaultsOfContents, inductionHypothesis, List.map_cons]

theorem Particle.mapFaults_element
    (own : Deferred Bool)
    (name : Deferred String)
    (type : TypeUse)
    (body : Option (List Content)) :
    (Particle.element own name type body).mapFaults retell =
      .element (own.mapError retell) (name.mapError retell) (type.mapFaults retell)
        (body.map (mapFaultsOfContents retell)) := by
  cases body <;> rfl

/-! ## The same words -/

theorem mapError_id
    {α : Type}
    (part : Deferred α) :
    part.mapError id = part := by
  cases part <;> rfl

mutual

theorem SimpleType.mapFaults_id
    (definition : SimpleType) :
    definition.mapFaults id = definition := by
  cases definition with
  | restriction base => rw [SimpleType.mapFaults, Use.mapFaults_id base]
  | list item => rw [SimpleType.mapFaults, Use.mapFaults_id item]
  | union | undefined => rfl

theorem Use.mapFaults_id
    (use : Use SimpleType) :
    use.mapFaults id = use := by
  cases use with
  | named name => rw [Use.mapFaults, mapError_id]
  | inline definition => rw [Use.mapFaults, SimpleType.mapFaults_id definition]
  | absent => rfl

end

theorem AttributeItem.mapFaults_id
    (item : AttributeItem) :
    item.mapFaults id = item := by
  cases item with
  | reference name => rw [mapFaults, mapError_id]
  | declaration name type => rw [mapFaults, mapError_id, Use.mapFaults_id]
  | unsupported construct => rfl

theorem map_attributeItem_mapFaults_id
    (items : List AttributeItem) :
    items.map (AttributeItem.mapFaults id) = items :=
  List.map_id'' AttributeItem.mapFaults_id items

mutual

theorem Particle.mapFaults_id
    (particle : Particle) :
    particle.mapFaults id = particle := by
  cases particle with
  | reference own name => rw [Particle.mapFaults, mapError_id, mapError_id]
  | element own name type body =>
      cases body with
      | none => rw [Particle.mapFaults, mapError_id, mapError_id, Use.mapFaults_id]
      | some body =>
          rw [Particle.mapFaults, mapError_id, mapError_id, Use.mapFaults_id,
            mapFaultsOfContents_id body]
  | group own particles => rw [Particle.mapFaults, mapError_id, mapFaultsOfParticles_id particles]
  | unsupported construct => rfl

theorem mapFaultsOfParticles_id
    (particles : List Particle) :
    mapFaultsOfParticles id particles = particles := by
  cases particles with
  | nil => rfl
  | cons particle rest =>
      rw [mapFaultsOfParticles, Particle.mapFaults_id particle, mapFaultsOfParticles_id rest]

theorem Content.mapFaults_id
    (content : Content) :
    content.mapFaults id = content := by
  cases content with
  | group own particles => rw [Content.mapFaults, mapError_id, mapFaultsOfParticles_id particles]
  | attributeItem item => rw [Content.mapFaults, AttributeItem.mapFaults_id]
  | complexContent base added =>
      rw [Content.mapFaults, mapError_id, mapFaultsOfContents_id added]
  | simpleContent base added =>
      rw [Content.mapFaults, mapError_id, map_attributeItem_mapFaults_id]
  | unsupported construct => rfl

theorem mapFaultsOfContents_id
    (contents : List Content) :
    mapFaultsOfContents id contents = contents := by
  cases contents with
  | nil => rfl
  | cons content rest =>
      rw [mapFaultsOfContents, Content.mapFaults_id content, mapFaultsOfContents_id rest]

end

theorem Declaration.mapFaults_id
    (declaration : Declaration) :
    declaration.mapFaults id = declaration := by
  cases declaration with
  | complexType name body => rw [mapFaults, mapError_id, mapFaultsOfContents_id]
  | simpleType name definition => rw [mapFaults, mapError_id, SimpleType.mapFaults_id]
  | element name type body =>
      rw [mapFaults, mapError_id, Use.mapFaults_id, Option.map_congr fun body _ =>
        mapFaultsOfContents_id body]
      cases body <;> rfl
  | attributeType name type => rw [mapFaults, mapError_id, Use.mapFaults_id]
  | external | unsupported => rfl

theorem Document.mapFaults_id
    (schema : Document) :
    schema.mapFaults id = schema := by
  rw [mapFaults, List.map_id'' Declaration.mapFaults_id]

end Schema
end SchemaBinding
