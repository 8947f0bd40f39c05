import SchemaBinding.Proofs.WalkedTypes

/-!
# Content met on walks

A walk through the content of a complex type binds what is read from it.  It meets every element once,
so that it never finds a class noted for a complex type that it comes to for the first time, and goes
down only where the document does.
-/

namespace SchemaBinding
namespace Schema

open Binding (need warn addClass typeOf addField)
open Xml (Place Spot)

/-- What the second pass knows of a schema whose declarations are known. -/
def Setting.environment (setting : Setting) (globals : Globals) : Environment :=
  ⟨setting.target, setting.package, globals⟩

/-! ## Elements and their types -/

/-- The type of an element that is declared on the spot; a complex type inside it becomes a nested
class. -/
def ownType (environment : Environment) (owner : ClassId) (name : String) :
    TypeUse → Option (List Content) → Binding TypeRef
  | .named reference, _ => need (environment.globals.resolveUse [] (.named reference))
  | _, some body => do
      let nested ← addClass (className name) environment.package (some owner)
      bindContents environment nested body
      typeOf nested
  | .inline definition, none => need (environment.globals.resolveUse [] (.inline definition))
  | .absent, none => return .object

theorem bindParticle_element
    (environment : Environment)
    (owner : ClassId)
    (around : Bool)
    (own : Deferred Bool)
    (name : Deferred String)
    (type : TypeUse)
    (body : Option (List Content)) :
    bindParticle environment owner around (.element own name type body) = (do
      let repeated ← isRepeated around own
      let name ← need name
      let type ← ownType environment owner name type body
      addField owner (fieldName name) (particleType repeated type)) := by
  cases type with
  | named reference => rw [bindParticle]; rfl
  | inline definition =>
      cases body with
      | none => rw [bindParticle]; rfl
      | some body => simp only [bindParticle, ownType, bind_assoc]
  | absent =>
      cases body with
      | none => simp only [bindParticle, ownType, pure_bind]
      | some body => simp only [bindParticle, ownType, bind_assoc]

section Content

variable {landmarks : List Landmark} {declared : Declared} {globals : Globals}
  {setting : Setting} {held : List ClassId} {owner : ClassId}

theorem Site.construct?_inside
    (site : Site)
    (child : Nat × Spot) :
    (site.inside child).construct? = constructOf? child.2.tag :=
  rfl

theorem Site.spot_inside
    (site : Site)
    (child : Nat × Spot) :
    (site.inside child).spot = child.2 :=
  rfl

theorem Site.reference?_spot
    (site : Site)
    (attributeName : String) :
    Schema.reference? site.spot.scope site.spot.tag attributeName = site.reference? attributeName :=
  rfl

theorem Setting.globals_environment
    (setting : Setting)
    (globals : Globals) :
    (setting.environment globals).globals = globals :=
  rfl

theorem isClean_name
    (site : Site) :
    IsClean site.name :=
  isClean_required site.spot.tag "name"

theorem sound_isRepeated
    (around : Bool)
    (tag : Xml.Tag) :
    Sound held (isRepeated around (repeated tag)) fun _ => [] := by
  unfold isRepeated
  split_ifs
  · exact .of_still (fun _ => rfl) nofun
  · exact .need (isClean_repeated tag)

theorem Enacts.isRepeated
    (around : Bool)
    (site : Site) :
    Enacts (Site.isRepeated around site) (isRepeated around (repeated site.spot.tag)) := by
  cases around with
  | true => exact ⟨fun _ => rfl⟩
  | false => exact .need (repeated site.spot.tag)

theorem Visits.isRepeated
    {region : Place → Prop}
    (around : Bool)
    (site : Site) :
    Visits landmarks held region (Site.isRepeated around site)
      (isRepeated around (repeated site.spot.tag)) :=
  .enact (.isRepeated around site) (sound_isRepeated around site.spot.tag)

/-- Attributes are bound alike. -/
theorem visits_visitAttribute
    {region : Place → Prop}
    {site : Site}
    (reflects : Reflects landmarks declared globals)
    (isHeld : owner ∈ held)
    (meets : declared.Meets [] site.place) :
    Visits landmarks held region (Site.visitAttribute setting declared owner site)
      (forM (attributesAt site.spot) (bindAttribute (setting.environment globals) owner)) := by
  have fieldOf : ∀ {declaration : Site} (name : String), declared.Meets [] declaration.place →
      Visits landmarks held region
        (do
          let type ← Declared.typeOrInline declared [] declaration "type"
          Walk.addField owner name type)
        (do
          let type ← need (globals.resolveUse [] (declaration.use "type"))
          addField owner name type) := fun name met =>
    .afterAnswers (fun stands => answers_typeOrInline reflects stands (.nil declared) met
      (Site.avoids_nil _) _)
      fun type _ => .addField isHeld name type
  unfold Site.visitAttribute attributesAt attributeItems
  split_ifs with isProhibited
  · exact .pure ()
  · rw [site.reference?_spot]
    cases isReference : site.reference? "ref" with
    | none =>
        dsimp only
        rw [forM_singleton, bindAttribute]
        exact (Visits.need (isClean_name site)).andThen fun name => fieldOf (fieldName name) meets
    | some reference =>
        dsimp only
        rw [forM_singleton, bindAttribute]
        refine (Visits.need (isClean_reference? isReference)).andThen fun name => ?_
        show Visits _ _ _ _ (do
          let type ← need (globals.attributeType setting.target name)
          addField owner (fieldName name.localName) type)
        unfold Globals.attributeType
        rcases reflects.attributes name with ⟨undeclared, noUse⟩ |
          ⟨declaration, use, isDeclared, isUse, met, rfl⟩
        · rw [undeclared, noUse]
          dsimp only
          split_ifs
          · refine .throw fun _ isModel => ?_
            cases isModel
          · exact .addField isHeld _ _
        · rw [isDeclared, isUse]
          exact fieldOf (fieldName name.localName) met

/-- Bases of derivations by complex content are bound alike. -/
theorem visits_visitComplexBase
    {region : Place → Prop}
    (reflects : Reflects landmarks declared globals)
    (isHeld : owner ∈ held)
    (derivation : Site) :
    Visits landmarks held region (Site.visitComplexBase declared owner derivation)
      (bindContent (setting.environment globals) owner
        (.complexContent (baseAt derivation.spot) [])) := by
  unfold Site.visitComplexBase
  rw [bindContent]
  refine (Visits.need (isClean_baseAt derivation.spot)).andThen fun base => ?_
  refine .afterAnswers (fun stands => answers_resolveBase reflects stands base) fun found isFound => ?_
  cases found with
  | any => exact .pure ()
  | complex supertype =>
      obtain ⟨landmark, isLandmark, rfl⟩ := exists_landmark_of_resolveBase reflects isFound
      simp only [bindContents, bind_pure_unit]
      exact .addSupertype isHeld isLandmark
  | simple type =>
      simp only [bindContents, bind_pure_unit]
      exact .warn _

/-- Bases of derivations by simple content are bound alike. -/
theorem visits_visitSimpleBase
    {region : Place → Prop}
    (reflects : Reflects landmarks declared globals)
    (isHeld : owner ∈ held)
    (derivation : Site) :
    Visits landmarks held region (Site.visitSimpleBase declared owner derivation)
      (bindContent (setting.environment globals) owner
        (.simpleContent (baseAt derivation.spot) [])) := by
  unfold Site.visitSimpleBase
  rw [bindContent]
  refine (Visits.need (isClean_baseAt derivation.spot)).andThen fun base => ?_
  refine .afterAnswers (fun stands => answers_resolveBase reflects stands base) fun found isFound => ?_
  cases found with
  | any =>
      simp only [bindAttributes, bind_pure_unit]
      exact .warn _
  | complex supertype =>
      obtain ⟨landmark, isLandmark, rfl⟩ := exists_landmark_of_resolveBase reflects isFound
      simp only [bindAttributes, bind_pure_unit]
      exact .addSupertype isHeld isLandmark
  | simple type =>
      simp only [bindAttributes, bind_pure_unit]
      exact .addField isHeld _ _

/-- Simple content is bound alike. -/
theorem visits_visitSimpleContent
    {site : Site}
    (reflects : Reflects landmarks declared globals)
    (isHeld : owner ∈ held)
    (meets : declared.Meets [] site.place) :
    Visits landmarks held site.Inside (Site.visitSimpleContent setting declared owner site)
      (forM ((firstDerivation? site.spot).map fun found => simpleContentAt found.2).toList
        (bindContent (setting.environment globals) owner)) := by
  unfold Site.visitSimpleContent
  rw [Site.first?, ← firstDerivation?]
  cases firstDerivation? site.spot with
  | none => exact .pure ()
  | some derivation =>
      rw [Option.map_some, Option.map_some, Option.toList_some, forM_singleton, simpleContentAt,
        bindContent_simpleContent]
      refine (visits_visitSimpleBase reflects isHeld (site.inside derivation)).andThen fun _ => ?_
      rw [Site.construct?_inside]
      split_ifs with isExtension
      · rw [added_eq, bindAttributes_eq_forM, forM_flatMap]
        refine (Visits.children fun child isChild => ?_).weaken fun _ => Site.inside_of_inside
        unfold Site.visitAdded addedAt
        rw [Site.construct?_inside, Site.spot_inside]
        split_ifs
        · exact visits_visitAttribute reflects isHeld ((meets.inside derivation).inside child)
        · exact .pure ()
        · rw [forM_singleton, bindAttribute]
          exact .warn _
      · exact .pure ()

/-- Complex content is bound alike, if what an extension adds is visited alike. -/
theorem visits_visitComplexContent
    {site : Site}
    (reflects : Reflects landmarks declared globals)
    (isHeld : owner ∈ held)
    (inside : ∀ derivation, firstDerivation? site.spot = some derivation →
      Visits landmarks held (site.inside derivation).Inside
        (Site.visitType setting declared owner (site.inside derivation))
        (bindContents (setting.environment globals) owner
          (contents derivation.2.scope derivation.2.content))) :
    Visits landmarks held site.Inside (Site.visitComplexContent setting declared owner site)
      (forM ((firstDerivation? site.spot).map fun found => complexContentAt found.2).toList
        (bindContent (setting.environment globals) owner)) := by
  rw [Site.visitComplexContent, Site.first?, ← firstDerivation?]
  cases isFirst : firstDerivation? site.spot with
  | none => exact .pure ()
  | some derivation =>
      rw [Option.map_some, Option.map_some, Option.toList_some, forM_singleton, complexContentAt,
        bindContent_complexContent]
      refine (visits_visitComplexBase reflects isHeld (site.inside derivation)).andThen fun _ => ?_
      rw [Site.construct?_inside]
      split_ifs with isExtension
      · exact (inside derivation isFirst).weaken fun _ => Site.inside_of_inside
      · rw [bindContents]
        exact .pure ()

theorem bindContent_group
    (environment : Environment)
    (owner : ClassId)
    (own : Deferred Bool)
    (particles : List Particle) :
    bindContent environment owner (.group own particles) =
      bindParticle environment owner false (.group own particles) := by
  rw [bindContent, bindParticle]
  rfl

/-- The type of an element that is declared on the spot is found alike, if the complex type inside it
is visited alike. -/
theorem visits_elementType
    {site : Site}
    (reflects : Reflects landmarks declared globals)
    (isFirst : setting.package = ⟨0⟩)
    (isHeld : owner ∈ held)
    (meets : declared.Meets [] site.place)
    (name : String)
    (inside : ∀ child, firstComplexType? site.spot = some child → ∀ nested,
      Visits landmarks (nested :: held) (site.inside child).Inside
        (Site.visitType setting declared nested (site.inside child))
        (bindContents (setting.environment globals) nested
          (contents child.2.scope child.2.content))) :
    Visits landmarks held site.Inside (Site.elementType setting declared owner name site)
      (ownType (setting.environment globals) owner name (site.use "type")
        (body? site.spot.scope site.spot.content)) := by
  rw [Site.elementType, Site.use]
  cases isReference : site.reference? "type" with
  | some reference =>
      dsimp only [Use.named?]
      rw [ownType, resolveUse_named]
      exact .of_answers fun stands => (Answers.need (isClean_reference? isReference)).bind
        fun name _ => answers_resolveType reflects stands (.nil declared) name
  | none =>
      dsimp only [Use.named?]
      rw [inlineType_eq, body?_eq, Site.first?, ← firstComplexType?]
      cases isFirstType : firstComplexType? site.spot with
      | some child =>
          rw [Option.map_some, Option.map_some]
          have isFree : site.Inside (site.inside child).place :=
            Site.inside_of_covers List.prefix_rfl
          have within : ∀ place, (site.inside child).Inside place →
              site.Inside place ∧ place ≠ (site.inside child).place := by
            intro place further
            refine ⟨Site.inside_of_inside further, ?_⟩
            rintro rfl
            exact (site.inside child).not_inside_self further
          have nested := Visits.nested (className name) isFirst isHeld isFree within
            (inside child isFirstType)
          cases first? ["simpleType"] site.spot <;> exact .noted?_of_free isFree nested
      | none =>
          rw [Site.first?]
          cases first? ["simpleType"] site.spot with
          | none => exact .pure _
          | some child =>
              exact .of_answers fun stands => answers_resolveSimpleType reflects stands
                ((Tracks.nil declared).cons (meets.inside child)) (site.inside child).avoids_nil

mutual

theorem visits_visitType
    (reflects : Reflects landmarks declared globals)
    (isFirst : setting.package = ⟨0⟩)
    {held : List ClassId}
    {owner : ClassId}
    {site : Site}
    (isHeld : owner ∈ held)
    (meets : declared.Meets [] site.place) :
    Visits landmarks held site.Inside (Site.visitType setting declared owner site)
      (bindContents (setting.environment globals) owner
        (contents site.spot.scope site.spot.content)) := by
  rw [Site.visitType, contents_eq, bindContents_eq_forM, forM_flatMap]
  refine .children fun child isChild => ?_
  unfold contentsAt
  rw [Site.construct?_inside, Site.spot_inside]
  split_ifs
  · rw [forM_singleton, bindContent_group]
    exact (visits_visitGroup reflects isFirst isHeld (meets.inside child) false).weaken
      fun _ => Site.covers_of_inside
  · rw [List.forM_map]
    have same : ∀ item, bindContent (setting.environment globals) owner (.attributeItem item) =
        bindAttribute (setting.environment globals) owner item := fun item => by rw [bindContent]
    simp only [same]
    exact visits_visitAttribute reflects isHeld (meets.inside child)
  · refine (visits_visitComplexContent reflects isHeld fun derivation isFirstOne => ?_).weaken
      fun _ => Site.covers_of_inside
    exact visits_visitType reflects isFirst isHeld ((meets.inside child).inside derivation)
  · exact (visits_visitSimpleContent reflects isHeld (meets.inside child)).weaken
      fun _ => Site.covers_of_inside
  · exact .pure ()
  · rw [forM_singleton, bindContent]
    exact .warn _
termination_by sizeOf site.spot.content
decreasing_by
  · exact Spot.sizeOf_content_lt isChild
  · exact Nat.lt_trans (Spot.sizeOf_content_lt (mem_children_of_first? isFirstOne))
      (Spot.sizeOf_content_lt isChild)

theorem visits_visitGroup
    (reflects : Reflects landmarks declared globals)
    (isFirst : setting.package = ⟨0⟩)
    {held : List ClassId}
    {owner : ClassId}
    {site : Site}
    (isHeld : owner ∈ held)
    (meets : declared.Meets [] site.place)
    (around : Bool) :
    Visits landmarks held site.Inside (Site.visitGroup setting declared owner around site)
      (bindParticle (setting.environment globals) owner around
        (.group (repeated site.spot.tag) (particles site.spot.scope site.spot.content))) := by
  rw [Site.visitGroup, bindParticle]
  refine (Visits.isRepeated around site).andThen fun repeated => ?_
  rw [particles_eq, bindParticles_eq_forM, forM_flatMap]
  refine .children fun child isChild => ?_
  unfold particlesAt
  rw [Site.construct?_inside, Site.spot_inside]
  split_ifs
  · rw [forM_singleton]
    exact (visits_visitElement reflects isFirst isHeld (meets.inside child) repeated).weaken
      fun _ => Site.covers_of_inside
  · rw [forM_singleton]
    exact (visits_visitGroup reflects isFirst isHeld (meets.inside child) repeated).weaken
      fun _ => Site.covers_of_inside
  · exact .pure ()
  · rw [forM_singleton, bindParticle]
    exact .warn _
termination_by sizeOf site.spot.content
decreasing_by
  all_goals exact Spot.sizeOf_content_lt isChild

theorem visits_visitElement
    (reflects : Reflects landmarks declared globals)
    (isFirst : setting.package = ⟨0⟩)
    {held : List ClassId}
    {owner : ClassId}
    {site : Site}
    (isHeld : owner ∈ held)
    (meets : declared.Meets [] site.place)
    (around : Bool) :
    Visits landmarks held site.Inside (Site.visitElement setting declared owner around site)
      (bindParticle (setting.environment globals) owner around (particleAt site.spot)) := by
  rw [Site.visitElement, particleAt, site.reference?_spot]
  cases isReference : site.reference? "ref" with
  | some reference =>
      dsimp only
      rw [bindParticle, setting.globals_environment]
      refine (Visits.isRepeated around site).andThen fun repeated => ?_
      refine (Visits.need (isClean_reference? isReference)).andThen fun name => ?_
      rcases reflects.elements name with ⟨undeclared, noElement⟩ |
        ⟨declaration, element, isDeclared, isElement, met, defines⟩
      · rw [undeclared, noElement]
        exact .throw (admissible_of_kind nofun)
      · -- The class of a declaration at the top is a landmark, so nothing is visited from here.
        rw [isDeclared, isElement]
        exact .afterAnswers (fun stands => answers_elementType reflects stands defines met owner _)
          fun type _ => .addField isHeld _ _
  | none =>
      dsimp only
      rw [bindParticle_element]
      refine (Visits.isRepeated around site).andThen fun repeated => ?_
      refine (Visits.need (isClean_name site)).andThen fun name => ?_
      have typed := visits_elementType reflects isFirst isHeld meets name
        fun child isFirstType nested => visits_visitType reflects isFirst List.mem_cons_self (meets.inside child)
      exact typed.last fun type => .addField isHeld _ _
termination_by sizeOf site.spot.content
decreasing_by
  exact Spot.sizeOf_content_lt (mem_children_of_first? isFirstType)

end

end Content
end Schema
end SchemaBinding
