import SchemaBinding.Proofs.SchemaSignatures
import SchemaBinding.Proofs.SimpleTypeChains
import SchemaBinding.Proofs.WalkedDocuments

/-!
# Roots of simple types

Once the first pass over a schema has noted what is declared, every simple type of the schema is resolved
to what its chain determines.  A walk that keeps the elements of the simple types in progress ends and
comes to the same.
-/

namespace SchemaBinding
namespace Schema

open Relation (TransGen)
open Xml (Spot)

/-! ## Documents -/

/-- The first pass over a document: `bothPasses` up to where the classes are filled. -/
def firstPass (options : BindingOptions) (document : Xml.Document) : Binding Registry :=
  (document.children.filterMap (declaration? document.scope)).foldlM
    (Registry.register (settingOf options document)) {}

/-- The first pass of a walk over the schema that an element is. -/
def Site.registerAll (options : BindingOptions) (site : Site) : Walk Declared := do
  let target := site.spot.tag.attribute? "targetNamespace"
  let package ← Walk.carryOut (Arena.package (packageName options target))
  let setting : Setting := ⟨target, packageName options target, package, options.overwrite⟩
  site.children.foldlM (register setting) {}

/-- How a simple type may be used: by its name if it is at the top, or on the spot. -/
inductive UsedAs (document : Xml.Document) (site : Site) : TypeUse → Prop
  /-- By its name. -/
  | named {name : ExpandedName} (declared : DeclaredAt document "simpleType" name site) :
      UsedAs document site (.named (.ok name))
  /-- On the spot. -/
  | inline : UsedAs document site (.inline (simpleType site.spot.scope site.spot.content))

/-- How the resolution of simple types may start with one: by its name if it is at the top, or on the
spot if it is neither inside a simple type at the top nor around one.  A definition inside a simple type
at the top is only met on a chain from that one. -/
inductive StartsWith (document : Xml.Document) (site : Site) : TypeUse → Prop
  /-- By its name. -/
  | named {name : ExpandedName} (declared : DeclaredAt document "simpleType" name site) :
      StartsWith document site (.named (.ok name))
  /-- On the spot. -/
  | inline (apart : ∀ {name top place}, DeclaredAt document "simpleType" name top →
      site.Covers place → ¬top.Covers place) :
      StartsWith document site (.inline (simpleType site.spot.scope site.spot.content))

section Documents

variable {options : BindingOptions} {document : Xml.Document} {registry : Registry}
  {bound : BindingState}

theorem registered_of_firstPass
    (leads : Leads (firstPass options document) (initialState options document) registry bound) :
    Registered options document ∧ registry.globals = (environmentOf options document).globals := by
  have settles := settles_declarations (settingOf options document)
    (settingOf options document).packageName rfl document
  obtain ⟨_, ⟨⟨registrable, proper⟩, rfl, _⟩, _⟩ :=
    settles.sound (shows_initialState options document) leads
  exact ⟨⟨registrable, proper⟩, rfl⟩

/-- The first pass of a walk ends as that of the binding does. -/
theorem exists_walk_of_firstPass
    (leads : Leads (firstPass options document) (initialState options document) registry bound) :
    ∃ declared progress landmarks,
      (Site.registerAll options (.outermost document)).outcome? {} =
        some (.ok declared, progress.walked) ∧
      Starts (settingOf options document) landmarks (Unnoted (Site.outermost document).children)
        progress ∧
      Records (settingOf options document) landmarks (Site.outermost document).children declared
        registry := by
  have ends := (follows_declarations options document).ends (registers_initialState options document)
  have walked : (Site.registerAll options (.outermost document)).outcome? {} =
      ((Site.outermost document).children.foldlM
        (Site.register (settingOf options document)) {}).outcome?
          ({ bound := initialState options document } : Progress).walked := by
    rw [Site.registerAll, Walk.outcome?_bind]
    change ((Walk.carryOut
      (Arena.package (settingOf options document).packageName)).outcome? {}).bind _ = _
    rw [outcome?_createPackage]
    rfl
  unfold Leads firstPass at leads
  rw [foldlM_declarations] at leads
  change EndTogether _ _ (outcome _ (initialState options document)) at ends
  rw [leads, ← walked] at ends
  generalize (Site.registerAll options (.outermost document)).outcome? {} = result at ends
  generalize reached : ((.ok registry, bound) : Except SchemaError Registry × BindingState) = final
    at ends
  cases ends with
  | @ok declared _ progress registers =>
      obtain ⟨landmarks, starts, records⟩ := registers
      cases reached
      exact ⟨declared, progress, landmarks, rfl, starts, records⟩
  | error => cases reached

section Walked

variable {landmarks : List Landmark} {declared : Declared} {progress : Progress} {site : Site}
  {name : ExpandedName}

/-- What a walk has noted as a simple type is declared at the top. -/
theorem declaredAt_of_hasSimple
    (records : Records (settingOf options document) landmarks (Site.outermost document).children
      declared registry)
    (isSimple : declared.HasSimple name site) :
    DeclaredAt document "simpleType" name site := by
  obtain ⟨isVisited, target, named⟩ := records.of_hasSimple isSimple
  obtain ⟨child, isChild, rfl⟩ := List.mem_map.1 isVisited
  exact ⟨child.1, child.2, ⟨Spot.mem_children.1 isChild, isSimple.construct, target, named⟩, rfl⟩

/-- A walk has noted the simple types that are declared at the top. -/
theorem hasSimple_of_declaredAt
    (registered : Registered options document)
    (sameGlobals : registry.globals = (environmentOf options document).globals)
    (records : Records (settingOf options document) landmarks (Site.outermost document).children
      declared registry)
    (isDeclared : DeclaredAt document "simpleType" name site) :
    declared.HasSimple name site := by
  have noted : ∃ definition, registry.globals.types.lookup name = some (.simple definition) := by
    obtain ⟨_, _, declares, _⟩ := isDeclared
    rw [sameGlobals]
    exact ⟨_, registered.lookup_simpleType declares⟩
  obtain ⟨_, noted⟩ := noted
  rcases records.reflects.types name with ⟨_, missing⟩ | ⟨found, definition, isFound, isNoted, defines⟩
  · rw [noted] at missing
    cases missing
  · rw [noted] at isNoted
    cases defines with
    | complex => cases isNoted
    | simple construct =>
        have isSimple : declared.HasSimple name found := ⟨isFound, construct⟩
        rwa [(declaredAt_of_hasSimple records isSimple).eq registered isDeclared] at isSimple

/-- A walk that starts with a simple type finds what the simple type is resolved to. -/
theorem answers_of_startsWith
    (registered : Registered options document)
    (sameGlobals : registry.globals = (environmentOf options document).globals)
    (starts : Starts (settingOf options document) landmarks
      (Unnoted (Site.outermost document).children) progress)
    (records : Records (settingOf options document) landmarks (Site.outermost document).children
      declared registry)
    {use : TypeUse}
    (startsWith : StartsWith document site use) :
    Answers progress (declared.resolveSimpleType [] site) (registry.globals.resolveUse [] use) := by
  have stands := starts.secondPass
  cases startsWith with
  | @named name isDeclared =>
      have isSimple := hasSimple_of_declaredAt registered sameGlobals records isDeclared
      have answers := answers_resolveType records.reflects stands (.nil declared) name
      rw [Declared.resolveType, isSimple.found] at answers
      dsimp only at answers
      rwa [if_neg (by rw [isSimple.construct]; decide)] at answers
  | inline apart =>
      have meets : declared.Meets [] site.place :=
        ⟨fun isSimple covers within =>
          absurd covers (apart (declaredAt_of_hasSimple records isSimple) within)⟩
      exact answers_resolveSimpleType records.reflects stands ((Tracks.nil declared).cons meets)
        site.avoids_nil

end Walked

end Documents

/-- Every simple type of a schema is resolved to what its chain determines, once the first pass has noted
what is declared.  A walk that notes the elements of the simple types in progress ends, without having
changed anything, with the same result. -/
theorem simpleTypes_rootIn
    (options : BindingOptions)
    (document : Xml.Document)
    {registry : Registry}
    {bound : BindingState}
    (leads : Leads (firstPass options document) (initialState options document) registry bound) :
    (∀ site use, UsedAs document site use →
      RootsIn options document site (registry.globals.resolveUse [] use)) ∧
    ∃ declared walked,
      (Site.registerAll options (.outermost document)).outcome? {} = some (.ok declared, walked) ∧
      ∀ site use, StartsWith document site use →
        (declared.resolveSimpleType [] site).outcome? walked =
          some ((registry.globals.resolveUse [] use).mapError .failed, walked) := by
  obtain ⟨registered, sameGlobals⟩ := registered_of_firstPass leads
  constructor
  · intro site use isUsed
    have awaits : Awaits document [] site := List.forall_mem_nil _
    rw [sameGlobals]
    cases isUsed with
    | named declared =>
        have roots := rootsIn_of_awaits registered (awaits.cons declared)
        obtain ⟨_, _, declares, rfl⟩ := declared
        rwa [resolveUse_of_simple (registered.lookup_simpleType declares),
          if_neg List.not_mem_nil]
    | inline => exact rootsIn_of_awaits registered awaits
  · obtain ⟨declared, progress, landmarks, walked, starts, records⟩ := exists_walk_of_firstPass leads
    refine ⟨declared, progress.walked, walked, fun site use startsWith => ?_⟩
    exact (answers_of_startsWith registered sameGlobals starts records startsWith).ends

/-- A schema of lengths and their lists, and of two simple types that are derived from each other. -/
def lengthSchema : Xml.Document where
  root := ⟨schemaName "schema", [⟨some "s", schemaNamespace⟩], []⟩
  children := [
    schemaNode "simpleType" [("name", "Length")] [
      schemaNode "restriction" [("base", "s:decimal")] []],
    schemaNode "simpleType" [("name", "Lengths")] [
      schemaNode "list" [("itemType", "Length")] []],
    schemaNode "simpleType" [("name", "Odd")] [
      schemaNode "restriction" [("base", "Even")] []],
    schemaNode "simpleType" [("name", "Even")] [
      schemaNode "list" [] [
        schemaNode "simpleType" [] [schemaNode "restriction" [("base", "Odd")] []]]]]

/-- Lists of lengths are lists of decimal numbers, and the two simple types are refused as circular. -/
theorem lengthSchema_roots :
    ∃ registry bound,
      Leads (firstPass {} lengthSchema) (initialState {} lengthSchema) registry bound ∧
      registry.globals.resolveUse [] (.named (.ok ⟨none, "Lengths"⟩)) =
        .ok (.listOf (.core "BigDecimal")) ∧
      ∃ localName, registry.globals.resolveUse [] (.named (.ok ⟨none, "Odd"⟩)) =
        .error (.circularType localName) := by
  obtain ⟨registry, bound, leads⟩ : ∃ registry bound,
      Leads (firstPass {} lengthSchema) (initialState {} lengthSchema) registry bound :=
    ⟨_, _, rfl⟩
  obtain ⟨roots, _⟩ := simpleTypes_rootIn {} lengthSchema leads
  obtain ⟨length, lengths, isLengths, steps, ends⟩ : ∃ length lengths,
      DeclaredAt lengthSchema "simpleType" ⟨none, "Lengths"⟩ lengths ∧
        StepsTo lengthSchema lengths .list length ∧
        EndsIn {} lengthSchema length Manner.restriction.lists (.ok (.core "BigDecimal")) := by
    have isLength : DeclaredAt lengthSchema "simpleType" ⟨none, "Length"⟩ _ :=
      ⟨0, _, ⟨rfl, rfl, rfl, rfl⟩, rfl⟩
    have isDecimal : NameStands {} lengthSchema (schemaName "decimal") (.ok (.core "BigDecimal")) :=
      .builtin (fun _ _ _ _ declares => absurd declares.namespaceName (by decide)) rfl
    exact ⟨_, _, ⟨1, _, ⟨rfl, rfl, rfl, rfl⟩, rfl⟩, .named (.named ⟨rfl, rfl⟩ rfl rfl) isLength,
      .named (.named ⟨rfl, rfl⟩ rfl rfl) isDecimal⟩
  obtain ⟨odd, even, inner, isOdd, toEven, toInner, toOdd⟩ : ∃ odd even inner,
      DeclaredAt lengthSchema "simpleType" ⟨none, "Odd"⟩ odd ∧
        StepsTo lengthSchema odd .restriction even ∧ StepsTo lengthSchema even .list inner ∧
        StepsTo lengthSchema inner .restriction odd := by
    have isOdd : DeclaredAt lengthSchema "simpleType" ⟨none, "Odd"⟩ _ :=
      ⟨2, _, ⟨rfl, rfl, rfl, rfl⟩, rfl⟩
    have isEven : DeclaredAt lengthSchema "simpleType" ⟨none, "Even"⟩ _ :=
      ⟨3, _, ⟨rfl, rfl, rfl, rfl⟩, rfl⟩
    exact ⟨_, _, _, isOdd, .named (.named ⟨rfl, rfl⟩ rfl rfl) isEven,
      .onTheSpot (.onTheSpot ⟨rfl, rfl⟩ rfl rfl), .named (.named ⟨rfl, rfl⟩ rfl rfl) isOdd⟩
  have circle : TransGen (GoesOn lengthSchema) odd odd :=
    .tail (.tail (.single ⟨_, toEven⟩) ⟨_, toInner⟩) ⟨_, toOdd⟩
  exact ⟨registry, bound, leads, (roots _ _ (.named isLengths)).atEnd (.step steps (.single _)) ends,
    (roots _ _ (.named isOdd)).circular_iff.2 ⟨odd, .refl, circle⟩⟩

end Schema
end SchemaBinding
