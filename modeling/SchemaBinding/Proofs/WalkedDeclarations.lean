import Mathlib.Data.List.Pairwise
import SchemaBinding.Proofs.Registration
import SchemaBinding.Proofs.WalkedContent

/-!
# Declarations met on walks

The first pass of a walk over a schema.  It notes the declarations that the binding reads from the
document, and a class for every complex type at the top; so no class is missing in the second pass.
-/

namespace SchemaBinding
namespace Schema

open Binding (warn addClass)
open Xml (Place Spot)

/-! ## Steps of the first pass -/

/-- What is known on the way through the first pass. -/
structure Starts (setting : Setting) (landmarks : List Landmark) (free : Place → Prop)
    (progress : Progress) : Prop extends Stands landmarks [] free progress where
  packages : progress.bound.draft.packages = [setting.packageName]

namespace Starts

variable {setting : Setting} {landmarks : List Landmark} {free smaller : Place → Prop}
  {progress : Progress}

theorem weaken
    (starts : Starts setting landmarks free progress)
    (freeBefore : ∀ place, smaller place → free place) :
    Starts setting landmarks smaller progress :=
  ⟨starts.toStands.weaken (fun _ => id) freeBefore, starts.packages⟩

/-- Warnings change nothing that is known. -/
theorem withBound
    (starts : Starts setting landmarks free progress)
    {bound : BindingState}
    (same : bound.draft = progress.bound.draft) :
    Starts setting landmarks free { progress with bound } where
  orderly := same ▸ starts.orderly
  noted := starts.noted
  typed := same ▸ starts.typed
  holds := same ▸ starts.holds
  free := starts.free
  packages := same ▸ starts.packages

end Starts

theorem draft_checkOverwrite
    (setting : Setting)
    (name : ExpandedName)
    (state : BindingState) :
    (outcome (Registry.checkOverwrite setting name) state).2.draft = state.draft := by
  unfold Registry.checkOverwrite
  split_ifs
  · cases setting.overwrite <;> rfl
  · rfl

theorem admissible_of_checkOverwrite
    {setting : Setting}
    {name : ExpandedName}
    {state : BindingState}
    {error : SchemaError}
    (refused : (outcome (Registry.checkOverwrite setting name) state).1 = .error error) :
    error.Admissible := by
  unfold Registry.checkOverwrite at refused
  split_ifs at refused
  · cases isPolicy : setting.overwrite <;> rw [isPolicy] at refused <;> cases refused
    exact admissible_of_kind nofun
  · cases refused

theorem Enacts.checkOverwrite
    (setting : Setting)
    (name : ExpandedName) :
    Enacts (Walk.checkOverwrite setting name) (Registry.checkOverwrite setting name) := by
  unfold Walk.checkOverwrite Registry.checkOverwrite
  split_ifs
  · cases setting.overwrite with
    | deny => exact ⟨fun _ => rfl⟩
    | warn => exact .warn _
    | allow => exact ⟨fun _ => rfl⟩
  · exact ⟨fun _ => rfl⟩

section Steps

variable {α β : Type} {setting : Setting} {landmarks : List Landmark} {free : Place → Prop}
  {post : α → β → Progress → Prop}

/-- A step that leaves the draft alone. -/
theorem Follows.still
    {walk : Walk Unit}
    {step : Binding Unit}
    {further : Walk α}
    {rest : Binding β}
    (enacts : Enacts walk step)
    (still : ∀ state, (outcome step state).2.draft = state.draft)
    (admissible : ∀ state error, (outcome step state).1 = .error error → error.Admissible)
    (second : Follows (Starts setting landmarks free) further rest post) :
    Follows (Starts setting landmarks free) (do walk; further) (do step; rest) post := by
  refine ⟨fun {progress} starts => ?_⟩
  rw [Walk.outcome?_bind, enacts.ends starts.orderly, outcome_bind]
  have same := still progress.bound
  have refused := admissible progress.bound
  generalize outcome step progress.bound = ended at same refused
  obtain ⟨result, bound⟩ := ended
  cases result with
  | error error => exact .error (refused error rfl)
  | ok value => exact second.ends (starts.withBound same)

/-- A declaration has a name in the target namespace. -/
theorem Follows.declaredName
    {site : Site}
    {further : ExpandedName → Walk α}
    {rest : ExpandedName → Binding β}
    (second : ∀ name, site.spot.tag.attribute? "name" = some name →
      Follows (Starts setting landmarks free) (further ⟨setting.target, name⟩)
        (rest ⟨setting.target, name⟩) post) :
    Follows (Starts setting landmarks free) (Site.declaredName setting site >>= further)
      (Registry.declaredName setting site.name >>= rest) post := by
  unfold Site.declaredName
  cases isName : site.name with
  | error error => exact ⟨fun _ => .error (isClean_name site error isName)⟩
  | ok name =>
      have isAttribute : site.spot.tag.attribute? "name" = some name := by
        unfold Site.name required at isName
        split at isName
        next value isValue =>
          cases isName
          exact isValue
        next => cases isName
      exact ⟨fun starts => (second name isAttribute).ends starts⟩

/-- A declaration is noted if its name is new, which it is in both tables or in none. -/
theorem Follows.insertNew
    {Definition : Type}
    {entries : List (ExpandedName × Site)}
    {others : List (ExpandedName × Definition)}
    {name : ExpandedName}
    {site : Site}
    {definition : Definition}
    {further : List (ExpandedName × Site) → Walk α}
    {rest : List (ExpandedName × Definition) → Binding β}
    (sameNames : entries.map Prod.fst = others.map Prod.fst)
    (second : Follows (Starts setting landmarks free) (further (entries ++ [(name, site)]))
      (rest (others ++ [(name, definition)])) post) :
    Follows (Starts setting landmarks free) (Walk.insertNew entries name site >>= further)
      (Registry.insertNew others name definition >>= rest) post := by
  have sameFound : (entries.lookup name).isSome = (others.lookup name).isSome := by
    rw [Bool.eq_iff_iff, isSome_lookup_iff, isSome_lookup_iff, sameNames]
  unfold Walk.insertNew Registry.insertNew
  rw [sameFound]
  split_ifs
  · exact ⟨fun _ => .error (admissible_of_kind nofun)⟩
  · exact ⟨fun starts => second.ends starts⟩

end Steps

/-- A class that is noted at a place that was free is a landmark. -/
theorem Stands.mark
    {landmarks : List Landmark}
    {held : List ClassId}
    {free : Place → Prop}
    {progress : Progress}
    (stands : Stands landmarks held free progress)
    (landmark : Landmark)
    (isFree : free landmark.place)
    (typed : progress.bound.draft.HasType landmark.id landmark.type) :
    Stands (landmark :: landmarks) held (fun other => free other ∧ other ≠ landmark.place)
      { progress with classes := (landmark.place, landmark.id) :: progress.classes } := by
  have noted := stands.note isFree landmark.id
  exact {
    orderly := noted.orderly
    noted := List.forall_mem_cons.2 ⟨List.lookup_cons_self, noted.noted⟩
    typed := List.forall_mem_cons.2 ⟨typed, noted.typed⟩
    holds := noted.holds
    free := noted.free }

/-- A class at the top of the package has the type of its name. -/
theorem hasType_withClass
    {draft : Draft}
    {package : String}
    (packages : draft.packages = [package])
    (name : String) :
    (draft.withClass (some ⟨name, ⟨0⟩, none, [], [], []⟩)).HasType ⟨draft.classes.length⟩
      (.reference package name) := by
  have defined : (draft.withClass (some ⟨name, ⟨0⟩, none, [], [], []⟩)).defined?
      ⟨draft.classes.length⟩ = some ⟨name, ⟨0⟩, none, [], [], []⟩ := by
    rw [Draft.defined?_withClass, if_pos rfl]
  refine ⟨_, name, package, defined, .outermost defined rfl, ?_, rfl⟩
  show draft.packages[0]? = some package
  rw [packages, List.getElem?_cons_zero]

theorem outcome_addClass
    (name : String)
    (package : PackageId)
    (enclosing : Option ClassId)
    (state : BindingState) :
    outcome (addClass name package enclosing) state =
      (.ok ⟨state.draft.classes.length⟩, { state with
        draft := state.draft.withClass (some ⟨name, package, enclosing, [], [], []⟩) }) := by
  show (Except.ok (state.draft.addClass name package enclosing).1, { state with
    draft := (state.draft.addClass name package enclosing).2 }) = _
  rw [Draft.addClass_eq]

/-- A class at the top is a landmark from then on. -/
theorem Follows.addTopClass
    {α β : Type}
    {setting : Setting}
    {landmarks : List Landmark}
    {free : Place → Prop}
    {post : α → β → Progress → Prop}
    {place : Place}
    {name : ExpandedName}
    {further : Walk α}
    {rest : ClassId × TypeRef → Binding β}
    (isFirst : setting.package = ⟨0⟩)
    (isFree : free place)
    (second : ∀ landmark : Landmark, landmark.place = place →
      Follows (Starts setting (landmark :: landmarks) fun other => free other ∧ other ≠ place)
        further (rest (landmark.id, landmark.type)) post) :
    Follows (Starts setting landmarks free)
      (do
        let id ← Walk.addClass (className name.localName) setting.package none
        Walk.note place id
        further)
      (Registry.addTopClass setting name >>= rest) post := by
  refine ⟨fun {progress} starts => ?_⟩
  let operation : Operation := .addClass (className name.localName) ⟨0⟩ none
  let landmark : Landmark := ⟨place, ⟨progress.bound.draft.classes.length⟩,
    .reference setting.packageName (className name.localName)⟩
  have performed : (progress.bound.draft.perform operation).2 = progress.bound.draft.withClass
      (some ⟨className name.localName, ⟨0⟩, none, [], [], []⟩) :=
    congrArg Prod.snd (progress.bound.draft.addClass_eq (className name.localName) ⟨0⟩ none)
  have orderly : (progress.bound.draft.perform operation).2.Orderly :=
    starts.orderly.perform trivial (List.forall_mem_singleton.2 starts.orderly.holds_package)
  have keeps := (progress.bound.draft.perform_step operation).keeps
  rw [performed] at orderly keeps
  have advanced : Stands landmarks [] free
      { progress with bound := { progress.bound with draft := _ } } :=
    starts.advance orderly keeps (List.forall_mem_nil _)
  have ends := (second landmark rfl).ends
    ⟨advanced.mark landmark isFree (hasType_withClass starts.packages _), starts.packages⟩
  rw [isFirst, Registry.addTopClass, isFirst, bind_assoc, Walk.outcome?_bind,
    (Enacts.addClass _ _ _).ends starts.orderly, outcome_bind, outcome_addClass]
  exact ends

/-! ## Declarations -/

/-- Whether two entries are those of one declaration at an element that has been visited. -/
structure Entered {α : Type} (visited : List Site) (related : ExpandedName → Site → α → Prop)
    (left : ExpandedName × Site) (right : ExpandedName × α) : Prop where
  name : left.1 = right.1
  visited : left.2 ∈ visited
  related : related left.1 left.2 right.2

/-- Whether the content that is to fill a class is that of a complex type, which the class is noted
for. -/
def IsBody (landmarks : List Landmark) (type : Site) (body : ClassId × List Content) : Prop :=
  ∃ landmark ∈ landmarks, landmark.place = type.place ∧
    body = (landmark.id, contents type.spot.scope type.spot.content)

/-- Whether what a walk and what the binding have noted of the elements visited so far belongs
together. -/
structure Records (setting : Setting) (landmarks : List Landmark) (visited : List Site)
    (declared : Declared) (registry : Registry) : Prop where
  types : List.Forall₂ (Entered visited fun name site definition =>
    name.namespaceName = setting.target ∧ DefinesType landmarks name site definition)
    declared.types registry.globals.types
  elements : List.Forall₂ (Entered visited fun _ site element =>
    site.construct? = some "element" ∧ DefinesElement landmarks site element)
    declared.elements registry.globals.elements
  attributes : List.Forall₂ (Entered visited fun _ site use =>
    site.construct? = some "attribute" ∧ use = site.use "type")
    declared.attributes registry.globals.attributes
  bodies : List.Forall₂ (IsBody landmarks) (visited.filterMap Site.topType?) registry.bodies

theorem DefinesType.mono
    {landmarks larger : List Landmark}
    (more : landmarks ⊆ larger)
    {name : ExpandedName}
    {site : Site}
    {definition : TypeDefinition}
    (defines : DefinesType landmarks name site definition) :
    DefinesType larger name site definition := by
  cases defines with
  | complex construct isLandmark => exact .complex construct (more isLandmark)
  | simple construct named => exact .simple construct named

theorem DefinesElement.mono
    {landmarks larger : List Landmark}
    (more : landmarks ⊆ larger)
    {site : Site}
    {element : ElementDefinition}
    (defines : DefinesElement landmarks site element) :
    DefinesElement larger site element where
  type := defines.type
  classType complexType isFirst := by
    obtain ⟨landmark, isLandmark, same⟩ := defines.classType complexType isFirst
    exact ⟨landmark, more isLandmark, same⟩
  noClass := defines.noClass

theorem IsBody.mono
    {landmarks larger : List Landmark}
    (more : landmarks ⊆ larger)
    {type : Site}
    {body : ClassId × List Content}
    (isBody : IsBody landmarks type body) :
    IsBody larger type body := by
  obtain ⟨landmark, isLandmark, same⟩ := isBody
  exact ⟨landmark, more isLandmark, same⟩

section Entries

variable {α : Type} {visited : List Site} {related other : ExpandedName → Site → α → Prop}
  {left : List (ExpandedName × Site)} {right : List (ExpandedName × α)}

theorem entered_mono
    (entered : List.Forall₂ (Entered visited related) left right)
    (site : Site)
    (implies : ∀ {name site definition}, related name site definition →
      other name site definition) :
    List.Forall₂ (Entered (visited ++ [site]) other) left right :=
  entered.imp fun _ _ both =>
    ⟨both.name, List.mem_append_left _ both.visited, implies both.related⟩

theorem entered_append
    (entered : List.Forall₂ (Entered visited related) left right)
    {name : ExpandedName}
    {site : Site}
    {definition : α}
    (isVisited : site ∈ visited)
    (isRelated : related name site definition) :
    List.Forall₂ (Entered visited related) (left ++ [(name, site)]) (right ++ [(name, definition)]) :=
  List.rel_append entered (.cons ⟨rfl, isVisited, isRelated⟩ .nil)

theorem map_fst_of_entered
    (entered : List.Forall₂ (Entered visited related) left right) :
    left.map Prod.fst = right.map Prod.fst := by
  induction entered with
  | nil => rfl
  | cons both _ inductionHypothesis =>
      rw [List.map_cons, List.map_cons, inductionHypothesis, both.name]

/-- Entries that belong together are found under the same names. -/
theorem sameNames_of_entered
    (entered : List.Forall₂ (Entered visited related) left right) :
    SameNames (fun name site definition => site ∈ visited ∧ related name site definition) left
      right := by
  intro name
  induction entered with
  | nil => exact .inl ⟨rfl, rfl⟩
  | @cons first second _ _ both _ inductionHypothesis =>
      obtain ⟨firstName, site⟩ := first
      obtain ⟨secondName, definition⟩ := second
      obtain rfl : firstName = secondName := both.name
      by_cases same : name = firstName
      · subst same
        exact .inr ⟨site, definition, List.lookup_cons_self, List.lookup_cons_self, both.visited,
          both.related⟩
      · rw [List.lookup_cons, List.lookup_cons, beq_false_of_ne same]
        exact inductionHypothesis

end Entries

namespace Records

variable {setting : Setting} {landmarks larger : List Landmark} {visited : List Site}
  {declared : Declared} {registry : Registry}

theorem nil
    (setting : Setting) :
    Records setting [] [] {} {} :=
  ⟨.nil, .nil, .nil, .nil⟩

/-- One more element is visited, with a class for its complex type if it has one. -/
theorem visit
    (records : Records setting landmarks visited declared registry)
    (site : Site)
    (more : landmarks ⊆ larger)
    {bodies : List (ClassId × List Content)}
    (isBody : List.Forall₂ (IsBody larger) site.topType?.toList bodies) :
    Records setting larger (visited ++ [site]) declared
      { registry with bodies := registry.bodies ++ bodies } where
  types := entered_mono records.types site fun ⟨target, defines⟩ => ⟨target, defines.mono more⟩
  elements := entered_mono records.elements site fun ⟨construct, defines⟩ =>
    ⟨construct, defines.mono more⟩
  attributes := entered_mono records.attributes site id
  bodies := by
    rw [List.filterMap_append]
    refine List.rel_append (records.bodies.imp fun _ _ => IsBody.mono more) ?_
    cases isTop : site.topType? <;> simpa [isTop] using isBody

/-- One more element is visited, without a complex type that a class is created for. -/
theorem visitOther
    (records : Records setting landmarks visited declared registry)
    {site : Site}
    (noType : site.topType? = none) :
    Records setting landmarks (visited ++ [site]) declared registry := by
  have isBody : List.Forall₂ (IsBody landmarks) site.topType?.toList [] := by
    rw [noType]
    exact .nil
  have visited := records.visit site (List.Subset.refl _) isBody
  rwa [List.append_nil] at visited

theorem withType
    (records : Records setting landmarks visited declared registry)
    {name : ExpandedName}
    {site : Site}
    {definition : TypeDefinition}
    (isVisited : site ∈ visited)
    (target : name.namespaceName = setting.target)
    (defines : DefinesType landmarks name site definition) :
    Records setting landmarks visited { declared with types := declared.types ++ [(name, site)] }
      { registry with globals := { registry.globals with
          types := registry.globals.types ++ [(name, definition)] } } where
  types := entered_append records.types isVisited ⟨target, defines⟩
  elements := records.elements
  attributes := records.attributes
  bodies := records.bodies

theorem withElement
    (records : Records setting landmarks visited declared registry)
    (name : ExpandedName)
    {site : Site}
    {element : ElementDefinition}
    (isVisited : site ∈ visited)
    (construct : site.construct? = some "element")
    (defines : DefinesElement landmarks site element) :
    Records setting landmarks visited
      { declared with elements := declared.elements ++ [(name, site)] }
      { registry with globals := { registry.globals with
          elements := registry.globals.elements ++ [(name, element)] } } where
  types := records.types
  elements := entered_append records.elements isVisited ⟨construct, defines⟩
  attributes := records.attributes
  bodies := records.bodies

theorem withAttribute
    (records : Records setting landmarks visited declared registry)
    (name : ExpandedName)
    {site : Site}
    (isVisited : site ∈ visited)
    (construct : site.construct? = some "attribute") :
    Records setting landmarks visited
      { declared with attributes := declared.attributes ++ [(name, site)] }
      { registry with globals := { registry.globals with
          attributes := registry.globals.attributes ++ [(name, site.use "type")] } } where
  types := records.types
  elements := records.elements
  attributes := entered_append records.attributes isVisited ⟨construct, rfl⟩
  bodies := records.bodies

end Records

/-! ## The first pass -/

/-- The places at which none of the elements visited so far has a complex type that a class is created
for. -/
def Unnoted (visited : List Site) (place : Place) : Prop :=
  ∀ type ∈ visited.filterMap Site.topType?, type.place ≠ place

/-- What a walk and a run of the binding have come to in the first pass. -/
def Registers (setting : Setting) (visited : List Site) (declared : Declared)
    (registry : Registry) (progress : Progress) : Prop :=
  ∃ landmarks, Starts setting landmarks (Unnoted visited) progress ∧
    Records setting landmarks visited declared registry

/-- The complex type of a declaration is at the declaration or inside it. -/
theorem Site.covers_of_topType?
    {site type : Site}
    (isTop : site.topType? = some type) :
    site.Covers type.place := by
  unfold topType? first? at isTop
  split_ifs at isTop
  · obtain rfl := Option.some.inj isTop
    exact List.prefix_rfl
  · obtain ⟨child, _, rfl⟩ := Option.map_eq_some_iff.1 isTop
    exact List.prefix_append _ _

theorem Site.not_simple_of_topType?
    {site type : Site}
    (isTop : site.topType? = some type) :
    site.construct? ≠ some "simpleType" := by
  intro isSimple
  simp [topType?, isSimple] at isTop

theorem unnoted_of_append
    {visited : List Site}
    {site : Site}
    {place : Place}
    (unnoted : Unnoted (visited ++ [site]) place) :
    Unnoted visited place := by
  intro type member
  refine unnoted type ?_
  rw [List.filterMap_append]
  exact List.mem_append_left _ member

theorem ne_of_unnoted_append
    {visited : List Site}
    {site type : Site}
    {place : Place}
    (isTop : site.topType? = some type)
    (unnoted : Unnoted (visited ++ [site]) place) :
    place ≠ type.place := by
  have isVisited : site ∈ visited ++ [site] := List.mem_append_right _ List.mem_cons_self
  exact (unnoted type (List.mem_filterMap.2 ⟨site, isVisited, isTop⟩)).symm

/-- A place at which none of the elements so far has a complex type is not that of one of an element
which it is outside of. -/
theorem Unnoted.append
    {visited : List Site}
    {site : Site}
    {place : Place}
    (unnoted : Unnoted visited place)
    (outside : ¬site.Covers place) :
    Unnoted (visited ++ [site]) place := by
  intro type member same
  rw [List.filterMap_append, List.mem_append] at member
  rcases member with among | isLast
  · exact unnoted type among same
  · obtain ⟨last, isSite, isTop⟩ := List.mem_filterMap.1 isLast
    obtain rfl := List.mem_singleton.1 isSite
    exact outside (same ▸ Site.covers_of_topType? isTop)

section Register

variable {setting : Setting} {landmarks : List Landmark} {visited : List Site}
  {declared : Declared} {registry : Registry} {site : Site}

/-- Whether a walk notes a declaration as the binding does, with one more element visited. -/
def NotesAlike (setting : Setting) (landmarks : List Landmark) (visited : List Site)
    (declared : Declared) (registry : Registry) (site : Site) (declaration : Declaration) : Prop :=
  Follows (Starts setting landmarks (Unnoted visited)) (Site.register setting declared site)
    (Registry.register setting registry declaration) (Registers setting (visited ++ [site]))

theorem notesAlike_complexType
    (isFirst : setting.package = ⟨0⟩)
    (records : Records setting landmarks visited declared registry)
    (isFree : Unnoted visited site.place)
    (construct : site.construct? = some "complexType") :
    NotesAlike setting landmarks visited declared registry site
      (.complexType site.name (contents site.spot.scope site.spot.content)) := by
  have isTop : site.topType? = some site := if_pos construct
  unfold NotesAlike
  rw [Site.register, construct, Registry.register]
  dsimp only
  refine .declaredName fun name isName => ?_
  refine .still (.checkOverwrite setting _) (draft_checkOverwrite setting _)
    (fun _ _ => admissible_of_checkOverwrite) ?_
  refine .addTopClass isFirst isFree fun landmark isPlace => ?_
  refine .insertNew (map_fst_of_entered records.types) (.pure fun starts => ?_)
  refine ⟨landmark :: landmarks, starts.weaken fun place unnoted =>
    ⟨unnoted_of_append unnoted, ne_of_unnoted_append isTop unnoted⟩, ?_⟩
  have isBody : List.Forall₂ (IsBody (landmark :: landmarks)) site.topType?.toList
      [(landmark.id, contents site.spot.scope site.spot.content)] := by
    rw [isTop]
    exact .cons ⟨landmark, List.mem_cons_self, isPlace, rfl⟩ .nil
  refine (records.visit site (List.subset_cons_self _ _) isBody).withType
    (List.mem_append_right _ List.mem_cons_self) rfl (.complex construct ?_)
  rw [← isPlace]
  exact List.mem_cons_self

theorem notesAlike_simpleType
    (records : Records setting landmarks visited declared registry)
    (construct : site.construct? = some "simpleType") :
    NotesAlike setting landmarks visited declared registry site
      (.simpleType site.name (simpleType site.spot.scope site.spot.content)) := by
  have noType : site.topType? = none := by simp [Site.topType?, construct]
  unfold NotesAlike
  rw [Site.register, construct, Registry.register]
  dsimp only
  refine .declaredName fun name isName => ?_
  refine .still (.checkOverwrite setting _) (draft_checkOverwrite setting _)
    (fun _ _ => admissible_of_checkOverwrite) ?_
  refine .insertNew (map_fst_of_entered records.types) (.pure fun starts => ?_)
  exact ⟨landmarks, starts.weaken fun _ => unnoted_of_append,
    (records.visitOther noType).withType (List.mem_append_right _ List.mem_cons_self) rfl
      (.simple construct isName)⟩

theorem notesAlike_attribute
    (records : Records setting landmarks visited declared registry)
    (construct : site.construct? = some "attribute") :
    NotesAlike setting landmarks visited declared registry site
      (.attributeType site.name (site.use "type")) := by
  have noType : site.topType? = none := by simp [Site.topType?, construct]
  unfold NotesAlike
  rw [Site.register, construct, Registry.register]
  dsimp only
  refine .declaredName fun name _ => ?_
  refine .insertNew (map_fst_of_entered records.attributes) (.pure fun starts => ?_)
  exact ⟨landmarks, starts.weaken fun _ => unnoted_of_append,
    (records.visitOther noType).withAttribute _ (List.mem_append_right _ List.mem_cons_self)
      construct⟩

theorem notesAlike_element
    (isFirst : setting.package = ⟨0⟩)
    (records : Records setting landmarks visited declared registry)
    (isFree : ∀ place, site.Covers place → Unnoted visited place)
    (construct : site.construct? = some "element") :
    NotesAlike setting landmarks visited declared registry site
      (.element site.name (site.use "type") (body? site.spot.scope site.spot.content)) := by
  have isTop : site.topType? = site.first? ["complexType"] := by simp [Site.topType?, construct]
  have isVisited : site ∈ visited ++ [site] := List.mem_append_right _ List.mem_cons_self
  unfold NotesAlike
  rw [Site.register, construct, body?_eq]
  dsimp only
  cases isType : site.first? ["complexType"] with
  | none =>
      rw [isType] at isTop
      have noBody : firstComplexType? site.spot = none := Option.map_eq_none_iff.1 isType
      rw [noBody, Option.map_none, Registry.register]
      refine .declaredName fun name _ => ?_
      refine .insertNew (map_fst_of_entered records.elements) (.pure fun starts => ?_)
      refine ⟨landmarks, starts.weaken fun _ => unnoted_of_append,
        (records.visitOther isTop).withElement _ isVisited construct ⟨rfl, ?_, fun _ => rfl⟩⟩
      intro type isOther
      rw [isType] at isOther
      cases isOther
  | some type =>
      rw [isType] at isTop
      obtain ⟨child, isChild, rfl⟩ := Option.map_eq_some_iff.1 isType
      have hasBody : firstComplexType? site.spot = some child := isChild
      rw [hasBody, Option.map_some, Registry.register]
      refine .declaredName fun name _ => ?_
      refine .addTopClass isFirst (isFree _ (Site.covers_of_topType? isTop))
        fun landmark isPlace => ?_
      refine .insertNew (map_fst_of_entered records.elements) (.pure fun starts => ?_)
      refine ⟨landmark :: landmarks, starts.weaken fun place unnoted =>
        ⟨unnoted_of_append unnoted, ne_of_unnoted_append isTop unnoted⟩, ?_⟩
      have isBody : List.Forall₂ (IsBody (landmark :: landmarks)) site.topType?.toList
          [(landmark.id, contents child.2.scope child.2.content)] := by
        rw [isTop]
        exact .cons ⟨landmark, List.mem_cons_self, isPlace, rfl⟩ .nil
      refine (records.visit site (List.subset_cons_self _ _) isBody).withElement _ isVisited construct
        ⟨rfl, ?_, ?_⟩
      · intro other isOther
        rw [isType] at isOther
        obtain rfl := Option.some.inj isOther
        exact ⟨landmark, List.mem_cons_self, isPlace, rfl⟩
      · intro noType
        rw [isType] at noType
        cases noType

variable {root : Site} {child : Nat × Spot}

theorem follows_register_other
    (records : Records setting landmarks visited declared registry)
    (noComplex : constructOf? child.2.tag ≠ some "complexType")
    (noSimple : constructOf? child.2.tag ≠ some "simpleType")
    (noElement : constructOf? child.2.tag ≠ some "element")
    (noAttribute : constructOf? child.2.tag ≠ some "attribute") :
    Follows (Starts setting landmarks (Unnoted visited))
      (Site.register setting declared (root.inside child)) (registerAt setting registry child)
      (Registers setting (visited ++ [root.inside child])) := by
  have noType : (root.inside child).topType? = none := by
    simp [Site.topType?, Site.construct?_inside, noComplex, noElement]
  have passed : ∀ {progress}, Starts setting landmarks (Unnoted visited) progress →
      Registers setting (visited ++ [root.inside child]) declared registry progress := fun starts =>
    ⟨landmarks, starts.weaken fun _ => unnoted_of_append, records.visitOther noType⟩
  have warned : ∀ warning, Follows (Starts setting landmarks (Unnoted visited))
      (do
        Walk.warn warning
        return declared)
      (do
        warn warning
        return registry)
      (Registers setting (visited ++ [root.inside child])) := fun _ =>
    .still (.warn _) (fun _ => rfl) nofun (.pure passed)
  unfold Site.register registerAt
  rw [Site.construct?_inside]
  split
  next isComplex => exact absurd isComplex noComplex
  next isSimple => exact absurd isSimple noSimple
  next isElement => exact absurd isElement noElement
  next isAttribute => exact absurd isAttribute noAttribute
  next isNone =>
    rw [declarationAt?, isNone]
    exact .pure passed
  next isAnnotation =>
    rw [declarationAt?, isAnnotation]
    exact .pure passed
  next isNotation =>
    rw [declarationAt?, isNotation]
    exact .pure passed
  next isContent =>
    rw [declarationAt?, isContent]
    exact .pure passed
  next other _ _ _ _ _ _ _ isOther =>
    have declares : declarationAt? child.2 =
        if other ∈ ["import", "include", "redefine", "override"] then
          some (.external other (child.2.tag.attribute? "schemaLocation"))
        else some (.unsupported other) := by
      unfold declarationAt?
      rw [isOther]
      split <;> simp_all
    split_ifs with isReference
    · rw [declares, if_pos isReference]
      exact warned _
    · rw [declares, if_neg isReference]
      exact warned _

/-- A walk notes every declaration as the binding does. -/
theorem follows_register
    (isFirst : setting.package = ⟨0⟩)
    (isFree : ∀ place, (root.inside child).Covers place → Unnoted visited place) :
    Follows (Registers setting visited declared registry)
      (Site.register setting declared (root.inside child)) (registerAt setting registry child)
      (Registers setting (visited ++ [root.inside child])) := by
  suffices each : ∀ landmarks, Records setting landmarks visited declared registry →
      Follows (Starts setting landmarks (Unnoted visited))
        (Site.register setting declared (root.inside child)) (registerAt setting registry child)
        (Registers setting (visited ++ [root.inside child])) from
    ⟨fun ⟨landmarks, starts, records⟩ => (each landmarks records).ends starts⟩
  intro landmarks records
  by_cases isComplex : constructOf? child.2.tag = some "complexType"
  · rw [registerAt, declarationAt?, isComplex]
    exact notesAlike_complexType isFirst records (isFree _ List.prefix_rfl) isComplex
  by_cases isSimple : constructOf? child.2.tag = some "simpleType"
  · rw [registerAt, declarationAt?, isSimple]
    exact notesAlike_simpleType records isSimple
  by_cases isElement : constructOf? child.2.tag = some "element"
  · rw [registerAt, declarationAt?, isElement]
    exact notesAlike_element isFirst records isFree isElement
  by_cases isAttribute : constructOf? child.2.tag = some "attribute"
  · rw [registerAt, declarationAt?, isAttribute]
    exact notesAlike_attribute records isAttribute
  · exact follows_register_other records isComplex isSimple isElement isAttribute

/-- A walk notes the declarations one after the other as the binding does. -/
theorem follows_registerAll
    (isFirst : setting.package = ⟨0⟩)
    {children : List (Nat × Spot)}
    (sorted : children.Pairwise fun left right => left.1 < right.1)
    (isFree : ∀ child ∈ children, ∀ place, (root.inside child).Covers place →
      Unnoted visited place) :
    Follows (Registers setting visited declared registry)
      ((children.map root.inside).foldlM (Site.register setting) declared)
      (children.foldlM (registerAt setting) registry)
      (Registers setting (visited ++ children.map root.inside)) := by
  induction children generalizing visited declared registry with
  | nil =>
      rw [List.map_nil, List.append_nil, List.foldlM_nil, List.foldlM_nil]
      exact .pure id
  | cons child rest inductionHypothesis =>
      obtain ⟨firstBefore, restSorted⟩ := List.pairwise_cons.1 sorted
      obtain ⟨firstFree, restFree⟩ := List.forall_mem_cons.1 isFree
      rw [List.map_cons, List.foldlM_cons, List.foldlM_cons, List.append_cons]
      refine (follows_register isFirst firstFree).bind fun declared registry => ?_
      -- Later elements have no places in common with this one, so theirs are still free.
      refine inductionHypothesis restSorted fun other isOther place covers => ?_
      exact (restFree other isOther place covers).append fun firstCovers =>
        Visits.not_covers_of_lt (firstBefore other isOther) firstCovers covers

end Register

/-! ## What is known after the first pass -/

/-- Elements directly inside another one have no places in common. -/
theorem Site.children_apart
    (site : Site) :
    site.children.Pairwise fun left right => ∀ place, left.Covers place → ¬right.Covers place :=
  List.pairwise_map.2 (site.spot.children_sorted.imp fun before _ => Visits.not_covers_of_lt before)

theorem Site.eq_of_covers
    {site left right : Site}
    (isLeft : left ∈ site.children)
    (isRight : right ∈ site.children)
    {place : Place}
    (leftCovers : left.Covers place)
    (rightCovers : right.Covers place) :
    left = right := by
  by_contra differ
  have symmetric : Std.Symm fun left right : Site =>
      ∀ place, left.Covers place → ¬right.Covers place :=
    ⟨fun _ _ apart place first second => apart place second first⟩
  exact site.children_apart.forall isLeft isRight differ place leftCovers rightCovers

theorem SameNames.imp
    {First Second : Type}
    {related other : ExpandedName → First → Second → Prop}
    {first : List (ExpandedName × First)}
    {second : List (ExpandedName × Second)}
    (sameNames : SameNames related first second)
    (implies : ∀ {name left right}, related name left right → other name left right) :
    SameNames other first second :=
  fun name => (sameNames name).imp_right fun ⟨left, right, isLeft, isRight, holds⟩ =>
    ⟨left, right, isLeft, isRight, implies holds⟩

section Registered

variable {setting : Setting} {landmarks : List Landmark} {root : Site} {declared : Declared}
  {registry : Registry}

theorem Records.of_hasSimple
    {visited : List Site}
    (records : Records setting landmarks visited declared registry)
    {name : ExpandedName}
    {site : Site}
    (isSimple : declared.HasSimple name site) :
    site ∈ visited ∧ name.namespaceName = setting.target ∧
      site.spot.tag.attribute? "name" = some name.localName := by
  rcases sameNames_of_entered records.types name with ⟨undeclared, _⟩ |
    ⟨found, definition, isFound, _, isVisited, target, defines⟩
  · rw [isSimple.found] at undeclared
    cases undeclared
  · rw [isSimple.found] at isFound
    obtain rfl := Option.some.inj isFound
    refine ⟨isVisited, target, ?_⟩
    cases defines with
    | complex construct _ => exact absurd (isSimple.construct.symm.trans construct) (by decide)
    | simple _ named => exact named

/-- What is not declared as a simple type has no simple type that is declared around it or inside
it. -/
theorem Records.meets
    (records : Records setting landmarks root.children declared registry)
    {site : Site}
    (isChild : site ∈ root.children)
    (notSimple : site.construct? ≠ some "simpleType")
    {place : Place}
    (covers : site.Covers place) :
    declared.Meets [] place := by
  refine ⟨fun {name other further} isSimple otherCovers within => ?_⟩
  obtain rfl := Site.eq_of_covers (records.of_hasSimple isSimple).1 isChild otherCovers
    (covers.trans within)
  exact absurd isSimple.construct notSimple

/-- What a walk has noted when all elements at the top have been visited is what the binding has read
from the document. -/
theorem Records.reflects
    (records : Records setting landmarks root.children declared registry) :
    Reflects landmarks declared registry.globals where
  types := (sameNames_of_entered records.types).imp fun ⟨_, _, defines⟩ => defines
  elements := (sameNames_of_entered records.elements).imp fun ⟨isChild, construct, defines⟩ =>
    ⟨records.meets isChild (by simp [construct]) List.prefix_rfl, defines⟩
  attributes := (sameNames_of_entered records.attributes).imp fun ⟨isChild, construct, same⟩ =>
    ⟨records.meets isChild (by simp [construct]) List.prefix_rfl, same⟩
  apart {first second left right further} isLeft isRight leftCovers rightCovers := by
    obtain ⟨leftChild, leftTarget, leftNamed⟩ := records.of_hasSimple isLeft
    obtain ⟨rightChild, rightTarget, rightNamed⟩ := records.of_hasSimple isRight
    obtain rfl := Site.eq_of_covers leftChild rightChild leftCovers rightCovers
    have sameLocal : first.localName = second.localName :=
      Option.some.inj (leftNamed.symm.trans rightNamed)
    cases first
    cases second
    cases leftTarget
    cases rightTarget
    cases sameLocal
    rfl

end Registered

end Schema
end SchemaBinding
