import SchemaBinding.Proofs.Contributions
import SchemaBinding.Proofs.Reordering
import SchemaBinding.Proofs.WalksInStep

/-!
# Types met on walks

Following names through a document leads to the types that the declarations read from it lead to.
A walk recognizes the simple types that have led it somewhere by their places, whether they have
names or not, and the resolution of declarations knows those with names only.  Both find the same
circles, since every circle leads through a declaration at the top.
-/

namespace SchemaBinding
namespace Schema

open Binding (need)
open Xml (Place Spot)

/-! ## Faults of a document -/

theorem admissible_of_kind
    {error : SchemaError}
    (notOfModel : ∀ kind, error.kind ≠ .model kind) :
    error.Admissible := by
  rintro fault rfl
  exact absurd rfl (notOfModel fault.kind)

theorem isClean_required
    (tag : Xml.Tag)
    (attributeName : String) :
    IsClean (required tag attributeName) := by
  intro error isError
  unfold required at isError
  split at isError
  · cases isError
  · cases isError
    exact admissible_of_kind nofun

theorem isClean_resolveName
    (scope : Xml.Scope)
    (source : String) :
    IsClean (resolveName scope source) := by
  intro error isError
  unfold resolveName at isError
  dsimp only at isError
  split at isError
  · cases isError
  · split_ifs at isError
    split at isError
    · cases isError
    · cases isError
      exact admissible_of_kind nofun

theorem isClean_baseAt
    (derivation : Spot) :
    IsClean (baseAt derivation) := by
  intro error isError
  unfold baseAt requiredReference at isError
  cases isRequired : required derivation.tag "base" with
  | error other =>
      rw [isRequired] at isError
      cases isError
      exact isClean_required _ _ _ isRequired
  | ok source =>
      rw [isRequired] at isError
      exact isClean_resolveName _ _ _ isError

theorem isClean_repeated
    (tag : Xml.Tag) :
    IsClean (repeated tag) := by
  intro error isError
  unfold repeated at isError
  split at isError
  · cases isError
  · unfold allowsMany at isError
    dsimp only at isError
    split_ifs at isError
    split at isError
    · split_ifs at isError
      cases isError
      exact admissible_of_kind nofun
    · cases isError
      exact admissible_of_kind nofun

theorem isClean_reference?
    {site : Site}
    {attributeName : String}
    {name : Deferred ExpandedName}
    (isReference : site.reference? attributeName = some name) :
    IsClean name := by
  obtain ⟨source, _, rfl⟩ := Option.map_eq_some_iff.1 isReference
  exact isClean_resolveName _ source

/-! ## Answers -/

/-- Whether a walk only finds out a result: it ends where it was, and in an error only if the error
is admissible. -/
structure Answers {α : Type} (progress : Progress) (walk : Walk α)
    (result : Except SchemaError α) : Prop where
  ends : walk.outcome? progress.walked = some (result.mapError .failed, progress.walked)
  clean : IsClean result

namespace Answers

variable {α β : Type} {progress : Progress}

theorem pure
    (value : α) :
    Answers progress (Pure.pure value) (.ok value) :=
  ⟨rfl, nofun⟩

theorem throw
    {error : SchemaError}
    (admissible : error.Admissible) :
    Answers progress (MonadExcept.throw (Halt.failed error) : Walk α) (.error error) := by
  refine ⟨rfl, fun other isOther => ?_⟩
  cases isOther
  exact admissible

theorem need
    {part : Deferred α}
    (clean : IsClean part) :
    Answers progress (Walk.need part) part := by
  refine ⟨?_, clean⟩
  cases part <;> rfl

theorem bind
    {walk : Walk α}
    {result : Except SchemaError α}
    {further : α → Walk β}
    {rest : α → Except SchemaError β}
    (first : Answers progress walk result)
    (second : ∀ value, result = .ok value → Answers progress (further value) (rest value)) :
    Answers progress (walk >>= further) (result >>= rest) := by
  have ends := Walk.outcome?_bind walk further progress.walked
  rw [first.ends, Option.bind_some] at ends
  cases result with
  | error error =>
      refine ⟨ends, fun other isOther => ?_⟩
      cases isOther
      exact first.clean error rfl
  | ok value => exact ⟨ends.trans (second value rfl).ends, (second value rfl).clean⟩

end Answers

/-- A walk goes on with what it has found out. -/
theorem Visits.afterAnswers
    {α β : Type}
    {landmarks : List Landmark}
    {held : List ClassId}
    {region : Place → Prop}
    {walk : Walk α}
    {part : Deferred α}
    {further : α → Walk β}
    {rest : α → Binding β}
    (answers : ∀ {free progress}, Stands landmarks held free progress → Answers progress walk part)
    (second : ∀ value, part = .ok value →
      Visits landmarks held region (further value) (rest value)) :
    Visits landmarks held region (walk >>= further) (Binding.need part >>= rest) := by
  refine ⟨fun left apart => ⟨fun {progress} stands => ?_⟩⟩
  have answered := answers stands
  rw [Walk.outcome?_bind, answered.ends, outcome_bind]
  cases part with
  | error error => exact .error (answered.clean error rfl)
  | ok value => exact ((second value rfl).follows left apart).ends stands

theorem Visits.of_answers
    {α : Type}
    {landmarks : List Landmark}
    {held : List ClassId}
    {region : Place → Prop}
    {walk : Walk α}
    {part : Deferred α}
    (answers : ∀ {free progress}, Stands landmarks held free progress → Answers progress walk part) :
    Visits landmarks held region walk (Binding.need part) := by
  rw [← bind_pure walk, ← bind_pure (Binding.need part)]
  exact .afterAnswers answers fun value _ => .pure value

/-! ## What is declared -/

/-- What a type that is declared at an element is bound to. -/
inductive DefinesType (landmarks : List Landmark) (name : ExpandedName) (site : Site) :
    TypeDefinition → Prop
  /-- A complex type, with its class. -/
  | complex {id : ClassId} {type : TypeRef} (construct : site.construct? = some "complexType")
      (isLandmark : ⟨site.place, id, type⟩ ∈ landmarks) :
      DefinesType landmarks name site (.complex id type)
  /-- A simple type. -/
  | simple (construct : site.construct? = some "simpleType")
      (named : site.spot.tag.attribute? "name" = some name.localName) :
      DefinesType landmarks name site (.simple (simpleType site.spot.scope site.spot.content))

/-- Whether two tables have definitions that belong together under the same names. -/
def SameNames {First Second : Type} (related : ExpandedName → First → Second → Prop)
    (first : List (ExpandedName × First)) (second : List (ExpandedName × Second)) : Prop :=
  ∀ name, (first.lookup name = none ∧ second.lookup name = none) ∨
    ∃ left right, first.lookup name = some left ∧ second.lookup name = some right ∧
      related name left right

namespace Declared

/-- Whether a simple type is declared at an element. -/
structure HasSimple (declared : Declared) (name : ExpandedName) (site : Site) : Prop where
  found : declared.types.lookup name = some site
  construct : site.construct? = some "simpleType"

/-- Whether the simple types that are declared around a place or inside it are among some. -/
structure Meets (declared : Declared) (names : List ExpandedName) (place : Place) : Prop where
  among : ∀ {name site further}, declared.HasSimple name site → site.Covers further →
    place <+: further → name ∈ names

theorem Meets.inside
    {declared : Declared}
    {names : List ExpandedName}
    {site : Site}
    (meets : declared.Meets names site.place)
    (child : Nat × Spot) :
    declared.Meets names (site.inside child).place :=
  ⟨fun isSimple covers within => meets.among isSimple covers ((List.prefix_append _ _).trans within)⟩

end Declared

/-- What an element that is declared at another one is bound to. -/
structure DefinesElement (landmarks : List Landmark) (site : Site) (element : ElementDefinition) :
    Prop where
  type : element.type = site.use "type"
  classType : ∀ complexType, site.first? ["complexType"] = some complexType →
    ∃ landmark ∈ landmarks, landmark.place = complexType.place ∧
      element.classType = some landmark.type
  noClass : site.first? ["complexType"] = none → element.classType = none

/-- Whether the declarations that a walk knows by their elements are those that the binding has read
from the document. -/
structure Reflects (landmarks : List Landmark) (declared : Declared) (globals : Globals) :
    Prop where
  types : SameNames (DefinesType landmarks) declared.types globals.types
  elements : SameNames (fun _ site element => declared.Meets [] site.place ∧
    DefinesElement landmarks site element) declared.elements globals.elements
  attributes : SameNames (fun _ site use => declared.Meets [] site.place ∧ use = site.use "type")
    declared.attributes globals.attributes
  apart : ∀ {first second left right further}, declared.HasSimple first left →
    declared.HasSimple second right → left.Covers further → right.Covers further → first = second

/-- Whether the places that have led a walk somewhere are, as far as they are those of declared types,
the ones that are pending. -/
structure Tracks (declared : Declared) (pending : List ExpandedName) (resolving : List Place) :
    Prop where
  noted : ∀ {name site}, declared.HasSimple name site → name ∈ pending → site.place ∈ resolving
  meets : ∀ place ∈ resolving, declared.Meets pending place

/-- Whether no place is that of an element or inside it. -/
def Site.Avoids (site : Site) (places : List Place) : Prop :=
  ∀ place ∈ places, ¬site.Covers place

theorem Tracks.nil
    (declared : Declared) :
    Tracks declared [] [] where
  noted _ isPending := absurd isPending List.not_mem_nil
  meets _ member := absurd member List.not_mem_nil

theorem Tracks.cons
    {declared : Declared}
    {pending : List ExpandedName}
    {resolving : List Place}
    (tracks : Tracks declared pending resolving)
    {place : Place}
    (meets : declared.Meets pending place) :
    Tracks declared pending (place :: resolving) where
  noted isSimple isPending := List.mem_cons_of_mem _ (tracks.noted isSimple isPending)
  meets := List.forall_mem_cons.2 ⟨meets, tracks.meets⟩

/-! ## Resolution -/

section Resolution

variable {landmarks : List Landmark} {declared : Declared} {globals : Globals}
  {held : List ClassId} {free : Place → Prop} {progress : Progress}

/-- A simple type that is declared and not pending is resolved next. -/
theorem Reflects.tracks_cons
    (reflects : Reflects landmarks declared globals)
    {pending : List ExpandedName}
    {resolving : List Place}
    (tracks : Tracks declared pending resolving)
    {name : ExpandedName}
    {site : Site}
    (isSimple : declared.HasSimple name site) :
    Tracks declared (name :: pending) (site.place :: resolving) where
  noted := by
    intro other otherSite isOther isPending
    rcases List.mem_cons.1 isPending with rfl | earlier
    · have same := isOther.found.symm.trans isSimple.found
      rw [Option.some.inj same]
      exact List.mem_cons_self
    · exact List.mem_cons_of_mem _ (tracks.noted isOther earlier)
  meets := by
    refine List.forall_mem_cons.2 ⟨⟨fun isOther covers within => ?_⟩, fun place member => ?_⟩
    · rw [reflects.apart isOther isSimple covers within]
      exact List.mem_cons_self
    · exact ⟨fun isOther covers within =>
        List.mem_cons_of_mem _ ((tracks.meets place member).among isOther covers within)⟩

theorem Tracks.avoids
    {pending : List ExpandedName}
    {resolving : List Place}
    (tracks : Tracks declared pending resolving)
    {name : ExpandedName}
    {site : Site}
    (isSimple : declared.HasSimple name site)
    (fresh : name ∉ pending) :
    site.Avoids resolving :=
  fun place member covers =>
    fresh ((tracks.meets place member).among isSimple covers List.prefix_rfl)

theorem Site.avoids_nil
    (site : Site) :
    site.Avoids [] :=
  fun _ member => absurd member List.not_mem_nil

theorem Site.Avoids.inside
    {site : Site}
    {resolving : List Place}
    (avoids : site.Avoids resolving)
    (child : Nat × Spot) :
    (site.inside child).Avoids resolving :=
  fun place member covers => avoids place member ((List.prefix_append _ _).trans covers)

theorem resolveUse_named
    (pending : List ExpandedName)
    (name : Deferred ExpandedName) :
    globals.resolveUse pending (.named name) =
      name >>= fun name => globals.resolveUse pending (.named (.ok name)) := by
  cases name with
  | ok name => rfl
  | error error =>
      rw [Globals.resolveUse]
      rfl

theorem answers_noted?
    {α : Type}
    (stands : Stands landmarks held free progress)
    {landmark : Landmark}
    (isLandmark : landmark ∈ landmarks)
    {further : Option ClassId → Walk α}
    {result : Except SchemaError α}
    (answers : Answers progress (further (some landmark.id)) result) :
    Answers progress (Walk.noted? landmark.place >>= further) result := by
  refine ⟨?_, answers.clean⟩
  rw [Visits.outcome?_noted?_bind, stands.noted landmark isLandmark]
  exact answers.ends

theorem answers_classAt
    {α : Type}
    (stands : Stands landmarks held free progress)
    {landmark : Landmark}
    (isLandmark : landmark ∈ landmarks)
    {further : ClassId → Walk α}
    {result : Except SchemaError α}
    (answers : Answers progress (further landmark.id) result) :
    Answers progress (Walk.classAt landmark.place >>= further) result := by
  rw [Walk.classAt, bind_assoc]
  apply answers_noted? stands isLandmark
  rwa [pure_bind]

theorem answers_typeOf
    (stands : Stands landmarks held free progress)
    {landmark : Landmark}
    (isLandmark : landmark ∈ landmarks) :
    Answers progress (Walk.typeOf landmark.id) (.ok landmark.type) := by
  refine ⟨?_, nofun⟩
  rw [(Enacts.typeOf landmark.id).ends stands.orderly, outcome_typeOf,
    stands.typeOf_landmark isLandmark]
  rfl

theorem sizeOf_pos
    (nodes : List Xml.Node) :
    0 < sizeOf nodes := by
  cases nodes with
  | nil => decide
  | cons node rest =>
      rw [List.cons.sizeOf_spec]
      omega

mutual

theorem answers_resolveType
    (reflects : Reflects landmarks declared globals)
    (stands : Stands landmarks held free progress)
    {pending : List ExpandedName}
    {resolving : List Place}
    (tracks : Tracks declared pending resolving)
    (name : ExpandedName) :
    Answers progress (Declared.resolveType declared resolving name)
      (globals.resolveUse pending (.named (.ok name))) := by
  rw [Declared.resolveType]
  rcases reflects.types name with ⟨undeclared, noType⟩ | ⟨site, definition, isDeclared, isType, same⟩
  · rw [undeclared, resolveUse_of_undeclared noType]
    dsimp only
    cases builtinType? name with
    | none => exact .throw (admissible_of_kind nofun)
    | some type => exact .pure type
  · rw [isDeclared]
    dsimp only
    cases same with
    | complex construct isLandmark =>
        rw [if_pos construct, resolveUse_of_complex isType]
        exact answers_classAt stands isLandmark (answers_typeOf stands isLandmark)
    | simple construct named =>
        have isSimple : declared.HasSimple name site := ⟨isDeclared, construct⟩
        rw [resolveUse_of_simple isType, if_neg (by rw [construct]; decide)]
        -- A name that is pending has led here before, so the place of its declaration has too.
        by_cases isPending : name ∈ pending
        · rw [if_pos isPending, Declared.resolveSimpleType,
            if_pos (tracks.noted isSimple isPending), named]
          exact .throw (admissible_of_kind nofun)
        · rw [if_neg isPending]
          exact answers_resolveSimpleType reflects stands (reflects.tracks_cons tracks isSimple)
            (tracks.avoids isSimple isPending)
-- A name that is followed is pending from then on, and on the way to the next name elements get
-- smaller; so circles among the declarations do not keep the walk going.
termination_by ((globals.unresolved pending).length, 0)
decreasing_by
  exact .left _ _ (globals.length_unresolved_cons_lt pending isType isPending)

theorem answers_typeOrInline
    (reflects : Reflects landmarks declared globals)
    (stands : Stands landmarks held free progress)
    {pending : List ExpandedName}
    {resolving : List Place}
    (tracks : Tracks declared pending resolving)
    {site : Site}
    (meets : declared.Meets pending site.place)
    (avoids : site.Avoids resolving)
    (attributeName : String) :
    Answers progress (Declared.typeOrInline declared resolving site attributeName)
      (globals.resolveUse pending (site.use attributeName)) := by
  rw [Declared.typeOrInline, Site.use]
  cases isReference : site.reference? attributeName with
  | some name =>
      dsimp only [Use.named?]
      rw [resolveUse_named]
      exact (Answers.need (isClean_reference? isReference)).bind fun name _ =>
        answers_resolveType reflects stands tracks name
  | none =>
      dsimp only [Use.named?]
      rw [inlineType_eq, Site.first?]
      cases isFirst : first? ["simpleType"] site.spot with
      | none =>
          rw [Option.map_none, Option.elim_none, Globals.resolveUse]
          exact .pure _
      | some child =>
          rw [Option.map_some, Option.elim_some]
          exact answers_resolveSimpleType reflects stands (tracks.cons (meets.inside child))
            (avoids.inside child)
termination_by ((globals.unresolved pending).length, sizeOf site.spot.content)
decreasing_by
  · exact .right _ (Spot.sizeOf_content_lt (mem_children_of_first? isFirst))
  · exact .right _ (sizeOf_pos site.spot.content)

theorem answers_resolveSimpleType
    (reflects : Reflects landmarks declared globals)
    (stands : Stands landmarks held free progress)
    {pending : List ExpandedName}
    {resolving : List Place}
    {site : Site}
    (tracks : Tracks declared pending (site.place :: resolving))
    (avoids : site.Avoids resolving) :
    Answers progress (Declared.resolveSimpleType declared resolving site)
      (globals.resolveUse pending (.inline (simpleType site.spot.scope site.spot.content))) := by
  have fresh : site.place ∉ resolving := fun member => avoids _ member List.prefix_rfl
  rw [Declared.resolveSimpleType, if_neg fresh, simpleType_eq, Site.first?]
  cases isFirst : first? ["restriction", "list", "union"] site.spot with
  | none =>
      rw [Option.map_none, Option.elim_none, Globals.resolveUse]
      exact .pure _
  | some child =>
      rw [Option.map_some, Option.elim_some, derivationAt]
      have meets := (tracks.meets _ List.mem_cons_self).inside child
      have further : (site.inside child).Avoids (site.place :: resolving) :=
        List.forall_mem_cons.2 ⟨fun covers => site.not_inside_self (Site.inside_of_covers covers),
          avoids.inside child⟩
      dsimp only
      by_cases isRestriction : constructOf? child.2.tag = some "restriction"
      · rw [if_pos (show (site.inside child).construct? = _ from isRestriction),
          if_pos isRestriction, Globals.resolveUse]
        exact answers_typeOrInline reflects stands tracks meets further "base"
      · rw [if_neg (show (site.inside child).construct? ≠ _ from isRestriction),
          if_neg isRestriction]
        by_cases isList : constructOf? child.2.tag = some "list"
        · rw [if_pos (show (site.inside child).construct? = _ from isList), if_pos isList,
            Globals.resolveUse]
          exact (answers_typeOrInline reflects stands tracks meets further "itemType").bind
            fun type _ => .pure _
        · rw [if_neg (show (site.inside child).construct? ≠ _ from isList), if_neg isList,
            Globals.resolveUse]
          exact .pure _
termination_by ((globals.unresolved pending).length, sizeOf site.spot.content)
decreasing_by
  all_goals exact .right _ (Spot.sizeOf_content_lt (mem_children_of_first? isFirst))

end

theorem answers_resolveBase
    (reflects : Reflects landmarks declared globals)
    (stands : Stands landmarks held free progress)
    (name : ExpandedName) :
    Answers progress (Declared.resolveBase declared name) (globals.resolveBase name) := by
  have simpleBase : Answers progress
      (do
        let type ← Declared.resolveType declared [] name
        return Base.simple type)
      (Base.simple <$> globals.resolveType name) :=
    (answers_resolveType reflects stands (.nil declared) name).bind fun type _ => .pure _
  rw [Declared.resolveBase, Globals.resolveBase]
  rcases reflects.types name with ⟨undeclared, noType⟩ | ⟨site, definition, isDeclared, isType, same⟩
  · rw [undeclared, noType]
    dsimp only
    split_ifs
    · exact .pure _
    · exact simpleBase
  · rw [isDeclared, isType]
    cases same with
    | complex construct isLandmark =>
        dsimp only
        rw [if_pos construct]
        exact answers_classAt stands isLandmark (.pure _)
    | simple construct named =>
        dsimp only
        rw [if_neg (by rw [construct]; decide)]
        exact simpleBase

theorem exists_landmark_of_resolveBase
    (reflects : Reflects landmarks declared globals)
    {name : ExpandedName}
    {id : ClassId}
    (isBase : globals.resolveBase name = .ok (.complex id)) :
    ∃ landmark ∈ landmarks, landmark.id = id := by
  obtain ⟨type, isType⟩ := declares_of_resolveBase isBase
  rcases reflects.types name with ⟨_, noType⟩ | ⟨site, definition, _, isDefined, same⟩
  · rw [isType] at noType
    cases noType
  · rw [isType, Option.some.injEq] at isDefined
    subst isDefined
    cases same with
    | complex construct isLandmark => exact ⟨_, isLandmark, rfl⟩

/-- The type of an element that is declared at the top does not depend on where it is referred to. -/
theorem answers_elementType
    (reflects : Reflects landmarks declared globals)
    (stands : Stands landmarks held free progress)
    {setting : Setting}
    {site : Site}
    {element : ElementDefinition}
    (defines : DefinesElement landmarks site element)
    (meets : declared.Meets [] site.place)
    (owner : ClassId)
    (name : String) :
    Answers progress (Site.elementType setting declared owner name site)
      (globals.elementType element) := by
  rw [Site.elementType, Globals.elementType, defines.type, Site.use]
  cases isReference : site.reference? "type" with
  | some reference =>
      dsimp only [Use.named?]
      rw [resolveUse_named]
      exact (Answers.need (isClean_reference? isReference)).bind fun name _ =>
        answers_resolveType reflects stands (.nil declared) name
  | none =>
      dsimp only [Use.named?]
      rw [inlineType_eq]
      cases isType : site.first? ["complexType"] with
      | some complexType =>
          obtain ⟨landmark, isLandmark, samePlace, isClass⟩ := defines.classType complexType isType
          dsimp only
          rw [← samePlace, isClass]
          cases first? ["simpleType"] site.spot <;>
            exact answers_noted? stands isLandmark (answers_typeOf stands isLandmark)
      | none =>
          rw [defines.noClass isType, Site.first?]
          cases isFirst : first? ["simpleType"] site.spot with
          | none => exact .pure _
          | some child =>
              exact answers_resolveSimpleType reflects stands
                ((Tracks.nil declared).cons (meets.inside child)) (site.inside child).avoids_nil

end Resolution
end Schema
end SchemaBinding
