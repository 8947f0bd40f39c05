import SchemaBinding.Proofs.Acceptance
import SchemaBinding.Proofs.WalkedDeclarations

/-!
# Documents met on walks

A walk over a whole document.  Each pass goes on for as long as that of the binding, which ends, and
comes to the same.
-/

namespace SchemaBinding
namespace Schema

open Xml (Place Spot)

/-! ## The second pass -/

section SecondPass

variable {setting : Setting} {landmarks : List Landmark} {declared : Declared} {globals : Globals}
  {held : List ClassId}

/-- The places inside the complex types that elements have at the top. -/
def InsideTypes (sites : List Site) (place : Place) : Prop :=
  ∃ site ∈ sites, ∃ type, site.topType? = some type ∧ type.Inside place

theorem InsideTypes.cons
    {sites : List Site}
    {place : Place}
    (inside : InsideTypes sites place)
    (site : Site) :
    InsideTypes (site :: sites) place := by
  obtain ⟨other, isOther, isInside⟩ := inside
  exact ⟨other, List.mem_cons_of_mem _ isOther, isInside⟩

/-- No class is noted inside the complex types after the first pass. -/
theorem unnoted_of_insideTypes
    {root : Site}
    {place : Place}
    (inside : InsideTypes root.children place) :
    Unnoted root.children place := by
  obtain ⟨site, isChild, type, isTop, isInside⟩ := inside
  intro other member same
  obtain ⟨otherSite, isOther, isOtherTop⟩ := List.mem_filterMap.1 member
  obtain rfl := Site.eq_of_covers isChild isOther
    ((Site.covers_of_topType? isTop).trans (Site.covers_of_inside isInside))
    (same ▸ Site.covers_of_topType? isOtherTop)
  obtain rfl := Option.some.inj (isTop.symm.trans isOtherTop)
  exact type.not_inside_self (same.symm ▸ isInside)

/-- What is known after the first pass suffices for the second one. -/
theorem Starts.secondPass
    {root : Site}
    {progress : Progress}
    (starts : Starts setting landmarks (Unnoted root.children) progress) :
    Stands landmarks (landmarks.map Landmark.id)
      (fun place => InsideTypes root.children place ∨ nowhere place) progress where
  orderly := starts.orderly
  noted := starts.noted
  typed := starts.typed
  holds := List.forall_mem_map.2 fun _ => starts.toStands.holds_landmark
  free place inside := starts.free place (unnoted_of_insideTypes (inside.resolve_right id))

/-- A walk fills the class of a declaration with what the binding fills it with. -/
theorem visits_fill
    (reflects : Reflects landmarks declared globals)
    (isFirst : setting.package = ⟨0⟩)
    {site type : Site}
    {body : ClassId × List Content}
    (isHeld : body.1 ∈ held)
    (isTop : site.topType? = some type)
    (isBody : IsBody landmarks type body)
    (meets : declared.Meets [] type.place) :
    Visits landmarks held type.Inside (Site.fill setting declared site)
      (bindContents (setting.environment globals) body.1 body.2) := by
  obtain ⟨landmark, isLandmark, isPlace, rfl⟩ := isBody
  rw [Site.fill, isTop]
  dsimp only
  rw [← isPlace]
  exact .classAt isLandmark (visits_visitType reflects isFirst isHeld meets)

/-- A walk fills the classes one after the other as the binding does. -/
theorem visits_fillAll
    (reflects : Reflects landmarks declared globals)
    (isFirst : setting.package = ⟨0⟩)
    {sites : List Site}
    {bodies : List (ClassId × List Content)}
    (isHeld : ∀ landmark ∈ landmarks, landmark.id ∈ held)
    (areBodies : List.Forall₂ (IsBody landmarks) (sites.filterMap Site.topType?) bodies)
    (apart : sites.Pairwise fun left right => ∀ place, left.Covers place → ¬right.Covers place)
    (meets : ∀ site ∈ sites, ∀ type, site.topType? = some type → declared.Meets [] type.place) :
    Visits landmarks held (InsideTypes sites) (sites.forM (Site.fill setting declared))
      (bindBodies (setting.environment globals) bodies) := by
  induction sites generalizing bodies with
  | nil =>
      cases areBodies
      exact .pure ()
  | cons site rest inductionHypothesis =>
      obtain ⟨firstApart, restApart⟩ := List.pairwise_cons.1 apart
      obtain ⟨firstMeets, restMeets⟩ := List.forall_mem_cons.1 meets
      rw [List.forM]
      cases isTop : site.topType? with
      | none =>
          rw [List.filterMap_cons_none isTop] at areBodies
          have passed : Site.fill setting declared site = pure () := by rw [Site.fill, isTop]
          rw [passed, pure_bind]
          exact (inductionHypothesis areBodies restApart restMeets).weaken fun _ inside =>
            inside.cons site
      | some type =>
          rw [List.filterMap_cons_some isTop] at areBodies
          obtain ⟨body, others, isBody, areOthers, rfl⟩ := List.forall₂_cons_left_iff.1 areBodies
          have bodyHeld : body.1 ∈ held := by
            obtain ⟨landmark, isLandmark, _, rfl⟩ := isBody
            exact isHeld landmark isLandmark
          rw [bindBodies]
          have first := visits_fill reflects isFirst bodyHeld isTop isBody (firstMeets type isTop)
          -- What fills one class notes others only inside its own complex type.
          refine (first.bind (fun _ => inductionHypothesis areOthers restApart restMeets) ?_).weaken ?_
          · rintro place inside ⟨other, isOther, otherType, isOtherTop, otherInside⟩
            exact firstApart other isOther place
              ((Site.covers_of_topType? isTop).trans (Site.covers_of_inside inside))
              ((Site.covers_of_topType? isOtherTop).trans (Site.covers_of_inside otherInside))
          · rintro place (inside | inside)
            · exact ⟨site, List.mem_cons_self, type, isTop, inside⟩
            · exact inside.cons site

end SecondPass

/-! ## Both passes -/

/-- An orderly draft is finished alike. -/
theorem follows_finish :
    Follows (fun progress => progress.bound.draft.Orderly) Walk.finish finishBinding
      fun answer value _ => answer = value := by
  refine ⟨fun {progress} orderly => ?_⟩
  have leads : progress.walked.arena.finished = _ := Arena.finished_ofDraft orderly.coherent
  rw [Walk.finish, Walk.outcome?_bind, Walk.outcome?_get, Option.bind_some, outcome_finishBinding,
    BindingState.finish]
  dsimp only
  rw [leads]
  cases finished : progress.bound.draft.finish with
  | ok outline => exact .ok rfl
  | error error =>
      refine .error fun fault isFault => ?_
      cases isFault
      exact orderly.clashes_of_finish finished

theorem registers_initialState
    (options : BindingOptions)
    (document : Xml.Document) :
    Registers (settingOf options document) [] {} {} { bound := initialState options document } := by
  refine ⟨[], ⟨⟨?_, nofun, nofun, nofun, fun _ _ => rfl⟩, rfl⟩, .nil _⟩
  exact {
    built := ⟨_, Built.empty.perform (.package _) nofun⟩
    onePackage := rfl
    defined := fun held => absurd held (Nat.not_lt_zero _) }

/-- A walk notes the declarations of a document as the binding does. -/
theorem follows_declarations
    (options : BindingOptions)
    (document : Xml.Document) :
    Follows (Registers (settingOf options document) [] {} {})
      ((Site.outermost document).children.foldlM (Site.register (settingOf options document)) {})
      (document.spot.children.foldlM (registerAt (settingOf options document)) {})
      (Registers (settingOf options document) (Site.outermost document).children) :=
  follows_registerAll rfl document.spot.children_sorted fun _ _ _ _ _ member =>
    absurd member List.not_mem_nil

/-- After it has created the package, a walk over a schema does what both passes and the finish do. -/
theorem follows_bothPasses
    (options : BindingOptions)
    (document : Xml.Document) :
    Follows (Registers (settingOf options document) [] {} {})
      (do
        let declared ← (Site.outermost document).children.foldlM
          (Site.register (settingOf options document)) {}
        (Site.outermost document).children.forM
          (Site.fill (settingOf options document) declared)
        Walk.finish)
      (do
        bothPasses options document
        finishBinding)
      fun answer value _ => answer = value := by
  let setting := settingOf options document
  let root : Site := .outermost document
  unfold bothPasses
  rw [bind_assoc, foldlM_declarations]
  refine (follows_declarations options document).bind fun declared registry =>
    ⟨fun {progress} ⟨landmarks, starts, records⟩ => ?_⟩
  have second : Visits landmarks (landmarks.map Landmark.id) (InsideTypes root.children)
      (root.children.forM (Site.fill setting declared))
      (bindBodies (setting.environment registry.globals) registry.bodies) :=
    visits_fillAll records.reflects rfl (fun _ => List.mem_map_of_mem) records.bodies
      root.children_apart fun site isChild type isTop =>
        records.meets isChild (Site.not_simple_of_topType? isTop) (Site.covers_of_topType? isTop)
  refine ((second.follows nowhere fun _ _ => id).bind fun _ _ => ?_).ends starts.secondPass
  exact follows_finish.imp (fun ⟨_, stands⟩ => stands.orderly) id

/-- A walk over a schema starts by creating the package. -/
theorem outcome?_createPackage
    (options : BindingOptions)
    (document : Xml.Document) :
    (Walk.carryOut (Arena.package (settingOf options document).packageName)).outcome? {} =
      some (.ok ⟨0⟩, ({ bound := initialState options document } : Progress).walked) := by
  let nothing : Progress := { bound := { draft := .empty } }
  have created : (Walk.carryOut (Arena.package (settingOf options document).packageName)).outcome?
      nothing.walked =
        some (nothing.after (.ok (Draft.empty.package (settingOf options document).packageName))) :=
    Walk.outcome?_carryOut (Arena.run_package .empty _)
  exact created

/-- A walk over a schema ends together with the binding of the schema. -/
theorem visitSchema_ends
    (options : BindingOptions)
    (document : Xml.Document) :
    EndTogether (fun answer value _ => answer = value)
      ((Site.visitSchema options (.outermost document)).outcome? {})
      (outcome (do
        bothPasses options document
        finishBinding) (initialState options document)) := by
  have ends := (follows_bothPasses options document).ends (registers_initialState options document)
  rw [Site.visitSchema, Walk.outcome?_bind]
  change EndTogether _ (((Walk.carryOut
    (Arena.package (settingOf options document).packageName)).outcome? {}).bind _) _
  rw [outcome?_createPackage]
  exact ends

/-- A walk that ends together with a run of the binding in the same value has its result. -/
theorem EndTogether.exists_state
    {α : Type}
    {walked : Option (Except Halt α × WalkState)}
    {ended : Except SchemaError α × BindingState}
    (together : EndTogether (fun answer value _ => answer = value) walked ended) :
    (∃ state, walked = some (ended.1.mapError .failed, state) ∧ state.warnings = ended.2.warnings) ∧
      IsClean ended.1 := by
  cases together with
  | ok same =>
      subst same
      exact ⟨⟨_, rfl, rfl⟩, nofun⟩
  | error admissible =>
      refine ⟨⟨_, rfl, rfl⟩, fun other isOther => ?_⟩
      cases isOther
      exact admissible

theorem bindXml_of_isSchema
    (options : BindingOptions)
    {document : Xml.Document}
    (isSchema : constructOf? document.root = some "schema") :
    bindXml options document =
      let ended := outcome (do
        bothPasses options document
        finishBinding) (initialState options document)
      (ended.1, ended.2.warnings) := by
  unfold bindXml Document.ofXml
  rw [if_pos isSchema]
  unfold bothPasses
  rw [bind_assoc]
  rfl

/-- A walk over a document ends, and comes to what the binding comes to.  So it finds every place of
the arena filled that it reads and a class noted for every complex type that it needs one for; and if
the model cannot be made, then because two fields of a class or two classes have one name or because
a class is its own ancestor. -/
theorem walkXml_eq_bindXml
    (options : BindingOptions)
    (document : Xml.Document) :
    walkXml options document =
        some ((bindXml options document).1.mapError .failed, (bindXml options document).2) ∧
      ∀ error, (bindXml options document).1 = .error (.model error) →
        error.kind ∈ [.duplicateField, .duplicateClass, .supertypeCycle] := by
  by_cases isSchema : constructOf? document.root = some "schema"
  · obtain ⟨⟨state, walked, warnings⟩, clean⟩ := (visitSchema_ends options document).exists_state
    rw [bindXml_of_isSchema options isSchema]
    refine ⟨?_, fun error isError => clean _ isError error rfl⟩
    rw [walkXml, if_pos isSchema, walked, Option.map_some]
    dsimp only
    rw [warnings]
  · unfold walkXml bindXml Document.ofXml
    rw [if_neg isSchema, if_neg isSchema]
    exact ⟨rfl, nofun⟩

end Schema
end SchemaBinding
