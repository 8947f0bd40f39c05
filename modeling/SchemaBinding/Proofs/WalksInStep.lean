import SchemaBinding.Proofs.OrderlyDrafts
import SchemaBinding.Proofs.Walks

/-!
# Walks in step with the binding

When a walk does what a run of the binding does: the walk ends in the arena of the draft in which the
run ends, with the same warnings, and where the run fails the walk fails with the same error.  The
rules are those of a logic for two programs.  What is known on the way is which classes are noted for
good and at which places none is noted yet; a walk through an element may only need that none is noted
inside it.
-/

namespace SchemaBinding

/-- Whether an error, if it is one of the model, is that names meet or that a class is derived from
itself. -/
def SchemaError.Admissible (error : SchemaError) : Prop :=
  ∀ fault, error = .model fault → fault.Clashes

namespace Schema

open Binding (need warn addClass typeOf addField addSupertype)
open Xml (Place Spot)

/-- Whether a part of a schema, if it is at fault, is so for an admissible error. -/
def IsClean {α : Type} (part : Deferred α) : Prop :=
  ∀ error, part = .error error → error.Admissible

theorem outcome_get
    (state : BindingState) :
    outcome get state = (.ok state, state) :=
  rfl

theorem outcome_typeOf
    (id : ClassId)
    (state : BindingState) :
    outcome (typeOf id) state = ((state.draft.typeOf id).mapError .model, state) := by
  rw [typeOf, outcome_bind, outcome_get]
  dsimp only
  cases state.draft.typeOf id <;> rfl

theorem outcome_addField
    (owner : ClassId)
    (name : String)
    (type : TypeRef)
    (state : BindingState) :
    outcome (addField owner name type) state =
      match state.draft.addField owner name type with
      | .ok (_, draft) => (.ok (), { state with draft })
      | .error error => (.error (.model error), state) := by
  rw [addField, outcome_bind, outcome_get]
  dsimp only
  cases state.draft.addField owner name type <;> rfl

theorem outcome_addSupertype
    (owner supertype : ClassId)
    (state : BindingState) :
    outcome (addSupertype owner supertype) state =
      match state.draft.addSupertype owner supertype with
      | .ok draft => (.ok (), { state with draft })
      | .error error => (.error (.model error), state) := by
  rw [addSupertype, outcome_bind, outcome_get]
  dsimp only
  cases state.draft.addSupertype owner supertype <;> rfl

/-! ## Sound steps -/

/-- How a step of the binding may end from an orderly draft: in another one that keeps what the first
one says, with classes that are there, or in an admissible error. -/
inductive SoundEnd {α : Type} (gives : α → List ClassId) (draft : Draft) :
    Except SchemaError α × BindingState → Prop
  /-- In another draft. -/
  | ok {value : α} {next : BindingState} (orderly : next.draft.Orderly)
      (keeps : draft.Keeps next.draft)
      (given : ∀ id ∈ gives value, next.draft.Holds (.ofClass id)) :
      SoundEnd gives draft (.ok value, next)
  /-- In an error. -/
  | error {error : SchemaError} {next : BindingState} (admissible : error.Admissible) :
      SoundEnd gives draft (.error error, next)

/-- An operation ends soundly that leaves packages alone and defines the classes that it creates. -/
theorem SoundEnd.of_perform
    {α : Type}
    {gives : α → List ClassId}
    {draft : Draft}
    (operation : Operation)
    {value : α}
    {next : BindingState}
    (orderly : draft.Orderly)
    (atOnce : operation.DefinesAtOnce)
    (held : ∀ handle ∈ operation.handles, draft.Holds handle)
    (performed : next.draft = (draft.perform operation).2)
    (given : ∀ id ∈ gives value, next.draft.Holds (.ofClass id)) :
    SoundEnd gives draft (.ok value, next) :=
  .ok (performed ▸ orderly.perform atOnce held) (performed ▸ (draft.perform_step operation).keeps)
    given

/-- Whether a step ends soundly from every orderly draft that has some classes. -/
structure Sound {α : Type} (held : List ClassId) (step : Binding α) (gives : α → List ClassId) :
    Prop where
  ends : ∀ {state}, state.draft.Orderly → (∀ id ∈ held, state.draft.Holds (.ofClass id)) →
    SoundEnd gives state.draft (outcome step state)

namespace Sound

variable {α : Type} {held : List ClassId}

/-- A step that leaves the draft alone. -/
theorem of_still
    {step : Binding α}
    (still : ∀ state, (outcome step state).2.draft = state.draft)
    (admissible : ∀ state error, (outcome step state).1 = .error error → error.Admissible) :
    Sound held step fun _ => [] := by
  refine ⟨fun {state} orderly _ => ?_⟩
  have same := still state
  have refused := admissible state
  generalize outcome step state = ended at same refused
  obtain ⟨result, next⟩ := ended
  dsimp only at same
  cases result with
  | error error => exact .error (refused error rfl)
  | ok value =>
      refine .ok (same ▸ orderly) (same ▸ .refl _) fun _ member => ?_
      exact absurd member List.not_mem_nil

theorem need
    {part : Deferred α}
    (clean : IsClean part) :
    Sound held (need part) fun _ => [] := by
  cases part with
  | ok value => exact of_still (fun _ => rfl) nofun
  | error error =>
      refine of_still (fun _ => rfl) fun _ other isOther => ?_
      cases isOther
      exact clean error rfl

theorem warn
    (warning : Warning) :
    Sound held (warn warning) fun _ => [] :=
  of_still (fun _ => rfl) nofun

theorem addClass
    (name : String)
    {enclosing : Option ClassId}
    (isHeld : ∀ outer ∈ enclosing, outer ∈ held) :
    Sound held (addClass name ⟨0⟩ enclosing) fun id => [id] := by
  refine ⟨fun {state} orderly holds => ?_⟩
  refine .of_perform (.addClass name ⟨0⟩ enclosing) orderly trivial ?_ rfl ?_
  · rw [Operation.handles, List.forall_mem_cons]
    refine ⟨orderly.holds_package, fun handle member => ?_⟩
    obtain ⟨outer, isOuter, rfl⟩ := List.mem_map.1 member
    exact holds outer (isHeld outer (Option.mem_toList.1 isOuter))
  · intro id member
    rw [List.mem_singleton.1 member]
    exact (state.draft.perform_step (.addClass name ⟨0⟩ enclosing)).holds

theorem typeOf
    {id : ClassId}
    (isHeld : id ∈ held) :
    Sound held (typeOf id) fun _ => [] := by
  refine ⟨fun {state} orderly holds => ?_⟩
  obtain ⟨type, typed⟩ := orderly.exists_typeOf (holds id isHeld)
  rw [outcome_typeOf, typed]
  exact .ok orderly (.refl _) fun _ member => absurd member List.not_mem_nil

/-- A change of the draft is sound if it is an operation, and if it is only refused for admissible
errors. -/
theorem of_change
    {step : Binding Unit}
    {Result : Type}
    (operation : Operation)
    (change : Draft → Except ModelError Result)
    (next : Result → Draft)
    (changes : ∀ state, outcome step state =
      match change state.draft with
      | .ok result => (.ok (), { state with draft := next result })
      | .error error => (.error (.model error), state))
    (atOnce : operation.DefinesAtOnce)
    (handles : ∀ handle ∈ operation.handles, ∃ id ∈ held, handle = .ofClass id)
    (performed : ∀ {draft result}, change draft = .ok result →
      (draft.perform operation).2 = next result)
    (refused : ∀ {draft error}, draft.Orderly → (∀ id ∈ held, draft.Holds (.ofClass id)) →
      change draft = .error error → error.Clashes) :
    Sound held step fun _ => [] := by
  refine ⟨fun {state} orderly holds => ?_⟩
  rw [changes]
  cases changed : change state.draft with
  | error error =>
      refine .error fun fault isFault => ?_
      cases isFault
      exact refused orderly holds changed
  | ok result =>
      refine .of_perform operation orderly atOnce ?_ (performed changed).symm ?_
      · intro handle member
        obtain ⟨id, isHeld, rfl⟩ := handles handle member
        exact holds id isHeld
      · exact fun _ member => absurd member List.not_mem_nil

theorem addField
    {owner : ClassId}
    (isHeld : owner ∈ held)
    (name : String)
    (type : TypeRef) :
    Sound held (addField owner name type) fun _ => [] := by
  refine of_change (.addField owner name type) (fun draft => draft.addField owner name type) Prod.snd
    (fun state => ?_) trivial ?_ ?_ ?_
  · rw [outcome_addField]
    cases state.draft.addField owner name type <;> rfl
  · exact List.forall_mem_singleton.2 ⟨owner, isHeld, rfl⟩
  · intro draft result added
    simp only [Draft.perform, added, Draft.settle]
  · exact fun orderly holds refused => orderly.clashes_of_addField (holds owner isHeld) refused

theorem addSupertype
    {owner supertype : ClassId}
    (ownerHeld : owner ∈ held)
    (supertypeHeld : supertype ∈ held) :
    Sound held (addSupertype owner supertype) fun _ => [] := by
  refine of_change (.addSupertype owner supertype)
    (fun draft => draft.addSupertype owner supertype) id (fun state => ?_) trivial ?_ ?_ ?_
  · rw [outcome_addSupertype]
    cases state.draft.addSupertype owner supertype <;> rfl
  · exact List.forall_mem_cons.2 ⟨⟨owner, ownerHeld, rfl⟩,
      List.forall_mem_singleton.2 ⟨supertype, supertypeHeld, rfl⟩⟩
  · intro draft result added
    simp only [Draft.perform, added, Draft.settle]
    rfl
  · intro draft error orderly holds refused
    obtain ⟨next, added⟩ := orderly.exists_addSupertype (holds owner ownerHeld) supertype
    rw [added] at refused
    cases refused

end Sound

/-! ## Ends of walks -/

/-- What a run of the binding has come to, and the classes that a walk has noted meanwhile, each with
the place of its complex type. -/
structure Progress where
  /-- What has been bound. -/
  bound : BindingState
  /-- The classes. -/
  classes : List (Place × ClassId) := []

/-- What the walk has come to: the draft is in its arena. -/
def Progress.walked (progress : Progress) : WalkState where
  arena := .ofDraft progress.bound.draft
  warnings := progress.bound.warnings
  classes := progress.classes

/-- What the walk comes to when an operation of the draft ends in some result. -/
def Progress.after {α : Type} (progress : Progress) :
    Except ModelError (α × Draft) → Except Halt α × WalkState
  | .ok (answer, draft) =>
      (.ok answer, { progress with bound := { progress.bound with draft } }.walked)
  | .error error => (.error (.failed (.model error)), progress.walked)

/-- How a walk and a run of the binding may end together: with related values, or in one admissible
error; and with what has been bound in either case. -/
inductive EndTogether {α β : Type} (post : α → β → Progress → Prop) :
    Option (Except Halt α × WalkState) → Except SchemaError β × BindingState → Prop
  /-- With related values. -/
  | ok {answer : α} {value : β} {progress : Progress} (related : post answer value progress) :
      EndTogether post (some (.ok answer, progress.walked)) (.ok value, progress.bound)
  /-- In an error. -/
  | error {error : SchemaError} {progress : Progress} (admissible : error.Admissible) :
      EndTogether post (some (.error (.failed error), progress.walked)) (.error error, progress.bound)

/-- Whether a walk ends together with a run of the binding, from states with a property. -/
structure Follows {α β : Type} (pre : Progress → Prop) (walk : Walk α) (step : Binding β)
    (post : α → β → Progress → Prop) : Prop where
  ends : ∀ {progress}, pre progress →
    EndTogether post (walk.outcome? progress.walked) (outcome step progress.bound)

namespace Walk

variable {α β : Type}

theorem outcome?_bind
    (walk : Walk α)
    (rest : α → Walk β)
    (state : WalkState) :
    (walk >>= rest).outcome? state =
      (walk.outcome? state).bind fun
        | (.ok value, middle) => (rest value).outcome? middle
        | (.error halt, middle) => some (.error halt, middle) := by
  show (walk state).bind _ = (walk state).bind _
  cases walk state with
  | none => rfl
  | some ended =>
      obtain ⟨result, middle⟩ := ended
      cases result <;> rfl

theorem outcome?_get
    (state : WalkState) :
    (get : Walk WalkState).outcome? state = some (.ok state, state) :=
  rfl

/-- A program that does in the arena what an operation does to the draft. -/
theorem outcome?_carryOut
    {program : Arena.Work α}
    {progress : Progress}
    {result : Except ModelError (α × Draft)}
    (run : program.run (.ofDraft progress.bound.draft) =
      Arena.outcome progress.bound.draft result) :
    (carryOut program).outcome? progress.walked = some (progress.after result) := by
  have runs : program.run progress.walked.arena = Arena.outcome progress.bound.draft result := run
  rw [carryOut, outcome?_bind, outcome?_get, Option.bind_some]
  dsimp only
  rw [runs]
  cases result <;> rfl

end Walk

namespace Follows

variable {α β γ δ : Type} {pre : Progress → Prop} {post : α → β → Progress → Prop}

theorem bind
    {walk : Walk α}
    {step : Binding β}
    {further : α → Walk γ}
    {rest : β → Binding δ}
    {final : γ → δ → Progress → Prop}
    (first : Follows pre walk step post)
    (second : ∀ answer value, Follows (post answer value) (further answer) (rest value) final) :
    Follows pre (walk >>= further) (step >>= rest) final := by
  refine ⟨fun {progress} holds => ?_⟩
  rw [Walk.outcome?_bind, outcome_bind]
  have ends := first.ends holds
  generalize walk.outcome? progress.walked = walked at ends
  generalize outcome step progress.bound = ended at ends
  cases ends with
  | ok related => exact (second _ _).ends related
  | error admissible => exact .error admissible

theorem imp
    {walk : Walk α}
    {step : Binding β}
    {stronger : Progress → Prop}
    {weaker : α → β → Progress → Prop}
    (follows : Follows pre walk step post)
    (before : ∀ {progress}, stronger progress → pre progress)
    (after : ∀ {answer value progress}, post answer value progress → weaker answer value progress) :
    Follows stronger walk step weaker := by
  refine ⟨fun {progress} holds => ?_⟩
  have ends := follows.ends (before holds)
  generalize walk.outcome? progress.walked = walked at ends ⊢
  generalize outcome step progress.bound = ended at ends ⊢
  cases ends with
  | ok related => exact .ok (after related)
  | error admissible => exact .error admissible

theorem pure
    {answer : α}
    {value : β}
    (related : ∀ {progress}, pre progress → post answer value progress) :
    Follows pre (Pure.pure answer) (Pure.pure value) post :=
  ⟨fun holds => .ok (related holds)⟩

theorem throw
    {error : SchemaError}
    (admissible : error.Admissible) :
    Follows pre (MonadExcept.throw (Halt.failed error)) (MonadExcept.throw error) post :=
  ⟨fun _ => .error admissible⟩

end Follows

/-! ## Steps in the arena -/

/-- Whether a step of a walk does in the arena of an orderly draft what a step of the binding does to
the draft. -/
structure Enacts {α : Type} (walk : Walk α) (step : Binding α) : Prop where
  ends : ∀ {progress : Progress}, progress.bound.draft.Orderly → walk.outcome? progress.walked =
    some ((outcome step progress.bound).1.mapError .failed,
      { progress with bound := (outcome step progress.bound).2 }.walked)

namespace Enacts

theorem need
    {α : Type}
    (part : Deferred α) :
    Enacts (Walk.need part) (need part) := by
  cases part <;> exact ⟨fun _ => rfl⟩

theorem warn
    (warning : Warning) :
    Enacts (Walk.warn warning) (warn warning) :=
  ⟨fun _ => rfl⟩

theorem addClass
    (name : String)
    (package : PackageId)
    (enclosing : Option ClassId) :
    Enacts (Walk.addClass name package enclosing) (addClass name package enclosing) := by
  refine ⟨fun {progress} _ => ?_⟩
  rw [Walk.addClass, Walk.outcome?_carryOut (Arena.run_addClass progress.bound.draft _ _ _)]
  rfl

theorem typeOf
    (id : ClassId) :
    Enacts (Walk.typeOf id) (typeOf id) := by
  refine ⟨fun {progress} _ => ?_⟩
  let draft := progress.bound.draft
  have run : (Arena.consult fun arena => arena.typeOf id).run (.ofDraft draft) =
      Arena.outcome draft ((draft.typeOf id).map fun type => (type, draft)) := by
    rw [Arena.run_consult, Arena.typeOf_ofDraft]
    cases draft.typeOf id <;> rfl
  rw [Walk.typeOf, Walk.outcome?_carryOut run, outcome_typeOf]
  cases progress.bound.draft.typeOf id <;> rfl

theorem addField
    (owner : ClassId)
    (name : String)
    (type : TypeRef) :
    Enacts (Walk.addField owner name type) (addField owner name type) := by
  refine ⟨fun {progress} orderly => ?_⟩
  have run := Arena.run_addField orderly.fieldsPlaced owner name type
  rw [Walk.addField, Walk.outcome?_bind, Walk.outcome?_carryOut run, outcome_addField]
  cases progress.bound.draft.addField owner name type <;> rfl

theorem addSupertype
    (owner supertype : ClassId) :
    Enacts (Walk.addSupertype owner supertype) (addSupertype owner supertype) := by
  refine ⟨fun {progress} _ => ?_⟩
  have run := Arena.run_addSupertype progress.bound.draft owner supertype
  rw [Walk.addSupertype, Walk.outcome?_carryOut run, outcome_addSupertype]
  cases progress.bound.draft.addSupertype owner supertype <;> rfl

end Enacts

/-! ## What is known on the way -/

/-- A class that is noted for good, with the place of its complex type and its own type. -/
structure Landmark where
  /-- The place of the complex type. -/
  place : Place
  /-- The class. -/
  id : ClassId
  /-- The type of the class. -/
  type : TypeRef

/-- What is known on the way: the landmarks, classes that are there, and places at which no class is
noted. -/
structure Stands (landmarks : List Landmark) (held : List ClassId) (free : Place → Prop)
    (progress : Progress) : Prop where
  orderly : progress.bound.draft.Orderly
  noted : ∀ landmark ∈ landmarks, progress.classes.lookup landmark.place = some landmark.id
  typed : ∀ landmark ∈ landmarks, progress.bound.draft.HasType landmark.id landmark.type
  holds : ∀ id ∈ held, progress.bound.draft.Holds (.ofClass id)
  free : ∀ place, free place → progress.classes.lookup place = none

namespace Stands

variable {landmarks : List Landmark} {held : List ClassId} {free : Place → Prop}
  {progress : Progress}

theorem weaken
    (stands : Stands landmarks held free progress)
    {fewer : List ClassId}
    {smaller : Place → Prop}
    (heldBefore : ∀ id ∈ fewer, id ∈ held)
    (freeBefore : ∀ place, smaller place → free place) :
    Stands landmarks fewer smaller progress where
  orderly := stands.orderly
  noted := stands.noted
  typed := stands.typed
  holds id member := stands.holds id (heldBefore id member)
  free place isFree := stands.free place (freeBefore place isFree)

/-- A landmark is a class that is there. -/
theorem holds_landmark
    (stands : Stands landmarks held free progress)
    {landmark : Landmark}
    (member : landmark ∈ landmarks) :
    progress.bound.draft.Holds (.ofClass landmark.id) := by
  obtain ⟨found, _, _, isFound, _⟩ := stands.typed landmark member
  exact Draft.index_lt_of_defined isFound

theorem typeOf_landmark
    (stands : Stands landmarks held free progress)
    {landmark : Landmark}
    (member : landmark ∈ landmarks) :
    progress.bound.draft.typeOf landmark.id = .ok landmark.type :=
  stands.orderly.coherent.typeOf_eq_ok_iff.2 (stands.typed landmark member)

/-- What is known remains so when more is bound. -/
theorem advance
    (stands : Stands landmarks held free progress)
    {bound : BindingState}
    {more : List ClassId}
    (orderly : bound.draft.Orderly)
    (keeps : progress.bound.draft.Keeps bound.draft)
    (given : ∀ id ∈ more, bound.draft.Holds (.ofClass id)) :
    Stands landmarks (more ++ held) free { progress with bound } where
  orderly := orderly
  noted := stands.noted
  typed landmark member := keeps.hasType (stands.typed landmark member)
  holds id member := (List.mem_append.1 member).elim (given id) fun earlier =>
    keeps.toGrows.holds (stands.holds id earlier)
  free := stands.free

/-- A class is noted at a place that was free. -/
theorem note
    {place : Place}
    (stands : Stands landmarks held free progress)
    (isFree : free place)
    (id : ClassId) :
    Stands landmarks held (fun other => free other ∧ other ≠ place)
      { progress with classes := (place, id) :: progress.classes } where
  orderly := stands.orderly
  noted landmark member := by
    have isNoted := stands.noted landmark member
    have apart : landmark.place ≠ place := by
      intro same
      rw [same, stands.free place isFree] at isNoted
      cases isNoted
    rw [List.lookup_cons, beq_false_of_ne apart]
    exact isNoted
  typed := stands.typed
  holds := stands.holds
  free other wasFree := by
    rw [List.lookup_cons, beq_false_of_ne wasFree.2]
    exact stands.free other wasFree.1

end Stands

/-- The classes of landmarks and others that are there. -/
def around (landmarks : List Landmark) (held : List ClassId) : List ClassId :=
  landmarks.map Landmark.id ++ held

theorem Stands.holds_around
    {landmarks : List Landmark}
    {held : List ClassId}
    {free : Place → Prop}
    {progress : Progress}
    (stands : Stands landmarks held free progress) :
    ∀ id ∈ around landmarks held, progress.bound.draft.Holds (.ofClass id) := by
  intro id member
  rcases List.mem_append.1 member with among | isHeld
  · obtain ⟨landmark, isLandmark, rfl⟩ := List.mem_map.1 among
    exact stands.holds_landmark isLandmark
  · exact stands.holds id isHeld

/-- A walk goes along with a sound step. -/
theorem Follows.enact
    {α : Type}
    {landmarks : List Landmark}
    {held : List ClassId}
    {free : Place → Prop}
    {walk : Walk α}
    {step : Binding α}
    {gives : α → List ClassId}
    (enacts : Enacts walk step)
    (sound : Sound (around landmarks held) step gives) :
    Follows (Stands landmarks held free) walk step fun answer value progress =>
      answer = value ∧ Stands landmarks (gives value ++ held) free progress := by
  refine ⟨fun {progress} stands => ?_⟩
  rw [enacts.ends stands.orderly]
  have ends := sound.ends stands.orderly stands.holds_around
  generalize outcome step progress.bound = ended at ends
  cases ends with
  | ok orderly keeps given => exact .ok ⟨rfl, stands.advance orderly keeps given⟩
  | error admissible => exact .error admissible

/-! ## Walks through regions -/

/-- Whether a walk does what a run of the binding does if no class is noted in a region, and notes
none outside it. -/
structure Visits {α : Type} (landmarks : List Landmark) (held : List ClassId)
    (region : Place → Prop) (walk : Walk α) (step : Binding α) : Prop where
  follows : ∀ rest : Place → Prop, (∀ place, region place → ¬rest place) →
    Follows (Stands landmarks held fun place => region place ∨ rest place) walk step
      fun answer value progress => answer = value ∧ Stands landmarks held rest progress

/-- The region of no places. -/
def nowhere (_ : Place) : Prop :=
  False

/-- The places of an element and of all that is inside it. -/
def Site.Covers (site : Site) (place : Place) : Prop :=
  site.place <+: place

/-- The places inside an element. -/
def Site.Inside (site : Site) (place : Place) : Prop :=
  ∃ index, site.place ++ [index] <+: place

namespace Site

variable {site : Site} {child : Nat × Spot} {place : Place}

theorem covers_of_inside
    (inside : site.Inside place) :
    site.Covers place := by
  obtain ⟨index, within⟩ := inside
  exact (List.prefix_append _ _).trans within

theorem inside_of_covers
    (covers : (site.inside child).Covers place) :
    site.Inside place :=
  ⟨child.1, covers⟩

theorem inside_of_inside
    (inside : (site.inside child).Inside place) :
    site.Inside place :=
  inside_of_covers (covers_of_inside inside)

/-- No element is inside itself. -/
theorem not_inside_self
    (site : Site) :
    ¬site.Inside site.place := by
  rintro ⟨index, within⟩
  have shorter := within.length_le
  rw [List.length_append, List.length_singleton] at shorter
  exact Nat.not_succ_le_self _ shorter

end Site

namespace Visits

variable {α β : Type} {landmarks : List Landmark} {held : List ClassId} {region : Place → Prop}

theorem weaken
    {walk : Walk α}
    {step : Binding α}
    {larger : Place → Prop}
    (visits : Visits landmarks held region walk step)
    (within : ∀ place, region place → larger place) :
    Visits landmarks held larger walk step := by
  refine ⟨fun rest apart => ?_⟩
  refine (visits.follows rest fun place inside => apart place (within place inside)).imp ?_ id
  exact fun stands => stands.weaken (fun _ => id) fun place => Or.imp_left (within place)

/-- One walk after another, through regions apart. -/
theorem bind
    {walk : Walk α}
    {step : Binding α}
    {further : α → Walk β}
    {rest : α → Binding β}
    {other : Place → Prop}
    (first : Visits landmarks held region walk step)
    (second : ∀ value, Visits landmarks held other (further value) (rest value))
    (apart : ∀ place, region place → ¬other place) :
    Visits landmarks held (fun place => region place ∨ other place) (walk >>= further)
      (step >>= rest) := by
  refine ⟨fun left outside => ?_⟩
  have firstFollows := first.follows (fun place => other place ∨ left place) fun place inside =>
    not_or.2 ⟨apart place inside, outside place (.inl inside)⟩
  refine .imp (firstFollows.bind fun answer value => ?_)
    (fun stands => stands.weaken (fun _ => id) fun place => or_assoc.2) id
  have secondFollows := (second value).follows left fun place inside => outside place (.inr inside)
  refine ⟨fun {progress} holds => ?_⟩
  obtain ⟨rfl, stands⟩ := holds
  exact secondFollows.ends stands

/-- A walk after one that notes nothing. -/
theorem andThen
    {walk : Walk α}
    {step : Binding α}
    {further : α → Walk β}
    {rest : α → Binding β}
    (first : Visits landmarks held nowhere walk step)
    (second : ∀ value, Visits landmarks held region (further value) (rest value)) :
    Visits landmarks held region (walk >>= further) (step >>= rest) :=
  (first.bind second fun _ => False.elim).weaken fun _ inside => inside.resolve_left id

/-- A walk before one that notes nothing. -/
theorem last
    {walk : Walk α}
    {step : Binding α}
    {further : α → Walk β}
    {rest : α → Binding β}
    (first : Visits landmarks held region walk step)
    (second : ∀ value, Visits landmarks held nowhere (further value) (rest value)) :
    Visits landmarks held region (walk >>= further) (step >>= rest) :=
  (first.bind second fun _ _ => id).weaken fun _ inside => inside.resolve_right id

theorem pure
    (value : α) :
    Visits landmarks held region (Pure.pure value) (Pure.pure value) :=
  ⟨fun _ _ => .pure fun stands => ⟨rfl, stands.weaken (fun _ => id) fun _ => .inr⟩⟩

theorem throw
    {error : SchemaError}
    (admissible : error.Admissible) :
    Visits landmarks held region (MonadExcept.throw (Halt.failed error) : Walk α)
      (MonadExcept.throw error) :=
  ⟨fun _ _ => .throw admissible⟩

theorem enact
    {walk : Walk α}
    {step : Binding α}
    (enacts : Enacts walk step)
    (sound : Sound (around landmarks held) step fun _ => []) :
    Visits landmarks held region walk step :=
  ⟨fun _ _ => (Follows.enact enacts sound).imp
    (fun stands => stands.weaken (fun _ => id) fun _ => .inr) id⟩

theorem need
    {part : Deferred α}
    (clean : IsClean part) :
    Visits landmarks held region (Walk.need part) (Binding.need part) :=
  enact (.need part) (.need clean)

theorem warn
    (warning : Warning) :
    Visits landmarks held region (Walk.warn warning) (Binding.warn warning) :=
  enact (.warn warning) (.warn warning)

theorem addField
    {owner : ClassId}
    (isHeld : owner ∈ held)
    (name : String)
    (type : TypeRef) :
    Visits landmarks held region (Walk.addField owner name type)
      (Binding.addField owner name type) :=
  enact (.addField owner name type) (.addField (List.mem_append_right _ isHeld) name type)

theorem addSupertype
    {owner : ClassId}
    {landmark : Landmark}
    (isHeld : owner ∈ held)
    (isLandmark : landmark ∈ landmarks) :
    Visits landmarks held region (Walk.addSupertype owner landmark.id)
      (Binding.addSupertype owner landmark.id) :=
  enact (.addSupertype owner landmark.id) (.addSupertype (List.mem_append_right _ isHeld)
    (List.mem_append_left _ (List.mem_map_of_mem isLandmark)))

/-! ### Noted classes -/

theorem outcome?_noted?_bind
    (place : Place)
    (further : Option ClassId → Walk α)
    (progress : Progress) :
    (Walk.noted? place >>= further).outcome? progress.walked =
      (further (progress.classes.lookup place)).outcome? progress.walked :=
  rfl

/-- No class is noted at a place of the region. -/
theorem noted?_of_free
    {place : Place}
    {further : Option ClassId → Walk α}
    {step : Binding α}
    (isFree : region place)
    (visits : Visits landmarks held region (further none) step) :
    Visits landmarks held region (Walk.noted? place >>= further) step := by
  refine ⟨fun rest apart => ⟨fun {progress} stands => ?_⟩⟩
  rw [outcome?_noted?_bind, stands.free place (.inl isFree)]
  exact (visits.follows rest apart).ends stands

/-- The class of a landmark is noted. -/
theorem noted?_of_landmark
    {landmark : Landmark}
    {further : Option ClassId → Walk α}
    {step : Binding α}
    (isLandmark : landmark ∈ landmarks)
    (visits : Visits landmarks held region (further (some landmark.id)) step) :
    Visits landmarks held region (Walk.noted? landmark.place >>= further) step := by
  refine ⟨fun rest apart => ⟨fun {progress} stands => ?_⟩⟩
  rw [outcome?_noted?_bind, stands.noted landmark isLandmark]
  exact (visits.follows rest apart).ends stands

theorem classAt
    {landmark : Landmark}
    {further : ClassId → Walk α}
    {step : Binding α}
    (isLandmark : landmark ∈ landmarks)
    (visits : Visits landmarks held region (further landmark.id) step) :
    Visits landmarks held region (Walk.classAt landmark.place >>= further) step := by
  rw [Walk.classAt, bind_assoc]
  apply noted?_of_landmark isLandmark
  rwa [pure_bind]

/-- A class is created and noted for an element of the region, and what is inside the element is
visited before the type of the class is asked for. -/
theorem nested
    {owner : ClassId}
    {place : Place}
    {inner : Place → Prop}
    {further : ClassId → Walk Unit}
    {rest : ClassId → Binding Unit}
    {package : PackageId}
    (name : String)
    (isFirst : package = ⟨0⟩)
    (isHeld : owner ∈ held)
    (isFree : region place)
    (within : ∀ other, inner other → region other ∧ other ≠ place)
    (inside : ∀ id, Visits landmarks (id :: held) inner (further id) (rest id)) :
    Visits landmarks held region
      (do
        let id ← Walk.addClass name package (some owner)
        Walk.note place id
        further id
        Walk.typeOf id)
      (do
        let id ← Binding.addClass name package (some owner)
        rest id
        Binding.typeOf id) := by
  subst isFirst
  refine ⟨fun left apart => ?_⟩
  have addsClass : Sound (around landmarks held) (Binding.addClass name ⟨0⟩ (some owner))
      fun id => [id] :=
    .addClass name fun outer isOuter =>
      List.mem_append_right _ (Option.mem_some.1 isOuter ▸ isHeld)
  refine (Follows.enact (.addClass name ⟨0⟩ (some owner)) addsClass).bind fun id other =>
    ⟨fun {progress} created => ?_⟩
  obtain ⟨rfl, stands⟩ := created
  -- The class is noted before what is inside its complex type is visited, and outside of that.
  have noted : Stands landmarks (id :: held) (fun other => inner other ∨ left other)
      { progress with classes := (place, id) :: progress.classes } := by
    refine (stands.note (.inl isFree) id).weaken (fun _ member => member) ?_
    rintro other (isInner | isLeft)
    · exact ⟨.inl (within other isInner).1, (within other isInner).2⟩
    · exact ⟨.inr isLeft, fun same => apart place isFree (same ▸ isLeft)⟩
  have filled := (inside id).follows left fun other isInner => apart other (within other isInner).1
  have asksType : Sound (around landmarks (id :: held)) (Binding.typeOf id) fun _ => [] :=
    .typeOf (List.mem_append_right _ List.mem_cons_self)
  have typed : Follows (fun progress => () = () ∧ Stands landmarks (id :: held) left progress)
      (Walk.typeOf id) (Binding.typeOf id)
      fun answer value progress => answer = value ∧ Stands landmarks held left progress :=
    (Follows.enact (.typeOf id) asksType).imp And.right fun ⟨same, stands⟩ =>
      ⟨same, stands.weaken (fun _ member => List.mem_cons_of_mem _ member) fun _ isLeft => isLeft⟩
  exact (filled.bind fun _ _ => typed).ends noted

/-! ### Elements one after the other -/

theorem not_covers_of_lt
    {site : Site}
    {left right : Nat × Spot}
    (before : left.1 < right.1)
    {place : Place}
    (covers : (site.inside left).Covers place) :
    ¬(site.inside right).Covers place := by
  intro otherCovers
  have same := List.prefix_of_prefix_length_le covers otherCovers (by simp [Site.inside])
  rw [Site.inside, Site.inside, List.prefix_append_right_inj, List.cons_prefix_cons] at same
  exact Nat.ne_of_lt before same.1

/-- Elements inside another one are visited in their order. -/
theorem forM_inside
    {site : Site}
    {children : List (Nat × Spot)}
    {walk : Site → Walk Unit}
    {step : Nat × Spot → Binding Unit}
    (each : ∀ child ∈ children,
      Visits landmarks held (site.inside child).Covers (walk (site.inside child)) (step child))
    (sorted : children.Pairwise fun left right => left.1 < right.1) :
    Visits landmarks held (fun place => ∃ child ∈ children, (site.inside child).Covers place)
      ((children.map site.inside).forM walk) (forM children step) := by
  induction children with
  | nil => exact pure ()
  | cons child rest inductionHypothesis =>
      obtain ⟨first, others⟩ := List.forall_mem_cons.1 each
      obtain ⟨firstBefore, othersSorted⟩ := List.pairwise_cons.1 sorted
      refine (first.bind (fun _ => inductionHypothesis others othersSorted) ?_).weaken ?_
      · rintro place covers ⟨other, member, otherCovers⟩
        exact not_covers_of_lt (firstBefore other member) covers otherCovers
      · rintro place (covers | ⟨other, member, covers⟩)
        · exact ⟨child, List.mem_cons_self, covers⟩
        · exact ⟨other, List.mem_cons_of_mem _ member, covers⟩

/-- The elements directly inside another one are visited in their order. -/
theorem children
    {site : Site}
    {walk : Site → Walk Unit}
    {step : Nat × Spot → Binding Unit}
    (each : ∀ child ∈ site.spot.children,
      Visits landmarks held (site.inside child).Covers (walk (site.inside child)) (step child)) :
    Visits landmarks held site.Inside (site.children.forM walk) (forM site.spot.children step) :=
  (forM_inside each site.spot.children_sorted).weaken fun _ ⟨child, _, covers⟩ =>
    ⟨child.1, covers⟩

end Visits
end Schema
end SchemaBinding
