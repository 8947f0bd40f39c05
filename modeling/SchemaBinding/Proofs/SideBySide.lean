import SchemaBinding.Proofs.BoundOutlines
import SchemaBinding.Proofs.Faults
import SchemaBinding.Proofs.Reordering

/-!
# Runs side by side

Two runs of the binding, where the second one has other words for faults, other types and other
drafts than the first one.  If the operations on drafts go along with that, all steps do: the runs
fail together and succeed together, and raise the same warnings.
-/

namespace SchemaBinding

/-- The prefix that an error names, if it names one. -/
def SchemaError.label? : SchemaError → Option String
  | prefixNotResolved label => some label
  | _ => none

namespace Schema

/-- Whether two results are both errors, which are related, or both values, of which the second one
is the image of the first one. -/
inductive Matches {Error Other α β : Type} (errors : Error → Other → Prop) (image : α → β) :
    Except Error α → Except Other β → Prop
  /-- Both are errors. -/
  | error {error : Error} {other : Other} (related : errors error other) :
      Matches errors image (.error error) (.error other)
  /-- Both are values. -/
  | ok (value : α) : Matches errors image (.ok value) (.ok (image value))

/-- How a second run of the binding tells what a first one does. -/
structure Retelling where
  /-- The words of the second run for what is at fault in a schema. -/
  retell : SchemaError → SchemaError
  /-- Whether two errors, one of each run, are the same but for the words. -/
  errors : SchemaError → SchemaError → Prop
  /-- The types of the second run. -/
  retype : TypeRef → TypeRef
  /-- The drafts of the second run. -/
  redraft : Draft → Draft
  retold : ∀ error, errors error (retell error)
  unchanged : ∀ {error}, error.label? = none → retell error = error
  builtin : ∀ {name type}, builtinType? name = some type → retype type = type
  listOf : ∀ type, retype (.listOf type) = .listOf (retype type)
  addClass : ∀ draft name package enclosing,
    (redraft draft).addClass name package enclosing =
      (draft.addClass name package enclosing).map id redraft
  typeOf : ∀ draft id, (redraft draft).typeOf id = (draft.typeOf id).map retype
  addField : ∀ draft owner name type,
    Matches (fun error other => errors (.model error) (.model other)) (Prod.map id redraft)
      (draft.addField owner name type) ((redraft draft).addField owner name (retype type))
  addSupertype : ∀ draft owner supertype,
    (redraft draft).addSupertype owner supertype = (draft.addSupertype owner supertype).map redraft

namespace Retelling

variable (retelling : Retelling)

/-! ## What is known of a schema -/

/-- A type that is declared. -/
def definition : TypeDefinition → TypeDefinition
  | .complex id type => .complex id (retelling.retype type)
  | .simple definition => .simple (definition.mapFaults retelling.retell)

/-- An element that is declared. -/
def element (element : ElementDefinition) : ElementDefinition where
  type := element.type.mapFaults retelling.retell
  classType := element.classType.map retelling.retype

/-- The declarations at the top. -/
def globals (globals : Globals) : Globals where
  types := globals.types.map (Prod.map id retelling.definition)
  elements := globals.elements.map (Prod.map id retelling.element)
  attributes := globals.attributes.map (Prod.map id (Use.mapFaults retelling.retell))

/-- What the second pass knows of the schema. -/
def environment (environment : Environment) : Environment where
  target := environment.target
  package := environment.package
  globals := retelling.globals environment.globals

/-- The content that is to fill a class. -/
def body (body : ClassId × List Content) : ClassId × List Content :=
  body.map id (mapFaultsOfContents retelling.retell)

/-- What the first pass has noted. -/
def registry (registry : Registry) : Registry where
  globals := retelling.globals registry.globals
  bodies := registry.bodies.map retelling.body

/-- What the base of a derivation is. -/
def base : Base → Base
  | .any => .any
  | .complex id => .complex id
  | .simple type => .simple (retelling.retype type)

/-- Whether classes are created under one setting as they are under another one. -/
structure Carries (setting other : Setting) : Prop where
  target : other.target = setting.target
  package : other.package = setting.package
  overwrite : other.overwrite = setting.overwrite
  reference : ∀ name, retelling.retype (.reference setting.packageName name) =
    .reference other.packageName name

/-- What has been bound so far. -/
def state (state : BindingState) : BindingState where
  draft := retelling.redraft state.draft
  warnings := state.warnings

/-- Whether a step of the second run does what a step of the first run does. -/
structure Mirrors {α β : Type} (image : α → β) (step : Binding α) (other : Binding β) : Prop where
  results : ∀ state, Matches retelling.errors image (outcome step state).1
    (outcome other (retelling.state state)).1
  states : ∀ state, (outcome other (retelling.state state)).2 =
    retelling.state (outcome step state).2

end Retelling

/-! ## Results -/

namespace Matches

variable {Error Other α β γ δ : Type} {errors : Error → Other → Prop} {image : α → β}

theorem map
    {result : Except Error α}
    {other : Except Other β}
    {change : α → γ}
    {otherChange : β → δ}
    {further : γ → δ}
    (same : Matches errors image result other)
    (commutes : ∀ value, otherChange (image value) = further (change value)) :
    Matches errors further (result.map change) (other.map otherChange) := by
  cases same with
  | error related => exact .error related
  | ok value =>
      show Matches errors further (.ok (change value)) (.ok (otherChange (image value)))
      rw [commutes]
      exact .ok _

/-- A result matches itself if each error is related to itself. -/
theorem refl
    {errors : Error → Error → Prop}
    (related : ∀ error, errors error error)
    (result : Except Error α) :
    Matches errors id result result := by
  cases result with
  | error error => exact .error (related error)
  | ok value => exact .ok value

theorem imp
    {further : Error → Other → Prop}
    {result : Except Error α}
    {other : Except Other β}
    (same : Matches errors image result other)
    (implies : ∀ {error other}, errors error other → further error other) :
    Matches further image result other := by
  cases same with
  | error related => exact .error (implies related)
  | ok value => exact .ok value

theorem bind
    {result : Except Error α}
    {other : Except Other β}
    {rest : α → Except Error γ}
    {otherRest : β → Except Other δ}
    {further : γ → δ}
    (first : Matches errors image result other)
    (second : ∀ value, result = .ok value →
      Matches errors further (rest value) (otherRest (image value))) :
    Matches errors further (result >>= rest) (other >>= otherRest) := by
  cases first with
  | error related => exact .error related
  | ok value => exact second value rfl

theorem foldlM
    {Item : Type}
    {step : α → Item → Except Error α}
    {otherStep : β → Item → Except Other β}
    (each : ∀ value item, Matches errors image (step value item) (otherStep (image value) item))
    (items : List Item)
    (value : α) :
    Matches errors image (items.foldlM step value) (items.foldlM otherStep (image value)) := by
  induction items generalizing value with
  | nil => exact .ok value
  | cons item rest inductionHypothesis =>
      exact (each value item).bind fun next _ => inductionHypothesis next

/-- Results whose errors are related once they are told in other words. -/
theorem ofMapError
    {Told OtherTold : Type}
    {tell : Error → Told}
    {otherTell : Other → OtherTold}
    {errors : Told → OtherTold → Prop}
    {result : Except Error α}
    {other : Except Other β}
    (same : Matches (fun error other => errors (tell error) (otherTell other)) image result other) :
    Matches errors image (result.mapError tell) (other.mapError otherTell) := by
  cases same with
  | error related => exact .error related
  | ok value => exact .ok value

theorem eq_mapError
    {tell : Error → Other}
    {result : Except Error α}
    {other : Except Other α}
    (same : Matches (fun error told => told = tell error) id result other) :
    other = result.mapError tell := by
  cases same with
  | error related => exact congrArg Except.error related
  | ok value => rfl

theorem mapError
    {Kind : Type}
    {kind : Error → Kind}
    {otherKind : Other → Kind}
    {result : Except Error α}
    {other : Except Other β}
    (same : Matches errors image result other)
    (alike : ∀ {error other}, errors error other → otherKind other = kind error) :
    other.mapError otherKind = (result.map image).mapError kind := by
  cases same with
  | error related => exact congrArg Except.error (alike related)
  | ok value => rfl

end Matches

/-! ## Steps -/

namespace Retelling

variable {retelling : Retelling}

theorem draft_state
    (state : BindingState) :
    (retelling.state state).draft = retelling.redraft state.draft :=
  rfl

theorem errors_self
    {error : SchemaError}
    (plain : error.label? = none) :
    retelling.errors error error := by
  have related := retelling.retold error
  rwa [retelling.unchanged plain] at related

theorem matches_mapError
    {α : Type}
    (part : Deferred α) :
    Matches retelling.errors id part (part.mapError retelling.retell) := by
  cases part with
  | error error => exact .error (retelling.retold error)
  | ok value => exact .ok value

namespace Mirrors

variable {α β γ δ : Type} {image : α → β} {further : γ → δ}

theorem pure
    (value : α) :
    retelling.Mirrors image (Pure.pure value) (Pure.pure (image value)) where
  results _ := .ok value
  states _ := rfl

theorem bind
    {step : Binding α}
    {other : Binding β}
    {rest : α → Binding γ}
    {otherRest : β → Binding δ}
    (first : retelling.Mirrors image step other)
    (second : ∀ value, retelling.Mirrors further (rest value) (otherRest (image value))) :
    retelling.Mirrors further (step >>= rest) (other >>= otherRest) := by
  suffices both : ∀ state, Matches retelling.errors further (outcome (step >>= rest) state).1
      (outcome (other >>= otherRest) (retelling.state state)).1 ∧
        (outcome (other >>= otherRest) (retelling.state state)).2 =
          retelling.state (outcome (step >>= rest) state).2 from
    ⟨fun state => (both state).1, fun state => (both state).2⟩
  intro state
  have results := first.results state
  have states := first.states state
  rw [outcome_bind, outcome_bind]
  generalize outcome step state = run at results states ⊢
  generalize outcome other (retelling.state state) = otherRun at results states ⊢
  obtain ⟨result, middle⟩ := run
  obtain ⟨otherResult, otherMiddle⟩ := otherRun
  obtain rfl : otherMiddle = retelling.state middle := states
  cases results with
  | error related => exact ⟨.error related, rfl⟩
  | ok value => exact ⟨(second value).results middle, (second value).states middle⟩

/-- A step whose value is used in the same way. -/
theorem andThen
    {step other : Binding α}
    {rest : α → Binding γ}
    {otherRest : α → Binding δ}
    (first : retelling.Mirrors id step other)
    (second : ∀ value, retelling.Mirrors further (rest value) (otherRest value)) :
    retelling.Mirrors further (step >>= rest) (other >>= otherRest) :=
  first.bind second

theorem throw
    {error other : SchemaError}
    (related : retelling.errors error other) :
    retelling.Mirrors image (MonadExcept.throw error) (MonadExcept.throw other) where
  results _ := .error related
  states _ := rfl

theorem warn
    (warning : Warning) :
    retelling.Mirrors id (Binding.warn warning) (Binding.warn warning) where
  results _ := .ok ()
  states _ := rfl

theorem need
    {part : Deferred α}
    {other : Deferred β}
    (same : Matches retelling.errors image part other) :
    retelling.Mirrors image (Binding.need part) (Binding.need other) := by
  cases same with
  | error related => exact .throw related
  | ok value => exact .pure value

theorem needPart
    (part : Deferred α) :
    retelling.Mirrors id (Binding.need part) (Binding.need (part.mapError retelling.retell)) :=
  .need (matches_mapError part)

theorem addClass
    (name : String)
    (package : PackageId)
    (enclosing : Option ClassId) :
    retelling.Mirrors id (Binding.addClass name package enclosing)
      (Binding.addClass name package enclosing) := by
  have created (state : BindingState) : outcome (Binding.addClass name package enclosing) state =
      (.ok (state.draft.addClass name package enclosing).1,
        { state with draft := (state.draft.addClass name package enclosing).2 }) :=
    rfl
  have same (state : BindingState) :=
    retelling.addClass state.draft name package enclosing
  constructor
  · intro state
    rw [created, created, draft_state, same]
    exact .ok _
  · intro state
    rw [created, created, draft_state, same]
    rfl

/-- Steps that ask for the state do the same if they do in each state. -/
theorem ofGet
    {step : BindingState → Binding α}
    {other : BindingState → Binding β}
    (each : ∀ state, retelling.Mirrors image (step state) (other (retelling.state state))) :
    retelling.Mirrors image (get >>= step) (get >>= other) where
  results state := (each state).results state
  states state := (each state).states state

theorem ofSet
    (state : BindingState) :
    retelling.Mirrors id (set state : Binding PUnit) (set (retelling.state state)) where
  results _ := .ok _
  states _ := rfl

theorem typeOf
    (id : ClassId) :
    retelling.Mirrors retelling.retype (Binding.typeOf id) (Binding.typeOf id) := by
  refine ofGet fun state => ?_
  rw [draft_state, retelling.typeOf]
  cases state.draft.typeOf id with
  | error error => exact .throw (errors_self rfl)
  | ok type => exact .pure type

theorem addField
    (owner : ClassId)
    (name : String)
    (type : TypeRef) :
    retelling.Mirrors id (Binding.addField owner name type)
      (Binding.addField owner name (retelling.retype type)) := by
  refine ofGet fun state => ?_
  have same := retelling.addField state.draft owner name type
  rw [draft_state]
  generalize state.draft.addField owner name type = result at same ⊢
  generalize (retelling.redraft state.draft).addField owner name (retelling.retype type) = other
    at same ⊢
  cases same with
  | error related => exact .throw related
  | ok value => exact .ofSet { state with draft := value.2 }

theorem addSupertype
    (owner supertype : ClassId) :
    retelling.Mirrors id (Binding.addSupertype owner supertype)
      (Binding.addSupertype owner supertype) := by
  refine ofGet fun state => ?_
  rw [draft_state, retelling.addSupertype]
  cases state.draft.addSupertype owner supertype with
  | error error => exact .throw (errors_self rfl)
  | ok draft => exact .ofSet { state with draft }

end Mirrors

end Retelling
end Schema
end SchemaBinding
