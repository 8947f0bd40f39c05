import SchemaBinding.Proofs.BoundTypes
import SchemaBinding.Schema.Binding

/-!
# Runs of the binding

What every successful step of the binding preserves: the draft is built with its own handles, its
only package is that of the schema, its names are generated ones and its fields have types that the
schema can refer to.  Steps are composed by rules, one for each way of writing a step.
-/

namespace SchemaBinding
namespace Schema

/-- What holds of the drafts that lead to the outline of a schema. -/
structure BoundDraft (package : String) (draft : Draft) : Prop where
  built : ∃ transcript, Built transcript draft
  packages : draft.packages = [package]
  names : ∀ {id found}, draft.defined? id = some found → ∃ localName, found.name = className localName
  fields : ∀ field ∈ draft.fields, Text.Nameable field.name.toList ∧ BoundType package field.type

/-- The operations that the binding of a schema carries out. -/
inductive Carries (package : String) : Operation → Prop
  | addClass (localName : String) (enclosing : Option ClassId) :
      Carries package (.addClass (className localName) ⟨0⟩ enclosing)
  | addField (id : ClassId) {name : String} {type : TypeRef} (nameable : Text.Nameable name.toList)
      (bound : BoundType package type) : Carries package (.addField id name type)
  | addSupertype (id supertype : ClassId) : Carries package (.addSupertype id supertype)
  | typeOf (id : ClassId) : Carries package (.typeOf id)

namespace BoundDraft

variable {package : String} {draft : Draft}

theorem holds_package
    (bound : BoundDraft package draft) :
    draft.Holds (.ofPackage ⟨0⟩) := by
  simp [Draft.Holds, bound.packages]

/-- Operations of the binding keep what holds of its drafts. -/
theorem perform
    (bound : BoundDraft package draft)
    {operation : Operation}
    (carries : Carries package operation)
    (holds : ∀ handle ∈ operation.handles, draft.Holds handle) :
    BoundDraft package (draft.perform operation).2 := by
  have builtNext : ∃ transcript, Built transcript (draft.perform operation).2 := by
    obtain ⟨transcript, built⟩ := bound.built
    have given : ∀ handle ∈ operation.handles, transcript.Gives handle := fun handle member =>
      (built.gives_iff_holds handle).2 (holds handle member)
    exact ⟨_, built.perform operation given⟩
  have step := draft.perform_step operation
  generalize draft.perform operation = result at builtNext step ⊢
  obtain ⟨answer, next⟩ := result
  dsimp only at builtNext step ⊢
  cases step with
  | failed | typeOf | knownSupertype => exact bound
  | knownPackage | newPackage | reserve | define => cases carries
  | addClass name home enclosing =>
      cases carries with
      | addClass localName =>
          refine ⟨builtNext, bound.packages, fun {id found} defined => ?_, bound.fields⟩
          rw [Draft.defined?_withClass] at defined
          split at defined
          next =>
            rw [Option.some.injEq] at defined
            exact ⟨localName, by rw [← defined]⟩
          next => exact bound.names defined
  | addField id name type owner found fresh =>
      cases carries with
      | addField _ nameable boundType =>
          refine ⟨builtNext, bound.packages, fun {other value} defined => ?_, ?_⟩
          · rw [Draft.defined?_withField found] at defined
            split at defined
            next =>
              obtain ⟨localName, same⟩ := bound.names found
              rw [Option.some.injEq] at defined
              exact ⟨localName, by rw [← defined, ← same]⟩
            next => exact bound.names defined
          · rw [Draft.fields_withField, List.forall_mem_append, List.forall_mem_singleton]
            exact ⟨bound.fields, nameable, boundType⟩
  | newSupertype id supertype owner found fresh =>
      refine ⟨builtNext, bound.packages, fun {other value} defined => ?_, bound.fields⟩
      rw [Draft.defined?_put_of_defined found] at defined
      split at defined
      next =>
        obtain ⟨localName, same⟩ := bound.names found
        rw [Option.some.injEq] at defined
        exact ⟨localName, by rw [← defined, ← same]⟩
      next => exact bound.names defined

/-- Classes of the draft of a schema have types that its fields can have. -/
theorem boundType_of_typeOf
    (bound : BoundDraft package draft)
    {id : ClassId}
    {type : TypeRef}
    (typed : draft.typeOf id = .ok type) :
    BoundType package type := by
  obtain ⟨found, name, home, defined, named, packaged, rfl⟩ := Draft.hasType_of_typeOf typed
  have isPackage : home = package := by
    have member := List.mem_of_getElem? packaged
    rw [bound.packages, List.mem_singleton] at member
    exact member
  rw [isPackage]
  exact .flat (.reference (classPath_of_dottedName bound.names named))

end BoundDraft

/-! ## Steps -/

/-- The result of a step and the state after it. -/
def outcome {α : Type} (step : Binding α) (state : BindingState) :
    Except SchemaError α × BindingState :=
  Id.run (ExceptT.run step state)

/-- Whether a step succeeds with a value and a next state. -/
def Leads {α : Type} (step : Binding α) (state : BindingState) (value : α) (next : BindingState) :
    Prop :=
  outcome step state = (.ok value, next)

/-- Whether a step, from a draft with some handles, keeps what holds of drafts, loses nothing and
gives out handles and a value with a property. -/
structure Safe {α : Type} (package : String) (requires : List Handle) (step : Binding α)
    (gives : α → List Handle) (property : α → Prop) : Prop where
  preserves : ∀ {state value next}, BoundDraft package state.draft →
    (∀ handle ∈ requires, state.draft.Holds handle) → Leads step state value next →
      BoundDraft package next.draft ∧ state.draft.Grows next.draft ∧
        (∀ handle ∈ gives value, next.draft.Holds handle) ∧ property value

theorem leads_pure_iff
    {α : Type}
    {value result : α}
    {state next : BindingState} :
    Leads (pure value) state result next ↔ value = result ∧ state = next := by
  show ((Except.ok value, state) : Except SchemaError α × BindingState) = (.ok result, next) ↔ _
  rw [Prod.mk.injEq, Except.ok.injEq]

theorem outcome_bind
    {α β : Type}
    (step : Binding α)
    (rest : α → Binding β)
    (state : BindingState) :
    outcome (step >>= rest) state =
      match outcome step state with
      | (.ok value, middle) => outcome (rest value) middle
      | (.error error, middle) => (.error error, middle) := by
  simp only [outcome, ExceptT.run, Bind.bind, ExceptT.bind, ExceptT.mk, StateT.bind, Id.run]
  rcases step state with ⟨result, middle⟩
  cases result <;> rfl

theorem leads_bind_iff
    {α β : Type}
    {step : Binding α}
    {rest : α → Binding β}
    {state next : BindingState}
    {result : β} :
    Leads (step >>= rest) state result next ↔
      ∃ value middle, Leads step state value middle ∧ Leads (rest value) middle result next := by
  unfold Leads
  rw [outcome_bind]
  rcases outcome step state with ⟨found, middle⟩
  cases found <;> simp

theorem not_leads_throw
    {α : Type}
    {error : SchemaError}
    {state next : BindingState}
    {value : α} :
    ¬Leads (throw error) state value next := by
  intro leads
  cases (Prod.mk.inj leads).1

theorem leads_get_iff
    {state value next : BindingState} :
    Leads get state value next ↔ state = value ∧ state = next :=
  leads_pure_iff

theorem leads_set_iff
    {state new next : BindingState}
    {value : PUnit} :
    Leads (set new) state value next ↔ new = next := by
  show ((Except.ok _, new) : Except SchemaError PUnit × BindingState) = (.ok value, next) ↔ _
  rw [Prod.mk.injEq]
  exact and_iff_right rfl

theorem leads_need_iff
    {α : Type}
    {part : Deferred α}
    {state next : BindingState}
    {value : α} :
    Leads (Binding.need part) state value next ↔ part = .ok value ∧ state = next := by
  cases part with
  | ok found =>
      rw [Except.ok.injEq]
      exact leads_pure_iff
  | error error =>
      constructor
      · exact fun leads => absurd leads not_leads_throw
      · exact fun impossible => nomatch impossible.1

namespace Safe

variable {α β : Type} {package : String} {requires : List Handle}

theorem pure
    {value : α}
    {gives : α → List Handle}
    {property : α → Prop}
    (given : gives value ⊆ requires)
    (holds : property value) :
    Safe package requires (Pure.pure value) gives property := by
  refine ⟨fun {state result next} bound held leads => ?_⟩
  obtain ⟨rfl, rfl⟩ := leads_pure_iff.1 leads
  exact ⟨bound, .refl _, fun handle member => held handle (given member), holds⟩

theorem bind
    {step : Binding α}
    {rest : α → Binding β}
    {middleGives : α → List Handle}
    {gives : β → List Handle}
    {middleProperty : α → Prop}
    {property : β → Prop}
    (first : Safe package requires step middleGives middleProperty)
    (second : ∀ value, middleProperty value →
      Safe package (requires ++ middleGives value) (rest value) gives property) :
    Safe package requires (step >>= rest) gives property := by
  refine ⟨fun {state result next} bound held leads => ?_⟩
  obtain ⟨value, middle, leadsFirst, leadsSecond⟩ := leads_bind_iff.1 leads
  obtain ⟨middleBound, grows, given, holds⟩ := first.preserves bound held leadsFirst
  have middleHeld : ∀ handle ∈ requires ++ middleGives value, middle.draft.Holds handle := by
    rw [List.forall_mem_append]
    exact ⟨fun handle member => grows.holds (held handle member), given⟩
  obtain ⟨nextBound, nextGrows, nextGiven, nextHolds⟩ :=
    (second value holds).preserves middleBound middleHeld leadsSecond
  exact ⟨nextBound, grows.trans nextGrows, nextGiven, nextHolds⟩

/-- A step that gives out no handles is followed by one with the same handles. -/
theorem andThen
    {step : Binding α}
    {rest : α → Binding β}
    {gives : β → List Handle}
    {middleProperty : α → Prop}
    {property : β → Prop}
    (first : Safe package requires step (fun _ => []) middleProperty)
    (second : ∀ value, middleProperty value → Safe package requires (rest value) gives property) :
    Safe package requires (step >>= rest) gives property := by
  apply first.bind
  intro value holds
  rw [List.append_nil]
  exact second value holds

/-- A step needs no more handles than some others, and its value may be used for less. -/
theorem weaken
    {step : Binding α}
    {smaller : List Handle}
    {gives more : α → List Handle}
    {property stronger : α → Prop}
    (safe : Safe package smaller step more stronger)
    (enough : smaller ⊆ requires)
    (given : ∀ value, gives value ⊆ more value)
    (holds : ∀ value, stronger value → property value) :
    Safe package requires step gives property := by
  refine ⟨fun {state value next} bound held leads => ?_⟩
  obtain ⟨nextBound, grows, nextGiven, nextHolds⟩ :=
    safe.preserves bound (fun handle member => held handle (enough member)) leads
  exact ⟨nextBound, grows, fun handle member => nextGiven handle (given value member),
    holds value nextHolds⟩

theorem throw
    {error : SchemaError}
    {gives : α → List Handle}
    {property : α → Prop} :
    Safe package requires (MonadExcept.throw error) gives property :=
  ⟨fun _ _ leads => absurd leads not_leads_throw⟩

theorem need
    (part : Deferred α) :
    Safe package requires (Binding.need part) (fun _ => []) fun value => part = .ok value := by
  refine ⟨fun {state value next} bound held leads => ?_⟩
  obtain ⟨found, rfl⟩ := leads_need_iff.1 leads
  exact ⟨bound, .refl _, fun _ member => absurd member List.not_mem_nil, found⟩

theorem warn
    (warning : Warning) :
    Safe package requires (Binding.warn warning) (fun _ => []) fun _ => True := by
  refine ⟨fun {state value next} bound held leads => ?_⟩
  have same : next = { state with warnings := state.warnings ++ [warning] } :=
    (Prod.mk.inj leads).2.symm
  rw [same]
  exact ⟨bound, .refl _, fun _ member => absurd member List.not_mem_nil, trivial⟩

/-- A step that carries out an operation of the binding is safe. -/
theorem of_perform
    {step : Binding α}
    {operation : Operation}
    {gives : α → List Handle}
    {property : α → Prop}
    (carries : Carries package operation)
    (handles : operation.handles ⊆ .ofPackage ⟨0⟩ :: requires)
    (performed : ∀ {state value next}, BoundDraft package state.draft →
      Leads step state value next → next.draft = (state.draft.perform operation).2 ∧
        (∀ handle ∈ gives value, next.draft.Holds handle) ∧ property value) :
    Safe package requires step gives property := by
  refine ⟨fun {state value next} bound held leads => ?_⟩
  obtain ⟨same, given, holds⟩ := performed bound leads
  have operationHeld : ∀ handle ∈ operation.handles, state.draft.Holds handle := by
    intro handle member
    rcases List.mem_cons.1 (handles member) with rfl | required
    · exact bound.holds_package
    · exact held handle required
  rw [same] at given ⊢
  exact ⟨bound.perform carries operationHeld, (state.draft.perform_step operation).grows, given, holds⟩

theorem addClass
    (localName : String)
    (enclosing : Option ClassId)
    (held : enclosing.toList.map Handle.ofClass ⊆ requires) :
    Safe package requires (Binding.addClass (className localName) ⟨0⟩ enclosing)
      (fun id => [.ofClass id]) fun _ => True := by
  apply of_perform (.addClass localName enclosing)
  · exact List.cons_subset_cons _ held
  · intro state id next bound leads
    obtain ⟨sameId, rfl⟩ := Prod.mk.inj leads
    rw [Except.ok.injEq] at sameId
    refine ⟨rfl, ?_, trivial⟩
    rw [List.forall_mem_singleton, ← sameId]
    exact (state.draft.perform_step (.addClass (className localName) ⟨0⟩ enclosing)).holds

theorem typeOf
    (id : ClassId) :
    Safe package requires (Binding.typeOf id) (fun _ => []) (BoundType package) := by
  refine ⟨fun {state type next} bound held leads => ?_⟩
  obtain ⟨_, _, leadsGet, leads⟩ := leads_bind_iff.1 leads
  obtain ⟨rfl, rfl⟩ := leads_get_iff.1 leadsGet
  cases typed : state.draft.typeOf id with
  | error error =>
      rw [typed] at leads
      exact absurd leads not_leads_throw
  | ok found =>
      rw [typed] at leads
      obtain ⟨rfl, rfl⟩ := leads_pure_iff.1 leads
      exact ⟨bound, .refl _, fun _ member => absurd member List.not_mem_nil,
        bound.boundType_of_typeOf typed⟩

theorem addField
    {owner : ClassId}
    {name : String}
    {type : TypeRef}
    (held : .ofClass owner ∈ requires)
    (nameable : Text.Nameable name.toList)
    (boundType : BoundType package type) :
    Safe package requires (Binding.addField owner name type) (fun _ => []) fun _ => True := by
  apply of_perform (.addField owner nameable boundType)
  · exact List.cons_subset.2 ⟨List.mem_cons_of_mem _ held, List.nil_subset _⟩
  · intro state value next bound leads
    obtain ⟨_, _, leadsGet, leads⟩ := leads_bind_iff.1 leads
    obtain ⟨rfl, rfl⟩ := leads_get_iff.1 leadsGet
    cases added : state.draft.addField owner name type with
    | error error =>
        rw [added] at leads
        exact absurd leads not_leads_throw
    | ok result =>
        have performed : (state.draft.perform (.addField owner name type)).2 = result.2 := by
          simp only [Draft.perform, added, Draft.settle]
        rw [added] at leads
        rw [← leads_set_iff.1 leads, performed]
        exact ⟨rfl, fun _ member => absurd member List.not_mem_nil, trivial⟩

theorem addSupertype
    {owner supertype : ClassId}
    (ownerHeld : .ofClass owner ∈ requires)
    (supertypeHeld : .ofClass supertype ∈ requires) :
    Safe package requires (Binding.addSupertype owner supertype) (fun _ => []) fun _ => True := by
  apply of_perform (.addSupertype owner supertype)
  · exact List.cons_subset.2 ⟨List.mem_cons_of_mem _ ownerHeld,
      List.cons_subset.2 ⟨List.mem_cons_of_mem _ supertypeHeld, List.nil_subset _⟩⟩
  · intro state value next bound leads
    obtain ⟨_, _, leadsGet, leads⟩ := leads_bind_iff.1 leads
    obtain ⟨rfl, rfl⟩ := leads_get_iff.1 leadsGet
    cases added : state.draft.addSupertype owner supertype with
    | error error =>
        rw [added] at leads
        exact absurd leads not_leads_throw
    | ok result =>
        have performed : (state.draft.perform (.addSupertype owner supertype)).2 = result := by
          simp only [Draft.perform, added, Draft.settle]
        rw [added] at leads
        rw [← leads_set_iff.1 leads, performed]
        exact ⟨rfl, fun _ member => absurd member List.not_mem_nil, trivial⟩

end Safe

end Schema
end SchemaBinding
