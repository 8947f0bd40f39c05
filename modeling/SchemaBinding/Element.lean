import SchemaBinding.Derivation
import SchemaBinding.ExpandedName

/-!
# Element values

The value of an element together with the type declared for the element.  The type of the value may
be the declared one or one derived from it, and the element records which.  Assignments work on the
element in place.  Each checks the type first and then records the answer anew, so that the record
never lags behind the value.
-/

namespace SchemaBinding

/-- Work on a state in place that may be refused.  Refused work leaves the state as it was when the
work broke off. -/
abbrev InPlace (State Answer : Type) : Type :=
  ExceptT InvalidSubstitution (StateM State) Answer

namespace InPlace

variable {State Answer Next : Type}

/-- Does the work on a state: the answer or the refusal, and the state after. -/
def on (work : InPlace State Answer) (state : State) : Except InvalidSubstitution Answer × State :=
  (work.run.run state).run

@[simp] theorem on_pure (answer : Answer) (state : State) :
    (pure answer : InPlace State Answer).on state = (.ok answer, state) :=
  rfl

@[simp] theorem on_bind (work : InPlace State Answer) (next : Answer → InPlace State Next)
    (state : State) :
    (work >>= next).on state =
      match work.on state with
      | (.ok answer, after) => (next answer).on after
      | (.error error, after) => (.error error, after) := by
  unfold on
  rw [ExceptT.run_bind, StateT.run_bind]
  generalize work.run.run state = outcome
  obtain ⟨_ | _, after⟩ := outcome <;> rfl

@[simp] theorem on_get (state : State) : (get : InPlace State State).on state = (.ok state, state) :=
  rfl

@[simp] theorem on_modify (change : State → State) (state : State) :
    (modify change : InPlace State PUnit).on state = (.ok ⟨⟩, change state) :=
  rfl

@[simp] theorem on_modifyGet (change : State → Answer × State) (state : State) :
    (modifyGet change : InPlace State Answer).on state = (.ok (change state).1, (change state).2) :=
  rfl

@[simp] theorem on_liftM (outcome : Except InvalidSubstitution Answer) (state : State) :
    (liftM outcome : InPlace State Answer).on state = (outcome, state) :=
  rfl

end InPlace

/-- Values that know their type. -/
class Typed (V : Type) where
  /-- The type of a value. -/
  typeOf : V → TypeRef

/-- Values that may have a derived shape beside their declared one. -/
class Derived (V D : Type) where
  /-- The derived shape of a value, if it has that shape. -/
  asDerived : V → Option D

/-- Where an element is declared. -/
inductive ElementScope where
  /-- At the top of a schema. -/
  | global
  /-- Inside a type. -/
  | inside (parent : TypeRef)
deriving DecidableEq, Repr

/-- The type around the declaration. -/
def ElementScope.parent? : ElementScope → Option TypeRef
  | .global => none
  | .inside parent => some parent

/-- A value and the element that it is the value of. -/
structure Element (V : Type) where
  /-- The name of the element. -/
  name : ExpandedName
  /-- The type declared for the element. -/
  declared : TypeRef
  /-- Where the element is declared. -/
  scope : ElementScope
  /-- The value. -/
  value : V
  /-- Whether the element is marked as having no content. -/
  nil : Bool
  /-- Whether the value had a type other than the declared one when it was assigned. -/
  substituted : Bool

namespace Element

section

variable {V : Type} [Typed V]

/-- An element with its first value. -/
def wrap (graph : DerivationGraph) (name : ExpandedName) (declared : TypeRef)
    (scope : ElementScope) (value : V) : Except InvalidSubstitution (Element V) := do
  let substituted ← graph.strictlyDerives (Typed.typeOf value) declared
  return ⟨name, declared, scope, value, false, substituted⟩

/-- Assigns a value; the answer is the value before. -/
def setValue (graph : DerivationGraph) (value : V) : InPlace (Element V) V := do
  let substituted ← graph.strictlyDerives (Typed.typeOf value) (← get).declared
  modify fun element => { element with substituted }
  modifyGet fun element => (element.value, { element with value })

/-- Assigns what a change makes of the value; the answer is that of the change. -/
def update {R : Type} (graph : DerivationGraph) (change : V → R × V) : InPlace (Element V) R := do
  let (answer, value) := change (← get).value
  let _ ← setValue graph value
  return answer

/-- The type to announce beside the value: its own, if that is not the declared one. -/
def annotation? (element : Element V) : Option TypeRef :=
  if element.substituted then some (Typed.typeOf element.value) else none

end

section

variable {V : Type}

/-- Marks the element as having no content, or takes the mark away. -/
def setNil (element : Element V) (nil : Bool) : Element V :=
  { element with nil }

/-- Whether the element is declared at the top of a schema. -/
def isGlobal (element : Element V) : Bool :=
  element.scope = .global

/-- The derived shape of the value, if its type is not the declared one. -/
def asDerived? {D : Type} [Derived V D] (element : Element V) : Option D :=
  if element.substituted then Derived.asDerived element.value else none

end

end Element

/-- An element whose value and record are only read together. -/
structure SharedElement (V : Type) where
  /-- The element that is shared. -/
  element : Element V

namespace SharedElement

variable {V : Type}

/-- Shares an element. -/
def share (element : Element V) : SharedElement V :=
  ⟨element⟩

/-- The element, no longer shared. -/
def unshare (shared : SharedElement V) : Element V :=
  shared.element

/-- The value, and whether its type is not the declared one. -/
def snapshot (shared : SharedElement V) : V × Bool :=
  (shared.element.value, shared.element.substituted)

/-- Does work on the element that is shared. -/
def exclusively {Answer : Type} (work : InPlace (Element V) Answer) :
    InPlace (SharedElement V) Answer :=
  .mk <| modifyGet fun shared =>
    let (answer, element) := work.on shared.element
    (answer, ⟨element⟩)

@[simp] theorem on_exclusively {Answer : Type} (work : InPlace (Element V) Answer)
    (shared : SharedElement V) :
    (exclusively work).on shared = ((work.on shared.element).1, ⟨(work.on shared.element).2⟩) :=
  rfl

variable [Typed V]

/-- Assigns a value; the answer is the value before. -/
def setValue (graph : DerivationGraph) (value : V) : InPlace (SharedElement V) V :=
  exclusively (Element.setValue graph value)

/-- Assigns what a change makes of the value; the answer is that of the change. -/
def update {R : Type} (graph : DerivationGraph) (change : V → R × V) :
    InPlace (SharedElement V) R :=
  exclusively (Element.update graph change)

end SharedElement
end SchemaBinding
