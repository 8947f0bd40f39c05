import SchemaBinding.Element

/-!
# Runs of elements

The operations on an element as data, and scripts of them.  An element is held by itself or shared,
which decides what can be done with it next, so that a script is a path between the two forms.  A
run answers every operation of its script, and an answer may be a refusal.
-/

namespace SchemaBinding
namespace Element

/-- The forms in which an element is held. -/
inductive Form where
  /-- By itself. -/
  | plain
  /-- Shared. -/
  | shared
deriving DecidableEq, Repr

/-- An element in one of its forms. -/
inductive Held (V : Type) : Form → Type where
  /-- An element by itself. -/
  | plain (element : Element V) : Held V .plain
  /-- A shared element. -/
  | shared (element : SharedElement V) : Held V .shared

/-- What is to become the value of an element. -/
inductive Assignment (V : Type) : Type 1 where
  /-- A given value. -/
  | setValue (value : V)
  /-- What a change makes of the value that there is. -/
  | update {R : Type} (change : V → R × V)

/-- An operation on an element in one form, which leaves it in the same or the other form. -/
inductive Operation (V : Type) : Form → Form → Type 1 where
  /-- Assigns a value or changes the one that there is. -/
  | assign {form : Form} (graph : DerivationGraph) (assignment : Assignment V) :
      Operation V form form
  /-- Marks the element as having no content, or takes the mark away. -/
  | setNil (nil : Bool) : Operation V .plain .plain
  /-- Goes on with a copy. -/
  | clone : Operation V .plain .plain
  /-- Shares the element. -/
  | share : Operation V .plain .shared
  /-- Ends the sharing. -/
  | unshare : Operation V .shared .plain

/-- The answer to an operation on an element. -/
inductive Reply (V : Type) : Type 1 where
  /-- The value before the operation. -/
  | previous (value : V)
  /-- The answer of a change. -/
  | changed {R : Type} (result : R)
  /-- The operation is done. -/
  | done

/-- Operations, of which each leaves the element in the form that the next one takes. -/
inductive Script (V : Type) : Form → Form → Type 1 where
  /-- No operation. -/
  | done {form : Form} : Script V form form
  /-- An operation and those after it. -/
  | step {form next last : Form} (operation : Operation V form next) (rest : Script V next last) :
      Script V form last

namespace Assignment

variable {V : Type}

/-- The value that the assignment is to make current, in place of another. -/
def target : Assignment V → V → V
  | .setValue value, _ => value
  | .update change, current => (change current).2

/-- The answer to the assignment if it is not refused. -/
def reply : Assignment V → V → Reply V
  | .setValue _, current => .previous current
  | .update change, current => .changed (change current).1

end Assignment

namespace Held

variable {V : Type}

/-- The element that is held. -/
def element {form : Form} : Held V form → Element V
  | .plain element => element
  | .shared element => element.unshare

/-- The element in its shared form. -/
def toShared {form : Form} : Held V form → SharedElement V
  | .plain element => .share element
  | .shared element => element

/-- Another element in the same form. -/
def replace {form : Form} : Held V form → Element V → Held V form
  | .plain _, element => .plain element
  | .shared _, element => .shared (.share element)

variable [Typed V]

/-- Carries out an operation: the answer or the refusal, and the element after. -/
def perform {form next : Form} : Held V form → Operation V form next →
    Except InvalidSubstitution (Reply V) × Held V next
  | .plain element, .assign graph (.setValue value) =>
      let (outcome, element) := (Element.setValue graph value).on element
      (outcome.map .previous, .plain element)
  | .plain element, .assign graph (.update change) =>
      let (outcome, element) := (Element.update graph change).on element
      (outcome.map .changed, .plain element)
  | .shared element, .assign graph (.setValue value) =>
      let (outcome, element) := (SharedElement.setValue graph value).on element
      (outcome.map .previous, .shared element)
  | .shared element, .assign graph (.update change) =>
      let (outcome, element) := (SharedElement.update graph change).on element
      (outcome.map .changed, .shared element)
  | .plain element, .setNil nil => (.ok .done, .plain (element.setNil nil))
  | .plain element, .clone => (.ok .done, .plain element)
  | .plain element, .share => (.ok .done, .shared (.share element))
  | .shared element, .unshare => (.ok .done, .plain element.unshare)

/-- Carries out a script: the answers and refusals, and the element after. -/
def run {form last : Form} : Held V form → Script V form last →
    List (Except InvalidSubstitution (Reply V)) × Held V last
  | held, .done => ([], held)
  | held, .step operation rest =>
      let (reply, next) := held.perform operation
      let (replies, final) := next.run rest
      (reply :: replies, final)

/-- The element after a script. -/
def after {form last : Form} (held : Held V form) (script : Script V form last) : Held V last :=
  (held.run script).2

end Held

/-! ## Assignments -/

section

variable {V : Type} [Typed V]

theorem on_setValue
    (element : Element V)
    (graph : DerivationGraph)
    (value : V) :
    (setValue graph value).on element =
      match graph.strictlyDerives (Typed.typeOf value) element.declared with
      | .ok substituted => (.ok element.value, { element with value, substituted })
      | .error error => (.error error, element) := by
  simp only [setValue, InPlace.on_bind, InPlace.on_get, InPlace.on_liftM, InPlace.on_modify,
    InPlace.on_modifyGet]
  cases graph.strictlyDerives (Typed.typeOf value) element.declared <;> rfl

theorem on_update
    {R : Type}
    (element : Element V)
    (graph : DerivationGraph)
    (change : V → R × V) :
    (update graph change).on element =
      match graph.strictlyDerives (Typed.typeOf (change element.value).2) element.declared with
      | .ok substituted =>
          (.ok (change element.value).1,
            { element with value := (change element.value).2, substituted })
      | .error error => (.error error, element) := by
  simp only [update, InPlace.on_bind, InPlace.on_get, InPlace.on_pure, on_setValue]
  cases graph.strictlyDerives (Typed.typeOf (change element.value).2) element.declared <;> rfl

/-- An assignment checks the type of the value that it is to make current.  If the type is refused,
the element stays as it is. -/
theorem Held.perform_assign
    {form : Form}
    (held : Held V form)
    (graph : DerivationGraph)
    (assignment : Assignment V) :
    held.perform (.assign graph assignment) =
      match graph.strictlyDerives (Typed.typeOf (assignment.target held.element.value))
        held.element.declared with
      | .ok substituted =>
          (.ok (assignment.reply held.element.value),
            held.replace { held.element with
              value := assignment.target held.element.value, substituted })
      | .error error => (.error error, held) := by
  cases held with
  | plain element =>
      cases assignment with
      | setValue value =>
          simp only [perform, on_setValue, Assignment.target, Held.element]
          cases graph.strictlyDerives (Typed.typeOf value) element.declared <;> rfl
      | update change =>
          simp only [perform, on_update, Assignment.target, Held.element]
          cases graph.strictlyDerives (Typed.typeOf (change element.value).2) element.declared <;>
            rfl
  | shared shared =>
      obtain ⟨element⟩ := shared
      cases assignment with
      | setValue value =>
          simp only [perform, SharedElement.setValue, SharedElement.on_exclusively, on_setValue,
            Assignment.target, Held.element, SharedElement.unshare]
          cases graph.strictlyDerives (Typed.typeOf value) element.declared <;> rfl
      | update change =>
          simp only [perform, SharedElement.update, SharedElement.on_exclusively, on_update,
            Assignment.target, Held.element, SharedElement.unshare]
          cases graph.strictlyDerives (Typed.typeOf (change element.value).2) element.declared <;>
            rfl

/-- An assignment is carried out as a whole or refused. -/
theorem Held.assign_cases
    {form : Form}
    (held : Held V form)
    (graph : DerivationGraph)
    (assignment : Assignment V) :
    (∃ substituted,
      graph.strictlyDerives (Typed.typeOf (assignment.target held.element.value))
        held.element.declared = .ok substituted ∧
      held.perform (.assign graph assignment) =
        (.ok (assignment.reply held.element.value),
          held.replace { held.element with
            value := assignment.target held.element.value, substituted })) ∨
    ∃ error,
      graph.strictlyDerives (Typed.typeOf (assignment.target held.element.value))
        held.element.declared = .error error ∧
      held.perform (.assign graph assignment) = (.error error, held) := by
  rw [perform_assign]
  cases graph.strictlyDerives (Typed.typeOf (assignment.target held.element.value))
    held.element.declared with
  | ok substituted => exact .inl ⟨substituted, rfl, rfl⟩
  | error error => exact .inr ⟨error, rfl, rfl⟩

end

end Element
end SchemaBinding
