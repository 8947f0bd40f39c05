import SchemaBinding.Derivation.BaseTable
import SchemaBinding.Proofs.Derivations
import SchemaBinding.Proofs.ElementRuns

/-!
# Substitutions

What an element records of the type of its value, and what refused assignments leave of it.  The
record is right after every run, whatever the derivation graphs of its assignments say.  A refused
assignment leaves nothing behind: a run goes on as if it had not been tried.
-/

namespace SchemaBinding
namespace Element

variable {V : Type} [Typed V] {form next last : Form}

/-! ## An order

An element for orders, to which an exempt order and then a text are assigned.
-/

/-- A text of a given type. -/
structure TypedText where
  /-- The type. -/
  type : TypeRef
  /-- The text. -/
  text : String
deriving DecidableEq

instance : Typed TypedText :=
  ⟨TypedText.type⟩

/-- The type of orders, with that of exempt orders below it. -/
def orderBases : BaseTable :=
  ⟨[(.reference "ipo" "ExemptOrder", .reference "ipo" "Order")]⟩

/-- An element whose value is an order. -/
def order : Element TypedText :=
  ⟨⟨none, "order"⟩, .reference "ipo" "Order", .global, ⟨.reference "ipo" "Order", "first"⟩, false,
    false⟩

/-- An exempt order. -/
def exemptOrder : TypedText :=
  ⟨.reference "ipo" "ExemptOrder", "second"⟩

/-- Assigns an exempt order, shares the element and tries to make a text of the order. -/
def exempting : Script TypedText .plain .shared :=
  .step (.assign orderBases.graph (.setValue exemptOrder)) <|
    .step .share <|
      .step (.assign orderBases.graph
        (.update fun order => (order.text.length, ⟨.string, order.text ++ "?"⟩))) .done

/-! ## Refusals -/

/-- An assignment that is not refused is answered with what it is to be answered with. -/
theorem Held.eq_reply_of_assign
    {held : Held V form}
    {graph : DerivationGraph}
    {assignment : Assignment V}
    {reply : Reply V}
    (answered : (held.perform (.assign graph assignment)).1 = .ok reply) :
    reply = assignment.reply held.element.value := by
  rcases held.assign_cases graph assignment with ⟨_, _, performed⟩ | ⟨_, _, refused⟩
  · rw [performed] at answered
    exact (Except.ok.inj answered).symm
  · rw [refused] at answered
    cases answered

/-- An assignment is refused exactly if the type of the value that it is to make current is neither
the declared type nor derived from it. -/
theorem Held.reply_assign_eq_error_iff
    {held : Held V form}
    {graph : DerivationGraph}
    {assignment : Assignment V}
    {error : InvalidSubstitution} :
    (held.perform (.assign graph assignment)).1 = .error error ↔
      error = ⟨held.element.declared, Typed.typeOf (assignment.target held.element.value)⟩ ∧
        Typed.typeOf (assignment.target held.element.value) ≠ held.element.declared ∧
          ¬graph.isAncestor held.element.declared
            (Typed.typeOf (assignment.target held.element.value)) := by
  rw [← DerivationGraph.strictlyDerives_eq_error_iff]
  rcases held.assign_cases graph assignment with ⟨_, checked, performed⟩ | ⟨_, checked, refused⟩
  · rw [checked, performed]
    simp
  · rw [checked, refused]
    simp

/-- A refused assignment leaves the element as it was. -/
theorem Held.perform_of_refused
    {held : Held V form}
    {graph : DerivationGraph}
    {assignment : Assignment V}
    {error : InvalidSubstitution}
    (isError : (held.perform (.assign graph assignment)).1 = .error error) :
    held.perform (.assign graph assignment) = (.error error, held) := by
  rcases held.assign_cases graph assignment with ⟨_, _, performed⟩ | ⟨_, _, refused⟩
  · rw [performed] at isError
    cases isError
  · rw [refused] at isError
    rw [refused, ← isError]

/-- The script without the assignments that are refused when it is run. -/
def Held.accepted {form last : Form} : Held V form → Script V form last → Script V form last
  | _, .done => .done
  | held, .step (.assign graph assignment) rest =>
      let (reply, next) := held.perform (.assign graph assignment)
      if reply.isOk then .step (.assign graph assignment) (next.accepted rest)
      else next.accepted rest
  | held, .step operation rest => .step operation ((held.perform operation).2.accepted rest)

theorem Held.accepted_step
    {held : Held V form}
    {operation : Operation V form next}
    {reply : Reply V}
    {after : Held V next}
    (answered : held.perform operation = (.ok reply, after))
    (rest : Script V next last) :
    held.accepted (.step operation rest) = .step operation (after.accepted rest) := by
  cases operation with
  | assign graph assignment => simp only [accepted, answered, Except.isOk, Except.toBool, if_true]
  | setNil nil | clone | share | unshare => simp only [accepted, answered]

theorem Held.accepted_step_of_refused
    {held after : Held V form}
    {graph : DerivationGraph}
    {assignment : Assignment V}
    {error : InvalidSubstitution}
    (refused : held.perform (.assign graph assignment) = (.error error, after))
    (rest : Script V form last) :
    held.accepted (.step (.assign graph assignment) rest) = after.accepted rest := by
  simp [accepted, refused, Except.isOk, Except.toBool]

theorem Held.run_accepted
    (held : Held V form)
    (script : Script V form last) :
    held.run (held.accepted script) =
      ((held.run script).1.filter Except.isOk, (held.run script).2) := by
  induction script with
  | done => rfl
  | step operation rest inductionHypothesis =>
      cases outcome : held.perform operation with
      | mk reply after =>
          cases reply with
          | ok reply =>
              rw [accepted_step outcome, run, run, outcome]
              dsimp only
              rw [inductionHypothesis, List.filter_cons_of_pos rfl]
          | error error =>
              cases operation with
              | assign graph assignment =>
                  have unchanged := perform_of_refused (congrArg Prod.fst outcome)
                  rw [accepted_step_of_refused outcome, run, outcome]
                  cases outcome.symm.trans unchanged
                  dsimp only
                  rw [inductionHypothesis, List.filter_cons_of_neg Bool.false_ne_true]
              | setNil nil | clone | share | unshare =>
                  cases held
                  cases outcome

/-- Refused assignments are invisible.  Without them a script leads to the same element and has the
same other answers.  After any script, an assignment is refused exactly if the type of what it is to
make current is neither the declared type nor derived from it, and assigning a value is otherwise
answered with the value that was current. -/
theorem Held.refusals_invisible
    {held : Held V form}
    {script : Script V form last}
    {final : Held V last}
    (isAfter : held.after script = final) :
    held.run (held.accepted script) = ((held.run script).1.filter Except.isOk, final) ∧
      (∀ graph assignment error, (final.perform (.assign graph assignment)).1 = .error error ↔
        error = ⟨final.element.declared, Typed.typeOf (assignment.target final.element.value)⟩ ∧
          Typed.typeOf (assignment.target final.element.value) ≠ final.element.declared ∧
          ¬graph.isAncestor final.element.declared
            (Typed.typeOf (assignment.target final.element.value))) ∧
      ∀ graph value reply, (final.perform (.assign graph (.setValue value))).1 = .ok reply →
        reply = .previous final.element.value := by
  subst isAfter
  refine ⟨held.run_accepted script, ?_, ?_⟩
  · exact fun graph assignment error => reply_assign_eq_error_iff
  · exact fun graph value reply answered => eq_reply_of_assign answered

theorem exempting_refusals :
    (Held.plain order).run
        (.step (.assign orderBases.graph (.setValue exemptOrder)) (.step .share .done)) =
        ([.ok (.previous order.value), .ok .done], (Held.plain order).after exempting) ∧
      (((Held.plain order).after exempting).perform
        (.assign orderBases.graph (.setValue ⟨.string, "third"⟩))).1 =
          .error ⟨.reference "ipo" "Order", .string⟩ ∧
      ∃ reply, (((Held.plain order).after exempting).perform
        (.assign orderBases.graph (.setValue order.value))).1 = .ok reply ∧
          reply = .previous exemptOrder := by
  have current : ((Held.plain order).after exempting).element =
      { order with value := exemptOrder, substituted := true } := rfl
  obtain ⟨same, refused, answered⟩ :=
    Held.refusals_invisible (show (Held.plain order).after exempting = _ from rfl)
  rw [current] at refused answered
  have reply : (((Held.plain order).after exempting).perform
      (.assign orderBases.graph (.setValue order.value))).1 = .ok (.previous exemptOrder) := rfl
  refine ⟨?_, ?_, ?_⟩
  · have accepted : (Held.plain order).accepted exempting =
        .step (.assign orderBases.graph (.setValue exemptOrder)) (.step .share .done) := rfl
    have replies : ((Held.plain order).run exempting).1.filter Except.isOk =
        [.ok (.previous order.value), .ok .done] := rfl
    rw [accepted, replies] at same
    exact same
  · exact (refused _ _ _).2 ⟨rfl, by decide, by decide⟩
  · exact ⟨_, reply, answered _ _ _ reply⟩

/-! ## The record -/

/-- Whether an element is declared in a given way and records what a graph says of its value. -/
structure Recorded (element : Element V) (graph : DerivationGraph) (name : ExpandedName)
    (declared : TypeRef) (scope : ElementScope) : Prop where
  name_eq : element.name = name
  declared_eq : element.declared = declared
  scope_eq : element.scope = scope
  checked : graph.strictlyDerives (Typed.typeOf element.value) declared = .ok element.substituted

/-- The graph of the last assignment that was not refused, after one more operation. -/
def Operation.graphAfter {V : Type} {form next : Form} :
    Operation V form next → Except InvalidSubstitution (Reply V) → DerivationGraph →
      DerivationGraph
  | .assign graph _, .ok _, _ => graph
  | _, _, graph => graph

/-- The graph of the last assignment that is not refused in a script, or the one before it. -/
def Held.lastGraph {form last : Form} :
    Held V form → Script V form last → DerivationGraph → DerivationGraph
  | _, .done, graph => graph
  | held, .step operation rest, graph =>
      let (reply, next) := held.perform operation
      next.lastGraph rest (operation.graphAfter reply graph)

section

variable {graph : DerivationGraph} {name : ExpandedName} {declared : TypeRef}
  {scope : ElementScope} {element : Element V}

theorem recorded_of_wrap
    {value : V}
    (wrapped : wrap graph name declared scope value = .ok element) :
    element.Recorded graph name declared scope := by
  unfold wrap at wrapped
  cases checked : graph.strictlyDerives (Typed.typeOf value) declared with
  | ok substituted =>
      rw [checked] at wrapped
      cases wrapped
      exact ⟨rfl, rfl, rfl, checked⟩
  | error error =>
      rw [checked] at wrapped
      cases wrapped

theorem Held.element_replace
    {V : Type}
    (held : Held V form)
    (element : Element V) :
    (held.replace element).element = element := by
  cases held <;> rfl

/-- Every operation keeps the declaration, and the record stays right. -/
theorem Recorded.perform
    {held : Held V form}
    (recorded : held.element.Recorded graph name declared scope)
    (operation : Operation V form next) :
    (held.perform operation).2.element.Recorded
      (operation.graphAfter (held.perform operation).1 graph) name declared scope := by
  cases operation with
  | assign assigned assignment =>
      rcases held.assign_cases assigned assignment with
        ⟨_, checked, performed⟩ | ⟨_, _, refused⟩
      · rw [performed]
        dsimp only [Operation.graphAfter]
        rw [Held.element_replace]
        rw [recorded.declared_eq] at checked
        exact ⟨recorded.name_eq, recorded.declared_eq, recorded.scope_eq, checked⟩
      · rw [refused]
        exact recorded
  | setNil nil | clone | share | unshare =>
      cases held
      exact ⟨recorded.name_eq, recorded.declared_eq, recorded.scope_eq, recorded.checked⟩

/-- The record is right after every run. -/
theorem Recorded.after
    {held : Held V form}
    (recorded : held.element.Recorded graph name declared scope)
    (script : Script V form last) :
    (held.after script).element.Recorded (held.lastGraph script graph) name declared scope := by
  induction script generalizing graph with
  | done => exact recorded
  | step operation rest inductionHypothesis =>
      exact inductionHypothesis (recorded.perform operation)

theorem Recorded.substituted_iff
    (recorded : element.Recorded graph name declared scope) :
    element.substituted ↔ Typed.typeOf element.value ≠ declared := by
  have checked := recorded.checked
  cases substituted : element.substituted with
  | true =>
      rw [substituted, DerivationGraph.strictlyDerives_eq_true_iff] at checked
      simp [checked.1]
  | false =>
      rw [substituted, DerivationGraph.strictlyDerives_eq_false_iff] at checked
      simp [checked]

theorem Recorded.isAncestor
    (recorded : element.Recorded graph name declared scope)
    (substituted : element.substituted) :
    graph.isAncestor declared (Typed.typeOf element.value) := by
  have checked := recorded.checked
  rw [substituted, DerivationGraph.strictlyDerives_eq_true_iff] at checked
  exact checked.2

/-- After every run an element knows whether its value is substituted, which is to say not of the
declared type but of one derived from it, by the graph of the last assignment.  The annotation and
the derived shape go by it, and sharing shows it with the value.  The declaration never changes. -/
theorem record_of_run
    {value : V}
    (wrapped : wrap graph name declared scope value = .ok element)
    (script : Script V .plain last)
    {final : Held V last}
    (isAfter : (Held.plain element).after script = final) :
    (final.element.substituted ↔ Typed.typeOf final.element.value ≠ declared) ∧
      (final.element.substituted →
        ((Held.plain element).lastGraph script graph).isAncestor declared
          (Typed.typeOf final.element.value)) ∧
      (∀ type, final.element.annotation? = some type ↔
        final.element.substituted ∧ type = Typed.typeOf final.element.value) ∧
      (∀ (D : Type) [Derived V D] (shape : D),
        final.element.asDerived? = some shape → final.element.substituted) ∧
      final.toShared.snapshot = (final.element.value, final.element.substituted) ∧
      final.element.name = name ∧ final.element.declared = declared ∧
      final.element.scope = scope := by
  subst isAfter
  have first : (Held.plain element).element.Recorded graph name declared scope :=
    recorded_of_wrap wrapped
  have recorded := first.after script
  refine ⟨recorded.substituted_iff, recorded.isAncestor, ?_, ?_, ?_, recorded.name_eq,
    recorded.declared_eq, recorded.scope_eq⟩
  · intro type
    unfold annotation?
    split
    next substituted => simp [substituted, eq_comm]
    next plain => simp [plain]
  · intro D _ shape isShape
    unfold asDerived? at isShape
    split at isShape
    next substituted => exact substituted
    next => cases isShape
  · cases (Held.plain element).after script <;> rfl

theorem exempting_record :
    wrap orderBases.graph order.name order.declared order.scope order.value = .ok order ∧
      ((Held.plain order).after exempting).element.substituted ∧
      ((Held.plain order).after exempting).element.annotation? =
        some (.reference "ipo" "ExemptOrder") := by
  have wrapped :
      wrap orderBases.graph order.name order.declared order.scope order.value = .ok order := rfl
  have value : ((Held.plain order).after exempting).element.value = exemptOrder := rfl
  obtain ⟨substituted, _, annotated, _⟩ := record_of_run wrapped exempting rfl
  rw [value] at substituted annotated
  have isSubstituted := substituted.2 (by decide)
  exact ⟨wrapped, isSubstituted, (annotated _).2 ⟨isSubstituted, rfl⟩⟩

end

end Element
end SchemaBinding
