import SchemaBinding.Outline.Finish

/-!
# Transcripts of drafts

The operations on a draft as data, and what a draft answers to each of them.  A transcript lists the
operations that led from the empty draft to another one, with their answers.  Every handle that is
passed to an operation was given out by an earlier answer, so that all handles inside a draft are
handles of that draft.
-/

namespace SchemaBinding

/-- A handle that a draft gives out. -/
inductive Handle where
  /-- The handle of a package. -/
  | ofPackage (id : PackageId)
  /-- The handle of a class. -/
  | ofClass (id : ClassId)
  /-- The handle of a field. -/
  | ofField (id : FieldId)
deriving DecidableEq, Repr

/-- An operation on a draft. -/
inductive Operation where
  /-- Asks for the package of a name. -/
  | package (name : String)
  /-- Reserves a class. -/
  | reserve
  /-- Defines a reserved class. -/
  | define (id : ClassId) (name : String) (package : PackageId) (enclosing : Option ClassId)
  /-- Reserves a class and defines it. -/
  | addClass (name : String) (package : PackageId) (enclosing : Option ClassId)
  /-- Gives a class a field. -/
  | addField (id : ClassId) (name : String) (type : TypeRef)
  /-- Gives a class a supertype. -/
  | addSupertype (id supertype : ClassId)
  /-- Asks for the type of a class. -/
  | typeOf (id : ClassId)
deriving DecidableEq

/-- The handles that an operation is given. -/
def Operation.handles : Operation → List Handle
  | package _ => []
  | reserve => []
  | define id _ home enclosing =>
      .ofClass id :: .ofPackage home :: enclosing.toList.map .ofClass
  | addClass _ home enclosing => .ofPackage home :: enclosing.toList.map .ofClass
  | addField id _ _ => [.ofClass id]
  | addSupertype id supertype => [.ofClass id, .ofClass supertype]
  | typeOf id => [.ofClass id]

/-- The answer to an operation. -/
inductive Answer where
  /-- A handle. -/
  | handle (handle : Handle)
  /-- A type. -/
  | type (type : TypeRef)
  /-- The operation is done. -/
  | done
  /-- The operation failed. -/
  | failed (error : ModelError)
deriving DecidableEq

namespace Draft

/-- The answer and the draft that a fallible operation leads to. -/
def settle {Result : Type} (draft : Draft) (next : Result → Answer × Draft) :
    Except ModelError Result → Answer × Draft
  | .ok result => next result
  | .error error => (.failed error, draft)

/-- Carries out an operation. -/
def perform (draft : Draft) : Operation → Answer × Draft
  | .package name => (.handle (.ofPackage (draft.package name).1), (draft.package name).2)
  | .reserve => (.handle (.ofClass draft.reserve.1), draft.reserve.2)
  | .define id name package enclosing =>
      draft.settle (fun (id, next) => (.handle (.ofClass id), next))
        (draft.define id name package enclosing)
  | .addClass name package enclosing =>
      (.handle (.ofClass (draft.addClass name package enclosing).1),
        (draft.addClass name package enclosing).2)
  | .addField id name type =>
      draft.settle (fun (field, next) => (.handle (.ofField field), next))
        (draft.addField id name type)
  | .addSupertype id supertype =>
      draft.settle (fun next => (.done, next)) (draft.addSupertype id supertype)
  | .typeOf id => draft.settle (fun type => (.type type, draft)) (draft.typeOf id)

end Draft

/-- An operation and the answer to it. -/
structure Entry where
  /-- The operation. -/
  operation : Operation
  /-- The answer. -/
  answer : Answer
deriving DecidableEq

/-- The operations carried out so far, each with its answer. -/
abbrev Transcript := List Entry

/-- Whether a handle was given out. -/
def Transcript.Gives (transcript : Transcript) (handle : Handle) : Prop :=
  ∃ entry ∈ transcript, entry.answer = .handle handle

/-- A draft, with the transcript of the operations that built it from the empty draft. -/
inductive Built : Transcript → Draft → Prop
  /-- Nothing has been carried out. -/
  | empty : Built [] .empty
  /-- One more operation is carried out, with handles that were given out. -/
  | perform {transcript : Transcript} {draft : Draft} (built : Built transcript draft)
      (operation : Operation)
      (given : ∀ handle ∈ operation.handles, transcript.Gives handle) :
      Built (transcript ++ [⟨operation, (draft.perform operation).1⟩])
        (draft.perform operation).2

instance (transcript : Transcript) (handle : Handle) : Decidable (transcript.Gives handle) :=
  inferInstanceAs (Decidable (∃ entry ∈ transcript, entry.answer = .handle handle))

/-- Carries out one more operation, provided that its handles were given out. -/
def carryOut (state : Transcript × Draft) (operation : Operation) : Option (Transcript × Draft) :=
  if ∀ handle ∈ operation.handles, state.1.Gives handle then
    some (state.1 ++ [⟨operation, (state.2.perform operation).1⟩], (state.2.perform operation).2)
  else none

theorem built_of_foldlM
    {start : Transcript × Draft}
    {operations : List Operation}
    {transcript : Transcript}
    {draft : Draft}
    (built : Built start.1 start.2)
    (carried : operations.foldlM carryOut start = some (transcript, draft)) :
    Built transcript draft := by
  induction operations generalizing start with
  | nil =>
      rw [List.foldlM_nil] at carried
      cases carried
      exact built
  | cons operation rest inductionHypothesis =>
      rw [List.foldlM_cons, carryOut] at carried
      by_cases given : ∀ handle ∈ operation.handles, start.1.Gives handle
      · rw [if_pos given] at carried
        exact inductionHypothesis (built.perform operation given) carried
      · rw [if_neg given] at carried
        cases carried

/-- What is built is what the scripts of operations lead to that use no other handles. -/
theorem built_iff_foldlM
    {transcript : Transcript}
    {draft : Draft} :
    Built transcript draft ↔
      ∃ operations : List Operation,
        operations.foldlM carryOut ([], .empty) = some (transcript, draft) := by
  constructor
  · intro built
    induction built with
    | empty => exact ⟨[], rfl⟩
    | perform built operation given inductionHypothesis =>
        obtain ⟨operations, carried⟩ := inductionHypothesis
        refine ⟨operations ++ [operation], ?_⟩
        rw [List.foldlM_append, carried]
        simp only [Option.bind_eq_bind, Option.bind_some, List.foldlM_cons, carryOut, if_pos given]
        rfl
  · rintro ⟨operations, carried⟩
    exact built_of_foldlM .empty carried

/-- The operations of a transcript. -/
def Transcript.operations (transcript : Transcript) : List Operation :=
  transcript.map Entry.operation

/-- Carries out operations one after the other, with whatever handles: their transcript, and the
state that they lead to. -/
def transcribe {State : Type} (perform : State → Operation → Answer × State) (state : State) :
    List Operation → Transcript × State
  | [] => ([], state)
  | operation :: rest =>
      let (answer, next) := perform state operation
      let (transcript, last) := transcribe perform next rest
      (⟨operation, answer⟩ :: transcript, last)

section Transcribing

variable {State : Type} (perform : State → Operation → Answer × State)

theorem transcribe_append
    (state : State)
    (first second : List Operation) :
    transcribe perform state (first ++ second) =
      ((transcribe perform state first).1 ++
          (transcribe perform (transcribe perform state first).2 second).1,
        (transcribe perform (transcribe perform state first).2 second).2) := by
  induction first generalizing state with
  | nil => rfl
  | cons operation rest inductionHypothesis =>
      simp only [List.cons_append, transcribe, inductionHypothesis]

theorem operations_transcribe
    (state : State)
    (operations : List Operation) :
    (transcribe perform state operations).1.operations = operations := by
  induction operations generalizing state with
  | nil => rfl
  | cons operation rest inductionHypothesis =>
      exact congrArg (operation :: ·) (inductionHypothesis (perform state operation).2)

end Transcribing

/-- What was built is what its operations lead to, with the answers of the transcript. -/
theorem Built.transcribe_operations
    {transcript : Transcript}
    {draft : Draft}
    (built : Built transcript draft) :
    transcribe Draft.perform .empty transcript.operations = (transcript, draft) := by
  induction built with
  | empty => rfl
  | perform built operation given inductionHypothesis =>
      rw [Transcript.operations, List.map_append, ← Transcript.operations, transcribe_append,
        inductionHypothesis]
      rfl

/-! ## The steps of a draft -/

theorem ClassId.eq_of_index_eq
    {left right : ClassId}
    (same : left.index = right.index) :
    left = right := by
  cases left
  cases right
  exact congrArg ClassId.mk same

namespace Draft

/-- The draft with one more package. -/
def withPackage (draft : Draft) (name : String) : Draft :=
  { draft with packages := draft.packages ++ [name] }

/-- The draft with one more place for a class. -/
def withClass (draft : Draft) (value : Option Class) : Draft :=
  { draft with classes := draft.classes ++ [value] }

/-- The draft with one more field of a class. -/
def withField (draft : Draft) (id : ClassId) (owner : Class) (name : String) (type : TypeRef) :
    Draft :=
  ({ draft with fields := draft.fields ++ [⟨name, type, id⟩] } : Draft).put id
    { owner with fields := owner.fields ++ [⟨draft.fields.length⟩] }

/-- What an operation can do to a draft. -/
inductive Step (draft : Draft) : Operation → Answer → Draft → Prop
  /-- The operation failed. -/
  | failed (operation : Operation) (error : ModelError) : Step draft operation (.failed error) draft
  /-- The type of a class. -/
  | typeOf (id : ClassId) (type : TypeRef) (typed : draft.typeOf id = .ok type) :
      Step draft (.typeOf id) (.type type) draft
  /-- A package that there is. -/
  | knownPackage (name : String) (id : PackageId) (known : draft.packages[id.index]? = some name) :
      Step draft (.package name) (.handle (.ofPackage id)) draft
  /-- A package that there has not been. -/
  | newPackage (name : String) (fresh : name ∉ draft.packages) :
      Step draft (.package name) (.handle (.ofPackage ⟨draft.packages.length⟩))
        (draft.withPackage name)
  /-- A class to be defined. -/
  | reserve : Step draft .reserve (.handle (.ofClass ⟨draft.classes.length⟩)) (draft.withClass none)
  /-- A class that has been reserved. -/
  | define (id : ClassId) (name : String) (package : PackageId) (enclosing : Option ClassId)
      (reserved : draft.classes[id.index]? = some none) :
      Step draft (.define id name package enclosing) (.handle (.ofClass id))
        (draft.put id ⟨name, package, enclosing, [], [], []⟩)
  /-- A class. -/
  | addClass (name : String) (package : PackageId) (enclosing : Option ClassId) :
      Step draft (.addClass name package enclosing) (.handle (.ofClass ⟨draft.classes.length⟩))
        (draft.withClass (some ⟨name, package, enclosing, [], [], []⟩))
  /-- A field of a class that does not declare its name. -/
  | addField (id : ClassId) (name : String) (type : TypeRef) (owner : Class)
      (found : draft.defined? id = some owner) (fresh : draft.declares owner name = false) :
      Step draft (.addField id name type) (.handle (.ofField ⟨draft.fields.length⟩))
        (draft.withField id owner name type)
  /-- A supertype that a class has. -/
  | knownSupertype (id supertype : ClassId) (owner : Class)
      (found : draft.defined? id = some owner) (known : supertype ∈ owner.supertypes) :
      Step draft (.addSupertype id supertype) .done draft
  /-- A supertype that a class has not had. -/
  | newSupertype (id supertype : ClassId) (owner : Class)
      (found : draft.defined? id = some owner) (fresh : supertype ∉ owner.supertypes) :
      Step draft (.addSupertype id supertype) .done
        (draft.put id { owner with supertypes := owner.supertypes ++ [supertype] })

theorem defined_eq_ok_iff
    {draft : Draft}
    {id : ClassId}
    {found : Class} :
    draft.defined id = .ok found ↔ draft.defined? id = some found := by
  unfold defined
  cases draft.defined? id <;> simp

theorem defined_eq_error_iff
    {draft : Draft}
    {id : ClassId}
    {error : ModelError} :
    draft.defined id = .error error ↔
      draft.defined? id = none ∧ error = .undefinedClass id := by
  unfold defined
  cases draft.defined? id <;> simp [eq_comm]

/-- Reserving a class and defining it at once appends it. -/
theorem addClass_eq
    (draft : Draft)
    (name : String)
    (package : PackageId)
    (enclosing : Option ClassId) :
    draft.addClass name package enclosing =
      (⟨draft.classes.length⟩,
        draft.withClass (some ⟨name, package, enclosing, [], [], []⟩)) := by
  simp [addClass, reserve, put, withClass, List.set_append_right]

theorem step_package
    (draft : Draft)
    (name : String) :
    Step draft (.package name) (.handle (.ofPackage (draft.package name).1))
      (draft.package name).2 := by
  unfold package
  cases search : draft.packages.idxOf? name with
  | none => exact .newPackage name (List.idxOf?_eq_none_iff.1 search)
  | some index =>
      obtain ⟨bound, found, _⟩ := List.findIdx?_eq_some_iff_getElem.1 search
      refine .knownPackage name ⟨index⟩ ?_
      rw [List.getElem?_eq_getElem bound, eq_of_beq found]

theorem step_define
    (draft : Draft)
    (id : ClassId)
    (name : String)
    (package : PackageId)
    (enclosing : Option ClassId) :
    Step draft (.define id name package enclosing)
      (draft.perform (.define id name package enclosing)).1
      (draft.perform (.define id name package enclosing)).2 := by
  cases place : draft.classes[id.index]? with
  | none =>
      simp only [perform, define, place]
      exact .failed _ _
  | some value =>
      cases value with
      | none =>
          simp only [perform, define, place]
          exact .define id name package enclosing place
      | some found =>
          simp only [perform, define, place]
          cases draft.describe id <;> exact .failed _ _

theorem addField_eq_of_fresh
    {draft : Draft}
    {id : ClassId}
    {name : String}
    {owner : Class}
    (type : TypeRef)
    (found : draft.defined? id = some owner)
    (fresh : draft.declares owner name = false) :
    draft.addField id name type =
      .ok (⟨draft.fields.length⟩, draft.withField id owner name type) := by
  simp [addField, defined_eq_ok_iff.2 found, fresh, bind, Except.bind, withField]
  rfl

theorem addField_eq_of_duplicate
    {draft : Draft}
    {id : ClassId}
    {name : String}
    {owner : Class}
    (type : TypeRef)
    (found : draft.defined? id = some owner)
    (duplicate : draft.declares owner name = true) :
    draft.addField id name type =
      (draft.describe id).bind fun described => .error (.duplicateField described name) := by
  cases described : draft.describe id <;>
    simp [addField, defined_eq_ok_iff.2 found, duplicate, described, bind, Except.bind, throw,
      throwThe, MonadExceptOf.throw]

theorem step_addField
    (draft : Draft)
    (id : ClassId)
    (name : String)
    (type : TypeRef) :
    Step draft (.addField id name type)
      (draft.perform (.addField id name type)).1
      (draft.perform (.addField id name type)).2 := by
  cases search : draft.defined id with
  | error error =>
      have outcome : draft.addField id name type = .error error := by
        simp only [addField, search]
        rfl
      simp only [perform, outcome]
      exact .failed _ _
  | ok owner =>
      have found := defined_eq_ok_iff.1 search
      cases duplicate : draft.declares owner name with
      | true =>
          simp only [perform, addField_eq_of_duplicate type found duplicate]
          cases draft.describe id <;> exact .failed _ _
      | false =>
          simp only [perform, addField_eq_of_fresh type found duplicate]
          exact .addField id name type owner found duplicate

theorem addSupertype_eq
    {draft : Draft}
    {id : ClassId}
    {owner : Class}
    (supertype : ClassId)
    (found : draft.defined? id = some owner) :
    draft.addSupertype id supertype =
      .ok (if supertype ∈ owner.supertypes then draft
        else draft.put id { owner with supertypes := owner.supertypes ++ [supertype] }) := by
  simp only [addSupertype, defined_eq_ok_iff.2 found, bind, Except.bind]
  split <;> rfl

theorem step_addSupertype
    (draft : Draft)
    (id supertype : ClassId) :
    Step draft (.addSupertype id supertype)
      (draft.perform (.addSupertype id supertype)).1
      (draft.perform (.addSupertype id supertype)).2 := by
  cases search : draft.defined id with
  | error error =>
      have outcome : draft.addSupertype id supertype = .error error := by
        simp only [addSupertype, search]
        rfl
      simp only [perform, outcome]
      exact .failed _ _
  | ok owner =>
      have found := defined_eq_ok_iff.1 search
      simp only [perform, addSupertype_eq supertype found]
      by_cases known : supertype ∈ owner.supertypes
      · rw [if_pos known]
        exact .knownSupertype id supertype owner found known
      · rw [if_neg known]
        exact .newSupertype id supertype owner found known

/-- Every operation is one of the steps. -/
theorem perform_step
    (draft : Draft)
    (operation : Operation) :
    Step draft operation (draft.perform operation).1 (draft.perform operation).2 := by
  cases operation with
  | package name => exact draft.step_package name
  | reserve => exact .reserve
  | define id name package enclosing => exact draft.step_define id name package enclosing
  | addClass name package enclosing =>
      simp only [perform, addClass_eq]
      exact .addClass name package enclosing
  | addField id name type => exact draft.step_addField id name type
  | addSupertype id supertype => exact draft.step_addSupertype id supertype
  | typeOf id =>
      simp only [perform]
      cases typed : draft.typeOf id with
      | error error => exact .failed _ _
      | ok type => exact .typeOf id type typed

end Draft
end SchemaBinding
