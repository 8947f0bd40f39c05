import SchemaBinding.Proofs.Coherence

/-!
# Drafts in an arena

A draft as it is kept while it is worked on: places for packages, classes and fields, which are
reserved before they are filled, and the packages by their names.  The operations are programs that
look up, reserve and fill one place after the other.  A program that breaks off leaves the arena as
it is at that point, and reading a place that is missing or empty breaks it off; handles are not
bounded.  The programs do to the arena just what the operations of a draft do to the draft.
-/

namespace SchemaBinding

/-- The places of a draft. -/
structure Arena where
  /-- The names of the packages. -/
  packages : List (Option String) := []
  /-- The classes. -/
  classes : List (Option Class) := []
  /-- The fields of all classes. -/
  fields : List (Option Field) := []
  /-- The packages by their names. -/
  homes : List (String × PackageId) := []
deriving DecidableEq

namespace Arena

/-- An arena without places. -/
def empty : Arena :=
  {}

/-- Work on an arena in place. -/
abbrev Work (Answer : Type) : Type :=
  EStateM ModelError Arena Answer

/-- Reads the arena without changing it. -/
def consult {Answer : Type} (look : Arena → Except ModelError Answer) : Work Answer := do
  match look (← get) with
  | .ok answer => return answer
  | .error error => throw error

/-- A kind of component, with the places that an arena has for it. -/
structure Kind (Id Item : Type) where
  /-- The number of a handle. -/
  index : Id → Nat
  /-- The handle of a number. -/
  ofIndex : Nat → Id
  /-- The places. -/
  places : Arena → List (Option Item)
  /-- The arena with other places. -/
  replace : Arena → List (Option Item) → Arena
  index_ofIndex : ∀ number, index (ofIndex number) = number := by intros; rfl
  places_replace : ∀ arena list, places (replace arena list) = list := by intros; rfl
  replace_replace : ∀ arena first second,
    replace (replace arena first) second = replace arena second := by intros; rfl

/-- The packages. -/
def packageKind : Kind PackageId String where
  index := PackageId.index
  ofIndex := PackageId.mk
  places := packages
  replace arena packages := { arena with packages }

/-- The classes. -/
def classKind : Kind ClassId Class where
  index := ClassId.index
  ofIndex := ClassId.mk
  places := classes
  replace arena classes := { arena with classes }

/-- The fields. -/
def fieldKind : Kind FieldId Field where
  index := FieldId.index
  ofIndex := FieldId.mk
  places := fields
  replace arena fields := { arena with fields }

namespace Kind

variable {Id Item : Type} (kind : Kind Id Item)

/-- What is in a place; nothing if there is no such place. -/
def find? (arena : Arena) (id : Id) : Option Item :=
  (kind.places arena)[kind.index id]?.join

/-- What is in a place, which must be there and be filled. -/
def read (arena : Arena) (id : Id) : Except ModelError Item :=
  match kind.find? arena id with
  | some item => .ok item
  | none => .error .unknownId

/-- A new place, still empty. -/
def reserve : Work Id :=
  modifyGet fun arena =>
    (kind.ofIndex (kind.places arena).length, kind.replace arena (kind.places arena ++ [none]))

/-- Fills a place, which must be there. -/
def fill (id : Id) (item : Item) : Work Id := do
  let arena ← get
  if kind.index id < (kind.places arena).length then
    set (kind.replace arena ((kind.places arena).set (kind.index id) (some item)))
    return id
  else throw .unknownId

/-- A new place, filled at once. -/
def create (item : Item) : Work Id := do
  kind.fill (← kind.reserve) item

end Kind

/-! ## Reading -/

/-- A class, which must have been defined. -/
def defined (arena : Arena) (id : ClassId) : Except ModelError Class :=
  match classKind.find? arena id with
  | some found => .ok found
  | none => .error (.undefinedClass id)

/--
The names of the classes around a class and then `name`, joined by dots.  `start` is the class whose
name is asked for and `depth` the number of classes around it that were passed.
-/
def qualifiedName (arena : Arena) (start : ClassId) (startName : String) (depth : Nat) :
    Option ClassId → String → Except ModelError String
  | none, name => .ok name
  | some id, name =>
      if _stop : id = start ∨ arena.classes.length < depth + 1 then .error (.nestingCycle startName)
      else
        match arena.defined id with
        | .error error => .error error
        | .ok around =>
            arena.qualifiedName start startName (depth + 1) around.enclosing
              (around.name ++ "." ++ name)
termination_by arena.classes.length - depth

/-- The type under which fields refer to a class. -/
def typeOf (arena : Arena) (id : ClassId) : Except ModelError TypeRef := do
  let found ← arena.defined id
  let name ← arena.qualifiedName id found.name 0 found.enclosing found.name
  let package ← packageKind.read arena found.package
  return .reference package name

/-- A class as messages name it: in full if it has a type, else by its number. -/
def describe (arena : Arena) (id : ClassId) : Except ModelError String :=
  match arena.typeOf id with
  | .ok type => .ok type.fullName
  | .error .unknownId => .error .unknownId
  | .error _ => .ok id.label

/-! ## Operations -/

/-- The package of a name, which is created if there is none. -/
def package (name : String) : Work PackageId := do
  match (← get).homes.lookup name with
  | some id => return id
  | none =>
      let id ← packageKind.create name
      modify fun arena => { arena with homes := arena.homes ++ [(name, id)] }
      return id

/-- Puts a class without fields and supertypes into its place. -/
def insertClass (id : ClassId) (name : String) (package : PackageId) (enclosing : Option ClassId) :
    Work ClassId :=
  classKind.fill id ⟨name, package, enclosing, [], [], []⟩

/-- Defines a class that has been reserved. -/
def define (id : ClassId) (name : String) (package : PackageId) (enclosing : Option ClassId) :
    Work ClassId := do
  if (classKind.find? (← get) id).isSome then
    throw (.duplicateClass (← consult fun arena => arena.describe id))
  insertClass id name package enclosing

/-- Reserves a class and defines it. -/
def addClass (name : String) (package : PackageId) (enclosing : Option ClassId) :
    Work ClassId := do
  insertClass (← classKind.reserve) name package enclosing

/-- Changes a class, which must have been defined. -/
def amend (id : ClassId) (change : Class → Class) : Work Unit := do
  let found ← consult fun arena => arena.defined id
  modify fun arena =>
    classKind.replace arena ((classKind.places arena).set id.index (some (change found)))

/-- Gives a class one more field. -/
def addField (id : ClassId) (name : String) (type : TypeRef) : Work FieldId := do
  let owner ← consult fun arena => arena.defined id
  let duplicate ← owner.fields.anyM fun field => do
    return (← consult fun arena => fieldKind.read arena field).name = name
  if duplicate then
    throw (.duplicateField (← consult fun arena => arena.describe id) name)
  let field ← fieldKind.create ⟨name, type, id⟩
  amend id fun owner => { owner with fields := owner.fields ++ [field] }
  return field

/-- Gives a class one more supertype, unless it has that one already. -/
def addSupertype (id supertype : ClassId) : Work Unit :=
  amend id fun owner =>
    if supertype ∈ owner.supertypes then owner
    else { owner with supertypes := owner.supertypes ++ [supertype] }

/-- The program of an operation. -/
def work : Operation → Work Answer
  | .package name => do return .handle (.ofPackage (← package name))
  | .reserve => do return .handle (.ofClass (← classKind.reserve))
  | .define id name package enclosing => do
      return .handle (.ofClass (← define id name package enclosing))
  | .addClass name package enclosing => do
      return .handle (.ofClass (← addClass name package enclosing))
  | .addField id name type => do return .handle (.ofField (← addField id name type))
  | .addSupertype id supertype => do
      addSupertype id supertype
      return .done
  | .typeOf id => do return .type (← consult fun arena => arena.typeOf id)

/-- Carries out an operation.  The arena is what the program of the operation leaves of it, also if
the program breaks off. -/
def perform (arena : Arena) (operation : Operation) : Answer × Arena :=
  match (work operation).run arena with
  | .ok answer after => (answer, after)
  | .error error after => (.failed error, after)

/-! ## The arena of a draft -/

/-- The arena in which a draft is kept. -/
def ofDraft (draft : Draft) : Arena where
  packages := draft.packages.map some
  classes := draft.classes
  fields := draft.fields.map some
  homes := draft.packages.zipIdx.map fun (name, index) => (name, ⟨index⟩)

variable {draft : Draft}

theorem run_consult
    {Answer : Type}
    (look : Arena → Except ModelError Answer)
    (arena : Arena) :
    (consult look).run arena =
      match look arena with
      | .ok answer => .ok answer arena
      | .error error => .error error arena := by
  simp only [consult, EStateM.run_bind, EStateM.run_get]
  cases look arena <;> rfl

theorem Kind.run_fill
    {Id Item : Type}
    (kind : Kind Id Item)
    (arena : Arena)
    (id : Id)
    (item : Item) :
    (kind.fill id item).run arena =
      if kind.index id < (kind.places arena).length then
        .ok id (kind.replace arena ((kind.places arena).set (kind.index id) (some item)))
      else .error .unknownId arena := by
  simp only [fill, EStateM.run_bind, EStateM.run_get]
  split <;> rfl

theorem Kind.run_create
    {Id Item : Type}
    (kind : Kind Id Item)
    (arena : Arena)
    (item : Item) :
    (kind.create item).run arena =
      .ok (kind.ofIndex (kind.places arena).length)
        (kind.replace arena (kind.places arena ++ [some item])) := by
  have reserved : kind.reserve.run arena = .ok (kind.ofIndex (kind.places arena).length)
      (kind.replace arena (kind.places arena ++ [none])) := rfl
  simp only [create, EStateM.run_bind, reserved, run_fill, kind.places_replace,
    kind.index_ofIndex, kind.replace_replace]
  simp [List.set_append_right]

theorem find?_package_ofDraft
    (draft : Draft)
    (id : PackageId) :
    packageKind.find? (ofDraft draft) id = draft.packages[id.index]? := by
  simp only [Kind.find?, packageKind, ofDraft, List.getElem?_map]
  cases draft.packages[id.index]? <;> rfl

theorem find?_field_ofDraft
    (draft : Draft)
    (id : FieldId) :
    fieldKind.find? (ofDraft draft) id = draft.fields[id.index]? := by
  simp only [Kind.find?, fieldKind, ofDraft, List.getElem?_map]
  cases draft.fields[id.index]? <;> rfl

theorem read_package_ofDraft
    (draft : Draft)
    (id : PackageId) :
    packageKind.read (ofDraft draft) id = draft.packageName id := by
  rw [Kind.read, find?_package_ofDraft, Draft.packageName]
  cases draft.packages[id.index]? <;> rfl

theorem defined_ofDraft
    (draft : Draft)
    (id : ClassId) :
    (ofDraft draft).defined id = draft.defined id := rfl

/-- Counting the classes that were passed up comes to the same as counting down those that may
follow. -/
theorem qualifiedName_ofDraft
    (start : ClassId)
    (startName : String)
    (depth : Nat)
    (enclosing : Option ClassId)
    (name : String) :
    (ofDraft draft).qualifiedName start startName depth enclosing name =
      draft.qualifiedName start startName (draft.classes.length - depth) enclosing name := by
  generalize remaining : draft.classes.length - depth = steps
  induction steps generalizing depth enclosing name with
  | zero =>
      cases enclosing with
      | none => rw [qualifiedName, Draft.qualifiedName]
      | some id =>
          have stop : id = start ∨ (ofDraft draft).classes.length < depth + 1 :=
            .inr (show draft.classes.length < depth + 1 by omega)
          rw [qualifiedName, dif_pos stop, Draft.qualifiedName]
  | succ steps inductionHypothesis =>
      cases enclosing with
      | none => rw [qualifiedName, Draft.qualifiedName]
      | some id =>
          have goesOn : ¬(ofDraft draft).classes.length < depth + 1 :=
            show ¬draft.classes.length < depth + 1 by omega
          rw [qualifiedName, Draft.qualifiedName]
          by_cases isStart : id = start
          · rw [dif_pos (.inl isStart), if_pos isStart]
          · rw [dif_neg (not_or.2 ⟨isStart, goesOn⟩), if_neg isStart, defined_ofDraft]
            cases draft.defined id with
            | error error => rfl
            | ok around => exact inductionHypothesis (depth + 1) _ _ (by omega)

theorem typeOf_ofDraft
    (draft : Draft)
    (id : ClassId) :
    (ofDraft draft).typeOf id = draft.typeOf id := by
  simp only [typeOf, Draft.typeOf, defined_ofDraft, qualifiedName_ofDraft, read_package_ofDraft,
    Nat.sub_zero]

theorem describe_ofDraft
    (draft : Draft)
    (id : ClassId) :
    (ofDraft draft).describe id = draft.describe id := by
  cases typed : draft.typeOf id with
  | ok type => simp [describe, Draft.describe, typeOf_ofDraft, typed]
  | error error => cases error <;> simp [describe, Draft.describe, typeOf_ofDraft, typed]

/-! ## Operations on the arena of a draft -/

/-- How a program ends that does what an operation of a draft does. -/
def outcome {Answer : Type} (draft : Draft) :
    Except ModelError (Answer × Draft) → EStateM.Result ModelError Arena Answer
  | .ok (answer, next) => .ok answer (ofDraft next)
  | .error error => .error error (ofDraft draft)

/-- Looking up a key among items that are numbered on from a number finds the first item with that
key. -/
theorem lookup_zipIdx
    {Item Key Id : Type}
    [BEq Key]
    [LawfulBEq Key]
    (key : Item → Key)
    (ofIndex : Nat → Id)
    (items : List Item)
    (sought : Key)
    (start : Nat) :
    ((items.zipIdx start).map fun (item, index) => (key item, ofIndex index)).lookup sought =
      (items.findIdx? fun item => key item == sought).map fun index => ofIndex (start + index) := by
  induction items generalizing start with
  | nil => rfl
  | cons first rest inductionHypothesis =>
      rw [List.zipIdx_cons, List.map_cons, List.lookup_cons, List.findIdx?_cons]
      by_cases same : key first = sought
      · simp [same]
      · have apart : (sought == key first) = false := by simpa using fun equal => same equal.symm
        have apart' : (key first == sought) = false := by simpa using same
        simp only [apart, apart', inductionHypothesis, Option.map_map, Bool.false_eq_true, if_false]
        congr 1
        funext index
        rw [Function.comp_apply, Nat.add_right_comm, Nat.add_assoc]

theorem run_package
    (draft : Draft)
    (name : String) :
    (package name).run (ofDraft draft) = outcome draft (.ok (draft.package name)) := by
  have lookup : (ofDraft draft).homes.lookup name =
      (draft.packages.idxOf? name).map PackageId.mk := by
    rw [List.idxOf?]
    simpa [ofDraft] using lookup_zipIdx id PackageId.mk draft.packages name 0
  simp only [package, EStateM.run_bind, EStateM.run_get, lookup, Draft.package]
  cases draft.packages.idxOf? name with
  | some index => rfl
  | none =>
      simp only [Option.map_none, EStateM.run_bind, Kind.run_create, EStateM.run_modify,
        EStateM.run_pure, outcome]
      simp [packageKind, ofDraft, List.zipIdx_append]

/-- Putting a class into a place does to the arena what it does to the draft. -/
theorem run_insertClass
    (draft : Draft)
    (id : ClassId)
    (value : Class)
    (isPlace : id.index < draft.classes.length) :
    (classKind.fill id value).run (ofDraft draft) =
      outcome draft (.ok (id, draft.put id value)) := by
  rw [Kind.run_fill]
  exact if_pos isPlace

theorem run_define
    (draft : Draft)
    (id : ClassId)
    (name : String)
    (package : PackageId)
    (enclosing : Option ClassId) :
    (define id name package enclosing).run (ofDraft draft) =
      outcome draft (draft.define id name package enclosing) := by
  have found : classKind.find? (ofDraft draft) id = draft.classes[id.index]?.join := rfl
  simp only [define, EStateM.run_bind, EStateM.run_get, found, Draft.define]
  cases place : draft.classes[id.index]? with
  | none =>
      have outside : ¬id.index < draft.classes.length := by simpa using place
      simp only [Option.join_none, Option.isSome_none, Bool.false_eq_true, if_false,
        insertClass, Kind.run_fill]
      exact if_neg outside
  | some value =>
      have isPlace := (List.getElem?_eq_some_iff.1 place).1
      cases value with
      | none =>
          simp only [Option.join_some, Option.isSome_none, Bool.false_eq_true, if_false,
            insertClass]
          exact run_insertClass draft id _ isPlace
      | some present =>
          simp only [Option.join_some, Option.isSome_some, if_true, EStateM.run_bind, run_consult,
            describe_ofDraft]
          cases draft.describe id <;> rfl

theorem run_addClass
    (draft : Draft)
    (name : String)
    (package : PackageId)
    (enclosing : Option ClassId) :
    (addClass name package enclosing).run (ofDraft draft) =
      outcome draft (.ok (draft.addClass name package enclosing)) := by
  have reserved : classKind.reserve.run (ofDraft draft) =
      outcome draft (.ok draft.reserve) := rfl
  simp only [addClass, EStateM.run_bind, reserved, outcome]
  exact run_insertClass draft.reserve.2 draft.reserve.1 _ (by simp [Draft.reserve])

theorem run_amend
    (draft : Draft)
    (id : ClassId)
    (change : Class → Class) :
    (amend id change).run (ofDraft draft) =
      match draft.defined id with
      | .ok found => .ok ⟨⟩ (ofDraft (draft.put id (change found)))
      | .error error => .error error (ofDraft draft) := by
  simp only [amend, EStateM.run_bind, run_consult, defined_ofDraft]
  cases draft.defined id <;> rfl

/-- Whether the fields of all classes of a draft have places. -/
def FieldsPlaced (draft : Draft) : Prop :=
  ∀ id found, draft.defined? id = some found →
    ∀ field ∈ found.fields, field.index < draft.fields.length

/-- Looking through fields that have places tells whether one of them has a given name. -/
theorem run_anyM_fields
    (name : String)
    {handles : List FieldId}
    (placed : ∀ field ∈ handles, field.index < draft.fields.length) :
    (handles.anyM fun field => do
        return (← consult fun arena => fieldKind.read arena field).name = name : Work Bool).run
          (ofDraft draft) =
      .ok (handles.any fun field => draft.fields[field.index]?.any (·.name = name))
        (ofDraft draft) := by
  induction handles with
  | nil => rfl
  | cons first rest inductionHypothesis =>
      obtain ⟨firstPlaced, restPlaced⟩ := List.forall_mem_cons.1 placed
      have entry := List.getElem?_eq_getElem firstPlaced
      have readFirst : fieldKind.read (ofDraft draft) first = .ok draft.fields[first.index] := by
        rw [Kind.read, find?_field_ofDraft, entry]
      rw [List.anyM_cons, List.any_cons]
      simp only [EStateM.run_bind, run_consult, readFirst, EStateM.run_pure, entry, Option.any_some]
      by_cases same : draft.fields[first.index].name = name
      · simp [same]
      · simp only [same, decide_false, Bool.false_or]
        exact inductionHypothesis restPlaced

theorem run_addField
    (placed : FieldsPlaced draft)
    (id : ClassId)
    (name : String)
    (type : TypeRef) :
    (addField id name type).run (ofDraft draft) = outcome draft (draft.addField id name type) := by
  simp only [addField, EStateM.run_bind, run_consult, defined_ofDraft]
  cases search : draft.defined id with
  | error error =>
      simp only [Draft.addField, search]
      rfl
  | ok owner =>
      have found := Draft.defined_eq_ok_iff.1 search
      dsimp only
      rw [run_anyM_fields name (placed id owner found)]
      dsimp only
      cases duplicate : draft.declares owner name with
      | true =>
          have declared : (owner.fields.any fun field =>
              draft.fields[field.index]?.any (·.name = name)) = true := duplicate
          rw [Draft.addField_eq_of_duplicate type found duplicate]
          simp only [declared, if_true, EStateM.run_bind, run_consult, describe_ofDraft]
          cases draft.describe id <;> rfl
      | false =>
          have undeclared : (owner.fields.any fun field =>
              draft.fields[field.index]?.any (·.name = name)) = false := duplicate
          have created : (fieldKind.create ⟨name, type, id⟩).run (ofDraft draft) =
              .ok ⟨draft.fields.length⟩
                (ofDraft { draft with fields := draft.fields ++ [⟨name, type, id⟩] }) := by
            rw [Kind.run_create]
            simp [fieldKind, ofDraft]
          have stillDefined : ({ draft with fields := draft.fields ++ [⟨name, type, id⟩] } :
              Draft).defined id = .ok owner := search
          rw [Draft.addField_eq_of_fresh type found duplicate]
          simp only [undeclared, Bool.false_eq_true, if_false, EStateM.run_bind, created, run_amend,
            stillDefined]
          rfl

theorem run_addSupertype
    (draft : Draft)
    (id supertype : ClassId) :
    (addSupertype id supertype).run (ofDraft draft) =
      outcome draft ((draft.addSupertype id supertype).map fun next => (⟨⟩, next)) := by
  rw [addSupertype, run_amend]
  cases search : draft.defined id with
  | error error =>
      simp only [Draft.addSupertype, search]
      rfl
  | ok owner =>
      have found := Draft.defined_eq_ok_iff.1 search
      rw [Draft.addSupertype_eq supertype found]
      by_cases known : supertype ∈ owner.supertypes
      · simp only [known, if_true, Except.map, outcome, Draft.put_of_defined found]
      · simp only [known, if_false, Except.map, outcome]

/-- Carrying out an operation in the arena of a draft answers as the draft does, and leaves the
arena of the draft that the operation leads to. -/
theorem perform_ofDraft
    (placed : FieldsPlaced draft)
    (operation : Operation) :
    (ofDraft draft).perform operation =
      ((draft.perform operation).1, ofDraft (draft.perform operation).2) := by
  cases operation with
  | package name =>
      simp only [perform, work, EStateM.run_bind, run_package, outcome, EStateM.run_pure,
        Draft.perform]
  | reserve => rfl
  | define id name package enclosing =>
      simp only [perform, work, EStateM.run_bind, run_define, Draft.perform]
      cases draft.define id name package enclosing <;> rfl
  | addClass name package enclosing =>
      simp only [perform, work, EStateM.run_bind, run_addClass, outcome, EStateM.run_pure,
        Draft.perform]
  | addField id name type =>
      simp only [perform, work, EStateM.run_bind, run_addField placed, Draft.perform]
      cases draft.addField id name type <;> rfl
  | addSupertype id supertype =>
      simp only [perform, work, EStateM.run_bind, run_addSupertype, Draft.perform]
      cases draft.addSupertype id supertype <;> rfl
  | typeOf id =>
      simp only [perform, work, EStateM.run_bind, run_consult, typeOf_ofDraft, Draft.perform]
      cases draft.typeOf id <;> rfl

/-- The fields of all classes have places after every operation, whatever handles it is given. -/
theorem FieldsPlaced.step
    {next : Draft}
    {operation : Operation}
    {answer : Answer}
    (placed : FieldsPlaced draft)
    (step : draft.Step operation answer next) :
    FieldsPlaced next := by
  cases step with
  | failed | typeOf | knownPackage | knownSupertype | newPackage => exact placed
  | reserve =>
      intro other found defined
      rw [Draft.defined?_withClass] at defined
      split at defined
      · cases defined
      · exact placed other found defined
  | define id name package enclosing reserved =>
      intro other found defined
      rw [Draft.defined?_put] at defined
      split at defined
      · cases defined
        exact nofun
      · exact placed other found defined
  | addClass name package enclosing =>
      intro other found defined
      rw [Draft.defined?_withClass] at defined
      split at defined
      · cases defined
        exact nofun
      · exact placed other found defined
  | addField id name type owner isOwner fresh =>
      intro other found defined
      rw [Draft.defined?_withField isOwner] at defined
      simp only [Draft.fields_withField, List.length_append, List.length_singleton]
      split at defined
      · cases defined
        rw [List.forall_mem_append, List.forall_mem_singleton]
        exact ⟨fun field member => Nat.lt_succ_of_lt (placed id owner isOwner field member),
          Nat.lt_succ_self _⟩
      · exact fun field member => Nat.lt_succ_of_lt (placed other found defined field member)
  | newSupertype id supertype owner isOwner fresh =>
      intro other found defined
      rw [Draft.defined?_put_of_defined isOwner] at defined
      split at defined
      · cases defined
        exact placed id owner isOwner
      · exact placed other found defined

/-! ## Scripts in an arena -/

/-- Scripts have in the arena of a draft the transcripts that they have on the draft. -/
theorem transcribe_ofDraft
    (placed : FieldsPlaced draft)
    (operations : List Operation) :
    transcribe perform (ofDraft draft) operations =
      ((transcribe Draft.perform draft operations).1,
        ofDraft (transcribe Draft.perform draft operations).2) := by
  induction operations generalizing draft with
  | nil => rfl
  | cons operation rest inductionHypothesis =>
      have later := inductionHypothesis (placed.step (draft.perform_step operation))
      simp only [transcribe, perform_ofDraft placed, later]

/-- Whatever the handles in a script are, it has the same transcript in the empty arena as on the
empty draft, and leads to the arena of the draft that it leads to. -/
theorem transcribe_empty
    (operations : List Operation) :
    transcribe perform empty operations =
      ((transcribe Draft.perform .empty operations).1,
        ofDraft (transcribe Draft.perform .empty operations).2) := by
  have placed : FieldsPlaced .empty := nofun
  exact transcribe_ofDraft placed operations

end Arena

/-- What was built is built in the empty arena by the same operations, with the same answers. -/
theorem Built.transcribe_arena
    {transcript : Transcript}
    {draft : Draft}
    (built : Built transcript draft) :
    transcribe Arena.perform .empty transcript.operations = (transcript, .ofDraft draft) := by
  rw [Arena.transcribe_empty, built.transcribe_operations]

end SchemaBinding
