import SchemaBinding.Proofs.Arena
import SchemaBinding.Proofs.Validity

/-!
# Finishing in an arena

How the draft in an arena becomes an outline: the types of the classes and their names are gathered
into two indexes, the supertypes are searched with a mark for each class, nested classes are noted
one after the other, and then every place must be filled.  This leads to the outline of the draft,
and the index of the names finds what looking through the types finds.
-/

namespace SchemaBinding

/-- The classes by the names of their packages and their own names there. -/
abbrev NameIndex : Type :=
  List ((String × String) × ClassId)

/-- Enters a class under a name: the class that was there before, and the index in which the new one
has taken its place. -/
def NameIndex.insert (index : NameIndex) (name : String × String) (id : ClassId) :
    Option ClassId × NameIndex :=
  (index.lookup name, index.filter (·.1 ≠ name) ++ [(name, id)])

namespace Arena

/-! ## Programs -/

/-- What is gathered of the classes. -/
structure Gathered where
  /-- The types, in the order of the classes. -/
  types : List TypeRef := []
  /-- The names. -/
  names : NameIndex := []
  /-- The nested classes, each behind the class directly around it. -/
  nesting : List (ClassId × ClassId) := []

/-- Where a class is nested, provided that the class around it is in the same package. -/
def nestingOf (arena : Arena) (type : TypeRef) (id : ClassId) (found : Class) :
    Except ModelError (List (ClassId × ClassId)) :=
  match found.enclosing with
  | none => return []
  | some around => do
      let outer ← classKind.read arena around
      if outer.package = found.package then return [(around, id)]
      else
        throw (.packageMismatch type.fullName (← packageKind.read arena found.package)
          (← packageKind.read arena outer.package))

/-- Gathers one more class. -/
def gather (arena : Arena) (gathered : Gathered) (id : ClassId) : Except ModelError Gathered := do
  let type ← arena.typeOf id
  let found ← classKind.read arena id
  let nesting ← arena.nestingOf type id found
  let package ← packageKind.read arena found.package
  let (previous, names) := gathered.names.insert (package, type.name) id
  if previous.isSome then throw (.duplicateClass type.fullName)
  return ⟨gathered.types ++ [type], names, gathered.nesting ++ nesting⟩

/-- How far the search through the supertypes has come with a class. -/
inductive Mark where
  /-- The search has not met the class. -/
  | unvisited
  /-- The search goes through the supertypes of the class. -/
  | inProgress
  /-- The search is done with the class. -/
  | done
deriving DecidableEq

/--
Visits the ancestors of a class and then the class, unless that was done before.  A class that is
met while it is in progress is an ancestor of itself.  `depth` bounds the number of classes in
progress.
-/
def visit (arena : Arena) (types : List TypeRef) :
    Nat → List Mark → ClassId → Except ModelError (List Mark)
  | depth, marks, id =>
      match marks[id.index]? with
      | none => .error .unknownId
      | some .done => .ok marks
      | some .inProgress =>
          match types[id.index]? with
          | some type => .error (.supertypeCycle type.fullName)
          | none => .error .unknownId
      | some .unvisited =>
          match depth with
          | 0 => .error .unknownId
          | depth + 1 => do
              let found ← classKind.read arena id
              let marks ← found.supertypes.foldlM (arena.visit types depth)
                (marks.set id.index .inProgress)
              return marks.set id.index .done

/-- The handles of a number of classes. -/
def firstClasses (count : Nat) : List ClassId :=
  (List.range count).map ClassId.mk

/-- Checks that no class is an ancestor of itself. -/
def checkAncestry (arena : Arena) (types : List TypeRef) : Except ModelError Unit := do
  let _ ← (firstClasses types.length).foldlM (arena.visit types (types.length + 1))
    (List.replicate types.length .unvisited)

/-- Notes a class in the class directly around it. -/
def noteNested (pair : ClassId × ClassId) : Work Unit :=
  amend pair.1 fun outer => { outer with nested := outer.nested ++ [pair.2] }

/-- The outline of the places, all of which must be filled. -/
def freeze (arena : Arena) (types : List TypeRef) : Except ModelError Outline :=
  match arena.packages.mapM id, arena.classes.mapM id, arena.fields.mapM id with
  | some packages, some classes, some fields => .ok ⟨packages, classes, fields, types⟩
  | _, _, _ => .error .unknownId

/-- The outline of the draft in the arena, and the index of the names of its classes. -/
def finish : Work (Outline × NameIndex) := do
  let gathered ← consult fun arena =>
    (firstClasses arena.classes.length).foldlM arena.gather {}
  consult fun arena => arena.checkAncestry gathered.types
  forM gathered.nesting noteNested
  let outline ← consult fun arena => arena.freeze gathered.types
  return (outline, gathered.names)

/-- What finishing leads to; it uses the arena up. -/
def finished (arena : Arena) : Except ModelError (Outline × NameIndex) :=
  match finish.run arena with
  | .ok result _ => .ok result
  | .error error _ => .error error

variable {draft : Draft}

/-! ## The search through the supertypes -/

/-- Whether marks say which classes a search has visited and which lead to where it is. -/
structure Marked (draft : Draft) (marks : List Mark) (path visited : List ClassId) : Prop where
  length_eq : marks.length = draft.classes.length
  done_iff : ∀ id, marks[id.index]? = some .done ↔ id ∈ visited
  inProgress_iff : ∀ id, marks[id.index]? = some .inProgress ↔ id ∈ path

/-- How a search with marks and one with lists can end alike. -/
inductive SameSearch (draft : Draft) (path : List ClassId) :
    Except ModelError (List Mark) → Except ModelError (List ClassId) → Prop
  /-- Both break off. -/
  | failed (error : ModelError) : SameSearch draft path (.error error) (.error error)
  /-- Both have visited the same classes. -/
  | visited {marks : List Mark} {visited : List ClassId}
      (marked : Marked draft marks path visited) : SameSearch draft path (.ok marks) (.ok visited)

namespace Marked

variable {marks : List Mark} {path visited : List ClassId}

theorem start (draft : Draft) :
    Marked draft (List.replicate draft.classes.length .unvisited) [] [] where
  length_eq := List.length_replicate
  done_iff id := by simp [List.getElem?_replicate]
  inProgress_iff id := by simp [List.getElem?_replicate]

/-- A class that is marked as unvisited is neither visited nor on the way. -/
theorem not_mem_of_unvisited
    (marked : Marked draft marks path visited)
    {id : ClassId}
    (unvisited : marks[id.index]? = some .unvisited) :
    id ∉ visited ∧ id ∉ path := by
  simp [← marked.done_iff, ← marked.inProgress_iff, unvisited]

/-- What has no mark is no class. -/
theorem undefined_of_unmarked
    (marked : Marked draft marks path visited)
    {id : ClassId}
    (unmarked : marks[id.index]? = none) :
    id ∉ visited ∧ id ∉ path ∧ draft.defined? id = none := by
  have outside : draft.classes.length ≤ id.index := by
    rw [← marked.length_eq]
    simpa using unmarked
  simp [← marked.done_iff, ← marked.inProgress_iff, unmarked, Draft.defined?, outside]

/-- The mark of a class after the mark of one that has one is set. -/
theorem getElem?_set
    (marked : Marked draft marks path visited)
    {id : ClassId}
    (isClass : id.index < draft.classes.length)
    (mark : Mark)
    (other : ClassId) :
    (marks.set id.index mark)[other.index]? =
      if other = id then some mark else marks[other.index]? := by
  rw [List.getElem?_set]
  by_cases same : other = id
  · subst same
    have bound : other.index < marks.length := marked.length_eq ▸ isClass
    simp [bound]
  · have apart : id.index ≠ other.index := fun equal => same (ClassId.eq_of_index_eq equal.symm)
    simp [same, apart]

/-- The search comes to a class that it has not met. -/
theorem enter
    (marked : Marked draft marks path visited)
    {id : ClassId}
    (unvisited : marks[id.index]? = some .unvisited) :
    Marked draft (marks.set id.index .inProgress) (id :: path) visited := by
  have isClass : id.index < draft.classes.length :=
    marked.length_eq ▸ (List.getElem?_eq_some_iff.1 unvisited).1
  refine ⟨by simpa using marked.length_eq, fun other => ?_, fun other => ?_⟩
  · rw [marked.getElem?_set isClass, ← marked.done_iff]
    by_cases same : other = id
    · subst same
      simp [unvisited]
    · rw [if_neg same]
  · rw [marked.getElem?_set isClass, List.mem_cons, ← marked.inProgress_iff]
    by_cases same : other = id
    · simp [same]
    · simp [same]

/-- The search is done with the class that it came to last. -/
theorem leave
    {id : ClassId}
    (marked : Marked draft marks (id :: path) visited)
    (fresh : id ∉ path) :
    Marked draft (marks.set id.index .done) path (id :: visited) := by
  have isClass : id.index < draft.classes.length := by
    have inProgress := (marked.inProgress_iff id).2 List.mem_cons_self
    exact marked.length_eq ▸ (List.getElem?_eq_some_iff.1 inProgress).1
  refine ⟨by simpa using marked.length_eq, fun other => ?_, fun other => ?_⟩
  · rw [marked.getElem?_set isClass, List.mem_cons, ← marked.done_iff]
    by_cases same : other = id
    · simp [same]
    · simp [same]
  · rw [marked.getElem?_set isClass]
    by_cases same : other = id
    · subst same
      simp [fresh]
    · rw [if_neg same, marked.inProgress_iff, List.mem_cons, or_iff_right same]

end Marked

theorem read_class_ofDraft
    {id : ClassId}
    {found : Class}
    (defined : draft.defined? id = some found) :
    classKind.read (ofDraft draft) id = .ok found := by
  have found? : classKind.find? (ofDraft draft) id = some found := defined
  rw [Kind.read, found?]

/-- Searches that end alike on each of some classes do so on all of them. -/
theorem sameSearch_foldlM
    {path visited : List ClassId}
    {marks : List Mark}
    {search : List Mark → ClassId → Except ModelError (List Mark)}
    {listSearch : List ClassId → ClassId → Except ModelError (List ClassId)}
    (same : ∀ {marks visited} (id), Marked draft marks path visited →
      SameSearch draft path (search marks id) (listSearch visited id))
    (marked : Marked draft marks path visited)
    (targets : List ClassId) :
    SameSearch draft path (targets.foldlM search marks) (targets.foldlM listSearch visited) := by
  induction targets generalizing marks visited with
  | nil => exact .visited marked
  | cons first rest inductionHypothesis =>
      rw [List.foldlM_cons, List.foldlM_cons]
      have firstSame := same first marked
      generalize search marks first = left at firstSame
      generalize listSearch visited first = right at firstSame
      cases firstSame with
      | failed error => exact .failed error
      | visited markedNext => exact inductionHypothesis markedNext

/-- The two searches treat alike what is no class, what they have visited and what leads to where
they are. -/
theorem sameSearch_visit_of_met
    (types : List TypeRef)
    {path visited : List ClassId}
    {marks : List Mark}
    (marked : Marked draft marks path visited)
    (depth : Nat)
    {id : ClassId}
    (met : marks[id.index]? ≠ some .unvisited) :
    SameSearch draft path ((ofDraft draft).visit types depth marks id)
      (draft.visit types depth path visited id) := by
  unfold visit Draft.visit
  cases mark : marks[id.index]? with
  | none =>
      obtain ⟨notVisited, notOnPath, undefined⟩ := marked.undefined_of_unmarked mark
      rw [if_neg notVisited, if_neg notOnPath, undefined]
      cases depth <;> exact .failed _
  | some mark' =>
      cases mark' with
      | unvisited => exact absurd mark met
      | done =>
          rw [if_pos ((marked.done_iff id).1 mark)]
          exact .visited marked
      | inProgress =>
          have notVisited : id ∉ visited := by simp [← marked.done_iff, mark]
          rw [if_neg notVisited, if_pos ((marked.inProgress_iff id).1 mark)]
          cases types[id.index]? <;> exact .failed _

theorem sameSearch_visit
    (types : List TypeRef)
    {path visited : List ClassId}
    {marks : List Mark}
    (marked : Marked draft marks path visited)
    (depth : Nat)
    (id : ClassId) :
    SameSearch draft path ((ofDraft draft).visit types depth marks id)
      (draft.visit types depth path visited id) := by
  induction depth generalizing path visited marks id with
  | zero =>
      by_cases unvisited : marks[id.index]? = some .unvisited
      · obtain ⟨notVisited, notOnPath⟩ := marked.not_mem_of_unvisited unvisited
        unfold visit Draft.visit
        rw [unvisited, if_neg notVisited, if_neg notOnPath]
        exact .failed _
      · exact sameSearch_visit_of_met types marked 0 unvisited
  | succ depth inductionHypothesis =>
      by_cases unvisited : marks[id.index]? = some .unvisited
      · obtain ⟨notVisited, notOnPath⟩ := marked.not_mem_of_unvisited unvisited
        unfold visit Draft.visit
        rw [unvisited, if_neg notVisited, if_neg notOnPath]
        cases defined : draft.defined? id with
        | none =>
            have unread : classKind.read (ofDraft draft) id = .error .unknownId := by
              have found? : classKind.find? (ofDraft draft) id = none := defined
              rw [Kind.read, found?]
            simp only [unread]
            exact .failed _
        | some found =>
            have above := sameSearch_foldlM
              (fun supertype isMarked => inductionHypothesis isMarked supertype)
              (marked.enter unvisited) found.supertypes
            simp only [read_class_ofDraft defined, bind, Except.bind]
            generalize found.supertypes.foldlM ((ofDraft draft).visit types depth)
              (marks.set id.index .inProgress) = left at above
            generalize found.supertypes.foldlM (draft.visit types depth (id :: path)) visited =
              right at above
            cases above with
            | failed error => exact .failed error
            | visited markedAbove => exact .visited (markedAbove.leave notOnPath)
      · exact sameSearch_visit_of_met types marked (depth + 1) unvisited

theorem checkAncestry_ofDraft
    {types : List TypeRef}
    (lengths : types.length = draft.classes.length) :
    (ofDraft draft).checkAncestry types = draft.checkAncestry types := by
  have same := sameSearch_foldlM
    (fun id isMarked => sameSearch_visit types isMarked (draft.classes.length + 1) id)
    (Marked.start draft) draft.classIds
  have sameClasses : firstClasses draft.classes.length = draft.classIds := rfl
  unfold checkAncestry Draft.checkAncestry
  rw [lengths, sameClasses]
  generalize draft.classIds.foldlM ((ofDraft draft).visit types (draft.classes.length + 1))
    (List.replicate draft.classes.length .unvisited) = left at same
  generalize draft.classIds.foldlM (draft.visit types (draft.classes.length + 1) []) [] =
    right at same
  cases same <;> rfl

/-! ## Gathering -/

/-- The index of the names of classes that have given types. -/
def nameIndex (types : List TypeRef) : NameIndex :=
  types.zipIdx.map fun (type, index) => ((type.package.getD "", type.name), ⟨index⟩)

/-- The nested ones among some classes, each behind the class directly around it. -/
def nestings (draft : Draft) (ids : List ClassId) : List (ClassId × ClassId) :=
  ids.filterMap fun id =>
    ((draft.defined? id).bind Class.enclosing).map fun around => (around, id)

/-- Looking up a name in the index finds the class that has the type of that name. -/
theorem lookup_nameIndex
    {types : List TypeRef}
    (references : ∀ type ∈ types, ∃ package name, type = .reference package name)
    (package name : String) :
    (nameIndex types).lookup (package, name) =
      (types.idxOf? (.reference package name)).map ClassId.mk := by
  have sameIndex :
      types.findIdx? (fun type => (type.package.getD "", type.name) == (package, name)) =
        types.idxOf? (.reference package name) := by
    induction types with
    | nil => rfl
    | cons first rest inductionHypothesis =>
        obtain ⟨⟨ownPackage, ownName, rfl⟩, restReferences⟩ := List.forall_mem_cons.1 references
        have sameKey : ((ownPackage, ownName) == (package, name)) =
            (TypeRef.reference ownPackage ownName == .reference package name) := by
          rw [Bool.eq_iff_iff, beq_iff_eq, beq_iff_eq]
          simp [TypeRef.reference]
        rw [List.findIdx?_cons, List.idxOf?_cons, inductionHypothesis restReferences, ← sameKey]
        rfl
  rw [nameIndex, ← sameIndex]
  simpa using lookup_zipIdx (fun type : TypeRef => (type.package.getD "", type.name)) ClassId.mk
    types (package, name) 0

/-- Entering a name that is new appends it to the index. -/
theorem insert_nameIndex
    {types : List TypeRef}
    {package name : String}
    (absent : (nameIndex types).lookup (package, name) = none) :
    (nameIndex types).insert (package, name) ⟨types.length⟩ =
      (none, nameIndex (types ++ [.reference package name])) := by
  have kept : (nameIndex types).filter (·.1 ≠ (package, name)) = nameIndex types := by
    rw [List.filter_eq_self]
    intro entry member
    have apart := bne_iff_ne.1 (List.lookup_eq_none_iff.1 absent entry member)
    exact decide_eq_true apart.symm
  rw [NameIndex.insert, absent, kept]
  simp [nameIndex, List.zipIdx_append, TypeRef.reference]

/-- Whether what was gathered is what there is to gather of the first classes of a draft. -/
structure GatheredFrom (draft : Draft) (gathered : Gathered) : Prop where
  references : ∀ type ∈ gathered.types, ∃ package name, type = .reference package name
  names_eq : gathered.names = nameIndex gathered.types
  nesting_eq : gathered.nesting = nestings draft (firstClasses gathered.types.length)

/-- How the gathering of classes and the check of their types can end alike. -/
inductive SameGathering (draft : Draft) :
    Except ModelError Gathered → Except ModelError (List TypeRef) → Prop
  /-- Both break off. -/
  | failed (error : ModelError) : SameGathering draft (.error error) (.error error)
  /-- Both have come to the same types. -/
  | gathered {gathered : Gathered} (isFrom : GatheredFrom draft gathered) :
      SameGathering draft (.ok gathered) (.ok gathered.types)

theorem firstClasses_succ (count : Nat) :
    firstClasses (count + 1) = firstClasses count ++ [⟨count⟩] := by
  simp [firstClasses, List.range_succ]

/-- One more class is gathered. -/
theorem GatheredFrom.append
    {gathered : Gathered}
    (isFrom : GatheredFrom draft gathered)
    {package name : String}
    (absent : gathered.names.lookup (package, name) = none) :
    GatheredFrom draft
      ⟨gathered.types ++ [.reference package name],
        (gathered.names.insert (package, name) ⟨gathered.types.length⟩).2,
        gathered.nesting ++ nestings draft [⟨gathered.types.length⟩]⟩ where
  references := by
    rw [List.forall_mem_append, List.forall_mem_singleton]
    exact ⟨isFrom.references, package, name, rfl⟩
  names_eq := by
    rw [isFrom.names_eq] at absent ⊢
    rw [insert_nameIndex absent]
  nesting_eq := by
    rw [List.length_append, List.length_singleton, firstClasses_succ, isFrom.nesting_eq]
    exact List.filterMap_append.symm

/-- Where a class is nested that has a type. -/
theorem nestingOf_eq_ok
    {type : TypeRef}
    {id : ClassId}
    {found : Class}
    {nesting : List (ClassId × ClassId)}
    (defined : draft.defined? id = some found)
    (nested : (ofDraft draft).nestingOf type id found = .ok nesting) :
    nesting = nestings draft [id] := by
  unfold nestingOf at nested
  cases enclosed : found.enclosing with
  | none => simpa [enclosed, nestings, defined, pure, Except.pure, eq_comm] using nested
  | some outer =>
      simp only [enclosed, bind, Except.bind] at nested
      cases isRead : classKind.read (ofDraft draft) outer with
      | error error => simp [isRead] at nested
      | ok around =>
          simp only [isRead, read_package_ofDraft] at nested
          by_cases same : around.package = found.package
          · simpa [same, enclosed, nestings, defined, pure, Except.pure, eq_comm] using nested
          · rw [if_neg same] at nested
            split at nested
            next => cases nested
            next => split at nested <;> cases nested

/-- The check of a class that has a type is the check of where it is nested and that its type is
new. -/
theorem checkedType_of_typeOf
    (seen : List TypeRef)
    {id : ClassId}
    {found : Class}
    {package name : String}
    (typed : draft.typeOf id = .ok (.reference package name))
    (defined : draft.defined? id = some found)
    (named : DottedName draft.defined? id name) :
    draft.checkedType seen id =
      ((ofDraft draft).nestingOf (.reference package name) id found).bind fun _ =>
        if .reference package name ∈ seen then
          .error (.duplicateClass (TypeRef.reference package name).fullName)
        else .ok (.reference package name) := by
  simp only [Draft.checkedType, typed, Draft.defined_eq_ok_iff.2 defined, bind, Except.bind,
    nestingOf]
  cases enclosed : found.enclosing with
  | none => dsimp only; split <;> rfl
  | some outer =>
      obtain ⟨around, aroundDefined⟩ := named.defined_of_enclosing defined enclosed
      simp only [Draft.defined_eq_ok_iff.2 aroundDefined, read_class_ofDraft aroundDefined,
        read_package_ofDraft]
      by_cases same : around.package = found.package
      · simp only [same, ne_eq, not_true_eq_false, if_false, if_true]
        split <;> rfl
      · simp only [same, ne_eq, not_false_eq_true, if_true, if_false]
        cases draft.packageName found.package with
        | error error => rfl
        | ok ownPackage => cases draft.packageName around.package <;> rfl

/-- A class that is nested where it may be is gathered if its type is new. -/
theorem sameGathering_of_nestingOf
    {gathered : Gathered}
    (isFrom : GatheredFrom draft gathered)
    {found : Class}
    {package name : String}
    (typed : draft.typeOf ⟨gathered.types.length⟩ = .ok (.reference package name))
    (defined : draft.defined? ⟨gathered.types.length⟩ = some found)
    (packaged : draft.packages[found.package.index]? = some package)
    (nested : (ofDraft draft).nestingOf (.reference package name) ⟨gathered.types.length⟩ found =
      .ok (nestings draft [⟨gathered.types.length⟩])) :
    SameGathering draft ((ofDraft draft).gather gathered ⟨gathered.types.length⟩)
      (Except.map (fun type => gathered.types ++ [type])
        (if .reference package name ∈ gathered.types then
          .error (.duplicateClass (TypeRef.reference package name).fullName)
        else .ok (.reference package name))) := by
  have readPackage : packageKind.read (ofDraft draft) found.package = .ok package := by
    rw [read_package_ofDraft, Draft.packageName, packaged]
  have ownName : (TypeRef.reference package name).name = name := rfl
  simp only [gather, typeOf_ofDraft, typed, read_class_ofDraft defined, nested, readPackage, bind,
    Except.bind, ownName]
  have lookup := lookup_nameIndex isFrom.references package name
  rw [← isFrom.names_eq] at lookup
  by_cases duplicate : .reference package name ∈ gathered.types
  · have previous : (gathered.names.lookup (package, name)).isSome := by
      rw [lookup, Option.isSome_map, List.isSome_idxOf?]
      exact duplicate
    rw [if_pos duplicate]
    simp only [NameIndex.insert, previous, if_true]
    exact .failed _
  · have absent : gathered.names.lookup (package, name) = none := by
      rw [lookup, Option.map_eq_none_iff, List.idxOf?_eq_none_iff]
      exact duplicate
    rw [if_neg duplicate]
    simp only [NameIndex.insert, absent, Option.isSome_none, Bool.false_eq_true, if_false]
    exact .gathered (isFrom.append absent)

theorem sameGathering_gather
    {gathered : Gathered}
    (isFrom : GatheredFrom draft gathered) :
    SameGathering draft ((ofDraft draft).gather gathered ⟨gathered.types.length⟩)
      ((draft.checkedType gathered.types ⟨gathered.types.length⟩).map fun type =>
        gathered.types ++ [type]) := by
  cases typed : draft.typeOf ⟨gathered.types.length⟩ with
  | error error =>
      simp only [gather, typeOf_ofDraft, Draft.checkedType, typed, bind, Except.bind]
      exact .failed error
  | ok type =>
      obtain ⟨found, name, package, defined, named, packaged, rfl⟩ :=
        Draft.hasType_of_typeOf typed
      rw [checkedType_of_typeOf gathered.types typed defined named]
      cases nested : (ofDraft draft).nestingOf (.reference package name) ⟨gathered.types.length⟩
          found with
      | error error =>
          simp only [gather, typeOf_ofDraft, typed, read_class_ofDraft defined, nested, bind,
            Except.bind]
          exact .failed error
      | ok nesting =>
          rw [nestingOf_eq_ok defined nested] at nested
          exact sameGathering_of_nestingOf isFrom typed defined packaged nested

theorem sameGathering_foldlM
    {gathered : Gathered}
    (isFrom : GatheredFrom draft gathered)
    (count : Nat) :
    SameGathering draft
      (((List.range' gathered.types.length count).map ClassId.mk).foldlM (ofDraft draft).gather
        gathered)
      (draft.checkedTypes gathered.types
        ((List.range' gathered.types.length count).map ClassId.mk)) := by
  induction count generalizing gathered with
  | zero => exact .gathered isFrom
  | succ count inductionHypothesis =>
      rw [List.range'_succ, List.map_cons, List.foldlM_cons, Draft.checkedTypes]
      have first := sameGathering_gather isFrom
      simp only [bind, Except.bind]
      generalize (ofDraft draft).gather gathered ⟨gathered.types.length⟩ = left at first ⊢
      cases checked : draft.checkedType gathered.types ⟨gathered.types.length⟩ with
      | error error =>
          rw [checked] at first
          cases first
          exact .failed error
      | ok type =>
          rw [checked] at first
          dsimp only [Except.map] at first
          generalize extended : gathered.types ++ [type] = types at first ⊢
          cases first with
          | @gathered next isNext =>
              have length : next.types.length = gathered.types.length + 1 := by
                rw [← extended]
                simp
              dsimp only
              rw [extended, ← length]
              exact inductionHypothesis isNext

/-- All classes are gathered as their types are checked. -/
theorem sameGathering_classIds (draft : Draft) :
    SameGathering draft (draft.classIds.foldlM (ofDraft draft).gather {})
      (draft.checkedTypes [] draft.classIds) := by
  have nothing : GatheredFrom draft {} := ⟨nofun, rfl, rfl⟩
  rw [Draft.classIds, List.range_eq_range']
  exact sameGathering_foldlM nothing draft.classes.length

/-! ## Finishing -/

/-- Noting nested classes one after the other does to the arena what it does to the draft. -/
theorem run_forM_noteNested
    {ids : List ClassId}
    (enclosersDefined : ∀ id ∈ ids, ∀ outer, (draft.defined? id).bind Class.enclosing = some outer →
      (draft.defined? outer).isSome)
    (nested : ClassId → List ClassId) :
    (forM (nestings draft ids) noteNested).run (ofDraft (draft.withNested nested)) =
      .ok ⟨⟩ (ofDraft (draft.withNested fun outer => nested outer ++
        ids.filter fun inner => (draft.defined? inner).bind Class.enclosing = some outer)) := by
  induction ids generalizing nested with
  | nil =>
      simp only [List.filter_nil, List.append_nil]
      rfl
  | cons id rest inductionHypothesis =>
      obtain ⟨firstDefined, restDefined⟩ := List.forall_mem_cons.1 enclosersDefined
      cases enclosed : (draft.defined? id).bind Class.enclosing with
      | none =>
          have split : nestings draft (id :: rest) = nestings draft rest :=
            List.filterMap_cons_none (by rw [enclosed]; rfl)
          simp only [split, inductionHypothesis restDefined, List.filter_cons, enclosed]
          rfl
      | some outer =>
          have split : nestings draft (id :: rest) = (outer, id) :: nestings draft rest :=
            List.filterMap_cons_some (by rw [enclosed]; rfl)
          obtain ⟨around, aroundDefined⟩ :=
            Option.isSome_iff_exists.1 (firstDefined outer enclosed)
          have lookup : (draft.withNested nested).defined outer =
              .ok { around with nested := nested outer } := by
            rw [Draft.defined_eq_ok_iff, Draft.defined?_withNested, aroundDefined]
            rfl
          have noted : (noteNested (outer, id)).run (ofDraft (draft.withNested nested)) =
              .ok ⟨⟩ (ofDraft (draft.withNested
                (Function.update nested outer (nested outer ++ [id])))) := by
            rw [noteNested, run_amend, lookup]
            exact congrArg (fun next => EStateM.Result.ok PUnit.unit (ofDraft next))
              (Draft.put_withNested nested aroundDefined (nested outer ++ [id]))
          rw [split, List.forM_cons, EStateM.run_bind, noted]
          dsimp only
          rw [inductionHypothesis restDefined]
          congr 3
          funext other
          by_cases same : other = outer
          · subst same
            simp [enclosed]
          · have apart : outer ≠ other := fun equal => same equal.symm
            simp [same, enclosed, apart]

/-- Noting all nested classes does to the arena what it does to the draft. -/
theorem run_noteNested_classIds
    (coherent : draft.Coherent)
    (allDefined : ∀ id ∈ draft.classIds, (draft.defined? id).isSome) :
    (forM (nestings draft draft.classIds) noteNested).run (ofDraft draft) =
      .ok ⟨⟩ (ofDraft (draft.withNested draft.nestedIn)) := by
  have enclosersDefined : ∀ id ∈ draft.classIds, ∀ outer,
      (draft.defined? id).bind Class.enclosing = some outer → (draft.defined? outer).isSome :=
    fun _ _ outer enclosed => allDefined outer (coherent.enclosing_mem enclosed)
  have noted := run_forM_noteNested enclosersDefined fun _ => []
  rw [coherent.withNested_nil] at noted
  rw [noted]
  simp only [List.nil_append]
  rfl

/-- An arena all of whose places are filled is frozen into an outline. -/
theorem freeze_ofDraft
    (types : List TypeRef)
    (allDefined : ∀ value ∈ draft.classes, value.isSome) :
    (ofDraft draft).freeze types =
      .ok ⟨draft.packages, draft.classes.filterMap id, draft.fields, types⟩ := by
  have present : ∀ {Item : Type} (items : List Item), (items.map some).mapM id = some items := by
    intro Item items
    induction items with
    | nil => rfl
    | cons first rest inductionHypothesis => simp [inductionHypothesis]
  have filled : draft.classes.mapM id = some (draft.classes.filterMap id) := by
    generalize draft.classes = classes at allDefined
    induction classes with
    | nil => rfl
    | cons first rest inductionHypothesis =>
        obtain ⟨firstDefined, restDefined⟩ := List.forall_mem_cons.1 allDefined
        obtain ⟨found, rfl⟩ := Option.isSome_iff_exists.1 firstDefined
        simp [inductionHypothesis restDefined]
  have packages : (ofDraft draft).packages.mapM id = some draft.packages := present _
  have classes : (ofDraft draft).classes.mapM id = some (draft.classes.filterMap id) := filled
  have fields : (ofDraft draft).fields.mapM id = some draft.fields := present _
  rw [freeze, packages, classes, fields]

/-- Finishing in the arena of a draft leads to the outline of the draft and to the index of the
names of its classes, or to the error of the draft. -/
theorem finished_ofDraft
    (coherent : draft.Coherent) :
    (ofDraft draft).finished =
      draft.finish.map fun outline => (outline, nameIndex outline.types) := by
  have gathering := sameGathering_classIds draft
  have allClasses : firstClasses draft.classes.length = draft.classIds := rfl
  have arenaClasses : firstClasses (ofDraft draft).classes.length = draft.classIds := rfl
  simp only [finished, finish, EStateM.run_bind, run_consult, arenaClasses]
  unfold Draft.finish
  simp only [bind, Except.bind]
  generalize draft.classIds.foldlM (ofDraft draft).gather {} = left at gathering ⊢
  cases checked : draft.checkedTypes [] draft.classIds with
  | error error =>
      rw [checked] at gathering
      cases gathering
      rfl
  | ok types =>
      have typed := coherent.typed_of_checkedTypes checked
      have lengths : types.length = draft.classes.length := by
        rw [← typed.length_eq, Draft.length_classIds]
      have allDefined := Draft.isSome_of_typed typed
      rw [checked] at gathering
      cases gathering with
      | @gathered gathered isFrom =>
          dsimp only
          rw [checkAncestry_ofDraft lengths]
          cases draft.checkAncestry gathered.types with
          | error error => rfl
          | ok =>
              dsimp only
              rw [isFrom.nesting_eq, lengths, allClasses,
                run_noteNested_classIds coherent allDefined,
                coherent.foldlM_noteNested_classIds allDefined]
              dsimp only
              rw [freeze_ofDraft _ fun _ => Draft.isSome_of_mem_withNested allDefined _,
                isFrom.names_eq]
              rfl

end Arena

/-- Finishing in an arena leads to the outline of the draft and to the index of its names. -/
theorem Draft.Coherent.finished_arena
    {draft : Draft}
    (coherent : draft.Coherent)
    {outline : Outline}
    {names : NameIndex}
    (finished : (Arena.ofDraft draft).finished = .ok (outline, names)) :
    draft.finish = .ok outline ∧ names = Arena.nameIndex outline.types := by
  rw [Arena.finished_ofDraft coherent] at finished
  cases made : draft.finish with
  | error error =>
      rw [made] at finished
      cases finished
  | ok other =>
      rw [made] at finished
      cases finished
      exact ⟨rfl, rfl⟩

/-- The index of names finds what looking through the types finds. -/
theorem Draft.Coherent.lookup_nameIndex
    {draft : Draft}
    (coherent : draft.Coherent)
    {outline : Outline}
    (finished : draft.finish = .ok outline)
    (package name : String) :
    (Arena.nameIndex outline.types).lookup (package, name) = outline.classByName? package name := by
  refine Arena.lookup_nameIndex (fun type member => ?_) package name
  obtain ⟨index, lookup⟩ := List.mem_iff_getElem?.1 member
  have typed : outline.typeOf? ⟨index⟩ = some type := lookup
  obtain ⟨_, ownName, ownPackage, _, _, _, rfl⟩ :=
    (coherent.typeOf?_eq_some_iff finished).1 typed
  exact ⟨ownPackage, ownName, rfl⟩

end SchemaBinding
