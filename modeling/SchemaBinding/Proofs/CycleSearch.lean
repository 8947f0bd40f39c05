import SchemaBinding.Proofs.Arena.Finish

/-!
# The search for cycles

The search through the supertypes as it runs, with a mark for each class and no bound on its depth.
Nothing in its equations says that it ends.  The classes that are marked as in progress are those
that lead to where it is, so that a class which it meets there is its own ancestor; and what it is
done with leads to no cycle.  It always ends, with such a class or with the proof that there is
none.
-/

namespace SchemaBinding

open Relation (TransGen)

namespace Draft

open Arena (Mark Marked)

/-- A search, which may end with a class that it blames, and may go on for ever or break off. -/
abbrev Search (α : Type) : Type :=
  ExceptT ClassId Option α

/-- Visits the supertypes of a class and then is done with the class, unless it was so before.  A
class that is met while it is in progress is blamed. -/
def seek (draft : Draft) (marks : List Mark) (id : ClassId) : Search (List Mark) := do
  match ← (marks[id.index]? : Option Mark) with
  | .done => return marks
  | .inProgress => throw id
  | .unvisited => do
      let found ← (draft.defined? id : Option Class)
      let marks ← found.supertypes.foldlM (draft |>.seek) (marks.set id.index .inProgress)
      return marks.set id.index .done
partial_fixpoint

/-- Visits all classes, with no marks to begin with. -/
def seekCycle (draft : Draft) : Search Unit := do
  let _ ← draft.classIds.foldlM draft.seek (List.replicate draft.classes.length .unvisited)

variable {draft : Draft} {types : List TypeRef} {path : List ClassId}

/-! ## Equations -/

theorem seek_of_done
    {marks : List Mark}
    {id : ClassId}
    (isDone : marks[id.index]? = some .done) :
    draft.seek marks id = pure marks := by
  rw [seek, isDone]
  rfl

theorem seek_of_inProgress
    {marks : List Mark}
    {id : ClassId}
    (isInProgress : marks[id.index]? = some .inProgress) :
    draft.seek marks id = throw id := by
  rw [seek, isInProgress]
  rfl

theorem seek_of_unvisited
    {marks : List Mark}
    {id : ClassId}
    {found : Class}
    (isUnvisited : marks[id.index]? = some .unvisited)
    (defined : draft.defined? id = some found) :
    draft.seek marks id = (do
      let marks ← found.supertypes.foldlM draft.seek (marks.set id.index .inProgress)
      return marks.set id.index .done) := by
  rw [seek, isUnvisited, defined]
  rfl

/-! ## Beside the search with lists -/

/-- How a search and a bounded visit, which keeps lists, can end alike. -/
inductive SameSeek (draft : Draft) (types : List TypeRef) (path : List ClassId) :
    Option (Except ClassId (List Mark)) → Except ModelError (List ClassId) → Prop
  /-- The visit breaks off, so that nothing is said of the search. -/
  | broken {sought : Option (Except ClassId (List Mark))} :
      SameSeek draft types path sought (.error .unknownId)
  /-- Both blame a class that is its own ancestor. -/
  | blamed {culprit : ClassId} {type : TypeRef}
      (cycle : TransGen (Extends draft.defined?) culprit culprit)
      (typed : types[culprit.index]? = some type) :
      SameSeek draft types path (some (.error culprit)) (.error (.supertypeCycle type.fullName))
  /-- Both have visited the same classes. -/
  | visited {marks : List Mark} {visited : List ClassId}
      (marked : Marked draft marks path visited) :
      SameSeek draft types path (some (.ok marks)) (.ok visited)

/-- A search and a visit that end alike on each of some classes do so on all of them. -/
theorem sameSeek_foldlM
    {depth : Nat}
    {targets : List ClassId}
    (same : ∀ id ∈ targets, ∀ {marks visited}, Marked draft marks path visited →
      SameSeek draft types path (draft.seek marks id).run
        (draft.visit types depth path visited id))
    {marks : List Mark}
    {visited : List ClassId}
    (marked : Marked draft marks path visited) :
    SameSeek draft types path (targets.foldlM draft.seek marks).run
      (targets.foldlM (draft.visit types depth path) visited) := by
  induction targets generalizing marks visited with
  | nil => exact .visited marked
  | cons first rest inductionHypothesis =>
      obtain ⟨firstSame, restSame⟩ := List.forall_mem_cons.1 same
      have ended := firstSame marked
      rw [List.foldlM_cons, List.foldlM_cons, ExceptT.run_bind]
      generalize (draft.seek marks first).run = sought at ended
      generalize draft.visit types depth path visited first = visit at ended
      cases ended with
      | broken => exact .broken
      | blamed cycle typed => exact .blamed cycle typed
      | visited markedNext => exact inductionHypothesis restSame markedNext

/-- A class that was met before, or that is none, is treated alike. -/
theorem sameSeek_visit_of_met
    (types : List TypeRef)
    (depth : Nat)
    {marks : List Mark}
    {visited : List ClassId}
    {id : ClassId}
    (leads : ∀ earlier ∈ path, TransGen (Extends draft.defined?) earlier id)
    (marked : Marked draft marks path visited)
    (met : marks[id.index]? ≠ some .unvisited) :
    SameSeek draft types path (draft.seek marks id).run
      (draft.visit types depth path visited id) := by
  unfold visit
  cases isMark : marks[id.index]? with
  | none =>
      obtain ⟨notVisited, notOnPath, undefined⟩ := marked.undefined_of_unmarked isMark
      rw [if_neg notVisited, if_neg notOnPath, undefined]
      cases depth <;> exact .broken
  | some mark =>
      cases mark with
      | unvisited => exact absurd isMark met
      | done =>
          rw [if_pos ((marked.done_iff id).1 isMark), seek_of_done isMark]
          exact .visited marked
      | inProgress =>
          have onPath := (marked.inProgress_iff id).1 isMark
          have notVisited : id ∉ visited := by simp [← marked.done_iff, isMark]
          rw [if_neg notVisited, if_pos onPath, seek_of_inProgress isMark]
          cases typed : types[id.index]? with
          | none => exact .broken
          | some type => exact .blamed (leads id onPath) typed

/-- A search and a visit that have met the same classes end alike, if the classes in progress lead
to the class that is visited next. -/
theorem sameSeek_visit
    (types : List TypeRef)
    (depth : Nat)
    {marks : List Mark}
    {visited : List ClassId}
    {id : ClassId}
    (leads : ∀ earlier ∈ path, TransGen (Extends draft.defined?) earlier id)
    (marked : Marked draft marks path visited) :
    SameSeek draft types path (draft.seek marks id).run
      (draft.visit types depth path visited id) := by
  induction depth generalizing path marks visited id with
  | zero =>
      by_cases unvisited : marks[id.index]? = some .unvisited
      · obtain ⟨notVisited, notOnPath⟩ := marked.not_mem_of_unvisited unvisited
        unfold visit
        rw [if_neg notVisited, if_neg notOnPath]
        exact .broken
      · exact sameSeek_visit_of_met types 0 leads marked unvisited
  | succ depth inductionHypothesis =>
      by_cases unvisited : marks[id.index]? = some .unvisited
      · obtain ⟨notVisited, notOnPath⟩ := marked.not_mem_of_unvisited unvisited
        unfold visit
        rw [if_neg notVisited, if_neg notOnPath]
        cases defined : draft.defined? id with
        | none => exact .broken
        | some found =>
            have leadsAbove : ∀ supertype ∈ found.supertypes, ∀ earlier ∈ id :: path,
                TransGen (Extends draft.defined?) earlier supertype := by
              intro supertype member
              have direct : Extends draft.defined? id supertype := ⟨found, defined, member⟩
              exact List.forall_mem_cons.2 ⟨.single direct,
                fun earlier onPath => (leads earlier onPath).tail direct⟩
            have above := sameSeek_foldlM
              (fun supertype member _ _ isMarked =>
                inductionHypothesis (leadsAbove supertype member) isMarked)
              (marked.enter unvisited)
            rw [seek_of_unvisited unvisited defined, ExceptT.run_bind]
            dsimp only
            generalize (found.supertypes.foldlM draft.seek
              (marks.set id.index .inProgress)).run = sought at above ⊢
            generalize found.supertypes.foldlM (draft.visit types depth (id :: path)) visited =
              visit at above ⊢
            cases above with
            | broken => exact .broken
            | blamed cycle typed => exact .blamed cycle typed
            | visited markedAbove => exact .visited (markedAbove.leave notOnPath)
      · exact sameSeek_visit_of_met types (depth + 1) leads marked unvisited

/-! ## The search ends -/

/-- The search and the check end alike in a draft whose supertypes are classes and whose classes have
types. -/
theorem ClosedAbove.seekCycle_cases
    (closed : draft.ClosedAbove)
    (typed : List.Forall₂ (fun id type => draft.typeOf id = .ok type) draft.classIds types) :
    (draft.seekCycle.run = some (.ok ()) ∧ draft.checkAncestry types = .ok () ∧
        ∀ id, ¬TransGen (Extends draft.defined?) id id) ∨
      ∃ culprit type, draft.seekCycle.run = some (.error culprit) ∧
        draft.typeOf culprit = .ok type ∧
        draft.checkAncestry types = .error (.supertypeCycle type.fullName) ∧
        TransGen (Extends draft.defined?) culprit culprit := by
  have hasTypes := typed.imp fun _ _ => hasType_of_typeOf
  have lengths : types.length = draft.classes.length := by
    rw [← typed.length_eq, length_classIds]
  have checked := closed.checkAncestry_cases (isSome_of_typed hasTypes) lengths
  have visits : ∀ id ∈ draft.classIds, ∀ {marks visited}, Marked draft marks [] visited →
      SameSeek draft types [] (draft.seek marks id).run
        (draft.visit types (draft.classes.length + 1) [] visited id) :=
    fun id _ _ _ => sameSeek_visit types _ fun _ onPath => absurd onPath List.not_mem_nil
  have same := sameSeek_foldlM visits (Marked.start draft)
  unfold seekCycle
  unfold checkAncestry at checked ⊢
  rw [ExceptT.run_bind]
  generalize (draft.classIds.foldlM draft.seek
    (List.replicate draft.classes.length .unvisited)).run = sought at same ⊢
  generalize draft.classIds.foldlM (draft.visit types (draft.classes.length + 1) []) [] = visit
    at same checked ⊢
  cases same with
  | broken =>
      rcases checked with ⟨passed, _⟩ | ⟨_, _, failed, _⟩
      · cases passed
      · cases failed
  | @blamed culprit type cycle isType =>
      have hasType := (hasType_iff_getElem? hasTypes).1 isType
      obtain ⟨place, isCulprit⟩ := List.mem_iff_get.1 hasType.mem_classIds
      have asked := (List.forall₂_iff_get.1 typed).2 place place.isLt (typed.length_eq ▸ place.isLt)
      rw [Fin.eta, isCulprit] at asked
      have sameType := hasType.unique (hasType_of_typeOf asked)
      rcases checked with ⟨passed, _⟩ | _
      · cases passed
      · exact .inr ⟨culprit, type, rfl, sameType ▸ asked, rfl, cycle⟩
  | visited marked =>
      rcases checked with ⟨_, acyclic⟩ | ⟨_, _, failed, _⟩
      · exact .inl ⟨rfl, rfl, acyclic⟩
      · cases failed

/-- The search for cycles ends if all classes, and all their supertypes, are defined and if every
class has a type.  Either it comes to its end, as the check does, and no class is its own ancestor;
or it blames a class, which the check names, and this very class is its own ancestor. -/
theorem seekCycle_blames_cycle
    (typed : List.Forall₂ (fun id type => draft.typeOf id = .ok type) draft.classIds types)
    (above : ∀ id supertype, Extends draft.defined? id supertype →
      (draft.defined? supertype).isSome) :
    (draft.seekCycle.run = some (.ok ()) ∧ draft.checkAncestry types = .ok () ∧
        ∀ id, ¬TransGen (Extends draft.defined?) id id) ∨
      ∃ culprit type, draft.seekCycle.run = some (.error culprit) ∧
        draft.typeOf culprit = .ok type ∧
        draft.checkAncestry types = .error (.supertypeCycle type.fullName) ∧
        TransGen (Extends draft.defined?) culprit culprit := by
  have closed : draft.ClosedAbove := by
    intro id supertype direct
    obtain ⟨found, defined⟩ := Option.isSome_iff_exists.1 (above id supertype direct)
    exact mem_classIds.2 (index_lt_of_defined defined)
  exact closed.seekCycle_cases typed

/-- Three classes, the first of which leads to the others, which lead to each other. -/
def tailedCycle : Draft where
  packages := ["p"]
  classes := [some ⟨"Tail", ⟨0⟩, none, [], [⟨1⟩], []⟩, some ⟨"First", ⟨0⟩, none, [], [⟨2⟩], []⟩,
    some ⟨"Second", ⟨0⟩, none, [], [⟨1⟩], []⟩]

/-- What is blamed is on the cycle, and not the class from which the search came to it. -/
theorem tailedCycle_blamed :
    tailedCycle.checkAncestry
        [.reference "p" "Tail", .reference "p" "First", .reference "p" "Second"] =
          .error (.supertypeCycle "p.First") ∧
      ∃ culprit, tailedCycle.seekCycle.run = some (.error culprit) ∧
        TransGen (Extends tailedCycle.defined?) culprit culprit := by
  have typed : List.Forall₂ (fun id type => tailedCycle.typeOf id = .ok type) tailedCycle.classIds
      [.reference "p" "Tail", .reference "p" "First", .reference "p" "Second"] :=
    .cons rfl (.cons rfl (.cons rfl .nil))
  have above : ∀ id supertype, Extends tailedCycle.defined? id supertype →
      (tailedCycle.defined? supertype).isSome := by
    rintro ⟨_ | _ | _ | index⟩ supertype ⟨found, defined, member⟩ <;> cases defined
    all_goals
      obtain rfl := List.mem_singleton.1 member
      rfl
  have named : tailedCycle.checkAncestry
      [.reference "p" "Tail", .reference "p" "First", .reference "p" "Second"] =
        .error (.supertypeCycle "p.First") := by decide
  refine ⟨named, ?_⟩
  rcases seekCycle_blames_cycle typed above with ⟨_, passed, _⟩ | ⟨culprit, _, blamed, _, _, cycle⟩
  · rw [named] at passed
    cases passed
  · exact ⟨culprit, blamed, cycle⟩

end Draft

/-- In a draft that was built with its own handles every supertype is a class.  So if all its classes
have types, the search for cycles ends, either without a cycle or with a class that is on one. -/
theorem Built.seekCycle_cases
    {transcript : Transcript}
    {draft : Draft}
    {types : List TypeRef}
    (built : Built transcript draft)
    (typed : List.Forall₂ (fun id type => draft.typeOf id = .ok type) draft.classIds types) :
    (draft.seekCycle.run = some (.ok ()) ∧ draft.checkAncestry types = .ok () ∧
        ∀ id, ¬TransGen (Extends draft.defined?) id id) ∨
      ∃ culprit type, draft.seekCycle.run = some (.error culprit) ∧
        draft.typeOf culprit = .ok type ∧
        draft.checkAncestry types = .error (.supertypeCycle type.fullName) ∧
        TransGen (Extends draft.defined?) culprit culprit :=
  built.coherent.closedAbove.seekCycle_cases typed

end SchemaBinding
