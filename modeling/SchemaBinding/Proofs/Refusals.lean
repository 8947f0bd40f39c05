import SchemaBinding.Proofs.Arena.Finish

/-!
# Refused operations

What an operation leaves behind that ends in a model error: nothing.  In an arena this is a matter
of order, since a place that is reserved before a check fails would move all later handles on.  A
script without its refused operations therefore has the transcript of the script without the
refusals, and finishing leads to the same after it.
-/

namespace SchemaBinding

/-- Whether an operation was answered with a model error.  That a place is missing is no such error:
it breaks the work off. -/
def Entry.refused (entry : Entry) : Bool :=
  match entry.answer with
  | .failed .unknownId => false
  | .failed _ => true
  | .handle _ => false
  | .type _ => false
  | .done => false

/-- A transcript without the refused operations. -/
def Transcript.accepted (transcript : Transcript) : Transcript :=
  transcript.filter fun entry => !entry.refused

/-- What comes of a script and of finishing after it, on a draft. -/
def Draft.report (operations : List Operation) : Transcript × Except ModelError Outline :=
  let (transcript, draft) := transcribe perform .empty operations
  (transcript, draft.finish)

/-- What comes of a script and of finishing after it, in an arena. -/
def Arena.report (operations : List Operation) :
    Transcript × Except ModelError (Outline × NameIndex) :=
  let (transcript, arena) := transcribe perform .empty operations
  (transcript, arena.finished)

variable {draft : Draft}

/-- An operation that fails leaves the draft as it was. -/
theorem Draft.perform_of_failed
    {operation : Operation}
    {error : ModelError}
    (failed : (draft.perform operation).1 = .failed error) :
    (draft.perform operation).2 = draft := by
  have step := draft.perform_step operation
  rw [failed] at step
  generalize (draft.perform operation).2 = next at step
  cases step
  rfl

/-- An operation that fails leaves the arena as it was, with all its places and none more. -/
theorem Arena.perform_of_failed
    (placed : FieldsPlaced draft)
    {operation : Operation}
    {error : ModelError}
    (failed : ((ofDraft draft).perform operation).1 = .failed error) :
    ((ofDraft draft).perform operation).2 = ofDraft draft := by
  rw [perform_ofDraft placed] at failed ⊢
  exact congrArg ofDraft (Draft.perform_of_failed failed)

theorem Entry.exists_failed_of_refused
    {entry : Entry}
    (refused : entry.refused) :
    ∃ error, entry.answer = .failed error := by
  unfold Entry.refused at refused
  cases answer : entry.answer with
  | failed error => exact ⟨error, rfl⟩
  | handle | type | done =>
      rw [answer] at refused
      cases refused

theorem Transcript.accepted_cons_of_refused
    {entry : Entry}
    (transcript : Transcript)
    (refused : entry.refused) :
    accepted (entry :: transcript) = transcript.accepted :=
  List.filter_cons_of_neg (by simpa using refused)

theorem Transcript.accepted_cons_of_not_refused
    {entry : Entry}
    (transcript : Transcript)
    (notRefused : ¬entry.refused) :
    accepted (entry :: transcript) = entry :: transcript.accepted :=
  List.filter_cons_of_pos (by simpa using notRefused)

/-- A script without its refused operations is answered as before and leads to the same draft. -/
theorem Draft.transcribe_accepted
    (draft : Draft)
    (operations : List Operation) :
    transcribe perform draft (transcribe perform draft operations).1.accepted.operations =
      ((transcribe perform draft operations).1.accepted,
        (transcribe perform draft operations).2) := by
  induction operations generalizing draft with
  | nil => rfl
  | cons operation rest inductionHypothesis =>
      have later := inductionHypothesis (draft.perform operation).2
      simp only [transcribe]
      by_cases refused : (⟨operation, (draft.perform operation).1⟩ : Entry).refused
      · obtain ⟨error, failed⟩ := Entry.exists_failed_of_refused refused
        rw [Transcript.accepted_cons_of_refused _ refused]
        rw [Draft.perform_of_failed failed] at later ⊢
        exact later
      · rw [Transcript.accepted_cons_of_not_refused _ refused]
        simp only [Transcript.operations, List.map_cons, transcribe]
        rw [← Transcript.operations, later]

/-- What was built is built without the refused operations as well, which gave out no handles. -/
theorem Built.accepted
    {transcript : Transcript}
    (built : Built transcript draft) :
    Built transcript.accepted draft := by
  induction built with
  | empty => exact .empty
  | @perform transcript draft built operation given inductionHypothesis =>
      have split : Transcript.accepted (transcript ++ [⟨operation, (draft.perform operation).1⟩]) =
          transcript.accepted ++ Transcript.accepted [⟨operation, (draft.perform operation).1⟩] :=
        List.filter_append ..
      rw [split]
      by_cases refused : (⟨operation, (draft.perform operation).1⟩ : Entry).refused
      · obtain ⟨error, failed⟩ := Entry.exists_failed_of_refused refused
        rw [Transcript.accepted_cons_of_refused _ refused, Draft.perform_of_failed failed]
        simpa [Transcript.accepted] using inductionHypothesis
      · rw [Transcript.accepted_cons_of_not_refused _ refused]
        refine inductionHypothesis.perform operation fun handle isGiven => ?_
        obtain ⟨entry, member, answered⟩ := given handle isGiven
        refine ⟨entry, List.mem_filter.2 ⟨member, ?_⟩, answered⟩
        simp [Entry.refused, answered]

/-- Refusals leave nothing behind.  Whatever handles a script uses, its operations other than the
refused ones have the same answers, with the same handles, if the refused ones are left out, and
finishing leads to the same outline or to the same error; in an arena as on a draft. -/
theorem report_accepted
    (operations : List Operation) :
    Arena.report (Arena.report operations).1.accepted.operations =
        ((Arena.report operations).1.accepted, (Arena.report operations).2) ∧
      Draft.report (Draft.report operations).1.accepted.operations =
        ((Draft.report operations).1.accepted, (Draft.report operations).2) := by
  have onDraft := Draft.transcribe_accepted .empty operations
  simp only [Arena.report, Draft.report, Arena.transcribe_empty]
  rw [onDraft]
  exact ⟨rfl, rfl⟩

end SchemaBinding
