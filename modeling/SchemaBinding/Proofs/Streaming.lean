import SchemaBinding.Proofs.Handles
import SchemaBinding.Proofs.Sinks

/-!
# Streaming signatures

A signature can be written while an outline is gone through, in many small pieces, to a device that
takes as few octets at a time as it pleases.  What the device takes is the text of the signature,
cut off only by the limit of the device.  Nothing in the equations says that writing ends; it breaks
off where an entry of the outline is missing.
-/

namespace SchemaBinding

open Text.Utf8 (encode decode?)

/-- What octets are written to.  It may take fewer of them at a time than it could. -/
structure Device (Fault State : Type) where
  /-- The sink that a state of the device stands for. -/
  view : State → Sink Fault
  /-- Offers octets to the device, which tells how many of them it took or how it failed. -/
  write : State → List UInt8 → Except Fault Nat × State
  /-- Flushes the device, which tells how this failed, if it did. -/
  flush : State → Option Fault × State
  /-- The device takes something if it can, from the front of what it is offered. -/
  takes : ∀ state octets, (view state).capacity octets.length ≠ 0 →
    ∃ count next, write state octets = (.ok count, next) ∧ 0 < count ∧
      count ≤ (view state).capacity octets.length ∧
      view next = { view state with taken := (view state).taken ++ octets.take count }
  /-- A device that is full fails, or takes nothing without failing. -/
  refuses : ∀ state octets, octets ≠ [] → (view state).capacity octets.length = 0 →
    ∃ next, write state octets = ((view state).fullFault.elim (.ok 0) .error, next) ∧
      view next = view state
  /-- The device flushes as the sink does. -/
  flushes : ∀ state, Prod.map id view (flush state) = (view state).flush

/-- A sink as a device that takes as much at a time as it can. -/
def Sink.device {Fault : Type} : Device Fault (Sink Fault) where
  view := id
  write sink octets :=
    let count := sink.capacity octets.length
    if count = 0 then (sink.fullFault.elim (.ok 0) .error, sink)
    else (.ok count, { sink with taken := sink.taken ++ octets.take count })
  flush := Sink.flush
  takes _ _ takesSome :=
    ⟨_, _, if_neg takesSome, Nat.pos_of_ne_zero takesSome, Nat.le_refl _, rfl⟩
  refuses _ _ _ full := ⟨_, if_pos full, rfl⟩
  flushes _ := rfl

/-- The names of the packages in ascending order, each with the classes at the top of the package.
-/
def Outline.packageGroups? (outline : Outline) : Option (List (String × List ClassId)) := do
  let packaged ← outline.packagedTopLevel?
  return (packaged.map Prod.snd).eraseDups.mergeSort.map fun package =>
    (package, (packaged.filter fun entry => entry.2 == package).map Prod.fst)

namespace Device

variable {Fault State : Type}

/-! ## Writing -/

/-- Work with a device that may fail as the device does, break off, or not end. -/
abbrev Work (Fault State : Type) : Type → Type :=
  ExceptT (SinkFault Fault) (StateT State Option)

/-- The result of work that fails with a fault or is done. -/
def result (fault : Option (SinkFault Fault)) : Except (SinkFault Fault) Unit :=
  fault.elim (.ok ()) .error

/-- Offers octets to the device once. -/
def offer (device : Device Fault State) (octets : List UInt8) : Work Fault State Nat :=
  ExceptT.mk do
    let (answer, next) := device.write (← get) octets
    set next
    return answer.mapError .own

/-- Offers octets until all of them are taken or the device fails or takes nothing. -/
def writeAll (device : Device Fault State) (octets : List UInt8) : Work Fault State Unit :=
  if octets = [] then return ()
  else do
    let count ← device.offer octets
    if count = 0 then throw .writeZero
    else device |>.writeAll (octets.drop count)
partial_fixpoint

/-- Writes a string. -/
def writeText (device : Device Fault State) (text : String) : Work Fault State Unit :=
  device.writeAll (encode text)

/-- Writes a line: its indentation step by step, its text, and its end. -/
def writeLine (device : Device Fault State) (indent : Nat) (text : String) :
    Work Fault State Unit := do
  (List.replicate indent "  ").forM device.writeText
  device.writeText text
  device.writeText "\n"

/-- Writes a class of the block of a package, and inside it the classes nested in it. -/
def writeClass (device : Device Fault State) (outline : Outline) (options : SignatureOptions)
    (package : String) (indent : Nat) (id : ClassId) : Work Fault State Unit := do
  let found ← outline.class? id
  let supertypes ← (found.supertypes.mapM outline.typeOf? : Option (List TypeRef))
  device.writeLine indent
    (ClassTree.header found.name (supertypes.map (Outline.displaySupertype options package)))
  found.fields.forM fun field => do
    let field ← outline.field? field
    device.writeLine (indent + 1)
      (ClassTree.fieldLine (Outline.displayType options field.type, field.name))
  found.nested.forM (device |>.writeClass outline options package (indent + 1))
  device.writeLine indent "\x7d"
partial_fixpoint

/-- Writes the block of a package that has the given classes at the top. -/
def writePackage (device : Device Fault State) (outline : Outline) (options : SignatureOptions)
    (group : String × List ClassId) : Work Fault State Unit := do
  device.writeLine 0 ("package " ++ group.1 ++ " \x7b")
  group.2.forM (device.writeClass outline options group.1 1)
  device.writeLine 0 "\x7d"

/-- Flushes the device. -/
def flushOnce (device : Device Fault State) : Work Fault State Unit :=
  ExceptT.mk do
    let (fault, next) := device.flush (← get)
    set next
    return result (fault.map .own)

/-- Writes the blocks of all packages. -/
def writePackages (device : Device Fault State) (outline : Outline) (options : SignatureOptions) :
    Work Fault State Unit := do
  let groups ← outline.packageGroups?
  groups.forM (device.writePackage outline options)

/-- Writes the signature of an outline to a device and flushes the device. -/
def stream (device : Device Fault State) (outline : Outline) (options : SignatureOptions) :
    Work Fault State Unit := do
  device.writePackages outline options
  device.flushOnce

end Device

/-- A sink that takes everything and never fails. -/
def Sink.buffer : Sink Empty :=
  ⟨none, none, none, none, [], 0⟩

/-- The signature as a string, which is what is written to a buffer. -/
def Outline.streamed? (outline : Outline) (options : SignatureOptions) : Option String := do
  let (.ok (), sink) ← (Sink.device.stream outline options).run.run Sink.buffer | none
  decode? sink.taken

namespace Device

variable {Fault State : Type} {device : Device Fault State}

/-! ## What work writes -/

/-- Whether some work ends and comes to the device accepting octets. -/
def Writes (device : Device Fault State) (work : Work Fault State Unit) (octets : List UInt8) :
    Prop :=
  ∀ state, (device.view state).chunk ≠ some 0 → ∃ fault next,
    work.run.run state = some (result fault, next) ∧
    (device.view state).accept octets = (fault, device.view next)

theorem writes_pure : device.Writes (pure ()) [] :=
  fun state _ => ⟨none, state, rfl, Sink.accept_nil _⟩

/-- Work that is done after other work is not begun if that fails. -/
theorem Writes.bind
    {first second : Work Fault State Unit}
    {left right : List UInt8}
    (firstWrites : device.Writes first left)
    (secondWrites : device.Writes second right) :
    device.Writes (first >>= fun _ => second) (left ++ right) := by
  intro state takesSome
  obtain ⟨fault, middle, ran, accepted⟩ := firstWrites state takesSome
  rw [Sink.accept_append, accepted, ExceptT.run_bind, StateT.run_bind, ran]
  cases fault with
  | some fault => exact ⟨some fault, middle, rfl, rfl⟩
  | none =>
      have sameChunk : (device.view middle).chunk = (device.view state).chunk :=
        congrArg (fun accepted => accepted.2.chunk) accepted.symm
      exact secondWrites middle (sameChunk ▸ takesSome)

/-- Work goes on with an entry that is there. -/
theorem Writes.read
    {Entry : Type}
    {read? : Option Entry}
    {entry : Entry}
    {work : Entry → Work Fault State Unit}
    {octets : List UInt8}
    (isEntry : read? = some entry)
    (writes : device.Writes (work entry) octets) :
    device.Writes (liftM read? >>= work) octets := by
  subst isEntry
  exact writes

theorem Writes.forM
    {Item : Type}
    {items : List Item}
    {work : Item → Work Fault State Unit}
    {octets : Item → List UInt8}
    (each : ∀ item ∈ items, device.Writes (work item) (octets item)) :
    device.Writes (items.forM work) (items.flatMap octets) := by
  induction items with
  | nil => exact writes_pure
  | cons first rest inductionHypothesis =>
      obtain ⟨firstWrites, restWrites⟩ := List.forall_mem_cons.1 each
      rw [List.flatMap_cons]
      exact firstWrites.bind (inductionHypothesis restWrites)

theorem run_offer
    (device : Device Fault State)
    (octets : List UInt8)
    (state : State) :
    (device.offer octets).run.run state =
      some ((device.write state octets).map (Except.mapError .own) id) :=
  rfl

/-- Octets are offered until they are accepted, of which the device takes some at a time. -/
theorem writes_writeAll
    (device : Device Fault State)
    (octets : List UInt8) :
    device.Writes (device.writeAll octets) octets := by
  induction length : octets.length using Nat.strong_induction_on generalizing octets with
  | _ length inductionHypothesis =>
      subst length
      rw [writeAll]
      split_ifs with empty
      · exact empty ▸ writes_pure
      intro state takesSome
      rw [ExceptT.run_bind, StateT.run_bind, run_offer, Option.bind_eq_bind, Option.bind_some]
      by_cases full : (device.view state).capacity octets.length = 0
      · obtain ⟨next, written, sameView⟩ := device.refuses state octets empty full
        refine ⟨some (device.view state).refusal, next, ?_, ?_⟩
        · rw [written, Sink.refusal]
          cases (device.view state).fullFault <;> rfl
        · rw [Sink.accept_of_full takesSome empty full, sameView]
      · obtain ⟨count, next, written, positive, enough, isView⟩ := device.takes state octets full
        have fewer : (octets.drop count).length < octets.length := by
          rw [List.length_drop]
          exact Nat.sub_lt (List.length_pos_iff.2 empty) positive
        have stillSome : (device.view next).chunk ≠ some 0 := isView ▸ takesSome
        obtain ⟨fault, last, ran, accepted⟩ :=
          inductionHypothesis _ fewer (octets.drop count) rfl next stillSome
        refine ⟨fault, last, ?_, ?_⟩
        · rw [written]
          simp only [Prod.map, Except.mapError, id_eq]
          rw [if_neg positive.ne', ran]
        · rw [Sink.accept_eq_of_partial enough, ← isView, accepted]

/-- The octets of a line. -/
def lineOctets (line : Line) : List UInt8 :=
  line.pieces.flatMap encode

theorem writes_writeLine
    (device : Device Fault State)
    (indent : Nat)
    (text : String) :
    device.Writes (device.writeLine indent text) (lineOctets ⟨indent, text⟩) := by
  have writes : ∀ piece, device.Writes (device.writeText piece) (encode piece) :=
    fun piece => device.writes_writeAll (encode piece)
  have indentation : device.Writes ((List.replicate indent "  ").forM device.writeText) _ :=
    .forM fun piece _ => writes piece
  rw [lineOctets, Line.pieces, List.flatMap_append, List.flatMap_cons, List.flatMap_singleton]
  exact indentation.bind ((writes text).bind (writes "\n"))

/-- Work on entries that are all there. -/
theorem Writes.forM_read
    {Item Entry : Type}
    {read? : Item → Option Entry}
    {items : List Item}
    {work : Entry → Work Fault State Unit}
    {octets : Entry → List UInt8}
    (each : ∀ item ∈ items, (read? item).isSome)
    (writes : ∀ entry, device.Writes (work entry) (octets entry)) :
    device.Writes (items.forM fun item => liftM (read? item) >>= work)
      ((items.filterMap read?).flatMap octets) := by
  induction items with
  | nil => exact writes_pure
  | cons first rest inductionHypothesis =>
      obtain ⟨firstThere, restThere⟩ := List.forall_mem_cons.1 each
      obtain ⟨entry, isEntry⟩ := Option.isSome_iff_exists.1 firstThere
      rw [List.filterMap_cons_some isEntry, List.flatMap_cons]
      exact (Writes.read isEntry (writes entry)).bind (inductionHypothesis restThere)

end Device

namespace Outline

variable {outline : Outline} {Fault State : Type}

/-- The packages and classes of which blocks are written are those that a signature goes through. -/
theorem WellFormed.packageGroups?_eq
    (formed : outline.WellFormed) :
    outline.packageGroups? = some (outline.packageNests.map fun group =>
      (group.package, group.nests.map Nest.id)) := by
  simp only [packageGroups?, formed.packagedTopLevel?_eq, Option.bind_eq_bind, Option.bind_some,
    map_snd_read, map_fst_filter_packaged]
  simp [packageNests, packageNames, Function.comp_def]

/-- The lines of nests are the lines of each, one nest after the other. -/
theorem linesOfAll_shownAll
    (outline : Outline)
    (options : SignatureOptions)
    (package : String)
    (indent : Nat)
    (nests : List Nest) :
    ClassTree.linesOfAll indent (Nest.shownAll outline options package nests) =
      nests.flatMap fun nest => ClassTree.lines indent (nest.shown outline options package) := by
  induction nests with
  | nil => rfl
  | cons nest rest inductionHypothesis =>
      rw [Nest.shownAll, ClassTree.linesOfAll, inductionHypothesis, List.flatMap_cons]

/-- To write a class is to write the lines of a nest that leaves out no class.  The writing recurs
as such a nest does, so that it ends. -/
theorem Finished.writes_writeClass
    (finished : outline.Finished)
    (device : Device Fault State)
    (options : SignatureOptions)
    (package : String)
    {nest : Nest}
    (complete : nest.Complete outline)
    (isClass : nest.id ∈ outline.classIds)
    (indent : Nat) :
    device.Writes (device.writeClass outline options package indent nest.id)
      ((ClassTree.lines indent (nest.shown outline options package)).flatMap Device.lineOctets) := by
  have formed := finished.wellFormed
  induction complete generalizing indent with
  | @mk id inner same inside inductionHypothesis =>
      obtain ⟨found, isFound⟩ := exists_class? isClass
      have fields : device.Writes (found.fields.forM fun field => do
          let field ← outline.field? field
          device.writeLine (indent + 1)
            (ClassTree.fieldLine (displayType options field.type, field.name))) _ :=
        .forM_read (fun field member => finished.isSome_field? isFound member)
          fun field => device.writes_writeLine _ _
      have nested : device.Writes
          (found.nested.forM (device.writeClass outline options package (indent + 1)))
          (inner.flatMap fun nest => (ClassTree.lines (indent + 1)
            (nest.shown outline options package)).flatMap Device.lineOctets) := by
        rw [← nested_of_class? isFound, ← same, List.forM_eq_forM, List.forM_map]
        refine Device.Writes.forM fun nest member => inductionHypothesis nest member ?_ (indent + 1)
        exact mem_classIds_of_enclosing? (formed.mem_nested.1 (same ▸ List.mem_map_of_mem member))
      rw [Device.writeClass]
      refine .read isFound (.read (formed.mapM_supertypes isFound) ?_)
      simp only [Nest.shown, ClassTree.lines, linesOfAll_shownAll, fieldsOf, isFound,
        Option.elim_some, List.cons_append, List.flatMap_cons, List.flatMap_append,
        List.flatMap_map, List.flatMap_assoc, List.flatMap_nil, List.append_assoc, List.append_nil]
      exact (device.writes_writeLine indent _).bind
        (fields.bind (nested.bind (device.writes_writeLine indent "\x7d")))

theorem Finished.writes_writePackage
    (finished : outline.Finished)
    (device : Device Fault State)
    (options : SignatureOptions)
    {group : PackageNests}
    (complete : ∀ nest ∈ group.nests, nest.Complete outline)
    (areClasses : ∀ nest ∈ group.nests, nest.id ∈ outline.classIds) :
    device.Writes (device.writePackage outline options (group.package, group.nests.map Nest.id))
      ((group.shown outline options).lines.flatMap Device.lineOctets) := by
  have classes : device.Writes ((group.nests.map Nest.id).forM
      (device.writeClass outline options group.package 1))
      (group.nests.flatMap fun nest => (ClassTree.lines 1
        (nest.shown outline options group.package)).flatMap Device.lineOctets) := by
    rw [List.forM_eq_forM, List.forM_map]
    exact Device.Writes.forM fun nest member => finished.writes_writeClass device options _
      (complete nest member) (areClasses nest member) 1
  rw [Device.writePackage]
  simp only [PackageNests.shown, PackageBlock.lines, linesOfAll_shownAll, List.cons_append,
    List.flatMap_cons, List.flatMap_append, List.flatMap_assoc, List.flatMap_nil, List.append_nil]
  exact (device.writes_writeLine 0 _).bind (classes.bind (device.writes_writeLine 0 "\x7d"))

/-- Going through the packages writes the text of the signature. -/
theorem Finished.writes_packages
    (finished : outline.Finished)
    (device : Device Fault State)
    (options : SignatureOptions) :
    device.Writes (device.writePackages outline options) (encode (outline.signature options)) := by
  have goesThrough := finished.wellFormed.goesThrough
  have text : encode (outline.signature options) = outline.packageNests.flatMap fun group =>
      (group.shown outline options).lines.flatMap Device.lineOctets := by
    rw [signature, Text.Utf8.encode_join, signaturePieces, signatureLines, packageBlocks_eq_shown]
    simp only [List.flatMap_assoc, List.flatMap_map]
    rfl
  refine .read finished.wellFormed.packageGroups?_eq ?_
  rw [text, List.forM_eq_forM, List.forM_map]
  refine Device.Writes.forM fun group member =>
    finished.writes_writePackage device options (goesThrough.complete group member) ?_
  intro nest isNest
  have isTop : nest.id ∈ outline.topLevelOf group.package :=
    goesThrough.top group member ▸ List.mem_map_of_mem isNest
  exact (mem_topLevel.1 (mem_topLevelOf.1 isTop).1).1

end Outline

/-! ## What a device gets -/

/-- How a device is left, and what is reported, after work that writes octets and then flushes. -/
structure Device.Gets {Fault State : Type} (device : Device Fault State)
    (work : Work Fault State Unit) (octets : List UInt8) (start : State)
    (fault : Option (SinkFault Fault)) (last : State) : Prop where
  /-- The device took the octets up to its limit. -/
  taken : (device.view last).taken =
    (device.view start).taken ++ octets.take ((device.view start).room octets.length)
  /-- Nothing is reported exactly if the device took all octets and can be flushed. -/
  succeeds_iff : fault = none ↔
    (device.view start).room octets.length = octets.length ∧ (device.view start).flushFault = none
  /-- A device that took all octets is flushed then, once, and this is the end of it. -/
  flushed : (device.view start).room octets.length = octets.length →
    ∃ full, work.run.run start = some (.ok (), full) ∧
      (device.view full).taken = (device.view start).taken ++ octets ∧
      (device.view full).flushes = (device.view start).flushes ∧
      device.flush full = ((device.view start).flushFault, last) ∧
      fault = (device.view start).flushFault.map .own ∧
      (device.view last).flushes = (device.view start).flushes + 1
  /-- A device that did not is never flushed, and its own fault is reported, or that it took
  nothing. -/
  failed : (device.view start).room octets.length ≠ octets.length →
    work.run.run start = some (result fault, last) ∧
      fault = some (device.view start).refusal ∧
      (device.view last).flushes = (device.view start).flushes

/-- Flushing a device after writing to it. -/
theorem Device.Writes.flush
    {Fault State : Type}
    {device : Device Fault State}
    {work : Work Fault State Unit}
    {octets : List UInt8}
    (writes : device.Writes work octets)
    {start : State}
    (takesSome : (device.view start).chunk ≠ some 0) :
    ∃ fault last, (work >>= fun _ => device.flushOnce).run.run start = some (result fault, last) ∧
      (device.view start).acceptAndFlush octets = (fault, device.view last) ∧
      device.Gets work octets start fault last := by
  obtain ⟨fault, full, ran, accepted⟩ := writes start takesSome
  rw [ExceptT.run_bind, StateT.run_bind, ran, Sink.acceptAndFlush, accepted]
  by_cases all : (device.view start).room octets.length = octets.length
  · rw [Sink.accept_of_all all] at accepted
    obtain ⟨rfl, isFull⟩ := Prod.mk.inj accepted
    have flushes := device.flushes full
    rw [← isFull] at flushes
    obtain ⟨isFault, isLast⟩ := Prod.mk.inj flushes
    have flushed : device.flush full = ((device.view start).flushFault, (device.flush full).2) :=
      Prod.ext isFault rfl
    refine ⟨(device.view start).flushFault.map .own, (device.flush full).2, ?_, ?_, ?_, ?_, ?_,
      fun cut => absurd all cut⟩
    · exact congrArg (fun fault => some (result (fault.map .own), (device.flush full).2)) isFault
    · rw [isLast, ← isFull]
      rfl
    · rw [isLast, all, List.take_length]
    · simp [all]
    · intro _
      exact ⟨full, ran, by rw [← isFull], by rw [← isFull], flushed, rfl, by rw [isLast]⟩
  · rw [Sink.accept_of_cut all] at accepted
    obtain ⟨rfl, isFull⟩ := Prod.mk.inj accepted
    refine ⟨_, _, rfl, rfl, by rw [← isFull], ?_, fun full => absurd full all, ?_⟩
    · simp [all]
    · exact fun _ => ⟨ran, rfl, by rw [← isFull]⟩

namespace Outline

variable {outline : Outline} {Fault State : Type}

theorem Finished.run_stream
    (finished : outline.Finished)
    (options : SignatureOptions)
    (device : Device Fault State)
    {start : State}
    (takesSome : (device.view start).chunk ≠ some 0) :
    ∃ fault last,
      (device.stream outline options).run.run start = some (Device.result fault, last) ∧
      (device.view start).acceptAndFlush (encode (outline.signature options)) =
        (fault, device.view last) ∧
      device.Gets (device.writePackages outline options) (encode (outline.signature options)) start
        fault last :=
  (finished.writes_packages device options).flush takesSome

/-- Writing the signature of an outline to a device ends, and agrees with the signature as a string.
The device takes the octets of the string up to its limit, in whatever portions.  Writing succeeds
exactly if the device takes all of them and can be flushed; the device is flushed once when it has
taken them, and never if it fails before, and its own fault is reported, or that it took nothing.
The sink that the device is at first gets the same when the signature is written piece by piece. -/
theorem Finished.stream_agrees
    (finished : outline.Finished)
    (options : SignatureOptions)
    (device : Device Fault State)
    {start : State}
    (takesSome : (device.view start).chunk ≠ some 0) :
    outline.streamed? options = some (outline.signature options) ∧
      ∃ fault last,
        (device.stream outline options).run.run start = some (Device.result fault, last) ∧
        outline.writeSignature options (device.view start) = (fault, device.view last) ∧
        device.Gets (device.writePackages outline options) (encode (outline.signature options))
          start fault last := by
  constructor
  · have takesAll : (Sink.device.view Sink.buffer).chunk ≠ some 0 := nofun
    obtain ⟨fault, last, ran, _, gets⟩ := finished.run_stream options Sink.device takesAll
    have done : fault = none := gets.succeeds_iff.2 ⟨rfl, rfl⟩
    subst done
    have taken : last.taken = encode (outline.signature options) :=
      gets.taken.trans (List.take_length)
    rw [streamed?, ran, ← Text.Utf8.decode?_eq_some_iff.2 taken]
    rfl
  · rw [writeSignature_eq takesSome]
    exact finished.run_stream options device takesSome

/-- A pipe that takes three octets at a time and breaks after twenty. -/
def brokenPipe : Sink String :=
  ⟨some 3, some 20, some "broken pipe", none, [], 0⟩

/-- A signature that is cut off within a line. -/
theorem diamondOutline_stream :
    ∃ last, (Sink.device.stream diamondOutline {}).run.run brokenPipe =
        some (.error (.own "broken pipe"), last) ∧
      last.taken = (encode (diamondOutline.signature {})).take 20 ∧ last.flushes = 0 := by
  have takesSome : (Sink.device.view brokenPipe).chunk ≠ some 0 := by decide
  obtain ⟨_, fault, last, ran, _, gets⟩ :=
    diamondOutline_finished.stream_agrees {} Sink.device takesSome
  have packages : diamondOutline.packageNames = ["p"] := by
    cbv
  have longer : 20 < (encode (diamondOutline.signature {})).length := by
    rw [signature, Text.Utf8.encode_join, signaturePieces, signatureLines, packageBlocks, packages]
    decide +kernel
  generalize encode (diamondOutline.signature {}) = octets at longer gets ⊢
  have cut : brokenPipe.room octets.length = 20 := Nat.min_eq_left longer.le
  have incomplete : brokenPipe.room octets.length ≠ octets.length := cut ▸ longer.ne
  obtain ⟨_, isBroken, unflushed⟩ := gets.failed incomplete
  have broken : fault = some (.own "broken pipe") := isBroken
  rw [broken] at ran
  have taken : last.taken = [] ++ octets.take (brokenPipe.room octets.length) := gets.taken
  rw [cut, List.nil_append] at taken
  exact ⟨last, ran, taken, unflushed⟩

end Outline
end SchemaBinding
