import Mathlib.Data.List.Permutation
import SchemaBinding.Command.Folder
import SchemaBinding.Proofs.BaseChains
import SchemaBinding.Proofs.Differences
import SchemaBinding.Proofs.Sinks

/-!
# Checking signatures

Checking a file answers whether the file holds what a run under the same options would write.  A run
does the same up to the signature, whatever becomes of the signature then; the signature is written
as its octets, also where it is written piece by piece; and no other text passes the check.
-/

namespace SchemaBinding

open Text.Utf8 (encode decode?)

/-! ## Writing piece by piece -/

namespace Sink

variable {Fault : Type} {sink : Sink Fault}

/-- Whether a sink takes whatever it is offered, if not always all of it at a time. -/
structure Unlimited (sink : Sink Fault) : Prop where
  /-- There is no bound on what it takes in all. -/
  limit : sink.limit = none
  /-- It takes something at a time. -/
  chunk : sink.chunk ≠ some 0

/-- Such a sink accepts all octets. -/
theorem Unlimited.accept
    (unlimited : sink.Unlimited)
    (octets : List UInt8) :
    sink.accept octets = (none, { sink with taken := sink.taken ++ octets }) := by
  apply accept_of_all
  rw [room, unlimited.limit]
  rfl

/-- A signature that is written piece by piece is written as the octets of its text. -/
theorem Unlimited.writeSignature
    (unlimited : sink.Unlimited)
    (outline : Outline)
    (options : SignatureOptions) :
    outline.writeSignature options sink = (sink.flushFault.map .own, { sink with
      taken := sink.taken ++ encode (outline.signature options)
      flushes := sink.flushes + 1 }) := by
  rw [Outline.writeSignature_eq unlimited.chunk, acceptAndFlush, unlimited.accept]
  rfl

end Sink

namespace Command

/-! ## Hosts as transformers of a world -/

section Hosts

variable {World : Type} {host : Host (StateM World)}

/-- The content of a file in a world. -/
def Host.file? (host : Host (StateM World)) (world : World) (path : String) : Option (List UInt8) :=
  ((host.read path).run world).1

/-- The content of an input, which is a file or at an address. -/
def Host.source? (host : Host (StateM World)) (world : World) (input : String) :
    Option (List UInt8) :=
  if isAddress input then ((host.fetch input).run world).1 else host.file? world input

/-- Whether reading leaves the world as it is. -/
structure Host.ReadsOnly (host : Host (StateM World)) : Prop where
  read : ∀ path world, ((host.read path).run world).2 = world
  fetch : ∀ address world, ((host.fetch address).run world).2 = world

/-- What reading and binding the input of a request give: an outline, or the reasons why there is
none, and the warnings that arose. -/
def Host.bound (host : Host (StateM World)) (world : World) (request : Request) :
    Except (List String) Outline × List Schema.Warning :=
  match host.source? world request.input with
  | some octets => request.outline octets
  | none =>
      let action := if isAddress request.input then "fetch " else "read "
      (.error ["failed to " ++ action ++ request.input], [])

theorem Host.ReadsOnly.run_read
    (reads : host.ReadsOnly)
    (path : String)
    (world : World) :
    (host.read path).run world = pure (host.file? world path, world) :=
  Prod.ext rfl (reads.read path world)

theorem Host.ReadsOnly.run_load
    (reads : host.ReadsOnly)
    (input : String)
    (world : World) :
    (load host input).run world = pure ((host.source? world input).elim
      (.error ("failed to " ++ (if isAddress input then "fetch " else "read ") ++ input)) .ok,
        world) := by
  unfold load Host.source?
  split_ifs with isAddress
  · have fetched : (host.fetch input).run world = pure (((host.fetch input).run world).1, world) :=
      Prod.ext rfl (reads.fetch input world)
    rw [StateT.run_bind, fetched]
    rfl
  · rw [StateT.run_bind, reads.run_read]
    rfl

section Bound

variable {request : Request} {world : World} {warnings : List Schema.Warning}

/-- A run fails if there is nothing to read, or if it cannot be bound. -/
theorem Host.ReadsOnly.run_of_refused
    (reads : host.ReadsOnly)
    {reasons : List String}
    (refused : host.bound world request = (.error reasons, warnings)) :
    (run host request).run world = ((.failed reasons, warnings), world) := by
  rw [run, StateT.run_bind, reads.run_load, pure_bind]
  unfold Host.bound at refused
  cases source : host.source? world request.input with
  | none =>
      rw [source] at refused
      obtain ⟨same, rfl⟩ := Prod.mk.inj refused
      obtain rfl := Except.error.inj same
      rfl
  | some octets =>
      rw [source] at refused
      dsimp only at refused
      have noSignature : request.signature octets = (.error reasons, warnings) := by
        rw [Request.signature, refused]
        rfl
      dsimp only [Option.elim_some]
      rw [noSignature]
      rfl

/-- A run delivers the signature of what is read and bound. -/
theorem Host.ReadsOnly.run_of_bound
    (reads : host.ReadsOnly)
    {outline : Outline}
    (bound : host.bound world request = (.ok outline, warnings)) :
    (run host request).run world =
      (do
        let (outcome, after) ←
          (deliver host request (outline.signature request.signatureOptions)).run world
        return ((outcome, warnings), after) : Id _) := by
  rw [run, StateT.run_bind, reads.run_load, pure_bind]
  unfold Host.bound at bound
  cases source : host.source? world request.input with
  | none =>
      rw [source] at bound
      cases bound
  | some octets =>
      rw [source] at bound
      dsimp only at bound
      have isSignature : request.signature octets =
          (.ok (outline.signature request.signatureOptions), warnings) := by
        rw [Request.signature, bound]
        rfl
      dsimp only [Option.elim_some]
      rw [isSignature]
      rfl

end Bound

/-! ## Delivering the signature -/

/-- How a check of a file against a text ends. -/
structure Checks (host : Host (StateM World)) (world : World) (file text : String)
    (outcome : Outcome) : Prop where
  /-- The check passes exactly if the file holds the text. -/
  done_iff : outcome = .done ↔ host.file? world file = some (encode text)
  /-- For any other text, the first difference is reported. -/
  differs : ∀ {other}, host.file? world file = some (encode other) → other ≠ text →
    ∃ difference, Difference.first? other text = some difference ∧
      outcome = .differs file difference
  /-- What is no text, or no file, is refused. -/
  refused : (∀ other, host.file? world file ≠ some (encode other)) →
    outcome = .failed ["failed to read " ++ file]

theorem Host.ReadsOnly.run_compareWith
    (reads : host.ReadsOnly)
    (file text : String)
    (world : World) :
    ∃ outcome, (compareWith host file text).run world = pure (outcome, world) ∧
      Checks host world file text outcome := by
  rw [compareWith, StateT.run_bind, reads.run_read, pure_bind]
  dsimp only
  -- The content is compared as text, so that a file without any is refused before that.
  cases isText : (host.file? world file).bind decode? with
  | none =>
      have noText : ∀ other, host.file? world file ≠ some (encode other) := by
        intro other content
        rw [content, Option.bind_some, Text.Utf8.decode?_eq_some_iff.2 rfl] at isText
        cases isText
      refine ⟨_, rfl, ?_, fun content => absurd content (noText _), fun _ => rfl⟩
      simp [noText text]
  | some golden =>
      obtain ⟨octets, content, isText⟩ := Option.bind_eq_some_iff.1 isText
      obtain rfl := Text.Utf8.decode?_eq_some_iff.1 isText
      have holds_iff : ∀ other, host.file? world file = some (encode other) ↔ golden = other := by
        intro other
        rw [content, Option.some.injEq, Text.Utf8.encode_inj]
      dsimp only
      cases found : Difference.first? golden text with
      | none =>
          obtain rfl := Difference.first?_eq_none_iff.1 found
          refine ⟨_, rfl, ?_, ?_, fun noText => absurd content (noText golden)⟩
          · simp [holds_iff]
          · intro other same different
            exact absurd ((holds_iff other).1 same).symm different
      | some difference =>
          have different : golden ≠ text := by
            intro same
            rw [Difference.first?_eq_none_iff.2 same] at found
            cases found
          refine ⟨_, rfl, ?_, ?_, fun noText => absurd content (noText golden)⟩
          · simp [holds_iff, different]
          · intro other same _
            obtain rfl := (holds_iff other).1 same
            exact ⟨difference, found, rfl⟩

/-- How runs end that write a text to a file or print it. -/
structure Delivers (host : Host (StateM World)) (world : World) (request : Request)
    (warnings : List Schema.Warning) (text : String) : Prop where
  /-- A file gets the octets of the text, and the run is done if the file takes them. -/
  writes : ∀ file, ∃ outcome,
    (run host { request with check := none, output := some file }).run world =
        ((outcome, warnings), ((host.write file (encode text)).run world).2) ∧
      (outcome = .done ↔ ((host.write file (encode text)).run world).1 = .written)
  /-- Without a file the text is printed, and the run is done if that is possible. -/
  prints : ∃ outcome,
    (run host { request with check := none, output := none }).run world =
        ((outcome, warnings), ((host.print text).run world).2) ∧
      (outcome = .done ↔ ((host.print text).run world).1 = true)

section Bound

variable {request : Request} {world : World} {outline : Outline} {warnings : List Schema.Warning}

theorem Host.ReadsOnly.delivers
    (reads : host.ReadsOnly)
    (bound : host.bound world request = (.ok outline, warnings)) :
    Delivers host world request warnings (outline.signature request.signatureOptions) where
  writes file := by
    have boundToo : host.bound world { request with check := none, output := some file } =
        (.ok outline, warnings) := bound
    rw [reads.run_of_bound boundToo]
    show ∃ outcome, (do
      let (outcome, after) ←
        (writeTo host file (outline.signature request.signatureOptions)).run world
      return ((outcome, warnings), after) : Id _) = _ ∧ _
    rw [writeTo, StateT.run_bind]
    rcases (host.write file (encode (outline.signature request.signatureOptions))).run world
      with ⟨_ | _ | _, after⟩
    · exact ⟨_, rfl, by simp⟩
    · exact ⟨_, rfl, by simp⟩
    · exact ⟨_, rfl, by simp⟩
  prints := by
    have boundToo : host.bound world { request with check := none, output := none } =
        (.ok outline, warnings) := bound
    rw [reads.run_of_bound boundToo, deliver, StateT.run_bind]
    show ∃ outcome, (do
      let (outcome, after) ← (do
        let (printed, after) ← (host.print (outline.signature request.signatureOptions)).run world
        (if printed then return .done
          else return .failed ["failed to write to stdout", SinkFault.message] :
          StateM World Outcome).run after : Id _)
      return ((outcome, warnings), after) : Id _) = _ ∧ _
    rcases (host.print (outline.signature request.signatureOptions)).run world
      with ⟨_ | _, after⟩
    · exact ⟨_, rfl, by simp⟩
    · exact ⟨_, rfl, by simp⟩

theorem Host.ReadsOnly.run_check
    (reads : host.ReadsOnly)
    (bound : host.bound world request = (.ok outline, warnings))
    (file : String) :
    ∃ outcome, (run host { request with check := some file, output := none }).run world =
        ((outcome, warnings), world) ∧
      Checks host world file (outline.signature request.signatureOptions) outcome := by
  obtain ⟨outcome, compared, checks⟩ :=
    reads.run_compareWith file (outline.signature request.signatureOptions) world
  have boundToo : host.bound world { request with check := some file, output := none } =
      (.ok outline, warnings) := bound
  refine ⟨outcome, ?_, checks⟩
  rw [reads.run_of_bound boundToo]
  show (do
    let (outcome, after) ←
      (compareWith host file (outline.signature request.signatureOptions)).run world
    return ((outcome, warnings), after) : Id _) = _
  rw [compared]
  rfl

end Bound

/-- Checking is the inverse of writing, under whatever options.  If the input cannot be read or bound,
all runs end alike and leave the world as it is.  Otherwise there is a text that a run writes to a
file or prints, in octets also if it goes to a sink piece by piece, and a check passes exactly if the
file holds these octets.  For a file with any other text it reports where the texts differ first.  So
a file that a run has written passes the check, if the file returns what was written to it and the
input is still what it was. -/
theorem check_inverts_output
    (reads : host.ReadsOnly)
    (request : Request)
    (world : World) :
    (∀ reasons warnings, host.bound world request = (.error reasons, warnings) → ∀ check output,
      (run host { request with check, output }).run world = ((.failed reasons, warnings), world)) ∧
    ∀ outline warnings, host.bound world request = (.ok outline, warnings) → ∃ text,
      text = outline.signature request.signatureOptions ∧
      Delivers host world request warnings text ∧
      (∀ (Fault : Type) (sink : Sink Fault), sink.Unlimited →
        outline.writeSignature request.signatureOptions sink = (sink.flushFault.map .own, { sink with
          taken := sink.taken ++ encode text
          flushes := sink.flushes + 1 })) ∧
      (∀ file, ∃ outcome,
        (run host { request with check := some file, output := none }).run world =
            ((outcome, warnings), world) ∧ Checks host world file text outcome) ∧
      ∀ file after,
        (run host { request with check := none, output := some file }).run world =
          ((.done, warnings), after) →
        host.file? after file = some (encode text) →
        host.source? after request.input = host.source? world request.input →
        (run host { request with check := some file, output := none }).run after =
          ((.done, warnings), after) := by
  constructor
  · intro reasons warnings refused check output
    have refusedToo : host.bound world { request with check, output } = (.error reasons, warnings) :=
      refused
    exact reads.run_of_refused refusedToo
  · intro outline warnings bound
    refine ⟨outline.signature request.signatureOptions, rfl, reads.delivers bound,
      fun _ sink unlimited => unlimited.writeSignature outline request.signatureOptions,
      reads.run_check bound, ?_⟩
    intro file after _ returned sameInput
    have boundAfter : host.bound after request = (.ok outline, warnings) := by
      rw [← bound, Host.bound, sameInput]
      rfl
    obtain ⟨outcome, ran, checks⟩ := reads.run_check boundAfter file
    rw [ran, checks.done_iff.2 returned]

end Hosts

/-! ## Folders -/

namespace Folder

theorem host_readsOnly : host.ReadsOnly where
  read _ _ := rfl
  fetch _ _ := rfl

theorem file?_host
    (folder : Folder)
    (path : String) :
    host.file? folder path = folder.read? path :=
  rfl

/-- A file that is neither of the devices returns what was written to it. -/
theorem read?_write
    {folder after : Folder}
    {path : String}
    {octets : List UInt8}
    (written : folder.write path octets = (.written, after))
    (notNull : path ≠ nullDevice)
    (notFull : path ≠ fullDevice) :
    after.read? path = some octets := by
  unfold write at written
  rw [if_neg notNull, if_neg notFull] at written
  cases located : locate? path with
  | none =>
      rw [located] at written
      cases written
  | some place =>
      rw [located] at written
      dsimp only at written
      split_ifs at written with blocked
      · cases written
      · obtain ⟨_, rfl⟩ := Prod.mk.inj written
        have noted : (folder.put place octets).files.lookup place = some octets := by
          unfold put
          split
          next present =>
            obtain ⟨previous, found⟩ := Option.isSome_iff_exists.1 present
            rw [lookup_map_replace, if_pos rfl, found, Option.map_some]
          next absent =>
            rw [List.lookup_append, Option.not_isSome_iff_eq_none.1 absent, Option.none_or,
              List.lookup_cons_self]
        simp [read?, notNull, located, noted]

end Folder

/-- A schema as text. -/
def sizeText : String :=
  "<s:schema xmlns:s='http://www.w3.org/2001/XMLSchema'><s:complexType name='size'/></s:schema>"

/-- The schema as a document. -/
def sizeDocument : Xml.Document where
  root := ⟨Schema.schemaName "schema", [⟨some "s", Schema.schemaNamespace⟩], []⟩
  children := [.element ⟨Schema.schemaName "complexType", [], [⟨⟨none, "name"⟩, "size"⟩]⟩ []]

/-- The outline of the schema. -/
def sizeOutline : Outline where
  packages := ["generated"]
  classes := [⟨"Size", ⟨0⟩, none, [], [], []⟩]
  fields := []
  types := [.reference "generated" "Size"]

/-- The signature of the schema with a carriage return in each line break. -/
def sizeWithReturns : String :=
  "package generated \x7b\r\n  interface Size \x7b\r\n  \x7d\r\n\x7d\r\n"

/-- A folder with the schema and its signature with other line breaks. -/
def sizeFolder : Folder where
  files := [(["size.xsd"], encode sizeText), (["old"], encode sizeWithReturns)]

/-- A request for the signature of the schema. -/
def sizeRequest : Request :=
  ⟨"size.xsd", false, none, [], .deny, none, none, 0⟩

/-- The schema is found in every folder whose first file it is. -/
theorem size_source
    {folder : Folder}
    {octets : List UInt8}
    {others : List (List String × List UInt8)}
    (first : folder.files = (["size.xsd"], octets) :: others) :
    Folder.host.source? folder sizeRequest.input = some octets := by
  have located : Folder.locate? "size.xsd" = some ["size.xsd"] := by
    decide +kernel
  have isFile : isAddress sizeRequest.input = false := by
    decide +kernel
  rw [Host.source?, isFile]
  simp [Folder.file?_host, Folder.read?, sizeRequest, located, first, Folder.nullDevice]

theorem size_bound : Folder.host.bound sizeFolder sizeRequest = (.ok sizeOutline, []) := by
  have text : Text.decode (encode sizeText) = sizeText :=
    Text.decode_encode_of_ascii rfl (by decide)
  have parsed : Schema.parseXml sizeRequest.typeAllowed sizeText = .ok sizeDocument := by
    cbv
  have bound : Schema.bindXml sizeRequest.bindingOptions sizeDocument = (.ok sizeOutline, []) := by
    decide +kernel
  rw [Host.bound, size_source rfl]
  dsimp only
  rw [Request.outline, text, parsed]
  dsimp only
  rw [bound]
  rfl

/-- A file that is not in the folder can be written. -/
theorem size_written
    (octets : List UInt8) :
    sizeFolder.write "new" octets =
      (.written, { sizeFolder with files := sizeFolder.files ++ [(["new"], octets)] }) := by
  have located : Folder.locate? "new" = some ["new"] := by
    decide +kernel
  have free : sizeFolder.isDirectory ["new"] = false := by
    decide +kernel
  have inside : sizeFolder.isDirectory [] = true := by
    decide +kernel
  have absent : (sizeFolder.files.lookup ["new"]).isSome = false := by
    decide +kernel
  simp [Folder.write, located, free, inside, Folder.put, absent, Folder.nullDevice, Folder.fullDevice]

theorem size_checked :
    Folder.host.bound sizeFolder sizeRequest = (.ok sizeOutline, []) ∧
      (∃ after, (run Folder.host { sizeRequest with output := some "new" }).run sizeFolder =
          ((.done, []), after) ∧
        (run Folder.host { sizeRequest with check := some "new" }).run after =
          ((.done, []), after)) ∧
      ∃ difference, (run Folder.host { sizeRequest with check := some "old" }).run sizeFolder =
        ((.differs "old" difference, []), sizeFolder) := by
  obtain ⟨_, inverts⟩ := check_inverts_output Folder.host_readsOnly sizeRequest sizeFolder
  obtain ⟨text, isText, delivers, _, checks, passes⟩ := inverts sizeOutline [] size_bound
  refine ⟨size_bound, ?_, ?_⟩
  · obtain ⟨outcome, ran, done_iff⟩ := delivers.writes "new"
    have written : (Folder.host.write "new" (encode text)).run sizeFolder = _ :=
      size_written (encode text)
    rw [written] at ran done_iff
    rw [done_iff.2 rfl] at ran
    have returned := Folder.read?_write (size_written (encode text)) (by decide) (by decide)
    exact ⟨_, ran, passes "new" _ ran returned ((size_source rfl).trans (size_source rfl).symm)⟩
  · obtain ⟨outcome, ran, checked⟩ := checks "old"
    have golden : Folder.host.file? sizeFolder "old" = some (encode sizeWithReturns) := by
      have located : Folder.locate? "old" = some ["old"] := by
        decide +kernel
      simp [Folder.file?_host, Folder.read?, located, sizeFolder, Folder.nullDevice]
      rfl
    have different : sizeWithReturns ≠ text := by
      rw [isText]
      decide +kernel
    obtain ⟨difference, _, differs⟩ := checked.differs golden different
    exact ⟨difference, differs ▸ ran⟩

end Command
end SchemaBinding
