import SchemaBinding.Outline.Signature
import SchemaBinding.Text.Decoding

/-!
# Writing a signature to a sink

A sink takes octets a few at a time and may fail at any point.  Writing offers the signature piece
by piece, offers again what the sink did not take, stops at the first failure, and flushes the sink
once it has taken everything.  Faults of a sink are handed on as they are.  An interruption is not one
of them: what a sink was interrupted in taking is offered to it again.
-/

namespace SchemaBinding

/-- How writing to a sink can fail. -/
inductive SinkFault (Fault : Type) where
  /-- The sink failed, with a fault of its own. -/
  | own (fault : Fault)
  /-- The sink took nothing and did not say why. -/
  | writeZero
deriving DecidableEq, Repr

/-- A sink that takes a bounded number of octets. -/
structure Sink (Fault : Type) where
  /-- The most octets that it takes at a time, if there is a bound. -/
  chunk : Option Nat
  /-- The most octets that it takes in all, if there is a bound. -/
  limit : Option Nat
  /-- How it fails when it can take nothing; without this, it takes nothing without failing. -/
  fullFault : Option Fault
  /-- How flushing fails, if it does. -/
  flushFault : Option Fault
  /-- The octets that it took. -/
  taken : List UInt8 := []
  /-- How often it was flushed. -/
  flushes : Nat := 0
deriving DecidableEq, Repr

/-- The wording of the error when a signature could not be written. -/
def SinkFault.message : String :=
  "failed to write the signature"

namespace Sink

variable {Fault : Type}

/-- The least of a number and a bound, if there is one. -/
def bounded (bound : Option Nat) (count : Nat) : Nat :=
  match bound with
  | none => count
  | some bound => min bound count

/-- How many octets of an offer the sink takes. -/
def capacity (sink : Sink Fault) (offered : Nat) : Nat :=
  bounded sink.chunk (bounded (sink.limit.map (· - sink.taken.length)) offered)

/-- How the sink fails when it can take nothing. -/
def refusal (sink : Sink Fault) : SinkFault Fault :=
  sink.fullFault.elim .writeZero .own

/-- Offers octets until the sink has taken all of them or fails. -/
def write (sink : Sink Fault) (octets : List UInt8) : Option (SinkFault Fault) × Sink Fault :=
  if octets = [] then (none, sink)
  else
    let count := sink.capacity octets.length
    if count = 0 then (some sink.refusal, sink)
    else write { sink with taken := sink.taken ++ octets.take count } (octets.drop count)
termination_by octets.length
decreasing_by
  rename_i nonempty taken
  have positive : 0 < octets.length := List.length_pos_iff.2 nonempty
  simp only [List.length_drop]
  omega

/-- Writes strings one after the other until one fails. -/
def writeAll (sink : Sink Fault) : List String → Option (SinkFault Fault) × Sink Fault
  | [] => (none, sink)
  | piece :: rest =>
      match sink.write (Text.Utf8.encode piece) with
      | (none, sink) => sink.writeAll rest
      | (some fault, sink) => (some fault, sink)

/-- Flushes the sink, which tells how this failed, if it did. -/
def flush (sink : Sink Fault) : Option Fault × Sink Fault :=
  (sink.flushFault, { sink with flushes := sink.flushes + 1 })

end Sink

namespace Outline

/-- Writes the signature to a sink and flushes it. -/
def writeSignature {Fault : Type} (outline : Outline) (options : SignatureOptions)
    (sink : Sink Fault) : Option (SinkFault Fault) × Sink Fault :=
  match sink.writeAll (outline.signaturePieces options) with
  | (none, sink) => sink.flush.map (Option.map .own) id
  | (some fault, sink) => (some fault, sink)

end Outline
end SchemaBinding
