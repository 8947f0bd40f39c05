import SchemaBinding.Command.Difference
import SchemaBinding.Command.Usage
import SchemaBinding.Outline.Signature.Sink

/-!
# Carrying out a request

Reads a schema, binds it, and writes the signature of the outline or compares it with an earlier
one.  What lies outside the program is reached through a host.
-/

namespace SchemaBinding
namespace Command

/-- How an attempt to write a file ends. -/
inductive WriteResult where
  /-- The file holds what was to be written. -/
  | written
  /-- There can be no such file. -/
  | notCreated
  /-- The file takes no content. -/
  | notWritten
deriving DecidableEq, Repr

/-- What a run needs from outside the program. -/
structure Host (m : Type → Type) where
  /-- The content of a file. -/
  read : String → m (Option (List UInt8))
  /-- The content at an address. -/
  fetch : String → m (Option (List UInt8))
  /-- Makes a file hold some content and nothing else. -/
  write : String → List UInt8 → m WriteResult
  /-- Prints text, and says whether that was possible. -/
  print : String → m Bool

/-- How a run ends. -/
inductive Outcome where
  /-- All is done, and the signature is as expected. -/
  | done
  /-- The signature is not the one that a file holds. -/
  | differs (file : String) (difference : Difference)
  /-- A step failed; the reasons lead from the step to what lies behind it. -/
  | failed (reasons : List String)
deriving DecidableEq, Repr

namespace Outcome

/-- The exit code of the command. -/
def exitCode : Outcome → Nat
  | done => 0
  | differs _ _ => 1
  | failed _ => 2

/-- What is reported about the signature. -/
def report : Outcome → String
  | done => ""
  | differs file difference =>
      "signature differs from " ++ file ++ "\n" ++ difference.text ++ "\n"
  | failed _ => ""

end Outcome

/-- Whether an input is an address rather than a file. -/
def isAddress (input : String) : Bool :=
  input.startsWith "http://" || input.startsWith "https://"

namespace Request

/-- How the schema is bound. -/
def bindingOptions (request : Request) : Schema.BindingOptions :=
  ⟨request.package, request.overwrite⟩

/-- How the signature is written. -/
def signatureOptions (request : Request) : SignatureOptions :=
  if request.hiddenPackages.isEmpty then {} else ⟨request.hiddenPackages⟩

/-- The outline of a schema, or the reasons why there is none, and the warnings that arose. -/
def outline (request : Request) (octets : List UInt8) :
    Except (List String) Outline × List Schema.Warning :=
  match Schema.parseXml request.typeAllowed (Text.decode octets) with
  | .error error => (.error ["failed to parse " ++ request.input, error.message], [])
  | .ok document =>
      let (result, warnings) := Schema.bindXml request.bindingOptions document
      (result.mapError fun error => ["failed to bind " ++ request.input, error.message], warnings)

/-- The signature of a schema, or the reasons why there is none, and the warnings that arose. -/
def signature (request : Request) (octets : List UInt8) :
    Except (List String) String × List Schema.Warning :=
  let (result, warnings) := request.outline octets
  (result.map fun outline => outline.signature request.signatureOptions, warnings)

end Request

/-- Compares a signature with the one that a file holds. -/
def compareWith {m : Type → Type} [Monad m] (host : Host m) (file signature : String) :
    m Outcome := do
  match (← host.read file).bind Text.Utf8.decode? with
  | none => return .failed ["failed to read " ++ file]
  | some expected =>
      match Difference.first? expected signature with
      | none => return .done
      | some difference => return .differs file difference

/-- Writes a signature to a file. -/
def writeTo {m : Type → Type} [Monad m] (host : Host m) (file signature : String) :
    m Outcome := do
  match ← host.write file (Text.Utf8.encode signature) with
  | .written => return .done
  | .notCreated => return .failed ["failed to create " ++ file]
  | .notWritten => return .failed ["failed to write " ++ file, SinkFault.message]

/-- Compares, writes or prints a signature, as the request asks. -/
def deliver {m : Type → Type} [Monad m] (host : Host m) (request : Request) (signature : String) :
    m Outcome :=
  match request.check, request.output with
  | some file, _ => compareWith host file signature
  | none, some file => writeTo host file signature
  | none, none => do
      if ← host.print signature then return .done
      else return .failed ["failed to write to stdout", SinkFault.message]

/-- The content of the input, or the reason why there is none. -/
def load {m : Type → Type} [Monad m] (host : Host m) (input : String) :
    m (Except String (List UInt8)) := do
  if isAddress input then
    return (← host.fetch input).elim (.error ("failed to fetch " ++ input)) .ok
  else return (← host.read input).elim (.error ("failed to read " ++ input)) .ok

/-- Carries out a request; the answer is how that ends, and the warnings that arose. -/
def run {m : Type → Type} [Monad m] (host : Host m) (request : Request) :
    m (Outcome × List Schema.Warning) := do
  match ← load host request.input with
  | .error reason => return (.failed [reason], [])
  | .ok octets =>
      match request.signature octets with
      | (.error reasons, warnings) => return (.failed reasons, warnings)
      | (.ok signature, warnings) => return (← deliver host request signature, warnings)

end Command
end SchemaBinding
