import SchemaBinding.Command.Run

/-!
# The command

Reads the command line and carries out what it asks for, on the files of the machine.
-/

namespace SchemaBinding
namespace Command

/-- What the command prints about its use. -/
def usageText : String :=
  "Binds an XML schema to an outline of classes and writes its signature.\n\n" ++
    "Usage: schema-binding [OPTIONS] <INPUT>\n\n" ++
    "Options:\n" ++
    "      --allow-dtd                  Allow a document type definition\n" ++
    "      --package <PACKAGE>          Package of the classes\n" ++
    "      --builtin-namespace <NAME>   Package that is left out of type names (repeatable)\n" ++
    "      --builtin-overwrite <POLICY> deny, warn or allow [default: deny]\n" ++
    "  -o, --output <OUTPUT>            Write the signature to this file\n" ++
    "      --check <GOLDEN>             Compare the signature with this file\n" ++
    "  -v, --verbose                    Report more (repeatable)\n" ++
    "  -h, --help                       Print help\n" ++
    "  -V, --version                    Print version\n"

/-- The result of an action, if it does not fail. -/
def attempt {α : Type} (action : IO α) : IO (Option α) := do
  try
    return some (← action)
  catch _ => return none

/-- The files of the machine; addresses are not fetched. -/
def machine : Host IO where
  read path := attempt do return (← IO.FS.readBinFile path).data.toList
  fetch _ := return none
  write path octets := do
    match ← attempt (IO.FS.writeBinFile path ⟨#[]⟩) with
    | none => return .notCreated
    | some _ =>
        match ← attempt (IO.FS.writeBinFile path ⟨octets.toArray⟩) with
        | none => return .notWritten
        | some _ => return .written
  print text := do
    let stdout ← IO.getStdout
    return (← attempt do stdout.putStr text; stdout.flush).isSome

/-- What the command says when it does not carry out a command line. -/
def usageComplaint : UsageError → String
  | .help => usageText
  | .version => "schema-binding 0.1.0\n"
  | .unknownArgument => "error: unexpected argument found\n"
  | .missingInput => "error: the schema is missing\n"
  | .invalidValue => "error: the value of an option is missing or not allowed\n"
  | .tooManyValues => "error: an option without a value was given one\n"
  | .argumentConflict => "error: options exclude each other or are given twice\n"

/-- Carries out a command line; the answer is the exit code. -/
def runArguments (arguments : List String) : IO UInt32 := do
  match Request.ofArguments arguments with
  | .error .help => IO.print (usageComplaint .help); return 0
  | .error .version => IO.print (usageComplaint .version); return 0
  | .error error => IO.eprint (usageComplaint error); return 2
  | .ok request =>
      let (outcome, warnings) ← Command.run machine request
      for warning in warnings do
        let (label, value) := warning.subject
        IO.eprintln ("WARN " ++ warning.message ++ " " ++ label ++ "=" ++ value)
      IO.eprint outcome.report
      if let .failed reasons := outcome then
        IO.eprintln ("error: " ++ ": ".intercalate reasons)
      return outcome.exitCode.toUInt32

end Command
end SchemaBinding

/-- The command itself. -/
def main (arguments : List String) : IO UInt32 :=
  SchemaBinding.Command.runArguments arguments
