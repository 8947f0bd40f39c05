import SchemaBinding.Schema.Binding

/-!
# Command lines

What the arguments of the command ask for.  Options are given by long names, with their values
attached by an equals sign or as the next argument, or by short names, several of which may stand
in one argument.  Arguments are read from left to right, and the first fault counts.
-/

namespace SchemaBinding
namespace Command

/-- What a command line asks for. -/
structure Request where
  /-- The file or address of the schema. -/
  input : String
  /-- Whether a document type may stand in the document. -/
  typeAllowed : Bool
  /-- The package of the classes. -/
  package : Option String
  /-- The packages that are left out of types; without any, the usual ones. -/
  hiddenPackages : List String
  /-- What happens to declarations of built-in types. -/
  overwrite : Schema.OverwritePolicy
  /-- The file that the signature is written to. -/
  output : Option String
  /-- The file that the signature is compared with. -/
  check : Option String
  /-- How much to report. -/
  verbosity : Nat
deriving DecidableEq, Repr

/-- Why a command line is not carried out. -/
inductive UsageError where
  /-- It asks for help. -/
  | help
  /-- It asks for the version. -/
  | version
  /-- It has an argument that means nothing. -/
  | unknownArgument
  /-- It names no schema. -/
  | missingInput
  /-- The value of an option is missing or not allowed. -/
  | invalidValue
  /-- An option that takes no value has one. -/
  | tooManyValues
  /-- Two options exclude each other, or one is given twice. -/
  | argumentConflict
deriving DecidableEq, Repr

/-- Options that take a value. -/
inductive ValueOption where
  /-- The package of the classes. -/
  | package
  /-- A package that is left out of types. -/
  | hiddenPackage
  /-- What happens to declarations of built-in types. -/
  | overwrite
  /-- The file that the signature is written to. -/
  | output
  /-- The file that the signature is compared with. -/
  | check
deriving DecidableEq, Repr

/-- Options that take no value. -/
inductive FlagOption where
  /-- Allows a document type. -/
  | allowType
  /-- Asks for more reports. -/
  | verbose
  /-- Asks for help. -/
  | help
  /-- Asks for the version. -/
  | version
deriving DecidableEq, Repr

/-- The option of a long name. -/
def longOption? : String → Option (ValueOption ⊕ FlagOption)
  | "package" => some (.inl .package)
  | "builtin-namespace" => some (.inl .hiddenPackage)
  | "builtin-overwrite" => some (.inl .overwrite)
  | "output" => some (.inl .output)
  | "check" => some (.inl .check)
  | "allow-dtd" => some (.inr .allowType)
  | "verbose" => some (.inr .verbose)
  | "help" => some (.inr .help)
  | "version" => some (.inr .version)
  | _ => none

/-- The option of a short name. -/
def shortOption? : Char → Option (ValueOption ⊕ FlagOption)
  | 'o' => some (.inl .output)
  | 'v' => some (.inr .verbose)
  | 'h' => some (.inr .help)
  | 'V' => some (.inr .version)
  | _ => none

/-- The policy of a name. -/
def policy? : String → Option Schema.OverwritePolicy
  | "deny" => some .deny
  | "warn" => some .warn
  | "allow" => some .allow
  | _ => none

/-- How far a command line has been read. -/
structure Reading where
  /-- The schema, if it has been named. -/
  input : Option String := none
  /-- Whether a document type may stand in the document. -/
  typeAllowed : Bool := false
  /-- The package of the classes. -/
  package : Option String := none
  /-- The packages that are left out of types. -/
  hiddenPackages : List String := []
  /-- What happens to declarations of built-in types. -/
  overwrite : Option Schema.OverwritePolicy := none
  /-- The file that the signature is written to. -/
  output : Option String := none
  /-- The file that the signature is compared with. -/
  check : Option String := none
  /-- How much to report. -/
  verbosity : Nat := 0
  /-- The last option, if it has not been settled, with its value, if that has been read. -/
  pending : Option (ValueOption × Option String) := none

namespace Reading

/-- A value for an option that has none yet. -/
def once {α : Type} (known : Option α) (value : Except UsageError α) :
    Except UsageError (Option α) :=
  if known.isSome then .error .argumentConflict else some <$> value

/-- The name of a file, which cannot be empty. -/
def fileName (value : String) : Except UsageError String :=
  if value.isEmpty then .error .invalidValue else .ok value

/-- Gives an option a value. -/
def assign (reading : Reading) (option : ValueOption) (value : String) :
    Except UsageError Reading :=
  match option with
  | .package => do
      let package ← once reading.package (.ok value)
      return { reading with package }
  | .hiddenPackage => return { reading with hiddenPackages := reading.hiddenPackages ++ [value] }
  | .overwrite => do
      let overwrite ← once reading.overwrite ((policy? value).elim (.error .invalidValue) .ok)
      return { reading with overwrite }
  | .output => do
      let output ← once reading.output (fileName value)
      return { reading with output }
  | .check => do
      let check ← once reading.check (fileName value)
      return { reading with check }

/-- Settles the last option, which must have a value by now. -/
def settle (reading : Reading) : Except UsageError Reading :=
  match reading.pending with
  | none => .ok reading
  | some (_, none) => .error .invalidValue
  | some (option, some value) => { reading with pending := none }.assign option value

/-- An option with a value attached to it, or one whose value is still to come. -/
def takeOption (reading : Reading) (option : ValueOption) (attached : Option String) :
    Except UsageError Reading := do
  let reading ← reading.settle
  match attached with
  | some value => reading.assign option value
  | none => return { reading with pending := some (option, none) }

/-- An option without a value. -/
def takeFlag (reading : Reading) (option : FlagOption) : Except UsageError Reading := do
  let reading ← reading.settle
  match option with
  | .help => throw .help
  | .version => throw .version
  | .verbose => return { reading with verbosity := min (reading.verbosity + 1) 255 }
  | .allowType =>
      if reading.typeAllowed then throw .argumentConflict
      return { reading with typeAllowed := true }

/-- An argument that begins with two dashes, after them. -/
def takeLong (reading : Reading) (text : List Char) : Except UsageError Reading :=
  let name := text.takeWhile (· != '=')
  let attached := (text.dropWhile (· != '=')).tail?.map String.ofList
  match longOption? (.ofList name) with
  | none => .error .unknownArgument
  | some (.inl option) => reading.takeOption option attached
  | some (.inr option) =>
      if attached.isSome then .error .tooManyValues else reading.takeFlag option

/-- The value attached to a short name. -/
def attachedValue? : List Char → Option String
  | [] => none
  | '=' :: value => some (.ofList value)
  | value => some (.ofList value)

/-- An argument that begins with one dash, after it. -/
def takeShort (reading : Reading) : List Char → Except UsageError Reading
  | [] => .ok reading
  | c :: rest =>
      match shortOption? c with
      | none => .error .unknownArgument
      | some (.inl option) => reading.takeOption option (attachedValue? rest)
      | some (.inr option) => do (← reading.takeFlag option).takeShort rest

/-- An argument that is no option. -/
def takeInput (reading : Reading) (text : String) : Except UsageError Reading :=
  if reading.input.isSome then .error .unknownArgument
  else do return { ← reading.settle with input := some text }

/-- An argument that is the value of the option before it, or no option. -/
def takeValue (reading : Reading) (text : String) : Except UsageError Reading :=
  match reading.pending with
  | some (option, none) => .ok { reading with pending := some (option, some text) }
  | _ => reading.takeInput text

/-- Reads arguments none of which is an option. -/
def takeInputs (reading : Reading) : List String → Except UsageError Reading
  | [] => .ok reading
  | argument :: rest => do (← reading.takeInput argument).takeInputs rest

/-- Reads arguments. -/
def takeAll (reading : Reading) : List String → Except UsageError Reading
  | [] => .ok reading
  | argument :: rest =>
      match argument.toList with
      | ['-', '-'] => reading.takeInputs rest
      | '-' :: '-' :: text => do (← reading.takeLong text).takeAll rest
      | '-' :: c :: text => do (← reading.takeShort (c :: text)).takeAll rest
      | _ => do (← reading.takeValue argument).takeAll rest

/-- The request of a command line that has been read to its end. -/
def finish (reading : Reading) : Except UsageError Request := do
  let reading ← reading.settle
  if reading.output.isSome && reading.check.isSome then throw .argumentConflict
  match reading.input with
  | none => throw .missingInput
  | some input =>
      return {
        input
        typeAllowed := reading.typeAllowed
        package := reading.package
        hiddenPackages := reading.hiddenPackages
        overwrite := reading.overwrite.getD .deny
        output := reading.output
        check := reading.check
        verbosity := reading.verbosity }

end Reading

/-- What a command line asks for. -/
def Request.ofArguments (arguments : List String) : Except UsageError Request := do
  (← ({} : Reading).takeAll arguments).finish

end Command
end SchemaBinding
