import SchemaBinding.Text.Blank
import SchemaBinding.Text.Words

/-!
# Generated names

The names of packages, classes and fields that a schema gives rise to.  A name that begins with a
digit, or that is reserved, is changed so that it can be used.
-/

namespace SchemaBinding
namespace Schema

/-- Names that cannot be used as they are. -/
def reservedNames : List String :=
  ["abstract", "boolean", "byte", "class", "default", "double", "enum", "extends", "final", "float",
    "implements", "import", "int", "interface", "long", "new", "package", "private", "public",
    "short", "static", "super", "this", "void"]

/-- Whether a name cannot be used as it is. -/
def isReserved (name : List Char) : Bool :=
  reservedNames.contains (.ofList name)

/-- A name that can be used, by an underscore before a digit or after a reserved name. -/
def usable (name : List Char) : List Char :=
  if name.head?.any Text.isDigit then '_' :: name
  else if isReserved name then name ++ ['_']
  else name

/-- The name of a class. -/
def className (localName : String) : String :=
  .ofList (usable (Text.upperCamel localName.toList))

/-- The name of a field. -/
def fieldName (localName : String) : String :=
  .ofList (usable (Text.lowerCamel localName.toList))

/-- Text without a given beginning, if it begins so. -/
def afterStart? : (start text : List Char) → Option (List Char)
  | [], text => some text
  | _ :: _, [] => none
  | expected :: start, c :: text => if expected = c then afterStart? start text else none

/-- Text before and after the first place where a given text stands. -/
def splitOnce (stop : List Char) : List Char → Option (List Char × List Char)
  | [] => none
  | c :: rest =>
      match afterStart? stop (c :: rest) with
      | some after => some ([], after)
      | none => (splitOnce stop rest).map fun (before, after) => (c :: before, after)

/-- Text without the endings `.xsd` that it has, where both are written backwards. -/
def withoutEndings : List Char → List Char
  | 'd' :: 's' :: 'x' :: '.' :: rest => withoutEndings rest
  | text => text

/-- A character as it may stand in a part of a package name. -/
def packageCharacter (c : Char) : Char :=
  if c.isAlphanum then c.toLower else '_'

/-- A part of a package name; it may turn out empty. -/
def packagePart (part : List Char) : List Char :=
  usable (Text.trimWhile (· = '_') (part.map packageCharacter))

/-- The parts of an address: those of the host from the last to the first, then those of the path. -/
def addressParts (address : List Char) : List (List Char) :=
  let (host, path) := (splitOnce ['/'] address).getD (address, [])
  let host := host.takeWhile (· != ':')
  let host := (afterStart? "www.".toList host).getD host
  let path := (withoutEndings path.reverse).reverse
  (host.splitOnP (· = '.')).reverse ++ path.splitOnP fun c => c = '/' || c = '.'

/-- The parts of the name of a namespace, the most general one first. -/
def namespaceParts (uri : List Char) : List (List Char) :=
  match afterStart? "urn:".toList uri with
  | some rest => rest.splitOnP (· = ':')
  | none => addressParts (((splitOnce "://".toList uri).map Prod.snd).getD uri)

/--
The package of a namespace: `http://www.example.com/ipo` becomes `com.example.ipo` and `urn:a:b`
becomes `a.b`.
-/
def packageOfNamespace (uri : String) : String :=
  let parts := ((namespaceParts uri.toList).map packagePart).filter (!·.isEmpty)
  ".".intercalate (parts.map String.ofList)

end Schema
end SchemaBinding
