import SchemaBinding.Xml.Document
import SchemaBinding.Xml.Prolog

/-!
# Reading documents

From the text of a document to its tree.  The text of an entity is read in place of a reference to
it, with the elements that are open there: an entity may hold elements, and it may end them.
-/

namespace SchemaBinding
namespace Xml

/-- An element whose end has not been read. -/
structure OpenElement where
  /-- Its name as written, which its end has to repeat. -/
  written : WrittenName
  /-- What its tag says. -/
  tag : Tag
  /-- The scope inside it. -/
  scope : Scope
  /-- Its content so far, the last part first. -/
  children : List Node

/-- The attributes of a tag, told apart into declarations of namespaces and others. -/
structure Sorted where
  /-- The declarations. -/
  declarations : List NamespaceDeclaration := []
  /-- The others, with the names that are written. -/
  others : List (WrittenName × String) := []

namespace Sorted

/-- Adds the declaration of a prefix. -/
def declare (sorted : Sorted) (label uri : String) : Option Sorted :=
  if uri = xmlnsNamespace then none
  else if label = "xml" then if uri = xmlNamespace then some sorted else none
  else if uri = xmlNamespace then none
  else if sorted.declarations.any fun declaration => declaration.label = some label then none
  else some { sorted with declarations := sorted.declarations ++ [⟨some label, uri⟩] }

/-- Adds the declaration of the default namespace. -/
def declareDefault (sorted : Sorted) (uri : String) : Option Sorted :=
  if uri = xmlNamespace || uri = xmlnsNamespace then none
  else some { sorted with declarations := sorted.declarations ++ [⟨none, uri⟩] }

/-- Adds an attribute to the kind that its name puts it in. -/
def add (sorted : Sorted) (name : WrittenName) (value : String) : Option Sorted :=
  if name.qualifier = "xmlns" then sorted.declare name.localName value
  else if name.localName = "xmlns" then sorted.declareDefault value
  else some { sorted with others := sorted.others ++ [(name, value)] }

end Sorted

/-- How far a document has been read. -/
structure Progress where
  /-- The open elements, the innermost one first. -/
  pending : List OpenElement := []
  /-- The parts outside all elements, the last one first. -/
  outside : List Node := []
  /-- The attributes of a tag that its text broke off, which the next tag takes over. -/
  loose : Sorted := {}
  /-- The references counted so far. -/
  counted : Nat := 0

/-- The content that character data extends, where neighbouring data is one part. -/
def extendText (characters : String) : List Node → List Node
  | .text before :: rest => .text (before ++ characters) :: rest
  | parts => .text characters :: parts

namespace Progress

/-- Changes the content of the innermost open element, or what is outside all elements. -/
def change (progress : Progress) (extend : List Node → List Node) : Progress :=
  match progress.pending with
  | [] => { progress with outside := extend progress.outside }
  | inner :: around =>
      { progress with pending := { inner with children := extend inner.children } :: around }

/-- Adds a part. -/
def add (progress : Progress) (node : Node) : Progress :=
  progress.change (node :: ·)

/-- Adds character data. -/
def addText (progress : Progress) (characters : List Char) : Progress :=
  progress.change (extendText (.ofList characters))

/-- The scope at the place that has been reached. -/
def scope (progress : Progress) : Scope :=
  match progress.pending with
  | [] => []
  | inner :: _ => inner.scope

end Progress

/-- Expands the values of attributes and sorts them; the count of references is carried along. -/
def sortAttributes (entities : Entities) (levels : Nat) (sorted : Sorted) (counted : Nat) :
    List WrittenAttribute → Option (Sorted × Nat)
  | [] => some (sorted, counted)
  | written :: rest => do
      let (value, counted) ← expandValue entities levels counted written.value
      let sorted ← sorted.add written.name (.ofList value)
      sortAttributes entities levels sorted counted rest

/-- The namespace of an element; without a prefix it is the default one. -/
def elementName? (scope : Scope) (name : WrittenName) : Option ExpandedName :=
  if name.qualifier = "xmlns" then none
  else if name.qualifier = "" then some ⟨scope.lookup? none, name.localName⟩
  else (scope.lookup? (some name.qualifier)).map fun uri => ⟨some uri, name.localName⟩

/-- The namespace of an attribute; without a prefix it has none. -/
def attributeName? (scope : Scope) (name : WrittenName) : Option ExpandedName :=
  if name.qualifier = "" then some ⟨none, name.localName⟩
  else if name.qualifier = "xml" then some ⟨some xmlNamespace, name.localName⟩
  else (scope.lookup? (some name.qualifier)).map fun uri => ⟨some uri, name.localName⟩

/-- The attributes with expanded names, of which there are no two of one name. -/
def expandAttributes (scope : Scope) (known : List Attribute) :
    List (WrittenName × String) → Option (List Attribute)
  | [] => some known
  | (written, value) :: rest => do
      let name ← attributeName? scope written
      if known.any fun other => other.name = name then none
      else expandAttributes scope (known ++ [⟨name, value⟩]) rest

/-- Begins an element, and ends it again if its tag says so. -/
def beginElement (entities : Entities) (levels : Nat) (progress : Progress) (written : WrittenName)
    (attributes : List WrittenAttribute) (ending : TagEnd) : Option Progress := do
  let (sorted, counted) ←
    sortAttributes entities levels progress.loose progress.counted attributes
  if ending = .broken then
    if written.qualifier = "xmlns" then none
    else return { progress with loose := sorted, counted }
  else
    let scope := progress.scope.enter sorted.declarations
    let name ← elementName? scope written
    let expanded ← expandAttributes scope [] sorted.others
    let tag : Tag := ⟨name, sorted.declarations, expanded⟩
    let progress := { progress with loose := {}, counted }
    if ending = .empty then return progress.add (.element tag [])
    else return { progress with pending := ⟨written, tag, scope, []⟩ :: progress.pending }

/-- Ends the innermost open element, whose name has to be repeated. -/
def endElement (progress : Progress) (written : WrittenName) : Option Progress := do
  let scope := progress.scope.enter progress.loose.declarations
  let _ ← expandAttributes scope [] progress.loose.others
  match progress.pending with
  | [] => none
  | inner :: around =>
      if inner.written = written then
        let progress := { progress with pending := around, loose := {} }
        return progress.add (.element inner.tag inner.children.reverse)
      else none

/-- Character data with every kind of line break written as a line feed. -/
def unifyBreaks : List Char → List Char
  | [] => []
  | '\r' :: '\n' :: rest => '\n' :: unifyBreaks rest
  | '\r' :: rest => '\n' :: unifyBreaks rest
  | c :: rest => c :: unifyBreaks rest

/--
Reads content up to the end of the element that it belongs to, or to the end of the text; what
follows that end is left.  `depth` counts the elements begun in this text and not yet ended,
`begun` says whether one has been begun at all, and `levels` how deep references may still nest.
-/
def content (entities : Entities) (levels depth : Nat) (begun : Bool) (progress : Progress) :
    List Char → Option (List Char × Progress)
  | [] => some ([], progress)
  | first :: text =>
      match Scanner.token first text with
      | none => none
      | some (token, rest) =>
          have : rest.chars.length < (first :: text).length :=
            Nat.lt_succ_of_le rest.length_le
          match token with
          | .startTag name attributes ending =>
              match beginElement entities levels progress name attributes ending with
              | none => none
              | some progress =>
                  content entities levels (if ending = .opened then depth + 1 else depth) true
                    progress rest.chars
          | .endTag name =>
              if begun then
                match endElement progress name with
                | none => none
                | some progress =>
                    match depth with
                    | 0 => some (rest.chars, progress)
                    | depth + 1 => content entities levels depth begun progress rest.chars
              else none
          | .characters found =>
              content entities levels depth begun (progress.addText (unifyBreaks found)) rest.chars
          | .literal found =>
              content entities levels depth begun (progress.addText (unifyBreaks found)) rest.chars
          | .comment found =>
              content entities levels depth begun (progress.add (.comment (.ofList found)))
                rest.chars
          | .instruction target found =>
              content entities levels depth begun
                (progress.add (.instruction target (.ofList found))) rest.chars
          | .reference (.character c) =>
              content entities levels depth begun (progress.addText [c]) rest.chars
          | .reference (.entity name) =>
              match levels with
              | 0 => none
              | below + 1 =>
                  match entities.lookup name, countReference (below + 1) progress.counted with
                  | some found, some counted =>
                      match content entities below 0 false { progress with counted } found with
                      | none => none
                      | some (_, progress) =>
                          let counted := settleReferences (below + 1) progress.counted
                          content entities (below + 1) depth begun { progress with counted }
                            rest.chars
                  | _, _ => none
termination_by text => (levels, text.length)

/-- The outermost element among the parts of a document. -/
def outermost? : List Node → Option Document
  | [] => none
  | .element tag children :: _ => some ⟨tag, children⟩
  | _ :: rest => outermost? rest

/-- Reads the outermost element and what follows it. -/
def parseBody (entities : Entities) (text : List Char) : Option Document := do
  let (progress, rest) ←
    match text with
    | '<' :: text => do
        let (token, rest) ← Scanner.startTag text
        match token with
        | .startTag name attributes ending =>
            let progress ← beginElement entities nestingLimit {} name attributes ending
            if ending = .opened then do
              let (rest, progress) ← content entities nestingLimit 0 true progress rest.chars
              some (progress, rest)
            else some (progress, rest.chars)
        | _ => none
    | _ => none
  Scanner.run Scanner.miscellany rest
  if progress.pending.isEmpty then outermost? progress.outside.reverse else none

/-- The document that a text is, if it is well formed. -/
def parse (typeAllowed : Bool) (text : String) : Option Document := do
  let (entities, rest) ← Scanner.prolog typeAllowed text.toList
  parseBody entities rest.chars

end Xml
end SchemaBinding
