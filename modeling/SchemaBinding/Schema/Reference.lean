import SchemaBinding.Schema.Error
import SchemaBinding.Text.Blank
import SchemaBinding.Xml.Document

/-!
# References by name

How a name inside an attribute value is resolved.  A prefix stands for the namespace that the
innermost declaration of the prefix names, `xml` for the namespace of XML, and a name without a
prefix is in the default namespace, if there is one.
-/

namespace SchemaBinding
namespace Schema

/-- Text before and after its first colon. -/
def splitAtColon : List Char → Option (List Char × List Char)
  | [] => none
  | ':' :: rest => some ([], rest)
  | c :: rest => (splitAtColon rest).map fun (before, after) => (c :: before, after)

/-- The name that a text refers to in a scope.  Blanks around the text do not count. -/
def resolveName (scope : Xml.Scope) (source : String) : Deferred ExpandedName :=
  let text := Text.trimWhile Text.isBlank source.toList
  match splitAtColon text with
  | none => .ok ⟨scope.lookup? none, .ofList text⟩
  | some (before, after) =>
      let label := String.ofList before
      if label = "xml" then .ok ⟨some Xml.xmlNamespace, .ofList after⟩
      else
        match scope.lookup? (some label) with
        | some uri => .ok ⟨some uri, .ofList after⟩
        | none => .error (.prefixNotResolved label)

end Schema
end SchemaBinding
