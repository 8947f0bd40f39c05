import SchemaBinding.ExpandedName

/-!
# Documents

An XML document as a tree.  Names of elements and attributes are expanded; the declarations of
namespaces stay with the elements that make them, so that prefixes inside attribute values can
still be resolved.
-/

namespace SchemaBinding
namespace Xml

/-- The namespace of XML itself. -/
def xmlNamespace : String :=
  "http://www.w3.org/XML/1998/namespace"

/-- The namespace of namespace declarations. -/
def xmlnsNamespace : String :=
  "http://www.w3.org/2000/xmlns/"

/-- The declaration of a namespace, for a prefix or as the default. -/
structure NamespaceDeclaration where
  /-- The prefix; the default namespace has none. -/
  label : Option String
  /-- The name of the namespace. -/
  uri : String
deriving DecidableEq, Repr

/-- The declarations in force at a place, the innermost one of each prefix. -/
abbrev Scope := List NamespaceDeclaration

namespace Scope

/-- The name of the namespace that a prefix, or its absence, stands for. -/
def lookup? (scope : Scope) (label : Option String) : Option String :=
  (scope.find? fun declaration => declaration.label = label).map NamespaceDeclaration.uri

/-- The scope inside an element, whose declarations hide those of the same prefixes around it. -/
def enter (outer : Scope) (declarations : List NamespaceDeclaration) : Scope :=
  declarations ++
    outer.filter fun declaration => !declarations.any fun own => own.label = declaration.label

end Scope

/-- An attribute that declares no namespace. -/
structure Attribute where
  /-- The name; without a prefix it is in no namespace. -/
  name : ExpandedName
  /-- The value. -/
  value : String
deriving DecidableEq, Repr

/-- What the tags of an element say. -/
structure Tag where
  /-- The name of the element. -/
  name : ExpandedName
  /-- The namespaces that it declares. -/
  declarations : List NamespaceDeclaration
  /-- Its other attributes, in the order in which they are written. -/
  attributes : List Attribute
deriving DecidableEq, Repr

namespace Tag

/-- The value of an attribute that is in no namespace. -/
def attribute? (tag : Tag) (localName : String) : Option String :=
  (tag.attributes.find? fun found => found.name = ⟨none, localName⟩).map Attribute.value

end Tag

/-- A part of a document. -/
inductive Node where
  /-- An element and its content. -/
  | element (tag : Tag) (children : List Node)
  /-- Character data. -/
  | text (characters : String)
  /-- A comment. -/
  | comment (characters : String)
  /-- A processing instruction. -/
  | instruction (target content : String)
deriving Repr

/-- A document: its outermost element. -/
structure Document where
  /-- The tag of the outermost element. -/
  root : Tag
  /-- The content of the outermost element. -/
  children : List Node
deriving Repr

namespace Node

mutual

/-- The elements of a part of a document in their order, each with the scope inside it. -/
def elements (outer : Scope) : Node → List (Tag × Scope)
  | .element tag children =>
      let scope := outer.enter tag.declarations
      (tag, scope) :: elementsOfAll scope children
  | .text _ => []
  | .comment _ => []
  | .instruction _ _ => []

/-- The elements of several parts in their order, each with the scope inside it. -/
def elementsOfAll (outer : Scope) : List Node → List (Tag × Scope)
  | [] => []
  | node :: rest => elements outer node ++ elementsOfAll outer rest

end

end Node

namespace Document

/-- The scope inside the outermost element. -/
def scope (document : Document) : Scope :=
  Scope.enter [] document.root.declarations

/-- All elements in document order, each with the scope inside it. -/
def elements (document : Document) : List (Tag × Scope) :=
  Node.elements [] (.element document.root document.children)

end Document
end Xml
end SchemaBinding
