import SchemaBinding.Proofs.Spelling
import SchemaBinding.Xml.Parser

/-!
# Written documents

A document as it is written, whose prefixes are not resolved yet, and the document that it is once
they are.  With other names for its prefixes a written tag says the same, apart from the prefixes
inside the values of its attributes.
-/

namespace SchemaBinding
namespace Xml

/-! ## Expansion -/

/-- A tag as it is written. -/
structure WrittenTag where
  /-- The name of the element. -/
  name : WrittenName
  /-- The namespaces that it declares. -/
  declarations : List NamespaceDeclaration
  /-- Its other attributes, in the order in which they are written. -/
  attributes : List (WrittenName × String)

/-- What a tag says in the scope inside its element, unless a prefix is not declared or two
attributes have one name. -/
def WrittenTag.expand (scope : Scope) (written : WrittenTag) : Option Tag := do
  let name ← elementName? scope written.name
  let attributes ← expandAttributes scope [] written.attributes
  return ⟨name, written.declarations, attributes⟩

/-- A part of a document as it is written. -/
inductive WrittenNode where
  /-- An element and its content. -/
  | element (tag : WrittenTag) (children : List WrittenNode)
  /-- Character data. -/
  | text (characters : String)
  /-- A comment. -/
  | comment (characters : String)
  /-- A processing instruction. -/
  | instruction (target content : String)

mutual

/-- A part of a document, with all prefixes resolved. -/
def WrittenNode.expand (outer : Scope) : WrittenNode → Option Node
  | .element tag children => do
      let scope := outer.enter tag.declarations
      return .element (← tag.expand scope) (← expandAll scope children)
  | .text characters => some (.text characters)
  | .comment characters => some (.comment characters)
  | .instruction target content => some (.instruction target content)

/-- Parts of a document, with all prefixes resolved. -/
def WrittenNode.expandAll (outer : Scope) : List WrittenNode → Option (List Node)
  | [] => some []
  | node :: rest => do return (← node.expand outer) :: (← expandAll outer rest)

end

/-- A document as it is written: its outermost element. -/
structure WrittenDocument where
  /-- The tag of the outermost element. -/
  root : WrittenTag
  /-- The content of the outermost element. -/
  children : List WrittenNode

namespace WrittenDocument

/-- The scope inside the outermost element. -/
def scope (written : WrittenDocument) : Scope :=
  Scope.enter [] written.root.declarations

/-- A document, with all prefixes resolved. -/
def expand (written : WrittenDocument) : Option Document := do
  return ⟨← written.root.expand written.scope,
    ← WrittenNode.expandAll written.scope written.children⟩

theorem expand_eq_some_iff
    {written : WrittenDocument}
    {document : Document} :
    written.expand = some document ↔ written.root.expand written.scope = some document.root ∧
      WrittenNode.expandAll written.scope written.children = some document.children := by
  unfold expand
  cases written.root.expand written.scope with
  | none => simp
  | some root =>
      cases WrittenNode.expandAll written.scope written.children with
      | none => simp
      | some children =>
          obtain ⟨otherRoot, otherChildren⟩ := document
          simp

end WrittenDocument

theorem WrittenTag.expand_eq_some_iff
    {scope : Scope}
    {written : WrittenTag}
    {tag : Tag} :
    written.expand scope = some tag ↔ elementName? scope written.name = some tag.name ∧
      written.declarations = tag.declarations ∧
        expandAttributes scope [] written.attributes = some tag.attributes := by
  unfold expand
  cases elementName? scope written.name with
  | none => simp
  | some name =>
      cases expandAttributes scope [] written.attributes with
      | none => simp
      | some attributes =>
          obtain ⟨otherName, declarations, otherAttributes⟩ := tag
          simp

theorem WrittenNode.expandAll_cons_eq_some_iff
    {outer : Scope}
    {node : WrittenNode}
    {rest : List WrittenNode}
    {nodes : List Node} :
    expandAll outer (node :: rest) = some nodes ↔ ∃ expanded others,
      node.expand outer = some expanded ∧ expandAll outer rest = some others ∧
        expanded :: others = nodes := by
  rw [expandAll]
  cases node.expand outer with
  | none => simp
  | some expanded => cases expandAll outer rest <;> simp

theorem WrittenNode.expand_element_eq_some_iff
    {outer : Scope}
    {written : WrittenTag}
    {children : List WrittenNode}
    {node : Node} :
    (element written children).expand outer = some node ↔ ∃ tag nodes,
      written.expand (outer.enter written.declarations) = some tag ∧
        expandAll (outer.enter written.declarations) children = some nodes ∧
          .element tag nodes = node := by
  rw [expand]
  cases written.expand (outer.enter written.declarations) with
  | none => simp
  | some tag => cases expandAll (outer.enter written.declarations) children <;> simp

/-! ## Scopes -/

namespace Scope

variable {outer other : Scope}

/-- The declarations of an element go before those around it. -/
theorem lookup?_enter
    (outer : Scope)
    (declarations : List NamespaceDeclaration)
    (label : Option String) :
    (outer.enter declarations).lookup? label =
      (lookup? declarations label).or (outer.lookup? label) := by
  unfold lookup? enter
  rw [List.find?_append, Option.map_or, List.find?_filter]
  cases isOwn : declarations.find? fun declaration => declaration.label = label with
  | some own => rfl
  | none =>
      rw [List.find?_eq_none] at isOwn
      congr 3
      funext declaration
      by_cases same : declaration.label = label
      · rw [same]
        simpa [same] using isOwn
      · simp [same]

end Scope
end Xml

/-! ## Other prefixes -/

namespace Schema
namespace Relabeling

open Xml (Scope WrittenName WrittenTag)

variable (relabeling : Relabeling)

/-- A name with the other name for its prefix. -/
def respellName (name : WrittenName) : WrittenName where
  qualifier := relabeling.relabel name.qualifier
  localName := name.localName

/-- The value of an attribute, with the other name for the prefix in it if it is a name. -/
def respellValue (name : WrittenName) (value : String) : String :=
  if name.qualifier = "" ∧ name.localName ∈ referenceAttributes then relabeling.respell value
  else value

/-- A written attribute with other names for prefixes. -/
def respellWritten (found : WrittenName × String) : WrittenName × String :=
  (relabeling.respellName found.1, relabeling.respellValue found.1 found.2)

/-- A written tag with other names for prefixes. -/
def respellWrittenTag (tag : WrittenTag) : WrittenTag where
  name := relabeling.respellName tag.name
  declarations := tag.declarations.map relabeling.respellNamespace
  attributes := tag.attributes.map relabeling.respellWritten

variable {relabeling} {scope other : Scope}

theorem relabel_eq_empty_iff
    {label : String} :
    relabeling.relabel label = "" ↔ label = "" :=
  ⟨fun same => relabeling.injective (same.trans relabeling.empty.symm),
    fun same => same ▸ relabeling.empty⟩

theorem relabel_eq_xml_iff
    {label : String} :
    relabeling.relabel label = "xml" ↔ label = "xml" :=
  ⟨fun same => relabeling.injective (same.trans relabeling.xml.symm),
    fun same => same ▸ relabeling.xml⟩

theorem lookup?_respellNamespace
    (declarations : List Xml.NamespaceDeclaration)
    (label : Option String) :
    Scope.lookup? (declarations.map relabeling.respellNamespace) (label.map relabeling.relabel) =
      Scope.lookup? declarations label := by
  unfold Scope.lookup?
  rw [List.find?_map]
  have sameLabel (declaration : Xml.NamespaceDeclaration) :
      (relabeling.respellNamespace declaration).label = label.map relabeling.relabel ↔
        declaration.label = label :=
    (Option.map_injective relabeling.injective).eq_iff
  simp only [Function.comp_def, sameLabel, Option.map_map]
  rfl

namespace Translates

/-- Prefixes stand for the same inside corresponding elements. -/
theorem enter
    (translates : relabeling.Translates scope other)
    (declarations : List Xml.NamespaceDeclaration) :
    relabeling.Translates (scope.enter declarations)
      (other.enter (declarations.map relabeling.respellNamespace)) := by
  intro label
  rw [Scope.lookup?_enter, Scope.lookup?_enter, lookup?_respellNamespace, translates label]

theorem lookup?_some
    (translates : relabeling.Translates scope other)
    (label : String) :
    other.lookup? (some (relabeling.relabel label)) = scope.lookup? (some label) :=
  translates (some label)

/-- An element has the same name, unless its prefix is the one that declares prefixes. -/
theorem elementName?_eq
    (translates : relabeling.Translates scope other)
    {name : WrittenName}
    {expanded otherExpanded : ExpandedName}
    (isName : Xml.elementName? scope name = some expanded)
    (isOther : Xml.elementName? other (relabeling.respellName name) = some otherExpanded) :
    otherExpanded = expanded := by
  unfold Xml.elementName? respellName at *
  split at isName
  · cases isName
  · split at isOther
    · cases isOther
    · simp only [relabel_eq_empty_iff, translates.lookup?_some,
        show other.lookup? none = scope.lookup? none from translates none] at isOther
      exact Option.some.inj (isOther.symm.trans isName)

/-- An attribute has the same name. -/
theorem attributeName?_eq
    (translates : relabeling.Translates scope other)
    (name : WrittenName) :
    Xml.attributeName? other (relabeling.respellName name) = Xml.attributeName? scope name := by
  unfold Xml.attributeName? respellName
  simp only [relabel_eq_empty_iff, relabel_eq_xml_iff, translates.lookup?_some]

end Translates

theorem attributeName?_cases
    {name : WrittenName}
    {expanded : ExpandedName}
    (isName : Xml.attributeName? scope name = some expanded) :
    (expanded.namespaceName = none ↔ name.qualifier = "") ∧
      expanded.localName = name.localName := by
  unfold Xml.attributeName? at isName
  split at isName
  next unqualified =>
    cases isName
    exact ⟨iff_of_true rfl unqualified, rfl⟩
  next qualified =>
    have named : ∃ uri, (⟨some uri, name.localName⟩ : ExpandedName) = expanded := by
      split at isName
      · exact ⟨_, Option.some.inj isName⟩
      · obtain ⟨uri, _, same⟩ := Option.map_eq_some_iff.1 isName
        exact ⟨uri, same⟩
    obtain ⟨uri, rfl⟩ := named
    exact ⟨iff_of_false (Option.some_ne_none uri) qualified, rfl⟩

/-- The value of an attribute is respelled as that of the attribute with an expanded name is. -/
theorem respellAttribute_eq
    {name : WrittenName}
    {expanded : ExpandedName}
    (isName : Xml.attributeName? scope name = some expanded)
    (value : String) :
    relabeling.respellAttribute ⟨expanded, value⟩ =
      ⟨expanded, relabeling.respellValue name value⟩ := by
  obtain ⟨unqualified, sameLocal⟩ := attributeName?_cases isName
  unfold respellAttribute respellValue
  simp only [unqualified, sameLocal]
  split <;> rfl

namespace Translates

/-- Attributes are expanded alike. -/
theorem expandAttributes_eq
    (translates : relabeling.Translates scope other)
    (known : List Xml.Attribute)
    (attributes : List (WrittenName × String)) :
    Xml.expandAttributes other (known.map relabeling.respellAttribute)
        (attributes.map relabeling.respellWritten) =
      (Xml.expandAttributes scope known attributes).map
        (List.map relabeling.respellAttribute) := by
  induction attributes generalizing known with
  | nil => rfl
  | cons written rest inductionHypothesis =>
      obtain ⟨name, value⟩ := written
      rw [List.map_cons, respellWritten, Xml.expandAttributes, Xml.expandAttributes,
        translates.attributeName?_eq]
      cases isName : Xml.attributeName? scope name with
      | none => rfl
      | some expanded =>
          have sameNames : (known.map relabeling.respellAttribute).any (·.name = expanded) =
              known.any (·.name = expanded) := by
            simp only [List.any_map, Function.comp_def, name_respellAttribute]
          have further := inductionHypothesis (known ++ [⟨expanded, value⟩])
          rw [List.map_append, List.map_singleton, respellAttribute_eq isName] at further
          simp only [Option.bind_eq_bind, Option.bind_some, sameNames, further]
          split <;> rfl

/-- A tag with other names for its prefixes says the same. -/
theorem expand_eq
    (translates : relabeling.Translates scope other)
    {written : WrittenTag}
    {tag otherTag : Xml.Tag}
    (expands : written.expand scope = some tag)
    (otherExpands : (relabeling.respellWrittenTag written).expand other = some otherTag) :
    otherTag = relabeling.respellTag tag := by
  obtain ⟨isName, declarations, isExpanded⟩ := Xml.WrittenTag.expand_eq_some_iff.1 expands
  obtain ⟨isOtherName, otherDeclarations, isOtherExpanded⟩ :=
    Xml.WrittenTag.expand_eq_some_iff.1 otherExpands
  have attributes := translates.expandAttributes_eq [] written.attributes
  rw [isExpanded, Option.map_some] at attributes
  obtain ⟨otherName, otherOwn, otherAttributes⟩ := otherTag
  unfold respellTag
  rw [← declarations]
  congr 1
  · exact translates.elementName?_eq isName isOtherName
  · exact otherDeclarations.symm
  · exact Option.some.inj (isOtherExpanded.symm.trans attributes)

end Translates
end Relabeling
end Schema
end SchemaBinding
