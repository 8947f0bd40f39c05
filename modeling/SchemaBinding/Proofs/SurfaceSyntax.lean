import SchemaBinding.Proofs.SchemasSideBySide
import SchemaBinding.Proofs.WrittenDocuments

/-!
# Surface syntax

What a schema is bound to does not depend on how it is written.  Text, comments, instructions and
elements of other languages may be put in and taken out, and prefixes may have other names: the
document is bound to the same outline, or it is refused for the same reason.
-/

namespace SchemaBinding
namespace Schema

open Xml (Scope Spot WrittenNode WrittenDocument)

/-- Whether a part of a document is no element of the schema language. -/
def IsForeign (outer : Scope) : WrittenNode → Prop
  | .element tag _ => (Xml.elementName? (outer.enter tag.declarations) tag.name).all fun name =>
      name.namespaceName ≠ some schemaNamespace
  | .text _ => True
  | .comment _ => True
  | .instruction _ _ => True

namespace Relabeling

variable (relabeling : Relabeling)

/-- Whether the content of an element is rewritten as that of another one: elements keep their order
and have other names for prefixes, and anything that is no element of the schema language may be
taken out or put in, at every depth. -/
inductive Rewrites : Scope → Scope → List WrittenNode → List WrittenNode → Prop
  /-- Nothing is left. -/
  | nil {outer other : Scope} : Rewrites outer other [] []
  /-- Something is taken out. -/
  | takeOut {outer other : Scope} {node : WrittenNode} {rest others : List WrittenNode}
      (foreign : IsForeign outer node) (further : Rewrites outer other rest others) :
      Rewrites outer other (node :: rest) others
  /-- Something is put in. -/
  | putIn {outer other : Scope} {node : WrittenNode} {rest others : List WrittenNode}
      (foreign : IsForeign other node) (further : Rewrites outer other rest others) :
      Rewrites outer other rest (node :: others)
  /-- An element is kept, and rewritten inside. -/
  | keep {outer other : Scope} {tag otherTag : Xml.WrittenTag}
      {children otherChildren rest others : List WrittenNode}
      (respelled : otherTag = relabeling.respellWrittenTag tag)
      (inside : Rewrites (outer.enter tag.declarations) (other.enter otherTag.declarations) children
        otherChildren)
      (further : Rewrites outer other rest others) :
      Rewrites outer other (.element tag children :: rest)
        (.element otherTag otherChildren :: others)

/-- Whether a document is rewritten as another one. -/
structure RewritesDocument (written other : WrittenDocument) : Prop where
  root : other.root = relabeling.respellWrittenTag written.root
  content : relabeling.Rewrites written.scope other.scope written.children other.children

end Relabeling

/-! ## Elements of the schema language -/

/-- The element of the schema language that a part of a document is, if it is one. -/
def construct? (outer : Scope) (node : Xml.Node) : Option Spot :=
  (node.spot? outer).filter fun spot => (constructOf? spot.tag).isSome

theorem map_snd_constructs
    (spot : Spot) :
    (constructs spot).map Prod.snd = spot.content.filterMap (construct? spot.scope) := by
  unfold constructs Spot.children
  conv_rhs => rw [spot.content_eq, List.filterMap_map]
  induction spot.content.zipIdx with
  | nil => rfl
  | cons entry rest inductionHypothesis =>
      obtain ⟨node, index⟩ := entry
      rw [List.filterMap_cons, List.filterMap_cons, ← inductionHypothesis, Function.comp_apply,
        construct?]
      dsimp only
      cases node.spot? spot.scope with
      | none => rfl
      | some child =>
          rw [Option.filter_some]
          by_cases construct : (constructOf? child.tag).isSome <;> simp [construct]

theorem construct?_element
    (outer : Scope)
    (tag : Xml.Tag)
    (children : List Xml.Node) :
    construct? outer (.element tag children) =
      if (constructOf? tag).isSome then some ⟨outer.enter tag.declarations, tag, children⟩
      else none :=
  Option.filter_some

theorem construct?_eq_none
    {outer : Scope}
    {written : WrittenNode}
    {node : Xml.Node}
    (foreign : IsForeign outer written)
    (expands : written.expand outer = some node) :
    construct? outer node = none := by
  cases written with
  | text | comment | instruction =>
      cases expands
      rfl
  | element written children =>
      obtain ⟨tag, nodes, isTag, _, rfl⟩ := WrittenNode.expand_element_eq_some_iff.1 expands
      rw [IsForeign, (Xml.WrittenTag.expand_eq_some_iff.1 isTag).1] at foreign
      have noConstruct : constructOf? tag = none :=
        if_neg (by simpa [ExpandedName.isIn] using foreign)
      rw [construct?_element, noConstruct]
      rfl

namespace Relabeling

variable {relabeling : Relabeling}

theorem declarations_of_expand
    {scope : Scope}
    {written : Xml.WrittenTag}
    {tag : Xml.Tag}
    (expands : written.expand scope = some tag) :
    written.declarations = tag.declarations :=
  (Xml.WrittenTag.expand_eq_some_iff.1 expands).2.1

/-- An element is spelled in another way if its tag is and the elements inside it are. -/
theorem respells_of_content
    {scope other : Scope}
    (translates : relabeling.Translates scope other)
    {written : Xml.WrittenTag}
    {tag otherTag : Xml.Tag}
    (expands : written.expand scope = some tag)
    (otherExpands : (relabeling.respellWrittenTag written).expand other = some otherTag)
    {content otherContent : List Xml.Node}
    (inside : List.Forall₂ relabeling.Respells (content.filterMap (construct? scope))
      (otherContent.filterMap (construct? other))) :
    relabeling.Respells ⟨scope, tag, content⟩ ⟨other, otherTag, otherContent⟩ := by
  refine .intro translates (translates.expand_eq expands otherExpands) ?_
  have found := inside
  rw [← map_snd_constructs ⟨scope, tag, content⟩,
    ← map_snd_constructs ⟨other, otherTag, otherContent⟩, List.forall₂_map_left_iff,
    List.forall₂_map_right_iff] at found
  exact found

/-- The elements of the schema language in rewritten content are those in the content. -/
theorem Rewrites.constructs
    {outer other : Scope}
    {written otherWritten : List WrittenNode}
    (rewrites : relabeling.Rewrites outer other written otherWritten)
    (translates : relabeling.Translates outer other)
    {nodes otherNodes : List Xml.Node}
    (expands : WrittenNode.expandAll outer written = some nodes)
    (otherExpands : WrittenNode.expandAll other otherWritten = some otherNodes) :
    List.Forall₂ relabeling.Respells (nodes.filterMap (construct? outer))
      (otherNodes.filterMap (construct? other)) := by
  induction rewrites generalizing nodes otherNodes with
  | nil =>
      cases expands
      cases otherExpands
      exact .nil
  | takeOut foreign further inductionHypothesis =>
      obtain ⟨node, rest, isNode, isRest, rfl⟩ := WrittenNode.expandAll_cons_eq_some_iff.1 expands
      rw [List.filterMap_cons_none (construct?_eq_none foreign isNode)]
      exact inductionHypothesis translates isRest otherExpands
  | putIn foreign further inductionHypothesis =>
      obtain ⟨node, rest, isNode, isRest, rfl⟩ :=
        WrittenNode.expandAll_cons_eq_some_iff.1 otherExpands
      rw [List.filterMap_cons_none (construct?_eq_none foreign isNode)]
      exact inductionHypothesis translates expands isRest
  | @keep outer other written _ _ _ _ _ respelled inside further insideHypothesis
      inductionHypothesis =>
      subst respelled
      obtain ⟨node, rest, isNode, isRest, rfl⟩ := WrittenNode.expandAll_cons_eq_some_iff.1 expands
      obtain ⟨otherNode, otherRest, isOtherNode, isOtherRest, rfl⟩ :=
        WrittenNode.expandAll_cons_eq_some_iff.1 otherExpands
      obtain ⟨tag, children, isTag, areChildren, rfl⟩ :=
        WrittenNode.expand_element_eq_some_iff.1 isNode
      obtain ⟨otherTag, otherChildren, isOtherTag, areOtherChildren, rfl⟩ :=
        WrittenNode.expand_element_eq_some_iff.1 isOtherNode
      have entered : relabeling.Translates (outer.enter written.declarations)
          (other.enter (relabeling.respellWrittenTag written).declarations) :=
        translates.enter written.declarations
      have respells := respells_of_content entered isTag isOtherTag
        (insideHypothesis entered areChildren areOtherChildren)
      have rest := inductionHypothesis translates isRest isOtherRest
      rw [declarations_of_expand isTag, declarations_of_expand isOtherTag] at respells
      have construct : constructOf? otherTag = constructOf? tag := respells.constructOf?_eq
      rw [List.filterMap_cons, List.filterMap_cons, construct?_element, construct?_element,
        construct]
      cases constructOf? tag with
      | none => exact rest
      | some name => exact .cons respells rest

/-- A rewritten document is the same document in another spelling. -/
theorem RewritesDocument.respells
    {written other : WrittenDocument}
    (rewrites : relabeling.RewritesDocument written other)
    {document otherDocument : Xml.Document}
    (expands : written.expand = some document)
    (otherExpands : other.expand = some otherDocument) :
    relabeling.Respells document.spot otherDocument.spot := by
  obtain ⟨isRoot, areChildren⟩ := Xml.WrittenDocument.expand_eq_some_iff.1 expands
  obtain ⟨isOtherRoot, areOtherChildren⟩ := Xml.WrittenDocument.expand_eq_some_iff.1 otherExpands
  have translates : relabeling.Translates written.scope other.scope := by
    unfold Xml.WrittenDocument.scope
    rw [rewrites.root]
    exact Translates.enter (fun _ => rfl) written.root.declarations
  have inside := rewrites.content.constructs translates areChildren areOtherChildren
  rw [rewrites.root] at isOtherRoot
  have respells := respells_of_content translates isRoot isOtherRoot inside
  have scope : written.scope = document.scope :=
    congrArg (Scope.enter []) (declarations_of_expand isRoot)
  have otherScope : other.scope = otherDocument.scope :=
    congrArg (Scope.enter []) (rewrites.root ▸ declarations_of_expand isOtherRoot)
  rwa [scope, otherScope] at respells

end Relabeling

/-! ## Schemas -/

/-- A run over a schema in another spelling. -/
def Retelling.ofSpelling (relabeling : Relabeling) : Retelling where
  retell := relabeling.respellError
  errors error told := told = relabeling.respellError error
  retype := id
  redraft := id
  retold _ := rfl
  unchanged {error} plain := by
    cases error with
    | prefixNotResolved label => cases plain
    | _ => rfl
  builtin _ := rfl
  listOf _ := rfl
  addClass _ _ _ _ := rfl
  typeOf draft id := by
    cases typed : draft.typeOf id <;> exact typed
  addField draft owner name type := by
    rw [Prod.map_id]
    apply Matches.refl
    exact fun _ => rfl
  addSupertype draft owner supertype := by
    cases added : draft.addSupertype owner supertype <;> exact added

/-- However a document is written, it is bound to the same outline, or it is refused for the same
reason, which may name a prefix by its other name; and it raises the same warnings. -/
theorem bindXml_of_rewrites
    {relabeling : Relabeling}
    {written other : WrittenDocument}
    (rewrites : relabeling.RewritesDocument written other)
    {document otherDocument : Xml.Document}
    (expands : written.expand = some document)
    (otherExpands : other.expand = some otherDocument)
    (options : BindingOptions) :
    bindXml options otherDocument =
      ((bindXml options document).1.mapError relabeling.respellError,
        (bindXml options document).2) := by
  have read := (rewrites.respells expands otherExpands).ofXml_eq
  have notASchema (error : SchemaError) (isError : Document.ofXml document = .error error) :
      relabeling.respellError error = error := by
    unfold Document.ofXml at isError
    split at isError
    · cases isError
    · cases isError
      rfl
  unfold bindXml
  rw [read]
  cases isSchema : Document.ofXml document with
  | error error =>
      show (Except.error error, []) = (Except.error (relabeling.respellError error), [])
      rw [notASchema error isSchema]
  | ok schema =>
      let retelling := Retelling.ofSpelling relabeling
      have carries : retelling.Carries (Retelling.settingFor options schema)
          (Retelling.settingFor options schema) :=
        ⟨rfl, rfl, rfl, fun _ => rfl⟩
      have finishes (draft : Draft) :
          Matches (fun error told => retelling.errors (.model error) (.model told)) id draft.finish
            (retelling.redraft draft).finish := by
        apply Matches.refl
        exact fun _ => rfl
      have same := retelling.matches_bind carries rfl fun draft _ => finishes draft
      exact Prod.ext same.1.eq_mapError same.2

/-! ## A schema in two spellings -/

/-- Two prefixes change their names. -/
def exchange (first second label : String) : String :=
  if label = first then second else if label = second then first else label

theorem exchange_exchange
    (first second label : String) :
    exchange first second (exchange first second label) = label := by
  unfold exchange
  grind

/-- The prefix of the schema language is written out. -/
def longPrefix : Relabeling where
  relabel := exchange "xs" "schema"
  injective := Function.Involutive.injective (exchange_exchange "xs" "schema")
  xml := rfl
  empty := rfl
  isLabel {label} isLabel := by
    unfold exchange
    split
    · decide
    · split
      · decide
      · exact isLabel

/-- A schema of a note, as it is written. -/
def writtenNote : WrittenDocument where
  root := ⟨⟨"xs", "schema"⟩, [⟨some "xs", schemaNamespace⟩], []⟩
  children := [
    .text "\n",
    .element ⟨⟨"xs", "complexType"⟩, [], [(⟨"", "name"⟩, "note")]⟩ [
      .element ⟨⟨"xs", "complexContent"⟩, [], []⟩ [
        .element ⟨⟨"xs", "restriction"⟩, [], [(⟨"", "base"⟩, " xs:anyType")]⟩ []]]]

/-- The same schema, with a comment and an element of another language. -/
def rewrittenNote : WrittenDocument where
  root := ⟨⟨"schema", "schema"⟩, [⟨some "schema", schemaNamespace⟩], []⟩
  children := [
    .comment "a note",
    .element ⟨⟨"schema", "complexType"⟩, [], [(⟨"", "name"⟩, "note")]⟩ [
      .element ⟨⟨"schema", "complexContent"⟩, [], []⟩ [
        .element ⟨⟨"hint", "empty"⟩, [⟨some "hint", "urn:hint"⟩], []⟩ [],
        .element ⟨⟨"schema", "restriction"⟩, [], [(⟨"", "base"⟩, " schema:anyType")]⟩ []]]]

theorem note_rewrites : longPrefix.RewritesDocument writtenNote rewrittenNote where
  root := rfl
  content := by
    refine .takeOut trivial (.putIn trivial (.keep rfl (.keep rfl (.putIn ?_ ?_) .nil) .nil))
    · rw [IsForeign]
      decide +kernel
    · exact .keep rfl .nil .nil

/-- The outline of the note. -/
def noteOutline : Outline where
  packages := ["generated"]
  classes := [⟨"Note", ⟨0⟩, none, [], [], []⟩]
  fields := []
  types := [.reference "generated" "Note"]

theorem rewrittenNote_accepted :
    ∃ document other, writtenNote.expand = some document ∧ rewrittenNote.expand = some other ∧
      (bindXml {} document).1 = .ok noteOutline ∧ (bindXml {} other).1 = .ok noteOutline := by
  have accepted : (writtenNote.expand.map fun document => (bindXml {} document).1) =
      some (.ok noteOutline) := by
    decide +kernel
  have isWellFormed : rewrittenNote.expand.isSome := by
    decide +kernel
  obtain ⟨document, expands, accepted⟩ := Option.map_eq_some_iff.1 accepted
  obtain ⟨other, otherExpands⟩ := Option.isSome_iff_exists.1 isWellFormed
  refine ⟨document, other, expands, otherExpands, accepted, ?_⟩
  rw [bindXml_of_rewrites note_rewrites expands otherExpands {}, accepted]
  rfl

end Schema
end SchemaBinding
