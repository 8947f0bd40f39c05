import Mathlib.Data.List.Induction
import SchemaBinding.Proofs.ReachedTypes
import SchemaBinding.Proofs.WrittenDocuments

/-!
# Namespaces

What a name inside an attribute value refers to by the rules of Namespaces in XML: the innermost
declaration of its prefix counts, and without a prefix the innermost default namespace, where an empty
one stands for no namespace.  The references of schemas follow these rules, except that an empty default
namespace is taken for a namespace whose name is empty.  Only there does the result differ from what the
rules say.
-/

namespace SchemaBinding
namespace Xml

/-! ## Declarations in force -/

/-- The namespace that a tag declares for a prefix, or by default; the first such declaration of a tag
counts. -/
def Tag.declared? (tag : Tag) (label : Option String) : Option String :=
  Scope.lookup? tag.declarations label

/-- Whether a namespace is in force at a place for a prefix, or by default: an element at the place or
above it declares it, and no element further in does so for the same prefix. -/
def Document.InForce (document : Document) (place : Place) (label : Option String) (uri : String) :
    Prop :=
  ∃ above spot, above <+: place ∧ document.spot.descend? above = some spot ∧
    spot.tag.declared? label = some uri ∧
    ∀ below inner, above.length < below.length → below <+: place →
      document.spot.descend? below = some inner → inner.tag.declared? label = none

/-- The scope inside an element is that around it, with the declarations of the element. -/
theorem Spot.scope_of_child?
    {spot child : Spot}
    {index : Nat}
    (isChild : spot.child? index = some child) :
    child.scope = spot.scope.enter child.tag.declarations := by
  obtain ⟨node, _, isSpot⟩ := Option.bind_eq_some_iff.1 isChild
  cases node with
  | element tag children =>
      obtain rfl := Option.some.inj isSpot
      rfl
  | text | comment | instruction => cases isSpot

namespace Document.InForce

variable {document : Document} {place : Place} {label : Option String} {uri : String}

/-- At the outermost element its own declarations are in force. -/
theorem nil_iff :
    document.InForce [] label uri ↔ document.root.declared? label = some uri := by
  constructor
  · rintro ⟨above, spot, within, isSpot, declared, _⟩
    obtain rfl := List.prefix_nil.1 within
    obtain rfl := Option.some.inj isSpot
    exact declared
  · intro declared
    refine ⟨[], document.spot, List.prefix_rfl, rfl, declared, fun below _ longer within => ?_⟩
    rw [List.prefix_nil.1 within] at longer
    exact absurd longer (Nat.lt_irrefl 0)

/-- Inside an element the declarations of the element hide those around it. -/
theorem concat_iff
    {child : Spot}
    {index : Nat}
    (isChild : document.spot.descend? (place ++ [index]) = some child) :
    document.InForce (place ++ [index]) label uri ↔
      child.tag.declared? label = some uri ∨
        child.tag.declared? label = none ∧ document.InForce place label uri := by
  constructor
  · rintro ⟨above, spot, within, isSpot, declared, hidden⟩
    rcases List.prefix_concat_iff.1 within with rfl | within
    · obtain rfl := Option.some.inj (isSpot.symm.trans isChild)
      exact .inl declared
    · have shorter : above.length < (place ++ [index]).length := by
        rw [List.length_append, List.length_singleton]
        exact Nat.lt_succ_of_le within.length_le
      exact .inr ⟨hidden _ child shorter List.prefix_rfl isChild, above, spot, within, isSpot,
        declared, fun below inner longer isWithin =>
          hidden below inner longer (isWithin.trans (List.prefix_append _ _))⟩
  · rintro (declared | ⟨undeclared, above, spot, within, isSpot, declared, hidden⟩)
    · refine ⟨_, child, List.prefix_rfl, isChild, declared, fun below _ longer within => ?_⟩
      exact absurd longer (Nat.not_lt_of_le within.length_le)
    · refine ⟨above, spot, within.trans (List.prefix_append _ _), isSpot, declared, ?_⟩
      intro below inner longer isWithin isInner
      rcases List.prefix_concat_iff.1 isWithin with rfl | isWithin
      · rwa [Option.some.inj (isInner.symm.trans isChild)]
      · exact hidden below inner longer isWithin isInner

end Document.InForce

/-- The scope of an element holds what is in force at its place. -/
theorem Document.lookup?_eq_some_iff
    (document : Document)
    {place : Place}
    {spot : Spot}
    (isSpot : document.spot.descend? place = some spot)
    {label : Option String}
    {uri : String} :
    spot.scope.lookup? label = some uri ↔ document.InForce place label uri := by
  -- Along the way down, from the outermost element to the place.
  induction place using List.reverseRecOn generalizing spot with
  | nil =>
      obtain rfl := Option.some.inj isSpot
      have scope : document.spot.scope = Scope.enter [] document.root.declarations := rfl
      rw [InForce.nil_iff, scope, Scope.lookup?_enter]
      exact iff_of_eq (congrArg (· = some uri) Option.or_none)
  | append_singleton place index inductionHypothesis =>
      rw [InForce.concat_iff isSpot]
      rw [Spot.descend?_append] at isSpot
      obtain ⟨around, isAround, isChild⟩ := Option.bind_eq_some_iff.1 isSpot
      have isChild : around.child? index = some spot := by
        simpa [Spot.descend?] using isChild
      rw [Spot.scope_of_child? isChild, Scope.lookup?_enter, ← inductionHypothesis isAround,
        Option.or_eq_some_iff]
      rfl

end Xml

namespace Schema

open Xml (Place Spot)

/-! ## References -/

/-- What a text refers to at a place by the rules of Namespaces in XML. -/
inductive Denotes (document : Xml.Document) (place : Place) : List Char → ExpandedName → Prop
  /-- The prefix `xml` stands for the namespace of XML. -/
  | xml {after : List Char} :
      Denotes document place ("xml".toList ++ ':' :: after) ⟨some Xml.xmlNamespace, .ofList after⟩
  /-- Any other prefix stands for the namespace that is in force for it. -/
  | labelled {label after : List Char} {uri : String} (noColon : ':' ∉ label)
      (notXml : label ≠ "xml".toList) (inForce : document.InForce place (some (.ofList label)) uri) :
      Denotes document place (label ++ ':' :: after) ⟨some uri, .ofList after⟩
  /-- A name without a prefix is in the default namespace. -/
  | default {text : List Char} {uri : String} (noColon : ':' ∉ text)
      (inForce : document.InForce place none uri) (nonempty : uri ≠ "") :
      Denotes document place text ⟨some uri, .ofList text⟩
  /-- A name without a prefix is in no namespace if there is no default namespace or an empty one. -/
  | unqualified {text : List Char} (noColon : ':' ∉ text)
      (noDefault : ∀ uri, document.InForce place none uri → uri = "") :
      Denotes document place text ⟨none, .ofList text⟩

/-- The text of a reference, without the blanks around it. -/
def referenceText (source : String) : List Char :=
  Text.trimWhile Text.isBlank source.toList

section References

variable {document : Xml.Document} {place : Place} {spot : Spot} {source : String}

theorem resolveName_of_noColon
    {scope : Xml.Scope}
    (noColon : ':' ∉ referenceText source) :
    resolveName scope source = .ok ⟨scope.lookup? none, .ofList (referenceText source)⟩ := by
  have found : splitAtColon (referenceText source) = none :=
    Relabeling.splitAtColon_eq_none_iff.2 noColon
  unfold referenceText at found
  unfold resolveName
  simp only [found]
  rfl

theorem resolveName_of_colon
    {scope : Xml.Scope}
    {label after : List Char}
    (noColon : ':' ∉ label)
    (split : referenceText source = label ++ ':' :: after) :
    resolveName scope source =
      if label = "xml".toList then .ok ⟨some Xml.xmlNamespace, .ofList after⟩
      else (scope.lookup? (some (.ofList label))).elim (.error (.prefixNotResolved (.ofList label)))
        fun uri => .ok ⟨some uri, .ofList after⟩ := by
  have found : splitAtColon (referenceText source) = some (label, after) :=
    Relabeling.splitAtColon_eq_some_iff.2 ⟨noColon, split⟩
  have isXml : String.ofList label = "xml" ↔ label = "xml".toList :=
    ⟨fun same => by rw [← same, String.toList_ofList],
      fun same => by rw [same, String.ofList_toList]⟩
  unfold referenceText at found
  unfold resolveName
  simp only [found, isXml]
  split
  · rfl
  · cases scope.lookup? (some (.ofList label)) <;> rfl

/-- A text is refused only for a prefix that nothing is in force for. -/
theorem resolveName_eq_error_iff
    (isElement : document.spot.descend? place = some spot)
    {error : SchemaError} :
    resolveName spot.scope source = .error error ↔
      ∃ label after, referenceText source = label ++ ':' :: after ∧ ':' ∉ label ∧
        label ≠ "xml".toList ∧ (∀ uri, ¬document.InForce place (some (.ofList label)) uri) ∧
        error = .prefixNotResolved (.ofList label) := by
  have unresolved_iff : ∀ {label}, spot.scope.lookup? label = none ↔
      ∀ uri, ¬document.InForce place label uri := by
    intro label
    rw [Option.eq_none_iff_forall_ne_some]
    exact forall_congr' fun uri => not_congr (document.lookup?_eq_some_iff isElement)
  constructor
  · intro refused
    by_cases hasColon : ':' ∈ referenceText source
    · obtain ⟨label, after, split, noColon⟩ := List.eq_append_cons_of_mem hasColon
      rw [resolveName_of_colon noColon split] at refused
      split_ifs at refused with isXml
      cases found : spot.scope.lookup? (some (.ofList label)) with
      | some uri =>
          rw [found] at refused
          cases refused
      | none =>
          rw [found, Option.elim_none, Except.error.injEq] at refused
          exact ⟨label, after, split, noColon, isXml, unresolved_iff.1 found, refused.symm⟩
    · rw [resolveName_of_noColon hasColon] at refused
      cases refused
  · rintro ⟨label, after, split, noColon, notXml, undeclared, rfl⟩
    rw [resolveName_of_colon noColon split, if_neg notXml, unresolved_iff.2 undeclared]
    rfl

/-- A name with a prefix is what the rules say. -/
theorem resolveName_eq_ok_iff_of_colon
    (isElement : document.spot.descend? place = some spot)
    (hasColon : ':' ∈ referenceText source)
    {name : ExpandedName} :
    resolveName spot.scope source = .ok name ↔ Denotes document place (referenceText source) name := by
  obtain ⟨label, after, split, noColon⟩ := List.eq_append_cons_of_mem hasColon
  rw [resolveName_of_colon noColon split]
  constructor
  · intro resolved
    rw [split]
    split_ifs at resolved with isXml
    · obtain rfl := Except.ok.inj resolved
      rw [isXml]
      exact .xml
    · cases found : spot.scope.lookup? (some (.ofList label)) with
      | none =>
          rw [found] at resolved
          cases resolved
      | some uri =>
          rw [found] at resolved
          obtain rfl := Except.ok.inj resolved
          exact .labelled noColon isXml ((document.lookup?_eq_some_iff isElement).1 found)
  · -- The text has one first colon, so that the rules see the same prefix.
    have same : ∀ {other rest}, ':' ∉ other → referenceText source = other ++ ':' :: rest →
        other = label ∧ rest = after := by
      intro other rest otherColon otherSplit
      have first := Relabeling.splitAtColon_eq_some_iff.2 ⟨noColon, split⟩
      have second := Relabeling.splitAtColon_eq_some_iff.2 ⟨otherColon, otherSplit⟩
      exact Prod.mk.inj (Option.some.inj (second.symm.trans first))
    generalize referenceText source = text at hasColon same ⊢
    intro denotes
    cases denotes with
    | xml =>
        obtain ⟨isXml, rfl⟩ := same (by decide) rfl
        rw [if_pos isXml.symm]
    | labelled otherColon notXml inForce =>
        obtain ⟨rfl, rfl⟩ := same otherColon rfl
        rw [if_neg notXml, (document.lookup?_eq_some_iff isElement).2 inForce]
        rfl
    | default absent | unqualified absent => exact absurd hasColon absent

/-- A name without a prefix is what the rules say, unless the default namespace in force is empty. -/
theorem resolveName_eq_ok_iff_of_noColon
    (isElement : document.spot.descend? place = some spot)
    (noColon : ':' ∉ referenceText source)
    (notEmpty : ¬document.InForce place none "")
    {name : ExpandedName} :
    resolveName spot.scope source = .ok name ↔ Denotes document place (referenceText source) name := by
  have inForce_iff : ∀ {uri}, spot.scope.lookup? none = some uri ↔ document.InForce place none uri :=
    document.lookup?_eq_some_iff isElement
  rw [resolveName_of_noColon noColon, Except.ok.injEq]
  constructor
  · rintro rfl
    cases found : spot.scope.lookup? none with
    | none =>
        refine .unqualified noColon fun uri inForce => ?_
        rw [inForce_iff.2 inForce] at found
        cases found
    | some uri =>
        refine .default noColon (inForce_iff.1 found) fun empty => notEmpty ?_
        exact empty ▸ inForce_iff.1 found
  · generalize referenceText source = text at noColon ⊢
    intro denotes
    cases denotes with
    | xml | labelled => simp at noColon
    | default _ inForce => rw [inForce_iff.2 inForce]
    | unqualified _ noDefault =>
        cases found : spot.scope.lookup? none with
        | none => rfl
        | some uri =>
            have inForce := inForce_iff.1 found
            exact absurd (noDefault uri inForce ▸ inForce) notEmpty

/-- A name without a prefix is in an empty namespace where the default namespace in force is empty,
although by the rules it is in none. -/
theorem resolveName_of_emptyDefault
    (isElement : document.spot.descend? place = some spot)
    (noColon : ':' ∉ referenceText source)
    (isEmpty : document.InForce place none "") :
    resolveName spot.scope source = .ok ⟨some "", .ofList (referenceText source)⟩ ∧
      Denotes document place (referenceText source) ⟨none, .ofList (referenceText source)⟩ := by
  have found := (document.lookup?_eq_some_iff isElement).2 isEmpty
  constructor
  · rw [resolveName_of_noColon noColon, found]
  · refine .unqualified noColon fun uri inForce => ?_
    rw [(document.lookup?_eq_some_iff isElement).2 inForce] at found
    exact Option.some.inj found

/-- In a schema without a target namespace a name without a prefix can refer to what the schema declares
only where no default namespace is in force, not even an empty one. -/
theorem declaresName_iff_of_noTarget
    (isElement : document.spot.descend? place = some spot)
    (noTarget : document.root.attribute? "targetNamespace" = none)
    (noColon : ':' ∉ referenceText source)
    {name : ExpandedName}
    (resolved : resolveName spot.scope source = .ok name)
    {construct : String}
    {index : Nat}
    {declaration : Spot} :
    DeclaresName document construct name index declaration ↔
      (∀ uri, ¬document.InForce place none uri) ∧ document.spot.child? index = some declaration ∧
        constructOf? declaration.tag = some construct ∧
        declaration.tag.attribute? "name" = some (.ofList (referenceText source)) := by
  have noDefault_iff : spot.scope.lookup? none = none ↔ ∀ uri, ¬document.InForce place none uri := by
    rw [Option.eq_none_iff_forall_ne_some]
    exact forall_congr' fun uri => not_congr (document.lookup?_eq_some_iff isElement)
  rw [resolveName_of_noColon noColon] at resolved
  obtain rfl := Except.ok.inj resolved
  rw [← noDefault_iff]
  constructor
  · exact fun declares => ⟨declares.namespaceName.trans noTarget, declares.isChild,
      declares.construct, declares.localName⟩
  · rintro ⟨noDefault, isChild, isConstruct, named⟩
    exact ⟨isChild, isConstruct, noDefault.trans noTarget.symm, named⟩

/-- References follow the rules of Namespaces in XML: a prefix is refused exactly if nothing is in force
for it, and otherwise the result is what the rules say, except for a name without a prefix where the
default namespace in force is empty.  There the name is in a namespace whose name is empty, and not in
no namespace; so in a schema without a target namespace such names refer to what the schema declares
exactly where no default namespace is in force. -/
theorem references_follow_namespaces
    (isElement : document.spot.descend? place = some spot)
    (source : String) :
    let text := referenceText source
    (∀ error, resolveName spot.scope source = .error error ↔
      ∃ label after, text = label ++ ':' :: after ∧ ':' ∉ label ∧ label ≠ "xml".toList ∧
        (∀ uri, ¬document.InForce place (some (.ofList label)) uri) ∧
        error = .prefixNotResolved (.ofList label)) ∧
    (':' ∈ text ∨ ¬document.InForce place none "" →
      ∀ name, resolveName spot.scope source = .ok name ↔ Denotes document place text name) ∧
    (':' ∉ text → document.InForce place none "" →
      resolveName spot.scope source = .ok ⟨some "", .ofList text⟩ ∧
        Denotes document place text ⟨none, .ofList text⟩) ∧
    (':' ∉ text → document.root.attribute? "targetNamespace" = none →
      ∃ name, resolveName spot.scope source = .ok name ∧ ∀ construct index declaration,
        DeclaresName document construct name index declaration ↔
          (∀ uri, ¬document.InForce place none uri) ∧
            document.spot.child? index = some declaration ∧
            constructOf? declaration.tag = some construct ∧
            declaration.tag.attribute? "name" = some (.ofList text)) := by
  refine ⟨fun error => resolveName_eq_error_iff isElement, fun regular name => ?_,
    resolveName_of_emptyDefault isElement, fun noColon noTarget => ?_⟩
  · by_cases hasColon : ':' ∈ referenceText source
    · exact resolveName_eq_ok_iff_of_colon isElement hasColon
    · exact resolveName_eq_ok_iff_of_noColon isElement hasColon (regular.resolve_left hasColon)
  · have resolved : resolveName spot.scope source =
        .ok ⟨spot.scope.lookup? none, .ofList (referenceText source)⟩ :=
      resolveName_of_noColon noColon
    exact ⟨_, resolved, fun construct index declaration =>
      declaresName_iff_of_noTarget isElement noTarget noColon resolved⟩

end References

/-- A schema without a target namespace, with given declarations of namespaces, where one type is derived
from another one by a name without a prefix. -/
def plainSchema (declarations : List Xml.NamespaceDeclaration) : Xml.Document where
  root := ⟨schemaName "schema", ⟨some "s", schemaNamespace⟩ :: declarations, []⟩
  children := [
    schemaNode "complexType" [("name", "Shoe")] [],
    schemaNode "complexType" [("name", "Boot")] [
      schemaNode "complexContent" [] [schemaNode "extension" [("base", " Shoe")] []]]]

/-- The outline of the schema. -/
def plainOutline : Outline where
  packages := ["generated"]
  classes := [⟨"Shoe", ⟨0⟩, none, [], [], []⟩, ⟨"Boot", ⟨0⟩, none, [], [⟨0⟩], []⟩]
  fields := []
  types := [.reference "generated" "Shoe", .reference "generated" "Boot"]

/-- Without a default namespace the base is in no namespace, as the type is. -/
theorem plain_reference :
    ∃ spot, (plainSchema []).spot.descend? [1, 0, 0] = some spot ∧
      resolveName spot.scope " Shoe" = .ok ⟨none, "Shoe"⟩ ∧
      Denotes (plainSchema []) [1, 0, 0] "Shoe".toList ⟨none, "Shoe"⟩ ∧
      ∃ declaration, DeclaresName (plainSchema []) "complexType" ⟨none, "Shoe"⟩ 0 declaration := by
  obtain ⟨spot, isElement, scope⟩ :
      ∃ spot, (plainSchema []).spot.descend? [1, 0, 0] = some spot ∧
        spot.scope = [⟨some "s", schemaNamespace⟩] :=
    ⟨_, rfl, rfl⟩
  obtain ⟨_, regular, _, own⟩ := references_follow_namespaces isElement " Shoe"
  have resolved : resolveName spot.scope " Shoe" = .ok ⟨none, "Shoe"⟩ := by
    rw [scope]
    rfl
  have noDefault : ∀ uri, ¬(plainSchema []).InForce [1, 0, 0] none uri := by
    intro uri inForce
    have undeclared : spot.scope.lookup? none = none := by
      rw [scope]
      rfl
    rw [← Xml.Document.lookup?_eq_some_iff _ isElement, undeclared] at inForce
    cases inForce
  obtain ⟨name, isName, declares_iff⟩ := own (by decide) rfl
  obtain rfl := Except.ok.inj (resolved.symm.trans isName)
  exact ⟨spot, isElement, resolved, (regular (.inr (noDefault "")) _).1 resolved, _,
    (declares_iff _ _ _).2 ⟨noDefault, rfl, rfl, rfl⟩⟩

/-- With an empty default namespace the base is in a namespace with an empty name, although by the rules
it is in no namespace.  This hides the type, and the schema is refused. -/
theorem plain_emptyDefault :
    (bindXml {} (plainSchema [])).1 = .ok plainOutline ∧
      (∀ outline, (bindXml {} (plainSchema [⟨none, ""⟩])).1 ≠ .ok outline) ∧
      ∃ spot, (plainSchema [⟨none, ""⟩]).spot.descend? [1, 0, 0] = some spot ∧
        Denotes (plainSchema [⟨none, ""⟩]) [1, 0, 0] (referenceText " Shoe") ⟨none, "Shoe"⟩ ∧
        resolveName spot.scope " Shoe" = .ok ⟨some "", "Shoe"⟩ := by
  obtain ⟨type, isChild, isComplex, content, isContent, derives, index, spot, first, isElement, given,
      scope⟩ :
      ∃ type, (plainSchema [⟨none, ""⟩]).spot.child? 1 = some type ∧
        constructOf? type.tag = some "complexType" ∧ ∃ content, type.child? 0 = some content ∧
        constructOf? content.tag = some "complexContent" ∧
        ∃ index spot, firstDerivation? content = some (index, spot) ∧
          (plainSchema [⟨none, ""⟩]).spot.descend? [1, 0, 0] = some spot ∧
          baseAt spot = .ok ⟨some "", "Shoe"⟩ ∧
          spot.scope = [⟨some "s", schemaNamespace⟩, ⟨none, ""⟩] :=
    ⟨_, rfl, rfl, _, rfl, rfl, _, _, rfl, rfl, rfl, rfl⟩
  have isEmpty : (plainSchema [⟨none, ""⟩]).InForce [1, 0, 0] none "" := by
    rw [← Xml.Document.lookup?_eq_some_iff _ isElement, scope]
    rfl
  obtain ⟨resolved, denotes⟩ : resolveName spot.scope " Shoe" =
      .ok ⟨some "", .ofList (referenceText " Shoe")⟩ ∧ _ :=
    resolveName_of_emptyDefault isElement (by decide) isEmpty
  refine ⟨by decide +kernel, fun outline accepted => ?_, spot, isElement, denotes, resolved⟩
  obtain ⟨portraits, describes, _⟩ := depicts_of_accepted accepted
  have mapped : Mapped type ⟨[0, index], .complexBase, [], spot⟩ :=
    .complexBase .itself isContent derives first
  obtain ⟨base, kind, isBase, isKind⟩ :=
    describes.exists_base (.complexType isChild isComplex) mapped (.inl rfl)
  obtain rfl := Except.ok.inj (given.symm.trans isBase)
  obtain ⟨found, isFound⟩ := exists_resolveType_of_resolveBase isKind
  rw [Globals.resolveType, resolveUse_of_undeclared (by rfl)] at isFound
  cases isFound

end Schema
end SchemaBinding
