import Mathlib.Data.List.Forall2
import SchemaBinding.Proofs.Faults
import SchemaBinding.Proofs.Registration

/-!
# Spelling

The same schema may be written in many ways.  Prefixes may have other names, and text, comments,
instructions and elements of other languages may stand anywhere.  What is read from an element is
shown to be the same in every spelling, apart from the prefix that a fault names.
-/

namespace SchemaBinding
namespace Schema

open Xml (Spot Scope)

/-! ## Prefixes -/

/-- Whether a text can stand before the colon of a name. -/
def IsLabel (label : String) : Prop :=
  ':' ∉ label.toList ∧ label.toList.head?.all (!Text.isBlank ·)

instance (label : String) : Decidable (IsLabel label) :=
  inferInstanceAs (Decidable (_ ∧ _))

/-- Other names for prefixes.  Different prefixes remain different, and `xml` keeps its name. -/
structure Relabeling where
  /-- The other name of a prefix. -/
  relabel : String → String
  injective : Function.Injective relabel
  xml : relabel "xml" = "xml"
  empty : relabel "" = ""
  isLabel : ∀ {label}, IsLabel label → IsLabel (relabel label)

namespace Relabeling

variable (relabeling : Relabeling)

/-- A name inside an attribute value, with the other name for its prefix. -/
def respell (name : String) : String :=
  match splitAtColon (name.toList.dropWhile Text.isBlank) with
  | none => name
  | some (before, after) =>
      .ofList (name.toList.takeWhile Text.isBlank ++
        ((relabeling.relabel (.ofList before)).toList ++ ':' :: after))

/-- An error, with the other name for the prefix that it names. -/
def respellError : SchemaError → SchemaError
  | .prefixNotResolved label => .prefixNotResolved (relabeling.relabel label)
  | error => error

/-- Whether the prefixes in force at one place stand for the same under their other names at
another. -/
def Translates (scope other : Scope) : Prop :=
  ∀ label : Option String, other.lookup? (label.map relabeling.relabel) = scope.lookup? label

variable {relabeling}

/-! ### Names inside attribute values -/

theorem splitAtColon_eq_none_iff
    {text : List Char} :
    splitAtColon text = none ↔ ':' ∉ text := by
  fun_induction splitAtColon text with
  | case1 => simp
  | case2 => simp
  | case3 c rest noColon inductionHypothesis =>
      rw [Option.map_eq_none_iff, inductionHypothesis, List.mem_cons, not_or]
      exact ⟨fun absent => ⟨fun same => noColon same.symm, absent⟩, And.right⟩

theorem splitAtColon_eq_some_iff
    {text before after : List Char} :
    splitAtColon text = some (before, after) ↔ ':' ∉ before ∧ text = before ++ ':' :: after := by
  fun_induction splitAtColon text generalizing before with
  | case1 => simp
  | case2 rest =>
      cases before with
      | nil => simp
      | cons c before =>
          rw [List.cons_append, List.cons.injEq, List.mem_cons, not_or]
          refine iff_of_false (fun same => ?_) fun split => split.1.1 split.2.1
          cases same
  | case3 c rest noColon inductionHypothesis =>
      rw [Option.map_eq_some_iff]
      constructor
      · rintro ⟨⟨first, second⟩, found, same⟩
        obtain ⟨rfl, rfl⟩ := Prod.mk.inj same
        obtain ⟨absent, rfl⟩ := inductionHypothesis.1 found
        exact ⟨List.not_mem_cons_of_ne_of_not_mem (fun same => noColon same.symm) absent, rfl⟩
      · rintro ⟨absent, same⟩
        cases before with
        | nil => exact absurd (List.cons.inj same).1 noColon
        | cons first before =>
            obtain ⟨rfl, rfl⟩ := List.cons.inj same
            exact ⟨_, inductionHypothesis.2 ⟨List.not_mem_of_not_mem_cons absent, rfl⟩, rfl⟩

theorem dropEndWhile_append_cons
    {test : Char → Bool}
    {c : Char}
    (stops : test c = false)
    (before after : List Char) :
    Text.dropEndWhile test (before ++ c :: after) =
      before ++ c :: Text.dropEndWhile test after := by
  unfold Text.dropEndWhile
  rw [List.reverse_append, List.reverse_cons, List.append_assoc, List.dropWhile_append]
  split
  next isEmpty =>
    rw [List.isEmpty_iff.1 isEmpty]
    simp [stops]
  next => simp

theorem mem_of_mem_dropEndWhile
    {test : Char → Bool}
    {text : List Char}
    {c : Char}
    (member : c ∈ Text.dropEndWhile test text) :
    c ∈ text := by
  unfold Text.dropEndWhile at member
  exact List.mem_reverse.1 ((List.dropWhile_suffix test).subset (List.mem_reverse.1 member))

theorem trimWhile_of_dropWhile
    {test : Char → Bool}
    {text before after : List Char}
    {c : Char}
    (stops : test c = false)
    (split : text.dropWhile test = before ++ c :: after) :
    Text.trimWhile test text = before ++ c :: Text.dropEndWhile test after := by
  rw [Text.trimWhile, split, dropEndWhile_append_cons stops]

/-- What a name resolves to if its text, without blanks, is split at a colon. -/
theorem resolveName_of_split
    {scope : Scope}
    {name : String}
    {before after : List Char}
    (noColon : ':' ∉ before)
    (split : name.toList.dropWhile Text.isBlank = before ++ ':' :: after) :
    resolveName scope name =
      if String.ofList before = "xml" then
        .ok ⟨some Xml.xmlNamespace, .ofList (Text.dropEndWhile Text.isBlank after)⟩
      else
        match scope.lookup? (some (.ofList before)) with
        | some uri => .ok ⟨some uri, .ofList (Text.dropEndWhile Text.isBlank after)⟩
        | none => .error (.prefixNotResolved (.ofList before)) := by
  have trimmed := trimWhile_of_dropWhile (show Text.isBlank ':' = false by decide) split
  have found := splitAtColon_eq_some_iff.2 ⟨noColon, trimmed⟩
  unfold resolveName
  dsimp only
  split
  next missing =>
    rw [found] at missing
    cases missing
  next first second isSplit =>
    rw [found] at isSplit
    cases isSplit
    rfl

/-- The blanks before a text whose first character is not blank. -/
theorem dropWhile_takeWhile_append
    {test : Char → Bool}
    (text : List Char)
    {rest : List Char}
    (stops : rest.head?.all (!test ·)) :
    (text.takeWhile test ++ rest).dropWhile test = rest := by
  rw [List.dropWhile_append_of_pos fun c member =>
    List.all_eq_true.1 (List.all_takeWhile ..) c member]
  cases rest with
  | nil => rfl
  | cons c rest =>
      rw [List.head?_cons, Option.all_some, Bool.not_eq_true'] at stops
      rw [List.dropWhile_cons_of_neg (by simp [stops])]

/-- A name refers to the same under the other name of its prefix. -/
theorem Translates.resolveName
    {scope other : Scope}
    (translates : relabeling.Translates scope other)
    (name : String) :
    Schema.resolveName other (relabeling.respell name) =
      (Schema.resolveName scope name).mapError relabeling.respellError := by
  unfold respell
  split
  next noColon =>
    have absent := splitAtColon_eq_none_iff.1 noColon
    have found : splitAtColon (Text.trimWhile Text.isBlank name.toList) = none :=
      splitAtColon_eq_none_iff.2 fun member => absent (mem_of_mem_dropEndWhile member)
    unfold Schema.resolveName
    simp only [found]
    rw [← translates none]
    rfl
  next before after isSplit =>
    obtain ⟨noColon, split⟩ := splitAtColon_eq_some_iff.1 isSplit
    have isLabel : IsLabel (.ofList before) := by
      refine ⟨by rwa [String.toList_ofList], ?_⟩
      have starts := List.head?_dropWhile_not Text.isBlank name.toList
      rw [split] at starts
      rw [String.toList_ofList]
      cases before with
      | nil => rfl
      | cons c before => simpa using starts
    obtain ⟨otherColon, starts⟩ := relabeling.isLabel isLabel
    have otherSplit : (String.ofList (name.toList.takeWhile Text.isBlank ++
        ((relabeling.relabel (.ofList before)).toList ++ ':' :: after))).toList.dropWhile
          Text.isBlank = (relabeling.relabel (.ofList before)).toList ++ ':' :: after := by
      rw [String.toList_ofList]
      apply dropWhile_takeWhile_append
      cases chars : (relabeling.relabel (.ofList before)).toList with
      | nil => rfl
      | cons c rest => simpa [chars] using starts
    rw [resolveName_of_split noColon split, resolveName_of_split otherColon otherSplit,
      String.ofList_toList]
    have isXml : relabeling.relabel (.ofList before) = "xml" ↔ String.ofList before = "xml" :=
      ⟨fun same => relabeling.injective (same.trans relabeling.xml.symm),
        fun same => same ▸ relabeling.xml⟩
    have uri := translates (some (.ofList before))
    rw [Option.map_some] at uri
    simp only [isXml, uri]
    split
    · rfl
    · cases scope.lookup? (some (.ofList before)) <;> rfl

end Relabeling

/-! ## Elements -/

/-- The attributes whose values are names with prefixes. -/
def referenceAttributes : List String :=
  ["type", "base", "ref", "itemType"]

/-- The elements of the schema language directly inside an element, each with its position. -/
def constructs (spot : Spot) : List (Nat × Spot) :=
  spot.children.filter fun child => (constructOf? child.2.tag).isSome

namespace Relabeling

section Tags

variable (relabeling : Relabeling)

/-- A declaration of a namespace, for the other name of its prefix. -/
def respellNamespace (declaration : Xml.NamespaceDeclaration) : Xml.NamespaceDeclaration :=
  { declaration with label := declaration.label.map relabeling.relabel }

/-- An attribute, with the other name for the prefix in its value if the value is a name. -/
def respellAttribute (found : Xml.Attribute) : Xml.Attribute :=
  if found.name.namespaceName = none ∧ found.name.localName ∈ referenceAttributes then
    { found with value := relabeling.respell found.value }
  else found

/-- A tag with other names for prefixes. -/
def respellTag (tag : Xml.Tag) : Xml.Tag where
  name := tag.name
  declarations := tag.declarations.map relabeling.respellNamespace
  attributes := tag.attributes.map relabeling.respellAttribute

/-- Whether one element is written like another one, with other names for prefixes and with anything
else between the elements of the schema language. -/
inductive Respells : Spot → Spot → Prop
  /-- The tags are those of the other element, and so are the elements inside it. -/
  | intro {spot other : Spot} (scope : relabeling.Translates spot.scope other.scope)
      (tag : other.tag = relabeling.respellTag spot.tag)
      (inside : List.Forall₂ (fun child image => Respells child.2 image.2) (constructs spot)
        (constructs other)) :
      Respells spot other

end Tags

variable {relabeling : Relabeling}

theorem name_respellAttribute
    (found : Xml.Attribute) :
    (relabeling.respellAttribute found).name = found.name := by
  unfold respellAttribute
  split <;> rfl

/-- The value of an attribute is kept, or the name in it has another prefix. -/
theorem attribute?_respellTag
    (tag : Xml.Tag)
    (attributeName : String) :
    (relabeling.respellTag tag).attribute? attributeName = (tag.attribute? attributeName).map
      fun value =>
        if attributeName ∈ referenceAttributes then relabeling.respell value else value := by
  unfold Xml.Tag.attribute? respellTag
  rw [List.find?_map]
  simp only [Function.comp_def, name_respellAttribute]
  cases isFound : tag.attributes.find? fun found => found.name = ⟨none, attributeName⟩ with
  | none => rfl
  | some found =>
      have named : found.name = ⟨none, attributeName⟩ := by
        simpa using List.find?_some isFound
      simp only [Option.map_some, respellAttribute, named, true_and]
      split <;> rfl

namespace Respells

variable {spot other : Spot}

theorem scope
    (respells : relabeling.Respells spot other) :
    relabeling.Translates spot.scope other.scope := by
  cases respells
  assumption

theorem tag_eq
    (respells : relabeling.Respells spot other) :
    other.tag = relabeling.respellTag spot.tag := by
  cases respells
  assumption

theorem constructs
    (respells : relabeling.Respells spot other) :
    List.Forall₂ (fun child image => relabeling.Respells child.2 image.2) (Schema.constructs spot)
      (Schema.constructs other) := by
  cases respells
  assumption

theorem constructOf?_eq
    (respells : relabeling.Respells spot other) :
    constructOf? other.tag = constructOf? spot.tag := by
  rw [respells.tag_eq]
  rfl

theorem localName_eq
    (respells : relabeling.Respells spot other) :
    other.tag.name.localName = spot.tag.name.localName := by
  rw [respells.tag_eq]
  rfl

/-- Values that are no names are kept. -/
theorem attribute?_eq
    (respells : relabeling.Respells spot other)
    {attributeName : String}
    (plain : attributeName ∉ referenceAttributes) :
    other.tag.attribute? attributeName = spot.tag.attribute? attributeName := by
  rw [respells.tag_eq, attribute?_respellTag]
  simp [plain]

theorem required_eq
    (respells : relabeling.Respells spot other)
    {attributeName : String}
    (plain : attributeName ∉ referenceAttributes) :
    required other.tag attributeName = required spot.tag attributeName := by
  unfold required
  rw [respells.attribute?_eq plain, respells.localName_eq]

theorem repeated_eq
    (respells : relabeling.Respells spot other) :
    repeated other.tag = repeated spot.tag := by
  unfold repeated
  rw [respells.attribute?_eq (by decide)]

/-- Names refer to the same. -/
theorem reference?_eq
    (respells : relabeling.Respells spot other)
    {attributeName : String}
    (isReference : attributeName ∈ referenceAttributes) :
    reference? other.scope other.tag attributeName =
      (reference? spot.scope spot.tag attributeName).map
        (Except.mapError relabeling.respellError) := by
  unfold reference?
  rw [respells.tag_eq, attribute?_respellTag, Option.map_map, Option.map_map]
  refine Option.map_congr fun name _ => ?_
  rw [Function.comp_apply, Function.comp_apply, if_pos isReference]
  exact respells.scope.resolveName name

theorem isSome_reference
    (respells : relabeling.Respells spot other)
    (attributeName : String) :
    other.tag.attribute? attributeName = none ↔ spot.tag.attribute? attributeName = none := by
  rw [respells.tag_eq, attribute?_respellTag, Option.map_eq_none_iff]

/-- The base of a derivation is the same. -/
theorem baseAt_eq
    (respells : relabeling.Respells spot other) :
    baseAt other = (baseAt spot).mapError relabeling.respellError := by
  have same := respells.reference?_eq (show "base" ∈ referenceAttributes by decide)
  unfold reference? at same
  unfold baseAt requiredReference required
  rw [respells.localName_eq]
  cases isBase : spot.tag.attribute? "base" with
  | none =>
      rw [(respells.isSome_reference "base").2 isBase]
      rfl
  | some name =>
      rw [isBase, Option.map_some, Option.map_some, Option.map_eq_some_iff] at same
      obtain ⟨otherName, isOther, resolved⟩ := same
      rw [isOther]
      exact resolved

end Respells

/-! ### The first element that stands for a construct -/

theorem first?_eq
    (wanted : List String)
    (spot : Spot) :
    first? wanted spot =
      (constructs spot).find? fun child => (constructOf? child.2.tag).any (· ∈ wanted) := by
  unfold first? constructs
  rw [List.find?_filter]
  congr 1
  funext child
  cases constructOf? child.2.tag <;> simp

theorem find?_of_forall₂
    {Source Target : Type}
    {related : Source → Target → Prop}
    {test : Source → Bool}
    {otherTest : Target → Bool}
    {sources : List Source}
    {targets : List Target}
    (same : ∀ {source target}, related source target → otherTest target = test source)
    (relates : List.Forall₂ related sources targets) :
    Option.Rel related (sources.find? test) (targets.find? otherTest) := by
  induction relates with
  | nil => exact .none
  | @cons source target _ _ isRelated _ inductionHypothesis =>
      rw [List.find?_cons, List.find?_cons, same isRelated]
      cases test source with
      | true => exact .some isRelated
      | false => exact inductionHypothesis

namespace Respells

variable {spot other : Spot}

theorem first?
    (respells : relabeling.Respells spot other)
    (wanted : List String) :
    Option.Rel (fun child image => relabeling.Respells child.2 image.2) (Schema.first? wanted spot)
      (Schema.first? wanted other) := by
  rw [first?_eq, first?_eq]
  exact find?_of_forall₂ (fun respells => by rw [respells.constructOf?_eq]) respells.constructs

theorem first?_eq_none
    (respells : relabeling.Respells spot other)
    {wanted : List String}
    (missing : Schema.first? wanted spot = none) :
    Schema.first? wanted other = none := by
  have related := respells.first? wanted
  rw [missing] at related
  generalize Schema.first? wanted other = found at related
  cases related
  rfl

theorem exists_first?
    (respells : relabeling.Respells spot other)
    {wanted : List String}
    {child : Nat × Spot}
    (isFirst : Schema.first? wanted spot = some child) :
    ∃ image, Schema.first? wanted other = some image ∧ relabeling.Respells child.2 image.2 := by
  have related := respells.first? wanted
  rw [isFirst] at related
  generalize Schema.first? wanted other = found at related
  cases related with
  | some isImage => exact ⟨_, rfl, isImage⟩

end Respells

/-! ### Uses of types -/

theorem named?_mapFaults
    (retell : SchemaError → SchemaError)
    (name : Option (Deferred ExpandedName))
    (use : TypeUse) :
    Use.named? (name.map (Except.mapError retell)) (use.mapFaults retell) =
      (Use.named? name use).mapFaults retell := by
  cases name with
  | none => rfl
  | some name => rw [Option.map_some, Use.named?, Use.named?, Use.mapFaults]

namespace Respells

variable {spot other : Spot}

/-- Whether the simple types directly inside two elements are the same. -/
def SameInside (relabeling : Relabeling) (spot other : Spot) : Prop :=
  inlineType other.scope other.content =
    (inlineType spot.scope spot.content).mapFaults relabeling.respellError

theorem derivationAt_eq
    (respells : relabeling.Respells spot other)
    (sameInside : SameInside relabeling spot other) :
    derivationAt other = (derivationAt spot).mapFaults relabeling.respellError := by
  unfold derivationAt
  rw [respells.constructOf?_eq,
    respells.reference?_eq (show "base" ∈ referenceAttributes by decide),
    respells.reference?_eq (show "itemType" ∈ referenceAttributes by decide), sameInside]
  dsimp only
  split
  · rw [named?_mapFaults, SimpleType.mapFaults]
  · split
    · rw [named?_mapFaults, SimpleType.mapFaults]
    · rfl

theorem simpleType_eq_of_sameInside
    (respells : relabeling.Respells spot other)
    (sameInside : ∀ child ∈ spot.children, ∀ image, relabeling.Respells child.2 image →
      SameInside relabeling child.2 image) :
    simpleType other.scope other.content =
      (simpleType spot.scope spot.content).mapFaults relabeling.respellError := by
  rw [Schema.simpleType_eq, Schema.simpleType_eq]
  cases isFirst : Schema.first? ["restriction", "list", "union"] spot with
  | none =>
      rw [respells.first?_eq_none isFirst]
      rfl
  | some child =>
      obtain ⟨image, isImage, inner⟩ := respells.exists_first? isFirst
      rw [isImage, Option.elim_some, Option.elim_some]
      exact inner.derivationAt_eq
        (sameInside child (mem_children_of_first? isFirst) image.2 inner)

/-- The simple type directly inside an element is the same. -/
theorem sameInside
    {spot other : Spot}
    (respells : relabeling.Respells spot other) :
    SameInside relabeling spot other := by
  unfold SameInside
  rw [Schema.inlineType_eq, Schema.inlineType_eq]
  cases isFirst : Schema.first? ["simpleType"] spot with
  | none =>
      rw [respells.first?_eq_none isFirst]
      rfl
  | some child =>
      obtain ⟨image, isImage, inner⟩ := respells.exists_first? isFirst
      rw [isImage, Option.elim_some, Option.elim_some, Use.mapFaults]
      apply congrArg Use.inline
      exact inner.simpleType_eq_of_sameInside fun further isFurther image respells =>
        respells.sameInside
termination_by sizeOf spot.content
decreasing_by
  exact Nat.lt_trans (Spot.sizeOf_content_lt isFurther)
    (Spot.sizeOf_content_lt (mem_children_of_first? isFirst))

/-- The definition of a simple type is the same. -/
theorem simpleType_eq
    (respells : relabeling.Respells spot other) :
    simpleType other.scope other.content =
      (simpleType spot.scope spot.content).mapFaults relabeling.respellError :=
  respells.simpleType_eq_of_sameInside fun _ _ _ inner => inner.sameInside

/-- The type of an element or attribute is given in the same way. -/
theorem typeUse_eq
    (respells : relabeling.Respells spot other) :
    typeUse other.scope other.tag other.content =
      (typeUse spot.scope spot.tag spot.content).mapFaults relabeling.respellError := by
  unfold typeUse
  rw [respells.reference?_eq (show "type" ∈ referenceAttributes by decide), respells.sameInside,
    named?_mapFaults]

end Respells

/-! ### Content of complex types -/

theorem mapError_required
    (tag : Xml.Tag)
    (attributeName : String) :
    (required tag attributeName).mapError relabeling.respellError = required tag attributeName := by
  unfold required
  cases tag.attribute? attributeName <;> rfl

theorem mapError_repeated
    (tag : Xml.Tag) :
    (repeated tag).mapError relabeling.respellError = repeated tag := by
  unfold repeated
  cases tag.attribute? "maxOccurs" with
  | none => rfl
  | some bound =>
      dsimp only
      unfold allowsMany
      dsimp only
      split
      · rfl
      · split
        · split <;> rfl
        · rfl

/-- Elements of other languages do not count if nothing is read from them. -/
theorem flatMap_constructs
    {Part : Type}
    {parts : Spot → List Part}
    (foreign : ∀ child : Spot, constructOf? child.tag = none → parts child = [])
    (spot : Spot) :
    (spot.children.flatMap fun child => parts child.2) =
      (constructs spot).flatMap fun child => parts child.2 := by
  unfold constructs
  induction spot.children with
  | nil => rfl
  | cons child rest inductionHypothesis =>
      rw [List.flatMap_cons, inductionHypothesis, List.filter_cons]
      cases construct : constructOf? child.2.tag with
      | none => rw [foreign child.2 construct, if_neg (by simp), List.nil_append]
      | some name => rw [if_pos (by simp), List.flatMap_cons]

theorem flatMap_eq_map_of_forall₂
    {Source Target Part Image : Type}
    {related : Source → Target → Prop}
    {parts : Source → List Part}
    {otherParts : Target → List Image}
    {change : Part → Image}
    {sources : List Source}
    {targets : List Target}
    (relates : List.Forall₂ related sources targets)
    (each : ∀ source ∈ sources, ∀ target, related source target →
      otherParts target = (parts source).map change) :
    targets.flatMap otherParts = (sources.flatMap parts).map change := by
  induction relates with
  | nil => rfl
  | @cons source target _ _ isRelated _ inductionHypothesis =>
      rw [List.forall_mem_cons] at each
      rw [List.flatMap_cons, List.flatMap_cons, List.map_append, each.1 target isRelated,
        inductionHypothesis each.2]

namespace Respells

variable {spot other : Spot}

/-- What is read from the elements inside two elements is the same if it is for each of them. -/
theorem flatMap_children
    {Part : Type}
    {parts : Spot → List Part}
    {change : Part → Part}
    (respells : relabeling.Respells spot other)
    (foreign : ∀ child : Spot, constructOf? child.tag = none → parts child = [])
    (each : ∀ child ∈ spot.children, ∀ image, relabeling.Respells child.2 image →
      parts image = (parts child.2).map change) :
    (other.children.flatMap fun child => parts child.2) =
      (spot.children.flatMap fun child => parts child.2).map change := by
  rw [flatMap_constructs foreign, flatMap_constructs foreign]
  refine flatMap_eq_map_of_forall₂ respells.constructs fun child isChild image inner => ?_
  exact each child (List.mem_filter.1 isChild).1 image.2 inner

theorem isGroup_iff
    (respells : relabeling.Respells spot other) :
    IsGroup other.tag ↔ IsGroup spot.tag := by
  unfold IsGroup
  rw [respells.constructOf?_eq]

theorem isPassedOver_iff
    (respells : relabeling.Respells spot other)
    (names : List String) :
    IsPassedOver names other.tag ↔ IsPassedOver names spot.tag := by
  unfold IsPassedOver
  rw [respells.constructOf?_eq]

/-- An attribute is the same in every spelling. -/
theorem attributesAt_eq
    (respells : relabeling.Respells spot other) :
    attributesAt other =
      (attributesAt spot).map (AttributeItem.mapFaults relabeling.respellError) := by
  unfold attributesAt attributeItems
  rw [respells.attribute?_eq (show "use" ∉ referenceAttributes by decide),
    respells.reference?_eq (show "ref" ∈ referenceAttributes by decide),
    respells.required_eq (show "name" ∉ referenceAttributes by decide), respells.typeUse_eq]
  split
  · rfl
  · cases reference? spot.scope spot.tag "ref" with
    | some name => rfl
    | none =>
        rw [List.map_singleton, AttributeItem.mapFaults, mapError_required]
        rfl

/-- What an extension by simple content adds is the same in every spelling. -/
theorem added_eq
    (respells : relabeling.Respells spot other) :
    other.content.flatMap (addedAttribute other.scope) =
      (spot.content.flatMap (addedAttribute spot.scope)).map
        (AttributeItem.mapFaults relabeling.respellError) := by
  rw [Schema.added_eq, Schema.added_eq]
  apply respells.flatMap_children
  · exact fun child foreign => by simp [addedAt, IsPassedOver, foreign]
  · intro child _ image inner
    unfold addedAt
    rw [inner.constructOf?_eq, if_congr (inner.isPassedOver_iff _) rfl rfl, inner.attributesAt_eq,
      inner.localName_eq]
    split
    · rfl
    · split <;> rfl

theorem simpleContentAt_eq
    (respells : relabeling.Respells spot other) :
    simpleContentAt other = (simpleContentAt spot).mapFaults relabeling.respellError := by
  unfold simpleContentAt
  rw [respells.baseAt_eq, respells.constructOf?_eq, respells.added_eq, Content.mapFaults]
  split <;> rfl

theorem complexContentAt_eq
    (respells : relabeling.Respells spot other)
    (inside : contents other.scope other.content =
      mapFaultsOfContents relabeling.respellError (contents spot.scope spot.content)) :
    complexContentAt other = (complexContentAt spot).mapFaults relabeling.respellError := by
  unfold complexContentAt
  rw [respells.baseAt_eq, respells.constructOf?_eq, inside, Content.mapFaults]
  split <;> rfl

theorem particleAt_eq
    (respells : relabeling.Respells spot other)
    (inside : body? other.scope other.content =
      (body? spot.scope spot.content).map (mapFaultsOfContents relabeling.respellError)) :
    particleAt other = (particleAt spot).mapFaults relabeling.respellError := by
  unfold particleAt
  rw [respells.reference?_eq (show "ref" ∈ referenceAttributes by decide), respells.repeated_eq,
    respells.required_eq (show "name" ∉ referenceAttributes by decide), respells.typeUse_eq, inside]
  cases reference? spot.scope spot.tag "ref" with
  | some name =>
      rw [Option.map_some]
      dsimp only
      rw [Particle.mapFaults, mapError_repeated]
  | none =>
      rw [Option.map_none]
      dsimp only
      rw [Particle.mapFaults_element, mapError_repeated, mapError_required]

/-- What is read from the first derivation is the same if it is for every derivation. -/
theorem map_firstDerivation?
    {Part : Type}
    {part : Spot → Part}
    {change : Part → Part}
    (respells : relabeling.Respells spot other)
    (each : ∀ child, firstDerivation? spot = some child → ∀ image : Spot,
      relabeling.Respells child.2 image → part image = change (part child.2)) :
    ((firstDerivation? other).map fun found => part found.2).toList =
      ((firstDerivation? spot).map fun found => part found.2).toList.map change := by
  cases isFirst : firstDerivation? spot with
  | none =>
      rw [show firstDerivation? other = none from respells.first?_eq_none isFirst]
      rfl
  | some child =>
      obtain ⟨image, isImage, inner⟩ := respells.exists_first? isFirst
      rw [show firstDerivation? other = some image from isImage]
      exact congrArg (fun part => [part]) (each child isFirst image.2 inner)

theorem particlesAt_eq
    (respells : relabeling.Respells spot other)
    (particle : particleAt other = (particleAt spot).mapFaults relabeling.respellError)
    (inside : particles other.scope other.content =
      mapFaultsOfParticles relabeling.respellError (particles spot.scope spot.content)) :
    particlesAt other = (particlesAt spot).map (Particle.mapFaults relabeling.respellError) := by
  unfold particlesAt
  rw [respells.constructOf?_eq, if_congr respells.isGroup_iff rfl rfl,
    if_congr (respells.isPassedOver_iff _) rfl rfl, particle, respells.repeated_eq, inside,
    respells.localName_eq]
  split
  · rfl
  · split
    · rw [List.map_singleton, Particle.mapFaults, mapError_repeated]
    · split <;> rfl

theorem contentsAt_eq
    (respells : relabeling.Respells spot other)
    (group : particles other.scope other.content =
      mapFaultsOfParticles relabeling.respellError (particles spot.scope spot.content))
    (derivation : ∀ child, firstDerivation? spot = some child → ∀ image : Spot,
      relabeling.Respells child.2 image →
        contents image.scope image.content =
          mapFaultsOfContents relabeling.respellError (contents child.2.scope child.2.content)) :
    contentsAt other = (contentsAt spot).map (Content.mapFaults relabeling.respellError) := by
  unfold contentsAt
  rw [respells.constructOf?_eq, if_congr respells.isGroup_iff rfl rfl,
    if_congr (respells.isPassedOver_iff _) rfl rfl, respells.repeated_eq, group,
    respells.attributesAt_eq, respells.localName_eq,
    respells.map_firstDerivation? fun child isFirst image inner =>
      inner.complexContentAt_eq (derivation child isFirst image inner),
    respells.map_firstDerivation? fun child _ image inner => inner.simpleContentAt_eq]
  split
  · rw [List.map_singleton, Content.mapFaults, mapError_repeated]
  · split
    · rw [List.map_map, List.map_map]
      rfl
    · split
      · rfl
      · split
        · rfl
        · split <;> rfl

theorem particlesAt_of_foreign
    {child : Spot}
    (foreign : constructOf? child.tag = none) :
    particlesAt child = [] := by
  simp [particlesAt, IsGroup, IsPassedOver, foreign]

theorem contentsAt_of_foreign
    {child : Spot}
    (foreign : constructOf? child.tag = none) :
    contentsAt child = [] := by
  simp [contentsAt, IsGroup, IsPassedOver, foreign]

/-- The first complex type inside an element is the same if the content of complex types is. -/
theorem body?_eq_of_contents
    (respells : relabeling.Respells spot other)
    (inside : ∀ child, firstComplexType? spot = some child → ∀ image : Spot,
      relabeling.Respells child.2 image →
        contents image.scope image.content =
          mapFaultsOfContents relabeling.respellError (contents child.2.scope child.2.content)) :
    body? other.scope other.content =
      (body? spot.scope spot.content).map (mapFaultsOfContents relabeling.respellError) := by
  rw [Schema.body?_eq, Schema.body?_eq]
  cases isFirst : firstComplexType? spot with
  | none =>
      rw [show firstComplexType? other = none from respells.first?_eq_none isFirst]
      rfl
  | some child =>
      obtain ⟨image, isImage, inner⟩ := respells.exists_first? isFirst
      rw [show firstComplexType? other = some image from isImage]
      exact congrArg some (inside child isFirst image.2 inner)

mutual

/-- The parts of a model group are the same in every spelling. -/
theorem particles_eq
    {spot other : Spot}
    (respells : relabeling.Respells spot other) :
    particles other.scope other.content =
      mapFaultsOfParticles relabeling.respellError (particles spot.scope spot.content) := by
  rw [mapFaultsOfParticles_eq_map, Schema.particles_eq, Schema.particles_eq]
  apply respells.flatMap_children fun _ => particlesAt_of_foreign
  intro child isChild image inner
  refine inner.particlesAt_eq (inner.particleAt_eq ?_) inner.particles_eq
  exact inner.body?_eq_of_contents fun type isType image inner => inner.contents_eq
termination_by sizeOf spot.content
decreasing_by
  · exact Nat.lt_trans (Spot.sizeOf_content_lt (mem_children_of_first? isType))
      (Spot.sizeOf_content_lt isChild)
  · exact Spot.sizeOf_content_lt isChild

/-- The content of a complex type is the same in every spelling. -/
theorem contents_eq
    {spot other : Spot}
    (respells : relabeling.Respells spot other) :
    contents other.scope other.content =
      mapFaultsOfContents relabeling.respellError (contents spot.scope spot.content) := by
  rw [mapFaultsOfContents_eq_map, Schema.contents_eq, Schema.contents_eq]
  apply respells.flatMap_children fun _ => contentsAt_of_foreign
  intro child isChild image inner
  exact inner.contentsAt_eq inner.particles_eq fun derivation isFirst image inner =>
    inner.contents_eq
termination_by sizeOf spot.content
decreasing_by
  · exact Spot.sizeOf_content_lt isChild
  · exact Nat.lt_trans (Spot.sizeOf_content_lt (mem_children_of_first? isFirst))
      (Spot.sizeOf_content_lt isChild)

end

/-- The first complex type inside an element is the same in every spelling. -/
theorem body?_eq
    (respells : relabeling.Respells spot other) :
    body? other.scope other.content =
      (body? spot.scope spot.content).map (mapFaultsOfContents relabeling.respellError) :=
  respells.body?_eq_of_contents fun _ _ _ inner => inner.contents_eq

/-! ### Schemas -/

/-- A declaration at the top is the same in every spelling. -/
theorem declarationAt?_eq
    (respells : relabeling.Respells spot other) :
    declarationAt? other =
      (declarationAt? spot).map (Declaration.mapFaults relabeling.respellError) := by
  unfold declarationAt?
  rw [respells.constructOf?_eq, respells.required_eq (show "name" ∉ referenceAttributes by decide),
    respells.contents_eq, respells.simpleType_eq, respells.typeUse_eq, respells.body?_eq,
    respells.attribute?_eq (show "schemaLocation" ∉ referenceAttributes by decide)]
  split
  · rw [Option.map_some, Declaration.mapFaults, mapError_required]
  · rw [Option.map_some, Declaration.mapFaults, mapError_required]
  · rw [Option.map_some, Declaration.mapFaults, mapError_required]
  · rw [Option.map_some, Declaration.mapFaults, mapError_required]
  · rfl
  · rfl
  · rfl
  · rfl
  · split <;> rfl

end Respells

/-- What an element at the top declares, as a list. -/
def declarationsAt (spot : Spot) : List Declaration :=
  (declarationAt? spot).toList

theorem declarations_eq_flatMap
    (document : Xml.Document) :
    document.children.filterMap (declaration? document.scope) =
      document.spot.children.flatMap fun child => declarationsAt child.2 :=
  (declarations_eq document).trans (List.filterMap_eq_flatMap_toList _ _)

/-- The schema that a document holds is the same in every spelling. -/
theorem Respells.ofXml_eq
    {document other : Xml.Document}
    (respells : relabeling.Respells document.spot other.spot) :
    Document.ofXml other =
      (Document.ofXml document).map (Document.mapFaults relabeling.respellError) := by
  have declarations : other.children.filterMap (declaration? other.scope) =
      (document.children.filterMap (declaration? document.scope)).map
        (Declaration.mapFaults relabeling.respellError) := by
    rw [declarations_eq_flatMap, declarations_eq_flatMap]
    apply respells.flatMap_children
    · exact fun child foreign => by simp [declarationsAt, declarationAt?, foreign]
    · intro child _ image inner
      rw [declarationsAt, declarationsAt, inner.declarationAt?_eq]
      cases declarationAt? child.2 <;> rfl
  have construct : constructOf? other.root = constructOf? document.root := respells.constructOf?_eq
  have localName : other.root.name.localName = document.root.name.localName := respells.localName_eq
  have target : other.root.attribute? "targetNamespace" =
      document.root.attribute? "targetNamespace" :=
    respells.attribute?_eq (by decide)
  unfold Document.ofXml
  rw [construct, localName, target, declarations]
  split <;> rfl

end Relabeling
end Schema
end SchemaBinding
