import Mathlib.Data.List.TakeWhile
import SchemaBinding.Proofs.SchemaFields

/-!
# Identifiers

Which generated names can be used as identifiers.  Names that begin with a digit and reserved names
are changed so that they can be used, and whatever is not a letter or a number is left out or becomes
an underscore; but a name that has no letters and no numbers is left empty.
-/

namespace SchemaBinding
namespace Text

/-! ## Names without letters and numbers -/

theorem mapCase_ne_nil
    {runs : List CaseRun}
    {expansions : List (Nat × List Nat)}
    (expand : ∀ entry ∈ expansions, entry.2 ≠ [])
    (c : Char) :
    mapCase runs expansions c ≠ [] := by
  unfold mapCase
  split
  next codes listed =>
    obtain ⟨before, after, split, _⟩ := List.lookup_eq_some_iff.1 listed
    have entry := expand (c.toNat, codes) (by simp [split])
    simpa using entry
  next => split <;> simp

theorem lower_ne_nil
    (c : Char) :
    lower c ≠ [] :=
  mapCase_ne_nil (by decide +kernel) c

theorem upper_ne_nil
    (c : Char) :
    upper c ≠ [] :=
  mapCase_ne_nil (by decide +kernel) c

theorem smallWord_eq_nil_iff
    {word : List Char} :
    smallWord word = [] ↔ word = [] := by
  fun_cases smallWord word with
  | case1 => exact Iff.rfl
  | case2 => simp
  | case3 c rest _ => simp [lower_ne_nil]

theorem capitalWord_eq_nil_iff
    {word : List Char} :
    capitalWord word = [] ↔ word = [] := by
  cases word with
  | nil => exact Iff.rfl
  | cons c rest => simp [capitalWord, upper_ne_nil]

theorem forall_words_eq_nil_iff
    {name : List Char} :
    (∀ word ∈ words name, word = []) ↔ ∀ c ∈ name, isAlphanumeric c = false := by
  rw [← List.flatten_eq_nil_iff, flatten_words, List.filter_eq_nil_iff]
  simp only [Bool.not_eq_true]

theorem upperCamel_eq_nil_iff
    {name : List Char} :
    upperCamel name = [] ↔ ∀ c ∈ name, isAlphanumeric c = false := by
  rw [← forall_words_eq_nil_iff, upperCamel, List.flatMap_eq_nil_iff]
  simp only [capitalWord_eq_nil_iff]

theorem lowerCamel_eq_nil_iff
    {name : List Char} :
    lowerCamel name = [] ↔ ∀ c ∈ name, isAlphanumeric c = false := by
  rw [← forall_words_eq_nil_iff, lowerCamel]
  cases words name with
  | nil => simp
  | cons first rest => simp [smallWord_eq_nil_iff, capitalWord_eq_nil_iff]

end Text

namespace Schema

open Text (Clean)

/-! ## Identifiers -/

/-- Characters that a signature sets between names. -/
def separators : List Char :=
  ['\x7b', '\x7d', ';', ',', '<', '>']

/-- Whether a name can be used as an identifier, or as several with dots between them. -/
structure IsIdentifier (name : String) : Prop where
  /-- It is not empty. -/
  nonempty : name ≠ ""
  /-- It has no white space. -/
  not_blank : ∀ c ∈ name.toList, Text.isBlank c = false
  /-- It has no separators. -/
  not_separator : ∀ c ∈ name.toList, c ∉ separators
  /-- It does not begin with a digit. -/
  not_digit : ∀ c ∈ name.toList.head?, Text.isDigit c = false
  /-- It is not reserved. -/
  not_reserved : name ∉ reservedNames

/-- Whether a name can be used as one identifier. -/
structure IsSimpleIdentifier (name : String) : Prop extends IsIdentifier name where
  /-- It has no dots. -/
  not_dotted : '.' ∉ name.toList

/-- Whether a name can be used for a package: as a whole, and each part of it between dots. -/
structure IsPackageName (name : String) : Prop extends IsIdentifier name where
  /-- The parts between dots can be used. -/
  parts : ∀ part ∈ name.toList.splitOn '.', IsIdentifier (.ofList part)

theorem isForeign_of_mem_separators
    {c : Char}
    (separates : c ∈ separators) :
    Text.isForeign c :=
  List.all_eq_true.1 (by decide : separators.all Text.isForeign = true) c separates

theorem usable_eq_nil_iff
    {name : List Char} :
    usable name = [] ↔ name = [] := by
  have notReserved : isReserved [] = false := by decide
  unfold usable
  split_ifs with digit reserved
  · cases name with
    | nil => cases digit
    | cons => simp
  · cases name with
    | nil => simp [notReserved] at reserved
    | cons => simp
  · exact Iff.rfl

theorem not_isDigit_of_mem_head?_usable
    (name : List Char) :
    ∀ c ∈ (usable name).head?, Text.isDigit c = false := by
  have underscore : Text.isDigit '_' = false := by decide
  intro c isFirst
  by_cases digit : name.head?.any Text.isDigit
  · rw [usable, if_pos digit] at isFirst
    obtain rfl := Option.some.inj isFirst
    exact underscore
  · by_cases reserved : isReserved name
    · rw [usable, if_neg digit, if_pos reserved] at isFirst
      cases name with
      | nil =>
          obtain rfl := Option.some.inj isFirst
          exact underscore
      | cons first rest =>
          obtain rfl := Option.some.inj isFirst
          exact Bool.not_eq_true _ ▸ digit
    · rw [usable, if_neg digit, if_neg reserved] at isFirst
      rw [Option.mem_def] at isFirst
      rw [isFirst] at digit
      exact Bool.not_eq_true _ ▸ digit

/-- What is made usable is an identifier unless it is empty. -/
theorem isSimpleIdentifier_usable
    {name : List Char}
    (clean : Clean name)
    (nonempty : name ≠ []) :
    IsSimpleIdentifier (.ofList (usable name)) := by
  have usableClean : Clean (String.ofList (usable name)).toList := by
    rw [String.toList_ofList]
    exact clean_usable clean
  refine ⟨⟨?_, ?_, ?_, ?_, usable_not_reserved name⟩, ?_⟩
  · exact fun empty => nonempty (usable_eq_nil_iff.1 (String.ofList_eq_empty_iff.1 empty))
  · exact fun c member => Text.not_isBlank_of_not_foreign (usableClean c member)
  · intro c member separates
    have notForeign := usableClean c member
    rw [isForeign_of_mem_separators separates] at notForeign
    cases notForeign
  · rw [String.toList_ofList]
    exact not_isDigit_of_mem_head?_usable name
  · intro member
    have notForeign := usableClean '.' member
    revert notForeign
    decide

/-- Whether a name has a letter or a number of any script. -/
def HasLetters (name : String) : Prop :=
  ∃ c ∈ name.toList, Text.isAlphanumeric c

theorem forall_not_isAlphanumeric_iff
    {name : String} :
    (∀ c ∈ name.toList, Text.isAlphanumeric c = false) ↔ ¬HasLetters name := by
  simp [HasLetters]

/-- Whether the name made from another one is an identifier, or empty for want of letters. -/
def IdentifierOrEmpty (source name : String) : Prop :=
  HasLetters source ∧ IsSimpleIdentifier name ∨ ¬HasLetters source ∧ name = ""

theorem IdentifierOrEmpty.isSimpleIdentifier
    {source name : String}
    (made : IdentifierOrEmpty source name)
    (nonempty : name ≠ "") :
    IsSimpleIdentifier name :=
  made.elim And.right fun empty => absurd empty.2 nonempty

theorem identifierOrEmpty_usable
    {source : String}
    {name : List Char}
    (clean : Clean name)
    (empty_iff : name = [] ↔ ∀ c ∈ source.toList, Text.isAlphanumeric c = false) :
    IdentifierOrEmpty source (.ofList (usable name)) := by
  rw [forall_not_isAlphanumeric_iff] at empty_iff
  by_cases hasLetters : HasLetters source
  · exact .inl ⟨hasLetters, isSimpleIdentifier_usable clean fun empty => empty_iff.1 empty hasLetters⟩
  · obtain rfl := empty_iff.2 hasLetters
    exact .inr ⟨hasLetters, by decide⟩

theorem identifierOrEmpty_className
    (localName : String) :
    IdentifierOrEmpty localName (className localName) :=
  identifierOrEmpty_usable (Text.clean_upperCamel _) Text.upperCamel_eq_nil_iff

theorem identifierOrEmpty_fieldName
    (localName : String) :
    IdentifierOrEmpty localName (fieldName localName) :=
  identifierOrEmpty_usable (Text.clean_lowerCamel _) Text.lowerCamel_eq_nil_iff

/-! ## Packages -/

/-- Whether a part of the name of a namespace that its package is named after has a letter or digit
of ASCII. -/
def NamesPackage (uri : String) : Prop :=
  ∃ part ∈ namespaceParts uri.toList, ∃ c ∈ part, c.isAlphanum

theorem packageCharacter_eq_underscore_iff
    {c : Char} :
    packageCharacter c = '_' ↔ c.isAlphanum = false := by
  cases alphanumeric : c.isAlphanum with
  | true => simp [(packageCharacter_of_isAlphanum alphanumeric).2]
  | false => simp [packageCharacter, alphanumeric]

theorem trimWhile_eq_nil_iff
    {test : Char → Bool}
    {text : List Char} :
    Text.trimWhile test text = [] ↔ ∀ c ∈ text, test c := by
  constructor
  · intro empty
    have started : ∀ c ∈ text.dropWhile test, test c := by
      rw [Text.trimWhile, Text.dropEndWhile, List.reverse_eq_nil_iff, List.dropWhile_eq_nil_iff] at empty
      simpa using empty
    cases rest : text.dropWhile test with
    | nil => exact List.dropWhile_eq_nil_iff.1 rest
    | cons first others =>
        have stops := List.head?_dropWhile_not test text
        rw [rest] at stops started
        simp [started first] at stops
  · intro all
    rw [Text.trimWhile, List.dropWhile_eq_nil_iff.2 all]
    rfl

theorem packagePart_eq_nil_iff
    {part : List Char} :
    packagePart part = [] ↔ ∀ c ∈ part, c.isAlphanum = false := by
  rw [packagePart, usable_eq_nil_iff, trimWhile_eq_nil_iff, List.forall_mem_map]
  simp only [decide_eq_true_eq, packageCharacter_eq_underscore_iff]

theorem packageParts_eq_nil_iff
    {uri : String} :
    packageParts uri = [] ↔ ¬NamesPackage uri := by
  rw [packageParts, List.filter_eq_nil_iff, List.forall_mem_map]
  simp [NamesPackage, packagePart_eq_nil_iff]

theorem isSimpleIdentifier_packagePart
    {part : List Char}
    (nonempty : packagePart part ≠ []) :
    IsSimpleIdentifier (.ofList (packagePart part)) :=
  isSimpleIdentifier_usable (clean_trimmedPart part) fun empty => nonempty (usable_eq_nil_iff.2 empty)

theorem isSimpleIdentifier_of_mem_packageParts
    {uri : String}
    {part : List Char}
    (isPart : part ∈ packageParts uri) :
    IsSimpleIdentifier (.ofList part) := by
  obtain ⟨isSource, nonempty⟩ := List.mem_filter.1 isPart
  obtain ⟨source, _, rfl⟩ := List.mem_map.1 isSource
  apply isSimpleIdentifier_packagePart
  intro empty
  rw [empty] at nonempty
  cases nonempty

theorem head?_intercalate
    {Item : Type}
    {between : Item}
    {first : List Item}
    (nonempty : first ≠ [])
    {rest : List (List Item)} :
    ([between].intercalate (first :: rest)).head? = first.head? := by
  cases rest with
  | nil => rw [List.intercalate_singleton]
  | cons second rest =>
      rw [List.intercalate_cons_cons, List.append_assoc, List.head?_append_of_ne_nil _ nonempty]

/-- Identifiers with dots between them can be used for a package. -/
theorem isPackageName_intercalate
    {name : String}
    {parts : List (List Char)}
    (nonempty : parts ≠ [])
    (simple : ∀ part ∈ parts, IsSimpleIdentifier (.ofList part))
    (same : name.toList = ['.'].intercalate parts) :
    IsPackageName name := by
  have split : name.toList.splitOn '.' = parts := by
    rw [same]
    apply List.splitOn_intercalate _ _ nonempty
    intro part isPart
    have notDotted := (simple part isPart).not_dotted
    rwa [String.toList_ofList] at notDotted
  have ofPart : ∀ {c}, c ∈ name.toList →
      c = '.' ∨ ∃ part ∈ parts, c ∈ (String.ofList part).toList := by
    intro c member
    rw [same] at member
    simpa only [String.toList_ofList] using mem_intercalate member
  have ofFirstPart : ∀ c ∈ name.toList.head?, ∃ part ∈ parts,
      c ∈ (String.ofList part).toList.head? := by
    intro c isFirst
    cases parts with
    | nil => exact absurd rfl nonempty
    | cons first rest =>
        have someLetters : first ≠ [] := fun empty =>
          (simple first List.mem_cons_self).nonempty (String.ofList_eq_empty_iff.2 empty)
        rw [same, head?_intercalate someLetters] at isFirst
        exact ⟨first, List.mem_cons_self, by rwa [String.toList_ofList]⟩
  refine ⟨⟨?_, ?_, ?_, ?_, ?_⟩, fun part isPart => (simple part (split ▸ isPart)).toIsIdentifier⟩
  · rintro rfl
    have isPart : [] ∈ parts := split ▸ List.mem_singleton_self []
    exact (simple [] isPart).nonempty rfl
  · intro c member
    rcases ofPart member with rfl | ⟨part, isPart, inside⟩
    · decide
    · exact (simple part isPart).not_blank c inside
  · intro c member
    rcases ofPart member with rfl | ⟨part, isPart, inside⟩
    · decide
    · exact (simple part isPart).not_separator c inside
  · intro c isFirst
    obtain ⟨part, isPart, isFirstOfPart⟩ := ofFirstPart c isFirst
    exact (simple part isPart).not_digit c isFirstOfPart
  · -- Reserved names have no dots, so that the name would be one of its parts.
    intro reserved
    have unsplit : ∀ other ∈ reservedNames, other.toList.splitOn '.' = [other.toList] := by
      decide +kernel
    have isPart : name.toList ∈ parts := by
      rw [← split, unsplit name reserved]
      exact List.mem_singleton_self _
    have notReserved := (simple _ isPart).not_reserved
    rw [String.ofList_toList] at notReserved
    exact notReserved reserved

theorem isPackageName_packageOfNamespace
    {uri : String}
    (names : NamesPackage uri) :
    IsPackageName (packageOfNamespace uri) :=
  isPackageName_intercalate (fun empty => packageParts_eq_nil_iff.1 empty names)
    (fun _ => isSimpleIdentifier_of_mem_packageParts) (toList_packageOfNamespace uri)

theorem packageOfNamespace_eq_empty
    {uri : String}
    (unnamed : ¬NamesPackage uri) :
    packageOfNamespace uri = "" := by
  rw [← String.toList_eq_nil_iff, toList_packageOfNamespace, packageParts_eq_nil_iff.2 unnamed]
  rfl

theorem isPackageName_defaultPackage : IsPackageName defaultPackage := by
  have same : packagePart defaultPackage.toList = defaultPackage.toList := by decide +kernel
  have simple : IsSimpleIdentifier defaultPackage := by
    rw [← String.ofList_toList (s := defaultPackage), ← same]
    exact isSimpleIdentifier_packagePart (by decide +kernel)
  apply isPackageName_intercalate (List.cons_ne_nil defaultPackage.toList [])
  · exact List.forall_mem_singleton.2 simple
  · rw [List.intercalate_singleton]

/-! ## Names of schemas -/

/-- The names that the field for a part of the content can be made from. -/
inductive Item.Names (item : Item) : String → Prop
  /-- The name that an element or an attribute declares. -/
  | declared {name : String} (declares : item.role = .particle ∨ item.role = .attributeUse)
      (noReference : item.spot.tag.attribute? "ref" = none)
      (isName : item.spot.tag.attribute? "name" = some name) : item.Names name
  /-- The local part of the name that an element or an attribute refers to. -/
  | referred {text : String} {name : ExpandedName}
      (refers : item.role = .particle ∨ item.role = .attributeUse)
      (isReference : item.spot.tag.attribute? "ref" = some text)
      (resolved : resolveName item.spot.scope text = .ok name) : item.Names name.localName
  /-- A fixed name for the value of a derivation by simple content. -/
  | value (isBase : item.role = .simpleBase) : item.Names "value"

theorem fieldName_value : fieldName "value" = "value" := by
  decide +kernel

theorem FieldOf.names
    {document : Xml.Document}
    {outline : Outline}
    {types : List ComplexType}
    {around : ComplexType}
    {item : Item}
    {field : String × TypeRef}
    (fieldOf : FieldOf document outline types around item field) :
    ∃ name, item.Names name ∧ field.1 = fieldName name := by
  cases fieldOf with
  | element isElement noReference isName =>
      exact ⟨_, .declared (.inl isElement) noReference isName, rfl⟩
  | elementReference isElement isReference resolved =>
      exact ⟨_, .referred (.inl isElement) isReference resolved, rfl⟩
  | attributeUse isAttribute noReference isName =>
      exact ⟨_, .declared (.inr isAttribute) noReference isName, rfl⟩
  | attributeReference isAttribute isReference resolved
  | foreignAttribute isAttribute isReference resolved =>
      exact ⟨_, .referred (.inr isAttribute) isReference resolved, rfl⟩
  | value isBase => exact ⟨_, .value isBase, fieldName_value.symm⟩

theorem packageName_cases
    {options : BindingOptions}
    (derived : options.package = none)
    (target : Option String) :
    (target = none ∨ ∃ uri, target = some uri ∧ NamesPackage uri) ∧
        IsPackageName (packageName options target) ∨
      ∃ uri, target = some uri ∧ ¬NamesPackage uri ∧ packageName options target = "" := by
  rw [packageName, derived, Option.getD_none]
  cases target with
  | none => exact .inl ⟨.inl rfl, isPackageName_defaultPackage⟩
  | some uri =>
      by_cases names : NamesPackage uri
      · exact .inl ⟨.inr ⟨uri, rfl, names⟩, isPackageName_packageOfNamespace names⟩
      · exact .inr ⟨uri, rfl, names, packageOfNamespace_eq_empty names⟩

/-- The outline of a schema without a package of its own choice has one package, whose name can be
used unless the schema has a namespace without letters and digits of ASCII to name it after; then the
name is empty.  Every class and every field has a name that is an identifier unless what it is named
after has no letters and no numbers; then the name is empty. -/
theorem identifiers_of_accepted
    {options : BindingOptions}
    {document : Xml.Document}
    {outline : Outline}
    (accepted : (bindXml options document).1 = .ok outline)
    (derived : options.package = none) :
    (∃ package, outline.packages = [package] ∧
      let target := document.root.attribute? "targetNamespace"
      ((target = none ∨ ∃ uri, target = some uri ∧ NamesPackage uri) ∧ IsPackageName package ∨
        ∃ uri, target = some uri ∧ ¬NamesPackage uri ∧ package = "")) ∧
    ∃ types, Enumerates document types ∧ MadeFor outline types ∧
      ∀ id ∈ outline.classIds, ∃ type found, types[id.index]? = some type ∧
        outline.class? id = some found ∧
        (∃ name, type.named.attribute? "name" = some name ∧ IdentifierOrEmpty name found.name) ∧
        ∀ field ∈ outline.fieldList id, ∃ item name, Mapped type.spot item ∧ item.Names name ∧
          field.1 = fieldName name ∧ IdentifierOrEmpty name field.1 := by
  obtain ⟨portraits, describes, depicts⟩ := depicts_of_accepted accepted
  have madeFor := madeFor_complexTypes describes depicts
  refine ⟨⟨_, depicts.packages, packageName_cases derived _⟩, complexTypes document,
    enumerates_complexTypes document, madeFor, ?_⟩
  intro id isClass
  have bound : id.index < (complexTypes document).length :=
    madeFor.length ▸ Outline.mem_classIds.1 isClass
  have isType := List.getElem?_eq_getElem bound
  obtain ⟨found, name, isFound, isName, sameName⟩ := madeFor.named isType
  refine ⟨_, found, isType, isFound, ⟨name, isName, ?_⟩, ?_⟩
  · rw [sameName]
    exact identifierOrEmpty_className name
  · intro field isField
    obtain ⟨item, mapped, fieldOf⟩ := describes.exists_fieldOf depicts isType isField
    obtain ⟨fieldSource, names, sameField⟩ := fieldOf.names
    refine ⟨item, fieldSource, mapped, names, sameField, ?_⟩
    rw [sameField]
    exact identifierOrEmpty_fieldName fieldSource

theorem supply_identifiers :
    (bindXml {} supplySchema).1 = .ok supplyOutline ∧ ({} : BindingOptions).package = none ∧
      IsPackageName "supply" ∧ IsSimpleIdentifier "Rush" ∧ IsSimpleIdentifier "stop" := by
  obtain ⟨⟨package, packages, names⟩, _, _, _, classes⟩ := identifiers_of_accepted supply_accepted rfl
  obtain rfl : "supply" = package := List.cons.inj packages |>.1
  have isPackageName : IsPackageName "supply" := by
    rcases names with ⟨_, isName⟩ | ⟨_, _, _, empty⟩
    · exact isName
    · exact absurd empty (by decide)
  have isClass : ⟨0⟩ ∈ supplyOutline.classIds := by decide
  obtain ⟨_, rush, _, isRush, ⟨_, _, classMade⟩, fields⟩ := classes ⟨0⟩ isClass
  obtain rfl := Option.some.inj isRush
  have isField : ("stop", .listOf (.reference "supply" "Rush.Stop")) ∈ supplyOutline.fieldList ⟨0⟩ := by
    decide
  obtain ⟨_, _, _, _, _, fieldMade⟩ := fields _ isField
  exact ⟨supply_accepted, rfl, isPackageName, classMade.isSimpleIdentifier (by decide),
    fieldMade.isSimpleIdentifier (by decide)⟩

/-- A schema whose names have no letters and no numbers. -/
def unletteredSchema : Xml.Document where
  root := ⟨schemaName "schema", [⟨some "s", schemaNamespace⟩],
    [⟨⟨none, "targetNamespace"⟩, "urn:_"⟩]⟩
  children := [
    schemaNode "complexType" [("name", "_")] [
      schemaNode "sequence" [] [schemaNode "element" [("name", "_")] []]]]

/-- The outline of the schema. -/
def unletteredOutline : Outline where
  packages := [""]
  classes := [⟨"", ⟨0⟩, none, [⟨0⟩], [], []⟩]
  fields := [⟨"", .object, ⟨0⟩⟩]
  types := [.reference "" ""]

/-- Neither the package nor the class nor the field of such a schema has a name that can be used. -/
theorem unlettered_names :
    (bindXml {} unletteredSchema).1 = .ok unletteredOutline ∧
      (∃ package ∈ unletteredOutline.packages, ¬IsPackageName package) ∧
      (∃ found, unletteredOutline.class? ⟨0⟩ = some found ∧ ¬IsSimpleIdentifier found.name) ∧
      ∃ field ∈ unletteredOutline.fieldList ⟨0⟩, ¬IsSimpleIdentifier field.1 := by
  refine ⟨by decide +kernel, ?_, ?_, ?_⟩
  · exact ⟨"", List.mem_cons_self, fun isName => isName.nonempty rfl⟩
  · exact ⟨_, rfl, fun isName => isName.nonempty rfl⟩
  · exact ⟨("", .object), List.mem_cons_self, fun isName => isName.nonempty rfl⟩

end Schema
end SchemaBinding
