import SchemaBinding.Proofs.Nests
import SchemaBinding.Proofs.Readability
import SchemaBinding.Text.Blank

/-!
# Rendered trees

What a signature shows of an outline are the blocks of its packages, with a tree for every class.
If names have no white space in them and none of the characters that a signature sets between
names, no other blocks have the same signature.
-/

namespace SchemaBinding

/-! ## Plain names -/

/-- Whether a character is no white space and no brace, no semicolon and no comma. -/
def isPlain (c : Char) : Bool :=
  !(Text.isBlank c || c == '\x7b' || c == '\x7d' || c == ';' || c == ',')

/-- Whether all characters of a name are plain. -/
def Plain (name : String) : Prop :=
  name.toList.all isPlain

instance (name : String) : Decidable (Plain name) :=
  inferInstanceAs (Decidable (_ = true))

theorem Plain.not_mem
    {name : String}
    (plain : Plain name)
    {c : Char}
    (special : isPlain c = false) :
    c ∉ name.toList := by
  intro member
  have isPlainChar := List.all_eq_true.1 plain c member
  rw [special] at isPlainChar
  cases isPlainChar

theorem Plain.unbroken
    {name : String}
    (plain : Plain name) :
    Unbroken name :=
  ⟨plain.not_mem (by decide), plain.not_mem (by decide), plain.not_mem (by decide)⟩

/-- The name of a class through the classes around it is as unbroken as the names of these. -/
theorem DottedName.unbroken
    {lookup : ClassId → Option Class}
    (unbroken : ∀ {id found}, lookup id = some found → Unbroken found.name)
    {id : ClassId}
    {name : String}
    (named : DottedName lookup id name) :
    Unbroken name := by
  induction named with
  | outermost defined _ => exact unbroken defined
  | inside defined _ _ inductionHypothesis =>
      exact (inductionHypothesis.append unbroken_dot).append (unbroken defined)

namespace TypeRef

/-- Whether the packages and names in a type, its arguments included, are plain. -/
inductive IsPlain : TypeRef → Prop
  | mk {package : Option String} {name : String} {arguments : List TypeRef}
      (package_plain : ∀ part ∈ package, Plain part) (name_plain : Plain name)
      (arguments_plain : ∀ argument ∈ arguments, IsPlain argument) :
      IsPlain ⟨package, name, arguments⟩

theorem not_mem_displayNames
    {hidden : String → Bool}
    {types : List TypeRef}
    (unbroken : ∀ type ∈ types, '\n' ∉ (type.displayName hidden).toList) :
    '\n' ∉ (displayNames hidden types).toList := by
  induction types with
  | nil => simp [displayNames]
  | cons first rest inductionHypothesis =>
      rw [List.forall_mem_cons] at unbroken
      cases rest with
      | nil => exact unbroken.1
      | cons second rest =>
          simp [displayNames, unbroken.1, inductionHypothesis unbroken.2]

theorem IsPlain.not_mem_displayName
    {type : TypeRef}
    (plain : type.IsPlain)
    (hidden : String → Bool) :
    '\n' ∉ (type.displayName hidden).toList := by
  induction plain with
  | @mk package name arguments package_plain name_plain arguments_plain inductionHypothesis =>
      have nameUnbroken := name_plain.unbroken.noLineEnd
      have argumentsUnbroken := not_mem_displayNames inductionHypothesis
      cases package with
      | none => cases arguments <;> simp [displayName, nameUnbroken, argumentsUnbroken]
      | some part =>
          have partUnbroken := (package_plain part rfl).unbroken.noLineEnd
          cases isHidden : hidden part <;> cases arguments <;>
            simp [displayName, isHidden, partUnbroken, nameUnbroken, argumentsUnbroken]

end TypeRef

namespace Outline

variable {outline : Outline} {options : SignatureOptions}

/-- Whether what a signature shows of an outline can be told from what stands between. -/
structure Legible (outline : Outline) (options : SignatureOptions) : Prop where
  packages : ∀ package ∈ outline.packageNames, '\n' ∉ package.toList
  classes : ∀ {id found}, outline.class? id = some found → Unbroken found.name
  supertypes : ∀ package ∈ outline.packageNames, ∀ id ∈ outline.classIds, ∀ type,
    outline.typeOf? id = some type → Unbroken (displaySupertype options package type)
  fields : ∀ field ∈ outline.fields,
    '\n' ∉ (displayType options field.type).toList ∧ Unbroken field.name

theorem Legible.readable_classTree
    (legible : outline.Legible options)
    (formed : outline.WellFormed)
    {package : String}
    (isName : package ∈ outline.packageNames)
    (depth : Nat)
    {id : ClassId}
    (isClass : id ∈ outline.classIds) :
    (outline.classTree options package depth id).Readable := by
  induction depth using Nat.strongRecOn generalizing id with
  | ind depth inductionHypothesis =>
      unfold classTree
      constructor
      case name_unbroken =>
        obtain ⟨_, _, _, named, _⟩ := formed.typed id isClass
        obtain ⟨found, isFound⟩ := named.defined
        rw [isFound]
        exact legible.classes isFound
      case supertypes_unbroken =>
        intro supertype member
        obtain ⟨type, isType, rfl⟩ := List.mem_map.1 member
        obtain ⟨above, isSupertype, typed⟩ := List.mem_filterMap.1 isType
        exact legible.supertypes package isName above (formed.supertype_mem isSupertype) type typed
      case fields_unbroken =>
        intro field member
        obtain ⟨source, isField, rfl⟩ := List.mem_map.1 member
        obtain ⟨fieldId, _, isSource⟩ := List.mem_filterMap.1 isField
        exact legible.fields source (List.mem_of_getElem? isSource)
      case nested_readable =>
        intro tree member
        cases depth with
        | zero => cases member
        | succ depth =>
            obtain ⟨inner, isNested, rfl⟩ := List.mem_map.1 member
            have enclosed := formed.mem_nested.1 isNested
            exact inductionHypothesis depth (Nat.lt_succ_self _)
              (mem_classIds_of_enclosing? enclosed)

theorem Legible.readable_packageBlocks
    (legible : outline.Legible options)
    (formed : outline.WellFormed) :
    ∀ block ∈ outline.packageBlocks options, block.Readable := by
  intro block member
  obtain ⟨package, isName, rfl⟩ := List.mem_map.1 member
  constructor
  case name_unbroken => exact legible.packages package isName
  case classes_readable =>
    intro tree isTree
    obtain ⟨id, isTop, rfl⟩ := List.mem_map.1 isTree
    exact legible.readable_classTree formed isName _ (mem_topLevel.1 (mem_topLevelOf.1 isTop).1).1

/-- Whether all names in an outline are plain: those of packages, classes and fields, and the
packages and names in the types of fields. -/
structure PlainNames (outline : Outline) : Prop where
  packages : ∀ package ∈ outline.packages, Plain package
  classes : ∀ found ∈ outline.classes, Plain found.name
  fields : ∀ field ∈ outline.fields, Plain field.name ∧ field.type.IsPlain

theorem PlainNames.plain_packageNameOf?
    (plain : outline.PlainNames)
    {id : ClassId}
    {package : String}
    (packaged : outline.packageNameOf? id = some package) :
    Plain package := by
  obtain ⟨found, _, isPackage⟩ := Option.bind_eq_some_iff.1 packaged
  exact plain.packages package (List.mem_of_getElem? isPackage)

/-- Plain names are legible, whatever is hidden. -/
theorem PlainNames.legible
    (plain : outline.PlainNames)
    (formed : outline.WellFormed)
    (options : SignatureOptions) :
    outline.Legible options := by
  have classes : ∀ {id found}, outline.class? id = some found → Unbroken found.name :=
    fun isFound => (plain.classes _ (List.mem_of_getElem? isFound)).unbroken
  constructor
  case packages =>
    intro package isName
    obtain ⟨top, _, packaged⟩ := mem_packageNames.1 isName
    exact (plain.plain_packageNameOf? packaged).unbroken.noLineEnd
  case classes => exact classes
  case supertypes =>
    intro package _ id isClass type typed
    obtain ⟨own, path, packaged, named, isType⟩ := formed.typed id isClass
    obtain rfl : type = .reference own path := Option.some.inj (typed.symm.trans isType)
    have ownUnbroken := (plain.plain_packageNameOf? packaged).unbroken
    have pathUnbroken := named.unbroken classes
    unfold displaySupertype TypeRef.reference TypeRef.displayName
    dsimp only
    split
    · exact .append ⟨by decide, by decide, by decide⟩ pathUnbroken
    · exact (ownUnbroken.append unbroken_dot).append pathUnbroken
  case fields =>
    intro field member
    obtain ⟨namePlain, typePlain⟩ := plain.fields field member
    exact ⟨typePlain.not_mem_displayName _, namePlain.unbroken⟩

/-! ## What there is to read -/

/-- Whether blocks are what there is to show of an outline: a block for each package, a class tree
for each class at the top of it, and in each class tree one for each class nested directly in it. -/
def RendersTo (outline : Outline) (options : SignatureOptions) (blocks : List PackageBlock) :
    Prop :=
  ∃ groups, outline.GoesThrough groups ∧ blocks = groups.map (PackageNests.shown outline options)

theorem WellFormed.rendersTo_iff
    (formed : outline.WellFormed)
    {blocks : List PackageBlock} :
    outline.RendersTo options blocks ↔ blocks = outline.packageBlocks options := by
  rw [packageBlocks_eq_shown]
  constructor
  · rintro ⟨groups, goes, rfl⟩
    rw [goes.unique formed.goesThrough]
  · rintro rfl
    exact ⟨_, formed.goesThrough, rfl⟩

/-- A signature can be read back: if all names are plain, finished outlines with the same signature
render to the same blocks and to no others. -/
theorem Finished.rendersTo_of_signature_eq
    {first second : Outline}
    (firstFinished : first.Finished)
    (secondFinished : second.Finished)
    (firstPlain : first.PlainNames)
    (secondPlain : second.PlainNames)
    (options : SignatureOptions)
    (same : first.signature options = second.signature options) :
    ∃ blocks, (∀ others, first.RendersTo options others ↔ others = blocks) ∧
      ∀ others, second.RendersTo options others ↔ others = blocks := by
  have firstFormed := firstFinished.wellFormed
  have secondFormed := secondFinished.wellFormed
  have blocks := packageBlocks_eq_of_signature_eq
    ((firstPlain.legible firstFormed options).readable_packageBlocks firstFormed)
    ((secondPlain.legible secondFormed options).readable_packageBlocks secondFormed) same
  refine ⟨first.packageBlocks options, fun _ => firstFormed.rendersTo_iff, fun _ => ?_⟩
  rw [blocks]
  exact secondFormed.rendersTo_iff

theorem orders_plainNames : orders.PlainNames where
  packages := by decide
  classes := by decide
  fields := by
    simp only [orders, List.forall_mem_cons]
    exact ⟨⟨by decide, .mk (by decide) (by decide) nofun⟩,
      ⟨by decide, .mk (by decide) (by decide) nofun⟩, nofun⟩

theorem reorderedOrders_plainNames : reorderedOrders.PlainNames where
  packages := by decide
  classes := by decide
  fields := by
    simp only [reorderedOrders, List.forall_mem_cons]
    exact ⟨⟨by decide, .mk (by decide) (by decide) nofun⟩,
      ⟨by decide, .mk (by decide) (by decide) nofun⟩, nofun⟩

theorem orders_rendersTo :
    ∃ blocks, orders.RendersTo {} blocks ∧ reorderedOrders.RendersTo {} blocks := by
  have same : orders.signature {} = reorderedOrders.signature {} := by
    unfold signature signaturePieces signatureLines packageBlocks
    rw [reorder_renumbering.packageNames_forward, orders_packageNames]
    rfl
  obtain ⟨blocks, firstRenders, secondRenders⟩ := Finished.rendersTo_of_signature_eq orders_finished
    reorderedOrders_finished orders_plainNames reorderedOrders_plainNames {} same
  exact ⟨blocks, (firstRenders blocks).2 rfl, (secondRenders blocks).2 rfl⟩

end Outline
end SchemaBinding
