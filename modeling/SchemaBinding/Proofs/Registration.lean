import SchemaBinding.Proofs.Contributions

/-!
# Registration

What the first pass over a schema notes.  Each declaration adds an entry to the list of its kind, and
one with a complex type of its own adds a class.  The pass succeeds if each declaration can be noted
by itself and no two of one kind have one name, and then the entries are those of the declarations,
in the order of the document.
-/

namespace SchemaBinding
namespace Schema

open Xml (Spot)

/-! ## Steps with a known result -/

/-- Whether a step succeeds under a condition only, and then with a known value and portraits. -/
def Settles {α : Type} (package : String) (globals : Globals) (portraits : List Portrait)
    (step : Binding α) (condition : Prop) (value : α) (after : List Portrait) : Prop :=
  Computes package globals portraits step fun result last =>
    condition ∧ result = value ∧ last = after

namespace Settles

variable {α β : Type} {package : String} {globals : Globals}
  {portraits middle after : List Portrait}

theorem congr
    {step : Binding α}
    {condition other : Prop}
    {value : α}
    (settles : Settles package globals portraits step condition value after)
    (same : condition ↔ other) :
    Settles package globals portraits step other value after := by
  rwa [propext same] at settles

theorem bind
    {step : Binding α}
    {rest : α → Binding β}
    {condition further : Prop}
    {value : α}
    {result : β}
    (first : Settles package globals portraits step condition value middle)
    (second : condition → Settles package globals middle (rest value) further result after) :
    Settles package globals portraits (step >>= rest) (condition ∧ further) result after := by
  have next : ∀ found between, condition ∧ found = value ∧ between = middle →
      Computes package globals between (rest found) fun last final =>
        further ∧ last = result ∧ final = after := by
    rintro _ _ ⟨holds, rfl, rfl⟩
    exact second holds
  apply (Computes.bind first next).congr
  intro last final
  constructor
  · rintro ⟨_, _, ⟨holds, rfl, rfl⟩, holdsToo, same⟩
    exact ⟨⟨holds, holdsToo⟩, same⟩
  · rintro ⟨⟨holds, holdsToo⟩, same⟩
    exact ⟨_, _, ⟨holds, rfl, rfl⟩, holdsToo, same⟩

theorem pure
    (value : α) :
    Settles package globals portraits (Pure.pure value) True value portraits :=
  (Computes.pure value).congr fun _ _ => by rw [true_and]

theorem warn
    (warning : Warning) :
    Settles package globals portraits (Binding.warn warning) True () portraits :=
  (Computes.warn warning).congr fun _ _ => by simp

theorem throw
    (error : SchemaError)
    (value : α)
    (after : List Portrait) :
    Settles package globals portraits (MonadExcept.throw error) False value after :=
  (Computes.throw error).congr fun _ _ => by rw [false_and]

/-- A step after which the condition for all is that of the rest. -/
theorem thenPure
    {step : Binding α}
    {condition : Prop}
    {value : α}
    (first : Settles package globals portraits step condition value after)
    (use : α → β) :
    Settles package globals portraits (step >>= fun found => Pure.pure (use found)) condition
      (use value) after :=
  (first.bind fun _ => .pure (use value)).congr (by rw [and_true])

end Settles

/-! ## Entries -/

/-- The name that a declaration at the top declares. -/
def Setting.nameAt (setting : Setting) (spot : Spot) : ExpandedName :=
  ⟨setting.target, nameOf spot.tag⟩

/-- The type of the class for a declaration at the top. -/
def Setting.classType (setting : Setting) (spot : Spot) : TypeRef :=
  .reference setting.packageName (className (nameOf spot.tag))

/-- The entry for the declaration of a type, with the class for a complex type. -/
def notedType? (setting : Setting) (id : ClassId) (spot : Spot) :
    Option (ExpandedName × TypeDefinition) :=
  if constructOf? spot.tag = some "complexType" then
    some (setting.nameAt spot, .complex id (setting.classType spot))
  else if constructOf? spot.tag = some "simpleType" then
    some (setting.nameAt spot, .simple (simpleType spot.scope spot.content))
  else none

/-- The entry for the declaration of an element. -/
def notedElement? (setting : Setting) (spot : Spot) : Option (ExpandedName × ElementDefinition) :=
  if constructOf? spot.tag = some "element" then
    some (setting.nameAt spot, elementAt spot (setting.classType spot))
  else none

/-- The entry for the declaration of an attribute. -/
def notedAttribute? (setting : Setting) (spot : Spot) : Option (ExpandedName × TypeUse) :=
  if constructOf? spot.tag = some "attribute" then
    some (setting.nameAt spot, typeUse spot.scope spot.tag spot.content)
  else none

/-- The class for a complex type at the top, with the content that is to fill it. -/
def ComplexType.body (type : ComplexType) (id : ClassId) : ClassId × List Content :=
  (id, contents type.spot.scope type.spot.content)

/-- The registry with one more declaration. -/
def Registry.note (setting : Setting) (registry : Registry) (child : Nat × Spot) : Registry :=
  let id : ClassId := ⟨registry.bodies.length⟩
  { globals := {
      types := registry.globals.types ++ (notedType? setting id child.2).toList
      elements := registry.globals.elements ++ (notedElement? setting child.2).toList
      attributes := registry.globals.attributes ++ (notedAttribute? setting child.2).toList }
    bodies := registry.bodies ++ ((topType? child).map fun type => type.body id).toList }

/-- The registry of the declarations of a document. -/
def registryOf (setting : Setting) (document : Xml.Document) : Registry :=
  document.spot.children.foldl (Registry.note setting) {}

/-- Whether a declaration can be noted, as far as it does not depend on the others. -/
structure Registrable (setting : Setting) (spot : Spot) : Prop where
  named : constructOf? spot.tag ∈
    [some "complexType", some "simpleType", some "element", some "attribute"] →
      (spot.tag.attribute? "name").isSome
  allowed : constructOf? spot.tag ∈ [some "complexType", some "simpleType"] →
    isBuiltin (setting.nameAt spot) → setting.overwrite ≠ .deny

/-- Whether no two declarations of one kind have one name. -/
structure Globals.Proper (globals : Globals) : Prop where
  types : (globals.types.map Prod.fst).Nodup
  elements : (globals.elements.map Prod.fst).Nodup
  attributes : (globals.attributes.map Prod.fst).Nodup

/-! ## One declaration -/

section Lookup

variable {α : Type} {entries : List (ExpandedName × α)} {name : ExpandedName} {definition : α}

theorem isSome_lookup_iff :
    (entries.lookup name).isSome ↔ name ∈ entries.map Prod.fst := by
  induction entries with
  | nil => simp
  | cons entry rest inductionHypothesis =>
      rw [List.lookup_cons, List.map_cons, List.mem_cons, ← inductionHypothesis]
      by_cases same : name = entry.1
      · simp [same]
      · rw [beq_false_of_ne same]
        simp [same]

theorem mem_of_lookup
    (declared : entries.lookup name = some definition) :
    (name, definition) ∈ entries := by
  obtain ⟨before, after, rfl, _⟩ := List.lookup_eq_some_iff.1 declared
  exact List.mem_append_right _ List.mem_cons_self

/-- Entries with different names are found by their names. -/
theorem lookup_of_mem
    (proper : (entries.map Prod.fst).Nodup)
    (member : (name, definition) ∈ entries) :
    entries.lookup name = some definition := by
  obtain ⟨before, after, rfl⟩ := List.append_of_mem member
  rw [List.lookup_eq_some_iff]
  refine ⟨before, after, rfl, fun entry isBefore => bne_iff_ne.2 fun same => ?_⟩
  rw [List.map_append, List.map_cons, List.nodup_append] at proper
  exact proper.2.2 _ (List.mem_map_of_mem isBefore) _ List.mem_cons_self same.symm

end Lookup

/-- What an element at the top declares. -/
def declarationAt? (spot : Spot) : Option Declaration :=
  match constructOf? spot.tag with
  | some "complexType" =>
      some (.complexType (required spot.tag "name") (contents spot.scope spot.content))
  | some "simpleType" =>
      some (.simpleType (required spot.tag "name") (simpleType spot.scope spot.content))
  | some "element" =>
      some (.element (required spot.tag "name") (typeUse spot.scope spot.tag spot.content)
        (body? spot.scope spot.content))
  | some "attribute" =>
      some (.attributeType (required spot.tag "name") (typeUse spot.scope spot.tag spot.content))
  | none | some "annotation" | some "notation" | some "defaultOpenContent" => none
  | some other =>
      if other ∈ ["import", "include", "redefine", "override"] then
        some (.external other (spot.tag.attribute? "schemaLocation"))
      else some (.unsupported other)

theorem declaration?_eq
    (scope : Xml.Scope)
    (node : Xml.Node) :
    declaration? scope node = (node.spot? scope).bind declarationAt? := by
  cases node <;> rfl

theorem declarations_eq
    (document : Xml.Document) :
    document.children.filterMap (declaration? document.scope) =
      document.spot.children.filterMap fun child => declarationAt? child.2 := by
  rw [List.filterMap_eq_flatMap_toList, List.filterMap_eq_flatMap_toList]
  have same : ∀ node, (declaration? document.scope node).toList =
      (node.spot? document.scope).elim [] fun spot => (declarationAt? spot).toList := by
    intro node
    rw [declaration?_eq]
    cases node.spot? document.scope <;> rfl
  exact document.spot.flatMap_content same

section FirstPass

variable {setting : Setting} {portraits : List Portrait} {registry : Registry} {spot : Spot}
  {package : String}

theorem settles_declaredName
    (spot : Spot) :
    Settles package {} portraits (Registry.declaredName setting (required spot.tag "name"))
      (spot.tag.attribute? "name").isSome (setting.nameAt spot) portraits := by
  unfold Registry.declaredName required Setting.nameAt nameOf
  cases spot.tag.attribute? "name" with
  | none => exact (Settles.throw _ _ _).congr (by simp)
  | some name => exact (Settles.pure _).congr (by simp)

theorem settles_checkOverwrite
    (name : ExpandedName) :
    Settles package {} portraits (Registry.checkOverwrite setting name)
      (isBuiltin name → setting.overwrite ≠ .deny) () portraits := by
  unfold Registry.checkOverwrite
  split_ifs with builtin
  · cases setting.overwrite with
    | deny => exact (Settles.throw _ _ _).congr (by simp [builtin])
    | warn => exact (Settles.warn _).congr (by simp)
    | allow => exact (Settles.pure _).congr (by simp)
  · exact (Settles.pure _).congr (by simp [builtin])

theorem settles_addTopClass
    (isFirst : setting.package = ⟨0⟩)
    {type : ComplexType}
    (named : type.named = spot.tag)
    (isTop : type.around? = none) :
    Settles package {} portraits (Registry.addTopClass setting (setting.nameAt spot)) True
      (⟨portraits.length⟩, setting.classType spot) (portraits ++ [⟨type, [], []⟩]) := by
  have created : Settles package {} portraits
      (Binding.addClass (className (setting.nameAt spot).localName) setting.package none) True
      ⟨portraits.length⟩ (portraits ++ [⟨type, [], []⟩]) := by
    have around : (none : Option ClassId).map (typeAt portraits) = type.around?.map some := by
      rw [isTop]
      rfl
    rw [isFirst, Setting.nameAt, ← named]
    exact (Computes.addClass type around).congr fun _ _ => by rw [true_and]
  exact created.thenPure fun id => (id, setting.classType spot)

theorem settles_insertNew
    {α : Type}
    {entries : List (ExpandedName × α)}
    (proper : (entries.map Prod.fst).Nodup)
    (name : ExpandedName)
    (definition : α) :
    Settles package {} portraits (Registry.insertNew entries name definition)
      ((entries ++ [(name, definition)]).map Prod.fst).Nodup (entries ++ [(name, definition)])
      portraits := by
  have fresh_iff : ((entries ++ [(name, definition)]).map Prod.fst).Nodup ↔
      ¬(entries.lookup name).isSome := by
    rw [isSome_lookup_iff, List.map_append, List.map_singleton, ← List.concat_eq_append,
      List.nodup_concat]
    exact and_iff_left proper
  unfold Registry.insertNew
  split_ifs with declared
  · exact (Settles.throw _ _ _).congr (by rw [fresh_iff, false_iff, not_not]; exact declared)
  · exact (Settles.pure _).congr (by rw [fresh_iff, true_iff]; exact declared)

/-- Notes what an element at the top declares. -/
def registerAt (setting : Setting) (registry : Registry) (child : Nat × Spot) : Binding Registry :=
  match declarationAt? child.2 with
  | some declaration => Registry.register setting registry declaration
  | none => return registry

/-- The portrait of a class that has been given nothing. -/
def ComplexType.blank (type : ComplexType) : Portrait :=
  ⟨type, [], []⟩

/-- Whether a declaration is noted if it can be noted by itself and its name is new among those of its
kind, and whether a class is then created for its complex type. -/
def IsNoted (package : String) (setting : Setting) (portraits : List Portrait)
    (registry : Registry) (child : Nat × Spot) : Prop :=
  Settles package {} portraits (registerAt setting registry child)
    (Registrable setting child.2 ∧ (registry.note setting child).globals.Proper)
    (registry.note setting child) (portraits ++ ((topType? child).map ComplexType.blank).toList)

variable {child : Nat × Spot}

theorem isNoted_complexType
    (isFirst : setting.package = ⟨0⟩)
    (length : portraits.length = registry.bodies.length)
    (proper : registry.globals.Proper)
    (construct : constructOf? child.2.tag = some "complexType") :
    IsNoted package setting portraits registry child := by
  unfold IsNoted
  have isTop : topType? child = some (.top child.2.tag [child.1] child.2) := by
    simp [topType?, construct]
  have noted : registry.note setting child =
      { globals := { registry.globals with
          types := registry.globals.types ++ [(setting.nameAt child.2,
            .complex ⟨portraits.length⟩ (setting.classType child.2))] }
        bodies := registry.bodies ++
          [(⟨portraits.length⟩, contents child.2.scope child.2.content)] } := by
    simp [Registry.note, notedType?, notedElement?, notedAttribute?, construct, isTop, length,
      ComplexType.body, ComplexType.spot]
  rw [noted, isTop, registerAt, declarationAt?, construct]
  refine Settles.congr (.bind (settles_declaredName child.2) fun _ =>
    .bind (settles_checkOverwrite _) fun _ => .bind (settles_addTopClass isFirst rfl rfl) fun _ =>
      .thenPure (settles_insertNew proper.types _ _) _) ?_
  constructor
  · rintro ⟨named, allowed, _, fresh⟩
    exact ⟨⟨fun _ => named, fun _ => allowed⟩, fresh, proper.elements, proper.attributes⟩
  · rintro ⟨registrable, properNow⟩
    exact ⟨registrable.named (by simp [construct]), registrable.allowed (by simp [construct]), trivial,
      properNow.types⟩

theorem isNoted_simpleType
    (proper : registry.globals.Proper)
    (construct : constructOf? child.2.tag = some "simpleType") :
    IsNoted package setting portraits registry child := by
  unfold IsNoted
  have isNoTop : topType? child = none := by
    simp [topType?, construct]
  have noted : registry.note setting child =
      { registry with globals := { registry.globals with
          types := registry.globals.types ++ [(setting.nameAt child.2,
            .simple (simpleType child.2.scope child.2.content))] } } := by
    simp [Registry.note, notedType?, notedElement?, notedAttribute?, construct, isNoTop]
  rw [noted, isNoTop, Option.map_none, Option.toList_none, List.append_nil, registerAt,
    declarationAt?, construct]
  refine Settles.congr (.bind (settles_declaredName child.2) fun _ =>
    .bind (settles_checkOverwrite _) fun _ =>
      .thenPure (settles_insertNew proper.types _ _) _) ?_
  constructor
  · rintro ⟨named, allowed, fresh⟩
    exact ⟨⟨fun _ => named, fun _ => allowed⟩, fresh, proper.elements, proper.attributes⟩
  · rintro ⟨registrable, properNow⟩
    exact ⟨registrable.named (by simp [construct]), registrable.allowed (by simp [construct]),
      properNow.types⟩

theorem isNoted_element
    (isFirst : setting.package = ⟨0⟩)
    (length : portraits.length = registry.bodies.length)
    (proper : registry.globals.Proper)
    (construct : constructOf? child.2.tag = some "element") :
    IsNoted package setting portraits registry child := by
  unfold IsNoted
  have isTop : topType? child = (firstComplexType? child.2).map fun found =>
      .top child.2.tag [child.1, found.1] found.2 := by
    simp [topType?, construct]
  have noted : registry.note setting child =
      { globals := { registry.globals with
          elements := registry.globals.elements ++ [(setting.nameAt child.2,
            elementAt child.2 (setting.classType child.2))] }
        bodies := registry.bodies ++ ((topType? child).map fun type =>
          type.body ⟨portraits.length⟩).toList } := by
    simp [Registry.note, notedType?, notedElement?, notedAttribute?, construct, length]
  rw [noted, isTop, registerAt, declarationAt?, construct, elementAt]
  dsimp only
  rw [body?_eq]
  have registrable_iff : Registrable setting child.2 ↔
      (child.2.tag.attribute? "name").isSome := by
    constructor
    · exact fun registrable => registrable.named (by simp [construct])
    · exact fun named => ⟨fun _ => named, fun isType => by simp [construct] at isType⟩
  cases firstComplexType? child.2 with
  | none =>
      simp only [Option.map_none, Option.toList_none, List.append_nil]
      refine Settles.congr (.bind (settles_declaredName child.2) fun _ =>
        .thenPure (settles_insertNew proper.elements _ _) _) ?_
      rw [registrable_iff]
      constructor
      · rintro ⟨named, fresh⟩
        exact ⟨named, proper.types, fresh, proper.attributes⟩
      · rintro ⟨named, properNow⟩
        exact ⟨named, properNow.elements⟩
  | some found =>
      refine Settles.congr (.bind (settles_declaredName child.2) fun _ =>
        .bind (settles_addTopClass isFirst rfl rfl) fun _ =>
          .thenPure (settles_insertNew proper.elements _ _) _) ?_
      rw [registrable_iff]
      constructor
      · rintro ⟨named, _, fresh⟩
        exact ⟨named, proper.types, fresh, proper.attributes⟩
      · rintro ⟨named, properNow⟩
        exact ⟨named, trivial, properNow.elements⟩

theorem isNoted_attribute
    (proper : registry.globals.Proper)
    (construct : constructOf? child.2.tag = some "attribute") :
    IsNoted package setting portraits registry child := by
  unfold IsNoted
  have isNoTop : topType? child = none := by
    simp [topType?, construct]
  have noted : registry.note setting child =
      { registry with globals := { registry.globals with
          attributes := registry.globals.attributes ++ [(setting.nameAt child.2,
            typeUse child.2.scope child.2.tag child.2.content)] } } := by
    simp [Registry.note, notedType?, notedElement?, notedAttribute?, construct, isNoTop]
  rw [noted, isNoTop, Option.map_none, Option.toList_none, List.append_nil, registerAt,
    declarationAt?, construct]
  refine Settles.congr (.bind (settles_declaredName child.2) fun _ =>
    .thenPure (settles_insertNew proper.attributes _ _) _) ?_
  constructor
  · rintro ⟨named, fresh⟩
    exact ⟨⟨fun _ => named, fun isType => by simp [construct] at isType⟩, proper.types,
      proper.elements, fresh⟩
  · rintro ⟨registrable, properNow⟩
    exact ⟨registrable.named (by simp [construct]), properNow.attributes⟩

/-- What declares nothing may be reported and changes nothing. -/
theorem isNoted_other
    (proper : registry.globals.Proper)
    (noComplex : constructOf? child.2.tag ≠ some "complexType")
    (noSimple : constructOf? child.2.tag ≠ some "simpleType")
    (noElement : constructOf? child.2.tag ≠ some "element")
    (noAttribute : constructOf? child.2.tag ≠ some "attribute") :
    IsNoted package setting portraits registry child := by
  unfold IsNoted
  have noted : registry.note setting child = registry := by
    simp [Registry.note, notedType?, notedElement?, notedAttribute?, topType?, noComplex, noSimple,
      noElement, noAttribute]
  have isNoTop : topType? child = none := by
    simp [topType?, noComplex, noElement]
  have holds : True ↔ Registrable setting child.2 ∧ registry.globals.Proper := by
    refine (iff_of_true ⟨⟨fun isNamed => ?_, fun isType => ?_⟩, proper⟩ trivial).symm
    · simp [noComplex, noSimple, noElement, noAttribute] at isNamed
    · simp [noComplex, noSimple] at isType
  rw [noted, isNoTop, Option.map_none, Option.toList_none, List.append_nil]
  unfold registerAt declarationAt?
  split
  next declaration declared =>
    split at declared
    next isComplex => exact absurd isComplex noComplex
    next isSimple => exact absurd isSimple noSimple
    next isElement => exact absurd isElement noElement
    next isAttribute => exact absurd isAttribute noAttribute
    next => cases declared
    next => cases declared
    next => cases declared
    next => cases declared
    next =>
      split_ifs at declared
      · cases declared
        exact ((Settles.warn _).thenPure _).congr holds
      · cases declared
        exact ((Settles.warn _).thenPure _).congr holds
  next => exact (Settles.pure _).congr holds

/-- Declarations of all kinds are noted. -/
theorem isNoted
    (isFirst : setting.package = ⟨0⟩)
    (length : portraits.length = registry.bodies.length)
    (proper : registry.globals.Proper)
    (child : Nat × Spot) :
    IsNoted package setting portraits registry child := by
  by_cases isComplex : constructOf? child.2.tag = some "complexType"
  · exact isNoted_complexType isFirst length proper isComplex
  by_cases isSimple : constructOf? child.2.tag = some "simpleType"
  · exact isNoted_simpleType proper isSimple
  by_cases isElement : constructOf? child.2.tag = some "element"
  · exact isNoted_element isFirst length proper isElement
  by_cases isAttribute : constructOf? child.2.tag = some "attribute"
  · exact isNoted_attribute proper isAttribute
  · exact isNoted_other proper isComplex isSimple isElement isAttribute

/-! ## All declarations -/

theorem Globals.Proper.of_note
    (proper : (registry.note setting child).globals.Proper) :
    registry.globals.Proper where
  types := proper.types.sublist ((List.sublist_append_left _ _).map _)
  elements := proper.elements.sublist ((List.sublist_append_left _ _).map _)
  attributes := proper.attributes.sublist ((List.sublist_append_left _ _).map _)

theorem Globals.Proper.of_foldl_note
    {children : List (Nat × Spot)}
    (proper : (children.foldl (Registry.note setting) registry).globals.Proper) :
    registry.globals.Proper := by
  induction children generalizing registry with
  | nil => exact proper
  | cons child rest inductionHypothesis => exact (inductionHypothesis proper).of_note

/-- Declarations are noted if each can be noted by itself and no two of one kind have one name. -/
theorem settles_registerAll
    (isFirst : setting.package = ⟨0⟩)
    (length : portraits.length = registry.bodies.length)
    (proper : registry.globals.Proper)
    (children : List (Nat × Spot)) :
    Settles package {} portraits (children.foldlM (registerAt setting) registry)
      ((∀ child ∈ children, Registrable setting child.2) ∧
        (children.foldl (Registry.note setting) registry).globals.Proper)
      (children.foldl (Registry.note setting) registry)
      (portraits ++ (children.filterMap topType?).map ComplexType.blank) := by
  induction children generalizing registry portraits with
  | nil =>
      rw [List.foldlM_nil, List.filterMap_nil, List.map_nil, List.append_nil]
      exact (Settles.pure registry).congr (by simpa using proper)
  | cons child rest inductionHypothesis =>
      rw [List.foldlM_cons, List.foldl_cons]
      have lengthNext : (portraits ++ ((topType? child).map ComplexType.blank).toList).length =
          (registry.note setting child).bodies.length := by
        cases isTop : topType? child <;> simp [Registry.note, isTop, length]
      have same : portraits ++ ((topType? child).map ComplexType.blank).toList ++
          (rest.filterMap topType?).map ComplexType.blank =
            portraits ++ ((child :: rest).filterMap topType?).map ComplexType.blank := by
        rw [List.filterMap_cons]
        cases topType? child <;> simp
      rw [← same]
      -- That names differ is asked at every step; names that differ in the end have always differed.
      refine Settles.congr (.bind (isNoted isFirst length proper child) fun noted =>
        inductionHypothesis lengthNext noted.2) ?_
      rw [List.forall_mem_cons]
      constructor
      · rintro ⟨⟨registrable, _⟩, others, properAll⟩
        exact ⟨⟨registrable, others⟩, properAll⟩
      · rintro ⟨⟨registrable, others⟩, properAll⟩
        exact ⟨⟨registrable, properAll.of_foldl_note⟩, others, properAll⟩

theorem foldlM_declarations
    (document : Xml.Document)
    (registry : Registry) :
    (document.children.filterMap (declaration? document.scope)).foldlM
      (Registry.register setting) registry =
        document.spot.children.foldlM (registerAt setting) registry := by
  rw [declarations_eq, List.foldlM_filterMap]
  congr 1
  funext before child
  unfold registerAt
  cases declarationAt? child.2 <;> rfl

variable (package setting) in
/-- The first pass over a document notes its declarations and creates the classes for the complex
types at its top. -/
theorem settles_declarations
    (isFirst : setting.package = ⟨0⟩)
    (document : Xml.Document) :
    Settles package {} []
      ((document.children.filterMap (declaration? document.scope)).foldlM
        (Registry.register setting) {})
      ((∀ child ∈ document.spot.children, Registrable setting child.2) ∧
        (registryOf setting document).globals.Proper)
      (registryOf setting document) ((topTypes document).map ComplexType.blank) := by
  have properNow : ({} : Registry).globals.Proper := ⟨.nil, .nil, .nil⟩
  have length : ([] : List Portrait).length = ({} : Registry).bodies.length := rfl
  rw [foldlM_declarations]
  exact settles_registerAll isFirst length properNow document.spot.children

end FirstPass

/-! ## What is noted -/

section Noted

variable {setting : Setting} {document : Xml.Document} {name : ExpandedName}

/-- What each declaration adds to a list is there in the order of the declarations. -/
theorem foldl_note_eq
    {Entry : Type}
    (entries : Registry → List Entry)
    (noted? : Nat × Spot → Option Entry)
    (adds : ∀ registry child,
      entries (registry.note setting child) = entries registry ++ (noted? child).toList)
    (registry : Registry)
    (children : List (Nat × Spot)) :
    entries (children.foldl (Registry.note setting) registry) =
      entries registry ++ children.filterMap noted? := by
  induction children generalizing registry with
  | nil => simp
  | cons child rest inductionHypothesis =>
      rw [List.foldl_cons, inductionHypothesis, adds, List.filterMap_cons, List.append_assoc]
      cases noted? child <;> rfl

theorem elements_registryOf :
    (registryOf setting document).globals.elements =
      document.spot.children.filterMap fun child => notedElement? setting child.2 :=
  foldl_note_eq (fun registry => registry.globals.elements) _ (fun _ _ => rfl) {} _

theorem attributes_registryOf :
    (registryOf setting document).globals.attributes =
      document.spot.children.filterMap fun child => notedAttribute? setting child.2 :=
  foldl_note_eq (fun registry => registry.globals.attributes) _ (fun _ _ => rfl) {} _

/-- A type that is declared, without the number of its class. -/
def TypeDefinition.unnumbered : TypeDefinition → TypeDefinition
  | .complex _ type => .complex ⟨0⟩ type
  | .simple definition => .simple definition

theorem map_fst_unnumbered
    (entries : List (ExpandedName × TypeDefinition)) :
    (entries.map (Prod.map id TypeDefinition.unnumbered)).map Prod.fst = entries.map Prod.fst := by
  rw [List.map_map]
  rfl

theorem types_registryOf :
    (registryOf setting document).globals.types.map (Prod.map id TypeDefinition.unnumbered) =
      document.spot.children.filterMap fun child => notedType? setting ⟨0⟩ child.2 := by
  apply foldl_note_eq
    (fun registry => registry.globals.types.map (Prod.map id TypeDefinition.unnumbered)) _ _ {}
  intro registry child
  unfold Registry.note notedType?
  split_ifs <;> simp [TypeDefinition.unnumbered]

theorem bodies_foldl_note
    (registry : Registry)
    (children : List (Nat × Spot)) :
    (children.foldl (Registry.note setting) registry).bodies =
      registry.bodies ++ ((children.filterMap topType?).zipIdx registry.bodies.length).map
        fun (type, index) => type.body ⟨index⟩ := by
  induction children generalizing registry with
  | nil => simp
  | cons child rest inductionHypothesis =>
      rw [List.foldl_cons, inductionHypothesis, List.filterMap_cons]
      cases isTop : topType? child <;> simp [Registry.note, isTop, List.zipIdx_cons]

/-- The classes that the first pass creates are numbered in the order of their complex types. -/
theorem bodies_registryOf :
    (registryOf setting document).bodies =
      (topTypes document).zipIdx.map fun (type, index) => type.body ⟨index⟩ :=
  bodies_foldl_note {} _

theorem mem_types_foldl_note
    {entry : ExpandedName × TypeDefinition}
    (registry : Registry)
    (children : List (Nat × Spot)) :
    entry ∈ (children.foldl (Registry.note setting) registry).globals.types ↔
      entry ∈ registry.globals.types ∨ ∃ before child after, children = before ++ child :: after ∧
        notedType? setting ⟨registry.bodies.length + (before.filterMap topType?).length⟩ child.2 =
          some entry := by
  induction children generalizing registry with
  | nil => simp
  | cons first rest inductionHypothesis =>
      have length : (registry.note setting first).bodies.length =
          registry.bodies.length + (topType? first).toList.length := by
        cases isTop : topType? first <;> simp [Registry.note, isTop]
      have lengthCons : ∀ before, ((first :: before).filterMap topType?).length =
          (topType? first).toList.length + (before.filterMap topType?).length := by
        intro before
        cases isTop : topType? first <;> simp [isTop, Nat.add_comm]
      rw [List.foldl_cons, inductionHypothesis, length, Registry.note]
      dsimp only
      rw [List.mem_append, Option.mem_toList, or_assoc]
      refine or_congr_right ⟨?_, ?_⟩
      · rintro (isFirst | ⟨before, child, after, rfl, isEntry⟩)
        · exact ⟨[], first, rest, rfl, isFirst⟩
        · refine ⟨first :: before, child, after, rfl, ?_⟩
          rw [lengthCons, ← Nat.add_assoc]
          exact isEntry
      · rintro ⟨before, child, after, split, isEntry⟩
        cases before with
        | nil =>
            obtain ⟨rfl, rfl⟩ := List.cons.inj split
            exact .inl isEntry
        | cons other before =>
            obtain ⟨rfl, rfl⟩ := List.cons.inj split
            rw [lengthCons, ← Nat.add_assoc] at isEntry
            exact .inr ⟨before, child, after, rfl, isEntry⟩

theorem mem_types_registryOf
    {definition : TypeDefinition} :
    (name, definition) ∈ (registryOf setting document).globals.types ↔
      ∃ before child after, document.spot.children = before ++ child :: after ∧
        notedType? setting ⟨(before.filterMap topType?).length⟩ child.2 = some (name, definition) := by
  rw [registryOf, mem_types_foldl_note]
  simp

/-- The number of the class for a complex type at the top is the position of the type. -/
theorem getElem?_topTypes
    {before after : List (Nat × Spot)}
    {child : Nat × Spot}
    {type : ComplexType}
    (split : document.spot.children = before ++ child :: after)
    (isTop : topType? child = some type) :
    (topTypes document)[(before.filterMap topType?).length]? = some type := by
  unfold topTypes
  rw [split, List.filterMap_append, List.getElem?_append_right (Nat.le_refl _), Nat.sub_self,
    List.filterMap_cons, isTop]
  rfl

/-- A complex type that is noted under a name is declared at the top under that name. -/
theorem complex_of_mem_types
    {id : ClassId}
    {type : TypeRef}
    (noted : (name, .complex id type) ∈ (registryOf setting document).globals.types) :
    ∃ child ∈ document.spot.children, constructOf? child.2.tag = some "complexType" ∧
      setting.nameAt child.2 = name ∧ setting.classType child.2 = type ∧
      (topTypes document)[id.index]? = some (.top child.2.tag [child.1] child.2) := by
  obtain ⟨before, child, after, split, isEntry⟩ := mem_types_registryOf.1 noted
  unfold notedType? at isEntry
  split_ifs at isEntry with isComplex isSimple
  · obtain ⟨rfl, same⟩ := Prod.mk.inj (Option.some.inj isEntry)
    obtain ⟨rfl, rfl⟩ := TypeDefinition.complex.inj same
    have isTop : topType? child = some (.top child.2.tag [child.1] child.2) :=
      topType?_eq_some_iff.2 (.inl ⟨isComplex, rfl⟩)
    refine ⟨child, ?_, isComplex, rfl, rfl, getElem?_topTypes split isTop⟩
    rw [split]
    exact List.mem_append_right _ List.mem_cons_self
  · cases (Prod.mk.inj (Option.some.inj isEntry)).2

/-- A complex type that is declared at the top is noted with the number of its class. -/
theorem mem_types_of_complex
    {child : Nat × Spot}
    (isChild : child ∈ document.spot.children)
    (isComplex : constructOf? child.2.tag = some "complexType") :
    ∃ id, (setting.nameAt child.2, .complex id (setting.classType child.2)) ∈
        (registryOf setting document).globals.types ∧
      (topTypes document)[id.index]? = some (.top child.2.tag [child.1] child.2) := by
  obtain ⟨before, after, split⟩ := List.append_of_mem isChild
  have isTop : topType? child = some (.top child.2.tag [child.1] child.2) :=
    topType?_eq_some_iff.2 (.inl ⟨isComplex, rfl⟩)
  refine ⟨⟨(before.filterMap topType?).length⟩,
    mem_types_registryOf.2 ⟨before, child, after, split, ?_⟩,
    getElem?_topTypes split isTop⟩
  rw [notedType?, if_pos isComplex]

/-- The simple types that are noted are those declared at the top. -/
theorem simple_mem_types_iff
    {definition : SimpleType} :
    (name, .simple definition) ∈ (registryOf setting document).globals.types ↔
      ∃ child ∈ document.spot.children, constructOf? child.2.tag = some "simpleType" ∧
        setting.nameAt child.2 = name ∧ simpleType child.2.scope child.2.content = definition := by
  rw [mem_types_registryOf]
  constructor
  · rintro ⟨before, child, after, split, isEntry⟩
    unfold notedType? at isEntry
    split_ifs at isEntry with isComplex isSimple
    · cases (Prod.mk.inj (Option.some.inj isEntry)).2
    · obtain ⟨rfl, same⟩ := Prod.mk.inj (Option.some.inj isEntry)
      refine ⟨child, ?_, isSimple, rfl, TypeDefinition.simple.inj same⟩
      rw [split]
      exact List.mem_append_right _ List.mem_cons_self
  · rintro ⟨child, isChild, isSimple, rfl, rfl⟩
    obtain ⟨before, after, split⟩ := List.append_of_mem isChild
    refine ⟨before, child, after, split, ?_⟩
    rw [notedType?, if_neg (by simp [isSimple]), if_pos isSimple]

theorem mem_elements_iff
    {definition : ElementDefinition} :
    (name, definition) ∈ (registryOf setting document).globals.elements ↔
      ∃ child ∈ document.spot.children, constructOf? child.2.tag = some "element" ∧
        setting.nameAt child.2 = name ∧
        elementAt child.2 (setting.classType child.2) = definition := by
  rw [elements_registryOf, List.mem_filterMap]
  refine exists_congr fun child => and_congr_right fun _ => ?_
  unfold notedElement?
  split_ifs with isElement <;> simp [isElement]

theorem mem_attributes_iff
    {definition : TypeUse} :
    (name, definition) ∈ (registryOf setting document).globals.attributes ↔
      ∃ child ∈ document.spot.children, constructOf? child.2.tag = some "attribute" ∧
        setting.nameAt child.2 = name ∧
        typeUse child.2.scope child.2.tag child.2.content = definition := by
  rw [attributes_registryOf, List.mem_filterMap]
  refine exists_congr fun child => and_congr_right fun _ => ?_
  unfold notedAttribute?
  split_ifs with isAttribute <;> simp [isAttribute]

/-- Declared complex types have classes of their own. -/
theorem distinct_registryOf :
    (registryOf setting document).globals.Distinct := by
  rintro id first second ⟨_, isFirst⟩ ⟨_, isSecond⟩
  obtain ⟨_, _, _, rfl, _, atFirst⟩ := complex_of_mem_types (mem_of_lookup isFirst)
  obtain ⟨_, _, _, rfl, _, atSecond⟩ := complex_of_mem_types (mem_of_lookup isSecond)
  rw [atFirst, Option.some.injEq, ComplexType.top.injEq] at atSecond
  rw [Setting.nameAt, Setting.nameAt, atSecond.1]

theorem index_lt_of_declares
    {id : ClassId}
    (declares : (registryOf setting document).globals.Declares id name) :
    id.index < (topTypes document).length := by
  obtain ⟨_, declared⟩ := declares
  obtain ⟨_, _, _, _, _, isTop⟩ := complex_of_mem_types (mem_of_lookup declared)
  exact (List.getElem?_eq_some_iff.1 isTop).1

end Noted

end Schema
end SchemaBinding
