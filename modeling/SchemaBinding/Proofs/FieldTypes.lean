import SchemaBinding.Proofs.SchemaFields

/-!
# Types of fields

No field of the outline of a schema refers to a class that does not exist.  Whatever occurs in the
type of a field is a primitive, a core type, a list or the type of a class of the outline.
-/

namespace SchemaBinding

/-- Whether a type occurs in another one, as the whole or in an argument at any depth. -/
inductive TypeRef.Occurs (type : TypeRef) : TypeRef → Prop
  /-- As the whole. -/
  | itself : Occurs type type
  /-- In an argument. -/
  | inside {whole argument : TypeRef} (member : argument ∈ whole.arguments)
      (occurs : Occurs type argument) : Occurs type whole

namespace Schema

/-- Whether a type is one that fields may have: a primitive or a core type that built-in types are
bound to, a list, or the type of a class, which the outline finds by that type. -/
def Known (outline : Outline) (type : TypeRef) : Prop :=
  (∃ name ∈ primitiveNames, type = .primitive name) ∨ (∃ name ∈ coreNames, type = .core name) ∨
    (∃ item, type = .listOf item) ∨
    ∃ id ∈ outline.classIds, outline.typeOf? id = some type ∧ outline.classOf? type = some id

/-- Whether all that occurs in a type is known. -/
def Closed (outline : Outline) (type : TypeRef) : Prop :=
  ∀ part : TypeRef, part.Occurs type → Known outline part

section Closed

variable {document : Xml.Document} {outline : Outline} {types : List ComplexType}
  {type : TypeRef}

theorem closed_of_flat
    (known : Known outline type)
    (flat : type.arguments = []) :
    Closed outline type := by
  intro part occurs
  cases occurs with
  | itself => exact known
  | inside member => simp [flat] at member

theorem closed_core
    {name : String}
    (known : name ∈ coreNames) :
    Closed outline (.core name) :=
  closed_of_flat (.inr (.inl ⟨name, known, rfl⟩)) rfl

theorem Closed.listOf
    (closed : Closed outline type) :
    Closed outline (.listOf type) := by
  intro part occurs
  cases occurs with
  | itself => exact .inr (.inr (.inl ⟨type, rfl⟩))
  | inside member occurs =>
      obtain rfl := List.mem_singleton.1 member
      exact closed part occurs

theorem Closed.particleType
    (closed : Closed outline type)
    (many : Bool) :
    Closed outline (particleType many type) := by
  cases many with
  | true => exact closed.listOf
  | false => exact closed

/-- The type of a class is known, and has no arguments. -/
theorem closed_of_typeOf?
    (formed : outline.WellFormed)
    {id : ClassId}
    (isClass : id ∈ outline.classIds)
    (typed : outline.typeOf? id = some type) :
    Closed outline type := by
  obtain ⟨_, _, _, _, isReference⟩ := formed.typed id isClass
  rw [typed, Option.some.injEq] at isReference
  have found := formed.classOf?_of_typeOf? isClass typed
  exact closed_of_flat (.inr (.inr (.inr ⟨id, isClass, typed, found⟩))) (isReference ▸ rfl)

theorem closed_of_hasClass
    (formed : outline.WellFormed)
    (madeFor : MadeFor outline types)
    {complexType : ComplexType}
    (hasClass : HasClass outline types complexType type) :
    Closed outline type := by
  obtain ⟨id, isType, typed⟩ := hasClass
  have bound := (List.getElem?_eq_some_iff.1 isType).1
  exact closed_of_typeOf? formed (Outline.mem_classIds.2 (madeFor.length ▸ bound)) typed

/-- What the use of a type stands for is closed. -/
theorem UseType.closed
    (formed : outline.WellFormed)
    (madeFor : MadeFor outline types)
    {use : TypeUse}
    (useType : UseType document outline types use type) :
    Closed outline type := by
  have string : Closed outline .string := closed_core (by decide)
  induction useType with
  | absent | union | undefined => exact string
  | restriction isBase inductionHypothesis => exact inductionHypothesis
  | list isItem inductionHypothesis => exact inductionHypothesis.listOf
  | complexType declares hasClass => exact closed_of_hasClass formed madeFor hasClass
  | simpleType declares defined inductionHypothesis => exact inductionHypothesis
  | builtin undeclared isBuiltin =>
      rcases builtinType?_cases isBuiltin with
        ⟨name, known, rfl⟩ | ⟨name, known, rfl⟩ | ⟨name, known, rfl⟩
      · exact closed_of_flat (.inl ⟨name, known, rfl⟩) rfl
      · exact closed_core known
      · exact (closed_core known).listOf

theorem ElementType.closed
    (formed : outline.WellFormed)
    (madeFor : MadeFor outline types)
    {spot : Xml.Spot}
    {anonymous : Nat → Xml.Spot → ComplexType}
    (elementType : ElementType document outline types spot anonymous type) :
    Closed outline type := by
  cases elementType with
  | named use useType | simple noComplex use useType => exact useType.closed formed madeFor
  | anonymous noType first hasClass => exact closed_of_hasClass formed madeFor hasClass
  | absent => exact closed_core (by decide)

theorem FieldOf.closed
    (formed : outline.WellFormed)
    (madeFor : MadeFor outline types)
    {around : ComplexType}
    {item : Item}
    {field : String × TypeRef}
    (fieldOf : FieldOf document outline types around item field) :
    Closed outline field.2 := by
  cases fieldOf with
  | element isElement noReference isName many_iff elementType =>
      exact (elementType.closed formed madeFor).particleType _
  | elementReference isElement isReference resolved declares many_iff elementType =>
      exact (elementType.closed formed madeFor).particleType _
  | attributeUse isAttribute noReference isName useType => exact useType.closed formed madeFor
  | attributeReference isAttribute isReference resolved declares useType =>
      exact useType.closed formed madeFor
  | foreignAttribute => exact closed_core (by decide)
  | value isBase given resolved useType => exact useType.closed formed madeFor

end Closed

/-- Whatever occurs in the type of a field of the outline of a schema is a primitive, a core type, a
list or the type of a class of the outline, by which the class is found.  Each field has the type that
the part of the content that it is made for stands for in the finished outline, also where the part
refers to a complex type that comes later. -/
theorem closed_fields
    {options : BindingOptions}
    {document : Xml.Document}
    {outline : Outline}
    (accepted : (bindXml options document).1 = .ok outline) :
    ∃ types, Enumerates document types ∧ MadeFor outline types ∧
      ∀ id ∈ outline.classIds, ∀ field ∈ outline.fieldList id,
        Closed outline field.2 ∧ ∃ type item, types[id.index]? = some type ∧ Mapped type.spot item ∧
          FieldOf document outline types type item field := by
  obtain ⟨portraits, describes, depicts⟩ := depicts_of_accepted accepted
  have madeFor := madeFor_complexTypes describes depicts
  refine ⟨complexTypes document, enumerates_complexTypes document, madeFor, ?_⟩
  intro id isClass field isField
  have bound : id.index < (complexTypes document).length :=
    madeFor.length ▸ Outline.mem_classIds.1 isClass
  have isType := List.getElem?_eq_getElem bound
  obtain ⟨item, mapped, fieldOf⟩ := describes.exists_fieldOf depicts isType isField
  exact ⟨fieldOf.closed depicts.formed madeFor, _, item, isType, mapped, fieldOf⟩

theorem supply_closed :
    (bindXml {} supplySchema).1 = .ok supplyOutline ∧
      Known supplyOutline (.reference "supply" "Rush.Stop") := by
  obtain ⟨types, _, _, closed⟩ := closed_fields supply_accepted
  have isField : ("stop", .listOf (.reference "supply" "Rush.Stop")) ∈
      supplyOutline.fieldList ⟨0⟩ := by decide
  have all := (closed ⟨0⟩ (by decide) _ isField).1
  exact ⟨supply_accepted, all _ (.inside List.mem_cons_self .itself)⟩

end Schema
end SchemaBinding
