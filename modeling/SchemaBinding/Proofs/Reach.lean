import SchemaBinding.Proofs.Registration

/-!
# The reach of references

How far the meaning of a part of a schema depends on what the schema declares: on the uses of types,
and on the elements and attributes at the top, that references lead to from the part.  If two schemas
declare the same as far as references reach, the part contributes the same to its class.
-/

namespace SchemaBinding
namespace Schema

open Xml (Spot)

/-! ## Resolution -/

section Resolution

variable {globals : Globals} {pending : List ExpandedName} {name : ExpandedName}

theorem resolveUse_of_complex
    {id : ClassId}
    {type : TypeRef}
    (declared : globals.types.lookup name = some (.complex id type)) :
    globals.resolveUse pending (.named (.ok name)) = .ok type := by
  rw [Globals.resolveUse]
  split <;> simp_all

theorem resolveUse_of_simple
    {definition : SimpleType}
    (declared : globals.types.lookup name = some (.simple definition)) :
    globals.resolveUse pending (.named (.ok name)) =
      if name ∈ pending then .error (.circularType name.localName)
      else globals.resolveUse (name :: pending) (.inline definition) := by
  rw [Globals.resolveUse]
  split <;> simp_all

theorem resolveUse_of_undeclared
    (undeclared : globals.types.lookup name = none) :
    globals.resolveUse pending (.named (.ok name)) =
      (builtinType? name).elim (.error (.unresolvedType name)) .ok := by
  rw [Globals.resolveUse]
  split
  next found => simp [undeclared] at found
  next found => simp [undeclared] at found
  next => cases builtinType? name <;> rfl

end Resolution

/-! ## Reach -/

/-- What references may lead to. -/
structure Reach where
  /-- Uses of types. -/
  uses : TypeUse → Prop
  /-- Names of elements at the top. -/
  elements : ExpandedName → Prop
  /-- Names of attributes at the top. -/
  attributes : ExpandedName → Prop

/-- Whether the type of an element is the one that the element uses, and not that of the class for its
anonymous complex type. -/
def ElementDefinition.UsesType (element : ElementDefinition) : Prop :=
  (∃ name, element.type = .named name) ∨ element.classType = none

/-- Whether references do not lead out of a reach, if a schema declares given types, elements and
attributes. -/
structure Reach.Closed (reach : Reach) (globals : Globals) : Prop where
  /-- The base of a restriction. -/
  restriction : ∀ {base}, reach.uses (.inline (.restriction base)) → reach.uses base
  /-- The items of a list. -/
  list : ∀ {item}, reach.uses (.inline (.list item)) → reach.uses item
  /-- The definition of a simple type. -/
  simple : ∀ {name definition}, reach.uses (.named (.ok name)) →
    globals.types.lookup name = some (.simple definition) → reach.uses (.inline definition)
  /-- The type of an element at the top. -/
  elementType : ∀ {name element}, reach.elements name →
    globals.elements.lookup name = some element → element.UsesType → reach.uses element.type
  /-- The type of an attribute at the top. -/
  attributeType : ∀ {name use}, reach.attributes name →
    globals.attributes.lookup name = some use → reach.uses use

/-- Whether a reach has what a part of the content of a complex type refers to. -/
structure Reach.Covers (reach : Reach) (item : Item) : Prop where
  /-- The type of an element. -/
  element : ∀ classType, item.role = .particle → item.spot.tag.attribute? "ref" = none →
    (elementAt item.spot classType).UsesType →
      reach.uses (typeUse item.spot.scope item.spot.tag item.spot.content)
  /-- An element at the top. -/
  elementReference : ∀ {text name}, item.role = .particle →
    item.spot.tag.attribute? "ref" = some text → resolveName item.spot.scope text = .ok name →
      reach.elements name
  /-- The type of an attribute. -/
  attributeUse : item.role = .attributeUse → ¬IsProhibited item.spot →
    item.spot.tag.attribute? "ref" = none →
      reach.uses (typeUse item.spot.scope item.spot.tag item.spot.content)
  /-- An attribute at the top. -/
  attributeReference : ∀ {text name}, item.role = .attributeUse → ¬IsProhibited item.spot →
    item.spot.tag.attribute? "ref" = some text → resolveName item.spot.scope text = .ok name →
      reach.attributes name
  /-- The base of a derivation. -/
  base : ∀ {text name}, item.role = .complexBase ∨ item.role = .simpleBase →
    item.spot.tag.attribute? "base" = some text → resolveName item.spot.scope text = .ok name →
      reach.uses (.named (.ok name))

/-- The reach that leaves nothing out. -/
def Reach.all : Reach :=
  ⟨fun _ => True, fun _ => True, fun _ => True⟩

theorem Reach.closed_all
    (globals : Globals) :
    Reach.all.Closed globals := by
  constructor <;> intros <;> exact trivial

theorem Reach.covers_all
    (item : Item) :
    Reach.all.Covers item := by
  constructor <;> intros <;> exact trivial

/-! ## Lookups -/

/-- Whether the same is noted under the names within reach, apart from the numbers of classes. -/
structure Globals.AlikeWithin (reach : Reach) (first second : Globals) : Prop where
  types : ∀ {name}, reach.uses (.named (.ok name)) →
    (second.types.lookup name).map TypeDefinition.unnumbered =
      (first.types.lookup name).map TypeDefinition.unnumbered
  elements : ∀ {name}, reach.elements name →
    second.elements.lookup name = first.elements.lookup name
  attributes : ∀ {name}, reach.attributes name →
    second.attributes.lookup name = first.attributes.lookup name

namespace Globals.AlikeWithin

variable {reach : Reach} {first second : Globals} {name : ExpandedName}

theorem lookup_complex
    (alike : first.AlikeWithin reach second)
    (within : reach.uses (.named (.ok name)))
    {id : ClassId}
    {type : TypeRef}
    (declared : first.types.lookup name = some (.complex id type)) :
    ∃ other, second.types.lookup name = some (.complex other type) := by
  have same := alike.types within
  rw [declared, Option.map_some, Option.map_eq_some_iff] at same
  obtain ⟨definition, found, same⟩ := same
  cases definition with
  | simple => cases same
  | complex other otherType =>
      obtain rfl := (TypeDefinition.complex.inj same).2
      exact ⟨other, found⟩

theorem lookup_simple
    (alike : first.AlikeWithin reach second)
    (within : reach.uses (.named (.ok name)))
    {definition : SimpleType}
    (declared : first.types.lookup name = some (.simple definition)) :
    second.types.lookup name = some (.simple definition) := by
  have same := alike.types within
  rw [declared, Option.map_some, Option.map_eq_some_iff] at same
  obtain ⟨other, found, same⟩ := same
  cases other with
  | complex => cases same
  | simple => rw [found, ← TypeDefinition.simple.inj same]

theorem lookup_none
    (alike : first.AlikeWithin reach second)
    (within : reach.uses (.named (.ok name)))
    (undeclared : first.types.lookup name = none) :
    second.types.lookup name = none := by
  have same := alike.types within
  rwa [undeclared, Option.map_none, Option.map_eq_none_iff] at same

/-- References to types lead to the same types. -/
theorem resolveUse_eq
    (alike : first.AlikeWithin reach second)
    (closed : reach.Closed first)
    (pending : List ExpandedName)
    {use : TypeUse}
    (within : reach.uses use) :
    second.resolveUse pending use = first.resolveUse pending use := by
  -- Along the resolution in the first schema, which stays within reach at every step.
  fun_induction Globals.resolveUse first pending use with
  | case1 | case2 | case3 | case6 => rw [Globals.resolveUse]
  | case4 pending base inductionHypothesis =>
      rw [Globals.resolveUse, inductionHypothesis (closed.restriction within)]
  | case5 pending item inductionHypothesis =>
      rw [Globals.resolveUse, inductionHypothesis (closed.list within)]
  | case7 pending name id type declared =>
      obtain ⟨_, found⟩ := alike.lookup_complex within declared
      exact resolveUse_of_complex found
  | case8 pending name definition declared fresh fewer inductionHypothesis =>
      rw [resolveUse_of_simple (alike.lookup_simple within declared), if_neg fresh,
        inductionHypothesis (closed.simple within declared)]
  | case9 pending name definition declared known =>
      rw [resolveUse_of_simple (alike.lookup_simple within declared), if_pos (not_not.1 known)]
  | case10 pending name undeclared type isBuiltin =>
      rw [resolveUse_of_undeclared (alike.lookup_none within undeclared), isBuiltin,
        Option.elim_some]
  | case11 pending name undeclared notBuiltin =>
      rw [resolveUse_of_undeclared (alike.lookup_none within undeclared), notBuiltin,
        Option.elim_none]

theorem elementType_eq
    (alike : first.AlikeWithin reach second)
    (closed : reach.Closed first)
    {element : ElementDefinition}
    (within : element.UsesType → reach.uses element.type) :
    second.elementType element = first.elementType element := by
  have resolved : element.UsesType →
      second.resolveUse [] element.type = first.resolveUse [] element.type :=
    fun usesType => alike.resolveUse_eq closed [] (within usesType)
  obtain ⟨use, classType⟩ := element
  cases use with
  | named name => exact resolved (.inl ⟨name, rfl⟩)
  | inline definition =>
      cases classType with
      | none => exact resolved (.inr rfl)
      | some type => rfl
  | absent => cases classType <;> rfl

theorem attributeType_eq
    (alike : first.AlikeWithin reach second)
    (closed : reach.Closed first)
    (target : Option String)
    (within : reach.attributes name) :
    second.attributeType target name = first.attributeType target name := by
  unfold Globals.attributeType
  rw [alike.attributes within]
  cases declared : first.attributes.lookup name with
  | none => rfl
  | some use => exact alike.resolveUse_eq closed [] (closed.attributeType within declared)

/-- Bases are of the same kind. -/
theorem resolveBase_contribution
    (alike : first.AlikeWithin reach second)
    (closed : reach.Closed first)
    (simple : TypeRef → Contribution)
    (within : reach.uses (.named (.ok name))) :
    Base.contribution simple name <$> second.resolveBase name =
      Base.contribution simple name <$> first.resolveBase name := by
  unfold Globals.resolveBase Globals.resolveType
  rw [alike.resolveUse_eq closed [] within]
  cases declared : first.types.lookup name with
  | none => rw [alike.lookup_none within declared]
  | some definition =>
      cases definition with
      | simple definition => rw [alike.lookup_simple within declared]
      | complex id type =>
          obtain ⟨other, found⟩ := alike.lookup_complex within declared
          rw [found]
          rfl

end Globals.AlikeWithin

/-! ## Contributions -/

theorem bind_congr_of_ok
    {α β : Type}
    {part : Deferred α}
    {first second : α → Deferred β}
    (same : ∀ value, part = .ok value → first value = second value) :
    part >>= first = part >>= second := by
  cases part with
  | error error => rfl
  | ok value => exact same value rfl

/-- Whether two schemas are the same as far as references within reach go. -/
structure Environment.AlikeWithin (reach : Reach) (first second : Environment) : Prop where
  target : second.target = first.target
  globals : first.globals.AlikeWithin reach second.globals
  closed : reach.Closed first.globals

namespace Environment.AlikeWithin

variable {reach : Reach} {first second : Environment} {item : Item}

theorem particleField_eq
    (alike : first.AlikeWithin reach second)
    (covers : reach.Covers item)
    (isParticle : item.role = .particle)
    (package path : String) :
    particleField second package path item = particleField first package path item := by
  unfold particleField
  refine bind_congr fun many => ?_
  cases isReference : item.spot.tag.attribute? "ref" with
  | none =>
      rw [reference?, isReference, Option.map_none]
      refine bind_congr fun name => ?_
      dsimp only
      rw [alike.globals.elementType_eq alike.closed (covers.element _ isParticle isReference)]
  | some text =>
      rw [reference?, isReference, Option.map_some]
      refine bind_congr_of_ok fun name resolved => ?_
      have within := covers.elementReference isParticle isReference resolved
      rw [alike.globals.elements within]
      cases declared : first.globals.elements.lookup name with
      | none => rfl
      | some element =>
          dsimp only
          rw [alike.globals.elementType_eq alike.closed (alike.closed.elementType within declared)]

theorem attributeField_eq
    (alike : first.AlikeWithin reach second)
    (covers : reach.Covers item)
    (isAttribute : item.role = .attributeUse)
    (allowed : ¬IsProhibited item.spot) :
    attributeField second item.spot = attributeField first item.spot := by
  unfold attributeField
  cases isReference : item.spot.tag.attribute? "ref" with
  | none =>
      rw [reference?, isReference, Option.map_none]
      refine bind_congr fun name => ?_
      rw [alike.globals.resolveUse_eq alike.closed []
        (covers.attributeUse isAttribute allowed isReference)]
  | some text =>
      rw [reference?, isReference, Option.map_some]
      refine bind_congr_of_ok fun name resolved => ?_
      rw [alike.target, alike.globals.attributeType_eq alike.closed _
        (covers.attributeReference isAttribute allowed isReference resolved)]

theorem baseContribution_eq
    (alike : first.AlikeWithin reach second)
    (covers : reach.Covers item)
    (isBase : item.role = .complexBase ∨ item.role = .simpleBase)
    (simple : TypeRef → Contribution) :
    baseContribution second simple item.spot = baseContribution first simple item.spot := by
  unfold baseContribution
  refine bind_congr_of_ok fun base isName => ?_
  obtain ⟨text, isText, resolved⟩ := bind_eq_ok_iff.1 isName
  have within := covers.base isBase (attribute?_of_required isText) resolved
  have same := alike.globals.resolveBase_contribution alike.closed simple within
  simpa only [map_eq_pure_bind] using same

/-- A part of the content of a complex type contributes the same. -/
theorem contribution_eq
    (alike : first.AlikeWithin reach second)
    (covers : reach.Covers item)
    (package path : String) :
    item.contribution second package path = item.contribution first package path := by
  unfold Item.contribution
  cases role : item.role with
  | group | unsupported => rfl
  | particle =>
      dsimp only
      rw [alike.particleField_eq covers role]
  | attributeUse =>
      dsimp only
      split_ifs with prohibited
      · rfl
      · rw [alike.attributeField_eq covers role prohibited]
  | complexBase => exact alike.baseContribution_eq covers (.inl role) _
  | simpleBase => exact alike.baseContribution_eq covers (.inr role) _

end Environment.AlikeWithin

end Schema
end SchemaBinding
