import SchemaBinding.Outline.Signature
import SchemaBinding.Proofs.GeneratedNames
import SchemaBinding.Proofs.Nesting
import SchemaBinding.Schema.Resolution

/-!
# Types of bound fields

The types that the binding of a schema gives to fields: what a schema refers to is a built-in type,
a class of its own package, or a list of such a type.  A signature that hides the core package only
shows these types without confusing any two of them.
-/

namespace SchemaBinding
namespace Schema

/-- The names of the primitives that built-in types are bound to. -/
def primitiveNames : List String :=
  ["boolean", "float", "double", "long", "int", "short", "byte"]

/-- The names of the core types that built-in types are bound to. -/
def coreNames : List String :=
  ["String", "BigDecimal", "BigInteger", "Calendar", "Duration", "Bytes", "QName", "Object"]

/-- The names that classes of a schema have through the classes around them. -/
inductive ClassPath : String → Prop
  /-- The name of a class that is not nested. -/
  | outermost (localName : String) : ClassPath (className localName)
  /-- The name of a class that is nested in another. -/
  | inside {outer : String} (path : ClassPath outer) (localName : String) :
      ClassPath (outer ++ "." ++ className localName)

/-- The types without arguments that fields have in the outline of a schema. -/
inductive FlatType (package : String) : TypeRef → Prop
  /-- A primitive. -/
  | primitive {name : String} (known : name ∈ primitiveNames) : FlatType package (.primitive name)
  /-- A built-in type of the core package. -/
  | core {name : String} (known : name ∈ coreNames) : FlatType package (.core name)
  /-- A class of the schema. -/
  | reference {path : String} (isPath : ClassPath path) : FlatType package (.reference package path)

/-- The types that fields have in the outline of a schema. -/
inductive BoundType (package : String) : TypeRef → Prop
  /-- A type without arguments. -/
  | flat {type : TypeRef} (flat : FlatType package type) : BoundType package type
  /-- A list. -/
  | listOf {item : TypeRef} (bound : BoundType package item) : BoundType package (.listOf item)

/-- Built-in types are bound to primitives, core types and lists of core types. -/
theorem builtinType?_cases
    {name : ExpandedName}
    {type : TypeRef}
    (isBuiltin : builtinType? name = some type) :
    (∃ name ∈ primitiveNames, type = .primitive name) ∨ (∃ name ∈ coreNames, type = .core name) ∨
      ∃ name ∈ coreNames, type = .listOf (.core name) := by
  have kinds : ∀ entry ∈ builtinBindings, (∃ name ∈ primitiveNames, entry.2 = .primitive name) ∨
      (∃ name ∈ coreNames, entry.2 = .core name) ∨
        ∃ name ∈ coreNames, entry.2 = .listOf (.core name) := by
    decide +kernel
  unfold builtinType? at isBuiltin
  split at isBuiltin
  next =>
    obtain ⟨before, after, split, _⟩ := List.lookup_eq_some_iff.1 isBuiltin
    exact kinds (name.localName, type) (by simp [split])
  next => cases isBuiltin

theorem boundType_of_builtinType?
    {package : String}
    {name : ExpandedName}
    {type : TypeRef}
    (isBuiltin : builtinType? name = some type) :
    BoundType package type := by
  rcases builtinType?_cases isBuiltin with
    ⟨name, known, rfl⟩ | ⟨name, known, rfl⟩ | ⟨name, known, rfl⟩
  · exact .flat (.primitive known)
  · exact .flat (.core known)
  · exact .listOf (.flat (.core known))

/-- Whether what a schema declares at its top stands for types of its own package. -/
structure Globals.BoundIn (globals : Globals) (package : String) : Prop where
  types : ∀ {name id type}, globals.types.lookup name = some (.complex id type) →
    BoundType package type
  elements : ∀ {name element type}, globals.elements.lookup name = some element →
    element.classType = some type → BoundType package type

namespace Globals.BoundIn

variable {globals : Globals} {package : String}

theorem resolveUse
    (bound : globals.BoundIn package)
    {pending : List ExpandedName}
    {use : TypeUse}
    {type : TypeRef}
    (resolved : globals.resolveUse pending use = .ok type) :
    BoundType package type := by
  have isString : BoundType package .string := .flat (.core (by decide))
  fun_induction Globals.resolveUse globals pending use generalizing type with
  | case1 | case2 | case3 =>
      rw [Except.ok.injEq] at resolved
      exact resolved ▸ isString
  | case4 pending base inductionHypothesis => exact inductionHypothesis resolved
  | case5 pending item inductionHypothesis =>
      cases itemResolved : globals.resolveUse pending item with
      | error error => simp [itemResolved, Bind.bind, Except.bind] at resolved
      | ok itemType =>
          simp only [itemResolved, Bind.bind, Except.bind, pure, Except.pure, Except.ok.injEq]
            at resolved
          exact resolved ▸ .listOf (inductionHypothesis itemResolved)
  | case6 | case9 | case11 => cases resolved
  | case7 pending name id classType declared =>
      rw [Except.ok.injEq] at resolved
      exact resolved ▸ bound.types declared
  | case8 pending name definition declared fresh fewer inductionHypothesis =>
      exact inductionHypothesis resolved
  | case10 pending name undeclared builtin isBuiltin =>
      rw [Except.ok.injEq] at resolved
      exact resolved ▸ boundType_of_builtinType? isBuiltin

theorem elementType
    (bound : globals.BoundIn package)
    {name : ExpandedName}
    {element : ElementDefinition}
    {type : TypeRef}
    (declared : globals.elements.lookup name = some element)
    (resolved : globals.elementType element = .ok type) :
    BoundType package type := by
  unfold Globals.elementType at resolved
  split at resolved
  next => exact bound.resolveUse resolved
  next classType isClass _ =>
    rw [Except.ok.injEq] at resolved
    exact resolved ▸ bound.elements declared isClass
  next => exact bound.resolveUse resolved
  next =>
    rw [Except.ok.injEq] at resolved
    exact resolved ▸ .flat (.core (by decide))

theorem attributeType
    (bound : globals.BoundIn package)
    {target : Option String}
    {name : ExpandedName}
    {type : TypeRef}
    (resolved : globals.attributeType target name = .ok type) :
    BoundType package type := by
  unfold Globals.attributeType at resolved
  split at resolved
  next => exact bound.resolveUse resolved
  next =>
    split at resolved
    next => cases resolved
    next =>
      rw [Except.ok.injEq] at resolved
      exact resolved ▸ .flat (.core (by decide))

theorem resolveBase
    (bound : globals.BoundIn package)
    {name : ExpandedName}
    {type : TypeRef}
    (resolved : globals.resolveBase name = .ok (.simple type)) :
    BoundType package type := by
  have isType : ∀ {result : Except SchemaError TypeRef}, result = globals.resolveType name →
      Base.simple <$> result = .ok (.simple type) → BoundType package type := by
    intro result same mapped
    cases result with
    | error error => cases mapped
    | ok found =>
        have equal : found = type := by simpa [Functor.map, Except.map] using mapped
        exact equal ▸ bound.resolveUse same.symm
  unfold Globals.resolveBase at resolved
  split at resolved
  next => cases resolved
  next => exact isType rfl resolved
  next =>
    split at resolved
    next => cases resolved
    next => exact isType rfl resolved

end Globals.BoundIn

/-! ## Display -/

open Text (Nameable Dotted)

theorem ClassPath.dotted
    {path : String}
    (isPath : ClassPath path) :
    Dotted path.toList := by
  induction isPath with
  | outermost localName => exact (nameable_className localName).dotted
  | inside path localName inductionHypothesis =>
      rw [String.toList_append, String.toList_append, Text.dotted_append, Text.dotted_append]
      refine ⟨⟨inductionHypothesis, ?_⟩, (nameable_className localName).dotted⟩
      exact List.forall_mem_singleton.2 (.inr rfl)

/-- The names of the classes of a draft whose classes have generated names. -/
theorem classPath_of_dottedName
    {lookup : ClassId → Option Class}
    (generated : ∀ {id found}, lookup id = some found → ∃ localName, found.name = className localName)
    {id : ClassId}
    {name : String}
    (named : DottedName lookup id name) :
    ClassPath name := by
  induction named with
  | outermost defined top =>
      obtain ⟨localName, same⟩ := generated defined
      exact same ▸ .outermost localName
  | inside defined enclosed named inductionHypothesis =>
      obtain ⟨localName, same⟩ := generated defined
      exact same ▸ .inside inductionHypothesis localName

theorem displayType_primitive
    (name : String) :
    Outline.displayType {} (.primitive name) = name := by
  simp [Outline.displayType, TypeRef.primitive, TypeRef.displayName]

theorem displayType_core
    (name : String) :
    Outline.displayType {} (.core name) = name := by
  simp [Outline.displayType, TypeRef.core, TypeRef.reference, TypeRef.displayName,
    SignatureOptions.hides]

theorem displayType_reference
    (package path : String) :
    Outline.displayType {} (.reference package path) =
      if package = TypeRef.corePackage then path else package ++ "." ++ path := by
  by_cases isCore : package = TypeRef.corePackage <;>
    simp [Outline.displayType, TypeRef.reference, TypeRef.displayName, SignatureOptions.hides, isCore]

theorem displayType_listOf
    (item : TypeRef) :
    Outline.displayType {} (.listOf item) = "List<" ++ Outline.displayType {} item ++ ">" := by
  have listPackage : SignatureOptions.hides {} TypeRef.corePackage = true := rfl
  simp [Outline.displayType, TypeRef.listOf, TypeRef.parametric, TypeRef.displayName,
    TypeRef.displayNames, listPackage]

namespace FlatType

variable {package : String} {type left right : TypeRef}

theorem nameable_builtin
    {name : String}
    (known : name ∈ primitiveNames ++ coreNames) :
    Nameable name.toList := by
  have nameable : ∀ other ∈ primitiveNames ++ coreNames,
      other.toList.all fun c => Text.isNameCode c.toNat := by
    decide +kernel
  exact Text.nameable_of_all (nameable name known)

theorem dotted_display
    (dottedPackage : Dotted package.toList)
    (flat : FlatType package type) :
    Dotted (Outline.displayType {} type).toList := by
  cases flat with
  | primitive known =>
      rw [displayType_primitive]
      exact (nameable_builtin (List.mem_append_left _ known)).dotted
  | core known =>
      rw [displayType_core]
      exact (nameable_builtin (List.mem_append_right _ known)).dotted
  | reference isPath =>
      rw [displayType_reference]
      split
      · exact isPath.dotted
      · rw [String.toList_append, String.toList_append, Text.dotted_append, Text.dotted_append]
        exact ⟨⟨dottedPackage, List.forall_mem_singleton.2 (.inr rfl)⟩, isPath.dotted⟩

/-- A class is shown by a name with a dot in it, unless it is at the top of the core package. -/
theorem mem_display_or
    {path : String}
    (isPath : ClassPath path) :
    '.' ∈ (Outline.displayType {} (.reference package path)).toList ∨
      package = TypeRef.corePackage ∧ path ∉ reservedNames := by
  rw [displayType_reference]
  by_cases isCore : package = TypeRef.corePackage
  · rw [if_pos isCore]
    cases isPath with
    | outermost localName => exact .inr ⟨isCore, className_not_reserved localName⟩
    | inside outer localName => exact .inl (by simp)
  · rw [if_neg isCore]
    exact .inl (by simp)

/-- No other type is shown as a primitive is. -/
theorem eq_primitive_of_display
    (flat : FlatType package type)
    {name : String}
    (known : name ∈ primitiveNames)
    (shown : Outline.displayType {} type = name) :
    type = .primitive name := by
  cases flat with
  | primitive otherKnown =>
      rw [displayType_primitive] at shown
      rw [shown]
  | core otherKnown =>
      have disjoint : ∀ other ∈ primitiveNames, other ∉ coreNames := by decide
      rw [displayType_core] at shown
      exact absurd (shown ▸ otherKnown) (disjoint name known)
  | @reference path isPath =>
      have noDot := (nameable_builtin (List.mem_append_left _ known)).not_mem
        (show Text.isNameCode '.'.toNat = false from rfl)
      rcases mem_display_or isPath with dot | ⟨isCore, notReserved⟩
      · rw [shown] at dot
        exact absurd dot noDot
      · have reserved : ∀ other ∈ primitiveNames, other ∈ reservedNames := by decide
        rw [displayType_reference, if_pos isCore] at shown
        exact absurd (reserved name known) (shown ▸ notReserved)

/-- No other type is shown as a core type is; a class of that name in a package `core` is one. -/
theorem eq_core_of_display
    (flat : FlatType package type)
    {name : String}
    (known : name ∈ coreNames)
    (shown : Outline.displayType {} type = name) :
    type = .core name := by
  cases flat with
  | primitive otherKnown =>
      have disjoint : ∀ other ∈ primitiveNames, other ∉ coreNames := by decide
      rw [displayType_primitive] at shown
      exact absurd known (disjoint name (shown ▸ otherKnown))
  | core otherKnown =>
      rw [displayType_core] at shown
      rw [shown]
  | @reference path isPath =>
      have noDot := (nameable_builtin (List.mem_append_right _ known)).not_mem
        (show Text.isNameCode '.'.toNat = false from rfl)
      rcases mem_display_or isPath with dot | ⟨isCore, _⟩
      · rw [shown] at dot
        exact absurd dot noDot
      · rw [displayType_reference, if_pos isCore] at shown
        rw [isCore, shown]
        rfl

theorem display_injective
    (leftFlat : FlatType package left)
    (rightFlat : FlatType package right)
    (same : Outline.displayType {} left = Outline.displayType {} right) :
    left = right := by
  cases leftFlat with
  | primitive known =>
      rw [displayType_primitive] at same
      exact (rightFlat.eq_primitive_of_display known same.symm).symm
  | core known =>
      rw [displayType_core] at same
      exact (rightFlat.eq_core_of_display known same.symm).symm
  | @reference path isPath =>
      cases rightFlat with
      | primitive known =>
          rw [displayType_primitive] at same
          exact (FlatType.reference isPath).eq_primitive_of_display known same
      | core known =>
          rw [displayType_core] at same
          exact (FlatType.reference isPath).eq_core_of_display known same
      | reference otherIsPath =>
          rw [displayType_reference, displayType_reference] at same
          split at same
          · rw [same]
          · rw [String.append_right_inj] at same
            rw [same]

end FlatType

/-- A signature that hides the core package does not confuse types of bound fields. -/
theorem BoundType.display_injective
    {package : String}
    {left right : TypeRef}
    (dottedPackage : Dotted package.toList)
    (leftBound : BoundType package left)
    (rightBound : BoundType package right)
    (same : Outline.displayType {} left = Outline.displayType {} right) :
    left = right := by
  have noBracket : ∀ {type}, FlatType package type →
      '<' ∉ (Outline.displayType {} type).toList := fun flat =>
    (flat.dotted_display dottedPackage).not_mem rfl (by decide)
  have bracket : ∀ item : TypeRef, '<' ∈ (Outline.displayType {} (.listOf item)).toList := by
    intro item
    simp [displayType_listOf]
  induction leftBound generalizing right with
  | flat leftFlat =>
      cases rightBound with
      | flat rightFlat => exact leftFlat.display_injective rightFlat same
      | listOf => exact absurd (same ▸ bracket _) (noBracket leftFlat)
  | listOf leftItem inductionHypothesis =>
      cases rightBound with
      | flat rightFlat => exact absurd (same ▸ bracket _) (noBracket rightFlat)
      | listOf rightItem =>
          rw [displayType_listOf, displayType_listOf, String.append_left_inj,
            String.append_right_inj] at same
          rw [inductionHypothesis rightItem same]

theorem BoundType.not_mem_display
    {package : String}
    {type : TypeRef}
    (dottedPackage : Dotted package.toList)
    (bound : BoundType package type) :
    '\n' ∉ (Outline.displayType {} type).toList := by
  induction bound with
  | flat flat => exact (flat.dotted_display dottedPackage).not_mem rfl (by decide)
  | listOf item inductionHypothesis => simp [displayType_listOf, inductionHypothesis]

end Schema
end SchemaBinding
