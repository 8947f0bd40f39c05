import Mathlib.Logic.Function.Iterate
import SchemaBinding.Proofs.ReachedTypes
import SchemaBinding.Proofs.Walks

/-!
# Chains of simple types

A simple type is a restriction of another type, or the type of the lists of another type, and that one
may again be a simple type that is derived from a further one.  The chain of the simple types either ends
or comes back to one that it has met before.  In the first case what stands at its end makes up what the
simple type is resolved to, within as many lists as there are on the chain; in the second case the simple
type is refused under the name of one that is declared at the top and lies on the circle.
-/

namespace SchemaBinding
namespace Schema

open Relation (ReflTransGen TransGen)
open Xml (Spot)

/-! ## Chains -/

/-- How a simple type is derived from another type. -/
inductive Manner where
  /-- As a restriction of the other type. -/
  | restriction
  /-- As the type of the lists of the other type. -/
  | list

namespace Manner

/-- The construct that derives a simple type in a manner. -/
def construct : Manner → String
  | restriction => "restriction"
  | list => "list"

/-- The attribute that names the other type. -/
def attributeName : Manner → String
  | restriction => "base"
  | list => "itemType"

/-- How many lists a derivation makes. -/
def lists : Manner → Nat
  | restriction => 0
  | list => 1

/-- The simple type that is derived from the use of another type. -/
def definition : Manner → TypeUse → SimpleType
  | restriction => .restriction
  | list => .list

end Manner

/-- What a simple type is derived from. -/
inductive Source where
  /-- What a name refers to. -/
  | named (name : Deferred ExpandedName)
  /-- The simple type that is defined on the spot, if there is one. -/
  | onTheSpot (definition : Option Site)

/-- The use of the type that a simple type is derived from. -/
def Source.use : Source → TypeUse
  | named name => .named name
  | onTheSpot definition => definition.elim .absent fun site =>
      .inline (simpleType site.spot.scope site.spot.content)

/-- Whether the first element in a simple type that derives it from other types does so in some
manner. -/
structure Site.DerivedBy (site : Site) (manner : Manner) (derivation : Site) : Prop where
  isFirst : site.first? ["restriction", "list", "union"] = some derivation
  construct : derivation.construct? = some manner.construct

/-- Whether a simple type is derived from something in some manner.  A name goes before a definition. -/
inductive Site.DerivedFrom (site : Site) (manner : Manner) : Source → Prop
  /-- From what an attribute names. -/
  | named {derivation : Site} {text : String} {name : Deferred ExpandedName}
      (derived : site.DerivedBy manner derivation)
      (given : derivation.spot.tag.attribute? manner.attributeName = some text)
      (resolved : resolveName derivation.spot.scope text = name) : site.DerivedFrom manner (.named name)
  /-- From the first simple type in the derivation. -/
  | onTheSpot {derivation : Site} {definition : Option Site}
      (derived : site.DerivedBy manner derivation)
      (notGiven : derivation.spot.tag.attribute? manner.attributeName = none)
      (isInside : derivation.first? ["simpleType"] = definition) :
      site.DerivedFrom manner (.onTheSpot definition)

/-- Whether a construct is declared under a name at an element at the top of a document. -/
def DeclaredAt (document : Xml.Document) (construct : String) (name : ExpandedName) (site : Site) :
    Prop :=
  ∃ index spot, DeclaresName document construct name index spot ∧
    (Site.outermost document).inside (index, spot) = site

/-- Whether a simple type is derived from another simple type in some manner. -/
inductive StepsTo (document : Xml.Document) (site : Site) (manner : Manner) (base : Site) : Prop
  /-- From one at the top, by its name. -/
  | named {name : ExpandedName} (derived : site.DerivedFrom manner (.named (.ok name)))
      (declared : DeclaredAt document "simpleType" name base)
  /-- From one that is defined on the spot. -/
  | onTheSpot (derived : site.DerivedFrom manner (.onTheSpot (some base)))

/-- Whether a chain of simple types leads from one to another, with a number of lists on the way. -/
inductive Chain (document : Xml.Document) : Site → Nat → Site → Prop
  /-- A chain of one simple type. -/
  | single (site : Site) : Chain document site 0 site
  /-- A chain that goes on with what a simple type is derived from. -/
  | step {site base last : Site} {manner : Manner} {lists : Nat}
      (steps : StepsTo document site manner base) (rest : Chain document base lists last) :
      Chain document site (manner.lists + lists) last

/-- What a name that no simple type at the top declares stands for. -/
inductive NameStands (options : BindingOptions) (document : Xml.Document) (name : ExpandedName) :
    Except SchemaError TypeRef → Prop
  /-- The class of a complex type. -/
  | complexType {site : Site} (declared : DeclaredAt document "complexType" name site) :
      NameStands options document name (.ok ((settingOf options document).classType site.spot))
  /-- A built-in type. -/
  | builtin {type : TypeRef} (undeclared : NoType document name)
      (isBuiltin : builtinType? name = some type) : NameStands options document name (.ok type)
  /-- Nothing. -/
  | unresolved (undeclared : NoType document name) (notBuiltin : builtinType? name = none) :
      NameStands options document name (.error (.unresolvedType name))

/-- Whether a chain of simple types ends with one, in a result and after a number of further lists. -/
inductive EndsIn (options : BindingOptions) (document : Xml.Document) (site : Site) :
    Nat → Except SchemaError TypeRef → Prop
  /-- A simple type without a definition is text. -/
  | undefined (noDerivation : site.first? ["restriction", "list", "union"] = none) :
      EndsIn options document site 0 (.ok .string)
  /-- A union is text. -/
  | union {derivation : Site}
      (isFirst : site.first? ["restriction", "list", "union"] = some derivation)
      (construct : derivation.construct? = some "union") :
      EndsIn options document site 0 (.ok .string)
  /-- A type that is not given is text. -/
  | absent {manner : Manner} (derived : site.DerivedFrom manner (.onTheSpot none)) :
      EndsIn options document site manner.lists (.ok .string)
  /-- The prefix of the name of a type stands for nothing. -/
  | unresolvedPrefix {manner : Manner} {label : String}
      (derived : site.DerivedFrom manner (.named (.error (.prefixNotResolved label)))) :
      EndsIn options document site manner.lists (.error (.prefixNotResolved label))
  /-- The name of a type stands for a type that is no simple one of the document, or for nothing. -/
  | named {manner : Manner} {name : ExpandedName} {result : Except SchemaError TypeRef}
      (derived : site.DerivedFrom manner (.named (.ok name)))
      (stands : NameStands options document name result) :
      EndsIn options document site manner.lists result

/-- Whether a simple type is the next one on the chain from another one. -/
def GoesOn (document : Xml.Document) (site base : Site) : Prop :=
  ∃ manner, StepsTo document site manner base

/-- Whether the chain from a simple type meets another one, and comes back to that one. -/
def ComesBack (document : Xml.Document) (site met : Site) : Prop :=
  ReflTransGen (GoesOn document) site met ∧ TransGen (GoesOn document) met met

/-- Whether a result is what the chain from a simple type determines. -/
structure RootsIn (options : BindingOptions) (document : Xml.Document) (site : Site)
    (result : Except SchemaError TypeRef) : Prop where
  /-- The simple type is refused as circular if its chain comes back to one that is already on it. -/
  circular_iff : (∃ name, result = .error (.circularType name)) ↔ ∃ met, ComesBack document site met
  /-- It is refused under the name of a simple type at the top to which the chain comes back. -/
  reported : ∀ {localName}, result = .error (.circularType localName) →
    ∃ name met, DeclaredAt document "simpleType" name met ∧ name.localName = localName ∧
      ComesBack document site met
  /-- A chain that does not come back ends. -/
  ends : (∀ met, ¬ComesBack document site met) →
    ∃ lists last further final, Chain document site lists last ∧
      EndsIn options document last further final
  /-- The result is that of the end, within as many lists as there are on the chain. -/
  atEnd : ∀ {lists last further final}, Chain document site lists last →
    EndsIn options document last further final → result = final.map TypeRef.listOf^[lists + further]

/-- What a simple type is resolved to, if the resolution of some names has led to it. -/
def Globals.resolveAt (globals : Globals) (pending : List ExpandedName) (site : Site) :
    Except SchemaError TypeRef :=
  globals.resolveUse pending (.inline (simpleType site.spot.scope site.spot.content))

/-! ## Steps -/

section Derivations

variable {site derivation : Site} {manner other : Manner}

theorem Site.DerivedBy.unique
    {second : Site}
    (isFirst : site.DerivedBy manner derivation)
    (isSecond : site.DerivedBy other second) :
    manner = other ∧ derivation = second := by
  obtain rfl := Option.some.inj (isFirst.isFirst.symm.trans isSecond.isFirst)
  have same := isFirst.construct.symm.trans isSecond.construct
  refine ⟨?_, rfl⟩
  cases manner <;> cases other
  all_goals first | rfl | exact absurd same (by decide)

/-- A simple type is derived from one thing in one manner. -/
theorem Site.DerivedFrom.unique
    {first second : Source}
    (isFirst : site.DerivedFrom manner first)
    (isSecond : site.DerivedFrom other second) :
    manner = other ∧ first = second := by
  cases isFirst with
  | named derived given resolved =>
      cases isSecond with
      | named derivedToo givenToo resolvedToo =>
          obtain ⟨rfl, rfl⟩ := derived.unique derivedToo
          obtain rfl := Option.some.inj (given.symm.trans givenToo)
          rw [← resolved, ← resolvedToo]
          exact ⟨rfl, rfl⟩
      | onTheSpot derivedToo notGiven =>
          obtain ⟨rfl, rfl⟩ := derived.unique derivedToo
          rw [notGiven] at given
          cases given
  | onTheSpot derived notGiven isInside =>
      cases isSecond with
      | named derivedToo given =>
          obtain ⟨rfl, rfl⟩ := derived.unique derivedToo
          rw [notGiven] at given
          cases given
      | onTheSpot derivedToo _ isInsideToo =>
          obtain ⟨rfl, rfl⟩ := derived.unique derivedToo
          rw [← isInside, ← isInsideToo]
          exact ⟨rfl, rfl⟩

theorem Site.DerivedFrom.exists_derivation
    {source : Source}
    (derived : site.DerivedFrom manner source) :
    ∃ derivation, site.DerivedBy manner derivation := by
  cases derived with
  | named derived | onTheSpot derived => exact ⟨_, derived⟩

/-- What a simple type is derived from on the spot is inside it. -/
theorem Site.DerivedFrom.sizeOf_lt
    {base : Site}
    (derived : site.DerivedFrom manner (.onTheSpot (some base))) :
    sizeOf base.spot.content < sizeOf site.spot.content := by
  cases derived with
  | onTheSpot derived _ isInside =>
      obtain ⟨child, isChild, rfl⟩ := Option.map_eq_some_iff.1 derived.isFirst
      obtain ⟨inner, isInner, rfl⟩ := Option.map_eq_some_iff.1 isInside
      exact Nat.lt_trans (Spot.sizeOf_content_lt (mem_children_of_first? isInner))
        (Spot.sizeOf_content_lt (mem_children_of_first? isChild))

theorem simpleType_of_derivedBy
    (derived : site.DerivedBy manner derivation) :
    simpleType site.spot.scope site.spot.content =
      manner.definition (derivation.use manner.attributeName) := by
  obtain ⟨child, isFirst, rfl⟩ := Option.map_eq_some_iff.1 derived.isFirst
  have construct : constructOf? child.2.tag = some manner.construct := derived.construct
  rw [simpleType_eq, isFirst, Option.elim_some, derivationAt, construct]
  cases manner with
  | restriction => exact if_pos rfl
  | list => exact (if_neg (by decide)).trans (if_pos rfl)

theorem simpleType_of_derivedFrom
    {source : Source}
    (derived : site.DerivedFrom manner source) :
    simpleType site.spot.scope site.spot.content = manner.definition source.use := by
  cases derived with
  | named derived given resolved =>
      rw [simpleType_of_derivedBy derived, Site.use, Site.reference?, reference?, given, ← resolved]
      rfl
  | @onTheSpot derivation _ derived notGiven isInside =>
      rw [simpleType_of_derivedBy derived, Site.use, Site.reference?, reference?, notGiven,
        Option.map_none, Use.named?, inlineType_eq, Source.use, ← isInside, Site.first?]
      cases first? ["simpleType"] derivation.spot <;> rfl

/-- A simple type is resolved to what the type that it is derived from is resolved to, or to the lists
of that. -/
theorem resolveAt_of_derivedFrom
    {globals : Globals}
    {pending : List ExpandedName}
    {source : Source}
    (derived : site.DerivedFrom manner source) :
    globals.resolveAt pending site =
      (globals.resolveUse pending source.use).map TypeRef.listOf^[manner.lists] := by
  rw [Globals.resolveAt, simpleType_of_derivedFrom derived]
  cases manner with
  | restriction =>
      rw [Manner.definition, Globals.resolveUse]
      exact (id_map _).symm
  | list =>
      rw [Manner.definition, Globals.resolveUse]
      exact (map_eq_pure_bind _ _).symm

/-- The first derivation in a simple type is a union or derives it in some manner. -/
theorem union_or_derivedBy
    (isFirst : site.first? ["restriction", "list", "union"] = some derivation) :
    derivation.construct? = some "union" ∨ ∃ manner, site.DerivedBy manner derivation := by
  obtain ⟨child, isChild, rfl⟩ := Option.map_eq_some_iff.1 isFirst
  have known := List.find?_some isChild
  rw [Option.any_eq_true] at known
  obtain ⟨construct, isConstruct, known⟩ := known
  have isOne : construct = "restriction" ∨ construct = "list" ∨ construct = "union" := by
    simpa using known
  rcases isOne with rfl | rfl | rfl
  · exact .inr ⟨.restriction, isFirst, isConstruct⟩
  · exact .inr ⟨.list, isFirst, isConstruct⟩
  · exact .inl isConstruct

theorem Site.DerivedBy.exists_source
    (derived : site.DerivedBy manner derivation) :
    ∃ source, site.DerivedFrom manner source := by
  cases given : derivation.spot.tag.attribute? manner.attributeName with
  | none => exact ⟨_, .onTheSpot derived given rfl⟩
  | some text => exact ⟨_, .named derived given rfl⟩

theorem exists_label_of_resolveName
    {scope : Xml.Scope}
    {text : String}
    {error : SchemaError}
    (failed : resolveName scope text = .error error) :
    ∃ label, error = .prefixNotResolved label := by
  unfold resolveName at failed
  dsimp only at failed
  split at failed
  · cases failed
  · split_ifs at failed
    split at failed
    · cases failed
    · cases failed
      exact ⟨_, rfl⟩

/-- A name is refused for its prefix only. -/
theorem Site.DerivedFrom.exists_label
    {error : SchemaError}
    (derived : site.DerivedFrom manner (.named (.error error))) :
    ∃ label, error = .prefixNotResolved label := by
  cases derived with
  | named _ _ resolved => exact exists_label_of_resolveName resolved

end Derivations

section Steps

variable {options : BindingOptions} {document : Xml.Document} {site base : Site}
  {manner : Manner} {name : ExpandedName}

theorem DeclaredAt.eq
    (registered : Registered options document)
    {second : Site}
    (isFirst : DeclaredAt document "simpleType" name site)
    (isSecond : DeclaredAt document "simpleType" name second) :
    site = second := by
  obtain ⟨_, _, declares, rfl⟩ := isFirst
  obtain ⟨_, _, declaresToo, rfl⟩ := isSecond
  rw [registered.eq_of_declares (by decide) declares declaresToo]

variable (options document name) in
theorem declaredAt_or_nameStands :
    (∃ site, DeclaredAt document "simpleType" name site) ∨
      ∃ result, NameStands options document name result := by
  by_cases isSimple : ∃ site, DeclaredAt document "simpleType" name site
  · exact .inl isSimple
  refine .inr ?_
  by_cases isComplex : ∃ site, DeclaredAt document "complexType" name site
  · obtain ⟨site, declared⟩ := isComplex
    exact ⟨_, .complexType declared⟩
  have undeclared : NoType document name := by
    intro construct known index spot declares
    rcases List.mem_pair.1 known with rfl | rfl
    · exact isComplex ⟨_, index, spot, declares, rfl⟩
    · exact isSimple ⟨_, index, spot, declares, rfl⟩
  cases builtin : builtinType? name with
  | none => exact ⟨_, .unresolved undeclared builtin⟩
  | some type => exact ⟨_, .builtin undeclared builtin⟩

variable (options document site) in
/-- A chain ends with a simple type or goes on from it. -/
theorem endsIn_or_goesOn :
    (∃ lists result, EndsIn options document site lists result) ∨
      ∃ base, GoesOn document site base := by
  cases isFirst : site.first? ["restriction", "list", "union"] with
  | none => exact .inl ⟨_, _, .undefined isFirst⟩
  | some derivation =>
      obtain isUnion | ⟨manner, derivedBy⟩ := union_or_derivedBy isFirst
      · exact .inl ⟨_, _, .union isFirst isUnion⟩
      obtain ⟨source, derived⟩ := derivedBy.exists_source
      cases source with
      | onTheSpot definition =>
          cases definition with
          | none => exact .inl ⟨_, _, .absent derived⟩
          | some definition => exact .inr ⟨definition, manner, .onTheSpot derived⟩
      | named reference =>
          cases reference with
          | error error =>
              obtain ⟨label, rfl⟩ := derived.exists_label
              exact .inl ⟨_, _, .unresolvedPrefix derived⟩
          | ok name =>
              obtain ⟨base, declared⟩ | ⟨result, stands⟩ :=
                declaredAt_or_nameStands options document name
              · exact .inr ⟨base, manner, .named derived declared⟩
              · exact .inl ⟨_, _, .named derived stands⟩

/-- The name of a declared simple type stands for nothing else. -/
theorem NameStands.not_declaredAt
    (registered : Registered options document)
    {result : Except SchemaError TypeRef}
    (stands : NameStands options document name result) :
    ¬DeclaredAt document "simpleType" name site := by
  rintro ⟨index, spot, declares, _⟩
  cases stands with
  | complexType declared =>
      obtain ⟨_, _, declaresToo, _⟩ := declared
      exact registered.not_declares_both declaresToo declares
  | builtin undeclared | unresolved undeclared => exact undeclared _ (by decide) _ _ declares

/-- A chain does not go on from its end. -/
theorem EndsIn.not_goesOn
    (registered : Registered options document)
    {lists : Nat}
    {result : Except SchemaError TypeRef}
    (ends : EndsIn options document site lists result) :
    ¬GoesOn document site base := by
  rintro ⟨manner, steps⟩
  obtain ⟨source, derived⟩ : ∃ source, site.DerivedFrom manner source := by
    cases steps with
    | named derived | onTheSpot derived => exact ⟨_, derived⟩
  obtain ⟨derivation, derivedBy⟩ := derived.exists_derivation
  cases ends with
  | undefined noDerivation =>
      rw [derivedBy.isFirst] at noDerivation
      cases noDerivation
  | union isFirst construct =>
      obtain rfl := Option.some.inj (isFirst.symm.trans derivedBy.isFirst)
      rw [derivedBy.construct] at construct
      cases manner <;> exact absurd construct (by decide)
  | absent derivedToo | unresolvedPrefix derivedToo =>
      cases steps with
      | named derived | onTheSpot derived => cases (derived.unique derivedToo).2
  | named derivedToo stands =>
      cases steps with
      | named derived declared =>
          cases (derived.unique derivedToo).2
          exact stands.not_declaredAt registered declared
      | onTheSpot derived => cases (derived.unique derivedToo).2

/-- A chain goes on in one way. -/
theorem GoesOn.unique
    (registered : Registered options document)
    {other : Site}
    (isNext : GoesOn document site base)
    (isOther : GoesOn document site other) :
    base = other := by
  obtain ⟨manner, steps⟩ := isNext
  obtain ⟨otherManner, otherSteps⟩ := isOther
  cases steps with
  | named derived declared =>
      cases otherSteps with
      | named derivedToo declaredToo =>
          cases (derived.unique derivedToo).2
          exact declared.eq registered declaredToo
      | onTheSpot derivedToo => cases (derived.unique derivedToo).2
  | onTheSpot derived =>
      cases otherSteps with
      | named derivedToo => cases (derived.unique derivedToo).2
      | onTheSpot derivedToo =>
          cases (derived.unique derivedToo).2
          rfl

/-- From a simple type whose chain ends no chain goes on for ever. -/
theorem Chain.acc
    (registered : Registered options document)
    {last : Site}
    {lists further : Nat}
    {result : Except SchemaError TypeRef}
    (chain : Chain document site lists last)
    (ends : EndsIn options document last further result) :
    Acc (fun base site => GoesOn document site base) site := by
  induction chain with
  | single site => exact ⟨_, fun base goesOn => absurd goesOn (ends.not_goesOn registered)⟩
  | step steps rest inductionHypothesis =>
      refine ⟨_, fun other goesOn => ?_⟩
      rw [goesOn.unique registered ⟨_, steps⟩]
      exact inductionHypothesis ends

/-- A chain that ends does not come back. -/
theorem Chain.not_comesBack
    (registered : Registered options document)
    {last met : Site}
    {lists further : Nat}
    {result : Except SchemaError TypeRef}
    (chain : Chain document site lists last)
    (ends : EndsIn options document last further result) :
    ¬ComesBack document site met := by
  rintro ⟨meets, circle⟩
  have acc := chain.acc registered ends
  clear chain
  induction meets using ReflTransGen.head_induction_on with
  | refl => exact not_transGen_self_of_acc acc circle
  | head goesOn _ inductionHypothesis => exact inductionHypothesis (acc.inv goesOn)

/-! ## Resolution -/

/-- A name that no simple type at the top declares is resolved to what it stands for. -/
theorem NameStands.resolveUse_eq
    (registered : Registered options document)
    {result : Except SchemaError TypeRef}
    (stands : NameStands options document name result)
    (pending : List ExpandedName) :
    (environmentOf options document).globals.resolveUse pending (.named (.ok name)) = result := by
  cases stands with
  | complexType declared =>
      obtain ⟨_, _, declares, rfl⟩ := declared
      obtain ⟨_, found⟩ := registered.lookup_complexType declares
      exact resolveUse_of_complex found
  | builtin undeclared isBuiltin =>
      rw [resolveUse_of_undeclared (registered.lookup_of_noType undeclared), isBuiltin,
        Option.elim_some]
  | unresolved undeclared notBuiltin =>
      rw [resolveUse_of_undeclared (registered.lookup_of_noType undeclared), notBuiltin,
        Option.elim_none]

/-- A simple type with which a chain ends is resolved to what the chain ends in. -/
theorem EndsIn.resolveAt_eq
    (registered : Registered options document)
    {lists : Nat}
    {result : Except SchemaError TypeRef}
    (ends : EndsIn options document site lists result)
    (pending : List ExpandedName) :
    (environmentOf options document).globals.resolveAt pending site =
      result.map TypeRef.listOf^[lists] := by
  cases ends with
  | undefined noDerivation =>
      have noChild := Option.map_eq_none_iff.1 noDerivation
      rw [Globals.resolveAt, simpleType_eq, noChild, Option.elim_none, Globals.resolveUse]
      rfl
  | union isFirst construct =>
      obtain ⟨child, isChild, rfl⟩ := Option.map_eq_some_iff.1 isFirst
      have isUnion : constructOf? child.2.tag = some "union" := construct
      rw [Globals.resolveAt, simpleType_eq, isChild, Option.elim_some, derivationAt, isUnion]
      rw [if_neg (by decide), if_neg (by decide), Globals.resolveUse]
      rfl
  | absent derived =>
      rw [resolveAt_of_derivedFrom derived, Source.use, Option.elim_none, Globals.resolveUse]
  | unresolvedPrefix derived =>
      rw [resolveAt_of_derivedFrom derived, Source.use, Globals.resolveUse]
  | named derived stands =>
      rw [resolveAt_of_derivedFrom derived, Source.use, stands.resolveUse_eq registered]

/-- How the resolution of a simple type goes on to the next one: it finds the name of that one to be
pending, it goes further in, or it goes to the top, with one more name pending. -/
inductive Proceeds (options : BindingOptions) (document : Xml.Document)
    (pending : List ExpandedName) (site base : Site) (lists : Nat) : Prop
  /-- The name of the next simple type is pending. -/
  | stops {name : ExpandedName} (isPending : name ∈ pending)
      (declared : DeclaredAt document "simpleType" name base)
      (stopped : (environmentOf options document).globals.resolveAt pending site =
        .error (.circularType name.localName))
  /-- The next simple type is inside. -/
  | inside (smaller : sizeOf base.spot.content < sizeOf site.spot.content)
      (further : (environmentOf options document).globals.resolveAt pending site =
        ((environmentOf options document).globals.resolveAt pending base).map TypeRef.listOf^[lists])
  /-- The next simple type is at the top, and its name is not pending yet. -/
  | toTop {name : ExpandedName} (fresh : name ∉ pending)
      (declared : DeclaredAt document "simpleType" name base)
      (further : (environmentOf options document).globals.resolveAt pending site =
        ((environmentOf options document).globals.resolveAt (name :: pending) base).map
          TypeRef.listOf^[lists])

theorem StepsTo.proceeds
    (registered : Registered options document)
    (steps : StepsTo document site manner base)
    (pending : List ExpandedName) :
    Proceeds options document pending site base manner.lists := by
  cases steps with
  | onTheSpot derived => exact .inside derived.sizeOf_lt (resolveAt_of_derivedFrom derived)
  | @named name derived declared =>
      have followed : (environmentOf options document).globals.resolveAt pending site =
          ((environmentOf options document).globals.resolveUse pending (.named (.ok name))).map
            TypeRef.listOf^[manner.lists] :=
        resolveAt_of_derivedFrom derived
      have isDeclared := declared
      obtain ⟨index, spot, declares, rfl⟩ := declared
      rw [resolveUse_of_simple (registered.lookup_simpleType declares)] at followed
      split_ifs at followed with isPending
      · exact .stops isPending isDeclared followed
      · exact .toTop isPending isDeclared followed

end Steps

/-! ## Runs -/

section Runs

variable {options : BindingOptions} {document : Xml.Document} {site base last : Site}
  {pending : List ExpandedName} {lists further : Nat} {final : Except SchemaError TypeRef}

/-- Whether the names that are pending are those of simple types that the chain has come from. -/
def Awaits (document : Xml.Document) (pending : List ExpandedName) (site : Site) : Prop :=
  ∀ name ∈ pending, ∃ waiting, DeclaredAt document "simpleType" name waiting ∧
    ReflTransGen (GoesOn document) waiting site

theorem Awaits.goOn
    (awaits : Awaits document pending site)
    (goesOn : GoesOn document site base) :
    Awaits document pending base := by
  intro name isPending
  obtain ⟨waiting, declared, leads⟩ := awaits name isPending
  exact ⟨waiting, declared, leads.tail goesOn⟩

theorem Awaits.cons
    (awaits : Awaits document pending site)
    {name : ExpandedName}
    (declared : DeclaredAt document "simpleType" name site) :
    Awaits document (name :: pending) site :=
  List.forall_mem_cons.2 ⟨⟨site, declared, .refl⟩, awaits⟩

/-- A name that is pending is that of a simple type on a circle. -/
theorem Awaits.comesBack
    (awaits : Awaits document pending site)
    (registered : Registered options document)
    (goesOn : GoesOn document site base)
    {name : ExpandedName}
    (isPending : name ∈ pending)
    (declared : DeclaredAt document "simpleType" name base) :
    ComesBack document site base := by
  obtain ⟨waiting, waits, leads⟩ := awaits name isPending
  obtain rfl := waits.eq registered declared
  exact ⟨.single goesOn, .tail' leads goesOn⟩

theorem map_listOf_map
    (result : Except SchemaError TypeRef)
    (outer inner : Nat) :
    (result.map TypeRef.listOf^[inner]).map TypeRef.listOf^[outer] =
      result.map TypeRef.listOf^[outer + inner] := by
  cases result with
  | error error => rfl
  | ok type => exact congrArg Except.ok (Function.iterate_add_apply _ _ _ _).symm

/-- Along a chain that ends, a simple type is resolved to what the chain ends in, within as many lists
as there are on the chain. -/
theorem Chain.resolveAt_eq
    (registered : Registered options document)
    (chain : Chain document site lists last)
    (ends : EndsIn options document last further final)
    (awaits : Awaits document pending site) :
    (environmentOf options document).globals.resolveAt pending site =
      final.map TypeRef.listOf^[lists + further] := by
  induction chain generalizing pending with
  | single site => rw [ends.resolveAt_eq registered, Nat.zero_add]
  | step steps rest inductionHypothesis =>
      have goesOn : GoesOn document _ _ := ⟨_, steps⟩
      cases steps.proceeds registered pending with
      | stops isPending declared =>
          -- A pending name would close a circle, which a chain that ends does not meet.
          have circle := awaits.comesBack registered goesOn isPending declared
          exact absurd circle ((Chain.step steps rest).not_comesBack registered ends)
      | inside _ further =>
          rw [further, inductionHypothesis ends (awaits.goOn goesOn), map_listOf_map, Nat.add_assoc]
      | toTop _ declared further =>
          rw [further, inductionHypothesis ends ((awaits.goOn goesOn).cons declared),
            map_listOf_map, Nat.add_assoc]

/-- Whether the chain from a simple type ends, or comes back to a simple type at the top whose name the
resolution reports. -/
def Concludes (options : BindingOptions) (document : Xml.Document) (pending : List ExpandedName)
    (site : Site) : Prop :=
  (∃ lists last further final, Chain document site lists last ∧
    EndsIn options document last further final) ∨
  ∃ name met, DeclaredAt document "simpleType" name met ∧ ComesBack document site met ∧
    (environmentOf options document).globals.resolveAt pending site =
      .error (.circularType name.localName)

theorem Concludes.step
    {manner : Manner}
    (steps : StepsTo document site manner base)
    {others : List ExpandedName}
    (followed : (environmentOf options document).globals.resolveAt pending site =
      ((environmentOf options document).globals.resolveAt others base).map TypeRef.listOf^[lists])
    (concludes : Concludes options document others base) :
    Concludes options document pending site := by
  rcases concludes with ⟨_, _, _, _, chain, ends⟩ | ⟨name, met, declared, ⟨meets, circle⟩, stopped⟩
  · exact .inl ⟨_, _, _, _, .step steps chain, ends⟩
  · rw [stopped] at followed
    exact .inr ⟨name, met, declared, ⟨.head ⟨manner, steps⟩ meets, circle⟩, followed⟩

end Runs

/-- A chain ends, or it comes back and the resolution reports it. -/
theorem concludes_of_awaits
    {options : BindingOptions}
    {document : Xml.Document}
    (registered : Registered options document)
    {pending : List ExpandedName}
    {site : Site}
    (awaits : Awaits document pending site) :
    Concludes options document pending site := by
  obtain ⟨further, final, ends⟩ | ⟨base, manner, steps⟩ := endsIn_or_goesOn options document site
  · exact .inl ⟨_, _, _, _, .single site, ends⟩
  have awaitsNext : Awaits document pending base := awaits.goOn ⟨manner, steps⟩
  cases steps.proceeds registered pending with
  | stops isPending declared stopped =>
      exact .inr ⟨_, base, declared, awaits.comesBack registered ⟨manner, steps⟩ isPending declared,
        stopped⟩
  | inside smaller followed =>
      exact .step steps followed (concludes_of_awaits registered awaitsNext)
  | toTop fresh declared followed =>
      exact .step steps followed (concludes_of_awaits registered (awaitsNext.cons declared))
-- A simple type inside is smaller, and going to the top leaves fewer names that are not pending.
termination_by (((environmentOf options document).globals.unresolved pending).length,
  sizeOf site.spot.content)
decreasing_by
  · exact .right _ smaller
  · obtain ⟨_, _, declares, _⟩ := declared
    exact .left _ _ (Globals.length_unresolved_cons_lt _ _ (registered.lookup_simpleType declares)
      fresh)

/-- What ends a chain is not refused as circular. -/
theorem EndsIn.not_circular
    {options : BindingOptions}
    {document : Xml.Document}
    {site : Site}
    {lists : Nat}
    {final : Except SchemaError TypeRef}
    (ends : EndsIn options document site lists final)
    (localName : String) :
    final ≠ .error (.circularType localName) := by
  intro circular
  cases ends with
  | undefined | union | absent | unresolvedPrefix => cases circular
  | named _ stands => cases stands <;> cases circular

/-- The resolution of a simple type comes to what its chain determines. -/
theorem rootsIn_of_awaits
    {options : BindingOptions}
    {document : Xml.Document}
    (registered : Registered options document)
    {pending : List ExpandedName}
    {site : Site}
    (awaits : Awaits document pending site) :
    RootsIn options document site
      ((environmentOf options document).globals.resolveAt pending site) := by
  have atEnd : ∀ {lists last further final}, Chain document site lists last →
      EndsIn options document last further final → _ =
        final.map TypeRef.listOf^[lists + further] :=
    fun chain ends => chain.resolveAt_eq registered ends awaits
  have reported : ∀ {localName},
      (environmentOf options document).globals.resolveAt pending site =
        .error (.circularType localName) →
      ∃ name met, DeclaredAt document "simpleType" name met ∧ name.localName = localName ∧
        ComesBack document site met := by
    intro localName circular
    rcases concludes_of_awaits registered awaits with
      ⟨_, _, _, final, chain, ends⟩ | ⟨name, met, declared, comesBack, stopped⟩
    · rw [atEnd chain ends] at circular
      cases final with
      | error error => exact absurd circular (ends.not_circular localName)
      | ok type => cases circular
    · rw [stopped] at circular
      cases circular
      exact ⟨name, met, declared, rfl, comesBack⟩
  refine ⟨⟨?_, ?_⟩, reported, ?_, atEnd⟩
  · rintro ⟨localName, circular⟩
    obtain ⟨_, met, _, _, comesBack⟩ := reported circular
    exact ⟨met, comesBack⟩
  · rintro ⟨met, comesBack⟩
    rcases concludes_of_awaits registered awaits with
      ⟨_, _, _, _, chain, ends⟩ | ⟨name, _, _, _, stopped⟩
    · exact absurd comesBack (chain.not_comesBack registered ends)
    · exact ⟨_, stopped⟩
  · intro never
    rcases concludes_of_awaits registered awaits with ends | ⟨_, met, _, comesBack, _⟩
    · exact ends
    · exact absurd comesBack (never met)

end Schema
end SchemaBinding
