import SchemaBinding.Proofs.BaseChains

/-!
# Single inheritance

An outline in which no class has more than one supertype says the same of its types as a table of
their bases does.  The outline searches its classes and the table follows links between types, but
each class has a type of its own, so that a path through one is a path through the other.  Only the
object type, which an outline puts above all types, and types with arguments are told apart.
-/

namespace SchemaBinding

open Relation (TransGen)

namespace BaseTable

/-- If no type is given two different bases, it does not matter in which order bases are given. -/
theorem hasBase_ofInsertions_iff
    {insertions : List (TypeRef × TypeRef)}
    (consistent : ∀ {derived base other}, (derived, base) ∈ insertions →
      (derived, other) ∈ insertions → base = other)
    {derived base : TypeRef} :
    (ofInsertions insertions).HasBase derived base ↔ (derived, base) ∈ insertions := by
  have given : ∀ {base}, insertions.reverse.lookup derived = some base →
      (derived, base) ∈ insertions := by
    intro base found
    obtain ⟨later, earlier, split, _⟩ := List.lookup_eq_some_iff.1 found
    rw [← List.mem_reverse, split]
    simp
  rw [HasBase, baseOf?_ofInsertions]
  constructor
  · exact given
  · intro member
    have isGiven : (insertions.reverse.lookup derived).isSome :=
      List.lookup_isSome_iff.2 ⟨_, List.mem_reverse.2 member, beq_self_eq_true derived⟩
    obtain ⟨other, found⟩ := Option.isSome_iff_exists.1 isGiven
    rw [found, consistent member (given found)]

end BaseTable

namespace Outline

variable {outline : Outline}

/-- The links from the type of each class to the types of its supertypes. -/
def supertypeLinks (outline : Outline) : List (TypeRef × TypeRef) :=
  outline.classIds.flatMap fun id =>
    (outline.supertypes id).filterMap fun supertype => do
      return (← outline.typeOf? id, ← outline.typeOf? supertype)

/-- Whether no class has two supertypes. -/
def SingleInheritance (outline : Outline) : Prop :=
  ∀ id ∈ outline.classIds, (outline.supertypes id).length ≤ 1

instance (outline : Outline) : Decidable outline.SingleInheritance :=
  inferInstanceAs (Decidable (∀ id ∈ outline.classIds, (outline.supertypes id).length ≤ 1))

theorem mem_supertypeLinks
    {derived base : TypeRef} :
    (derived, base) ∈ outline.supertypeLinks ↔
      ∃ id supertype, Extends outline.class? id supertype ∧
        outline.typeOf? id = some derived ∧ outline.typeOf? supertype = some base := by
  unfold supertypeLinks
  simp only [List.mem_flatMap, List.mem_filterMap, extends_iff]
  constructor
  · rintro ⟨id, _, supertype, direct, linked⟩
    obtain ⟨lower, typed, rest⟩ := Option.bind_eq_some_iff.1 linked
    obtain ⟨higher, supertypeTyped, same⟩ := Option.bind_eq_some_iff.1 rest
    cases same
    exact ⟨id, supertype, direct, typed, supertypeTyped⟩
  · rintro ⟨id, supertype, direct, typed, supertypeTyped⟩
    obtain ⟨found, isFound, _⟩ := extends_iff.2 direct
    exact ⟨id, mem_classIds_of_class? isFound, supertype, direct, by rw [typed, supertypeTyped]; rfl⟩

theorem SingleInheritance.eq_of_extends
    (single : outline.SingleInheritance)
    {id first second : ClassId}
    (firstAbove : Extends outline.class? id first)
    (secondAbove : Extends outline.class? id second) :
    first = second := by
  have ⟨found, isFound, _⟩ := firstAbove
  have few := single id (mem_classIds_of_class? isFound)
  rw [extends_iff] at firstAbove secondAbove
  generalize outline.supertypes id = supertypes at firstAbove secondAbove few
  match supertypes, few with
  | [only], _ => rw [List.mem_singleton.1 firstAbove, List.mem_singleton.1 secondAbove]

/-- The links of an outline give no type two bases. -/
theorem SingleInheritance.eq_of_mem_supertypeLinks
    (single : outline.SingleInheritance)
    (formed : outline.WellFormed)
    {derived base other : TypeRef}
    (linked : (derived, base) ∈ outline.supertypeLinks)
    (otherLinked : (derived, other) ∈ outline.supertypeLinks) :
    base = other := by
  obtain ⟨id, supertype, direct, typed, above⟩ := mem_supertypeLinks.1 linked
  obtain ⟨otherId, otherSupertype, otherDirect, otherTyped, otherAbove⟩ :=
    mem_supertypeLinks.1 otherLinked
  rw [formed.distinct otherTyped typed] at otherDirect
  rw [single.eq_of_extends otherDirect direct, above] at otherAbove
  exact Option.some.inj otherAbove

/-- A path of links is a path of supertypes between the classes of its ends. -/
theorem WellFormed.transGen_supertypeLinks_iff
    (formed : outline.WellFormed)
    {derived base : TypeRef} :
    TransGen (fun lower upper => (lower, upper) ∈ outline.supertypeLinks) derived base ↔
      ∃ id ancestor, outline.typeOf? id = some derived ∧
        TransGen (Extends outline.class?) id ancestor ∧ outline.typeOf? ancestor = some base := by
  constructor
  · intro path
    induction path with
    | single linked =>
        obtain ⟨id, supertype, direct, typed, above⟩ := mem_supertypeLinks.1 linked
        exact ⟨id, supertype, typed, .single direct, above⟩
    | tail _ linked inductionHypothesis =>
        obtain ⟨id, between, typed, path, betweenTyped⟩ := inductionHypothesis
        obtain ⟨same, supertype, direct, sameTyped, above⟩ := mem_supertypeLinks.1 linked
        rw [formed.distinct sameTyped betweenTyped] at direct
        exact ⟨id, supertype, typed, path.tail direct, above⟩
  · rintro ⟨id, ancestor, typed, path, ancestorTyped⟩
    induction path generalizing base with
    | single direct => exact .single (mem_supertypeLinks.2 ⟨id, _, direct, typed, ancestorTyped⟩)
    | @tail between _ path direct inductionHypothesis =>
        obtain ⟨_, _, _, _, betweenTyped⟩ :=
          formed.typed between (formed.mem_classIds_of_transGen path)
        exact (inductionHypothesis betweenTyped).tail
          (mem_supertypeLinks.2 ⟨between, _, direct, betweenTyped, ancestorTyped⟩)

/-- A type without arguments is the type of the class that it names. -/
theorem WellFormed.typeOf?_of_classOf?
    (formed : outline.WellFormed)
    {type : TypeRef}
    (unapplied : type.arguments = [])
    {id : ClassId}
    (found : outline.classOf? type = some id) :
    outline.typeOf? id = some type := by
  obtain ⟨package, isPackage, typed⟩ := formed.classOf?_eq_some_iff.1 found
  obtain ⟨_, name, arguments⟩ := type
  cases isPackage
  cases unapplied
  exact typed

/-- Between types without arguments, an outline finds the paths of links. -/
theorem WellFormed.reaches_iff_supertypeLinks
    (formed : outline.WellFormed)
    {declared actual : TypeRef}
    (unapplied : actual.arguments = []) :
    outline.Reaches actual declared ↔
      TransGen (fun lower upper => (lower, upper) ∈ outline.supertypeLinks) actual declared := by
  rw [formed.transGen_supertypeLinks_iff]
  constructor
  · rintro ⟨id, ancestor, found, path, ancestorTyped⟩
    exact ⟨id, ancestor, formed.typeOf?_of_classOf? unapplied found, path, ancestorTyped⟩
  · rintro ⟨id, ancestor, typed, path, ancestorTyped⟩
    obtain ⟨_, ⟨found, isFound, _⟩, _⟩ := TransGen.head'_iff.1 path
    have isClass := mem_classIds_of_class? isFound
    exact ⟨id, ancestor, formed.classOf?_of_typeOf? isClass typed, path, ancestorTyped⟩

/-- The table of the bases in an outline with single inheritance derives what the outline derives,
in whatever order the bases were given: all declared types but the object type are above the same
types without arguments, and strict derivation has the same answers. -/
theorem Finished.table_derives
    (finished : outline.Finished)
    (single : outline.SingleInheritance)
    {insertions : List (TypeRef × TypeRef)}
    (reordered : insertions.Perm outline.supertypeLinks)
    {declared actual : TypeRef}
    (notObject : declared ≠ .object)
    (unapplied : actual.arguments = []) :
    (BaseTable.ofInsertions insertions).graph.isAncestor declared actual =
        outline.graph.isAncestor declared actual ∧
      (BaseTable.ofInsertions insertions).graph.strictlyDerives actual declared =
        outline.graph.strictlyDerives actual declared := by
  have formed := finished.wellFormed
  have sameBases : (BaseTable.ofInsertions insertions).HasBase =
      fun lower upper => (lower, upper) ∈ outline.supertypeLinks := by
    funext lower upper
    rw [BaseTable.hasBase_ofInsertions_iff, reordered.mem_iff]
    intro derived base other linked otherLinked
    exact single.eq_of_mem_supertypeLinks formed (reordered.mem_iff.1 linked)
      (reordered.mem_iff.1 otherLinked)
  have sameAncestors : (BaseTable.ofInsertions insertions).graph.isAncestor declared actual =
      outline.graph.isAncestor declared actual := by
    rw [Bool.eq_iff_iff, BaseTable.isAncestor_iff, sameBases,
      Relation.reflTransGen_iff_eq_or_transGen, ← formed.reaches_iff_supertypeLinks unapplied]
    exact (formed.isAncestor_iff.trans (by simp [notObject])).symm
  refine ⟨sameAncestors, ?_⟩
  rw [DerivationGraph.strictlyDerives, DerivationGraph.strictlyDerives, sameAncestors]

/-- An outline of addresses, with those of one country and, nested inside, the exempt ones. -/
def addresses : Outline where
  packages := ["ipo"]
  classes := [⟨"Address", ⟨0⟩, none, [], [], []⟩, ⟨"UsAddress", ⟨0⟩, none, [], [⟨0⟩], [⟨2⟩]⟩,
    ⟨"Exempt", ⟨0⟩, some ⟨1⟩, [], [⟨1⟩], []⟩]
  fields := []
  types := [.reference "ipo" "Address", .reference "ipo" "UsAddress",
    .reference "ipo" "UsAddress.Exempt"]

theorem addresses_finished : addresses.Finished :=
  finished_iff_ofScript.2 ⟨[.package "ipo", .addClass "Address" ⟨0⟩ none,
    .addClass "UsAddress" ⟨0⟩ none, .addClass "Exempt" ⟨0⟩ (some ⟨1⟩), .addSupertype ⟨1⟩ ⟨0⟩,
    .addSupertype ⟨2⟩ ⟨1⟩], by decide⟩

theorem addresses_table_derives :
    (BaseTable.ofInsertions [(.reference "ipo" "UsAddress.Exempt", .reference "ipo" "UsAddress"),
        (.reference "ipo" "UsAddress", .reference "ipo" "Address")]).graph.strictlyDerives
          (.reference "ipo" "UsAddress.Exempt") (.reference "ipo" "Address") =
        addresses.graph.strictlyDerives (.reference "ipo" "UsAddress.Exempt")
          (.reference "ipo" "Address") ∧
      addresses.graph.strictlyDerives (.reference "ipo" "UsAddress.Exempt")
        (.reference "ipo" "Address") = .ok true := by
  obtain ⟨_, sameDerivations⟩ := addresses_finished.table_derives (by decide)
    (show List.Perm _ addresses.supertypeLinks from .swap _ _ [])
    (show TypeRef.reference "ipo" "Address" ≠ .object by decide)
    (show (TypeRef.reference "ipo" "UsAddress.Exempt").arguments = [] from rfl)
  exact ⟨sameDerivations, sameDerivations.symm.trans (by decide)⟩

end Outline
end SchemaBinding
