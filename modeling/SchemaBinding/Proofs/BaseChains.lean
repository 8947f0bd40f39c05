import Mathlib.Data.List.Induction
import SchemaBinding.Derivation.BaseTable
import SchemaBinding.Proofs.Derivations

/-!
# Chains of bases

A table of base types answers with the base that a type was given last.  Its ancestors are all types
to which base links lead, although no walk is longer than the table: a longer one would come to a
type twice, and a shorter one leads to the same type.  This holds of cyclic tables too.
-/

namespace SchemaBinding

open Relation (ReflTransGen TransGen)

/-! ## Entries of tables -/

section Entries

variable {Key Value : Type} [BEq Key] [LawfulBEq Key] [DecidableEq Key]

theorem lookup_cons_eq_ite
    (entry : Key × Value)
    (rest : List (Key × Value))
    (key : Key) :
    (entry :: rest).lookup key = if key = entry.1 then some entry.2 else rest.lookup key := by
  rw [List.lookup_cons]
  by_cases same : key = entry.1
  · simp [same]
  · rw [if_neg same, beq_eq_false_iff_ne.2 same]

/-- Replacing what is noted under a key changes nothing under other keys. -/
theorem lookup_map_replace
    (entries : List (Key × Value))
    (replaced : Key)
    (value : Value)
    (key : Key) :
    (entries.map fun entry => if entry.1 = replaced then (replaced, value) else entry).lookup key =
      if key = replaced then (entries.lookup replaced).map fun _ => value
      else entries.lookup key := by
  induction entries with
  | nil => simp
  | cons entry rest inductionHypothesis =>
      rw [List.map_cons, lookup_cons_eq_ite, inductionHypothesis, lookup_cons_eq_ite,
        lookup_cons_eq_ite]
      grind

end Entries

namespace BaseTable

/-! ## Insertions -/

/-- The table after types were given bases, one after the other. -/
def ofInsertions (insertions : List (TypeRef × TypeRef)) : BaseTable :=
  insertions.foldl (fun table link => table.insert link.1 link.2) {}

theorem ofInsertions_append_singleton
    (insertions : List (TypeRef × TypeRef))
    (link : TypeRef × TypeRef) :
    ofInsertions (insertions ++ [link]) = (ofInsertions insertions).insert link.1 link.2 := by
  rw [ofInsertions, List.foldl_append]
  rfl

/-- A type has the base that it was given, and all others keep theirs. -/
theorem baseOf?_insert
    (table : BaseTable)
    (derived base type : TypeRef) :
    (table.insert derived base).baseOf? type =
      if type = derived then some base else table.baseOf? type := by
  unfold insert
  split
  next known =>
    obtain ⟨previous, found⟩ := Option.isSome_iff_exists.1 known
    unfold baseOf? at found ⊢
    rw [lookup_map_replace, found, Option.map_some]
  next unknown =>
    have absent : table.links.lookup derived = none := Option.not_isSome_iff_eq_none.1 unknown
    unfold baseOf?
    rw [List.lookup_append, List.lookup_singleton]
    by_cases same : type = derived
    · simp [same, absent]
    · simp [same]

/-- A type has the base that it was given last. -/
theorem baseOf?_ofInsertions
    (insertions : List (TypeRef × TypeRef))
    (type : TypeRef) :
    (ofInsertions insertions).baseOf? type = insertions.reverse.lookup type := by
  induction insertions using List.reverseRecOn with
  | nil => rfl
  | append_singleton rest link inductionHypothesis =>
      rw [ofInsertions_append_singleton, baseOf?_insert, inductionHypothesis, List.reverse_concat,
        lookup_cons_eq_ite]

/-- Whether a table has one link for each type that has a base. -/
def Functional (table : BaseTable) : Prop :=
  (table.links.map Prod.fst).Nodup

theorem Functional.insert
    {table : BaseTable}
    (functional : table.Functional)
    (derived base : TypeRef) :
    (table.insert derived base).Functional := by
  unfold BaseTable.insert
  split
  next known =>
    have sameKeys : ((table.links.map fun link =>
        if link.1 = derived then (derived, base) else link).map Prod.fst) =
          table.links.map Prod.fst := by
      rw [List.map_map]
      apply List.map_congr_left
      intro link _
      by_cases replaced : link.1 = derived <;> simp [replaced]
    unfold Functional
    rw [sameKeys]
    exact functional
  next unknown =>
    have absent : derived ∉ table.links.map Prod.fst := by
      intro member
      obtain ⟨link, isLink, rfl⟩ := List.mem_map.1 member
      exact unknown (List.lookup_isSome_iff.2 ⟨link, isLink, beq_self_eq_true link.1⟩)
    unfold Functional
    rw [List.map_append, List.nodup_append_comm]
    exact List.nodup_cons.2 ⟨absent, functional⟩

theorem functional_ofInsertions
    (insertions : List (TypeRef × TypeRef)) :
    (ofInsertions insertions).Functional := by
  induction insertions using List.reverseRecOn with
  | nil => exact List.nodup_nil
  | append_singleton rest link inductionHypothesis =>
      rw [ofInsertions_append_singleton]
      exact inductionHypothesis.insert link.1 link.2

/-! ## Climbing -/

section

variable {table : BaseTable} {type base upper : TypeRef} {steps : Nat}

/-- Whether a type has another as its base. -/
def HasBase (table : BaseTable) (derived base : TypeRef) : Prop :=
  table.baseOf? derived = some base

/-- The type to which a number of links leads, if there are as many. -/
def climb (table : BaseTable) : Nat → TypeRef → Option TypeRef
  | 0, type => some type
  | steps + 1, type => (table.baseOf? type).bind (table.climb steps)

theorem climb_add
    (table : BaseTable)
    (lower higher : Nat)
    (type : TypeRef) :
    table.climb (lower + higher) type = (table.climb lower type).bind (table.climb higher) := by
  induction lower generalizing type with
  | zero => rw [Nat.zero_add, climb, Option.bind_some]
  | succ lower inductionHypothesis =>
      rw [Nat.succ_add, climb, climb, Option.bind_assoc]
      congr 1
      funext base
      exact inductionHypothesis base

theorem climb_succ
    (table : BaseTable)
    (steps : Nat)
    (type : TypeRef) :
    table.climb (steps + 1) type = (table.climb steps type).bind table.baseOf? := by
  rw [climb_add]
  congr 1
  funext last
  simp [climb]

/-- What a climb of one step or more comes to is where base links lead. -/
theorem exists_climb_iff_transGen :
    (∃ steps, table.climb (steps + 1) type = some upper) ↔
      TransGen table.HasBase type upper := by
  constructor
  · rintro ⟨steps, climbed⟩
    induction steps generalizing upper with
    | zero =>
        rw [climb_succ] at climbed
        exact .single climbed
    | succ steps inductionHypothesis =>
        rw [climb_succ] at climbed
        obtain ⟨last, reached, isBase⟩ := Option.bind_eq_some_iff.1 climbed
        exact (inductionHypothesis reached).tail isBase
  · intro path
    induction path with
    | single isBase => exact ⟨0, by rw [climb_succ]; exact isBase⟩
    | tail _ isBase inductionHypothesis =>
        obtain ⟨steps, climbed⟩ := inductionHypothesis
        refine ⟨steps + 1, ?_⟩
        rw [climb_succ, climbed]
        exact isBase

theorem reflTransGen_of_climb
    (climbed : table.climb steps type = some upper) :
    ReflTransGen table.HasBase type upper := by
  cases steps with
  | zero => exact Option.some.inj climbed ▸ .refl
  | succ steps => exact (exists_climb_iff_transGen.1 ⟨steps, climbed⟩).to_reflTransGen

/-- A walk meets the types to which fewer links lead than it may follow. -/
theorem mem_walk_iff :
    upper ∈ table.walk steps type ↔ ∃ fewer < steps, table.climb (fewer + 1) type = some upper := by
  induction steps generalizing type with
  | zero => simp [walk]
  | succ steps inductionHypothesis =>
      cases isBase : table.baseOf? type with
      | none => simp [walk, climb, isBase]
      | some base =>
          have climbed : ∀ fewer, table.climb (fewer + 1) type = table.climb fewer base := by
            intro fewer
            rw [climb, isBase, Option.bind_some]
          simp only [walk, isBase, List.mem_cons, inductionHypothesis, climbed]
          constructor
          · rintro (rfl | ⟨fewer, less, reached⟩)
            · exact ⟨0, Nat.succ_pos steps, rfl⟩
            · exact ⟨fewer + 1, Nat.succ_lt_succ less, reached⟩
          · rintro ⟨fewer, less, reached⟩
            cases fewer with
            | zero => exact .inl (Option.some.inj reached).symm
            | succ fewer => exact .inr ⟨fewer, Nat.lt_of_succ_lt_succ less, reached⟩

/-- A climb over more links than the table has comes to some type twice. -/
theorem exists_repetition
    (climbed : table.climb steps type = some upper)
    (more : table.links.length < steps) :
    ∃ early late met, early < late ∧ late < steps ∧
      table.climb early type = some met ∧ table.climb late type = some met := by
  -- Every type met before the end has a base, so that it is the key of a link.
  have linked : ∀ step < steps, table.climb step type ∈ table.links.map fun link => some link.1 := by
    intro step before
    rw [← Nat.add_sub_of_le before, climb_add, climb_succ] at climbed
    obtain ⟨next, reached, _⟩ := Option.bind_eq_some_iff.1 climbed
    obtain ⟨met, isMet, isBase⟩ := Option.bind_eq_some_iff.1 reached
    obtain ⟨link, isLink, same⟩ := List.lookup_isSome_iff.1 (Option.isSome_of_eq_some isBase)
    rw [isMet, eq_of_beq same]
    exact List.mem_map_of_mem isLink
  by_contra distinct
  have apart : ∀ early late, early < late → late < steps →
      table.climb early type ≠ table.climb late type := by
    intro early late less before same
    obtain ⟨link, _, isMet⟩ := List.mem_map.1 (linked late before)
    exact distinct ⟨early, late, link.1, less, before, same.trans isMet.symm, isMet.symm⟩
  have nodup : ((List.range steps).map fun step => table.climb step type).Nodup := by
    apply List.nodup_range.map_on
    intro first firstBefore second secondBefore same
    rw [List.mem_range] at firstBefore secondBefore
    rcases Nat.lt_trichotomy first second with less | equal | greater
    · exact absurd same (apart first second less secondBefore)
    · exact equal
    · exact absurd same.symm (apart second first greater firstBefore)
  have fits := (nodup.subperm (fun met member => by
    obtain ⟨step, before, rfl⟩ := List.mem_map.1 member
    exact linked step (List.mem_range.1 before))).length_le
  rw [List.length_map, List.length_range, List.length_map] at fits
  omega

/-- What is met twice can be cut out, so that no climb needs more links than there are. -/
theorem mem_ancestors_of_climb
    (climbed : table.climb (steps + 1) type = some upper) :
    upper ∈ table.ancestors type := by
  induction steps using Nat.strongRecOn with
  | ind steps inductionHypothesis =>
      by_cases within : steps < table.links.length
      · exact mem_walk_iff.2 ⟨steps, within, climbed⟩
      · obtain ⟨early, late, met, less, before, isMet, isMetAgain⟩ :=
          exists_repetition climbed (by omega)
        apply inductionHypothesis (early + (steps - late)) (by omega)
        have split : steps + 1 = late + (steps + 1 - late) := by omega
        have shortened : early + (steps - late) + 1 = early + (steps + 1 - late) := by omega
        rw [shortened, climb_add, isMet, ← isMetAgain, ← climb_add, ← split]
        exact climbed

/-- The ancestors of a type are the types to which one or more base links lead. -/
theorem mem_ancestors_iff :
    upper ∈ table.ancestors type ↔ TransGen table.HasBase type upper := by
  rw [← exists_climb_iff_transGen]
  constructor
  · intro member
    obtain ⟨steps, _, climbed⟩ := mem_walk_iff.1 member
    exact ⟨steps, climbed⟩
  · rintro ⟨steps, climbed⟩
    exact mem_ancestors_of_climb climbed

theorem isAncestor_iff :
    table.graph.isAncestor upper type ↔ ReflTransGen table.HasBase type upper := by
  rw [Relation.reflTransGen_iff_eq_or_transGen, ← mem_ancestors_iff]
  simp [graph]

end

/-! ## Chains that end -/

section

variable {table : BaseTable} {type : TypeRef} {chain : List TypeRef}

/-- The base of a type, the base of its base, and so on up to a type that has no base. -/
inductive BaseChain (table : BaseTable) : TypeRef → List TypeRef → Prop
  /-- A type without a base. -/
  | stop {type : TypeRef} (noBase : table.baseOf? type = none) : BaseChain table type []
  /-- A type with a base, and the chain of the base. -/
  | next {type base : TypeRef} {chain : List TypeRef} (isBase : table.baseOf? type = some base)
      (above : BaseChain table base chain) : BaseChain table type (base :: chain)

/-- Whether no type that base links lead to from a type is come to again. -/
def Unrepeated (table : BaseTable) (type : TypeRef) : Prop :=
  ∀ upper, ReflTransGen table.HasBase type upper → ¬TransGen table.HasBase upper upper

theorem unrepeated_iff :
    table.Unrepeated type ↔
      ∀ upper ∈ type :: table.ancestors type, upper ∉ table.ancestors upper := by
  simp only [Unrepeated, mem_ancestors_iff, List.mem_cons,
    Relation.reflTransGen_iff_eq_or_transGen]

instance (table : BaseTable) (type : TypeRef) : Decidable (table.Unrepeated type) :=
  decidable_of_iff _ unrepeated_iff.symm

theorem BaseChain.transGen
    {upper : TypeRef}
    (isChain : table.BaseChain type chain)
    (member : upper ∈ chain) :
    TransGen table.HasBase type upper := by
  induction isChain with
  | stop => cases member
  | next isBase _ inductionHypothesis =>
      rcases List.mem_cons.1 member with rfl | later
      · exact .single isBase
      · exact .head isBase (inductionHypothesis later)

theorem BaseChain.nodup
    (isChain : table.BaseChain type chain)
    (unrepeated : table.Unrepeated type) :
    (type :: chain).Nodup := by
  induction isChain with
  | stop => exact List.nodup_singleton _
  | @next type base chain isBase above inductionHypothesis =>
      have rest := inductionHypothesis fun upper path => unrepeated upper (.head isBase path)
      refine List.nodup_cons.2 ⟨fun member => ?_, rest⟩
      exact unrepeated type .refl ((above.next isBase).transGen member)

/-- A walk that may follow all links of a type's chain goes through the whole chain. -/
theorem baseChain_walk
    {steps : Nat}
    (ends : table.climb (steps + 1) type = none) :
    table.BaseChain type (table.walk steps type) := by
  induction steps generalizing type with
  | zero =>
      rw [climb_succ] at ends
      exact .stop ends
  | succ steps inductionHypothesis =>
      cases isBase : table.baseOf? type with
      | none =>
          simp only [walk, isBase]
          exact .stop isBase
      | some base =>
          rw [climb, isBase, Option.bind_some] at ends
          simp only [walk, isBase]
          exact .next isBase (inductionHypothesis ends)

/-- A chain that does not repeat ends before it is longer than the table. -/
theorem Unrepeated.climb_eq_none
    (unrepeated : table.Unrepeated type) :
    table.climb (table.links.length + 1) type = none := by
  by_contra climbs
  obtain ⟨upper, climbed⟩ := Option.ne_none_iff_exists'.1 climbs
  obtain ⟨early, late, met, less, _, isMet, isMetAgain⟩ :=
    exists_repetition climbed (Nat.lt_succ_self _)
  have around : table.climb (late - early - 1 + 1) met = some met := by
    rw [show late = early + (late - early - 1 + 1) by omega, climb_add, isMet] at isMetAgain
    exact isMetAgain
  exact unrepeated met (reflTransGen_of_climb isMet) (exists_climb_iff_transGen.1 ⟨_, around⟩)

/-! ## The ancestors in a table -/

/-- A table says that the base of a type is the one that it was given last.  Its ancestors are then
those to which base links lead, and walks that may be longer find no others.  A chain of bases that
does not repeat is found as it stands, up to its end. -/
theorem ancestry_ofInsertions
    {insertions : List (TypeRef × TypeRef)}
    {table : BaseTable}
    (isTable : ofInsertions insertions = table) :
    (∀ type, table.baseOf? type = insertions.reverse.lookup type) ∧
      table.Functional ∧
      (∀ declared actual, table.graph.isAncestor declared actual ↔
        ReflTransGen table.HasBase actual declared) ∧
      (∀ type steps, table.walk steps type ⊆ table.ancestors type) ∧
      table.graph.Reflexive ∧
      table.graph.Transitive ∧
      ∀ type, table.Unrepeated type →
        table.BaseChain type (table.ancestors type) ∧ (type :: table.ancestors type).Nodup := by
  subst isTable
  refine ⟨baseOf?_ofInsertions insertions, functional_ofInsertions insertions, ?_, ?_, ?_, ?_, ?_⟩
  · exact fun declared actual => isAncestor_iff
  · intro type steps upper member
    obtain ⟨fewer, _, climbed⟩ := mem_walk_iff.1 member
    exact mem_ancestors_of_climb climbed
  · exact fun type => isAncestor_iff.2 .refl
  · intro upper middle lower upperAbove middleAbove
    exact isAncestor_iff.2 ((isAncestor_iff.1 middleAbove).trans (isAncestor_iff.1 upperAbove))
  · intro type unrepeated
    have isChain := baseChain_walk unrepeated.climb_eq_none
    exact ⟨isChain, isChain.nodup unrepeated⟩

/-- Bases of which the last breaks up a cycle into a chain that takes every link. -/
def brokenCycle : List (TypeRef × TypeRef) :=
  [(.primitive "a", .primitive "b"), (.primitive "b", .primitive "c"),
    (.primitive "c", .primitive "a"), (.primitive "c", .primitive "d")]

theorem brokenCycle_ancestry :
    (ofInsertions brokenCycle).Unrepeated (.primitive "a") ∧
      (ofInsertions brokenCycle).BaseChain (.primitive "a")
        [.primitive "b", .primitive "c", .primitive "d"] := by
  have unrepeated : (ofInsertions brokenCycle).Unrepeated (.primitive "a") := by decide
  obtain ⟨_, _, _, _, _, _, chains⟩ :=
    ancestry_ofInsertions (show ofInsertions brokenCycle = _ from rfl)
  have isChain := (chains (.primitive "a") unrepeated).1
  have whole : (ofInsertions brokenCycle).ancestors (.primitive "a") =
      [.primitive "b", .primitive "c", .primitive "d"] := by decide
  exact ⟨unrepeated, whole ▸ isChain⟩

end

end BaseTable
end SchemaBinding
