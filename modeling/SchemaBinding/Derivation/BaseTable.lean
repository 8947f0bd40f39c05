import SchemaBinding.Derivation

/-!
# Tables of base types

Derivation where every type has at most one base, as a table of links from types to their bases.
A table may be cyclic; its ancestors are those that a walk along as many links as the table has
can reach.
-/

namespace SchemaBinding

/-- Links from types to their bases, at most one for each type. -/
structure BaseTable where
  /-- The links, in the order in which their types were first given a base. -/
  links : List (TypeRef × TypeRef) := []
deriving Repr

namespace BaseTable

/-- The base of a type. -/
def baseOf? (table : BaseTable) (type : TypeRef) : Option TypeRef :=
  table.links.lookup type

/-- Gives a type a base, in place of the one that it had. -/
def insert (table : BaseTable) (derived base : TypeRef) : BaseTable :=
  if (table.baseOf? derived).isSome then
    ⟨table.links.map fun link => if link.1 = derived then (derived, base) else link⟩
  else ⟨table.links ++ [(derived, base)]⟩

/-- The types met on a walk from a type along a number of links. -/
def walk (table : BaseTable) : Nat → TypeRef → List TypeRef
  | 0, _ => []
  | steps + 1, type =>
      match table.baseOf? type with
      | none => []
      | some base => base :: table.walk steps base

/-- The base of a type, the base of its base, and so on. -/
def ancestors (table : BaseTable) (type : TypeRef) : List TypeRef :=
  table.walk table.links.length type

/-- The derivations that the table records. -/
def graph (table : BaseTable) : DerivationGraph where
  isAncestor declared actual := declared = actual || (table.ancestors actual).contains declared

end BaseTable
end SchemaBinding
