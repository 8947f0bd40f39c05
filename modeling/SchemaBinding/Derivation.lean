import SchemaBinding.TypeRef

/-!
# Derivation

The relation between a type and those that it is derived from, and when a value of one type may
stand where another is declared.
-/

namespace SchemaBinding

/-- What is known of which types derive from which. -/
structure DerivationGraph where
  /-- Whether the first type is the second or one of its ancestors. -/
  isAncestor : (declared actual : TypeRef) → Bool

/-- The type of a value is unrelated to the type declared for it. -/
structure InvalidSubstitution where
  /-- The declared type. -/
  declared : TypeRef
  /-- The type of the value. -/
  actual : TypeRef
deriving DecidableEq, Repr

namespace InvalidSubstitution

/-- The wording of the error. -/
def message (error : InvalidSubstitution) : String :=
  "type " ++ error.actual.fullName ++ " is not derived from the declared type " ++
    error.declared.fullName

end InvalidSubstitution

namespace DerivationGraph

/--
Whether a type is strictly derived from the declared one.  The declared type itself is not, and an
unrelated type is an error.
-/
def strictlyDerives (graph : DerivationGraph) (actual declared : TypeRef) :
    Except InvalidSubstitution Bool :=
  if actual = declared then .ok false
  else if graph.isAncestor declared actual then .ok true
  else .error ⟨declared, actual⟩

end DerivationGraph
end SchemaBinding
