/-!
# Expanded names

A name together with the namespace that it belongs to.  No namespace and a namespace whose name is
empty are different.
-/

namespace SchemaBinding

/-- A local name and the name of its namespace, if it is in one. -/
structure ExpandedName where
  /-- The name of the namespace. -/
  namespaceName : Option String
  /-- The name within the namespace. -/
  localName : String
deriving DecidableEq, Repr

namespace ExpandedName

/-- The name as messages show it, with the namespace in braces. -/
def text (name : ExpandedName) : String :=
  match name.namespaceName with
  | none => name.localName
  | some namespaceName => "\x7b" ++ namespaceName ++ "\x7d:" ++ name.localName

/-- Whether the name is in a given namespace, or in none. -/
def isIn (name : ExpandedName) (namespaceName : Option String) : Bool :=
  name.namespaceName == namespaceName

end ExpandedName
end SchemaBinding
