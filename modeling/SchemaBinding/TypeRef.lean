/-!
# References to types

The types that fields and values have.  A type without a package is a primitive, and a type with
arguments is parametric, such as `core.List<com.example.Item>`.  Two references are equal when
package, name and arguments are: how one is displayed plays no part.
-/

namespace SchemaBinding

/-- A type, named by its package, its name within the package, and its arguments. -/
structure TypeRef where
  /-- The package; primitives have none. -/
  package : Option String
  /-- The name within the package; nested classes are named through the classes around them. -/
  name : String
  /-- The arguments of a parametric type. -/
  arguments : List TypeRef
deriving Repr, Inhabited

namespace TypeRef

/-- The package of the built-in reference types. -/
def corePackage : String :=
  "core"

/-- A primitive type. -/
def primitive (name : String) : TypeRef :=
  ⟨none, name, []⟩

/-- A type of a package. -/
def reference (package name : String) : TypeRef :=
  ⟨some package, name, []⟩

/-- A type of a package, applied to arguments. -/
def parametric (package name : String) (arguments : List TypeRef) : TypeRef :=
  ⟨some package, name, arguments⟩

/-- A built-in reference type. -/
def core (name : String) : TypeRef :=
  reference corePackage name

/-- Lists of a type. -/
def listOf (item : TypeRef) : TypeRef :=
  parametric corePackage "List" [item]

/-- The type above all others. -/
def object : TypeRef :=
  core "Object"

/-- Text. -/
def string : TypeRef :=
  core "String"

/-- Whether the type has no package. -/
def isPrimitive (type : TypeRef) : Bool :=
  type.package.isNone

/-- Whether the type has arguments. -/
def isParametric (type : TypeRef) : Bool :=
  !type.arguments.isEmpty

/-- Whether the type is a primitive or one of the core package, whatever its arguments are. -/
def isBuiltin (type : TypeRef) : Bool :=
  match type.package with
  | none => true
  | some package => package == corePackage

mutual

/-- Decides whether two types are the same. -/
def decEq : (left right : TypeRef) → Decidable (left = right)
  | ⟨leftPackage, leftName, leftArguments⟩, ⟨rightPackage, rightName, rightArguments⟩ =>
      if samePackage : leftPackage = rightPackage then
        if sameName : leftName = rightName then
          match decEqList leftArguments rightArguments with
          | isTrue sameArguments => isTrue (by rw [samePackage, sameName, sameArguments])
          | isFalse different => isFalse fun same => different (congrArg arguments same)
        else isFalse fun same => sameName (congrArg name same)
      else isFalse fun same => samePackage (congrArg package same)

/-- Decides whether two lists of types are the same. -/
def decEqList : (left right : List TypeRef) → Decidable (left = right)
  | [], [] => isTrue rfl
  | [], _ :: _ => isFalse nofun
  | _ :: _, [] => isFalse nofun
  | left :: lefts, right :: rights =>
      match decEq left right with
      | isTrue same =>
          match decEqList lefts rights with
          | isTrue sameRest => isTrue (by rw [same, sameRest])
          | isFalse different => isFalse fun equal => different (List.cons.inj equal).2
      | isFalse different => isFalse fun equal => different (List.cons.inj equal).1

end

instance : DecidableEq TypeRef :=
  decEq

/-- The order of packages, in which none comes first. -/
def orderPackage : Option String → Option String → Ordering
  | none, none => .eq
  | none, some _ => .lt
  | some _, none => .gt
  | some left, some right => compare left right

mutual

/--
The order of types: primitives come before all others, then types are ordered by package, by name
and by their arguments from the first on.
-/
def order : TypeRef → TypeRef → Ordering
  | ⟨leftPackage, leftName, leftArguments⟩, ⟨rightPackage, rightName, rightArguments⟩ =>
      (orderPackage leftPackage rightPackage).then <|
        (compare leftName rightName).then <| orderList leftArguments rightArguments

/-- The order of argument lists, in which a beginning comes before the whole. -/
def orderList : List TypeRef → List TypeRef → Ordering
  | [], [] => .eq
  | [], _ :: _ => .lt
  | _ :: _, [] => .gt
  | left :: lefts, right :: rights => (order left right).then (orderList lefts rights)

end

instance : Ord TypeRef :=
  ⟨order⟩

mutual

/-- The name of a type without the packages that are hidden, in itself and in its arguments. -/
def displayName (hidden : String → Bool) : TypeRef → String
  | ⟨package, name, arguments⟩ =>
      let qualifier :=
        match package with
        | none => ""
        | some package => if hidden package then "" else package ++ "."
      match arguments with
      | [] => qualifier ++ name
      | first :: rest => qualifier ++ name ++ "<" ++ displayNames hidden (first :: rest) ++ ">"

/-- The names of a list of arguments, separated by commas. -/
def displayNames (hidden : String → Bool) : List TypeRef → String
  | [] => ""
  | [only] => displayName hidden only
  | first :: second :: rest => displayName hidden first ++ ", " ++ displayNames hidden (second :: rest)

end

/-- The name of a type with every package written out. -/
def fullName (type : TypeRef) : String :=
  type.displayName fun _ => false

end TypeRef
end SchemaBinding
