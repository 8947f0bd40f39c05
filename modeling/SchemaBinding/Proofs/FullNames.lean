import Mathlib.Data.List.Basic
import SchemaBinding.Proofs.Readability
import SchemaBinding.TypeRef

/-!
# Full names of types

The full name of a type tells the type, if the packages and names in it are free of what arguments
are written with, and the names also of dots.  What stands before the arguments ends where a
bracket, a comma or the end of the text comes next, and falls into package and name at its last
dot.  A type is read together with the text that follows it, so that a list of arguments can be
read one after the other.
-/

namespace SchemaBinding

/-- Whether a character can follow the full name of an argument. -/
def EndsArgument (c : Char) : Prop :=
  c = ',' ∨ c = '>'

/-- Whether a character can follow the package and the name of a type. -/
def EndsName (c : Char) : Prop :=
  c = '<' ∨ EndsArgument c

/-- Whether a text is free of what arguments are written with. -/
def Unbracketed (text : String) : Prop :=
  ∀ c ∈ text.toList, ¬EndsName c

instance (c : Char) : Decidable (EndsArgument c) :=
  inferInstanceAs (Decidable (_ ∨ _))

instance (c : Char) : Decidable (EndsName c) :=
  inferInstanceAs (Decidable (_ ∨ _))

instance (text : String) : Decidable (Unbracketed text) :=
  List.decidableBAll _ _

namespace TypeRef

/-- Whether the packages and names in a type, its arguments included, can be told from what they are
written with. -/
inductive Readable : TypeRef → Prop
  | mk {package : Option String} {name : String} {arguments : List TypeRef}
      (package_unbracketed : ∀ part ∈ package, Unbracketed part)
      (name_unbracketed : Unbracketed name) (name_undotted : '.' ∉ name.toList)
      (arguments_readable : ∀ argument ∈ arguments, Readable argument) :
      Readable ⟨package, name, arguments⟩

theorem readable_primitive
    {name : String}
    (name_unbracketed : Unbracketed name)
    (name_undotted : '.' ∉ name.toList) :
    (primitive name).Readable :=
  .mk (by simp) name_unbracketed name_undotted (by simp)

theorem readable_reference
    {package name : String}
    (package_unbracketed : Unbracketed package)
    (name_unbracketed : Unbracketed name)
    (name_undotted : '.' ∉ name.toList) :
    (reference package name).Readable :=
  .mk (by simpa) name_unbracketed name_undotted (by simp)

/-! ## Parts of a full name -/

/-- The characters of a full name before the arguments. -/
def qualifiedChars : Option String → String → List Char
  | none, name => name.toList
  | some package, name => package.toList ++ '.' :: name.toList

/-- The full names of arguments, each after a comma and a blank. -/
def separatedChars (arguments : List TypeRef) : List Char :=
  arguments.flatMap fun argument => ',' :: ' ' :: argument.fullName.toList

/-- The characters of a full name from the arguments on. -/
def bracketedChars : List TypeRef → List Char
  | [] => []
  | first :: rest => '<' :: (first.fullName.toList ++ separatedChars rest ++ ['>'])

theorem displayNames_toList
    (first : TypeRef)
    (rest : List TypeRef) :
    (displayNames (fun _ => false) (first :: rest)).toList =
      first.fullName.toList ++ separatedChars rest := by
  induction rest generalizing first with
  | nil => simp [displayNames, separatedChars, fullName]
  | cons second rest inductionHypothesis =>
      rw [displayNames, String.toList_append, String.toList_append, inductionHypothesis]
      simp [separatedChars, fullName]

theorem fullName_toList
    (package : Option String)
    (name : String)
    (arguments : List TypeRef) :
    (fullName ⟨package, name, arguments⟩).toList =
      qualifiedChars package name ++ bracketedChars arguments := by
  cases package <;> cases arguments <;>
    simp [fullName, displayName, qualifiedChars, bracketedChars, displayNames_toList]

theorem not_endsName_of_mem_qualifiedChars
    {package : Option String}
    {name : String}
    (package_unbracketed : ∀ part ∈ package, Unbracketed part)
    (name_unbracketed : Unbracketed name) :
    ∀ c ∈ qualifiedChars package name, ¬EndsName c := by
  cases package with
  | none => exact name_unbracketed
  | some part =>
      rw [qualifiedChars, List.forall_mem_append, List.forall_mem_cons]
      exact ⟨package_unbracketed part rfl, by simp [EndsName, EndsArgument], name_unbracketed⟩

/-- Package and name are determined by what stands before the arguments, if there is no dot in the
name. -/
theorem qualifiedChars_injective
    {left right : Option String}
    {leftName rightName : String}
    (leftUndotted : '.' ∉ leftName.toList)
    (rightUndotted : '.' ∉ rightName.toList)
    (same : qualifiedChars left leftName = qualifiedChars right rightName) :
    left = right ∧ leftName = rightName := by
  have dotted : ∀ package name, '.' ∈ qualifiedChars (some package) name := by
    simp [qualifiedChars]
  cases left with
  | none =>
      cases right with
      | none => exact ⟨rfl, String.toList_injective same⟩
      | some other =>
          have inName : '.' ∈ qualifiedChars none leftName := same ▸ dotted other rightName
          exact absurd inName leftUndotted
  | some package =>
      cases right with
      | none =>
          have inName : '.' ∈ qualifiedChars none rightName := same ▸ dotted package leftName
          exact absurd inName rightUndotted
      | some other =>
          obtain ⟨samePackage, sameName⟩ :=
            eq_of_append_cons_last leftUndotted rightUndotted same
          exact ⟨congrArg some (String.toList_injective samePackage),
            String.toList_injective sameName⟩

/-! ## Types and what follows them -/

/-- Whether the full name of a type determines the type and where its name ends. -/
def Determined (left : TypeRef) : Prop :=
  ∀ {right : TypeRef} {leftRest rightRest : List Char}, right.Readable →
    (∀ c ∈ leftRest.head?, EndsArgument c) → (∀ c ∈ rightRest.head?, EndsArgument c) →
      left.fullName.toList ++ leftRest = right.fullName.toList ++ rightRest →
        left = right ∧ leftRest = rightRest

theorem endsArgument_head?_separatedChars
    (arguments : List TypeRef)
    (rest : List Char) :
    ∀ c ∈ (separatedChars arguments ++ '>' :: rest).head?, EndsArgument c := by
  cases arguments <;> simp [separatedChars, EndsArgument]

/-- Arguments, each after a comma and a blank, are determined by what stands before the closing
bracket. -/
theorem separatedChars_injective
    {lefts rights : List TypeRef}
    {leftRest rightRest : List Char}
    (leftsDetermined : ∀ argument ∈ lefts, argument.Determined)
    (rightsReadable : ∀ argument ∈ rights, argument.Readable)
    (same : separatedChars lefts ++ '>' :: leftRest = separatedChars rights ++ '>' :: rightRest) :
    lefts = rights ∧ leftRest = rightRest := by
  induction lefts generalizing rights with
  | nil =>
      cases rights with
      | nil => exact ⟨rfl, (List.cons.inj same).2⟩
      | cons right rights => simp [separatedChars] at same
  | cons left lefts inductionHypothesis =>
      cases rights with
      | nil => simp [separatedChars] at same
      | cons right rights =>
          rw [List.forall_mem_cons] at leftsDetermined rightsReadable
          have texts : left.fullName.toList ++ (separatedChars lefts ++ '>' :: leftRest) =
              right.fullName.toList ++ (separatedChars rights ++ '>' :: rightRest) := by
            simpa [separatedChars] using same
          obtain ⟨sameFirst, sameOthers⟩ := leftsDetermined.1 rightsReadable.1
            (endsArgument_head?_separatedChars lefts leftRest)
            (endsArgument_head?_separatedChars rights rightRest) texts
          obtain ⟨equal, sameRest⟩ :=
            inductionHypothesis leftsDetermined.2 rightsReadable.2 sameOthers
          exact ⟨by rw [sameFirst, equal], sameRest⟩

/-- Arguments are determined by the brackets around them, or by there being none. -/
theorem bracketedChars_injective
    {lefts rights : List TypeRef}
    {leftRest rightRest : List Char}
    (leftsDetermined : ∀ argument ∈ lefts, argument.Determined)
    (rightsReadable : ∀ argument ∈ rights, argument.Readable)
    (leftEnds : ∀ c ∈ leftRest.head?, EndsArgument c)
    (rightEnds : ∀ c ∈ rightRest.head?, EndsArgument c)
    (same : bracketedChars lefts ++ leftRest = bracketedChars rights ++ rightRest) :
    lefts = rights ∧ leftRest = rightRest := by
  have opens : ¬EndsArgument '<' := by simp [EndsArgument]
  cases lefts with
  | nil =>
      cases rights with
      | nil => exact ⟨rfl, same⟩
      | cons right rights =>
          obtain rfl : leftRest = _ := same
          exact absurd (leftEnds '<' rfl) opens
  | cons left lefts =>
      cases rights with
      | nil =>
          obtain rfl : _ = rightRest := same
          exact absurd (rightEnds '<' rfl) opens
      | cons right rights =>
          -- With a comma before the first argument it is read as the others are.
          apply separatedChars_injective leftsDetermined rightsReadable
          have texts := congrArg (fun text => ',' :: ' ' :: text) (List.cons.inj same).2
          simpa [separatedChars] using texts

theorem endsName_head?_bracketedChars
    {arguments : List TypeRef}
    {rest : List Char}
    (ends : ∀ c ∈ rest.head?, EndsArgument c) :
    ∀ c ∈ (bracketedChars arguments ++ rest).head?, EndsName c := by
  intro c member
  cases arguments with
  | nil => exact .inr (ends c member)
  | cons first others => exact .inl (Option.some.inj member).symm

theorem Readable.determined
    {left : TypeRef}
    (leftReadable : left.Readable) :
    left.Determined := by
  -- The texts that follow are not fixed, since those that follow the arguments are others.
  induction leftReadable with
  | @mk leftPackage leftName leftArguments leftPackageUnbracketed leftUnbracketed leftUndotted
      leftArgumentsReadable inductionHypothesis =>
      intro right leftRest rightRest rightReadable leftEnds rightEnds same
      obtain ⟨rightPackageUnbracketed, rightUnbracketed, rightUndotted, rightArgumentsReadable⟩ :=
        rightReadable
      rw [fullName_toList, fullName_toList, List.append_assoc, List.append_assoc] at same
      obtain ⟨sameNames, sameArguments⟩ := eq_of_append_of_ends
        (not_endsName_of_mem_qualifiedChars leftPackageUnbracketed leftUnbracketed)
        (not_endsName_of_mem_qualifiedChars rightPackageUnbracketed rightUnbracketed)
        (endsName_head?_bracketedChars leftEnds) (endsName_head?_bracketedChars rightEnds) same
      obtain ⟨samePackage, sameName⟩ :=
        qualifiedChars_injective leftUndotted rightUndotted sameNames
      obtain ⟨equal, sameRest⟩ := bracketedChars_injective inductionHypothesis
        rightArgumentsReadable leftEnds rightEnds sameArguments
      exact ⟨by rw [samePackage, sameName, equal], sameRest⟩

theorem Readable.eq_of_fullName_eq
    {left right : TypeRef}
    (leftReadable : left.Readable)
    (rightReadable : right.Readable)
    (same : left.fullName = right.fullName) :
    left = right := by
  have texts : left.fullName.toList ++ [] = right.fullName.toList ++ [] := by rw [same]
  have ends : ∀ c ∈ ([] : List Char).head?, EndsArgument c := by simp
  exact (leftReadable.determined rightReadable ends ends texts).1

/-- Types whose packages and names are free of brackets and commas, and the names also of dots, are
the same if and only if their full names are. -/
theorem fullName_eq_iff
    {left right : TypeRef}
    (leftReadable : left.Readable)
    (rightReadable : right.Readable) :
    left.fullName = right.fullName ↔ left = right :=
  ⟨leftReadable.eq_of_fullName_eq rightReadable, congrArg fullName⟩

/-- A parametric type with an argument whose package is empty. -/
def ofEmptyPackage : TypeRef :=
  parametric "core" "Map" [reference "" "x", reference "p.q" ""]

/-- The same type but for an argument that has no package. -/
def ofNoPackage : TypeRef :=
  parametric "core" "Map" [primitive "x", reference "p.q" ""]

/-- An empty package is told from none, before an argument whose name is empty. -/
theorem ofEmptyPackage_fullName :
    ofEmptyPackage.Readable ∧ ofNoPackage.Readable ∧
      ofEmptyPackage.fullName = "core.Map<.x, p.q.>" ∧
      ofEmptyPackage.fullName ≠ ofNoPackage.fullName := by
  have last : (reference "p.q" "").Readable :=
    readable_reference (by decide) (by decide) (by decide)
  have emptyReadable : ofEmptyPackage.Readable := by
    refine .mk (by decide) (by decide) (by decide) (List.forall_mem_cons.2 ⟨?_, ?_⟩)
    · exact readable_reference (by decide) (by decide) (by decide)
    · exact List.forall_mem_singleton.2 last
  have noneReadable : ofNoPackage.Readable := by
    refine .mk (by decide) (by decide) (by decide) (List.forall_mem_cons.2 ⟨?_, ?_⟩)
    · exact readable_primitive (by decide) (by decide)
    · exact List.forall_mem_singleton.2 last
  refine ⟨emptyReadable, noneReadable, by decide, fun same => ?_⟩
  exact absurd ((fullName_eq_iff emptyReadable noneReadable).1 same) (by decide)

-- With dots in names types with the same full name can differ.
example : (reference "p" "Outer.Inner").fullName = (reference "p.Outer" "Inner").fullName ∧
    reference "p" "Outer.Inner" ≠ reference "p.Outer" "Inner" := by
  decide

end TypeRef
end SchemaBinding
