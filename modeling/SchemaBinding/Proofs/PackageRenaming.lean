import SchemaBinding.Proofs.ErrorKinds
import SchemaBinding.Proofs.SchemaSignatures
import SchemaBinding.Proofs.SchemasSideBySide

/-!
# Renamed packages

What becomes of a schema when its package has another name: the same outline, in which that name
stands for the old one wherever a type is named.  Errors remain of their kind, with other names of
classes in them.
-/

namespace SchemaBinding

open Schema (Matches)

/-! ## Other names -/

section Names

variable (package other : String)

/-- The name of a package if one package has another name. -/
def renamed (name : String) : String :=
  if name = package then other else name

mutual

/-- A type if one package has another name, at every depth. -/
def TypeRef.renamePackage : TypeRef → TypeRef
  | ⟨home, name, arguments⟩ => ⟨home.map (renamed package other), name, renamePackages arguments⟩

/-- The arguments of a type if one package has another name. -/
def TypeRef.renamePackages : List TypeRef → List TypeRef
  | [] => []
  | type :: rest => type.renamePackage :: renamePackages rest

end

/-- A field if one package has another name. -/
def Field.renamePackage (field : Field) : Field :=
  { field with type := field.type.renamePackage package other }

/-- A draft if one package has another name. -/
def Draft.renamePackage (draft : Draft) : Draft where
  packages := draft.packages.map (renamed package other)
  classes := draft.classes
  fields := draft.fields.map (Field.renamePackage package other)

/-- An outline if one package has another name.  Its handles and classes are the same. -/
def Outline.renamePackage (outline : Outline) : Outline where
  packages := outline.packages.map (renamed package other)
  classes := outline.classes
  fields := outline.fields.map (Field.renamePackage package other)
  types := outline.types.map (TypeRef.renamePackage package other)

end Names

variable {package other : String}

theorem renamed_self
    (package other : String) :
    renamed package other package = other :=
  if_pos rfl

theorem renamed_of_ne
    {name : String}
    (different : name ≠ package) :
    renamed package other name = name :=
  if_neg different

namespace TypeRef

theorem renamePackage_reference
    (home name : String) :
    (reference home name).renamePackage package other =
      .reference (renamed package other home) name :=
  rfl

theorem renamePackage_primitive
    (name : String) :
    (primitive name).renamePackage package other = .primitive name :=
  rfl

theorem renamePackage_core
    (notCore : package ≠ corePackage)
    (name : String) :
    (core name).renamePackage package other = .core name := by
  rw [core, renamePackage_reference, renamed_of_ne notCore.symm]

theorem renamePackage_listOf
    (notCore : package ≠ corePackage)
    (item : TypeRef) :
    (listOf item).renamePackage package other = .listOf (item.renamePackage package other) := by
  have same : renamed package other corePackage = corePackage := renamed_of_ne notCore.symm
  rw [listOf, parametric, renamePackage, renamePackages, renamePackages, Option.map_some, same]
  rfl

/-- Built-in types are in no package that can have another name. -/
theorem renamePackage_of_builtinType?
    (notCore : package ≠ corePackage)
    {name : ExpandedName}
    {type : TypeRef}
    (isBuiltin : Schema.builtinType? name = some type) :
    type.renamePackage package other = type := by
  rcases Schema.builtinType?_cases isBuiltin with
    ⟨local_, _, rfl⟩ | ⟨local_, _, rfl⟩ | ⟨local_, _, rfl⟩
  · exact renamePackage_primitive local_
  · exact renamePackage_core notCore local_
  · rw [renamePackage_listOf notCore, renamePackage_core notCore]

end TypeRef

/-! ## Drafts -/

namespace Draft

/-- Whether two model errors are of one kind. -/
def SameKind (error other : ModelError) : Prop :=
  other.kind = error.kind

variable (draft : Draft)

theorem defined_renamePackage
    (id : ClassId) :
    (draft.renamePackage package other).defined id = draft.defined id :=
  rfl

theorem qualifiedName_renamePackage
    (start : ClassId)
    (startName : String)
    (steps : Nat)
    (around : Option ClassId)
    (name : String) :
    (draft.renamePackage package other).qualifiedName start startName steps around name =
      draft.qualifiedName start startName steps around name := by
  fun_induction draft.qualifiedName start startName steps around name with
  | case1 => rw [qualifiedName]
  | case2 => rw [qualifiedName]
  | case3 => rw [qualifiedName, if_pos rfl]
  | case4 steps id name different inductionHypothesis =>
      rw [qualifiedName, if_neg different]
      exact bind_congr fun around => inductionHypothesis around

theorem packageName_renamePackage
    (id : PackageId) :
    (draft.renamePackage package other).packageName id =
      (draft.packageName id).map (renamed package other) := by
  unfold packageName renamePackage
  rw [List.getElem?_map]
  cases draft.packages[id.index]? <;> rfl

theorem typeOf_renamePackage
    (id : ClassId) :
    (draft.renamePackage package other).typeOf id =
      (draft.typeOf id).map (TypeRef.renamePackage package other) := by
  have sameLength : (draft.renamePackage package other).classes.length = draft.classes.length := rfl
  unfold typeOf
  rw [defined_renamePackage, sameLength]
  cases draft.defined id with
  | error error => rfl
  | ok found =>
      simp only [bind, Except.bind, qualifiedName_renamePackage, packageName_renamePackage]
      cases draft.qualifiedName id found.name draft.classes.length found.enclosing found.name with
      | error error => rfl
      | ok name => cases draft.packageName found.package <;> rfl

/-- A class has a name in messages after the renaming if it has one before. -/
theorem describe_renamePackage
    (package other : String)
    (id : ClassId) :
    (∃ name otherName, draft.describe id = .ok name ∧
        (draft.renamePackage package other).describe id = .ok otherName) ∨
      ∃ error, draft.describe id = .error error ∧
        (draft.renamePackage package other).describe id = .error error := by
  unfold describe
  rw [typeOf_renamePackage]
  cases draft.typeOf id with
  | ok type => exact .inl ⟨_, _, rfl, rfl⟩
  | error error =>
      cases error with
      | unknownId => exact .inr ⟨_, rfl, rfl⟩
      | _ => exact .inl ⟨_, _, rfl, rfl⟩

theorem declares_renamePackage
    (owner : Class)
    (name : String) :
    (draft.renamePackage package other).declares owner name = draft.declares owner name := by
  unfold declares renamePackage
  simp only [List.getElem?_map, Option.any_map]
  rfl

theorem matches_addField
    (owner : ClassId)
    (name : String)
    (type : TypeRef) :
    Matches SameKind (Prod.map id (Draft.renamePackage package other))
      (draft.addField owner name type) ((draft.renamePackage package other).addField owner name
        (type.renamePackage package other)) := by
  unfold addField
  rw [defined_renamePackage]
  cases draft.defined owner with
  | error error => exact .error rfl
  | ok found =>
      simp only [bind, Except.bind, declares_renamePackage]
      split
      · rcases draft.describe_renamePackage package other owner with
          ⟨_, _, isName, isOtherName⟩ | ⟨_, isError, isOtherError⟩
        · rw [isName, isOtherName]
          exact .error rfl
        · rw [isError, isOtherError]
          exact .error rfl
      · have numbered : (draft.renamePackage package other).fields.length = draft.fields.length :=
          List.length_map _
        have extended : (draft.renamePackage package other).fields ++
            [Field.mk name (type.renamePackage package other) owner] =
              (draft.fields ++ [Field.mk name type owner]).map
                (Field.renamePackage package other) := by
          rw [List.map_append]
          rfl
        rw [numbered, extended]
        exact .ok _

theorem addSupertype_renamePackage
    (owner supertype : ClassId) :
    (draft.renamePackage package other).addSupertype owner supertype =
      (draft.addSupertype owner supertype).map (Draft.renamePackage package other) := by
  unfold addSupertype
  rw [defined_renamePackage]
  cases draft.defined owner with
  | error error => rfl
  | ok found =>
      simp only [bind, Except.bind]
      split <;> rfl

/-! ## Finishing -/

/-- Whether a type is that of a class of a package. -/
def IsClassOf (package : String) (type : TypeRef) : Prop :=
  ∃ name, type = .reference package name

theorem IsClassOf.renamePackage_injective
    {first second : TypeRef}
    (isFirst : IsClassOf package first)
    (isSecond : IsClassOf package second)
    (same : first.renamePackage package other = second.renamePackage package other) :
    first = second := by
  obtain ⟨firstName, rfl⟩ := isFirst
  obtain ⟨secondName, rfl⟩ := isSecond
  rw [TypeRef.renamePackage_reference, TypeRef.renamePackage_reference] at same
  rw [(TypeRef.mk.inj same).2.1]

theorem isClassOf_of_typeOf
    {draft : Draft}
    (packages : draft.packages = [package])
    {id : ClassId}
    {type : TypeRef}
    (typed : draft.typeOf id = .ok type) :
    IsClassOf package type := by
  obtain ⟨found, name, home, _, _, packaged, rfl⟩ := hasType_of_typeOf typed
  have member := List.mem_of_getElem? packaged
  rw [packages, List.mem_singleton] at member
  exact ⟨name, by rw [member]⟩

theorem mem_map_renamePackage_iff
    {type : TypeRef}
    {seen : List TypeRef}
    (isClass : IsClassOf package type)
    (areClasses : ∀ type ∈ seen, IsClassOf package type) :
    type.renamePackage package other ∈ seen.map (TypeRef.renamePackage package other) ↔
      type ∈ seen := by
  rw [List.mem_map]
  constructor
  · rintro ⟨known, member, same⟩
    exact (areClasses known member).renamePackage_injective isClass same ▸ member
  · exact fun member => ⟨type, member, rfl⟩

theorem matches_checkedType
    {draft : Draft}
    (packages : draft.packages = [package])
    {seen : List TypeRef}
    (areClasses : ∀ type ∈ seen, IsClassOf package type)
    (id : ClassId) :
    Matches SameKind (TypeRef.renamePackage package other) (draft.checkedType seen id)
      ((draft.renamePackage package other).checkedType
        (seen.map (TypeRef.renamePackage package other)) id) := by
  unfold checkedType
  rw [typeOf_renamePackage, defined_renamePackage]
  cases typed : draft.typeOf id with
  | error error => exact .error rfl
  | ok type =>
      have isNew : Matches SameKind (TypeRef.renamePackage package other)
          (if type ∈ seen then .error (.duplicateClass type.fullName) else .ok type)
          (if type.renamePackage package other ∈ seen.map (TypeRef.renamePackage package other) then
            .error (.duplicateClass (type.renamePackage package other).fullName)
          else .ok (type.renamePackage package other)) := by
        have isClass := isClassOf_of_typeOf packages typed
        rw [if_congr (mem_map_renamePackage_iff isClass areClasses) rfl rfl]
        split
        · exact .error rfl
        · exact .ok type
      simp only [bind, Except.bind, Except.map]
      cases draft.defined id with
      | error error => exact .error rfl
      | ok found =>
          dsimp only
          cases found.enclosing with
          | none => exact isNew
          | some around =>
              dsimp only
              rw [defined_renamePackage]
              cases draft.defined around with
              | error error => exact .error rfl
              | ok enclosing =>
                  dsimp only
                  split
                  · rw [packageName_renamePackage, packageName_renamePackage]
                    cases draft.packageName found.package with
                    | error error => exact .error rfl
                    | ok home => cases draft.packageName enclosing.package <;> exact .error rfl
                  · exact isNew

theorem isClassOf_of_checkedType
    {draft : Draft}
    (packages : draft.packages = [package])
    {seen : List TypeRef}
    {id : ClassId}
    {type : TypeRef}
    (checked : draft.checkedType seen id = .ok type) :
    IsClassOf package type := by
  cases typed : draft.typeOf id with
  | error error =>
      simp only [checkedType, typed, bind, Except.bind] at checked
      cases checked
  | ok known =>
      have same : known = type := by
        simp only [checkedType, typed, bind, Except.bind] at checked
        repeat' split at checked
        all_goals cases checked <;> rfl
      exact same ▸ isClassOf_of_typeOf packages typed

theorem matches_checkedTypes
    {draft : Draft}
    (packages : draft.packages = [package])
    {seen : List TypeRef}
    (areClasses : ∀ type ∈ seen, IsClassOf package type)
    (ids : List ClassId) :
    Matches SameKind (List.map (TypeRef.renamePackage package other)) (draft.checkedTypes seen ids)
      ((draft.renamePackage package other).checkedTypes
        (seen.map (TypeRef.renamePackage package other)) ids) := by
  induction ids generalizing seen with
  | nil => exact .ok seen
  | cons id rest inductionHypothesis =>
      rw [checkedTypes, checkedTypes]
      apply (matches_checkedType packages areClasses id).bind
      intro type checked
      have isClass : IsClassOf package type := isClassOf_of_checkedType packages checked
      have further := inductionHypothesis (List.forall_mem_append.2
        ⟨areClasses, List.forall_mem_singleton.2 isClass⟩)
      rwa [List.map_append] at further

/-- The visits to the ancestors of a class end alike. -/
theorem matches_visit
    (draft : Draft)
    (types : List TypeRef)
    (depth : Nat)
    (path visited : List ClassId)
    (start : ClassId) :
    Matches SameKind id (draft.visit types depth path visited start)
      ((draft.renamePackage package other).visit (types.map (TypeRef.renamePackage package other))
        depth path visited start) := by
  induction depth generalizing path visited start with
  | zero =>
      unfold visit
      rw [List.getElem?_map]
      split
      · exact .ok visited
      · split
        · cases types[start.index]? <;> exact .error rfl
        · exact .error rfl
  | succ depth inductionHypothesis =>
      unfold visit
      rw [List.getElem?_map, show (draft.renamePackage package other).defined? start =
        draft.defined? start from rfl]
      split
      · exact .ok visited
      · split
        · cases types[start.index]? <;> exact .error rfl
        · cases draft.defined? start with
          | none => exact .error rfl
          | some found =>
              apply Matches.bind (.foldlM (fun visited id =>
                inductionHypothesis (start :: path) visited id) found.supertypes visited)
              exact fun visited _ => .ok (start :: visited)

theorem matches_checkAncestry
    (draft : Draft)
    (types : List TypeRef) :
    Matches SameKind id (draft.checkAncestry types)
      ((draft.renamePackage package other).checkAncestry
        (types.map (TypeRef.renamePackage package other))) := by
  apply Matches.bind (.foldlM (fun visited id => matches_visit draft types _ [] visited id) _ [])
  exact fun _ _ => .ok ()

theorem noteNested_renamePackage
    (draft : Draft)
    (id : ClassId) :
    (draft.renamePackage package other).noteNested id =
      (draft.noteNested id).map (Draft.renamePackage package other) := by
  unfold noteNested
  rw [defined_renamePackage]
  cases draft.defined id with
  | error error => rfl
  | ok found =>
      simp only [bind, Except.bind]
      cases found.enclosing with
      | none => rfl
      | some around =>
          dsimp only
          rw [defined_renamePackage]
          cases draft.defined around <;> rfl

theorem matches_noteNested
    (draft : Draft)
    (id : ClassId) :
    Matches SameKind (Draft.renamePackage package other) (draft.noteNested id)
      ((draft.renamePackage package other).noteNested id) := by
  rw [noteNested_renamePackage]
  cases draft.noteNested id with
  | error error => exact .error rfl
  | ok next => exact .ok next

/-- A draft whose only package has another name becomes the outline in which it has that name. -/
theorem matches_finish
    {draft : Draft}
    (packages : draft.packages = [package]) :
    Matches SameKind (Outline.renamePackage package other) draft.finish
      (draft.renamePackage package other).finish := by
  apply (matches_checkedTypes packages (fun _ member => absurd member List.not_mem_nil)
    draft.classIds).bind
  intro types _
  apply (matches_checkAncestry draft types).bind
  intro _ _
  apply (Matches.foldlM (fun draft id => matches_noteNested draft id) draft.classIds draft).bind
  exact fun noted _ =>
    .ok (Outline.mk noted.packages (noted.classes.filterMap id) noted.fields types)

end Draft

/-! ## Schemas -/

namespace Schema

/-- A run that names the package of a schema in another way. -/
def Retelling.ofPackage (package other : String) (notCore : package ≠ TypeRef.corePackage) :
    Retelling where
  retell := id
  errors error told := told.kind = error.kind
  retype := TypeRef.renamePackage package other
  redraft := Draft.renamePackage package other
  retold _ := rfl
  unchanged _ := rfl
  builtin := TypeRef.renamePackage_of_builtinType? notCore
  listOf := TypeRef.renamePackage_listOf notCore
  addClass _ _ _ _ := rfl
  typeOf draft id := draft.typeOf_renamePackage id
  addField draft owner name type :=
    (draft.matches_addField owner name type).imp fun same => congrArg SchemaError.Kind.model same
  addSupertype draft owner supertype := draft.addSupertype_renamePackage owner supertype

/-- A schema that is bound to another package has the same binding, in which that package stands for
the other one. -/
theorem matches_bind_renamePackage
    {package : String}
    (notCore : package ≠ TypeRef.corePackage)
    (other : String)
    (overwrite : OverwritePolicy)
    (schema : Document) :
    Matches (fun error told => told.kind = error.kind) (Outline.renamePackage package other)
        (Schema.bind ⟨some package, overwrite⟩ schema).1
        (Schema.bind ⟨some other, overwrite⟩ schema).1 ∧
      (Schema.bind ⟨some other, overwrite⟩ schema).2 =
        (Schema.bind ⟨some package, overwrite⟩ schema).2 := by
  let retelling := Retelling.ofPackage package other notCore
  have carries : retelling.Carries (Retelling.settingFor ⟨some package, overwrite⟩ schema)
      (Retelling.settingFor ⟨some other, overwrite⟩ schema) := by
    refine ⟨rfl, rfl, rfl, fun name => ?_⟩
    exact (TypeRef.renamePackage_reference package name).trans (by rw [renamed_self]; rfl)
  have begins : retelling.state (beginning ⟨some package, overwrite⟩ schema) =
      beginning ⟨some other, overwrite⟩ schema := by
    have draft : (Draft.mk [package] [] []).renamePackage package other = .mk [other] [] [] := by
      rw [Draft.renamePackage, List.map_singleton, renamed_self]
      rfl
    exact congrArg (fun draft => BindingState.mk draft []) draft
  have same := retelling.matches_bind carries begins fun draft bound =>
    (Draft.matches_finish bound.packages).imp fun same => congrArg SchemaError.Kind.model same
  rwa [show schema.mapFaults retelling.retell = schema from schema.mapFaults_id] at same

/-- The name of the package plays no part in the binding of a document: under two names of the
package the document is accepted or refused alike, with errors of one kind, and the outlines only
differ in that name. -/
theorem bindXml_renamePackage
    {package : String}
    (notCore : package ≠ TypeRef.corePackage)
    (other : String)
    (overwrite : OverwritePolicy)
    (document : Xml.Document) :
    (bindXml ⟨some other, overwrite⟩ document).1.mapError SchemaError.kind =
      ((bindXml ⟨some package, overwrite⟩ document).1.map
        (Outline.renamePackage package other)).mapError SchemaError.kind := by
  unfold bindXml
  cases Document.ofXml document with
  | error error => rfl
  | ok schema => exact (matches_bind_renamePackage notCore other overwrite schema).1.mapError id

/-- A schema of a store with any number of items. -/
def storeSchema : Xml.Document where
  root := ⟨schemaName "schema", [], []⟩
  children := [
    schemaNode "complexType" [("name", "store")] [
      schemaNode "sequence" [] [
        schemaNode "element" [("name", "item"), ("maxOccurs", "unbounded")] [
          schemaNode "complexType" [] []],
        schemaNode "element" [("name", "note")] []]]]

/-- The outline of the schema in a package. -/
def storeOutline (package : String) : Outline where
  packages := [package]
  classes := [⟨"Store", ⟨0⟩, none, [⟨0⟩, ⟨1⟩], [], [⟨1⟩]⟩, ⟨"Item", ⟨0⟩, some ⟨0⟩, [], [], []⟩]
  fields := [⟨"item", .listOf (.reference package "Store.Item"), ⟨0⟩⟩, ⟨"note", .object, ⟨0⟩⟩]
  types := ["Store", "Store.Item"].map (.reference package)

/-- The package of the store may even have the name of the core package. -/
theorem store_renamePackage :
    (bindXml ⟨some "store", .deny⟩ storeSchema).1 = .ok (storeOutline "store") ∧
      (bindXml ⟨some "core", .deny⟩ storeSchema).1.mapError SchemaError.kind =
        .ok (storeOutline "core") := by
  have accepted : (bindXml ⟨some "store", .deny⟩ storeSchema).1 = .ok (storeOutline "store") := by
    decide +kernel
  refine ⟨accepted, ?_⟩
  have notCore : "store" ≠ TypeRef.corePackage := by decide
  rw [bindXml_renamePackage notCore "core" .deny storeSchema, accepted]
  rfl

end Schema
end SchemaBinding
