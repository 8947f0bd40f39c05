import SchemaBinding.Outline.Basic

/-!
# Signatures

The signature of an outline is a text that shows its packages, classes and fields:

```text
package com.example.ipo {
  interface Items {
    List<com.example.ipo.Items.Item> item;
    interface Item {
      String productName;
    }
  }
}
```

Packages come in ascending order, classes in the order of creation, fields and supertypes in the
order of declaration.  Some packages are hidden wherever they qualify a type; the package of a
block is also hidden in the supertypes of its classes.  Between the outline and the text stand the
blocks and class trees that the text spells out.
-/

namespace SchemaBinding

/-- How a signature is written. -/
structure SignatureOptions where
  /-- The packages whose names are left out of types. -/
  hiddenPackages : List String := [TypeRef.corePackage]
deriving DecidableEq, Repr

/-- Whether a package is left out of types. -/
def SignatureOptions.hides (options : SignatureOptions) (package : String) : Bool :=
  options.hiddenPackages.contains package

/-- A class as a signature shows it, with the classes nested in it. -/
structure ClassTree where
  /-- The name of the class. -/
  name : String
  /-- The displayed names of its supertypes. -/
  supertypes : List String
  /-- The displayed type and the name of each field. -/
  fields : List (String × String)
  /-- The classes nested directly in it. -/
  nested : List ClassTree
deriving Repr, Inhabited

/-- A package as a signature shows it. -/
structure PackageBlock where
  /-- The name of the package. -/
  name : String
  /-- The classes of the package that are not nested. -/
  classes : List ClassTree
deriving Repr, Inhabited

/-- A line of text, to be indented by a number of steps. -/
structure Line where
  /-- The number of steps. -/
  indent : Nat
  /-- The text after them. -/
  text : String
deriving DecidableEq, Repr

namespace Line

/-- The strings that a line is written in: its indentation, its text and its end. -/
def pieces (line : Line) : List String :=
  List.replicate line.indent "  " ++ [line.text, "\n"]

end Line

namespace ClassTree

/-- The first line of a class. -/
def header (name : String) (supertypes : List String) : String :=
  match supertypes with
  | [] => "interface " ++ name ++ " \x7b"
  | first :: rest =>
      "interface " ++ name ++ " extends " ++ first ++
        String.join (rest.map fun supertype => ", " ++ supertype) ++ " \x7b"

/-- The line of a field. -/
def fieldLine (field : String × String) : String :=
  field.1 ++ " " ++ field.2 ++ ";"

mutual

/-- The lines of a class: its header, its fields, the classes nested in it, and its end. -/
def lines (indent : Nat) : ClassTree → List Line
  | ⟨name, supertypes, fields, nested⟩ =>
      ⟨indent, header name supertypes⟩ ::
        fields.map (fun field => ⟨indent + 1, fieldLine field⟩) ++
        linesOfAll (indent + 1) nested ++ [⟨indent, "\x7d"⟩]

/-- The lines of classes, one after the other. -/
def linesOfAll (indent : Nat) : List ClassTree → List Line
  | [] => []
  | tree :: rest => lines indent tree ++ linesOfAll indent rest

end

end ClassTree

namespace PackageBlock

/-- The lines of a package: its header, its classes, and its end. -/
def lines (block : PackageBlock) : List Line :=
  ⟨0, "package " ++ block.name ++ " \x7b"⟩ ::
    ClassTree.linesOfAll 1 block.classes ++ [⟨0, "\x7d"⟩]

end PackageBlock

namespace Outline

/-- A type as a signature names it. -/
def displayType (options : SignatureOptions) (type : TypeRef) : String :=
  type.displayName options.hides

/-- A supertype as a signature names it in the block of a package. -/
def displaySupertype (options : SignatureOptions) (package : String) (type : TypeRef) : String :=
  type.displayName fun name => name == package || options.hides name

/--
A class of the block of a package, with the classes nested in it down to a given depth.
-/
def classTree (outline : Outline) (options : SignatureOptions) (package : String) :
    Nat → ClassId → ClassTree
  | depth, id =>
      { name := (outline.class? id).elim "" Class.name
        supertypes :=
          ((outline.supertypes id).filterMap outline.typeOf?).map
            (displaySupertype options package)
        fields :=
          (outline.fieldsOf id).map fun field => (displayType options field.type, field.name)
        nested :=
          match depth with
          | 0 => []
          | depth + 1 => (outline.nested id).map (outline.classTree options package depth) }

/-- The block of a package.  No class is nested deeper than there are classes. -/
def packageBlock (outline : Outline) (options : SignatureOptions) (package : String) :
    PackageBlock :=
  ⟨package,
    (outline.topLevel.filter fun id => outline.packageNameOf? id = some package).map
      (outline.classTree options package outline.classes.length)⟩

/-- The blocks of all packages. -/
def packageBlocks (outline : Outline) (options : SignatureOptions) : List PackageBlock :=
  outline.packageNames.map (outline.packageBlock options)

/-- The lines of the signature. -/
def signatureLines (outline : Outline) (options : SignatureOptions) : List Line :=
  (outline.packageBlocks options).flatMap PackageBlock.lines

/-- The strings that the signature is written in. -/
def signaturePieces (outline : Outline) (options : SignatureOptions) : List String :=
  (outline.signatureLines options).flatMap Line.pieces

/-- The signature. -/
def signature (outline : Outline) (options : SignatureOptions) : String :=
  String.join (outline.signaturePieces options)

end Outline
end SchemaBinding
