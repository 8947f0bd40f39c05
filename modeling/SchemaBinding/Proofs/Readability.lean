import Mathlib.Data.List.Basic
import SchemaBinding.Outline.Signature

/-!
# Reading signatures back

A signature spells out blocks and class trees.  If the names in them do not contain what separates
them in the text, the text determines them: it falls into lines at its line ends, the last character
of a line tells headers, fields and ends apart, and every line falls into its names at the first or
the last blank.
-/

namespace SchemaBinding

/-! ## Separators -/

section Separators

variable {Item : Type} {stop : Item}

/-- What ends where an item of a kind comes next is determined, and so is what follows. -/
theorem eq_of_append_of_ends
    {Ends : Item → Prop}
    {left right leftRest rightRest : List Item}
    (leftFree : ∀ item ∈ left, ¬Ends item)
    (rightFree : ∀ item ∈ right, ¬Ends item)
    (leftEnds : ∀ item ∈ leftRest.head?, Ends item)
    (rightEnds : ∀ item ∈ rightRest.head?, Ends item)
    (same : left ++ leftRest = right ++ rightRest) :
    left = right ∧ leftRest = rightRest := by
  rcases List.append_eq_append_iff.1 same with ⟨excess, rfl, rfl⟩ | ⟨excess, rfl, rfl⟩
  · cases excess with
    | nil => exact ⟨(List.append_nil _).symm, rfl⟩
    | cons item others => exact absurd (leftEnds item rfl) (rightFree item (by simp))
  · cases excess with
    | nil => exact ⟨List.append_nil _, rfl⟩
    | cons item others => exact absurd (rightEnds item rfl) (leftFree item (by simp))

/-- What ends at the first separator is determined, and so is what follows. -/
theorem eq_of_append_cons
    {left right leftRest rightRest : List Item}
    (leftFree : stop ∉ left)
    (rightFree : stop ∉ right)
    (same : left ++ stop :: leftRest = right ++ stop :: rightRest) :
    left = right ∧ leftRest = rightRest := by
  have free : ∀ {items : List Item}, stop ∉ items → ∀ item ∈ items, ¬stop = item :=
    fun absent _ member isStop => absent (isStop ▸ member)
  have ends : ∀ {rest : List Item}, ∀ item ∈ (stop :: rest).head?, stop = item :=
    fun _ isFirst => Option.some.inj isFirst
  obtain ⟨equal, equalRest⟩ :=
    eq_of_append_of_ends (free leftFree) (free rightFree) ends ends same
  exact ⟨equal, (List.cons.inj equalRest).2⟩

/-- What begins after the last separator is determined, and so is what comes before. -/
theorem eq_of_append_cons_last
    {left right leftStart rightStart : List Item}
    (leftFree : stop ∉ left)
    (rightFree : stop ∉ right)
    (same : leftStart ++ stop :: left = rightStart ++ stop :: right) :
    leftStart = rightStart ∧ left = right := by
  have reversed := congrArg List.reverse same
  simp only [List.reverse_append, List.reverse_cons, List.append_assoc, List.singleton_append]
    at reversed
  obtain ⟨equal, equalStart⟩ := eq_of_append_cons (by simpa using leftFree)
    (by simpa using rightFree) reversed
  exact ⟨List.reverse_injective equalStart, List.reverse_injective equal⟩

/-- Parts that each end with a separator are determined by the whole. -/
theorem eq_of_flatMap_terminated
    {lefts rights : List (List Item)}
    (leftFree : ∀ part ∈ lefts, stop ∉ part)
    (rightFree : ∀ part ∈ rights, stop ∉ part)
    (same : lefts.flatMap (fun part => part ++ [stop]) =
      rights.flatMap fun part => part ++ [stop]) :
    lefts = rights := by
  induction lefts generalizing rights with
  | nil =>
      cases rights with
      | nil => rfl
      | cons => simp at same
  | cons left lefts inductionHypothesis =>
      cases rights with
      | nil => simp at same
      | cons right rights =>
          simp only [List.flatMap_cons, List.append_assoc, List.singleton_append] at same
          rw [List.forall_mem_cons] at leftFree rightFree
          obtain ⟨equal, equalRest⟩ := eq_of_append_cons leftFree.1 rightFree.1 same
          rw [equal, inductionHypothesis leftFree.2 rightFree.2 equalRest]

/-- Parts that each follow a separator and a fixed text are determined by the whole. -/
theorem eq_of_flatMap_separated
    {fixed : List Item}
    {lefts rights : List (List Item)}
    (leftFree : ∀ part ∈ lefts, stop ∉ part)
    (rightFree : ∀ part ∈ rights, stop ∉ part)
    (same : lefts.flatMap (fun part => stop :: (fixed ++ part)) =
      rights.flatMap fun part => stop :: (fixed ++ part)) :
    lefts = rights := by
  have closed : ∀ parts : List (List Item), ∃ rest,
      parts.flatMap (fun part => stop :: (fixed ++ part)) ++ [stop] = stop :: rest := by
    intro parts
    cases parts with
    | nil => exact ⟨[], rfl⟩
    | cons => exact ⟨_, rfl⟩
  induction lefts generalizing rights with
  | nil =>
      cases rights with
      | nil => rfl
      | cons => simp at same
  | cons left lefts inductionHypothesis =>
      cases rights with
      | nil => simp at same
      | cons right rights =>
          rw [List.forall_mem_cons] at leftFree rightFree
          simp only [List.flatMap_cons, List.cons_append, List.append_assoc, List.cons.injEq,
            true_and, List.append_cancel_left_eq] at same
          obtain ⟨leftRest, leftClosed⟩ := closed lefts
          obtain ⟨rightRest, rightClosed⟩ := closed rights
          have extended := congrArg (fun text => text ++ [stop]) same
          simp only [List.append_assoc, leftClosed, rightClosed] at extended
          obtain ⟨equal, equalRest⟩ := eq_of_append_cons leftFree.1 rightFree.1 extended
          rw [← equalRest, ← leftClosed] at rightClosed
          have tails := List.append_cancel_right rightClosed
          rw [equal, inductionHypothesis leftFree.2 rightFree.2 tails.symm]

end Separators

/-! ## Lines -/

/-- The characters of a line, without its end. -/
def Line.chars (line : Line) : List Char :=
  (List.replicate line.indent "  ").flatMap String.toList ++ line.text.toList

theorem Line.pieces_toList
    (line : Line) :
    line.pieces.flatMap String.toList = line.chars ++ ['\n'] := by
  simp [pieces, chars]

/-- Lines of one indentation are the same if their characters are. -/
theorem Line.text_eq_of_chars_eq
    {indent : Nat}
    {left right : String}
    (same : (⟨indent, left⟩ : Line).chars = (⟨indent, right⟩ : Line).chars) :
    left.toList = right.toList :=
  List.append_cancel_left same

theorem Line.getLast?_chars
    {indent : Nat}
    {text : String}
    {last : Char}
    (ends : text.toList.getLast? = some last) :
    (⟨indent, text⟩ : Line).chars.getLast? = some last := by
  simp [chars, List.getLast?_append, ends]

theorem Outline.signature_toList
    (outline : Outline)
    (options : SignatureOptions) :
    (outline.signature options).toList =
      ((outline.signatureLines options).map Line.chars).flatMap fun line => line ++ ['\n'] := by
  rw [signature, String.toList_join, signaturePieces, List.flatMap_assoc, List.flatMap_map]
  apply List.flatMap_congr
  intro line _
  exact line.pieces_toList

/-! ## Class trees -/

/-- Whether a name can stand between blanks, commas and line ends. -/
structure Unbroken (name : String) : Prop where
  noBlank : ' ' ∉ name.toList
  noComma : ',' ∉ name.toList
  noLineEnd : '\n' ∉ name.toList

theorem Unbroken.append
    {left right : String}
    (leftUnbroken : Unbroken left)
    (rightUnbroken : Unbroken right) :
    Unbroken (left ++ right) where
  noBlank := by simp [leftUnbroken.noBlank, rightUnbroken.noBlank]
  noComma := by simp [leftUnbroken.noComma, rightUnbroken.noComma]
  noLineEnd := by simp [leftUnbroken.noLineEnd, rightUnbroken.noLineEnd]

theorem unbroken_dot : Unbroken "." :=
  ⟨by decide, by decide, by decide⟩

namespace ClassTree

/-- Whether the names in a class tree can be told from what separates them. -/
inductive Readable : ClassTree → Prop
  | mk {name : String} {supertypes : List String} {fields : List (String × String)}
      {nested : List ClassTree} (name_unbroken : Unbroken name)
      (supertypes_unbroken : ∀ supertype ∈ supertypes, Unbroken supertype)
      (fields_unbroken : ∀ field ∈ fields, '\n' ∉ field.1.toList ∧ Unbroken field.2)
      (nested_readable : ∀ tree ∈ nested, Readable tree) :
      Readable ⟨name, supertypes, fields, nested⟩

/-- The supertypes in a header, each after a comma, and what follows them. -/
theorem header_toList
    (name : String)
    (supertypes : List String) :
    (header name supertypes).toList = "interface ".toList ++ (name.toList ++ ' ' ::
      match supertypes with
      | [] => ['\x7b']
      | first :: rest => "extends ".toList ++
          (first.toList ++ (rest.map String.toList).flatMap fun part => ',' :: ([' '] ++ part)) ++
          " \x7b".toList) := by
  cases supertypes with
  | nil => simp [header]
  | cons first rest => simp [header, String.toList_join, List.flatMap_map]

theorem header_injective
    {left right : String}
    {leftSupertypes rightSupertypes : List String}
    (leftUnbroken : Unbroken left)
    (rightUnbroken : Unbroken right)
    (leftsUnbroken : ∀ supertype ∈ leftSupertypes, Unbroken supertype)
    (rightsUnbroken : ∀ supertype ∈ rightSupertypes, Unbroken supertype)
    (same : (header left leftSupertypes).toList = (header right rightSupertypes).toList) :
    left = right ∧ leftSupertypes = rightSupertypes := by
  rw [header_toList, header_toList] at same
  obtain ⟨sameName, sameRest⟩ := eq_of_append_cons leftUnbroken.noBlank rightUnbroken.noBlank
    (List.append_cancel_left same)
  refine ⟨String.toList_injective sameName, ?_⟩
  cases leftSupertypes with
  | nil =>
      cases rightSupertypes with
      | nil => rfl
      | cons => simp at sameRest
  | cons first rest =>
      cases rightSupertypes with
      | nil => simp at sameRest
      | cons other others =>
          have bodies := List.append_cancel_left (List.append_cancel_right sameRest)
          have parts : ((first :: rest).map String.toList).flatMap (fun part => ',' :: ([' '] ++ part)) =
              ((other :: others).map String.toList).flatMap fun part => ',' :: ([' '] ++ part) := by
            simpa using bodies
          have equal := eq_of_flatMap_separated
            (List.forall_mem_map.2 fun part member => (leftsUnbroken part member).noComma)
            (List.forall_mem_map.2 fun part member => (rightsUnbroken part member).noComma) parts
          exact List.map_injective_iff.2 (fun _ _ => String.toList_injective) equal

theorem fieldLine_injective
    {left right : String × String}
    (leftUnbroken : Unbroken left.2)
    (rightUnbroken : Unbroken right.2)
    (same : (fieldLine left).toList = (fieldLine right).toList) :
    left = right := by
  have split : ∀ field : String × String,
      (fieldLine field).toList = field.1.toList ++ ' ' :: (field.2.toList ++ [';']) := by
    intro field
    simp [fieldLine]
  have free : ∀ {name : String}, Unbroken name → ' ' ∉ name.toList ++ [';'] := by
    intro name unbroken
    simp [unbroken.noBlank]
  rw [split, split] at same
  obtain ⟨sameType, sameName⟩ := eq_of_append_cons_last (free leftUnbroken) (free rightUnbroken) same
  exact Prod.ext (String.toList_injective sameType)
    (String.toList_injective (List.append_cancel_right sameName))

/-- The last character of a line tells what it is. -/
theorem getLast?_header
    (name : String)
    (supertypes : List String) :
    (header name supertypes).toList.getLast? = some '\x7b' := by
  rw [List.getLast?_eq_some_iff]
  cases supertypes with
  | nil => exact ⟨("interface " ++ name ++ " ").toList, by simp [header]⟩
  | cons first rest =>
      refine ⟨("interface " ++ name ++ " extends " ++ first ++
        String.join (rest.map fun supertype => ", " ++ supertype) ++ " ").toList, ?_⟩
      simp [header]

theorem getLast?_fieldLine
    (field : String × String) :
    (fieldLine field).toList.getLast? = some ';' := by
  rw [List.getLast?_eq_some_iff]
  exact ⟨(field.1 ++ " " ++ field.2).toList, by simp [fieldLine]⟩

/-- The characters of the lines of a class tree. -/
def texts (indent : Nat) (tree : ClassTree) : List (List Char) :=
  (lines indent tree).map Line.chars

/-- The characters of the lines of class trees. -/
def textsOfAll (indent : Nat) (trees : List ClassTree) : List (List Char) :=
  (linesOfAll indent trees).map Line.chars

theorem texts_append
    (indent : Nat)
    (name : String)
    (supertypes : List String)
    (fields : List (String × String))
    (nested : List ClassTree)
    (rest : List (List Char)) :
    texts indent ⟨name, supertypes, fields, nested⟩ ++ rest =
      (⟨indent, header name supertypes⟩ : Line).chars ::
        (fields.map (fun field => (⟨indent + 1, fieldLine field⟩ : Line).chars) ++
          (textsOfAll (indent + 1) nested ++ (⟨indent, "\x7d"⟩ : Line).chars :: rest)) := by
  simp [texts, textsOfAll, lines, Function.comp_def]

theorem textsOfAll_cons_append
    (indent : Nat)
    (tree : ClassTree)
    (trees : List ClassTree)
    (rest : List (List Char)) :
    textsOfAll indent (tree :: trees) ++ rest =
      texts indent tree ++ (textsOfAll indent trees ++ rest) := by
  simp [texts, textsOfAll, linesOfAll]

/-- The field lines of a class end where a line does not end like one. -/
theorem fields_injective
    {indent : Nat}
    {lefts rights : List (String × String)}
    {leftRest rightRest : List (List Char)}
    (leftUnbroken : ∀ field ∈ lefts, Unbroken field.2)
    (rightUnbroken : ∀ field ∈ rights, Unbroken field.2)
    (leftEnds : ∀ line ∈ leftRest.head?, line.getLast? ≠ some ';')
    (rightEnds : ∀ line ∈ rightRest.head?, line.getLast? ≠ some ';')
    (same : lefts.map (fun field => (⟨indent, fieldLine field⟩ : Line).chars) ++ leftRest =
      rights.map (fun field => (⟨indent, fieldLine field⟩ : Line).chars) ++ rightRest) :
    lefts = rights ∧ leftRest = rightRest := by
  have isField : ∀ field, (⟨indent, fieldLine field⟩ : Line).chars.getLast? = some ';' :=
    fun field => Line.getLast?_chars (getLast?_fieldLine field)
  induction lefts generalizing rights with
  | nil =>
      cases rights with
      | nil => exact ⟨rfl, same⟩
      | cons right rights =>
          rw [List.map_nil, List.nil_append, List.map_cons, List.cons_append] at same
          exact absurd (isField right) (leftEnds _ (by rw [same]; rfl))
  | cons left lefts inductionHypothesis =>
      cases rights with
      | nil =>
          rw [List.map_nil, List.nil_append, List.map_cons, List.cons_append] at same
          exact absurd (isField left) (rightEnds _ (by rw [← same]; rfl))
      | cons right rights =>
          rw [List.map_cons, List.map_cons, List.cons_append, List.cons_append,
            List.cons.injEq] at same
          rw [List.forall_mem_cons] at leftUnbroken rightUnbroken
          have sameField := fieldLine_injective leftUnbroken.1 rightUnbroken.1
            (Line.text_eq_of_chars_eq same.1)
          obtain ⟨sameFields, sameRest⟩ := inductionHypothesis leftUnbroken.2 rightUnbroken.2 same.2
          exact ⟨by rw [sameField, sameFields], sameRest⟩

/-- Classes begin with a header. -/
theorem getLast?_head?_texts
    (indent : Nat)
    (tree : ClassTree)
    (rest : List (List Char)) :
    ∀ line ∈ (texts indent tree ++ rest).head?, line.getLast? = some '\x7b' := by
  obtain ⟨name, supertypes, fields, nested⟩ := tree
  intro line member
  rw [texts_append, List.head?_cons, Option.mem_some_iff] at member
  rw [← member]
  exact Line.getLast?_chars (getLast?_header name supertypes)

/-- Where classes begin or end, no field line stands. -/
theorem getLast?_head?_textsOfAll
    (indent : Nat)
    (trees : List ClassTree)
    {close : List Char}
    (closes : close.getLast? = some '\x7d')
    (rest : List (List Char)) :
    ∀ line ∈ (textsOfAll indent trees ++ close :: rest).head?, line.getLast? ≠ some ';' := by
  intro line member
  cases trees with
  | nil =>
      have isClose : close = line := by simpa [textsOfAll, linesOfAll] using member
      rw [← isClose, closes]
      decide
  | cons tree trees =>
      rw [textsOfAll_cons_append] at member
      rw [getLast?_head?_texts indent tree _ line member]
      decide

theorem getLast?_close
    (indent : Nat) :
    (⟨indent, "\x7d"⟩ : Line).chars.getLast? = some '\x7d' :=
  Line.getLast?_chars rfl

/-- Whether the lines of a class tree determine it and where it ends. -/
def Determined (left : ClassTree) : Prop :=
  ∀ {indent : Nat} {right : ClassTree} {leftRest rightRest : List (List Char)}, right.Readable →
    texts indent left ++ leftRest = texts indent right ++ rightRest →
      left = right ∧ leftRest = rightRest

/-- The lines of class trees before the end of what is around them determine them. -/
theorem textsOfAll_injective
    {indent : Nat}
    {lefts rights : List ClassTree}
    {leftClose rightClose : List Char}
    {leftRest rightRest : List (List Char)}
    (leftDetermined : ∀ tree ∈ lefts, tree.Determined)
    (rightReadable : ∀ tree ∈ rights, tree.Readable)
    (leftCloses : leftClose.getLast? = some '\x7d')
    (rightCloses : rightClose.getLast? = some '\x7d')
    (same : textsOfAll indent lefts ++ leftClose :: leftRest =
      textsOfAll indent rights ++ rightClose :: rightRest) :
    lefts = rights ∧ leftRest = rightRest := by
  have apart : ∀ {close rest tree trees otherRest}, close.getLast? = some '\x7d' →
      close :: rest ≠ textsOfAll indent (tree :: trees) ++ otherRest := by
    intro close rest tree trees otherRest closes equal
    rw [textsOfAll_cons_append] at equal
    have begins := getLast?_head?_texts indent tree (textsOfAll indent trees ++ otherRest) close
      (by rw [← equal]; rfl)
    rw [closes] at begins
    exact absurd begins (by decide)
  induction lefts generalizing rights with
  | nil =>
      cases rights with
      | nil => exact ⟨rfl, (List.cons.inj same).2⟩
      | cons right rights => exact absurd same (apart leftCloses)
  | cons left lefts inductionHypothesis =>
      cases rights with
      | nil => exact absurd same.symm (apart rightCloses)
      | cons right rights =>
          rw [textsOfAll_cons_append, textsOfAll_cons_append] at same
          rw [List.forall_mem_cons] at leftDetermined rightReadable
          obtain ⟨sameTree, sameTrees⟩ := leftDetermined.1 rightReadable.1 same
          obtain ⟨equal, sameRest⟩ := inductionHypothesis leftDetermined.2 rightReadable.2 sameTrees
          exact ⟨by rw [sameTree, equal], sameRest⟩

theorem Readable.determined
    {left : ClassTree}
    (leftReadable : left.Readable) :
    left.Determined := by
  induction leftReadable with
  | @mk leftName leftSupertypes leftFields leftNested leftUnbroken leftsUnbroken
      leftFieldsUnbroken leftNestedReadable inductionHypothesis =>
      intro indent right leftRest rightRest rightReadable same
      obtain ⟨rightUnbroken, rightsUnbroken, rightFieldsUnbroken, rightNestedReadable⟩ :=
        rightReadable
      rw [texts_append, texts_append, List.cons.injEq] at same
      obtain ⟨sameHeader, sameBody⟩ := same
      obtain ⟨sameName, sameSupertypes⟩ := header_injective leftUnbroken rightUnbroken
        leftsUnbroken rightsUnbroken (Line.text_eq_of_chars_eq sameHeader)
      obtain ⟨sameFields, sameTail⟩ := fields_injective
        (fun field member => (leftFieldsUnbroken field member).2)
        (fun field member => (rightFieldsUnbroken field member).2)
        (getLast?_head?_textsOfAll _ _ (getLast?_close indent) _)
        (getLast?_head?_textsOfAll _ _ (getLast?_close indent) _) sameBody
      obtain ⟨sameNested, sameRest⟩ := textsOfAll_injective inductionHypothesis
        rightNestedReadable (getLast?_close indent) (getLast?_close indent) sameTail
      exact ⟨by rw [sameName, sameSupertypes, sameFields, sameNested], sameRest⟩

theorem not_mem_chars
    {indent : Nat}
    {text : String}
    (unbroken : '\n' ∉ text.toList) :
    '\n' ∉ (⟨indent, text⟩ : Line).chars := by
  simp [Line.chars, unbroken, List.mem_flatMap, List.mem_replicate]

theorem not_mem_header
    {name : String}
    {supertypes : List String}
    (name_unbroken : Unbroken name)
    (supertypes_unbroken : ∀ supertype ∈ supertypes, Unbroken supertype) :
    '\n' ∉ (header name supertypes).toList := by
  rw [header_toList]
  cases supertypes with
  | nil => simp [name_unbroken.noLineEnd]
  | cons first rest =>
      rw [List.forall_mem_cons] at supertypes_unbroken
      have restUnbroken : ∀ supertype ∈ rest, '\n' ∉ supertype.toList := fun supertype member =>
        (supertypes_unbroken.2 supertype member).noLineEnd
      simpa [name_unbroken.noLineEnd, supertypes_unbroken.1.noLineEnd] using restUnbroken

theorem not_mem_textsOfAll
    {trees : List ClassTree}
    {indent : Nat}
    (unbroken : ∀ tree ∈ trees, ∀ line ∈ texts indent tree, '\n' ∉ line) :
    ∀ line ∈ textsOfAll indent trees, '\n' ∉ line := by
  induction trees with
  | nil => exact fun _ member => absurd member List.not_mem_nil
  | cons first rest inductionHypothesis =>
      rw [List.forall_mem_cons] at unbroken
      rw [← List.append_nil (textsOfAll _ _), textsOfAll_cons_append, List.append_nil,
        List.forall_mem_append]
      exact ⟨unbroken.1, inductionHypothesis unbroken.2⟩

/-- No line of a readable class tree is broken. -/
theorem Readable.not_mem_texts
    {tree : ClassTree}
    (readable : tree.Readable)
    (indent : Nat) :
    ∀ line ∈ texts indent tree, '\n' ∉ line := by
  induction readable generalizing indent with
  | @mk name supertypes fields nested name_unbroken supertypes_unbroken fields_unbroken
      nested_readable inductionHypothesis =>
      rw [← List.append_nil (texts _ _), texts_append, List.forall_mem_cons,
        List.forall_mem_append, List.forall_mem_append, List.forall_mem_singleton,
        List.forall_mem_map]
      refine ⟨?_, ?_, ?_, ?_⟩
      · exact not_mem_chars (not_mem_header name_unbroken supertypes_unbroken)
      · intro field member
        obtain ⟨typeUnbroken, nameUnbroken⟩ := fields_unbroken field member
        exact not_mem_chars (by simp [fieldLine, typeUnbroken, nameUnbroken.noLineEnd])
      · exact not_mem_textsOfAll fun tree member => inductionHypothesis tree member (indent + 1)
      · exact not_mem_chars (by decide)

end ClassTree

/-! ## Blocks -/

namespace PackageBlock

/-- Whether the names in a block can be told from what separates them. -/
structure Readable (block : PackageBlock) : Prop where
  name_unbroken : '\n' ∉ block.name.toList
  classes_readable : ∀ tree ∈ block.classes, tree.Readable

/-- The lines of blocks determine them. -/
theorem lines_injective
    {lefts rights : List PackageBlock}
    (leftReadable : ∀ block ∈ lefts, block.Readable)
    (rightReadable : ∀ block ∈ rights, block.Readable)
    (same : (lefts.flatMap lines).map Line.chars = (rights.flatMap lines).map Line.chars) :
    lefts = rights := by
  have split : ∀ (block : PackageBlock) (blocks : List PackageBlock),
      ((block :: blocks).flatMap lines).map Line.chars =
        (⟨0, "package " ++ block.name ++ " \x7b"⟩ : Line).chars ::
          (ClassTree.textsOfAll 1 block.classes ++ (⟨0, "\x7d"⟩ : Line).chars ::
            (blocks.flatMap lines).map Line.chars) := by
    intro block blocks
    simp [lines, ClassTree.textsOfAll]
  induction lefts generalizing rights with
  | nil =>
      cases rights with
      | nil => rfl
      | cons right rights =>
          rw [split] at same
          exact absurd same (by simp)
  | cons left lefts inductionHypothesis =>
      cases rights with
      | nil =>
          rw [split] at same
          exact absurd same (by simp)
      | cons right rights =>
          rw [split, split, List.cons.injEq] at same
          rw [List.forall_mem_cons] at leftReadable rightReadable
          have headers := Line.text_eq_of_chars_eq same.1
          simp only [String.toList_append] at headers
          have sameName : left.name = right.name := String.toList_injective
            (List.append_cancel_left (List.append_cancel_right headers))
          obtain ⟨sameClasses, sameRest⟩ := ClassTree.textsOfAll_injective
            (fun tree member => (leftReadable.1.classes_readable tree member).determined)
            rightReadable.1.classes_readable (ClassTree.getLast?_close 0)
            (ClassTree.getLast?_close 0) same.2
          have sameBlock : left = right := by
            cases left
            cases right
            rw [mk.injEq]
            exact ⟨sameName, sameClasses⟩
          rw [sameBlock, inductionHypothesis leftReadable.2 rightReadable.2 sameRest]

theorem Readable.not_mem_lines
    {block : PackageBlock}
    (readable : block.Readable) :
    ∀ line ∈ block.lines.map Line.chars, '\n' ∉ line := by
  have classesUnbroken := ClassTree.not_mem_textsOfAll fun tree member =>
    (readable.classes_readable tree member).not_mem_texts 1
  have split : block.lines.map Line.chars =
      (⟨0, "package " ++ block.name ++ " \x7b"⟩ : Line).chars ::
        (ClassTree.textsOfAll 1 block.classes ++ [(⟨0, "\x7d"⟩ : Line).chars]) := by
    simp [lines, ClassTree.textsOfAll]
  rw [split, List.forall_mem_cons, List.forall_mem_append, List.forall_mem_singleton]
  refine ⟨?_, classesUnbroken, ?_⟩
  · exact ClassTree.not_mem_chars (by simp [readable.name_unbroken])
  · exact ClassTree.not_mem_chars (by decide)

end PackageBlock

/-- Outlines with the same signature have the same blocks, if the names in them are readable. -/
theorem Outline.packageBlocks_eq_of_signature_eq
    {first second : Outline}
    {options : SignatureOptions}
    (firstReadable : ∀ block ∈ first.packageBlocks options, block.Readable)
    (secondReadable : ∀ block ∈ second.packageBlocks options, block.Readable)
    (same : first.signature options = second.signature options) :
    first.packageBlocks options = second.packageBlocks options := by
  have unbroken : ∀ {outline : Outline}, (∀ block ∈ outline.packageBlocks options, block.Readable) →
      ∀ line ∈ (outline.signatureLines options).map Line.chars, '\n' ∉ line := by
    intro outline readable line member
    rw [signatureLines, List.map_flatMap, List.mem_flatMap] at member
    obtain ⟨block, isBlock, member⟩ := member
    exact (readable block isBlock).not_mem_lines line member
  have texts := congrArg String.toList same
  rw [signature_toList, signature_toList] at texts
  apply PackageBlock.lines_injective firstReadable secondReadable
  exact eq_of_flatMap_terminated (unbroken firstReadable) (unbroken secondReadable) texts

end SchemaBinding
