import Mathlib.Data.Char
import SchemaBinding.Schema.Naming

/-!
# The characters of generated names

The names of classes and fields consist of letters and digits of any script and of underscores, and
they are never reserved; package names may contain dots as well.  So no generated name contains a
character that separates names from each other, or white space.
-/

namespace SchemaBinding
namespace Text

/-- Code points of generated names: all but those of ASCII that are not letters, digits or `_`. -/
def isNameCode (code : Nat) : Bool :=
  128 ≤ code || (0x30 ≤ code && code ≤ 0x39) || (0x41 ≤ code && code ≤ 0x5A) || code == 0x5F ||
    (0x61 ≤ code && code ≤ 0x7A)

/-- Whether a text consists of characters that generated names may have. -/
def Nameable (text : List Char) : Prop :=
  ∀ c ∈ text, isNameCode c.toNat

theorem nameable_of_all
    {text : List Char}
    (all : text.all fun c => isNameCode c.toNat) :
    Nameable text :=
  List.all_eq_true.1 all

/-- Characters that separate names are not part of one. -/
theorem Nameable.not_mem
    {text : List Char}
    (nameable : Nameable text)
    {c : Char}
    (separates : isNameCode c.toNat = false) :
    c ∉ text := by
  intro member
  rw [nameable c member] at separates
  cases separates

/-! ## Foreign characters -/

/-- The code points that no generated name has: those of ASCII that are not letters, digits or `_`,
and white space. -/
def foreignRanges : List CodeRange :=
  [⟨0x0, 0x2F, 1⟩, ⟨0x3A, 0x40, 1⟩, ⟨0x5B, 0x5E, 1⟩, ⟨0x60, 0x60, 1⟩, ⟨0x7B, 0x7F, 1⟩,
   ⟨0x85, 0x85, 1⟩, ⟨0xA0, 0xA0, 1⟩, ⟨0x1680, 0x1680, 1⟩, ⟨0x2000, 0x200A, 1⟩, ⟨0x2028, 0x2029, 1⟩,
   ⟨0x202F, 0x202F, 1⟩, ⟨0x205F, 0x205F, 1⟩, ⟨0x3000, 0x3000, 1⟩]

/-- Characters that no generated name has. -/
def isForeign (c : Char) : Bool :=
  inRanges foreignRanges c

/-- Whether a text has no such character. -/
def Clean (text : List Char) : Prop :=
  ∀ c ∈ text, isForeign c = false

theorem clean_append
    {left right : List Char} :
    Clean (left ++ right) ↔ Clean left ∧ Clean right :=
  List.forall_mem_append

theorem clean_flatMap
    {Item : Type}
    {items : List Item}
    {text : Item → List Char} :
    Clean (items.flatMap text) ↔ ∀ item ∈ items, Clean (text item) := by
  unfold Clean
  simp only [List.mem_flatMap]
  grind

theorem isNameCode_of_not_foreign
    {c : Char}
    (notForeign : isForeign c = false) :
    isNameCode c.toNat := by
  simp only [isForeign, inRanges, foreignRanges, List.any_cons, List.any_nil, CodeRange.contains,
    Nat.mod_one, Bool.or_eq_false_iff, Bool.and_eq_false_iff, decide_eq_false_iff_not] at notForeign
  simp only [isNameCode, Bool.or_eq_true, Bool.and_eq_true, decide_eq_true_eq, beq_iff_eq]
  grind

theorem not_isBlank_of_not_foreign
    {c : Char}
    (notForeign : isForeign c = false) :
    isBlank c = false := by
  simp only [isForeign, inRanges, foreignRanges, List.any_cons, List.any_nil, CodeRange.contains,
    Nat.mod_one, Bool.or_eq_false_iff, Bool.and_eq_false_iff, decide_eq_false_iff_not] at notForeign
  simp only [isBlank, Bool.or_eq_false_iff, Bool.and_eq_false_iff, decide_eq_false_iff_not,
    beq_eq_false_iff_ne]
  grind

theorem Clean.nameable
    {text : List Char}
    (clean : Clean text) :
    Nameable text :=
  fun c member => isNameCode_of_not_foreign (clean c member)

/-- Whether code points from `first` to `last` are in none of the ranges of foreign characters. -/
def AvoidsForeign (first last : Nat) : Prop :=
  ∀ range ∈ foreignRanges, last < range.first ∨ range.last < first

instance (first last : Nat) : Decidable (AvoidsForeign first last) :=
  inferInstanceAs (Decidable (∀ _ ∈ _, _))

theorem AvoidsForeign.not_foreign
    {first last : Nat}
    (avoids : AvoidsForeign first last)
    {c : Char}
    (above : first ≤ c.toNat)
    (below : c.toNat ≤ last) :
    isForeign c = false := by
  apply List.any_eq_false.2
  intro range member contained
  simp only [CodeRange.contains, Bool.and_eq_true, decide_eq_true_eq] at contained
  have apart := avoids range member
  omega

theorem not_foreign_of_isAlphanumeric
    {c : Char}
    (alphanumeric : isAlphanumeric c) :
    isForeign c = false := by
  have avoid : ∀ range ∈ alphanumericRanges, AvoidsForeign range.first range.last := by
    decide +kernel
  obtain ⟨range, member, contained⟩ := List.any_eq_true.1 alphanumeric
  simp only [CodeRange.contains, Bool.and_eq_true, decide_eq_true_eq] at contained
  exact (avoid range member).not_foreign contained.1.1 contained.1.2

/-! ## Case -/

/-- Whether a run of case pairs leads to valid code points that are not foreign. -/
def CaseRun.IsClean (run : CaseRun) : Prop :=
  let last := run.image + (run.source.last - run.source.first)
  (last < 0xD800 ∨ (0xDFFF < run.image ∧ last < 0x110000)) ∧ AvoidsForeign run.image last

instance (run : CaseRun) : Decidable run.IsClean :=
  inferInstanceAs (Decidable (_ ∧ _))

theorem CaseRun.not_foreign_image
    {runs : List CaseRun}
    (clean : ∀ run ∈ runs, run.IsClean)
    {source image : Nat}
    (found : CaseRun.image? runs source = some image) :
    isForeign (Char.ofNat image) = false := by
  obtain ⟨run, search, rfl⟩ := Option.map_eq_some_iff.1 found
  obtain ⟨valid, avoids⟩ := clean run (List.mem_of_find?_eq_some search)
  have contained := List.find?_some search
  simp only [CodeRange.contains, Bool.and_eq_true, decide_eq_true_eq] at contained
  have isValid : (run.image + (source - run.source.first)).isValidChar := by
    unfold Nat.isValidChar
    omega
  have same : (Char.ofNat (run.image + (source - run.source.first))).toNat =
      run.image + (source - run.source.first) := by
    unfold Char.ofNat
    rw [dif_pos isValid]
    rfl
  apply avoids.not_foreign <;> omega

theorem clean_mapCase
    {runs : List CaseRun}
    {expansions : List (Nat × List Nat)}
    (runsClean : ∀ run ∈ runs, run.IsClean)
    (expansionsClean : ∀ entry ∈ expansions, ∀ code ∈ entry.2,
      isForeign (Char.ofNat code) = false)
    {c : Char}
    (notForeign : isForeign c = false) :
    Clean (mapCase runs expansions c) := by
  unfold mapCase
  split
  next codes listed =>
    obtain ⟨before, after, split, _⟩ := List.lookup_eq_some_iff.1 listed
    have entry := expansionsClean (c.toNat, codes) (by simp [split])
    exact List.forall_mem_map.2 entry
  next =>
    split
    next code found => exact List.forall_mem_singleton.2 (CaseRun.not_foreign_image runsClean found)
    next => exact List.forall_mem_singleton.2 notForeign

theorem clean_lower
    {c : Char}
    (notForeign : isForeign c = false) :
    Clean (lower c) :=
  clean_mapCase (by decide +kernel) (by decide +kernel) notForeign

theorem clean_upper
    {c : Char}
    (notForeign : isForeign c = false) :
    Clean (upper c) :=
  clean_mapCase (by decide +kernel) (by decide +kernel) notForeign

/-! ## Words -/

/-- The words of a run, one after the other, are the run. -/
theorem flatten_runWords
    (state : WordCase)
    (current : List Char)
    {run : List Char}
    (nonempty : run ≠ []) :
    (runWords state current run).flatten = current.reverse ++ run := by
  fun_induction runWords state current run with
  | case1 => exact absurd rfl nonempty
  | case2 state current c => simp
  | case3 state current c next rest ends inductionHypothesis =>
      simp [inductionHypothesis (List.cons_ne_nil _ _)]
  | case4 state current c next rest continues ends inductionHypothesis =>
      simp [inductionHypothesis (List.cons_ne_nil _ _)]
  | case5 state current c next rest continues stays inductionHypothesis =>
      simp [inductionHypothesis (List.cons_ne_nil _ _)]

/-- What is left of a list that is split are the items that do not separate. -/
theorem flatten_splitOnP
    {Item : Type}
    (test : Item → Bool)
    (items : List Item) :
    (items.splitOnP test).flatten = items.filter fun item => !test item := by
  have prepended : ∀ current : List Item, (items.splitOnPPrepend test current).flatten =
      current.reverse ++ items.filter fun item => !test item := by
    induction items with
    | nil => simp [List.splitOnPPrepend_nil]
    | cons first rest inductionHypothesis =>
        intro current
        cases separates : test first with
        | true =>
            have later : (rest.splitOnP test).flatten = rest.filter fun item => !test item :=
              inductionHypothesis []
            simp [List.splitOnPPrepend_cons_pos separates, later, separates]
        | false => simp [List.splitOnPPrepend_cons_neg separates, inductionHypothesis, separates]
  exact prepended []

/-- The words of a name, one after the other, are its letters and numbers. -/
theorem flatten_words
    (name : List Char) :
    (words name).flatten = name.filter isAlphanumeric := by
  have runs : ∀ run : List Char, (runWords .unknown [] run).flatten = run := by
    intro run
    cases run with
    | nil => rfl
    | cons first rest => exact flatten_runWords _ _ (List.cons_ne_nil _ _)
  calc (words name).flatten
    _ = ((name.splitOnP fun c => !isAlphanumeric c).map fun run =>
          (runWords .unknown [] run).flatten).flatten := by
        rw [words, List.flatMap_def, List.flatten_flatten, List.map_map]
        rfl
    _ = (name.splitOnP fun c => !isAlphanumeric c).flatten := by simp only [runs, List.map_id']
    _ = name.filter isAlphanumeric := by simp only [flatten_splitOnP, Bool.not_not]

theorem clean_of_mem_words
    {name word : List Char}
    (isWord : word ∈ words name) :
    Clean word := by
  intro c member
  have inside : c ∈ (words name).flatten := List.mem_flatten.2 ⟨word, isWord, member⟩
  rw [flatten_words, List.mem_filter] at inside
  exact not_foreign_of_isAlphanumeric inside.2

theorem clean_smallWord
    {word : List Char}
    (clean : Clean word) :
    Clean (smallWord word) := by
  fun_induction smallWord word with
  | case1 => exact clean
  | case2 => exact List.forall_mem_singleton.2 (by decide)
  | case3 c rest _ inductionHypothesis =>
      obtain ⟨first, others⟩ := List.forall_mem_cons.1 clean
      exact clean_append.2 ⟨clean_lower first, inductionHypothesis others⟩

theorem clean_capitalWord
    {word : List Char}
    (clean : Clean word) :
    Clean (capitalWord word) := by
  cases word with
  | nil => exact clean
  | cons c rest =>
      obtain ⟨first, others⟩ := List.forall_mem_cons.1 clean
      exact clean_append.2 ⟨clean_upper first, clean_smallWord others⟩

theorem clean_upperCamel
    (name : List Char) :
    Clean (upperCamel name) :=
  clean_flatMap.2 fun _ isWord => clean_capitalWord (clean_of_mem_words isWord)

theorem clean_lowerCamel
    (name : List Char) :
    Clean (lowerCamel name) := by
  have wordsClean : ∀ word ∈ words name, Clean word := fun _ => clean_of_mem_words
  unfold lowerCamel
  generalize words name = parts at wordsClean
  cases parts with
  | nil => exact fun _ member => absurd member List.not_mem_nil
  | cons first rest =>
      rw [List.forall_mem_cons] at wordsClean
      refine clean_append.2 ⟨clean_smallWord wordsClean.1, clean_flatMap.2 ?_⟩
      exact fun word isWord => clean_capitalWord (wordsClean.2 word isWord)

end Text

/-- Whether a text consists of characters of generated names and dots. -/
def Text.Dotted (text : List Char) : Prop :=
  ∀ c ∈ text, isNameCode c.toNat ∨ c = '.'

theorem Text.Nameable.dotted
    {text : List Char}
    (nameable : Nameable text) :
    Dotted text :=
  fun c member => .inl (nameable c member)

theorem Text.dotted_append
    {left right : List Char} :
    Dotted (left ++ right) ↔ Dotted left ∧ Dotted right :=
  List.forall_mem_append

theorem Text.Dotted.not_mem
    {text : List Char}
    (dotted : Dotted text)
    {c : Char}
    (separates : isNameCode c.toNat = false)
    (isOther : c ≠ '.') :
    c ∉ text := by
  intro member
  rcases dotted c member with isName | isDot
  · rw [isName] at separates
    cases separates
  · exact isOther isDot

namespace Schema

open Text (Clean Nameable)

theorem clean_usable
    {name : List Char}
    (clean : Clean name) :
    Clean (usable name) := by
  have underscore : Clean ['_'] := List.forall_mem_singleton.2 (by decide)
  unfold usable
  split
  · exact Text.clean_append.2 ⟨underscore, clean⟩
  · split
    · exact Text.clean_append.2 ⟨clean, underscore⟩
    · exact clean

/-- A name that can be used is not reserved. -/
theorem usable_not_reserved
    (name : List Char) :
    String.ofList (usable name) ∉ reservedNames := by
  have plain : ∀ reserved ∈ reservedNames, '_' ∉ reserved.toList := by
    decide +kernel
  intro member
  have free := plain _ member
  rw [String.toList_ofList] at free
  by_cases digit : name.head?.any Text.isDigit
  · rw [usable, if_pos digit] at free
    exact free List.mem_cons_self
  · by_cases reserved : isReserved name
    · rw [usable, if_neg digit, if_pos reserved] at free
      exact free (List.mem_append_right _ List.mem_cons_self)
    · rw [usable, if_neg digit, if_neg reserved] at member
      exact reserved (List.contains_iff_mem.2 member)

theorem clean_className
    (localName : String) :
    Clean (className localName).toList := by
  rw [className, String.toList_ofList]
  exact clean_usable (Text.clean_upperCamel _)

theorem clean_fieldName
    (localName : String) :
    Clean (fieldName localName).toList := by
  rw [fieldName, String.toList_ofList]
  exact clean_usable (Text.clean_lowerCamel _)

theorem nameable_className
    (localName : String) :
    Nameable (className localName).toList :=
  (clean_className localName).nameable

theorem nameable_fieldName
    (localName : String) :
    Nameable (fieldName localName).toList :=
  (clean_fieldName localName).nameable

theorem className_not_reserved
    (localName : String) :
    className localName ∉ reservedNames :=
  usable_not_reserved _

/-! ## Packages -/

theorem lt_of_isAlphanum
    {c : Char}
    (alphanumeric : c.isAlphanum) :
    c.toNat < 128 := by
  have kinds : (c.isUpper || c.isLower || c.isDigit) = true := alphanumeric
  rw [Bool.or_eq_true, Bool.or_eq_true] at kinds
  rcases kinds with (upper | lower) | digit
  · have bound : c.val ≤ 'Z'.val := (of_decide_eq_true upper).2
    exact Nat.lt_of_le_of_lt (UInt32.le_iff_toNat_le.1 bound) (by decide)
  · have bound : c.val ≤ 'z'.val := of_decide_eq_true (Bool.and_eq_true_iff.1 lower).2
    exact Nat.lt_of_le_of_lt (UInt32.le_iff_toNat_le.1 bound) (by decide)
  · have bound : c.val ≤ '9'.val := of_decide_eq_true (Bool.and_eq_true_iff.1 digit).2
    exact Nat.lt_of_le_of_lt (UInt32.le_iff_toNat_le.1 bound) (by decide)

/-- A letter or digit of ASCII stays one in small letters. -/
theorem packageCharacter_of_isAlphanum
    {c : Char}
    (alphanumeric : c.isAlphanum) :
    Text.isForeign (packageCharacter c) = false ∧ packageCharacter c ≠ '_' := by
  have ascii : ∀ code < 128, (Char.ofNat code).isAlphanum →
      Text.isForeign (Char.ofNat code).toLower = false ∧
        (Char.ofNat code).toLower ≠ '_' := by
    decide +kernel
  have kept := ascii c.toNat (lt_of_isAlphanum alphanumeric)
  rw [Char.ofNat_toNat] at kept
  rw [packageCharacter, if_pos alphanumeric]
  exact kept alphanumeric

theorem not_foreign_packageCharacter
    (c : Char) :
    Text.isForeign (packageCharacter c) = false := by
  by_cases alphanumeric : c.isAlphanum
  · exact (packageCharacter_of_isAlphanum alphanumeric).1
  · rw [packageCharacter, if_neg alphanumeric]
    decide

theorem mem_of_mem_trimWhile
    {test : Char → Bool}
    {text : List Char}
    {c : Char}
    (member : c ∈ Text.trimWhile test text) :
    c ∈ text := by
  have inside := List.mem_reverse.1 member
  have started := (List.dropWhile_suffix test).mem inside
  exact (List.dropWhile_suffix test).mem (List.mem_reverse.1 started)

theorem clean_trimmedPart
    (part : List Char) :
    Clean (Text.trimWhile (· = '_') (part.map packageCharacter)) := by
  intro c member
  obtain ⟨source, _, rfl⟩ := List.mem_map.1 (mem_of_mem_trimWhile member)
  exact not_foreign_packageCharacter source

theorem clean_packagePart
    (part : List Char) :
    Clean (packagePart part) :=
  clean_usable (clean_trimmedPart part)

/-- The parts of the name of a namespace that the package takes its name from. -/
def packageParts (uri : String) : List (List Char) :=
  ((namespaceParts uri.toList).map packagePart).filter (!·.isEmpty)

theorem toList_packageOfNamespace
    (uri : String) :
    (packageOfNamespace uri).toList = ['.'].intercalate (packageParts uri) := by
  have texts : ∀ parts : List (List Char), (parts.map String.ofList).map String.toList = parts := by
    intro parts
    simp
  rw [packageOfNamespace, String.toList_intercalate]
  exact congrArg _ (texts _)

theorem clean_of_mem_packageParts
    {uri : String}
    {part : List Char}
    (isPart : part ∈ packageParts uri) :
    Clean part := by
  obtain ⟨source, _, rfl⟩ := List.mem_map.1 (List.mem_filter.1 isPart).1
  exact clean_packagePart source

theorem mem_intercalate
    {Item : Type}
    {between item : Item}
    {parts : List (List Item)}
    (member : item ∈ [between].intercalate parts) :
    item = between ∨ ∃ part ∈ parts, item ∈ part := by
  induction parts with
  | nil => cases member
  | cons first rest inductionHypothesis =>
      cases rest with
      | nil => exact .inr ⟨first, List.mem_cons_self, by simpa using member⟩
      | cons second rest =>
          rw [List.intercalate_cons_cons] at member
          grind

theorem not_foreign_or_dot
    {uri : String}
    {c : Char}
    (member : c ∈ (packageOfNamespace uri).toList) :
    Text.isForeign c = false ∨ c = '.' := by
  rw [toList_packageOfNamespace] at member
  rcases mem_intercalate member with isDot | ⟨part, isPart, inside⟩
  · exact .inr isDot
  · exact .inl (clean_of_mem_packageParts isPart c inside)

theorem dotted_packageOfNamespace
    (uri : String) :
    Text.Dotted (packageOfNamespace uri).toList := by
  intro c member
  rcases not_foreign_or_dot member with notForeign | isDot
  · exact .inl (Text.isNameCode_of_not_foreign notForeign)
  · exact .inr isDot

end Schema
end SchemaBinding
