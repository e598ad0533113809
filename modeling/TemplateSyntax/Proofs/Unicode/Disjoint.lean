import TemplateSyntax.Name
import TemplateSyntax.Terminal.Rules

/-!
# Classes of characters that do not overlap

The table-driven classes of characters are told apart by comparing their
tables.  No blank character is a digit or begins a name, no capital is a digit,
and the characters that have a meaning of their own (`marks`) are neither
digits nor part of a name.
-/

namespace TemplateSyntax

namespace Unicode

/-- The code point lies in some range of the table. -/
def CodeRange.In (table : List CodeRange) (code : Nat) : Prop :=
  ∃ range, range ∈ table ∧ range.has code = true

/-- No range of one table meets a range of the other. -/
def CodeRange.apart (left right : List CodeRange) : Bool :=
  left.all fun first => right.all fun second =>
    first.last < second.first || second.last < first.first

theorem CodeRange.not_in_of_apart {left right : List CodeRange} {code : Nat}
    (separate : CodeRange.apart left right = true)
    (inLeft : CodeRange.In left code) : ¬CodeRange.In right code := by
  rintro ⟨second, secondMember, inSecond⟩
  obtain ⟨first, firstMember, inFirst⟩ := inLeft
  have ordered :=
    List.all_eq_true.mp (List.all_eq_true.mp separate first firstMember)
      second secondMember
  simp only [CodeRange.has, Bool.and_eq_true, decide_eq_true_eq] at inFirst
  simp only [CodeRange.has, Bool.and_eq_true, decide_eq_true_eq] at inSecond
  simp only [Bool.or_eq_true, decide_eq_true_eq] at ordered
  omega

def decimalRanges : List CodeRange :=
  (valuedZeros ++ recentZeros).map fun first => ⟨first, first + 9, 1⟩

theorem in_decimalRanges_of_digitIn {zeros : List Nat} {c : Char}
    (within : zeros ⊆ valuedZeros ++ recentZeros)
    (found : (digitIn? zeros c).isSome = true) :
    CodeRange.In decimalRanges c.toNat := by
  obtain ⟨value, valueEq⟩ := Option.isSome_iff_exists.mp found
  obtain ⟨first, member, _⟩ := Option.map_eq_some_iff.mp valueEq
  have inBlock := List.find?_some member
  simp only [Bool.and_eq_true, decide_eq_true_eq] at inBlock
  refine ⟨⟨first, first + 9, 1⟩, List.mem_map.mpr ⟨first, ?_, rfl⟩, ?_⟩
  · exact within (List.mem_of_find?_eq_some member)
  · simp only [CodeRange.has, Nat.mod_one, Bool.and_eq_true,
      decide_eq_true_eq, beq_self_eq_true, and_true]
    omega

theorem in_decimalRanges_of_isDecimal {c : Char}
    (decimal : isDecimal c = true) : CodeRange.In decimalRanges c.toNat := by
  rcases Bool.or_eq_true_iff.mp decimal with valued | recent
  · exact in_decimalRanges_of_digitIn (List.subset_append_left _ _) valued
  · exact in_decimalRanges_of_digitIn (List.subset_append_right _ _) recent

def capitalRanges : List CodeRange :=
  uppercaseLetters ++ recentUppercaseLetters ++ titlecaseLetters

theorem decimalRanges_apart :
    CodeRange.apart decimalRanges (capitalRanges ++ blankRanges) = true := by
  decide +kernel

theorem blankRanges_apart :
    CodeRange.apart blankRanges (capitalRanges ++ wordRanges) = true := by
  decide +kernel

theorem CodeRange.in_of_covers {table larger : List CodeRange} {code : Nat}
    (within : table ⊆ larger) (covered : CodeRange.covers table code = true) :
    CodeRange.In larger code := by
  obtain ⟨range, member, has⟩ := CodeRange.exists_of_covers covered
  exact ⟨range, within member, has⟩

theorem in_capitalRanges_of_isCapitalLetter {c : Char}
    (capital : isCapitalLetter c = true) :
    CodeRange.In capitalRanges c.toNat := by
  simp only [isCapitalLetter, isUppercaseLetter, isTitlecaseLetter,
    Bool.or_eq_true] at capital
  rcases capital with (old | recent) | title
  · exact CodeRange.in_of_covers (by simp [capitalRanges]) old
  · exact CodeRange.in_of_covers (by simp [capitalRanges]) recent
  · exact CodeRange.in_of_covers (by simp [capitalRanges]) title

theorem CodeRange.In.append_left {table : List CodeRange} {code : Nat}
    (inside : CodeRange.In table code) (others : List CodeRange) :
    CodeRange.In (table ++ others) code := by
  obtain ⟨range, member, has⟩ := inside
  exact ⟨range, List.mem_append_left _ member, has⟩

section Apart

variable {c : Char}

theorem isDecimal_of_isCapitalLetter (capital : isCapitalLetter c = true) :
    isDecimal c = false := by
  rw [Bool.eq_false_iff]
  intro decimal
  exact CodeRange.not_in_of_apart decimalRanges_apart
    (in_decimalRanges_of_isDecimal decimal)
    ((in_capitalRanges_of_isCapitalLetter capital).append_left _)

theorem isDecimal_of_isBlank (blank : isBlank c = true) :
    isDecimal c = false := by
  rw [Bool.eq_false_iff]
  intro decimal
  exact CodeRange.not_in_of_apart decimalRanges_apart
    (in_decimalRanges_of_isDecimal decimal)
    (CodeRange.in_of_covers (List.subset_append_right _ _) blank)

theorem isCapitalLetter_of_isBlank (blank : isBlank c = true) :
    isCapitalLetter c = false := by
  rw [Bool.eq_false_iff]
  intro capital
  exact CodeRange.not_in_of_apart blankRanges_apart
    (CodeRange.exists_of_covers blank)
    ((in_capitalRanges_of_isCapitalLetter capital).append_left _)

theorem isWord_of_isBlank (blank : isBlank c = true) : isWord c = false := by
  rw [Bool.eq_false_iff]
  intro word
  exact CodeRange.not_in_of_apart blankRanges_apart
    (CodeRange.exists_of_covers blank)
    (CodeRange.in_of_covers (List.subset_append_right _ _) word)

end Apart

end Unicode

/-- The characters that have a meaning of their own. -/
def marks : List Char :=
  operatorChars ++ ['(', ')', '[', ']', '{', '}', ',', '"', ' ', '\t']

/-- A character that can begin a name or a module path in front of one. -/
def isNameHead (c : Char) : Bool :=
  Scan.isNameStart c || Unicode.isUppercaseLetter c

/-- A character that is a digit or stands in a name. -/
def isPlain (c : Char) : Bool :=
  Unicode.isDecimal c || isNameChar c || Unicode.isCapitalLetter c

theorem marks_not_plain : marks.all (fun mark => !isPlain mark) = true := by
  decide +kernel

section Mark

variable {c : Char}

theorem not_mem_marks_of_isPlain (plain : isPlain c = true) : c ∉ marks := by
  intro mark
  have refused := List.all_eq_true.mp marks_not_plain c mark
  rw [plain] at refused
  cases refused

theorem not_mem_marks_of_isDecimal (decimal : Unicode.isDecimal c = true) :
    c ∉ marks := by
  apply not_mem_marks_of_isPlain
  simp [isPlain, decimal]

theorem not_mem_marks_of_isNameChar (name : isNameChar c = true) :
    c ∉ marks := by
  apply not_mem_marks_of_isPlain
  simp [isPlain, name]

theorem not_mem_marks_of_isCapitalLetter
    (capital : Unicode.isCapitalLetter c = true) : c ∉ marks := by
  apply not_mem_marks_of_isPlain
  simp [isPlain, capital]

theorem not_mem_marks_of_isNameHead (head : isNameHead c = true) :
    c ∉ marks := by
  rcases Bool.or_eq_true_iff.mp head with plain | upper
  · have word := (Bool.and_eq_true_iff.mp plain).2
    exact not_mem_marks_of_isNameChar (by simp [isNameChar, word])
  · exact not_mem_marks_of_isCapitalLetter
      (by simp [Unicode.isCapitalLetter, upper])

theorem mem_marks_of_isOperatorChar (operator : isOperatorChar c = true) :
    c ∈ marks :=
  List.mem_append_left _ (List.contains_iff_mem.mp operator)

theorem isOperatorChar_of_not_mem_marks (plain : c ∉ marks) :
    isOperatorChar c = false := by
  rw [Bool.eq_false_iff]
  intro operator
  exact plain (mem_marks_of_isOperatorChar operator)

theorem isDecimal_of_isOperatorChar (operator : isOperatorChar c = true) :
    Unicode.isDecimal c = false := by
  rw [Bool.eq_false_iff]
  intro decimal
  exact not_mem_marks_of_isDecimal decimal
    (mem_marks_of_isOperatorChar operator)

theorem isBlank_of_isOperatorChar (operator : isOperatorChar c = true) :
    Unicode.isBlank c = false := by
  have checked : operatorChars.all (fun c => !Unicode.isBlank c) = true := by
    decide
  simpa using List.all_eq_true.mp checked c (List.contains_iff_mem.mp operator)

theorem isNameHead_of_isBlank (blank : Unicode.isBlank c = true) :
    isNameHead c = false := by
  have word := Unicode.isWord_of_isBlank blank
  have capital := Unicode.isCapitalLetter_of_isBlank blank
  rw [Unicode.isCapitalLetter, Bool.or_eq_false_iff] at capital
  simp [isNameHead, Scan.isNameStart, word, capital.1]

theorem isNameChar_of_isBlank (blank : Unicode.isBlank c = true) :
    isNameChar c = false := by
  have word := Unicode.isWord_of_isBlank blank
  have prime : c ≠ '\'' := by
    rintro rfl
    exact absurd blank (by decide)
  simp [isNameChar, word, prime]

theorem isDecimal_of_isNameHead (head : isNameHead c = true) :
    Unicode.isDecimal c = false := by
  rcases Bool.or_eq_true_iff.mp head with plain | upper
  · simp only [Scan.isNameStart, Bool.and_eq_true, Bool.not_eq_true'] at plain
    exact plain.1
  · exact Unicode.isDecimal_of_isCapitalLetter
      (by simp [Unicode.isCapitalLetter, upper])

end Mark

end TemplateSyntax
