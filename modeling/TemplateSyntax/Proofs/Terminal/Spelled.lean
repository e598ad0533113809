import Mathlib.Data.List.Basic
import TemplateSyntax.Proofs.Terminal.Number

/-!
# How words are spelled

Names, module paths, fields and operators are runs of characters whose first
character is of a class of its own (`Spelled`).  A rule that reads such a run
reads nothing else (`spelled_of_read`), and it reads every such run that stands
in front of a character that cannot go on (`read_of_spelled`).
-/

namespace TemplateSyntax

/-- A first character of one class, and more of another. -/
def Spelled (begins goesOn : Char → Bool) (word : List Char) : Prop :=
  ∃ first others, word = first :: others ∧ begins first = true ∧
    ∀ c ∈ others, goesOn c = true

instance (begins goesOn : Char → Bool) :
    DecidablePred (Spelled begins goesOn)
  | [] => .isFalse (by rintro ⟨_, _, shape, _⟩; cases shape)
  | first :: others =>
      decidable_of_iff (begins first = true ∧ others.all goesOn = true) <| by
        rw [List.all_eq_true]
        constructor
        · intro spelled
          exact ⟨first, others, rfl, spelled⟩
        · rintro ⟨_, _, shape, spelled⟩
          cases shape
          exact spelled

namespace Spelled

variable {begins goesOn : Char → Bool} {word : List Char} {c : Char}

theorem single (begun : begins c = true) : Spelled begins goesOn [c] :=
  ⟨c, [], rfl, begun, List.forall_mem_nil _⟩

theorem not_mem (spelled : Spelled begins goesOn word)
    (begun : begins c = false) (goneOn : goesOn c = false) : c ∉ word := by
  obtain ⟨first, others, rfl, start, inside⟩ := spelled
  intro member
  rcases List.mem_cons.mp member with rfl | later
  · rw [start] at begun
    cases begun
  · rw [inside c later] at goneOn
    cases goneOn

end Spelled

namespace Scan

variable {begins goesOn : Char → Bool} {text lexeme rest word : List Char}

theorem spelled_of_read
    (read : (one begins).andThen (many goesOn) text = some (lexeme, rest)) :
    Spelled begins goesOn lexeme := by
  obtain ⟨_, _, _, first, others, rfl⟩ := andThen_eq_some_iff.mp read
  obtain ⟨c, accepted, rfl, _⟩ := one_eq_some_iff.mp first
  obtain ⟨rfl, _⟩ := many_eq_some_iff.mp others
  exact ⟨c, _, rfl, accepted, List.all_eq_true.mp List.all_takeWhile⟩

theorem dropWhile_of_stop {accepts : Char → Bool}
    (stop : notAhead accepts rest = true) : rest.dropWhile accepts = rest := by
  cases rest with
  | nil => rfl
  | cons c rest =>
      have refused : accepts c = false := by simpa [notAhead] using stop
      rw [List.dropWhile_cons, refused]
      rfl

theorem many_of_stop {accepts : Char → Bool} {run : List Char}
    (inside : ∀ c ∈ run, accepts c = true)
    (stop : notAhead accepts rest = true) :
    many accepts (run ++ rest) = some (run, rest) := by
  have ended := dropWhile_of_stop stop
  have nothing : rest.takeWhile accepts = [] := by
    have split := List.takeWhile_append_dropWhile (p := accepts) (l := rest)
    rwa [ended, List.append_left_eq_self] at split
  rw [many_eq_some_iff, List.takeWhile_append_of_pos inside,
    List.dropWhile_append_of_pos inside, ended, nothing, List.append_nil]
  exact ⟨rfl, rfl⟩

theorem read_of_spelled (spelled : Spelled begins goesOn word)
    (stop : notAhead goesOn rest = true) :
    (one begins).andThen (many goesOn) (word ++ rest) = some (word, rest) := by
  obtain ⟨first, others, rfl, begun, inside⟩ := spelled
  exact andThen_eq_some_iff.mpr ⟨[first], others ++ rest, others,
    one_eq_some_iff.mpr ⟨first, begun, rfl, rfl⟩, many_of_stop inside stop, rfl⟩

/-! ### Names behind a path -/

def IsModule : List Char → Prop :=
  Spelled Unicode.isUppercaseLetter Unicode.isWord

instance : DecidablePred IsModule :=
  inferInstanceAs (DecidablePred (Spelled _ _))

/-- A name without a path. -/
def IsWord : List Char → Prop :=
  Spelled isNameStart isNameChar

instance : DecidablePred IsWord :=
  inferInstanceAs (DecidablePred (Spelled _ _))

theorem intercalate_dot_cons (step word : List Char)
    (modules : List (List Char)) :
    ['.'].intercalate (step :: (modules ++ [word])) =
      step ++ '.' :: ['.'].intercalate (modules ++ [word]) := by
  rw [List.intercalate_cons_of_ne_nil (by simp), List.append_assoc]
  rfl

theorem intercalate_dot_flatMap (word : List Char) (back : List (List Char)) :
    ['.'].intercalate (word :: back) = word ++ back.flatMap ('.' :: ·) := by
  induction back generalizing word with
  | nil => simp
  | cons next back ih =>
      rw [List.intercalate_cons_cons, ih, List.flatMap_cons]
      simp

/-- The words behind one of the words, each behind its dot. -/
theorem intercalate_dot_append (front : List (List Char)) (word : List Char)
    (back : List (List Char)) :
    ['.'].intercalate (front ++ word :: back) =
      ['.'].intercalate (front ++ [word]) ++ back.flatMap ('.' :: ·) := by
  cases front with
  | nil =>
      rw [List.nil_append, List.nil_append, intercalate_dot_flatMap,
        List.intercalate_singleton]
  | cons step front =>
      rw [List.cons_append, List.cons_append, intercalate_dot_flatMap,
        intercalate_dot_flatMap]
      simp

theorem spelled_of_moduleStep (read : moduleStep text = some (lexeme, rest)) :
    ∃ step, IsModule step ∧ lexeme = step ++ ['.'] := by
  obtain ⟨first, _, _, upper, behind, rfl⟩ := andThen_eq_some_iff.mp read
  obtain ⟨others, _, _, letters, point, rfl⟩ := andThen_eq_some_iff.mp behind
  obtain ⟨rfl, _⟩ := char_eq_some_iff.mp point
  refine ⟨first ++ others, ?_, (List.append_assoc _ _ _).symm⟩
  exact spelled_of_read (andThen_eq_some_iff.mpr
    ⟨first, _, others, upper, letters, rfl⟩)

theorem spelled_of_identifier (read : identifier text = some (lexeme, rest)) :
    ∃ modules word, (∀ step ∈ modules, IsModule step) ∧ IsWord word ∧
      lexeme = ['.'].intercalate (modules ++ [word]) := by
  have alone {text lexeme rest : List Char}
      (read : plainName text = some (lexeme, rest)) :
      ∃ modules word, (∀ step ∈ modules, IsModule step) ∧ IsWord word ∧
        lexeme = ['.'].intercalate (modules ++ [word]) := by
    refine ⟨[], lexeme, ?_, spelled_of_read read, ?_⟩
    · intro _ member
      cases member
    · simp
  fun_induction Scan.identifier text generalizing lexeme rest with
  | case1 text none => exact alone read
  | case2 text step left stepRead none _ => exact alone read
  | case3 text step left stepRead name tail nameRead ih =>
      cases read
      obtain ⟨modules, word, each, isWord, rfl⟩ := ih nameRead
      obtain ⟨first, isModule, rfl⟩ := spelled_of_moduleStep stepRead
      refine ⟨first :: modules, word, ?_, isWord, ?_⟩
      · intro step member
        rcases List.mem_cons.mp member with rfl | later
        · exact isModule
        · exact each step later
      · rw [List.cons_append, intercalate_dot_cons]
        simp

theorem read_moduleStep {step : List Char} (isModule : IsModule step)
    (rest : List Char) :
    moduleStep (step ++ '.' :: rest) = some (step ++ ['.'], rest) := by
  have stop : notAhead Unicode.isWord ('.' :: rest) = true := by
    simp only [notAhead, List.head?_cons, Option.any_some, Bool.not_eq_true']
    decide
  obtain ⟨first, middle, others, upper, letters, stepEq⟩ :=
    andThen_eq_some_iff.mp (read_of_spelled isModule stop)
  rw [moduleStep, andThen_eq_some_iff]
  refine ⟨first, middle, others ++ ['.'], upper, ?_, by simp [stepEq]⟩
  exact andThen_eq_some_iff.mpr ⟨others, _, ['.'], letters,
    char_eq_some_iff.mpr ⟨rfl, rfl⟩, rfl⟩

theorem isNameChar_of_isWord {c : Char} (isWord : Unicode.isWord c = true) :
    isNameChar c = true := by
  simp [isNameChar, isWord]

/-- A step of a path in front of a character that no name goes on with is the
whole name. -/
theorem isModule_of_moduleStep {left : List Char} (isWord : IsWord word)
    (stop : notAhead isNameChar rest = true)
    (read : moduleStep (word ++ rest) = some (lexeme, left)) :
    IsModule word ∧ rest = '.' :: left := by
  obtain ⟨_, ⟨_, letters, rfl, upper, run⟩, rfl⟩ := spelled_of_moduleStep read
  obtain ⟨first, others, rfl, _, inside⟩ := isWord
  have split := Faithful.moduleStep read
  rw [List.append_assoc, List.singleton_append, List.cons_append,
    List.cons_append, List.cons.injEq] at split
  obtain ⟨rfl, tail⟩ := split
  have whole := many_of_stop inside stop
  have point : notAhead isNameChar ('.' :: left) = true := by
    simp only [notAhead, List.head?_cons, Option.any_some, Bool.not_eq_true']
    decide
  rw [tail, many_of_stop (fun c member => isNameChar_of_isWord (run c member))
    point] at whole
  cases whole
  exact ⟨⟨first, _, rfl, upper, run⟩, rfl⟩

/-- A name behind a path is read if a name ends there and it is no step of the
path itself. -/
theorem identifier_of_spelled {modules : List (List Char)}
    (each : ∀ step ∈ modules, IsModule step) (isWord : IsWord word)
    (stop : notAhead isNameChar rest = true)
    (last : IsModule word → rest.head? ≠ some '.') :
    identifier (['.'].intercalate (modules ++ [word]) ++ rest) =
      some (['.'].intercalate (modules ++ [word]), rest) := by
  induction modules with
  | nil =>
      have alone : ['.'].intercalate ([] ++ [word]) = word := by simp
      rw [alone, identifier]
      split
      · exact read_of_spelled isWord stop
      · rename_i stepRead
        obtain ⟨isModule, rfl⟩ := isModule_of_moduleStep isWord stop stepRead
        exact absurd rfl (last isModule)
  | cons step modules ih =>
      have later := ih fun other member => each other
        (List.mem_cons_of_mem _ member)
      have first := read_moduleStep (each step List.mem_cons_self)
        (['.'].intercalate (modules ++ [word]) ++ rest)
      rw [List.cons_append, intercalate_dot_cons, List.append_assoc,
        List.cons_append, identifier]
      split
      · rename_i unread
        rw [first] at unread
        cases unread
      · rename_i stepRead
        rw [first] at stepRead
        cases stepRead
        rw [later]
        simp

/-! ### Numbers, operators and fields -/

theorem read_char (c : Char) (rest : List Char) :
    char c (c :: rest) = some ([c], rest) :=
  char_eq_some_iff.mpr ⟨rfl, rfl⟩

theorem digits_of_run {run : List Char} (digits : DigitRun run)
    (stop : notAhead Unicode.isDecimal rest = true) :
    Scan.digits (run ++ rest) = some (run, rest) := by
  obtain ⟨first, others, rfl⟩ := List.exists_cons_of_ne_nil digits.1
  obtain ⟨begun, inside⟩ := List.forall_mem_cons.mp digits.2
  exact read_of_spelled ⟨first, others, rfl, begun, inside⟩ stop

theorem notAhead_dot (rest : List Char) :
    notAhead Unicode.isDecimal ('.' :: rest) = true := by
  have point : Unicode.isDecimal '.' = false := by
    rw [Bool.eq_false_iff]
    intro decimal
    exact not_mem_marks_of_isDecimal decimal (by decide)
  simp [notAhead, point]

theorem number_of_parts {sign whole fraction : List Char}
    (signed : sign = [] ∨ sign = ['-']) (digits : DigitRun whole)
    (pointed : fraction = [] ∨ ∃ run, fraction = '.' :: run ∧ DigitRun run)
    (stop : notAhead Unicode.isDecimal rest = true)
    (noDot : rest.head? ≠ some '.') :
    number (sign ++ whole ++ fraction ++ rest) =
      some (sign ++ whole ++ fraction, rest) := by
  have unsigned : Scan.digits.andThen ((char '.').andThen Scan.digits).optional
      (whole ++ (fraction ++ rest)) = some (whole ++ fraction, rest) := by
    rcases pointed with rfl | ⟨run, rfl, more⟩
    · have none : (char '.').andThen Scan.digits rest = none := by
        rw [Option.eq_none_iff_forall_ne_some]
        rintro ⟨lexeme, left⟩ read
        obtain ⟨_, _, point⟩ := exists_of_andThen read
        obtain ⟨_, rfl⟩ := char_eq_some_iff.mp point
        exact noDot rfl
      refine andThen_eq_some_iff.mpr
        ⟨whole, rest, [], digits_of_run digits stop, ?_, rfl⟩
      rw [optional, orElse, none]
      rfl
    · have behind : (char '.').andThen Scan.digits ('.' :: run ++ rest) =
          some ('.' :: run, rest) :=
        andThen_eq_some_iff.mpr ⟨['.'], run ++ rest, run, read_char _ _,
          digits_of_run more stop, rfl⟩
      refine andThen_eq_some_iff.mpr ⟨whole, '.' :: run ++ rest, '.' :: run,
        digits_of_run digits (notAhead_dot _), ?_, rfl⟩
      rw [optional, orElse, behind]
  have skipped : (char '-').optional (sign ++ (whole ++ (fraction ++ rest))) =
      some (sign, whole ++ (fraction ++ rest)) := by
    rcases signed with rfl | rfl
    · obtain ⟨first, others, rfl⟩ := List.exists_cons_of_ne_nil digits.1
      have digit := digits.2 first List.mem_cons_self
      have other : first ≠ '-' := by
        rintro rfl
        exact not_mem_marks_of_isDecimal digit (by decide)
      simp [optional, orElse, char, one, other, word]
    · rfl
  rw [List.append_assoc, List.append_assoc, number, andThen_eq_some_iff]
  exact ⟨sign, _, whole ++ fraction, skipped, unsigned,
    List.append_assoc _ _ _⟩

/-- A run of operator characters. -/
def IsOperator : List Char → Prop :=
  Spelled isOperatorChar isOperatorChar

theorem parenthesisedOperator_of_spelled (isOperator : IsOperator word)
    (rest : List Char) :
    parenthesisedOperator ('(' :: word ++ [')'] ++ rest) =
      some ('(' :: word ++ [')'], rest) := by
  have run : operatorRun (word ++ ')' :: rest) = some (word, ')' :: rest) :=
    read_of_spelled isOperator (by
      simp only [notAhead, List.head?_cons, Option.any_some,
        Bool.not_eq_true']
      decide)
  have split : '(' :: word ++ [')'] ++ rest = '(' :: (word ++ ')' :: rest) := by
    simp
  rw [split, parenthesisedOperator, andThen_eq_some_iff]
  exact ⟨['('], _, word ++ [')'], read_char _ _,
    andThen_eq_some_iff.mpr ⟨word, _, [')'], run, read_char _ _, rfl⟩, rfl⟩

def IsField : List Char → Prop :=
  Spelled isFieldStart isNameChar

theorem fieldAccess_of_spelled (isField : IsField word)
    (stop : notAhead isNameChar rest = true) :
    fieldAccess ('.' :: word ++ rest) = some ('.' :: word, rest) :=
  andThen_eq_some_iff.mpr
    ⟨['.'], word ++ rest, word, read_char _ _, read_of_spelled isField stop, rfl⟩

/-- A sign takes the blanks in front of it. -/
theorem blanksThen_gap {accepts : Char → Bool} {c : Char} {gap : List Char}
    (refused : accepts c = false) (blank : ∀ d ∈ gap, accepts d = true)
    (rest : List Char) :
    blanksThen accepts (char c) (gap ++ c :: rest) = some (gap ++ [c], rest) := by
  have front : many accepts (gap ++ c :: rest) = some (gap, c :: rest) :=
    many_of_stop blank (by simp [notAhead, refused])
  exact andThen_eq_some_iff.mpr ⟨gap, _, [c], front, read_char _ _, rfl⟩

theorem blanksThen_char {accepts : Char → Bool} {c : Char}
    (refused : accepts c = false) (rest : List Char) :
    blanksThen accepts (char c) (c :: rest) = some ([c], rest) :=
  blanksThen_gap refused (List.forall_mem_nil (accepts · = true)) rest

end Scan

end TemplateSyntax
