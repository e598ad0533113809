import Mathlib.Data.List.DropRight
import TemplateSyntax.Proofs.Alone
import TemplateSyntax.Proofs.Pattern.Printed

/-!
# Spaces behind the tokens of a pattern

Every token of a pattern but the dot takes the spaces behind it.  They make no
difference to where the token leads or how deep that is (`path_of_alike`,
`peak_of_alike`), and its rule reads the token again in front of any other spaces
(`scan_trimmed`).
-/

namespace TemplateSyntax.Pattern

open Scan

/-! ### Trimmed tokens -/

section Trimmed

variable {gap lexeme : List Char}

theorem trimmed_gap (blank : Spaces gap) (lexeme : List Char) :
    trimmed (lexeme ++ gap) = trimmed lexeme := by
  have reversed : ∀ c ∈ gap.reverse, (c == ' ') = true := fun c member =>
    beq_iff_eq.mpr (blank c (List.mem_reverse.mp member))
  rw [trimmed, trimmed, List.reverse_append,
    List.dropWhile_append_of_pos reversed]

@[simp]
theorem trimmed_trimmed (lexeme : List Char) :
    trimmed (trimmed lexeme) = trimmed lexeme :=
  List.rdropWhile_idempotent _ _

theorem exists_gap (lexeme : List Char) :
    ∃ gap, Spaces gap ∧ lexeme = trimmed lexeme ++ gap := by
  refine ⟨(lexeme.reverse.takeWhile (· == ' ')).reverse, ?_, ?_⟩
  · intro c member
    exact eq_of_beq (List.all_eq_true.mp List.all_takeWhile c
      (List.mem_reverse.mp member))
  · rw [trimmed, ← List.reverse_append, List.takeWhile_append_dropWhile,
      List.reverse_reverse]

end Trimmed

/-- The token without the spaces behind it. -/
def bare (token : Token) : Token :=
  ⟨token.terminal, trimmed token.lexeme⟩

@[simp]
theorem bare_mk (terminal : Terminal) (lexeme : List Char) :
    bare ⟨terminal, lexeme⟩ = ⟨terminal, trimmed lexeme⟩ :=
  rfl

/-! ### Where trimmed tokens lead -/

/-- The moves lead to the same place without the spaces behind a token. -/
def Spaced (moves : Moves State) : Prop :=
  ∀ move ∈ moves, ∀ lexeme, move.2 (trimmed lexeme) = move.2 lexeme

namespace Spaced

variable {clause : Clause} {frames : List Frame} {left right : Moves State}

theorem nil : Spaced [] :=
  fun _ member => nomatch member

theorem cons {terminal : Terminal} {next : List Char → State}
    (here : ∀ lexeme, next (trimmed lexeme) = next lexeme)
    (rest : Spaced right) : Spaced ((terminal, next) :: right) := by
  intro move member lexeme
  rcases List.mem_cons.mp member with rfl | later
  · exact here lexeme
  · exact rest move later lexeme

theorem append (first : Spaced left) (second : Spaced right) :
    Spaced (left ++ right) :=
  fun move member => (List.mem_append.mp member).elim (first move) (second move)

/-- A move that does not look at the token. -/
theorem sign {terminal : Terminal} {state : State} (rest : Spaced right) :
    Spaced ((terminal, fun _ => state) :: right) :=
  cons (fun _ => rfl) rest

theorem word {terminal : Terminal} (place : String → State)
    (rest : Spaced right) :
    Spaced ((terminal, fun lexeme => place (wordName lexeme)) :: right) :=
  cons (fun _ => by rw [wordName, wordName, trimmed_trimmed]) rest

theorem operator {terminal : Terminal} (place : String → State)
    (rest : Spaced right) :
    Spaced ((terminal, fun lexeme => place (operatorName lexeme)) :: right) :=
  cons (fun _ => by rw [operatorName, operatorName, trimmed_trimmed]) rest

theorem parts : Spaced (State.parts clause frames) :=
  word (fun name => .pattern (.var name) clause frames)
    (word (fun name => .pattern (.pieces [name]) clause frames)
      (operator (fun name => .pattern (.pieces [name]) clause frames)
        (sign (sign nil))))

theorem emptyEnd : Spaced (State.emptyEnd frames) := by
  rw [State.emptyEnd.eq_def]
  split
  · exact sign nil
  · exact sign nil
  · exact nil

theorem itemEnds (item : Pattern) : Spaced (State.itemEnds item frames) := by
  rw [State.itemEnds.eq_def]
  split
  · exact nil
  · exact sign (sign nil)
  · exact sign (sign nil)
  · exact sign (sign nil)

theorem continuations (part : Pattern) :
    Spaced (State.continuations part clause frames) := by
  refine append ?_ (itemEnds _)
  rw [State.arguments.eq_def]
  split
  · exact nil
  · exact parts

theorem firstArguments (head : QualifiedName) :
    Spaced (State.firstArguments head clause frames) := by
  rw [State.firstArguments.eq_def]
  split
  · exact parts
  · exact nil

theorem fieldNames (current : OpenRecord) :
    Spaced (State.fieldNames current frames) :=
  word (fun name => .record (.named name) current frames)
    (word (fun name => .record (.named name) current frames)
      (operator (fun name => .record (.named name) current frames) (sign nil)))

theorem moves (state : State) : Spaced state.moves := by
  cases state with
  | pattern phase clause frames =>
      cases phase with
      | start => exact parts
      | opened => exact parts.append emptyEnd
      | var name => exact sign (continuations _)
      | pieces names =>
          exact sign (sign ((firstArguments _).append (continuations _)))
      | piece names =>
          exact word (fun name => .pattern (.pieces (name :: names)) clause frames)
            (operator
              (fun name => .pattern (.pieces (name :: names)) clause frames) nil)
      | after part => exact continuations part
  | record phase current frames =>
      cases phase with
      | opened => exact (fieldNames current).append (sign nil)
      | start => exact fieldNames current
      | named name => exact sign (sign (sign nil))
      | wildcard => exact sign nil

end Spaced

variable {state final : State} {tokens tokens' : List Token}

theorem next_trimmed {terminal : Terminal} {next : List Char → State}
    (member : (terminal, next) ∈ language.moves state) (lexeme : List Char) :
    next (trimmed lexeme) = next lexeme :=
  Spaced.moves state _ member lexeme

theorem path_bare (path : language.Path state tokens final) :
    language.Path state (tokens.map bare) final := by
  induction path with
  | nil => exact .nil _
  | cons lexeme member _ ih =>
      rw [← next_trimmed member] at ih
      exact .cons (trimmed lexeme) member ih

theorem path_of_bare (path : language.Path state (tokens.map bare) final) :
    language.Path state tokens final := by
  induction tokens generalizing state with
  | nil => exact path
  | cons token tokens ih =>
      cases path with
      | cons _ member later =>
          rw [next_trimmed member] at later
          exact .cons token.lexeme member (ih later)

theorem peak_bare (path : language.Path state tokens final) :
    language.peak state (tokens.map bare) = language.peak state tokens := by
  induction path with
  | nil => rfl
  | cons lexeme member _ ih =>
      rw [List.map_cons, bare_mk, language_distinct.peak_cons member,
        language_distinct.peak_cons member, next_trimmed member, ih]
      rfl

section Alike

variable (alike : tokens.map bare = tokens'.map bare)
include alike

/-- Tokens that differ in the spaces behind them lead to the same place. -/
theorem path_of_alike (path : language.Path state tokens final) :
    language.Path state tokens' final := by
  have trimmed := path_bare path
  rw [alike] at trimmed
  exact path_of_bare trimmed

/-- The spaces behind tokens do not matter to how deep a pattern goes. -/
theorem peak_of_alike (path : language.Path state tokens final) :
    language.peak state tokens' = language.peak state tokens := by
  rw [← peak_bare (path_of_alike alike path), ← alike, peak_bare path]

theorem measures_of_alike {value : Pattern} {height : Nat}
    (measures : language.Measures tokens value height) :
    language.Measures tokens' value height := by
  obtain ⟨final, path, finished, rfl⟩ := measures
  exact ⟨final, path_of_alike alike path, finished,
    by rw [peak_of_alike alike path]⟩

theorem faultless_of_alike (path : language.Path state tokens final)
    (faultless : language.fault? state tokens = none) :
    language.fault? state tokens' = none := by
  have path' := path_of_alike alike path
  rw [language_distinct.fault?_eq_none_iff path] at faultless
  rw [language_distinct.fault?_eq_none_iff path', peak_of_alike alike path]
  exact ⟨faultless.1, error?_of_path path'⟩

end Alike

/-! ### Reading a token again -/

/-- The terminal is a word, which goes on with any character of names. -/
def isWord : Terminal → Bool
  | .variableWord | .capitalWord => true
  | _ => false

/-- What the rule reads does not end in a space, and is read again in front of
any text, or behind a word any text that does not go on with it. -/
def Repeats (word : Bool) (scan : Scan) : Prop :=
  ∀ ⦃text lexeme rest : List Char⦄, scan text = some (lexeme, rest) →
    lexeme.getLast? ≠ some ' ' ∧
      ∀ more, (word = true → notAhead isNameChar more = true) →
        scan (lexeme ++ more) = some (lexeme, more)

namespace Repeats

theorem named {begins : Char → Bool}
    (outside : ∀ c, begins c = true → c ∉ marks) :
    Repeats true ((one begins).andThen (many isNameChar)) := by
  intro text lexeme rest read
  have spelled := spelled_of_read read
  exact ⟨getLast?_ne_space spelled outside,
    fun _ stop => read_of_spelled spelled (stop rfl)⟩

theorem parenthesisedOperator : Repeats false parenthesisedOperator := by
  intro text lexeme rest read
  obtain ⟨word, isOperator, rfl⟩ := Expr.spelled_of_parenthesisedOperator read
  refine ⟨?_, fun more _ => parenthesisedOperator_of_spelled isOperator more⟩
  rw [Expr.parenthesised, List.getLast?_concat]
  decide

theorem word {expected : List Char} (last : expected.getLast? ≠ some ' ') :
    Repeats false (word expected) := by
  intro text lexeme rest read
  obtain ⟨rfl, _⟩ := word_eq_some_iff.mp read
  exact ⟨last, fun _ _ => word_eq_some_iff.mpr ⟨rfl, rfl⟩⟩

theorem char {expected : Char} (other : expected ≠ ' ') :
    Repeats false (char expected) := by
  intro text lexeme rest read
  obtain ⟨rfl, _⟩ := char_eq_some_iff.mp read
  refine ⟨?_, fun more _ => read_char expected more⟩
  rintro ⟨⟩
  exact other rfl

end Repeats

/-- The rule of every terminal but the dot takes the spaces behind what it
reads. -/
theorem exists_rule {terminal : Terminal}
    (known : terminal ∈ allTerminals) (other : terminal ≠ .dot) :
    ∃ inner : Scan, Repeats (isWord terminal) inner ∧
      ∀ triggers, terminal.scan triggers = inner.spaced := by
  cases terminal with
  | dot => exact absurd rfl other
  | variableWord =>
      exact ⟨_, .named fun _ => not_mem_marks_of_isVariableStart, fun _ => rfl⟩
  | capitalWord =>
      exact ⟨_, .named fun _ => not_mem_marks_of_isCapitalLetter, fun _ => rfl⟩
  | operatorConstructor => exact ⟨_, .parenthesisedOperator, fun _ => rfl⟩
  | wildcard => exact ⟨_, .word (by decide), fun _ => rfl⟩
  | asSign | equals | patternComma | patternOpenParen | patternCloseParen
  | patternOpenBracket | patternCloseBracket | openBrace | closeBrace =>
      exact ⟨_, .char (by decide), fun _ => rfl⟩
  | _ =>
      simp [allTerminals, partTerminals, nameTerminals, closingTerminals,
        fieldTerminals] at known

variable {triggers triggers' : Triggers} {terminal : Terminal}
  {text lexeme rest gap more : List Char}

/-- Every token but the dot is read again with any spaces behind it. -/
theorem scan_trimmed (known : terminal ∈ allTerminals) (other : terminal ≠ .dot)
    (read : terminal.scan triggers text = some (lexeme, rest))
    (blank : Spaces gap)
    (name : isWord terminal = true → notAhead isNameChar (gap ++ more) = true)
    (space : notAhead isSpace more = true) :
    terminal.scan triggers' (trimmed lexeme ++ (gap ++ more)) =
      some (trimmed lexeme ++ gap, more) := by
  obtain ⟨inner, repeats, rule⟩ := exists_rule known other
  rw [rule] at read ⊢
  obtain ⟨word, spaces, middle, first, rfl, behind⟩ := exists_of_spacedRead read
  obtain ⟨proper, again⟩ := repeats first
  rw [trimmed_append proper behind]
  exact spaced_read (again _ name) blank space

theorem scan_gap (known : terminal ∈ allTerminals) (other : terminal ≠ .dot)
    (read : terminal.scan triggers text = some (lexeme, rest))
    (blank : Spaces gap) (name : notAhead isNameChar (gap ++ more) = true)
    (space : notAhead isSpace more = true) :
    terminal.scan triggers' (lexeme ++ (gap ++ more)) =
      some (lexeme ++ gap, more) := by
  obtain ⟨spaces, inside, split⟩ := exists_gap lexeme
  have both : Spaces (spaces ++ gap) := List.forall_mem_append.mpr ⟨inside, blank⟩
  have stop : notAhead isNameChar (spaces ++ gap ++ more) = true := by
    rw [List.append_assoc]
    exact notName_of_spaces inside fun _ => name
  have again : terminal.scan triggers'
      (trimmed lexeme ++ (spaces ++ gap ++ more)) =
      some (trimmed lexeme ++ (spaces ++ gap), more) :=
    scan_trimmed known other read both (fun _ => stop) space
  rwa [List.append_assoc, ← List.append_assoc _ spaces,
    ← List.append_assoc _ spaces, ← split] at again

end TemplateSyntax.Pattern
