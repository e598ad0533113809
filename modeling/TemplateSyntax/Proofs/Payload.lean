import TemplateSyntax.Proofs.Alone
import TemplateSyntax.Proofs.Expr.Printed
import TemplateSyntax.Proofs.Pattern.Spacing
import TemplateSyntax.Proofs.Reading.Viable
import TemplateSyntax.Proofs.Terminal.Onward

/-!
# Expressions and patterns in front of more text

The tokens of an expression that can be read alone are also laid in front of
blanks or a bracket, and those of a pattern too, whose last token takes the
spaces that follow it.  Blanks in front of an expression make no difference to it.
-/

namespace TemplateSyntax

open Scan

/-! ### What stops tokens -/

/-- The brackets of all languages. -/
def brackets : List Char :=
  ['(', ')', '[', ']', '{', '}']

theorem brackets_plain : brackets.all (fun c =>
    marks.contains c && !isOperatorChar c && !Unicode.isBlank c) = true := by
  decide +kernel

theorem plain_of_bracket {c : Char} (bracket : c ∈ brackets) :
    c ∈ marks ∧ isOperatorChar c = false ∧ Unicode.isBlank c = false := by
  have plain := List.all_eq_true.mp brackets_plain c bracket
  simp only [Bool.and_eq_true, Bool.not_eq_true', List.contains_iff_mem]
    at plain
  exact ⟨plain.1.1, plain.1.2, plain.2⟩

/-- A blank or a bracket: no name, number or field goes on with it. -/
def isStop (c : Char) : Bool :=
  Unicode.isBlank c || brackets.contains c

/-- A text that begins with a stop, if it is not empty. -/
def Stopped (text : List Char) : Prop :=
  ∀ c, text.head? = some c → isStop c = true

theorem Stopped.cons {c : Char} (stop : isStop c = true) (rest : List Char) :
    Stopped (c :: rest) := by
  rintro _ ⟨⟩
  exact stop

theorem Stopped.behind {gap text : List Char}
    (blank : ∀ c ∈ gap, Unicode.isBlank c = true) (stopped : Stopped text) :
    Stopped (gap ++ text) := by
  intro c here
  cases gap with
  | nil => exact stopped c here
  | cons first others =>
      cases here
      rw [isStop, blank _ List.mem_cons_self, Bool.true_or]

/-- A blank, or a mark that is no operator: no name, number or field goes on with
it either. -/
def Halts (c : Char) : Prop :=
  Unicode.isBlank c = true ∨ c ∈ marks ∧ isOperatorChar c = false

theorem isStop_cases {c : Char} (stop : isStop c = true) : Halts c := by
  rcases Bool.or_eq_true_iff.mp stop with blank | bracket
  · exact .inl blank
  · obtain ⟨mark, operator, _⟩ :=
      plain_of_bracket (List.contains_iff_mem.mp bracket)
    exact .inr ⟨mark, operator⟩

section Stop

variable {c : Char} (halts : Halts c)
include halts

theorem isNameChar_of_halts : isNameChar c = false := by
  rcases halts with blank | ⟨mark, _⟩
  · exact isNameChar_of_isBlank blank
  · rw [Bool.eq_false_iff]
    exact fun name => not_mem_marks_of_isNameChar name mark

theorem isNameHead_of_halts : isNameHead c = false := by
  rcases halts with blank | ⟨mark, _⟩
  · exact isNameHead_of_isBlank blank
  · rw [Bool.eq_false_iff]
    exact fun head => not_mem_marks_of_isNameHead head mark

theorem isDecimal_of_halts : Unicode.isDecimal c = false := by
  rcases halts with blank | ⟨mark, _⟩
  · exact Unicode.isDecimal_of_isBlank blank
  · rw [Bool.eq_false_iff]
    exact fun digit => not_mem_marks_of_isDecimal digit mark

theorem ne_of_halts {other : Char} (operator : isOperatorChar other = true) :
    c ≠ other := by
  rintro rfl
  rcases halts with blank | ⟨_, plain⟩
  · rw [isBlank_of_isOperatorChar operator] at blank
    cases blank
  · rw [operator] at plain
    cases plain

/-- What may end an expression, and what looks ahead, does not take a character
that halts it. -/
theorem Terminal.takes_of_halts {terminal : Terminal}
    (inner : terminal.looksAhead = true ∨ terminal.endsExpr = true) :
    terminal.takes c = false := by
  have name := isNameChar_of_halts halts
  have head := isNameHead_of_halts halts
  have digit := isDecimal_of_halts halts
  have point : c ≠ '.' := ne_of_halts halts (by decide)
  have sign : c ≠ '-' := ne_of_halts halts (by decide)
  cases terminal with
  | number => simp [takes, digit, point, sign]
  | identifier => simp [takes, head, name, point]
  | fieldAccess => exact name
  | string | operatorName | exprCloseParen | exprCloseBracket => rfl
  | _ => rcases inner with looks | ends <;> contradiction

end Stop

theorem isNameChar_of_isStop {c : Char} (stop : isStop c = true) :
    isNameChar c = false :=
  isNameChar_of_halts (isStop_cases stop)

theorem Terminal.takes_of_isStop {c : Char} (stop : isStop c = true)
    {terminal : Terminal}
    (inner : terminal.looksAhead = true ∨ terminal.endsExpr = true) :
    terminal.takes c = false :=
  takes_of_halts (isStop_cases stop) inner

theorem notAhead_of_halts {accepts : Char → Bool} {text : List Char}
    (halts : ∀ c, text.head? = some c → Halts c)
    (refused : ∀ c, Halts c → accepts c = false) :
    notAhead accepts text = true := by
  cases text with
  | nil => rfl
  | cons c text => simp [notAhead, refused c (halts c rfl)]

/-! ### Expressions -/

namespace Expr

variable {triggers : Triggers} {text : List Char} {tokens : List Token}
  {value : Expr}

/-- The tokens of an expression are laid as before in front of a character that
halts them. -/
theorem laid_halted (laid : Laid triggers text tokens [])
    (expression : Grammar.Expression tokens value) {more : List Char}
    (halts : ∀ c, more.head? = some c → Halts c) (triggers' : Triggers) :
    Laid triggers' (text ++ more) tokens more := by
  obtain ⟨_, path, _⟩ := (language_recognises tokens value).mp expression
  have inner := isInner_of_path path
  obtain ⟨front, last, rfl, ends⟩ := exists_last_of_expression expression
  refine (laid.anew inner triggers').onward
    (fun token member => Terminal.isWithin_of_isInner (inner token member))
    more ?_ ?_
  · intro token _ looks
    exact notAhead_of_halts halts fun c stop =>
      Terminal.takes_of_halts stop (.inl looks)
  · intro _ token here
    rw [List.getLast?_concat, Option.some.injEq] at here
    subst here
    exact notAhead_of_halts halts fun c stop =>
      Terminal.takes_of_halts stop (.inr ends)

theorem laid_stopped (laid : Laid triggers text tokens [])
    (expression : Grammar.Expression tokens value) {more : List Char}
    (stopped : Stopped more) (triggers' : Triggers) :
    Laid triggers' (text ++ more) tokens more :=
  laid_halted laid expression (fun c here => isStop_cases (stopped c here))
    triggers'

theorem beginsVisibly_of_operand {clause : Clause} {frames : List Frame}
    {terminal : Terminal} {next : List Char → State} {lexeme rest : List Char}
    (member : (terminal, next) ∈ State.operands clause frames)
    (read : terminal.scan triggers text = some (lexeme, rest)) :
    BeginsVisibly text := by
  obtain ⟨c, others, split, head⟩ := (OperandAhead.of_scan member read).head
  exact ⟨c, others, split, isBlank_of_isOperandHead head⟩

/-- Blanks in front of an operand make an expression no deeper. -/
theorem peak_blanks {next : List Char → State} {terminal : Terminal}
    (operand : (terminal, next) ∈ State.operands .empty [])
    (blanks lexeme : List Char) (tokens : List Token) :
    language.peak language.start
        (⟨.blanks, blanks⟩ :: ⟨terminal, lexeme⟩ :: tokens) =
      language.peak language.start (⟨terminal, lexeme⟩ :: tokens) := by
  have leading : (Terminal.blanks, fun _ => ⟨.operand, .empty, []⟩) ∈
      language.moves language.start :=
    List.mem_append_left _ (List.mem_singleton_self _)
  have atStart : (terminal, next) ∈ language.moves language.start :=
    List.mem_append_right (State.leadingBlanks .empty []) operand
  have atOperand : (terminal, next) ∈
      language.moves ⟨.operand, .empty, []⟩ := operand
  have same : language.peak ⟨.operand, .empty, []⟩
      (⟨terminal, lexeme⟩ :: tokens) =
        language.peak language.start (⟨terminal, lexeme⟩ :: tokens) := by
    rw [language_distinct.peak_cons atOperand,
      language_distinct.peak_cons atStart]
    rfl
  have level : language.depth language.start
      (⟨.blanks, blanks⟩ :: ⟨terminal, lexeme⟩ :: tokens) =
        language.depth language.start (⟨terminal, lexeme⟩ :: tokens) := by
    simp only [State.operands, State.tightOperands, List.cons_append,
      List.nil_append, List.mem_cons, Prod.mk.injEq, List.not_mem_nil,
      or_false] at operand
    rcases operand with ⟨rfl, _⟩ | ⟨rfl, _⟩ | ⟨rfl, _⟩ | ⟨rfl, _⟩ | ⟨rfl, _⟩ |
      ⟨rfl, _⟩ <;> rfl
  rw [language_distinct.peak_cons leading, same, level]
  exact Nat.max_eq_right (Nat.le_max_left _ _)

/-- Blanks in front of an expression make no difference to it. -/
theorem exists_body {height : Nat} (laid : Laid triggers text tokens [])
    (measures : language.Measures tokens value height) :
    ∃ lead bodyText body, text = lead ++ bodyText ∧
      (∀ c ∈ lead, isSpaceOrTab c = true) ∧ BeginsVisibly bodyText ∧
      Laid triggers bodyText body [] ∧ language.Measures body value height ∧
      ∀ token ∈ body, token ∈ tokens := by
  obtain ⟨final, path, finished, rfl⟩ := measures
  cases path with
  | nil => cases finished
  | @cons terminal next _ _ tokens lexeme member later =>
      cases laid with
      | @cons _ _ _ middle _ _ read behind =>
          rcases List.mem_append.mp member with blanks | operand
          · -- the blanks lead to where an operand must follow
            cases List.mem_singleton.mp blanks
            cases later with
            | nil => cases finished
            | @cons terminal next _ _ tokens word operand later =>
                have visible : BeginsVisibly middle := by
                  cases behind with
                  | cons read _ => exact beginsVisibly_of_operand operand read
                have atStart : (terminal, next) ∈ language.moves language.start :=
                  List.mem_append_right (State.leadingBlanks .empty []) operand
                obtain ⟨c, tail, split, accepted, rfl, _⟩ :=
                  some1_eq_some_iff.mp read
                rw [peak_blanks operand]
                refine ⟨_, middle, _, Terminal.scan_eq_append read, ?_, visible,
                  behind, ⟨final, .cons word atStart later, finished, rfl⟩,
                  fun token => List.mem_cons_of_mem _⟩
                exact List.forall_mem_cons.mpr
                  ⟨accepted, List.all_eq_true.mp List.all_takeWhile⟩
          · exact ⟨[], _, _, rfl, List.forall_mem_nil _,
              beginsVisibly_of_operand operand read, .cons read behind,
              ⟨final, .cons lexeme member later, finished, rfl⟩, fun _ => id⟩

end Expr

/-! ### Patterns -/

namespace Pattern

variable {gap lexeme : List Char}

theorem not_dot_of_continuations {part : Pattern} {clause : Clause}
    {frames : List Frame} {next : List Char → State} :
    (.dot, next) ∉ State.continuations part clause frames := by
  intro member
  rcases List.mem_append.mp member with argument | ending
  · obtain ⟨_, part⟩ := State.mem_of_arguments argument
    exact absurd (State.mem_of_parts part) (by decide)
  · exact absurd (State.mem_of_itemEnds ending).1 (by decide)

theorem value?_of_dot {state : State} {next : List Char → State}
    (member : (.dot, next) ∈ state.moves) (lexeme : List Char) :
    (next lexeme).value? = none := by
  cases state with
  | record phase current frames =>
      exact absurd (State.mem_of_record_moves member) (by decide)
  | pattern phase clause frames =>
      cases phase with
      | start => exact absurd (State.mem_of_parts member) (by decide)
      | opened =>
          rcases List.mem_append.mp member with part | ending
          · exact absurd (State.mem_of_parts part) (by decide)
          · exact absurd (State.mem_of_emptyEnd ending) (by decide)
      | var name =>
          rcases List.mem_cons.mp member with sign | later
          · cases sign
          · exact absurd later not_dot_of_continuations
      | pieces names =>
          rcases List.mem_cons.mp member with dot | later
          · cases dot
            rfl
          · rcases List.mem_cons.mp later with brace | later
            · cases brace
            · rcases List.mem_append.mp later with argument | later
              · obtain ⟨_, part⟩ := State.mem_of_firstArguments argument
                exact absurd (State.mem_of_parts part) (by decide)
              · exact absurd later not_dot_of_continuations
      | piece names => simp [State.moves] at member
      | after part => exact absurd member not_dot_of_continuations

theorem looksAhead_of_known {terminal : Terminal}
    (known : terminal ∈ allTerminals) : terminal.looksAhead = false := by
  have checked : ∀ terminal ∈ allTerminals, terminal.looksAhead = false := by
    decide
  exact checked terminal known

theorem measures_gap {front : List Token} {terminal : Terminal}
    {value : Pattern} {height : Nat} (blank : Spaces gap)
    (measures : language.Measures (front ++ [⟨terminal, lexeme⟩]) value
      height) :
    language.Measures (front ++ [⟨terminal, lexeme ++ gap⟩]) value height :=
  measures_of_alike (by simp [trimmed_gap blank]) measures

/-- A pattern is laid in front of more text, and its last token takes the spaces
between them. -/
theorem exists_last_laid {triggers : Triggers} {text : List Char}
    {tokens : List Token} {value : Pattern} {height : Nat}
    (laid : Laid triggers text tokens [])
    (measures : language.Measures tokens value height) :
    ∃ front terminal lexeme, tokens = front ++ [⟨terminal, lexeme⟩] ∧
      ∀ {gap more}, Spaces gap → notAhead isNameChar (gap ++ more) = true →
        notAhead isSpace more = true → ∀ triggers',
        Laid triggers' (text ++ (gap ++ more))
          (front ++ [⟨terminal, lexeme ++ gap⟩]) more := by
  have ⟨final, path, finished, _⟩ := measures
  have proper : tokens ≠ [] := by
    rintro rfl
    cases path
    cases finished
  have inner := path.forall_terminal fun _ _ _ => isInner_of_move
  have near := path.forall_terminal fun _ _ _ member =>
    looksAhead_of_known (known_of_move member)
  obtain ⟨front, middle, terminal, next, lexeme, rfl, _, member, rfl⟩ :=
    path.exists_last proper
  refine ⟨front, terminal, lexeme, rfl, ?_⟩
  intro gap more blank name space triggers'
  obtain ⟨middleText, frontLaid, lastLaid⟩ := (laid.anew inner triggers').split
  cases lastLaid with
  | cons read later =>
      cases later
      have other : terminal ≠ .dot := by
        rintro rfl
        have unfinished := value?_of_dot member lexeme
        exact Option.some_ne_none _ (finished.symm.trans unfinished)
      obtain rfl : middleText = lexeme := by
        have whole := Terminal.scan_eq_append read
        rwa [List.append_nil] at whole
      have longer : terminal.scan triggers' (middleText ++ (gap ++ more)) =
          some (middleText ++ gap, more) :=
        scan_gap (known_of_move member) other read blank name space
      have frontLonger := frontLaid.onward
        (fun token member => Terminal.isWithin_of_isInner
          (inner token (List.mem_append_left _ member)))
        (gap ++ more)
        (fun token member looks => by
          rw [near token (List.mem_append_left _ member)] at looks
          cases looks)
        (fun empty => absurd empty (Terminal.lexeme_ne_nil read))
      exact frontLonger.append (.cons longer (.nil _))

theorem exists_laid_gap {triggers : Triggers} {text more : List Char}
    {tokens : List Token} {value : Pattern} {height : Nat}
    (laid : Laid triggers text tokens [])
    (measures : language.Measures tokens value height) (blank : Spaces gap)
    (name : notAhead isNameChar (gap ++ more) = true)
    (space : notAhead isSpace more = true) (triggers' : Triggers) :
    ∃ tokens', Laid triggers' (text ++ (gap ++ more)) tokens' more ∧
      language.Measures tokens' value height := by
  obtain ⟨front, terminal, lexeme, rfl, longer⟩ := exists_last_laid laid measures
  exact ⟨_, longer blank name space triggers', measures_gap blank measures⟩

theorem beginsVisibly_of_laid {triggers : Triggers} {text : List Char}
    {tokens : List Token} {value : Pattern} {height : Nat}
    (laid : Laid triggers text tokens [])
    (measures : language.Measures tokens value height) :
    Expr.BeginsVisibly text := by
  obtain ⟨final, path, finished, _⟩ := measures
  cases path with
  | nil => cases finished
  | cons lexeme member _ =>
      cases laid with
      | cons read _ =>
          obtain ⟨c, others, split, begins⟩ :=
            head_of_scan (known_of_move member) read
          exact ⟨c, others, split, (beginsWith_visible begins).1⟩

end Pattern

end TemplateSyntax
