import TemplateSyntax.Proofs.Expr.Lookahead
import TemplateSyntax.Proofs.Item.Recognition
import TemplateSyntax.Proofs.Pattern.Lookahead

/-!
# Looking ahead in lines

Between items the first two characters of the text ahead tell what follows, and
behind the opening of a directive the name that stands there.  Inside an
expression or a pattern their own rules decide, except where they can end: there
the first character that is not blank tells whether they do (`State.ahead`).
-/

namespace TemplateSyntax.Item

open Scan

variable {triggers : Triggers} {text lexeme rest : List Char}

/-! ### Between items -/

def textAhead (triggers : Triggers) : List Char → Terminal
  | [] => .literal
  | c :: rest =>
      if c = triggers.control then
        if rest.head? = some '{' then .controlOpen
        else if rest.head? = some '\\' then .controlEscape
        else .controlBare
      else if c = triggers.value then
        if rest.head? = some '{' then .valueOpen
        else if rest.head? = some '\\' then .valueEscape
        else if atLineEnd rest then .valueAtLineEnd
        else .valueBare
      else .literal

theorem head_of_atLineEnd (ending : atLineEnd text = true) :
    text.head? ≠ some '{' ∧ text.head? ≠ some '\\' := by
  cases text with
  | nil => simp
  | cons c tail =>
      have lineBreak : c = '\r' ∨ c = '\n' := by
        simpa [atLineEnd] using ending
      rcases lineBreak with rfl | rfl <;> simp

theorem head_of_notAhead
    (bare : notAhead (fun c => c = '\\' || c = '{') text = true) :
    text.head? ≠ some '{' ∧ text.head? ≠ some '\\' := by
  cases text with
  | nil => simp
  | cons c tail =>
      have other : c ≠ '\\' ∧ c ≠ '{' := by
        simpa [notAhead] using bare
      simp [other.1, other.2]

theorem notAhead_of_head (noEscape : text.head? ≠ some '\\')
    (noBrace : text.head? ≠ some '{') :
    notAhead (fun c => c = '\\' || c = '{') text = true := by
  cases text with
  | nil => rfl
  | cons c tail =>
      simp only [List.head?_cons, ne_eq, Option.some.injEq] at noEscape noBrace
      simp [notAhead, noEscape, noBrace]

theorem eq_textAhead {items : List Item} {terminal : Terminal}
    {next : List Char → State}
    (member : (terminal, next) ∈ State.textMoves items)
    (read : terminal.scan triggers text = some (lexeme, rest)) :
    terminal = textAhead triggers text := by
  have valueNe : triggers.value ≠ triggers.control :=
    triggers.control_ne_value.symm
  simp only [State.textMoves, State.literalMove, List.mem_cons,
    Prod.mk.injEq, List.not_mem_nil, or_false] at member
  rcases member with
    ⟨rfl, _⟩ | ⟨rfl, _⟩ | ⟨rfl, _⟩ | ⟨rfl, _⟩ | ⟨rfl, _⟩ | ⟨rfl, _⟩ |
      ⟨rfl, _⟩ | ⟨rfl, _⟩
  · obtain ⟨c, tail, rfl, plain, _, _⟩ := some1_eq_some_iff.mp read
    have other : c ≠ triggers.control ∧ c ≠ triggers.value := by
      simpa using plain
    simp [textAhead, other.1, other.2]
  · obtain ⟨_, rfl⟩ := word_eq_some_iff.mp read
    simp [textAhead, valueNe]
  · obtain ⟨_, rfl⟩ := word_eq_some_iff.mp read
    simp [textAhead, valueNe]
  · obtain ⟨trigger, ending⟩ := before_eq_some_iff.mp read
    obtain ⟨_, rfl⟩ := char_eq_some_iff.mp trigger
    obtain ⟨notBrace, notEscape⟩ := head_of_atLineEnd ending
    simp [textAhead, valueNe, notBrace, notEscape, ending]
  · obtain ⟨trigger, behind⟩ := before_eq_some_iff.mp read
    obtain ⟨_, rfl⟩ := char_eq_some_iff.mp trigger
    rw [Bool.and_eq_true, Bool.not_eq_true'] at behind
    obtain ⟨notBrace, notEscape⟩ := head_of_notAhead behind.2
    simp [textAhead, valueNe, notBrace, notEscape, behind.1]
  · obtain ⟨_, _, escape⟩ := exists_of_andThen read
    obtain ⟨_, rfl⟩ := word_eq_some_iff.mp escape
    simp [textAhead]
  · obtain ⟨_, _, bare⟩ := exists_of_andThen read
    obtain ⟨trigger, behind⟩ := before_eq_some_iff.mp bare
    obtain ⟨_, rfl⟩ := char_eq_some_iff.mp trigger
    obtain ⟨notBrace, notEscape⟩ := head_of_notAhead behind
    simp [textAhead, notBrace, notEscape]
  · have opening : (word [triggers.control, '{']).andThen
        (many Unicode.isBlank) text = some (lexeme, rest) := read
    obtain ⟨_, _, sign⟩ := exists_of_andThen opening
    obtain ⟨_, rfl⟩ := word_eq_some_iff.mp sign
    simp [textAhead]

/-! ### Keywords -/

/-- The keyword of a given spelling. -/
def keywordNamed? (name : List Char) : Option Keyword :=
  [.forallStart, .forallEnd, .ifStart, .elseIf, .otherwise, .ifEnd, .caseStart,
    .caseOf, .caseEnd].find? fun (word : Keyword) => word.spelling.toList = name

theorem keywordNamed?_spelling (word : Keyword) :
    keywordNamed? word.spelling.toList = some word := by
  cases word <;> decide

/-- The keyword a text begins with; a name that is no keyword is as good as
any, because no keyword is read there. -/
def keywordAhead (text : List Char) : Terminal :=
  .keyword ((keywordNamed? (text.takeWhile isNameChar)).getD .otherwise)

theorem takeWhile_of_keyword {word : Keyword}
    (read : Scan.keyword word text = some (lexeme, rest)) :
    text.takeWhile isNameChar = word.spelling.toList := by
  have plain : ∃ front back, (Scan.word word.spelling.toList).before
      (notAhead isNameChar) text = some (front, back) := by
    rw [Scan.keyword] at read
    split at read
    · exact exists_of_andThen read
    · exact ⟨_, _, read⟩
  obtain ⟨_, back, found⟩ := plain
  obtain ⟨spelled, stops⟩ := before_eq_some_iff.mp found
  obtain ⟨_, rfl⟩ := word_eq_some_iff.mp spelled
  have letters : ∀ c ∈ word.spelling.toList, isNameChar c = true := by
    have checked : word.spelling.toList.all isNameChar = true := by
      cases word <;> decide
    exact List.all_eq_true.mp checked
  have behind : back.takeWhile isNameChar = [] := by
    cases back with
    | nil => rfl
    | cons c tail =>
        have other : isNameChar c = false := by
          simpa [notAhead] using stops
        simp [other]
  rw [List.takeWhile_append_of_pos letters, behind, List.append_nil]

theorem eq_keywordAhead {items : List Item} {terminal : Terminal}
    {next : List Char → State}
    (member : (terminal, next) ∈ State.keywordMoves items)
    (read : terminal.scan triggers text = some (lexeme, rest)) :
    terminal = keywordAhead text := by
  obtain ⟨word, _, moveEq⟩ := List.mem_map.mp member
  obtain ⟨rfl, _⟩ := Prod.mk.inj moveEq
  rw [keywordAhead, takeWhile_of_keyword read, keywordNamed?_spelling]
  rfl

/-! ### Inside expressions and patterns -/

def PatternUse.closer : PatternUse → Terminal
  | .forallStart => .arrow
  | .caseOf => .controlClose

theorem visible_of_controlClose
    (read : Terminal.controlClose.scan triggers text = some (lexeme, rest)) :
    visible text = some '}' := by
  obtain ⟨_, _, closing⟩ := exists_of_andThen read
  exact visible_of_blanksThen (fun _ blank => blank) (by decide) head_of_char
    closing

theorem visible_of_exprCloser {use : ExprUse}
    (read : use.closer.scan triggers text = some (lexeme, rest)) :
    visible text = some '}' := by
  cases use with
  | value =>
      exact visible_of_blanksThen isBlank_of_isSpaceOrTab (by decide)
        head_of_char read
  | ifStart | elseIf | caseStart | forallStart =>
      exact visible_of_controlClose read

theorem visible_of_patternCloser {use : PatternUse}
    (read : use.closer.scan triggers text = some (lexeme, rest)) :
    visible text = some '}' ∨ visible text = some '<' := by
  cases use with
  | forallStart =>
      right
      refine visible_of_blanksThen (fun _ blank => blank) (by decide) ?_ read
      intro text lexeme rest found
      obtain ⟨_, _, sign⟩ := exists_of_andThen found
      obtain ⟨_, rfl⟩ := word_eq_some_iff.mp sign
      rfl
  | caseOf => exact .inl (visible_of_controlClose read)

namespace State

/-- The terminal that can follow in a state, by the text ahead. -/
def ahead (triggers : Triggers) (state : State) (text : List Char) :
    Terminal :=
  match state.place with
  | .text => textAhead triggers text
  | .directive => keywordAhead text
  | .expr use inner =>
      if inner.value?.isSome ∧ visible text = some '}' then use.closer
      else inner.ahead text
  | .pattern use inner =>
      if inner.value?.isSome ∧
          (visible text = some '}' ∨ visible text = some '<') then use.closer
      else inner.ahead text
  | .bare _ => .controlClose

end State

/-- Some move leads on from every live place in an incomplete line. -/
abbrev Advancing : Triggers → (State → List Char → Prop) → Prop :=
  Language.Advancing language

namespace Advancing

variable {live : State → List Char → Prop} {items : List Item}
  {terminal : Terminal} {next : List Char → State}

theorem within_expr (advancing : Advancing triggers live) (items : List Item)
    (use : ExprUse) :
    Expr.Advancing triggers
      fun inner text => live ⟨items, .expr use inner⟩ text := by
  intro inner text alive unfinished
  obtain ⟨terminal, next, lexeme, rest, member, read, later⟩ :=
    advancing _ _ alive rfl
  have none : inner.value? = none := unfinished
  simp only [language, State.moves, none, State.exprEnds,
    List.append_nil] at member
  obtain ⟨innerNext, innerMember, rfl⟩ := exists_of_mem_within member
  exact ⟨terminal, innerNext, lexeme, rest, innerMember, read, later⟩

theorem within_pattern (advancing : Advancing triggers live)
    (items : List Item) (use : PatternUse) :
    Pattern.Advancing triggers
      fun inner text => live ⟨items, .pattern use inner⟩ text := by
  intro inner text alive unfinished
  obtain ⟨terminal, next, lexeme, rest, member, read, later⟩ :=
    advancing _ _ alive rfl
  have none : inner.value? = none := unfinished
  simp only [language, State.moves, none, State.patternEnds,
    List.append_nil] at member
  obtain ⟨innerNext, innerMember, rfl⟩ := exists_of_mem_within member
  exact ⟨terminal, innerNext, lexeme, rest, innerMember, read, later⟩

/-- From every place, only the terminal the text ahead calls for leads to a
live place. -/
theorem terminal_eq_ahead (advancing : Advancing triggers live) {state : State}
    (member : (terminal, next) ∈ state.moves)
    (read : terminal.scan triggers text = some (lexeme, rest))
    (alive : terminal.readsBrace = false → live (next lexeme) rest) :
    terminal = state.ahead triggers text := by
  obtain ⟨items, place⟩ := state
  cases place with
  | text => exact eq_textAhead member read
  | directive => exact eq_keywordAhead member read
  | expr use inner =>
      rcases List.mem_append.mp member with inside | ending
      · obtain ⟨innerNext, innerMember, rfl⟩ := exists_of_mem_within inside
        have innerAdvancing := advancing.within_expr items use
        have terminalEq :=
          innerAdvancing.terminal_eq_ahead innerMember read alive
        have stays : ¬(inner.value?.isSome = true ∧
            visible text = some '}') := by
          rintro ⟨finished, closing⟩
          obtain ⟨value, valueEq⟩ := Option.isSome_iff_exists.mp finished
          exact innerAdvancing.visible_of_value valueEq innerMember read alive
            closing
        exact terminalEq.trans (if_neg stays).symm
      · cases finished : inner.value? with
        | none => simp [State.exprEnds, finished] at ending
        | some value =>
            simp only [State.exprEnds, finished, List.mem_singleton,
              Prod.mk.injEq] at ending
            obtain ⟨rfl, _⟩ := ending
            simp [State.ahead, finished, visible_of_exprCloser read]
  | pattern use inner =>
      rcases List.mem_append.mp member with inside | ending
      · obtain ⟨innerNext, innerMember, rfl⟩ := exists_of_mem_within inside
        have terminalEq := (advancing.within_pattern items use).terminal_eq_ahead
          innerMember read alive
        have stays : ¬(inner.value?.isSome = true ∧
            (visible text = some '}' ∨ visible text = some '<')) := by
          rintro ⟨finished, closing⟩
          obtain ⟨value, valueEq⟩ := Option.isSome_iff_exists.mp finished
          obtain ⟨notBrace, notSign⟩ :=
            Pattern.State.visible_of_value valueEq innerMember read
          exact closing.elim notBrace notSign
        exact terminalEq.trans (if_neg stays).symm
      · cases finished : inner.value? with
        | none => simp [State.patternEnds, finished] at ending
        | some value =>
            have terminalEq : terminal = use.closer := by
              cases use <;>
                simp only [State.patternEnds, finished, List.mem_singleton,
                  Prod.mk.injEq] at ending <;>
                exact ending.1
            subst terminalEq
            simp [State.ahead, finished, visible_of_patternCloser read]
  | bare item =>
      exact (Prod.mk.inj (List.mem_singleton.mp member)).1

end Advancing

/-! ### Texts that are lines -/

theorem expected_within {σ : Type} (moves : Moves σ) (items : List Item)
    (place : σ → Place) :
    (State.within items place moves).map Prod.fst = moves.map Prod.fst := by
  rw [State.within, List.map_map]
  rfl

theorem nodup_append_of_cons {first : Terminal} {others ends : List Terminal}
    (all : (first :: others).Nodup) (ending : ends.Sublist [first]) :
    (others ++ ends).Nodup := by
  have swapped : (others ++ [first]).Nodup :=
    (List.perm_append_singleton first others).nodup_iff.mpr all
  exact swapped.sublist ((List.Sublist.refl others).append ending)

theorem language_distinct : language.Distinct := by
  rintro ⟨items, place⟩
  rw [Language.expected]
  cases place with
  | text => simp [language, State.moves, State.textMoves, State.literalMove]
  | directive => simp [language, State.moves, State.keywordMoves]
  | expr use inner =>
      have inside := Expr.expected_nodup inner
      have short := inside.sublist ((List.sublist_cons_self _ _).cons_cons _)
      have ends : ((State.exprEnds items use inner.value?).map Prod.fst).Sublist
          [use.closer] := by
        cases inner.value? <;> simp [State.exprEnds]
      simp only [language, State.moves, List.map_append, expected_within]
      cases use with
      | value => exact nodup_append_of_cons short ends
      | ifStart | elseIf | caseStart | forallStart =>
          exact nodup_append_of_cons inside.of_cons ends
  | pattern use inner =>
      have inside := Pattern.expected_nodup inner
      have short := inside.sublist ((List.sublist_cons_self _ _).cons_cons _)
      have ends :
          ((State.patternEnds items use inner.value?).map Prod.fst).Sublist
            [use.closer] := by
        cases inner.value? <;> cases use <;>
          simp [State.patternEnds, PatternUse.closer]
      simp only [language, State.moves, List.map_append, expected_within]
      cases use with
      | forallStart => exact nodup_append_of_cons short ends
      | caseOf => exact nodup_append_of_cons inside.of_cons ends
  | bare item => simp [language, State.moves]

theorem language_foresees (triggers : Triggers) :
    language.Foresees triggers (State.ahead triggers) := by
  intro live advancing state text terminal next lexeme rest member read alive
  exact Advancing.terminal_eq_ahead advancing member read alive

end TemplateSyntax.Item
