import TemplateSyntax.Pattern.Reading
import TemplateSyntax.Proofs.Reading.Lookahead
import TemplateSyntax.Proofs.Terminal.Lookahead

/-!
# Looking ahead in patterns

The first character of the text ahead tells which terminal can follow in a
pattern (`State.ahead`), except that a parenthesis around an operator is part of
a constructor's name.  As for expressions, the lemmas are about any notion of a
live place, because the pattern may stand inside a line.
-/

namespace TemplateSyntax.Pattern

open Scan

/-! ### How terminals begin -/

def partTerminals : List Terminal :=
  [.variableWord, .capitalWord, .operatorConstructor, .patternOpenParen,
    .patternOpenBracket]

/-- The terminals that go on from a name. -/
def nameTerminals : List Terminal :=
  [.asSign, .dot, .openBrace, .capitalWord, .operatorConstructor]

/-- The terminals that end an item or a field. -/
def closingTerminals : List Terminal :=
  [.patternComma, .patternCloseParen, .patternCloseBracket, .closeBrace]

def fieldTerminals : List Terminal :=
  [.variableWord, .capitalWord, .operatorConstructor, .wildcard, .equals,
    .patternComma, .closeBrace]

abbrev allTerminals : List Terminal :=
  partTerminals ++ nameTerminals ++ closingTerminals ++ fieldTerminals

/-- The terminal can begin with the character. -/
def beginsWith (terminal : Terminal) (c : Char) : Bool :=
  match terminal with
  | .variableWord => isVariableStart c
  | .capitalWord => Unicode.isCapitalLetter c
  | .operatorConstructor | .patternOpenParen => c = '('
  | .patternCloseParen => c = ')'
  | .patternOpenBracket => c = '['
  | .patternCloseBracket => c = ']'
  | .openBrace => c = '{'
  | .closeBrace => c = '}'
  | .patternComma => c = ','
  | .asSign => c = '@'
  | .equals => c = '='
  | .dot | .wildcard => c = '.'
  | _ => false

theorem head_of_spaced {expected : Char} {text lexeme rest : List Char}
    (read : spaced (char expected) text = some (lexeme, rest)) :
    ∃ tail, text = expected :: tail := by
  obtain ⟨_, tail, first, _⟩ := exists_of_spaced read
  obtain ⟨_, rfl⟩ := char_eq_some_iff.mp first
  exact ⟨tail, rfl⟩

theorem head_of_word {start : Char → Bool} {text lexeme rest : List Char}
    (read : spaced ((one start).andThen (many isNameChar)) text =
      some (lexeme, rest)) :
    ∃ c tail, text = c :: tail ∧ start c = true := by
  obtain ⟨_, _, name, _⟩ := exists_of_spaced read
  obtain ⟨_, tail, first⟩ := exists_of_andThen name
  obtain ⟨c, starts, _, rfl⟩ := one_eq_some_iff.mp first
  exact ⟨c, tail, rfl, starts⟩

theorem head_of_scan {triggers : Triggers} {terminal : Terminal}
    {text lexeme rest : List Char} (known : terminal ∈ allTerminals)
    (read : terminal.scan triggers text = some (lexeme, rest)) :
    ∃ c tail, text = c :: tail ∧ beginsWith terminal c = true := by
  have sign {expected : Char} (begins : beginsWith terminal expected = true)
      (found : spaced (char expected) text = some (lexeme, rest)) :
      ∃ c tail, text = c :: tail ∧ beginsWith terminal c = true := by
    obtain ⟨tail, textEq⟩ := head_of_spaced found
    exact ⟨expected, tail, textEq, begins⟩
  cases terminal with
  | variableWord => exact head_of_word read
  | capitalWord => exact head_of_word read
  | operatorConstructor =>
      obtain ⟨_, _, name, _⟩ := exists_of_spaced read
      obtain ⟨c, tail, rfl, _, _⟩ := exists_of_parenthesisedOperator name
      exact ⟨'(', c :: tail, rfl, by decide⟩
  | wildcard =>
      obtain ⟨_, _, dots, _⟩ := exists_of_spaced read
      obtain ⟨_, rfl⟩ := word_eq_some_iff.mp dots
      exact ⟨'.', _, rfl, by decide⟩
  | dot =>
      obtain ⟨_, rfl⟩ := char_eq_some_iff.mp read
      exact ⟨'.', rest, rfl, by decide⟩
  | asSign => exact sign (by decide) read
  | equals => exact sign (by decide) read
  | patternComma => exact sign (by decide) read
  | patternOpenParen => exact sign (by decide) read
  | patternCloseParen => exact sign (by decide) read
  | patternOpenBracket => exact sign (by decide) read
  | patternCloseBracket => exact sign (by decide) read
  | openBrace => exact sign (by decide) read
  | closeBrace => exact sign (by decide) read
  | _ =>
      simp [allTerminals, partTerminals, nameTerminals, closingTerminals,
        fieldTerminals] at known

/-- The terminal a pattern goes on with, by the text ahead; `point` is the one
that begins with a dot. -/
def terminalAhead (point : Terminal) : List Char → Terminal
  | [] => point
  | c :: rest =>
      if c = '(' then
        if (parenthesisedOperator (c :: rest)).isSome then
          .operatorConstructor
        else .patternOpenParen
      else if c = ')' then .patternCloseParen
      else if c = '[' then .patternOpenBracket
      else if c = ']' then .patternCloseBracket
      else if c = '{' then .openBrace
      else if c = '}' then .closeBrace
      else if c = ',' then .patternComma
      else if c = '@' then .asSign
      else if c = '=' then .equals
      else if c = '.' then point
      else if Unicode.isCapitalLetter c then .capitalWord
      else .variableWord

theorem terminalAhead_of_name {c : Char} (name : c ∉ marks) (point : Terminal)
    (rest : List Char) :
    terminalAhead point (c :: rest) =
      if Unicode.isCapitalLetter c then .capitalWord else .variableWord := by
  have other : ∀ mark ∈ marks, c ≠ mark := by
    rintro mark member rfl
    exact name member
  simp [terminalAhead, other '(' (by decide), other ')' (by decide),
    other '[' (by decide), other ']' (by decide), other '\x7b' (by decide),
    other '\x7d' (by decide), other ',' (by decide), other '@' (by decide),
    other '=' (by decide), other '.' (by decide)]

theorem eq_terminalAhead {triggers : Triggers} {terminal point : Terminal}
    {text lexeme rest : List Char} (known : terminal ∈ allTerminals)
    (dotted : terminal = .dot ∨ terminal = .wildcard → terminal = point)
    (read : terminal.scan triggers text = some (lexeme, rest))
    (named : (parenthesisedOperator text).isSome = true →
      terminal ≠ .patternOpenParen) :
    terminal = terminalAhead point text := by
  obtain ⟨c, tail, rfl, begins⟩ := head_of_scan known read
  cases terminal with
  | variableWord =>
      simp only [beginsWith, isVariableStart, Bool.and_eq_true,
        Bool.not_eq_true'] at begins
      obtain ⟨name, small⟩ := begins
      rw [terminalAhead_of_name (not_mem_marks_of_isNameChar name)]
      simp [small]
  | capitalWord =>
      rw [terminalAhead_of_name (not_mem_marks_of_isCapitalLetter begins)]
      exact (if_pos begins).symm
  | operatorConstructor =>
      obtain ⟨_, _, name, _⟩ := exists_of_spaced read
      obtain rfl : c = '(' := of_decide_eq_true begins
      simp [terminalAhead, name]
  | patternOpenParen =>
      obtain rfl : c = '(' := of_decide_eq_true begins
      have plain : ¬(parenthesisedOperator ('(' :: tail)).isSome = true :=
        fun found => named found rfl
      simp [terminalAhead, plain]
  | dot =>
      obtain rfl : c = '.' := of_decide_eq_true begins
      simpa [terminalAhead] using dotted
  | wildcard =>
      obtain rfl : c = '.' := of_decide_eq_true begins
      simpa [terminalAhead] using dotted
  | asSign | equals | patternComma | patternCloseParen | patternOpenBracket
  | patternCloseBracket | openBrace | closeBrace =>
      obtain rfl := of_decide_eq_true begins
      simp [terminalAhead]
  | _ =>
      simp [allTerminals, partTerminals, nameTerminals, closingTerminals,
        fieldTerminals] at known

theorem beginsWith_visible {terminal : Terminal} {c : Char}
    (begins : beginsWith terminal c = true) :
    Unicode.isBlank c = false ∧ c ≠ '<' ∧ (c = '}' → terminal = .closeBrace) := by
  have shown {name : Char} (outside : name ∉ marks)
      (bare : Unicode.isBlank name = false) :
      Unicode.isBlank name = false ∧ name ≠ '<' ∧
        (name = '}' → terminal = .closeBrace) := by
    refine ⟨bare, ?_, ?_⟩
    · rintro rfl
      exact outside (by decide)
    · rintro rfl
      exact absurd (by decide) outside
  cases terminal with
  | variableWord =>
      simp only [beginsWith, isVariableStart, Bool.and_eq_true,
        Bool.not_eq_true'] at begins
      refine shown (not_mem_marks_of_isNameChar begins.1) ?_
      rw [Bool.eq_false_iff]
      intro blank
      rw [isNameChar_of_isBlank blank] at begins
      exact absurd begins.1 (by decide)
  | capitalWord =>
      refine shown (not_mem_marks_of_isCapitalLetter begins) ?_
      rw [Bool.eq_false_iff]
      intro blank
      rw [beginsWith, Unicode.isCapitalLetter_of_isBlank blank] at begins
      cases begins
  | operatorConstructor | patternOpenParen | dot | wildcard | asSign | equals
  | patternComma | patternCloseParen | patternOpenBracket
  | patternCloseBracket | openBrace | closeBrace =>
      obtain rfl := of_decide_eq_true begins
      decide
  | _ => cases begins

namespace State

/-! ### What follows a place -/

/-- The terminal that can follow in a state, by the text ahead. -/
def ahead (state : State) (text : List Char) : Terminal :=
  match state with
  | .pattern _ _ _ => terminalAhead .dot text
  | .record _ _ _ => terminalAhead .wildcard text

variable {terminal : Terminal} {next : List Char → State} {clause : Clause}
  {frames : List Frame}

theorem mem_of_parts (member : (terminal, next) ∈ parts clause frames) :
    terminal ∈ partTerminals :=
  List.mem_map_of_mem (f := Prod.fst) member

theorem mem_of_emptyEnd (member : (terminal, next) ∈ emptyEnd frames) :
    terminal ∈ closingTerminals := by
  unfold emptyEnd at member
  split at member
  · obtain ⟨rfl, _⟩ := Prod.mk.inj (List.mem_singleton.mp member)
    decide
  · obtain ⟨rfl, _⟩ := Prod.mk.inj (List.mem_singleton.mp member)
    decide
  · cases member

theorem itemEnds_sublist (item : Pattern) (frames : List Frame) :
    ((itemEnds item frames).map Prod.fst).Sublist closingTerminals := by
  cases frames with
  | nil => exact List.nil_sublist _
  | cons frame frames => cases frame <;> simp [itemEnds, closingTerminals]

theorem mem_of_itemEnds {item : Pattern}
    (member : (terminal, next) ∈ itemEnds item frames) :
    terminal ∈ closingTerminals ∧ frames ≠ [] := by
  refine ⟨(itemEnds_sublist item frames).subset
    (List.mem_map_of_mem member), ?_⟩
  rintro rfl
  cases member

theorem mem_of_arguments {part : Pattern}
    (member : (terminal, next) ∈ arguments part clause frames) :
    ∃ clause, (terminal, next) ∈ parts clause frames := by
  unfold arguments at member
  split at member
  · cases member
  · exact ⟨_, member⟩

theorem mem_of_firstArguments {head : QualifiedName}
    (member : (terminal, next) ∈ firstArguments head clause frames) :
    ∃ clause, (terminal, next) ∈ parts clause frames := by
  unfold firstArguments at member
  split at member
  · exact ⟨_, member⟩
  · cases member

/-- The moves inside a pattern begin a part, go on from a name or end an item;
an item ends inside a bracket only. -/
theorem mem_of_moves {phase : Phase}
    (member : (terminal, next) ∈ moves (.pattern phase clause frames)) :
    (∃ clause, (terminal, next) ∈ parts clause frames) ∨
      terminal ∈ nameTerminals ∨
      (terminal ∈ closingTerminals ∧
        value? (.pattern phase clause frames) = none) := by
  have ends {part : Pattern}
      (going : (terminal, next) ∈ continuations part clause frames) :
      (∃ clause, (terminal, next) ∈ parts clause frames) ∨
        (terminal ∈ closingTerminals ∧ frames ≠ []) := by
    rcases List.mem_append.mp going with argument | ending
    · exact .inl (mem_of_arguments argument)
    · exact .inr (mem_of_itemEnds ending)
  have unfinished {phase : Phase} (inside : frames ≠ []) :
      value? (.pattern phase clause frames) = none := by
    cases frames with
    | nil => exact absurd rfl inside
    | cons frame frames => cases phase <;> rfl
  cases phase with
  | start => exact .inl ⟨clause, member⟩
  | opened =>
      rcases List.mem_append.mp member with part | ending
      · exact .inl ⟨clause, part⟩
      · exact .inr (.inr ⟨mem_of_emptyEnd ending, rfl⟩)
  | var name =>
      rcases List.mem_cons.mp member with sign | going
      · obtain ⟨rfl, _⟩ := Prod.mk.inj sign
        exact .inr (.inl (by decide))
      · rcases ends going with part | ⟨closing, inside⟩
        · exact .inl part
        · exact .inr (.inr ⟨closing, unfinished inside⟩)
  | pieces names =>
      simp only [moves, List.mem_cons, List.mem_append] at member
      rcases member with dot | brace | first | going
      · obtain ⟨rfl, _⟩ := Prod.mk.inj dot
        exact .inr (.inl (by decide))
      · obtain ⟨rfl, _⟩ := Prod.mk.inj brace
        exact .inr (.inl (by decide))
      · exact .inl (mem_of_firstArguments first)
      · rcases ends going with part | ⟨closing, inside⟩
        · exact .inl part
        · exact .inr (.inr ⟨closing, unfinished inside⟩)
  | piece names =>
      simp only [moves, List.mem_cons, List.not_mem_nil, or_false] at member
      rcases member with word | operator
      · obtain ⟨rfl, _⟩ := Prod.mk.inj word
        exact .inr (.inl (by decide))
      · obtain ⟨rfl, _⟩ := Prod.mk.inj operator
        exact .inr (.inl (by decide))
  | after part =>
      rcases ends member with part | ⟨closing, inside⟩
      · exact .inl part
      · exact .inr (.inr ⟨closing, unfinished inside⟩)

theorem mem_of_record_moves {phase : FieldPhase} {current : OpenRecord}
    (member : (terminal, next) ∈ moves (.record phase current frames)) :
    terminal ∈ fieldTerminals := by
  have within :
      (moves (.record phase current frames)).map Prod.fst ⊆ fieldTerminals := by
    cases phase <;> simp [moves, fieldNames, recordEnd, fieldTerminals]
  exact within (List.mem_map_of_mem member)

/-- Where a pattern can end, it does not go on with a closing brace or an
arrow, with or without blanks in front. -/
theorem visible_of_value {triggers : Triggers} {state : State}
    {text lexeme rest : List Char} {value : Pattern}
    (finished : state.value? = some value)
    (member : (terminal, next) ∈ state.moves)
    (read : terminal.scan triggers text = some (lexeme, rest)) :
    visible text ≠ some '}' ∧ visible text ≠ some '<' := by
  have going : terminal ∈ partTerminals ++ nameTerminals := by
    cases state with
    | pattern phase clause frames =>
        rcases mem_of_moves member with ⟨_, part⟩ | name | ⟨_, unfinished⟩
        · exact List.mem_append_left _ (mem_of_parts part)
        · exact List.mem_append_right _ name
        · rw [unfinished] at finished
          cases finished
    | record phase current frames => cases finished
  have known : terminal ∈ allTerminals := by
    simp only [List.append_assoc] at going ⊢
    rcases List.mem_append.mp going with part | name
    · simp [part]
    · simp [name]
  obtain ⟨c, tail, rfl, begins⟩ := head_of_scan known read
  obtain ⟨bare, notSign, brace⟩ := beginsWith_visible begins
  rw [visible_cons bare]
  refine ⟨?_, by simpa using notSign⟩
  intro closing
  obtain rfl := brace (Option.some.inj closing)
  exact absurd going (by decide)

end State

/-- Some move leads on from every live place in an incomplete pattern. -/
abbrev Advancing : Triggers → (State → List Char → Prop) → Prop :=
  Language.Advancing language

namespace Advancing

variable {triggers : Triggers} {live : State → List Char → Prop}
  {terminal : Terminal} {next : List Char → State}
  {text lexeme rest : List Char}

theorem not_opened_of_operator (advancing : Advancing triggers live)
    {items : List Pattern} {outer : Clause} {frames : List Frame} {c : Char}
    {tail : List Char} (operator : isOperatorChar c = true) :
    ¬live (.pattern .opened .empty (.tuple items outer :: frames))
      (c :: tail) := by
  intro alive
  obtain ⟨terminal, _, _, _, member, read, _⟩ := advancing _ _ alive rfl
  have first : terminal ∈ partTerminals ∨ terminal = .patternCloseParen := by
    rcases List.mem_append.mp member with part | ending
    · exact .inl (State.mem_of_parts part)
    · cases items with
      | nil => exact .inr (Prod.mk.inj (List.mem_singleton.mp ending)).1
      | cons => cases ending
  have known : terminal ∈ allTerminals := by
    rcases first with part | rfl
    · simp [part]
    · decide
  obtain ⟨_, _, textEq, begins⟩ := head_of_scan known read
  cases textEq
  have mark := mem_marks_of_isOperatorChar operator
  have notBracket {bracket : Char}
      (outside : isOperatorChar bracket = false) : c ≠ bracket := by
    rintro rfl
    rw [operator] at outside
    cases outside
  simp only [partTerminals, List.mem_cons, List.not_mem_nil, or_false] at first
  rcases first with (rfl | rfl | rfl | rfl | rfl) | rfl
  · have name := (Bool.and_eq_true_iff.mp begins).1
    exact not_mem_marks_of_isNameChar name mark
  · exact not_mem_marks_of_isCapitalLetter begins mark
  · exact notBracket (by decide) (of_decide_eq_true begins)
  · exact notBracket (by decide) (of_decide_eq_true begins)
  · exact notBracket (by decide) (of_decide_eq_true begins)
  · exact notBracket (by decide) (of_decide_eq_true begins)

/-- A parenthesis that opens a tuple is not the beginning of a constructor's
name. -/
theorem not_openParen_of_operator (advancing : Advancing triggers live)
    {clause : Clause} {frames : List Frame}
    (member : (terminal, next) ∈ State.parts clause frames)
    (read : terminal.scan triggers text = some (lexeme, rest))
    (alive : terminal.readsBrace = false → live (next lexeme) rest)
    (named : (parenthesisedOperator text).isSome = true) :
    terminal ≠ .patternOpenParen := by
  rintro rfl
  have nextEq : next = fun _ =>
      .pattern .opened .empty (.tuple [] clause :: frames) := by
    simpa [State.parts] using member
  subst nextEq
  obtain ⟨_, found⟩ := Option.isSome_iff_exists.mp named
  obtain ⟨c, tail, rfl, operator, _⟩ := exists_of_parenthesisedOperator found
  obtain ⟨_, _, opening, restEq⟩ := exists_of_spaced read
  obtain ⟨_, middleEq⟩ := char_eq_some_iff.mp opening
  cases middleEq
  have solid : ¬isSpace c = true := by
    intro space
    have blank := isBlank_of_isSpace c space
    rw [isBlank_of_isOperatorChar operator] at blank
    cases blank
  rw [List.dropWhile_cons_of_neg solid] at restEq
  subst restEq
  exact advancing.not_opened_of_operator operator (alive rfl)

/-- From every place, only the terminal the text ahead calls for leads to a
live place. -/
theorem terminal_eq_ahead (advancing : Advancing triggers live) {state : State}
    (member : (terminal, next) ∈ state.moves)
    (read : terminal.scan triggers text = some (lexeme, rest))
    (alive : terminal.readsBrace = false → live (next lexeme) rest) :
    terminal = state.ahead text := by
  cases state with
  | pattern phase clause frames =>
      rcases State.mem_of_moves member with ⟨inner, part⟩ | name | ⟨closing, _⟩
      · have known := State.mem_of_parts part
        refine eq_terminalAhead (by simp [known]) ?_ read
          (advancing.not_openParen_of_operator part read alive)
        rintro (rfl | rfl)
        · rfl
        · exact absurd known (by decide)
      · refine eq_terminalAhead (by simp [name]) ?_ read ?_
        · rintro (rfl | rfl)
          · rfl
          · exact absurd name (by decide)
        · rintro _ rfl
          exact absurd name (by decide)
      · refine eq_terminalAhead (by simp [closing]) ?_ read ?_
        · rintro (rfl | rfl)
          · rfl
          · exact absurd closing (by decide)
        · rintro _ rfl
          exact absurd closing (by decide)
  | record phase current frames =>
      have field := State.mem_of_record_moves member
      refine eq_terminalAhead (by simp [field]) ?_ read ?_
      · rintro (rfl | rfl)
        · exact absurd field (by decide)
        · rfl
      · rintro _ rfl
        exact absurd field (by decide)

end Advancing

/-! ### Texts that are patterns -/

theorem arguments_sublist (head : QualifiedName) (part : Pattern)
    (clause : Clause) (frames : List Frame) :
    ((State.firstArguments head clause frames ++
      State.arguments part clause frames).map Prod.fst).Sublist
      partTerminals := by
  obtain ⟨function, aliases⟩ := clause
  cases function with
  | none =>
      cases aliases with
      | nil => exact List.Sublist.refl _
      | cons => exact List.nil_sublist _
  | some function => exact List.Sublist.refl _

theorem continuations_sublist (part : Pattern) (clause : Clause)
    (frames : List Frame) :
    ((State.continuations part clause frames).map Prod.fst).Sublist
      (partTerminals ++ closingTerminals) := by
  have arguments := arguments_sublist ⟨[], ""⟩ part clause frames
  rw [List.map_append] at arguments
  rw [State.continuations, List.map_append]
  exact ((List.sublist_append_right _ _).trans arguments).append
    (State.itemEnds_sublist _ frames)

theorem expected_sublist (phase : Phase) (clause : Clause)
    (frames : List Frame) :
    (language.expected (.pattern phase clause frames)).Sublist
      (.asSign :: .dot :: .openBrace ::
        (partTerminals ++ closingTerminals)) := by
  rw [Language.expected]
  cases phase with
  | start =>
      exact .cons _ (.cons _ (.cons _ (List.sublist_append_left _ _)))
  | opened =>
      refine .cons _ (.cons _ (.cons _ ?_))
      have closing : ((State.emptyEnd frames).map Prod.fst).Sublist
          closingTerminals := by
        unfold State.emptyEnd
        split <;> simp [closingTerminals]
      have parts : (State.parts clause frames).map Prod.fst = partTerminals :=
        rfl
      change ((State.parts clause frames ++ State.emptyEnd frames).map
        Prod.fst).Sublist _
      rw [List.map_append, parts]
      exact (List.Sublist.refl _).append closing
  | var name =>
      exact .cons_cons _ (.cons _ (.cons _ (continuations_sublist _ _ _)))
  | pieces names =>
      refine .cons _ (.cons_cons _ (.cons_cons _ ?_))
      have arguments := arguments_sublist (constructorName names)
        (.construct (constructorName names) []) clause frames
      simpa [State.continuations] using
        arguments.append (State.itemEnds_sublist _ frames)
  | piece names =>
      exact .cons _ (.cons _ (.cons _ (.cons _ (.cons_cons _ (.cons_cons _
        (List.nil_sublist _))))))
  | after part =>
      exact .cons _ (.cons _ (.cons _ (continuations_sublist _ _ _)))

/-- No two moves read the same terminal, and none reads one of those that can
follow a pattern. -/
theorem expected_nodup (state : State) :
    (.arrow :: .controlClose :: language.expected state).Nodup := by
  cases state with
  | pattern phase clause frames =>
      have all : (.arrow :: .controlClose :: .asSign :: .dot :: .openBrace ::
          (partTerminals ++ closingTerminals) : List Terminal).Nodup := by
        decide
      exact all.sublist (((expected_sublist phase clause frames).cons_cons
        _).cons_cons _)
  | record phase current frames =>
      simp only [Language.expected, language]
      cases phase <;> simp [State.moves, State.fieldNames, State.recordEnd]

theorem language_distinct : language.Distinct :=
  fun state => (expected_nodup state).of_cons.of_cons

theorem terminal_ne_number {state : State} {terminal : Terminal}
    {next : List Char → State}
    (member : (terminal, next) ∈ language.moves state) :
    terminal ≠ .number := by
  rintro rfl
  cases state with
  | pattern phase clause frames =>
      rcases State.mem_of_moves member with ⟨_, part⟩ | name | ⟨closing, _⟩
      · exact absurd (State.mem_of_parts part) (by decide)
      · exact absurd name (by decide)
      · exact absurd closing (by decide)
  | record phase current frames =>
      exact absurd (State.mem_of_record_moves member) (by decide)

theorem error?_of_path {state final : State} {tokens : List Token}
    (path : language.Path state tokens final) :
    ∀ token ∈ tokens, token.error? = none := by
  intro token member
  have other : token.terminal ≠ .number :=
    path.forall_terminal (fun _ _ _ => terminal_ne_number) token member
  rw [Token.error?, if_neg other]

theorem language_foresees (triggers : Triggers) :
    language.Foresees triggers State.ahead := by
  intro live advancing state text terminal next lexeme rest member read alive
  exact Advancing.terminal_eq_ahead advancing member read alive

end TemplateSyntax.Pattern
