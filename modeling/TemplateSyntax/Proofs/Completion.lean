import TemplateSyntax.Proofs.Item.Directive
import TemplateSyntax.Proofs.Item.Local
import TemplateSyntax.Proofs.Item.Viable
import TemplateSyntax.Proofs.Payload
import TemplateSyntax.Proofs.Reading.Resumed
import TemplateSyntax.Proofs.Terminal.Kept

/-!
# Texts that have been completed

What completes a place is made of brackets, which no token in front of them takes
(`Terminal.takes_of_bracket`).  So the tokens in front of the place are laid as
before when the rest of the text is put aside and what completes the place stands
there instead (`resumes_expression`, `resumes_pattern`, `Item.resumes_line`).
-/

namespace TemplateSyntax

open Scan

/-! ### Brackets -/

/-- A text that begins with a bracket, if it is not empty. -/
def Bracketed (text : List Char) : Prop :=
  ∀ c, text.head? = some c → c ∈ brackets

theorem Bracketed.nil : Bracketed [] :=
  fun _ none => nomatch none

theorem Bracketed.cons {c : Char}
    (bracket : c ∈ brackets) (rest : List Char) :
    Bracketed (c :: rest) := by
  rintro _ ⟨⟩
  exact bracket

theorem Terminal.takes_of_bracket {c : Char}
    (bracket : c ∈ brackets) (terminal : Terminal) :
    terminal.takes c = false := by
  obtain ⟨_, operator, blank⟩ := plain_of_bracket bracket
  have spaceOrTab : isSpaceOrTab c = false := by
    rw [Bool.eq_false_iff]
    intro isBlank
    rw [isBlank_of_isSpaceOrTab c isBlank] at blank
    cases blank
  have space : isSpace c = false := by
    rw [Bool.eq_false_iff]
    intro isBlank
    rw [isBlank_of_isSpace c isBlank] at blank
    cases blank
  have stop : isStop c = true :=
    Bool.or_eq_true_iff.mpr (.inr (List.contains_iff_mem.mpr bracket))
  have name := isNameChar_of_isStop stop
  have ahead : ∀ {terminal : Terminal}, terminal.looksAhead = true →
      terminal.takes c = false := fun looks => takes_of_isStop stop (.inl looks)
  cases terminal with
  | number | identifier => exact ahead rfl
  | _ => simp [takes, blank, spaceOrTab, space, operator, name]

theorem Bracketed.notAhead {text : List Char} (bracketed : Bracketed text)
    (terminal : Terminal) : notAhead terminal.takes text = true := by
  cases text with
  | nil => rfl
  | cons c text =>
      simp [Scan.notAhead, Terminal.takes_of_bracket (bracketed c rfl) terminal]

/-- Text that may be put behind tokens: neither the last of them takes it nor any
that looks ahead. -/
structure Follows (tokens : List Token) (more : List Char) : Prop where
  ahead : ∀ token ∈ tokens, token.terminal.looksAhead = true →
    notAhead token.terminal.takes more = true
  last : ∀ token, tokens.getLast? = some token →
    notAhead token.terminal.takes more = true

theorem Bracketed.follows {more : List Char} (bracketed : Bracketed more)
    (tokens : List Token) : Follows tokens more :=
  ⟨fun token _ _ => bracketed.notAhead token.terminal,
    fun token _ => bracketed.notAhead token.terminal⟩

/-- Tokens inside an item are laid as before when other text follows them. -/
theorem Laid.followed {triggers : Triggers} {text rest more : List Char}
    {tokens : List Token} (laid : Laid triggers text tokens rest)
    (within : ∀ token ∈ tokens, token.terminal.isWithin = true)
    (follows : Follows tokens more) :
    Laid triggers (tokens.flatMap Token.lexeme ++ more) tokens more := by
  have alone := laid.cutOff fun token member bare => by
    have inside := within token member
    rw [bare] at inside
    cases inside
  exact alone.onward within more follows.ahead fun _ => follows.last

/-- A token that can stand alone and begins with a bracket. -/
structure Token.Bracket (triggers : Triggers) (token : Token) : Prop where
  within : token.terminal.isWithin = true
  near : token.terminal.looksAhead = false
  alone : token.terminal.scan triggers token.lexeme = some (token.lexeme, [])
  bracketed : Bracketed token.lexeme

theorem Token.Bracket.ne_number {triggers : Triggers} {token : Token}
    (bracket : token.Bracket triggers) : token.terminal ≠ .number := by
  intro number
  have near := bracket.near
  rw [number] at near
  cases near

section Brackets

variable {triggers : Triggers} {tokens : List Token} {more : List Char}

theorem bracketed_flatMap
    (brackets : ∀ token ∈ tokens, token.Bracket triggers)
    (behind : tokens = [] → Bracketed more) :
    Bracketed (tokens.flatMap Token.lexeme ++ more) := by
  cases tokens with
  | nil => exact behind rfl
  | cons token tokens =>
      have first := brackets token List.mem_cons_self
      have proper := Terminal.lexeme_ne_nil first.alone
      intro c here
      rw [List.flatMap_cons, List.append_assoc,
        List.head?_append_of_ne_nil _ proper] at here
      exact first.bracketed c here

theorem laid_brackets (brackets : ∀ token ∈ tokens, token.Bracket triggers)
    (stops : ∀ token ∈ tokens, notAhead token.terminal.takes more = true) :
    Laid triggers (tokens.flatMap Token.lexeme ++ more) tokens more := by
  induction tokens with
  | nil => exact .nil more
  | cons token tokens ih =>
      rw [List.forall_mem_cons] at brackets stops
      obtain ⟨first, others⟩ := brackets
      have stop : notAhead token.terminal.takes
          (tokens.flatMap Token.lexeme ++ more) = true := by
        by_cases empty : tokens = []
        · subst empty
          exact stops.1
        · exact (bracketed_flatMap others fun none =>
            absurd none empty).notAhead _
      have read := Terminal.scan_onward first.within first.alone fun _ => stop
      rw [List.flatMap_cons, List.append_assoc]
      exact .cons read (ih others stops.2)

end Brackets

/-! ### Expressions -/

namespace Expr

variable {triggers : Triggers} {text rest more : List Char}
  {tokens : List Token} {state : State}

theorem bracket_emptyList (triggers : Triggers) :
    ∀ token ∈ emptyList, token.Bracket triggers := by
  rw [emptyList, List.forall_mem_cons, List.forall_mem_singleton]
  exact ⟨⟨rfl, rfl, rfl, .cons (by decide) _⟩,
    ⟨rfl, rfl, rfl, .cons (by decide) _⟩⟩

theorem bracket_closer (frame : Frame) (triggers : Triggers) :
    frame.closer.Bracket triggers := by
  obtain ⟨bracket, items, outer⟩ := frame
  cases bracket with
  | paren => exact ⟨rfl, rfl, rfl, .cons (by decide) _⟩
  | list => exact ⟨rfl, rfl, rfl, .cons (by decide) _⟩

theorem bracket_closers (frames : List Frame) (triggers : Triggers) :
    ∀ token ∈ frames.map Frame.closer, token.Bracket triggers := by
  intro token member
  obtain ⟨frame, _, rfl⟩ := List.mem_map.mp member
  exact bracket_closer frame triggers

/-- Behind an operator a place is completed by a space and brackets, and elsewhere
by brackets alone. -/
theorem completion_cases (state : State) (triggers : Triggers) :
    ∃ brackets, (∀ token ∈ brackets, token.Bracket triggers) ∧
      (state.completion = brackets ∨
        state.phase = .spaced ∧ brackets ≠ [] ∧
          state.completion = ⟨.spaces, [' ']⟩ :: brackets) := by
  obtain ⟨phase, clause, frames⟩ := state
  have closers := bracket_closers frames triggers
  have filled : ∀ token ∈ emptyList ++ frames.map Frame.closer,
      token.Bracket triggers :=
    List.forall_mem_append.mpr ⟨bracket_emptyList triggers, closers⟩
  cases phase with
  | after operand => exact ⟨_, closers, .inl rfl⟩
  | spaced =>
      exact ⟨_, filled, .inr ⟨rfl, List.cons_ne_nil _ _, rfl⟩⟩
  | start | opened | operand | argument => exact ⟨_, filled, .inl rfl⟩

theorem numberless_completion (state : State) :
    ∀ token ∈ state.completion, token.terminal ≠ .number := by
  obtain ⟨brackets, all, same | ⟨_, _, same⟩⟩ :=
    completion_cases state Triggers.standard
  · rw [same]
    exact fun token member => (all token member).ne_number
  · rw [same, List.forall_mem_cons]
    exact ⟨by simp, fun token member => (all token member).ne_number⟩

theorem laid_completion (state : State) (bracketed : Bracketed more)
    (triggers : Triggers) :
    Laid triggers (state.completion.flatMap Token.lexeme ++ more)
      state.completion more := by
  obtain ⟨brackets, all, cases⟩ := completion_cases state triggers
  have laid := laid_brackets all fun token _ =>
    bracketed.notAhead token.terminal
  rcases cases with same | ⟨_, _, same⟩
  · rw [same]
    exact laid
  · have next := (bracketed_flatMap all fun _ => bracketed).notAhead .spaces
    have alone : Terminal.spaces.scan triggers [' '] = some ([' '], []) := rfl
    have read := Terminal.scan_onward rfl alone fun _ => next
    rw [same]
    exact .cons read laid

/-- Among the moves, only operators lead to a place where spaces must follow. -/
def SpacedByOperator (moves : Moves State) : Prop :=
  ∀ terminal next, (terminal, next) ∈ moves →
    ∀ lexeme, (next lexeme).phase = .spaced → terminal = .operator

theorem SpacedByOperator.append {front back : Moves State}
    (left : SpacedByOperator front) (right : SpacedByOperator back) :
    SpacedByOperator (front ++ back) := by
  intro terminal next member
  rcases List.mem_append.mp member with inFront | inBack
  · exact left terminal next inFront
  · exact right terminal next inBack

theorem spacedByOperator_tightOperands (clause : Clause)
    (frames : List Frame) :
    SpacedByOperator (State.tightOperands clause frames) := by
  simp [SpacedByOperator, State.tightOperands, State.opening, or_imp,
    forall_and]

theorem spacedByOperator_operands (clause : Clause) (frames : List Frame) :
    SpacedByOperator (State.operands clause frames) := by
  refine (spacedByOperator_tightOperands clause frames).append ?_
  simp [SpacedByOperator, State.opening, or_imp, forall_and]

theorem spacedByOperator_moves (state : State) :
    SpacedByOperator state.moves := by
  obtain ⟨phase, clause, frames⟩ := state
  have operands := spacedByOperator_operands clause frames
  have blanks : SpacedByOperator (State.leadingBlanks clause frames) := by
    simp [SpacedByOperator, State.leadingBlanks]
  cases phase with
  | start => exact blanks.append operands
  | opened =>
      have listEnd : SpacedByOperator (State.emptyListEnd frames) := by
        rcases frames with _ | ⟨⟨_ | _, _ | _, _⟩, _⟩ <;>
          simp [SpacedByOperator, State.emptyListEnd]
      exact (blanks.append operands).append listEnd
  | operand => exact operands
  | argument function =>
      have operators :
          SpacedByOperator (State.operators function clause frames) := by
        cases side : clause.side <;>
          simp [SpacedByOperator, State.operators, side]
      exact (spacedByOperator_operands _ frames).append operators
  | spaced => simp [SpacedByOperator, State.moves]
  | after operand =>
      have here : SpacedByOperator
          [(.fieldAccess, fun lexeme =>
              ⟨.after (operand.access lexeme), clause, frames⟩),
            (.spaces, fun _ =>
              ⟨.argument (clause.call operand), clause, frames⟩)] := by
        simp [SpacedByOperator, or_imp, forall_and]
      have dollars :
          SpacedByOperator (State.dollars operand clause frames) := by
        cases side : clause.side <;>
          simp [SpacedByOperator, State.dollars, side]
      have itemEnds :
          SpacedByOperator (State.itemEnds (clause.close operand) frames) := by
        cases frames <;>
          simp [SpacedByOperator, State.itemEnds, or_imp, forall_and]
      exact ((here.append (spacedByOperator_tightOperands _ frames)).append
        dollars).append itemEnds

theorem last_of_spaced (path : Path .start tokens state)
    (spaced : state.phase = .spaced) :
    ∃ front lexeme, tokens = front ++ [⟨.operator, lexeme⟩] := by
  have proper : tokens ≠ [] := by
    rintro rfl
    cases path
    cases spaced
  obtain ⟨front, middle, terminal, next, lexeme, rfl, _, member, rfl⟩ :=
    path.exists_last proper
  obtain rfl := spacedByOperator_moves middle _ _ member lexeme spaced
  exact ⟨front, lexeme, rfl⟩

theorem follows_completion (front : List Token)
    (path : Path .start tokens state) (bracketed : Bracketed more) :
    Follows (front ++ tokens)
      (state.completion.flatMap Token.lexeme ++ more) := by
  obtain ⟨brackets, all, same | ⟨spaced, _, same⟩⟩ :=
    completion_cases state Triggers.standard
  · rw [same]
    exact (bracketed_flatMap all fun _ => bracketed).follows _
  · obtain ⟨before, lexeme, rfl⟩ := last_of_spaced path spaced
    have stop : isStop ' ' = true := by decide
    rw [same]
    constructor
    · intro token _ looks
      simp [Scan.notAhead, Terminal.takes_of_isStop stop (.inl looks)]
    · intro token here
      rw [← List.append_assoc, List.getLast?_concat, Option.some.injEq] at here
      subst here
      rfl

/-- The tokens of an expression that has been begun are resumed by what completes
the place. -/
theorem resumes (laid : Laid triggers text tokens rest)
    (path : Path .start tokens state) :
    Resumes Grammar.Expression triggers tokens state.completion where
  laid := by
    have within : ∀ token ∈ tokens, token.terminal.isWithin = true :=
      fun token member =>
        Terminal.isWithin_of_isInner (isInner_of_path path token member)
    have follows := follows_completion [] path .nil
    have front := laid.followed within follows
    have whole := front.append (laid_completion state .nil triggers)
    rwa [List.append_nil, ← List.flatMap_append] at whole
  derived := by
    obtain ⟨final, value, later, finished⟩ := path_completion state
    exact ⟨value,
      (language_recognises _ _).mpr ⟨final, path.append later, finished⟩⟩
  numberless := numberless_completion state

end Expr

/-! ### Patterns -/

namespace Pattern

variable {triggers : Triggers} {text rest more : List Char}
  {tokens : List Token} {state : State}

/-- The text begins with nothing that a token of a pattern goes on with: no
character of names and no space. -/
def Apart (text : List Char) : Prop :=
  Scan.notAhead (fun c => isNameChar c || isSpace c) text = true

theorem Apart.nil : Apart [] := rfl

theorem Apart.cons {c : Char} (plain : (isNameChar c || isSpace c) = false)
    (rest : List Char) : Apart (c :: rest) := by
  simp [Apart, Scan.notAhead, plain]

theorem Apart.notAhead (apart : Apart more) {terminal : Terminal}
    (known : terminal ∈ allTerminals) : Scan.notAhead terminal.takes more = true := by
  have taken : ∀ c, terminal.takes c = true →
      (isNameChar c || isSpace c) = true := by
    cases terminal with
    | variableWord | capitalWord => exact fun c => id
    | dot => exact fun c never => nomatch never
    | operatorConstructor | wildcard | asSign | equals | patternComma
    | patternOpenParen | patternCloseParen | patternOpenBracket
    | patternCloseBracket | openBrace | closeBrace =>
        exact fun c space => Bool.or_eq_true_iff.mpr (.inr space)
    | _ =>
        simp [allTerminals, partTerminals, nameTerminals, closingTerminals,
          fieldTerminals] at known
  have refused := refuses_of_notAhead taken apart
  cases more with
  | nil => rfl
  | cons c more => simp [Scan.notAhead, refused c rfl]

theorem bracket_closer (frame : Frame) (triggers : Triggers) :
    frame.closer.Bracket triggers := by
  cases frame with
  | tuple => exact ⟨rfl, rfl, rfl, .cons (by decide) _⟩
  | list => exact ⟨rfl, rfl, rfl, .cons (by decide) _⟩
  | field => exact ⟨rfl, rfl, rfl, .cons (by decide) _⟩

theorem bracket_filler (state : State) (triggers : Triggers) :
    ∀ token ∈ state.filler, token.Bracket triggers := by
  have list : ∀ token ∈ [Token.mk .patternOpenBracket ['['],
      ⟨.patternCloseBracket, [']']⟩], token.Bracket triggers := by
    rw [List.forall_mem_cons, List.forall_mem_singleton]
    exact ⟨⟨rfl, rfl, rfl, .cons (by decide) _⟩,
      ⟨rfl, rfl, rfl, .cons (by decide) _⟩⟩
  have operator : (Token.mk .operatorConstructor ['(', '+', ')']).Bracket
      triggers := ⟨rfl, rfl, rfl, .cons (by decide) _⟩
  have brace : (Token.mk .closeBrace ['}']).Bracket triggers :=
    ⟨rfl, rfl, rfl, .cons (by decide) _⟩
  have none : ∀ token ∈ [], Token.Bracket triggers token :=
    fun _ member => nomatch member
  cases state with
  | pattern phase clause frames =>
      cases phase with
      | start | opened => exact list
      | piece names => exact List.forall_mem_singleton.mpr operator
      | var | pieces | after => exact none
  | record phase current frames =>
      cases phase with
      | start =>
          exact List.forall_mem_cons.mpr
            ⟨operator, List.forall_mem_singleton.mpr brace⟩
      | opened | named | wildcard => exact List.forall_mem_singleton.mpr brace

theorem bracket_completion (state : State) (triggers : Triggers) :
    ∀ token ∈ state.completion, token.Bracket triggers := by
  refine List.forall_mem_append.mpr ⟨bracket_filler state triggers, ?_⟩
  intro token member
  obtain ⟨frame, _, rfl⟩ := List.mem_map.mp member
  exact bracket_closer frame triggers

theorem laid_completion (state : State) (apart : Apart more)
    (triggers : Triggers) :
    Laid triggers (state.completion.flatMap Token.lexeme ++ more)
      state.completion more := by
  obtain ⟨_, _, path, _⟩ := path_completion state
  exact laid_brackets (bracket_completion state triggers) fun token member =>
    apart.notAhead (known_of_path path token member)

theorem follows_completion {front : List Token}
    (near : ∀ token ∈ front, token.terminal.looksAhead = false)
    (path : Path .start tokens state) (apart : Apart more) :
    Follows (front ++ tokens)
      (state.completion.flatMap Token.lexeme ++ more) := by
  by_cases complete : state.completion = []
  · rw [complete]
    have known := known_of_path path
    have proper : tokens ≠ [] := by
      rintro rfl
      cases path
      cases complete
    refine ⟨?_, ?_⟩
    · intro token member looks
      have settled : token.terminal.looksAhead = false :=
        (List.mem_append.mp member).elim (near token) fun inside =>
          looksAhead_of_known (known token inside)
      rw [settled] at looks
      cases looks
    · intro token here
      rw [List.getLast?_append_of_ne_nil _ proper] at here
      exact apart.notAhead (known token (List.mem_of_getLast? here))
  · exact (bracketed_flatMap (bracket_completion state Triggers.standard)
      fun empty => absurd empty complete).follows _

/-- The tokens of a pattern that has been begun are resumed by what completes the
place. -/
theorem resumes (laid : Laid triggers text tokens rest)
    (path : Path .start tokens state) :
    Resumes Grammar.Whole triggers tokens state.completion where
  laid := by
    have within : ∀ token ∈ tokens, token.terminal.isWithin = true :=
      path.forall_terminal fun _ _ _ member =>
        Terminal.isWithin_of_isInner (isInner_of_move member)
    have none : ∀ token ∈ ([] : List Token),
        token.terminal.looksAhead = false := fun _ member => nomatch member
    have follows := follows_completion none path .nil
    have front := laid.followed within follows
    have whole := front.append (laid_completion state .nil triggers)
    rwa [List.append_nil, ← List.flatMap_append] at whole
  derived := by
    obtain ⟨final, value, later, finished⟩ := path_completion state
    exact ⟨value,
      (language_recognises _ _).mpr ⟨final, path.append later, finished⟩⟩
  numberless := fun token member =>
    (bracket_completion state triggers token member).ne_number

end Pattern

/-! ### Lines -/

namespace Item

open Grammar

variable {triggers : Triggers} {text rest more : List Char}
  {tokens : List Token} {state : State}

/-- Nothing reads on behind a brace that opens something. -/
theorem Seam.of_brace (last : text.getLast? = some '{') (more : List Char) :
    Seam triggers text more := by
  have notBrace {trigger : Char} (allowed : canTrigger trigger = true) :
      '{' ≠ trigger := by
    rintro rfl
    exact absurd allowed (by decide)
  refine ⟨?_, ?_, ?_⟩
  · rintro _ trigger
    rw [last] at trigger
    exact notBrace triggers.value_ok (Option.some.inj trigger)
  · intro c here opens
    rw [last] at here
    cases here
    simp [notBrace triggers.control_ok] at opens
  · intro carriage
    rw [last] at carriage
    cases carriage

/-- The items in front of an opening are laid as before, whatever stands behind
the opening. -/
theorem laid_front {before : List Token} {parts : List Item} {c : Char}
    {back : List Char} (sequence : Sequence before parts)
    (laid : Laid triggers text before (c :: '{' :: back)) (more : List Char) :
    Laid triggers (before.flatMap Token.lexeme ++ c :: '{' :: more) before
      (c :: '{' :: more) := by
  have upToBrace : Laid triggers text before ([c] ++ '{' :: back) := laid
  have kept := upToBrace.cutBehind
  have seam : Seam triggers (before.flatMap Token.lexeme ++ [c, '{']) more :=
    .of_brace (by simp) more
  have longer := sequence.laid_append kept seam fun none => nomatch none
  simpa using longer

/-- The terminal opens an interpolation or a directive. -/
def Opens (terminal : Terminal) : Prop :=
  terminal = .valueOpen ∨ terminal = .controlOpen

theorem Opens.lexeme_eq {terminal : Terminal} {lexeme : List Char}
    (opens : Opens terminal)
    (read : terminal.scan triggers text = some (lexeme, rest)) :
    ∃ c others, lexeme = c :: '{' :: others := by
  rcases opens with rfl | rfl
  · obtain ⟨rfl, _⟩ := word_eq_some_iff.mp read
    exact ⟨_, [], rfl⟩
  · have opening : (word [triggers.control, '{']).andThen
        (many Unicode.isBlank) text = some (lexeme, rest) := read
    obtain ⟨_, _, blanks, sign, _, rfl⟩ := andThen_eq_some_iff.mp opening
    obtain ⟨rfl, _⟩ := word_eq_some_iff.mp sign
    exact ⟨_, blanks, rfl⟩

/-- An item that has been begun is resumed by tokens that may follow it. -/
theorem laid_resumed {before begun later : List Token} {parts : List Item}
    (sequence : Sequence before parts)
    (laid : Laid triggers text (before ++ begun) rest)
    (opens : ∃ terminal lexeme inner,
      begun = ⟨terminal, lexeme⟩ :: inner ∧ Opens terminal)
    (within : ∀ token ∈ begun, token.terminal.isWithin = true)
    (follows : Follows begun (later.flatMap Token.lexeme))
    (behind : Laid triggers (later.flatMap Token.lexeme) later []) :
    Laid triggers ((before ++ begun ++ later).flatMap Token.lexeme)
      (before ++ begun ++ later) [] := by
  obtain ⟨middle, front, back⟩ := laid.split
  have whole := (back.followed within follows).append behind
  obtain ⟨terminal, lexeme, inner, rfl, opens⟩ := opens
  cases back with
  | cons read after =>
      obtain ⟨c, others, rfl⟩ := opens.lexeme_eq read
      rw [Terminal.faithful_scan triggers _ read] at front
      have kept := laid_front sequence front
        (others ++ (inner ++ later).flatMap Token.lexeme)
      have joined : Laid triggers _ (before ++ _) [] := kept.append <| by
        simpa using whole
      simpa using joined

section Lead

variable {lead : List Token}

theorem ExprLead.opens {use : ExprUse} (front : ExprLead use lead)
    (inner : List Token) :
    ∃ terminal lexeme others,
      lead ++ inner = ⟨terminal, lexeme⟩ :: others ∧ Opens terminal := by
  cases front with
  | value opening => exact ⟨_, _, _, rfl, .inl rfl⟩
  | ifStart | elseIf | caseStart | forallStart =>
      exact ⟨_, _, _, rfl, .inr rfl⟩

theorem ExprLead.within {use : ExprUse} (front : ExprLead use lead) :
    ∀ token ∈ lead, token.terminal.isWithin = true := by
  cases front with
  | value | ifStart | elseIf | caseStart => simp [Terminal.isWithin]
  | forallStart opening word arrow whole =>
      obtain ⟨_, path, _⟩ := (Pattern.language_recognises _ _).mp whole
      have inner := path.forall_terminal fun _ _ _ member =>
        Terminal.isWithin_of_isInner (Pattern.isInner_of_move member)
      simpa [Terminal.isWithin, or_imp, forall_and] using inner

theorem PatternLead.opens {use : PatternUse} (front : PatternLead use lead)
    (inner : List Token) :
    ∃ terminal lexeme others,
      lead ++ inner = ⟨terminal, lexeme⟩ :: others ∧ Opens terminal := by
  cases front <;> exact ⟨_, _, _, rfl, .inr rfl⟩

theorem PatternLead.within {use : PatternUse} (front : PatternLead use lead) :
    ∀ token ∈ lead, token.terminal.isWithin = true ∧
      token.terminal.looksAhead = false := by
  cases front <;> simp [Terminal.isWithin, Terminal.looksAhead]

end Lead

theorem laid_closer (use : ExprUse) (triggers : Triggers) :
    Laid triggers ['}'] [⟨use.closer, ['}']⟩] [] := by
  have read : use.closer.scan triggers ['}'] = some (['}'], []) := by
    cases use <;> rfl
  exact .cons read (.nil [])

theorem laid_directiveEnd (triggers : Triggers) :
    Laid triggers ['}'] [directiveEnd] [] :=
  laid_closer .ifStart triggers

theorem laid_expr_completion (use : ExprUse) (state : Expr.State)
    (triggers : Triggers) :
    Laid triggers
      (state.completion.flatMap Token.lexeme ++ ['}'])
      (state.completion ++ [⟨use.closer, ['}']⟩]) [] :=
  (Expr.laid_completion state (.cons (by decide) _) triggers).append
    (laid_closer use triggers)

theorem laid_arrow (triggers : Triggers) :
    Laid triggers ['<', '-', '[', ']', '}']
      (⟨.arrow, ['<', '-']⟩ :: (Expr.emptyList ++ [directiveEnd])) [] := by
  have arrow : Terminal.arrow.scan triggers
      ([] ++ '<' :: '-' :: ([] ++ ['[', ']', '}'])) =
      some (['<', '-'], ['[', ']', '}']) :=
    scan_arrow .nil .nil (.of_mark (by decide))
  have list : Laid triggers ['[', ']', '}'] (Expr.emptyList ++ [directiveEnd])
      [] :=
    laid_expr_completion .ifStart .start triggers
  exact .cons arrow list

theorem laid_otherwise (triggers : Triggers) :
    Laid triggers (Keyword.otherwise.spelling.toList ++ ['}'])
      [⟨.keyword .otherwise, Keyword.otherwise.spelling.toList⟩, directiveEnd]
      [] :=
  .cons (scan_keyword_bare rfl .nil) (laid_directiveEnd triggers)

/-- The tokens of a line that has been begun are resumed by what completes the
place, if an item has been begun there. -/
theorem laid_completion (laid : Laid triggers text tokens rest)
    (path : Path .start tokens state) (inside : state.place ≠ .text) :
    Laid triggers ((tokens ++ state.completion).flatMap Token.lexeme)
      (tokens ++ state.completion) [] := by
  cases justified_of_path path with
  | text => exact absurd rfl inside
  | directive opening sequence =>
      have visible : Scan.notAhead Unicode.isBlank
          (Keyword.otherwise.spelling.toList ++ ['}']) = true := by decide
      refine laid_resumed sequence laid ⟨_, _, [], rfl, .inr rfl⟩
        (by simp [Terminal.isWithin]) ⟨?_, ?_⟩ (laid_otherwise triggers)
      · simp [Terminal.looksAhead]
      · rintro token ⟨⟩
        exact visible
  | @expr before lead tokens items use state sequence front inner =>
      rw [List.append_assoc before] at laid ⊢
      have within : ∀ token ∈ lead ++ tokens, token.terminal.isWithin = true :=
        List.forall_mem_append.mpr ⟨front.within, fun token member =>
          Terminal.isWithin_of_isInner
            (Expr.isInner_of_path inner token member)⟩
      have follows := Expr.follows_completion lead inner
        (.cons (by decide) [] : Bracketed ['}'])
      have behind := laid_expr_completion use state triggers
      refine laid_resumed sequence laid (front.opens tokens) within ?_ ?_ <;>
        simpa [State.completion]
  | @pattern before lead tokens items use state sequence front inner =>
      rw [List.append_assoc before] at laid ⊢
      have within : ∀ token ∈ lead ++ tokens, token.terminal.isWithin = true :=
        List.forall_mem_append.mpr
          ⟨fun token member => (front.within token member).1,
            inner.forall_terminal fun _ _ _ member =>
              Terminal.isWithin_of_isInner (Pattern.isInner_of_move member)⟩
      have near := fun token member => (front.within token member).2
      cases use with
      | caseOf =>
          have apart : Pattern.Apart ['}'] := .cons (by decide) _
          have follows := Pattern.follows_completion near inner apart
          have behind := (Pattern.laid_completion state apart triggers).append
            (laid_directiveEnd triggers)
          refine laid_resumed sequence laid (front.opens tokens) within ?_ ?_ <;>
            simpa [State.completion, directiveEnd]
      | forallStart =>
          have apart : Pattern.Apart ['<', '-', '[', ']', '}'] :=
            .cons (by decide) _
          have follows := Pattern.follows_completion near inner apart
          have behind := (Pattern.laid_completion state apart triggers).append
            (laid_arrow triggers)
          refine laid_resumed sequence laid (front.opens tokens) within ?_ ?_ <;>
            simpa [State.completion, Expr.emptyList, directiveEnd]
  | @bare opening word before items keyword item sequence known =>
      refine laid_resumed sequence laid ⟨_, _, _, rfl, .inr rfl⟩
        (by simp [Terminal.isWithin]) ?_ (laid_directiveEnd triggers)
      exact Bracketed.follows (.cons (by decide) []) _

theorem numberless_completion (state : State) :
    ∀ token ∈ state.completion, token.terminal ≠ .number := by
  obtain ⟨items, place⟩ := state
  have ending : directiveEnd.terminal ≠ .number := by simp [directiveEnd]
  cases place with
  | text => exact fun _ member => nomatch member
  | directive => simp [State.completion, directiveEnd]
  | expr use state =>
      have closer : use.closer ≠ .number := by cases use <;> simp [ExprUse.closer]
      have inner := Expr.numberless_completion state
      simpa [State.completion, or_imp, forall_and, closer] using inner
  | pattern use state =>
      have inner : ∀ token ∈ state.completion, token.terminal ≠ .number :=
        fun token member => (Pattern.bracket_completion state
          Triggers.standard token member).ne_number
      cases use <;>
        simpa [State.completion, Expr.emptyList, directiveEnd, or_imp,
          forall_and] using inner
  | bare item => exact List.forall_mem_singleton.mpr ending

theorem resumes (laid : Laid triggers text tokens rest)
    (path : Path .start tokens state) (inside : state.place ≠ .text) :
    Resumes Line triggers tokens state.completion where
  laid := laid_completion laid path inside
  derived := by
    obtain ⟨items, later⟩ := path_completion state
    exact ⟨_, line_of_path (path.append later) rfl⟩
  numberless := numberless_completion state

end Item

end TemplateSyntax
