import TemplateSyntax.Proofs.Correctness
import TemplateSyntax.Proofs.Reading.Viable
import TemplateSyntax.Proofs.Terminal.Cut
import TemplateSyntax.Proofs.Terminal.Ending

/-!
# Expressions and patterns that stand alone

The tokens of an expression or a pattern inside a line make up a text of their
own, which is answered with the same value (`exists_parseExpr`,
`exists_parsePattern`).  The last token of an expression does not end in a blank,
so that trimming takes nothing away.
-/

namespace TemplateSyntax

namespace Expr

section Move

variable {clause : Clause} {frames : List Frame} {terminal : Terminal}
  {next : List Char → State} {lexeme : List Char} {value : Expr}
  (finished : (next lexeme).value? = some value)
include finished

theorem endsExpr_of_operand
    (member : (terminal, next) ∈ State.operands clause frames) :
    terminal.endsExpr = true := by
  simp only [State.operands, State.tightOperands, List.cons_append,
    List.nil_append, List.mem_cons, Prod.mk.injEq, List.not_mem_nil,
    or_false] at member
  rcases member with ⟨rfl, rfl⟩ | ⟨rfl, rfl⟩ | ⟨rfl, rfl⟩ | ⟨rfl, rfl⟩ |
    ⟨rfl, rfl⟩ | ⟨rfl, rfl⟩
  · cases finished
  · rfl
  · rfl
  · cases finished
  · rfl
  · rfl

theorem endsExpr_of_leadingBlanks
    (member : (terminal, next) ∈ State.leadingBlanks clause frames) :
    terminal.endsExpr = true := by
  cases List.mem_singleton.mp member
  cases finished

theorem endsExpr_of_emptyListEnd
    (member : (terminal, next) ∈ State.emptyListEnd frames) :
    terminal.endsExpr = true := by
  rw [State.emptyListEnd.eq_def] at member
  split at member
  · cases List.mem_singleton.mp member
    rfl
  · cases member

theorem endsExpr_of_itemEnds {item : Expr}
    (member : (terminal, next) ∈ State.itemEnds item frames) :
    terminal.endsExpr = true := by
  cases frames with
  | nil => cases member
  | cons frame frames =>
      simp only [State.itemEnds, List.mem_cons, Prod.mk.injEq,
        List.not_mem_nil, or_false] at member
      rcases member with ⟨rfl, rfl⟩ | ⟨rfl, rfl⟩
      · cases finished
      · cases frame.bracket <;> rfl

theorem endsExpr_of_move {state : State}
    (member : (terminal, next) ∈ state.moves) : terminal.endsExpr = true := by
  obtain ⟨phase, clause, frames⟩ := state
  cases phase with
  | start =>
      rcases List.mem_append.mp member with blanks | operand
      · exact endsExpr_of_leadingBlanks finished blanks
      · exact endsExpr_of_operand finished operand
  | opened =>
      rcases List.mem_append.mp member with front | ending
      · rcases List.mem_append.mp front with blanks | operand
        · exact endsExpr_of_leadingBlanks finished blanks
        · exact endsExpr_of_operand finished operand
      · exact endsExpr_of_emptyListEnd finished ending
  | operand => exact endsExpr_of_operand finished member
  | argument function =>
      rcases List.mem_append.mp member with operand | operator
      · exact endsExpr_of_operand finished operand
      · unfold State.operators at operator
        split at operator
        · cases operator
        · cases List.mem_singleton.mp operator
          cases finished
  | spaced =>
      cases List.mem_singleton.mp member
      cases finished
  | after operand =>
      rcases List.mem_append.mp member with front | ending
      · rcases List.mem_append.mp front with front | dollar
        · rcases List.mem_append.mp front with here | tight
          · simp only [List.mem_cons, Prod.mk.injEq, List.not_mem_nil,
              or_false] at here
            rcases here with ⟨rfl, rfl⟩ | ⟨rfl, rfl⟩
            · rfl
            · cases finished
          · exact endsExpr_of_operand finished (List.mem_append_left _ tight)
        · unfold State.dollars at dollar
          split at dollar
          · cases dollar
          · cases List.mem_singleton.mp dollar
            cases finished
      · exact endsExpr_of_itemEnds finished ending

end Move

theorem exists_last_of_expression {tokens : List Token} {value : Expr}
    (expression : Grammar.Expression tokens value) :
    ∃ front last, tokens = front ++ [last] ∧
      last.terminal.endsExpr = true := by
  obtain ⟨final, path, finished⟩ :=
    (language_recognises tokens value).mp expression
  have proper : tokens ≠ [] := by
    rintro rfl
    cases path
    cases finished
  obtain ⟨front, middle, terminal, next, lexeme, rfl, _, member, rfl⟩ :=
    path.exists_last proper
  exact ⟨front, _, rfl, endsExpr_of_move finished member⟩

theorem isInner_of_expected (state : State) :
    ∀ terminal ∈ language.expected state, terminal.isInner = true := by
  obtain ⟨phase, clause, frames⟩ := state
  simp only [Language.expected, language]
  cases phase with
  | start =>
      simp [State.moves, State.leadingBlanks, State.operands,
        State.tightOperands, Terminal.isInner]
  | opened =>
      simp only [State.moves, State.leadingBlanks, State.operands,
        State.tightOperands]
      unfold State.emptyListEnd
      split <;> simp [Terminal.isInner]
  | operand =>
      simp [State.moves, State.operands, State.tightOperands,
        Terminal.isInner]
  | argument function =>
      cases side : clause.side <;>
        simp [State.moves, State.operands, State.tightOperands,
          State.operators, side, Terminal.isInner]
  | spaced => simp [State.moves, Terminal.isInner]
  | after operand =>
      cases side : clause.side <;> cases frames with
      | nil =>
          simp [State.moves, State.tightOperands, State.dollars,
            State.itemEnds, side, Terminal.isInner]
      | cons frame frames =>
          cases bracket : frame.bracket <;>
            simp [State.moves, State.tightOperands, State.dollars,
              State.itemEnds, side, bracket, Terminal.isInner]

theorem isInner_of_path {state final : State} {tokens : List Token}
    (path : Path state tokens final) :
    ∀ token ∈ tokens, token.terminal.isInner = true :=
  Language.Path.forall_terminal (fun state terminal _ member =>
    isInner_of_expected state terminal (List.mem_map_of_mem member)) path

end Expr

/-! ### Trimming -/

/-- Trimming takes away spaces and tabs only. -/
theorem exists_trimmed (text : String) :
    ∃ trail, text.toList = (trimEnd text).toList ++ trail ∧
      ∀ c ∈ trail, Scan.isSpaceOrTab c = true := by
  refine ⟨(text.toList.reverse.takeWhile Scan.isSpaceOrTab).reverse, ?_, ?_⟩
  · rw [trimEnd, String.toList_ofList, ← List.reverse_append,
      List.takeWhile_append_dropWhile, List.reverse_reverse]
  · intro c member
    exact List.all_eq_true.mp List.all_takeWhile c (List.mem_reverse.mp member)

theorem trimEnd_append (text : List Char) {trail : List Char}
    (blank : ∀ c ∈ trail, Scan.isSpaceOrTab c = true) :
    trimEnd (String.ofList (text ++ trail)) = trimEnd (String.ofList text) := by
  have reversed : ∀ c ∈ trail.reverse, Scan.isSpaceOrTab c = true :=
    fun c member => blank c (List.mem_reverse.mp member)
  simp only [trimEnd, String.toList_ofList, List.reverse_append,
    List.dropWhile_append_of_pos reversed]

theorem trimEnd_of_visible {text : List Char} {c : Char}
    (last : text.getLast? = some c) (visible : Scan.isSpaceOrTab c = false) :
    trimEnd (String.ofList text) = String.ofList text := by
  have front : text.reverse.head? = some c := by
    rw [List.head?_reverse, last]
  obtain ⟨others, split⟩ := List.head?_eq_some_iff.mp front
  rw [trimEnd, String.toList_ofList, split, List.dropWhile_cons, visible,
    if_neg Bool.false_ne_true, ← split, List.reverse_reverse]

theorem trimEnd_of_not_mem {text : String} (noSpace : ' ' ∉ text.toList)
    (noTab : '\t' ∉ text.toList) : trimEnd text = text := by
  obtain ⟨trail, split, blank⟩ := exists_trimmed text
  cases trail with
  | nil =>
      rw [List.append_nil] at split
      exact (String.toList_inj.mp split).symm
  | cons c trail =>
      have inside : c ∈ text.toList := by simp [split]
      have space := blank c List.mem_cons_self
      simp only [Scan.isSpaceOrTab, Bool.or_eq_true, decide_eq_true_eq] at space
      rcases space with rfl | rfl
      · exact absurd inside noSpace
      · exact absurd inside noTab

/-- The text of an expression does not end in a blank, so nothing is trimmed. -/
theorem Expr.trimEnd_of_laid {triggers : Triggers} {text : List Char}
    {tokens : List Token} {value : Expr} (laid : Laid triggers text tokens [])
    (expression : Expr.Grammar.Expression tokens value) :
    trimEnd (String.ofList text) = String.ofList text := by
  obtain ⟨front, last, rfl, ends⟩ := Expr.exists_last_of_expression expression
  obtain ⟨left, right, read⟩ :=
    laid.exists_scan (List.mem_append_right _ (List.mem_singleton_self last))
  have nonempty := Terminal.lexeme_ne_nil read
  have visible := Terminal.endsVisibly_scan ends triggers read
  have shape : text = front.flatMap Token.lexeme ++ last.lexeme := by
    rw [laid.text_eq]
    simp
  have lastChar : text.getLast? = some (last.lexeme.getLast nonempty) := by
    rw [shape, List.getLast?_append_of_ne_nil _ nonempty,
      List.getLast?_eq_some_getLast nonempty]
  exact trimEnd_of_visible lastChar
    (visible _ (List.getLast?_eq_some_getLast nonempty))

/-- The answer to a text that the tokens of an expression make up. -/
theorem parseExpr_of_laid {text : List Char} {tokens : List Token}
    {value : Expr} (laid : Laid Triggers.standard text tokens [])
    (expression : Expr.Grammar.Expression tokens value)
    (label : Option String) :
    parseExpr (String.ofList text) label =
      match Expr.language.fault? Expr.language.start tokens with
      | some fault => .error (fault.inSource ⟨String.ofList text, label⟩)
      | none => .ok value := by
  rw [parseExpr, Expr.trimEnd_of_laid laid expression]
  rw [← String.toList_ofList (l := text)] at laid
  exact Expr.language_recognises.parse_of_derivation
    (expression_unambiguous Triggers.standard) laid expression

theorem parseExpr_eq_ok_iff_of_laid {text : List Char} {tokens : List Token}
    {value : Expr} (laid : Laid Triggers.standard text tokens [])
    (expression : Expr.Grammar.Expression tokens value)
    (label : Option String) :
    parseExpr (String.ofList text) label = .ok value ↔
      Expr.language.fault? Expr.language.start tokens = none := by
  rw [parseExpr_of_laid laid expression]
  cases Expr.language.fault? Expr.language.start tokens <;> simp

/-- An expression that stands somewhere can be read alone. -/
theorem exists_parseExpr {triggers : Triggers} {text rest : List Char}
    {tokens : List Token} {value : Expr} (laid : Laid triggers text tokens rest)
    (expression : Expr.Grammar.Expression tokens value)
    (faultless : Expr.language.fault? Expr.language.start tokens = none) :
    ∃ text label, parseExpr text label = .ok value := by
  obtain ⟨_, path, _⟩ := (Expr.language_recognises tokens value).mp expression
  have alone := laid.alone (Expr.isInner_of_path path) Triggers.standard
  exact ⟨String.ofList (tokens.flatMap Token.lexeme), none,
    (parseExpr_eq_ok_iff_of_laid alone expression none).mpr faultless⟩

namespace Pattern

theorem known_of_move {state : State} {terminal : Terminal}
    {next : List Char → State}
    (member : (terminal, next) ∈ language.moves state) :
    terminal ∈ allTerminals := by
  cases state with
  | pattern phase clause frames =>
      rcases State.mem_of_moves member with ⟨_, part⟩ | name | ⟨closing, _⟩
      · simp [State.mem_of_parts part]
      · simp [name]
      · simp [closing]
  | record phase current frames =>
      simp [State.mem_of_record_moves member]

theorem known_of_path {state final : State} {tokens : List Token}
    (path : Path state tokens final) :
    ∀ token ∈ tokens, token.terminal ∈ allTerminals :=
  path.forall_terminal fun _ _ _ => known_of_move

theorem isInner_of_move {state : State} {terminal : Terminal}
    {next : List Char → State}
    (member : (terminal, next) ∈ language.moves state) :
    terminal.isInner = true := by
  have checked : ∀ terminal ∈ allTerminals, terminal.isInner = true := by
    decide
  exact checked terminal (known_of_move member)

end Pattern

theorem exists_parsePattern {triggers : Triggers} {text rest : List Char}
    {tokens : List Token} {value : Pattern}
    (laid : Laid triggers text tokens rest)
    (whole : Pattern.Grammar.Whole tokens value)
    (faultless : Pattern.language.fault? Pattern.language.start tokens =
      none) :
    ∃ text label, parsePattern text label = .ok value := by
  obtain ⟨_, path, _⟩ := (Pattern.language_recognises tokens value).mp whole
  have inner : ∀ token ∈ tokens, token.terminal.isInner = true :=
    path.forall_terminal fun _ _ _ => Pattern.isInner_of_move
  have alone := laid.alone inner Triggers.standard
  refine ⟨String.ofList (tokens.flatMap Token.lexeme), none, ?_⟩
  refine parsePattern_eq_ok_iff.mpr ⟨tokens, ?_, whole, faultless⟩
  rw [String.toList_ofList]
  exact alone

end TemplateSyntax
