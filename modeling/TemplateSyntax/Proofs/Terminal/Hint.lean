import Mathlib.Data.String.Basic
import TemplateSyntax.Terminal

/-!
# Hints and names of terminals

A hint lists what could have followed in the order in which the grammars name
the terminals, with one label for all keywords in front and no label twice.
`hint_eq` says that `Terminal.hint` gives the hint so described.
-/

namespace TemplateSyntax

def Keyword.name : Keyword → String
  | .forallStart => "_KW_FORALL"
  | .forallEnd => "_KW_ENDFORALL"
  | .ifStart => "_KW_IF"
  | .elseIf => "_KW_ELSEIF"
  | .otherwise => "_KW_ELSE"
  | .ifEnd => "_KW_ENDIF"
  | .caseStart => "_KW_CASE"
  | .caseOf => "_KW_OF"
  | .caseEnd => "_KW_ENDCASE"

namespace Terminal

/-- The name of a terminal in its grammar. -/
def name : Terminal → String
  | .capitalWord => "CONID"
  | .controlBare => "CTRL_BARE"
  | .controlEscape => "CTRL_ESCAPE"
  | .fieldAccess => "GETFIELD"
  | .number => "NUMBER"
  | .operator => "OPERATOR"
  | .operatorName => "OPERATOR_NAME"
  | .operatorConstructor => "OPID"
  | .identifier => "QIDENT"
  | .literal => "RAW"
  | .string => "STRING"
  | .variableWord => "VARID"
  | .valueAtLineEnd => "VAR_AT_EOL"
  | .valueBare => "VAR_BARE"
  | .valueEscape => "VAR_ESCAPE"
  | .wildcard => "WILDCARD"
  | .arrow => "_ARROW"
  | .asSign => "_AT"
  | .controlClose => "_CTRL_CLOSE"
  | .controlOpen => "_CTRL_OPEN"
  | .exprComma => "_DCOMMA"
  | .exprOpenBracket => "_DLBRACK"
  | .exprOpenParen => "_DLPAR"
  | .dollar => "_DOLLAR"
  | .dot => "_DOT"
  | .exprCloseBracket => "_DRBRACK"
  | .exprCloseParen => "_DRPAR"
  | .equals => "_EQUALS"
  | .blanks => "_HWS"
  | .keyword word => word.name
  | .openBrace => "_LBRACE"
  | .patternOpenBracket => "_LBRACKET"
  | .patternOpenParen => "_LPAREN"
  | .patternComma => "_PCOMMA"
  | .closeBrace => "_RBRACE"
  | .patternCloseBracket => "_RBRACKET"
  | .patternCloseParen => "_RPAREN"
  | .spaces => "_SP"
  | .valueClose => "_VAR_CLOSE"
  | .valueOpen => "_VAR_OPEN"

def isKeyword : Terminal → Bool
  | .keyword _ => true
  | _ => false

/-- The terminals stand in the strict order of their names. -/
def InNameOrder (terminals : List Terminal) : Prop :=
  terminals.Pairwise fun left right => left.name < right.name

/-- The labels of listed terminals: one for all keywords in front, then those
of the other terminals, each once. -/
def summary (listed : List Terminal) : List String :=
  (if listed.any isKeyword then ["directive keyword"] else []) ++
    ((listed.filter fun terminal => !terminal.isKeyword).map label).eraseDups

def hintText : List String → Option String
  | [] => none
  | names => some ("expected one of: " ++ String.intercalate ", " names)

/-- All terminals in the order of their names. -/
def nameOrder : List Terminal :=
  [.capitalWord, .controlBare, .controlEscape, .fieldAccess, .number,
    .operator, .operatorName, .operatorConstructor, .identifier, .literal,
    .string, .variableWord, .valueAtLineEnd, .valueBare, .valueEscape,
    .wildcard, .arrow, .asSign, .controlClose, .controlOpen, .exprComma,
    .exprOpenBracket, .exprOpenParen, .dollar, .dot, .exprCloseBracket,
    .exprCloseParen, .equals, .blanks, .keyword .caseStart,
    .keyword .otherwise, .keyword .elseIf, .keyword .caseEnd,
    .keyword .forallEnd, .keyword .ifEnd, .keyword .forallStart,
    .keyword .ifStart, .keyword .caseOf, .openBrace, .patternOpenBracket,
    .patternOpenParen, .patternComma, .closeBrace, .patternCloseBracket,
    .patternCloseParen, .spaces, .valueClose, .valueOpen]

theorem mem_nameOrder (terminal : Terminal) : terminal ∈ nameOrder := by
  cases terminal with
  | keyword word => cases word <;> simp [nameOrder]
  | _ => simp [nameOrder]

theorem nameOrder_inNameOrder : InNameOrder nameOrder := by
  have ascending : (nameOrder.map name).IsChain (· < ·) := by decide
  exact List.pairwise_map.mp (List.isChain_iff_pairwise.mp ascending)

/-- The other terminals follow the keywords in a hint. -/
theorem hintOrder_eq :
    hintOrder = keywords ++
      nameOrder.filter fun terminal => !terminal.isKeyword := rfl

theorem isKeyword_of_mem_keywords {terminal : Terminal}
    (member : terminal ∈ keywords) : terminal.isKeyword = true := by
  simp only [keywords, List.mem_cons, List.not_mem_nil, or_false] at member
  rcases member with rfl | rfl | rfl | rfl | rfl | rfl | rfl | rfl | rfl <;> rfl

theorem mem_keywords_of_isKeyword {terminal : Terminal}
    (keyword : terminal.isKeyword = true) : terminal ∈ keywords := by
  cases terminal with
  | keyword word => cases word <;> simp [keywords]
  | _ => cases keyword

theorem label_of_isKeyword {terminal : Terminal}
    (keyword : terminal.isKeyword = true) :
    terminal.label = "directive keyword" := by
  cases terminal with
  | keyword word => rfl
  | _ => cases keyword

theorem label_ne_of_not_isKeyword {terminal : Terminal}
    (other : terminal.isKeyword = false) :
    terminal.label ≠ "directive keyword" := by
  cases terminal with
  | keyword word => cases other
  | _ => simp [label]

/-- Labels that are all the same stand once in front of others. -/
theorem eraseDups_append_of_same (shared : String) {front back : List String}
    (same : ∀ label ∈ front, label = shared)
    (different : ∀ label ∈ back, label ≠ shared) :
    (front ++ back).eraseDups =
      (if front.isEmpty then [] else [shared]) ++ back.eraseDups := by
  have untouched : back.removeAll front = back := by
    rw [List.removeAll, List.filter_eq_self]
    intro label member
    simp only [List.elem_eq_contains, Bool.not_eq_eq_eq_not, Bool.not_true,
      List.contains_eq_mem, decide_eq_false_iff_not]
    exact fun inFront => different label member (same label inFront)
  rw [List.eraseDups_append, untouched]
  congr 1
  cases front with
  | nil => rfl
  | cons label front =>
      obtain rfl := same label List.mem_cons_self
      have rest : (front.filter fun other => !other == label) = [] := by
        rw [List.filter_eq_nil_iff]
        intro other member
        simp [same other (List.mem_cons_of_mem _ member)]
      rw [List.eraseDups_cons, rest]
      rfl

theorem labels_eq_summary (expected : List Terminal) :
    labels expected = summary (nameOrder.filter expected.contains) := by
  rw [labels, hintOrder_eq, List.filter_append, List.map_append,
    eraseDups_append_of_same "directive keyword"]
  · rw [summary, List.filter_filter, List.filter_filter]
    congr 1
    · have empty : ((keywords.filter expected.contains).map label).isEmpty =
          !(nameOrder.filter expected.contains).any isKeyword := by
        rw [Bool.eq_iff_iff]
        simp only [List.isEmpty_iff, List.map_eq_nil_iff,
          List.filter_eq_nil_iff, Bool.not_eq_true', List.any_eq_false,
          List.mem_filter, and_imp]
        constructor
        · intro none terminal _ here keyword
          exact none terminal (mem_keywords_of_isKeyword keyword) here
        · intro none terminal member here
          exact none terminal (mem_nameOrder terminal) here
            (isKeyword_of_mem_keywords member)
      rw [empty]
      cases (nameOrder.filter expected.contains).any isKeyword <;> rfl
    · simp only [Bool.and_comm]
  · intro shown member
    obtain ⟨terminal, inFront, rfl⟩ := List.mem_map.mp member
    exact label_of_isKeyword
      (isKeyword_of_mem_keywords (List.mem_filter.mp inFront).1)
  · intro shown member
    obtain ⟨terminal, inBack, rfl⟩ := List.mem_map.mp member
    have other := (List.mem_filter.mp (List.mem_filter.mp inBack).1).2
    exact label_ne_of_not_isKeyword (by simpa using other)

/-- A hint lists exactly what was expected, in the order of the names. -/
theorem hint_eq (expected : List Terminal) :
    ∃ listed, InNameOrder listed ∧
      (∀ terminal, terminal ∈ listed ↔ terminal ∈ expected) ∧
      hint expected = hintText (summary listed) := by
  refine ⟨nameOrder.filter expected.contains,
    nameOrder_inNameOrder.filter _, ?_, ?_⟩
  · intro terminal
    simp [mem_nameOrder]
  · rw [hint, labels_eq_summary]
    cases summary (nameOrder.filter expected.contains) <;> rfl

/-- A hint depends on the set of what was expected only. -/
theorem hint_congr {expected expected' : List Terminal}
    (same : ∀ terminal, terminal ∈ expected ↔ terminal ∈ expected') :
    hint expected = hint expected' := by
  have contains : expected.contains = expected'.contains := by
    funext terminal
    rw [Bool.eq_iff_iff, List.contains_iff_mem, List.contains_iff_mem, same]
  rw [hint, hint, labels, labels, contains]

end Terminal

end TemplateSyntax
