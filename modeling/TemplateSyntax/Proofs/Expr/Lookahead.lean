import TemplateSyntax.Expr.Reading
import TemplateSyntax.Proofs.Reading.Lookahead
import TemplateSyntax.Proofs.Terminal.Lookahead

/-!
# Looking ahead in expressions

The text ahead of a place in an expression tells which terminal can follow
there (`State.ahead`).  One character does not always decide it: an operator
needs a space behind it, which sets it apart from the sign of a number and from
a dollar, and a parenthesis around an operator is part of its name.

The expression may stand inside a line, where more can follow it than its own
terminals.  So the lemmas are about any notion of a live place from which, as
long as the expression is not complete, some move leads to another live place.
-/

namespace TemplateSyntax.Expr

open Scan

/-! ### How operands and operators begin -/

/-- How a text begins from which a terminal reads the beginning of an
operand. -/
inductive OperandAhead : Terminal → List Char → Prop where
  | group (rest : List Char) : OperandAhead .exprOpenParen ('(' :: rest)
  | operatorName {rest : List Char} :
      (parenthesisedOperator ('(' :: rest)).isSome = true →
      OperandAhead .operatorName ('(' :: rest)
  | string (rest : List Char) : OperandAhead .string ('"' :: rest)
  | list (rest : List Char) : OperandAhead .exprOpenBracket ('[' :: rest)
  | negative {digit : Char} (rest : List Char) :
      Unicode.isDecimal digit = true →
      OperandAhead .number ('-' :: digit :: rest)
  | number {digit : Char} (rest : List Char) :
      Unicode.isDecimal digit = true → OperandAhead .number (digit :: rest)
  | identifier {c : Char} (rest : List Char) :
      isNameHead c = true → OperandAhead .identifier (c :: rest)

def isOperandHead (c : Char) : Bool :=
  ['(', '"', '[', '-'].contains c || Unicode.isDecimal c || isNameHead c

theorem isBlank_of_isOperandHead {c : Char} (head : isOperandHead c = true) :
    Unicode.isBlank c = false := by
  rw [Bool.eq_false_iff]
  intro blank
  simp only [isOperandHead, Unicode.isDecimal_of_isBlank blank,
    isNameHead_of_isBlank blank, Bool.or_false, List.contains_iff_mem,
    List.mem_cons, List.not_mem_nil, or_false] at head
  rcases head with rfl | rfl | rfl | rfl <;> exact absurd blank (by decide)

theorem mem_of_isOperandHead {c : Char} (head : isOperandHead c = true)
    (mark : c ∈ marks) : c ∈ ['(', '"', '[', '-'] := by
  simp only [isOperandHead, Bool.or_eq_true, List.contains_iff_mem] at head
  rcases head with (bracket | decimal) | start
  · exact bracket
  · exact absurd mark (not_mem_marks_of_isDecimal decimal)
  · exact absurd mark (not_mem_marks_of_isNameHead start)

theorem head_of_number {text lexeme rest : List Char}
    (read : number text = some (lexeme, rest)) :
    OperandAhead .number text := by
  obtain ⟨sign, middle, _, signRead, digitsRead, _⟩ :=
    andThen_eq_some_iff.mp read
  obtain ⟨_, _, someDigits⟩ := exists_of_andThen digitsRead
  obtain ⟨digit, tail, rfl, decimal, _, _⟩ := some1_eq_some_iff.mp someDigits
  rcases eq_or_eq_of_optional signRead with minus | ⟨_, rfl⟩
  · obtain ⟨_, rfl⟩ := char_eq_some_iff.mp minus
    exact .negative tail decimal
  · exact .number tail decimal

theorem head_of_plainName {text lexeme rest : List Char}
    (read : plainName text = some (lexeme, rest)) :
    OperandAhead .identifier text := by
  obtain ⟨_, _, first⟩ := exists_of_andThen read
  obtain ⟨c, start, _, rfl⟩ := one_eq_some_iff.mp first
  exact .identifier _ (by simp [isNameHead, start])

theorem head_of_identifier {text lexeme rest : List Char}
    (read : identifier text = some (lexeme, rest)) :
    OperandAhead .identifier text := by
  rw [identifier] at read
  split at read
  · exact head_of_plainName read
  · rename_i step left stepRead
    split at read
    · exact head_of_plainName read
    · obtain ⟨_, _, first⟩ := exists_of_andThen stepRead
      obtain ⟨c, upper, _, rfl⟩ := one_eq_some_iff.mp first
      exact .identifier _ (by simp [isNameHead, upper])

theorem OperandAhead.of_scan {triggers : Triggers} {terminal : Terminal}
    {next : List Char → State} {clause : Clause} {frames : List Frame}
    {text lexeme rest : List Char}
    (member : (terminal, next) ∈ State.operands clause frames)
    (read : terminal.scan triggers text = some (lexeme, rest)) :
    OperandAhead terminal text := by
  simp only [State.operands, State.tightOperands, List.cons_append,
    List.nil_append, List.mem_cons, Prod.mk.injEq, List.not_mem_nil,
    or_false] at member
  rcases member with
    ⟨rfl, _⟩ | ⟨rfl, _⟩ | ⟨rfl, _⟩ | ⟨rfl, _⟩ | ⟨rfl, _⟩ | ⟨rfl, _⟩
  · obtain ⟨_, rfl⟩ := char_eq_some_iff.mp read
    exact .group rest
  · obtain ⟨c, tail, rfl, _, _⟩ := exists_of_parenthesisedOperator read
    exact .operatorName (Option.isSome_iff_exists.mpr ⟨_, read⟩)
  · obtain ⟨_, _, quote⟩ := exists_of_andThen read
    obtain ⟨_, rfl⟩ := char_eq_some_iff.mp quote
    exact .string _
  · obtain ⟨_, rfl⟩ := char_eq_some_iff.mp read
    exact .list rest
  · exact head_of_number read
  · exact head_of_identifier read

theorem OperandAhead.head {terminal : Terminal} {text : List Char}
    (ahead : OperandAhead terminal text) :
    ∃ c tail, text = c :: tail ∧ isOperandHead c = true := by
  cases ahead with
  | group rest => exact ⟨_, _, rfl, by decide⟩
  | operatorName => exact ⟨_, _, rfl, by decide⟩
  | string rest => exact ⟨_, _, rfl, by decide⟩
  | list rest => exact ⟨_, _, rfl, by decide⟩
  | negative rest => exact ⟨_, _, rfl, by decide⟩
  | number rest decimal =>
      exact ⟨_, _, rfl, by simp [isOperandHead, decimal]⟩
  | identifier rest start =>
      exact ⟨_, _, rfl, by simp [isOperandHead, start]⟩

theorem OperandAhead.visible {terminal : Terminal} {text : List Char}
    (ahead : OperandAhead terminal text) :
    ∃ c, Scan.visible text = some c ∧ isOperandHead c = true := by
  obtain ⟨c, tail, rfl, head⟩ := ahead.head
  exact ⟨c, visible_cons (isBlank_of_isOperandHead head) tail, head⟩

/-- The only operand that begins with an operator character is a number with
its sign. -/
theorem OperandAhead.digit_of_operator {terminal : Terminal} {c : Char}
    {tail : List Char} (ahead : OperandAhead terminal (c :: tail))
    (operator : isOperatorChar c = true) :
    c = '-' ∧ ∃ digit rest, tail = digit :: rest ∧
      Unicode.isDecimal digit = true := by
  have mark := mem_marks_of_isOperatorChar operator
  generalize textEq : c :: tail = text at ahead
  cases ahead with
  | group => cases textEq; exact absurd operator (by decide)
  | operatorName => cases textEq; exact absurd operator (by decide)
  | string => cases textEq; exact absurd operator (by decide)
  | list => cases textEq; exact absurd operator (by decide)
  | negative rest decimal =>
      cases textEq
      exact ⟨rfl, _, rest, rfl, decimal⟩
  | number rest decimal =>
      cases textEq
      exact absurd mark (not_mem_marks_of_isDecimal decimal)
  | identifier rest start =>
      cases textEq
      exact absurd mark (not_mem_marks_of_isNameHead start)

def operandAhead : List Char → Terminal
  | [] => .identifier
  | c :: rest =>
      if c = '(' then
        if (parenthesisedOperator (c :: rest)).isSome then .operatorName
        else .exprOpenParen
      else if c = '"' then .string
      else if c = '[' then .exprOpenBracket
      else if c = '-' || Unicode.isDecimal c then .number
      else .identifier

/-- An operator begins the text, with a space behind it. -/
def operatorAhead (text : List Char) : Bool :=
  ((operatorRun.only (· != ['$'])).before
    (fun ahead => ahead.head?.any isSpace) text).isSome

theorem OperandAhead.terminal_eq {terminal : Terminal} {text : List Char}
    (ahead : OperandAhead terminal text)
    (named : (parenthesisedOperator text).isSome = true →
      terminal ≠ .exprOpenParen) :
    terminal = operandAhead text := by
  have plain {c : Char} (other : c ∉ marks) :
      c ≠ '(' ∧ c ≠ '"' ∧ c ≠ '[' ∧ c ≠ '-' := by
    refine ⟨?_, ?_, ?_, ?_⟩ <;> rintro rfl <;> exact other (by decide)
  cases ahead with
  | group rest =>
      have bare : ¬(parenthesisedOperator ('(' :: rest)).isSome = true :=
        fun found => named found rfl
      simp [operandAhead, bare]
  | operatorName found => simp [operandAhead, found]
  | string rest => simp [operandAhead]
  | list rest => simp [operandAhead]
  | negative rest decimal => simp [operandAhead]
  | @number digit rest decimal =>
      obtain ⟨notParen, notQuote, notBracket, _⟩ :=
        plain (not_mem_marks_of_isDecimal decimal)
      simp [operandAhead, notParen, notQuote, notBracket, decimal]
  | @identifier c rest start =>
      obtain ⟨notParen, notQuote, notBracket, notMinus⟩ :=
        plain (not_mem_marks_of_isNameHead start)
      simp [operandAhead, notParen, notQuote, notBracket, notMinus,
        isDecimal_of_isNameHead start]

theorem operatorAhead_of_scan {triggers : Triggers}
    {text lexeme rest : List Char}
    (read : Terminal.operator.scan triggers text = some (lexeme, rest))
    (space : rest.head?.any isSpace = true) : operatorAhead text = true := by
  rw [operatorAhead, Option.isSome_iff_exists]
  exact ⟨(lexeme, rest), before_eq_some_iff.mpr ⟨read, space⟩⟩

theorem exists_of_operatorAhead {text : List Char}
    (ahead : operatorAhead text = true) :
    ∃ c tail, text = c :: tail ∧ isOperatorChar c = true ∧
      c :: tail.takeWhile isOperatorChar ≠ ['$'] ∧
      (tail.dropWhile isOperatorChar).head?.any isSpace = true := by
  obtain ⟨⟨lexeme, rest⟩, read⟩ := Option.isSome_iff_exists.mp ahead
  obtain ⟨ran, space⟩ := before_eq_some_iff.mp read
  obtain ⟨run, proper⟩ := only_eq_some_iff.mp ran
  obtain ⟨c, tail, rfl, operator, rfl, rfl⟩ := some1_eq_some_iff.mp run
  exact ⟨c, tail, rfl, operator, by simpa using proper, space⟩

theorem OperandAhead.not_operatorAhead {terminal : Terminal}
    {text : List Char} (ahead : OperandAhead terminal text) :
    operatorAhead text = false := by
  rw [Bool.eq_false_iff]
  intro operators
  obtain ⟨c, tail, rfl, operator, _, space⟩ :=
    exists_of_operatorAhead operators
  obtain ⟨rfl, digit, rest, rfl, decimal⟩ := ahead.digit_of_operator operator
  have notOperator : isOperatorChar digit = false := by
    rw [Bool.eq_false_iff]
    intro other
    exact not_mem_marks_of_isDecimal decimal (mem_marks_of_isOperatorChar other)
  -- the run is the sign alone, and the digit behind it is no space
  have digitSpace : isSpace digit = true := by
    simpa [notOperator] using space
  have blank := isBlank_of_isSpace digit digitSpace
  rw [Unicode.isDecimal_of_isBlank blank] at decimal
  cases decimal

/-! ### What follows a place -/

namespace State

def startAhead (text : List Char) : Terminal :=
  if text.head?.any isSpaceOrTab then .blanks else operandAhead text

def afterAhead (text : List Char) : Terminal :=
  if Scan.visible text = some ',' then .exprComma
  else if Scan.visible text = some ')' then .exprCloseParen
  else if Scan.visible text = some ']' then .exprCloseBracket
  else if text.head?.any isSpace then
    if Scan.visible text = some '$' ∧
        operatorAhead (text.dropWhile isSpace) = false then .dollar
    else .spaces
  else if text.head? = some '.' then .fieldAccess
  else operandAhead text

/-- The terminal that can follow in a state, by the text ahead. -/
def ahead (state : State) (text : List Char) : Terminal :=
  match state.phase with
  | .start => startAhead text
  | .opened =>
      if Scan.visible text = some ']' then .exprCloseBracket
      else startAhead text
  | .operand => operandAhead text
  | .argument _ =>
      if operatorAhead text then .operator else operandAhead text
  | .spaced => .spaces
  | .after _ => afterAhead text

end State

/-- Some move leads on from every live place in an incomplete expression. -/
abbrev Advancing : Triggers → (State → List Char → Prop) → Prop :=
  Language.Advancing language

namespace Advancing

variable {triggers : Triggers} {live : State → List Char → Prop}
  {clause : Clause} {frames : List Frame} {terminal : Terminal}
  {next : List Char → State} {text lexeme rest : List Char}

theorem head_of_start (advancing : Advancing triggers live)
    (alive : live ⟨.start, clause, frames⟩ text) :
    text.head?.any isSpaceOrTab = true ∨
      ∃ terminal, OperandAhead terminal text := by
  obtain ⟨terminal, _, _, _, member, read, _⟩ := advancing _ _ alive rfl
  rcases List.mem_append.mp member with blanks | operand
  · simp only [State.leadingBlanks, List.mem_singleton, Prod.mk.injEq] at blanks
    obtain ⟨rfl, _⟩ := blanks
    obtain ⟨c, tail, rfl, space, _, _⟩ := some1_eq_some_iff.mp read
    exact .inl space
  · exact .inr ⟨terminal, .of_scan operand read⟩

theorem head_of_operand (advancing : Advancing triggers live)
    (alive : live ⟨.operand, clause, frames⟩ text) :
    ∃ terminal, OperandAhead terminal text := by
  obtain ⟨terminal, _, _, _, member, read, _⟩ := advancing _ _ alive rfl
  exact ⟨terminal, .of_scan member read⟩

theorem head_of_spaced (advancing : Advancing triggers live)
    (alive : live ⟨.spaced, clause, frames⟩ text) :
    text.head?.any isSpace = true := by
  obtain ⟨_, _, _, _, member, read, _⟩ := advancing _ _ alive rfl
  obtain ⟨rfl, _⟩ := Prod.mk.inj (List.mem_singleton.mp member)
  obtain ⟨c, tail, rfl, space, _, _⟩ := some1_eq_some_iff.mp read
  exact space

theorem operatorAhead_of_operator (advancing : Advancing triggers live)
    {function : Expr}
    (member : (terminal, next) ∈ State.operators function clause frames)
    (read : terminal.scan triggers text = some (lexeme, rest))
    (alive : terminal.readsBrace = false → live (next lexeme) rest) :
    terminal = .operator ∧ operatorAhead text = true := by
  cases side : clause.side with
  | some left => simp [State.operators, side] at member
  | none =>
      simp only [State.operators, side, List.mem_singleton,
        Prod.mk.injEq] at member
      obtain ⟨rfl, rfl⟩ := member
      have space := advancing.head_of_spaced (alive rfl)
      exact ⟨rfl, operatorAhead_of_scan read space⟩

theorem head_of_argument (advancing : Advancing triggers live)
    {function : Expr} (alive : live ⟨.argument function, clause, frames⟩ text) :
    operatorAhead text = true ∨ ∃ terminal, OperandAhead terminal text := by
  obtain ⟨terminal, _, _, _, member, read, later⟩ := advancing _ _ alive rfl
  rcases List.mem_append.mp member with operand | operator
  · exact .inr ⟨terminal, .of_scan operand read⟩
  · exact .inl (advancing.operatorAhead_of_operator operator read later).2

/-- No expression begins with an operator character, unless it is the sign of a
number. -/
theorem not_start_of_operator (advancing : Advancing triggers live) {c : Char}
    {tail : List Char} (operator : isOperatorChar c = true)
    (behind : ∀ other, tail.head? = some other →
      Unicode.isDecimal other = false) :
    ¬live ⟨.start, clause, frames⟩ (c :: tail) := by
  intro alive
  rcases advancing.head_of_start alive with space | ⟨terminal, ahead⟩
  · have blank := isBlank_of_isSpaceOrTab c space
    rw [isBlank_of_isOperatorChar operator] at blank
    cases blank
  · obtain ⟨_, digit, rest, rfl, decimal⟩ := ahead.digit_of_operator operator
    rw [behind digit rfl] at decimal
    cases decimal

/-- What stands behind the operator characters that go on from a place is no
digit if none follows the last of them. -/
theorem notDecimal_of_run {tail : List Char}
    (behind : ∀ other, (tail.dropWhile isOperatorChar).head? = some other →
      Unicode.isDecimal other = false) :
    ∀ other, tail.head? = some other → Unicode.isDecimal other = false := by
  intro other found
  obtain ⟨rest, rfl⟩ := List.head?_eq_some_iff.mp found
  by_cases operator : isOperatorChar other = true
  · rw [Bool.eq_false_iff]
    intro decimal
    exact not_mem_marks_of_isDecimal decimal
      (mem_marks_of_isOperatorChar operator)
  · exact behind other (by simp [operator])

/-- A parenthesis that opens an expression is not the beginning of an
operator's name. -/
theorem operand_terminal (advancing : Advancing triggers live)
    (member : (terminal, next) ∈ State.operands clause frames)
    (read : terminal.scan triggers text = some (lexeme, rest))
    (alive : terminal.readsBrace = false → live (next lexeme) rest) :
    terminal = operandAhead text := by
  apply (OperandAhead.of_scan member read).terminal_eq
  rintro named rfl
  obtain ⟨_, rfl⟩ := char_eq_some_iff.mp read
  obtain ⟨⟨_, last⟩, found⟩ := Option.isSome_iff_exists.mp named
  obtain ⟨c, tail, textEq, operator, closing⟩ :=
    exists_of_parenthesisedOperator found
  cases textEq
  have nextEq : next = fun _ => State.opening .paren .start clause frames := by
    simpa [State.operands, State.tightOperands] using member
  subst nextEq
  refine advancing.not_start_of_operator operator ?_ (alive rfl)
  apply notDecimal_of_run
  intro other behind
  rw [closing] at behind
  cases behind
  decide

theorem blanks_or_operand (advancing : Advancing triggers live)
    (member : (terminal, next) ∈ State.leadingBlanks clause frames ++
      State.operands clause frames)
    (read : terminal.scan triggers text = some (lexeme, rest))
    (alive : terminal.readsBrace = false → live (next lexeme) rest) :
    terminal = State.startAhead text ∧
      ∃ c, Scan.visible text = some c ∧ isOperandHead c = true := by
  rcases List.mem_append.mp member with blanks | operand
  · simp only [State.leadingBlanks, List.mem_singleton, Prod.mk.injEq] at blanks
    obtain ⟨rfl, rfl⟩ := blanks
    have restEq := rest_of_some1 read
    obtain ⟨c, tail, rfl, space, _, _⟩ := some1_eq_some_iff.mp read
    obtain ⟨_, ahead⟩ := advancing.head_of_operand (alive rfl)
    obtain ⟨shown, visible, head⟩ := ahead.visible
    rw [restEq, visible_dropWhile isBlank_of_isSpaceOrTab] at visible
    exact ⟨by simp [State.startAhead, space], shown, visible, head⟩
  · have ahead := OperandAhead.of_scan operand read
    refine ⟨?_, ahead.visible⟩
    rw [advancing.operand_terminal operand read alive, State.startAhead,
      if_neg]
    obtain ⟨c, tail, rfl, head⟩ := ahead.head
    intro space
    have blank := isBlank_of_isSpaceOrTab c space
    rw [isBlank_of_isOperandHead head] at blank
    cases blank

theorem visible_of_spaces (advancing : Advancing triggers live)
    {function : Expr}
    (alive : live ⟨.argument function, clause, frames⟩
      (text.dropWhile isSpace)) :
    ∃ c, Scan.visible text = some c ∧ c ∉ [',', ')', ']', '}'] ∧
      (c = '$' → operatorAhead (text.dropWhile isSpace) = true) := by
  rw [← visible_dropWhile isBlank_of_isSpace text]
  rcases advancing.head_of_argument alive with operators | ⟨_, ahead⟩
  · obtain ⟨c, tail, restEq, operator, _, _⟩ :=
      exists_of_operatorAhead operators
    refine ⟨c, ?_, ?_, fun _ => operators⟩
    · rw [restEq, visible_cons (isBlank_of_isOperatorChar operator)]
    · intro closing
      simp only [List.mem_cons, List.not_mem_nil, or_false] at closing
      rcases closing with rfl | rfl | rfl | rfl <;>
        exact absurd operator (by decide)
  · obtain ⟨c, shown, head⟩ := ahead.visible
    refine ⟨c, shown, ?_, ?_⟩
    · intro closing
      simp only [List.mem_cons, List.not_mem_nil, or_false] at closing
      rcases closing with rfl | rfl | rfl | rfl <;>
        exact absurd (mem_of_isOperandHead head (by decide)) (by decide)
    · rintro rfl
      exact absurd (mem_of_isOperandHead head (by decide)) (by decide)

theorem fieldAccess_or_spaces (advancing : Advancing triggers live)
    {operand : Expr}
    (member : (terminal, next) ∈
      [(.fieldAccess, fun lexeme =>
          ⟨.after (operand.access lexeme), clause, frames⟩),
        (.spaces, fun _ =>
          ⟨.argument (clause.call operand), clause, frames⟩)])
    (read : terminal.scan triggers text = some (lexeme, rest))
    (alive : terminal.readsBrace = false → live (next lexeme) rest) :
    terminal = State.afterAhead text ∧ Scan.visible text ≠ some '}' := by
  simp only [List.mem_cons, Prod.mk.injEq, List.not_mem_nil, or_false] at member
  rcases member with ⟨rfl, _⟩ | ⟨rfl, rfl⟩
  · obtain ⟨_, _, dot⟩ := exists_of_andThen read
    obtain ⟨_, textEq⟩ := char_eq_some_iff.mp dot
    have shown : Scan.visible text = some '.' := by
      rw [textEq, visible_cons (by decide)]
    have head : text.head? = some '.' := by
      rw [textEq, List.head?_cons]
    simp [State.afterAhead, shown, head, isSpace]
  · have restEq := rest_of_some1 read
    obtain ⟨c, tail, rfl, space, _, _⟩ := some1_eq_some_iff.mp read
    have after := alive rfl
    rw [restEq] at after
    obtain ⟨shown, visible, notClosing, dollar⟩ :=
      advancing.visible_of_spaces after
    simp only [List.mem_cons, List.not_mem_nil, or_false, not_or] at notClosing
    obtain ⟨notComma, notParen, notBracket, notBrace⟩ := notClosing
    refine ⟨?_, by simpa [visible] using notBrace⟩
    rw [List.dropWhile_cons_of_pos space] at dollar
    by_cases isDollar : shown = '$'
    · simp [State.afterAhead, visible, notComma, notParen, notBracket, space,
        dollar isDollar]
    · simp [State.afterAhead, visible, notComma, notParen, notBracket, space,
        isDollar]

theorem tightOperand (advancing : Advancing triggers live)
    (member : (terminal, next) ∈ State.tightOperands clause frames)
    (read : terminal.scan triggers text = some (lexeme, rest))
    (alive : terminal.readsBrace = false → live (next lexeme) rest) :
    terminal = State.afterAhead text ∧ Scan.visible text ≠ some '}' := by
  have operand : (terminal, next) ∈ State.operands clause frames :=
    List.mem_append_left _ member
  have terminalEq := advancing.operand_terminal operand read alive
  have head : ∃ c tail, text = c :: tail ∧ (c = '(' ∨ c = '"') := by
    have ahead := OperandAhead.of_scan operand read
    simp only [State.tightOperands, List.mem_cons, Prod.mk.injEq,
      List.not_mem_nil, or_false] at member
    rcases member with ⟨rfl, _⟩ | ⟨rfl, _⟩ | ⟨rfl, _⟩
    · cases ahead
      exact ⟨_, _, rfl, .inl rfl⟩
    · cases ahead
      exact ⟨_, _, rfl, .inl rfl⟩
    · cases ahead
      exact ⟨_, _, rfl, .inr rfl⟩
  obtain ⟨c, tail, rfl, paren | quote⟩ := head
  · subst paren
    have shown : Scan.visible ('(' :: tail) = some '(' :=
      visible_cons (by decide) tail
    simp [State.afterAhead, shown, isSpace, terminalEq]
  · subst quote
    have shown : Scan.visible ('"' :: tail) = some '"' :=
      visible_cons (by decide) tail
    simp [State.afterAhead, shown, isSpace, terminalEq]

/-- A dollar that can be gone on from is not the beginning of an operator. -/
theorem not_operatorAhead_of_dollar (advancing : Advancing triggers live)
    (alive : live ⟨.start, clause, frames⟩ rest) :
    operatorAhead ('$' :: rest) = false := by
  rw [Bool.eq_false_iff]
  intro operators
  obtain ⟨_, _, textEq, _, longer, behind⟩ := exists_of_operatorAhead operators
  cases textEq
  cases rest with
  | nil => simp at longer
  | cons second others =>
      by_cases operator : isOperatorChar second = true
      · refine advancing.not_start_of_operator operator ?_ alive
        apply notDecimal_of_run
        intro other found
        rw [List.dropWhile_cons_of_pos operator, found] at behind
        exact Unicode.isDecimal_of_isBlank (isBlank_of_isSpace other behind)
      · simp [operator] at longer

theorem dollar (advancing : Advancing triggers live) {operand : Expr}
    (member : (terminal, next) ∈ State.dollars operand clause frames)
    (read : terminal.scan triggers text = some (lexeme, rest))
    (alive : terminal.readsBrace = false → live (next lexeme) rest) :
    terminal = State.afterAhead text ∧ Scan.visible text ≠ some '}' := by
  cases side : clause.side with
  | some left => simp [State.dollars, side] at member
  | none =>
      simp only [State.dollars, side, List.mem_singleton,
        Prod.mk.injEq] at member
      obtain ⟨rfl, rfl⟩ := member
      obtain ⟨_, middle, _, spaces, sign, _⟩ := andThen_eq_some_iff.mp read
      have middleEq := rest_of_some1 spaces
      obtain ⟨c, tail, rfl, space, _, _⟩ := some1_eq_some_iff.mp spaces
      obtain ⟨_, rfl⟩ := char_eq_some_iff.mp sign
      have shown : Scan.visible (c :: tail) = some '$' := by
        rw [← visible_dropWhile isBlank_of_isSpace, ← middleEq]
        exact visible_cons (by decide) rest
      rw [List.dropWhile_cons_of_pos space] at middleEq
      have single := advancing.not_operatorAhead_of_dollar (alive rfl)
      rw [middleEq] at single
      simp [State.afterAhead, shown, space, single]

theorem itemEnd {item : Expr}
    (member : (terminal, next) ∈ State.itemEnds item frames)
    (read : terminal.scan triggers text = some (lexeme, rest)) :
    terminal = State.afterAhead text ∧ Scan.visible text ≠ some '}' := by
  have ends {c : Char} (bare : Unicode.isBlank c = false)
      (found : blanksThen isSpaceOrTab (char c) text = some (lexeme, rest)) :
      Scan.visible text = some c :=
    visible_of_blanksThen isBlank_of_isSpaceOrTab bare head_of_char found
  cases frames with
  | nil => simp [State.itemEnds] at member
  | cons frame frames =>
      simp only [State.itemEnds, List.mem_cons, Prod.mk.injEq,
        List.not_mem_nil, or_false] at member
      rcases member with ⟨rfl, _⟩ | ⟨rfl, _⟩
      · simp [State.afterAhead, ends (by decide) read]
      · cases bracket : frame.bracket with
        | paren =>
            rw [bracket] at read
            simp [State.afterAhead, ends (by decide) read]
        | list =>
            rw [bracket] at read
            simp [State.afterAhead, ends (by decide) read]

/-- What has been read up to an operand goes on with the terminal the text
ahead calls for, and not with a closing brace. -/
theorem after_terminal (advancing : Advancing triggers live) {operand : Expr}
    (member : (terminal, next) ∈
      State.moves ⟨.after operand, clause, frames⟩)
    (read : terminal.scan triggers text = some (lexeme, rest))
    (alive : terminal.readsBrace = false → live (next lexeme) rest) :
    terminal = State.afterAhead text ∧ Scan.visible text ≠ some '}' := by
  simp only [State.moves, List.append_assoc] at member
  rcases List.mem_append.mp member with near | member
  · exact advancing.fieldAccess_or_spaces near read alive
  rcases List.mem_append.mp member with tight | member
  · exact advancing.tightOperand tight read alive
  rcases List.mem_append.mp member with dollars | ends
  · exact advancing.dollar dollars read alive
  · exact itemEnd ends read

theorem visible_of_value (advancing : Advancing triggers live)
    {state : State} {value : Expr} (finished : state.value? = some value)
    (member : (terminal, next) ∈ state.moves)
    (read : terminal.scan triggers text = some (lexeme, rest))
    (alive : terminal.readsBrace = false → live (next lexeme) rest) :
    Scan.visible text ≠ some '}' := by
  obtain ⟨phase, clause, frames⟩ := state
  cases phase with
  | after operand => exact (advancing.after_terminal member read alive).2
  | _ => cases finished

theorem emptyListEnd_terminal
    (member : (terminal, next) ∈ State.emptyListEnd frames)
    (read : terminal.scan triggers text = some (lexeme, rest)) :
    terminal = .exprCloseBracket ∧ Scan.visible text = some ']' := by
  unfold State.emptyListEnd at member
  split at member
  · simp only [List.mem_singleton, Prod.mk.injEq] at member
    obtain ⟨rfl, _⟩ := member
    exact ⟨rfl, visible_of_blanksThen isBlank_of_isSpaceOrTab (by decide)
      head_of_char read⟩
  · simp at member

/-- From every place, only the terminal the text ahead calls for leads to a
live place. -/
theorem terminal_eq_ahead (advancing : Advancing triggers live)
    {state : State} (member : (terminal, next) ∈ state.moves)
    (read : terminal.scan triggers text = some (lexeme, rest))
    (alive : terminal.readsBrace = false → live (next lexeme) rest) :
    terminal = state.ahead text := by
  obtain ⟨phase, clause, frames⟩ := state
  cases phase with
  | start => exact (advancing.blanks_or_operand member read alive).1
  | opened =>
      rcases List.mem_append.mp member with item | closing
      · obtain ⟨terminalEq, c, shown, head⟩ :=
          advancing.blanks_or_operand item read alive
        have notBracket : c ≠ ']' := by
          rintro rfl
          exact absurd (mem_of_isOperandHead head (by decide)) (by decide)
        simp [State.ahead, shown, notBracket, terminalEq]
      · obtain ⟨terminalEq, shown⟩ := emptyListEnd_terminal closing read
        simp [State.ahead, shown, terminalEq]
  | operand => exact advancing.operand_terminal member read alive
  | argument function =>
      rcases List.mem_append.mp member with operand | operator
      · have notOperator := (OperandAhead.of_scan operand read).not_operatorAhead
        have terminalEq := advancing.operand_terminal operand read alive
        simp [State.ahead, notOperator, terminalEq]
      · obtain ⟨terminalEq, operators⟩ :=
          advancing.operatorAhead_of_operator operator read alive
        simp [State.ahead, operators, terminalEq]
  | spaced =>
      simp only [State.moves, List.mem_singleton, Prod.mk.injEq] at member
      exact member.1
  | after operand => exact (advancing.after_terminal member read alive).1

end Advancing

/-! ### Texts that are expressions -/

/-- No two moves read the same terminal, and none reads one of those that can
follow an expression. -/
theorem expected_nodup (state : State) :
    (.valueClose :: .controlClose :: language.expected state).Nodup := by
  obtain ⟨phase, clause, frames⟩ := state
  simp only [Language.expected, language]
  cases phase with
  | start =>
      simp [State.moves, State.leadingBlanks, State.operands,
        State.tightOperands]
  | opened =>
      simp only [State.moves, State.leadingBlanks, State.operands,
        State.tightOperands]
      unfold State.emptyListEnd
      split <;> simp
  | operand => simp [State.moves, State.operands, State.tightOperands]
  | argument function =>
      cases side : clause.side <;>
        simp [State.moves, State.operands, State.tightOperands,
          State.operators, side]
  | spaced => simp [State.moves]
  | after operand =>
      cases side : clause.side <;> cases frames with
      | nil =>
          simp [State.moves, State.tightOperands, State.dollars,
            State.itemEnds, side]
      | cons frame frames =>
          cases bracket : frame.bracket <;>
            simp [State.moves, State.tightOperands, State.dollars,
              State.itemEnds, side, bracket]

theorem language_distinct : language.Distinct :=
  fun state => (expected_nodup state).of_cons.of_cons

theorem language_foresees (triggers : Triggers) :
    language.Foresees triggers State.ahead := by
  intro live advancing state text terminal next lexeme rest member read alive
  exact Advancing.terminal_eq_ahead advancing member read alive

end TemplateSyntax.Expr
