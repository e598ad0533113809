import TemplateSyntax.Expr.Grammar
import TemplateSyntax.Expr.Reading
import TemplateSyntax.Proofs.Reading.Recognition

/-!
# What an expression reader has read

Each state of the expression reader stands for the part of a derivation that
lies to the left of the place.  `Justified` says which tokens may have led to a
state: the open brackets with the items in them, and in the innermost one the
functions in front of dollars, the left side of an operator and the application
being read.  Every move keeps it (`Justified.step`), and where an expression
may end it is a derivation (`expression_of_path`).
-/

namespace TemplateSyntax.Expr

open Grammar

namespace Grammar

/-- The blanks that may stand in front of an expression. -/
inductive Indent : List Token → Prop where
  | none : Indent []
  | blanks (lexeme : List Char) : Indent [⟨.blanks, lexeme⟩]

/-- Functions with their dollars, latest first. -/
inductive Dollars : List Token → List Expr → Prop where
  | nil : Dollars [] []
  | cons (sign : List Char) {before indent left : List Token}
      {functions : List Expr} {function : Expr} :
      Dollars before functions → Indent indent → Application left function →
      Dollars (before ++ indent ++ left ++ [⟨.dollar, sign⟩])
        (function :: functions)

/-- The left side of an operator with the operator, if there is one. -/
inductive Side : List Token → Option Expr → Prop where
  | none : Side [] none
  | operator (before name after : List Char) {left : List Token}
      {first : Expr} :
      Application left first →
      Side
        (left ++ [⟨.spaces, before⟩, ⟨.operator, name⟩, ⟨.spaces, after⟩])
        (some (.apply (ofOperator name) first))

/-- The application in front of an argument, if there is one.  Without spaces
behind it the argument has to be tight. -/
inductive Callee : Bool → List Token → Option Expr → Prop where
  | none : Callee false [] none
  | spaced (gap : List Char) {left : List Token} {function : Expr} :
      Application left function →
      Callee false (left ++ [⟨.spaces, gap⟩]) (some function)
  | tight {left : List Token} {function : Expr} :
      Application left function → Callee true left (some function)

/-- An operand behind the application it is an argument of, if there is one. -/
inductive Call : List Token → Option Expr → Expr → Prop where
  | first {tokens : List Token} {operand : Expr} :
      Operand tokens operand → Call tokens none operand
  | spaced (gap : List Char) {left right : List Token}
      {function operand : Expr} :
      Application left function → Operand right operand →
      Call (left ++ ⟨.spaces, gap⟩ :: right) (some function) operand
  | tight {left right : List Token} {function operand : Expr} :
      Application left function → TightOperand right operand →
      Call (left ++ right) (some function) operand

/-- Items with a comma behind each, latest first. -/
inductive Listed : List Token → List Expr → Prop where
  | nil : Listed [] []
  | cons (comma : List Char) {before tokens : List Token} {item : Expr}
      {items : List Expr} :
      Listed before items → Expression tokens item →
      Listed (before ++ tokens ++ [⟨.exprComma, comma⟩]) (item :: items)

theorem Expression.of_indent {indent tokens : List Token} {value : Expr}
    (front : Indent indent) (body : Body tokens value) :
    Expression (indent ++ tokens) value := by
  cases front with
  | none => exact .plain body
  | blanks lexeme => exact .indented lexeme body

/-- The functions in front of dollars take everything behind them as their
argument, the latest first. -/
theorem Dollars.close {before : List Token} {functions : List Expr}
    (dollars : Dollars before functions) :
    ∀ {rest : List Token} {value : Expr}, Expression rest value →
      Expression (before ++ rest)
        (functions.foldl (fun argument function => .apply function argument)
          value) := by
  induction dollars with
  | nil =>
      intro rest value expression
      exact expression
  | @cons sign before indent left functions function _ front application ih =>
      intro rest value expression
      have body := Body.dollar sign application expression
      have whole := ih (Expression.of_indent front body)
      simpa using whole

theorem Side.close {before tokens : List Token} {side : Option Expr}
    {operand : Expr} (front : Side before side)
    (application : Application tokens operand) :
    Body (before ++ tokens) (side.elim operand fun left => .apply left operand) := by
  cases front with
  | none => exact .application application
  | operator before name after left =>
      simpa using Body.operator before name after left application

theorem Call.application {tokens : List Token} {function : Option Expr}
    {operand : Expr} (call : Call tokens function operand) :
    Application tokens
      (function.elim operand fun callee => .apply callee operand) := by
  cases call with
  | first operand => exact .operand operand
  | spaced gap application operand => exact .spaced gap application operand
  | tight application operand => exact .tight application operand

theorem Operand.access {tokens : List Token} {value : Expr}
    (operand : Operand tokens value) (lexeme : List Char) :
    Operand (tokens ++ [⟨.fieldAccess, lexeme⟩]) (value.access lexeme) := by
  cases operand with
  | fields names atom =>
      simpa [accesses] using Operand.fields (names ++ [lexeme]) atom

theorem TightOperand.access {tokens : List Token} {value : Expr}
    (operand : TightOperand tokens value) (lexeme : List Char) :
    TightOperand (tokens ++ [⟨.fieldAccess, lexeme⟩])
      (value.access lexeme) := by
  cases operand with
  | fields names atom =>
      simpa [accesses] using TightOperand.fields (names ++ [lexeme]) atom

theorem Call.access {tokens : List Token} {function : Option Expr}
    {operand : Expr} (call : Call tokens function operand)
    (lexeme : List Char) :
    Call (tokens ++ [⟨.fieldAccess, lexeme⟩]) function
      (operand.access lexeme) := by
  cases call with
  | first operand => exact .first (operand.access lexeme)
  | spaced gap application operand =>
      simpa using Call.spaced gap application (operand.access lexeme)
  | tight application operand =>
      simpa using Call.tight application (operand.access lexeme)

theorem Operand.of_atom {tokens : List Token} {value : Expr}
    (atom : Atom tokens value) : Operand tokens value := by
  simpa [accesses] using Operand.fields [] atom

theorem TightOperand.of_atom {tokens : List Token} {value : Expr}
    (atom : TightAtom tokens value) : TightOperand tokens value := by
  simpa [accesses] using TightOperand.fields [] atom

theorem Operand.of_tightAtom {tokens : List Token} {value : Expr}
    (atom : TightAtom tokens value) : Operand tokens value :=
  .of_atom (.tight atom)

theorem Callee.operand {before tokens : List Token} {function : Option Expr}
    {value : Expr} (callee : Callee false before function)
    (atom : Atom tokens value) : Call (before ++ tokens) function value := by
  cases callee with
  | none => exact .first (.of_atom atom)
  | spaced gap application =>
      simpa using Call.spaced gap application (.of_atom atom)

theorem Callee.tightOperand {tight : Bool} {before tokens : List Token}
    {function : Option Expr} {value : Expr}
    (callee : Callee tight before function) (atom : TightAtom tokens value) :
    Call (before ++ tokens) function value := by
  cases callee with
  | none => exact .first (.of_tightAtom atom)
  | spaced gap application =>
      simpa using Call.spaced gap application (.of_tightAtom atom)
  | tight application => exact .tight application (.of_atom atom)

theorem Listed.items {before : List Token} {items : List Expr}
    (listed : Listed before items) :
    ∀ {rest : List Token} {values : List Expr}, Items rest values →
      Items (before ++ rest) (items.reverse ++ values) := by
  induction listed with
  | nil =>
      intro rest values later
      exact later
  | cons comma _ item ih =>
      intro rest values later
      simpa using ih (Items.more comma item later)

theorem Items.tightAtom {tokens : List Token} {values : List Expr}
    (items : Items tokens values) (several : 2 ≤ values.length)
    (opening closing : List Char) :
    TightAtom
      (⟨.exprOpenParen, opening⟩ :: tokens ++ [⟨.exprCloseParen, closing⟩])
      (.tuple values) := by
  cases items with
  | one => simp at several
  | more comma first rest =>
      simpa using TightAtom.tuple opening comma closing first rest

theorem Listed.tightAtom {before tokens : List Token} {items : List Expr}
    {last : Expr} (listed : Listed before items)
    (expression : Expression tokens last) (opening closing : List Char)
    (outer : Clause) :
    TightAtom
      (⟨.exprOpenParen, opening⟩ :: (before ++ tokens) ++
        [⟨.exprCloseParen, closing⟩])
      (Frame.close ⟨.paren, items, outer⟩ last) := by
  have whole := listed.items (Items.one expression)
  cases listed with
  | nil => exact .group opening closing expression
  | cons => exact whole.tightAtom (by simp) opening closing

theorem Listed.listAtom {before tokens : List Token} {items : List Expr}
    {last : Expr} (listed : Listed before items)
    (expression : Expression tokens last) (opening closing : List Char)
    (outer : Clause) :
    Atom
      (⟨.exprOpenBracket, opening⟩ :: (before ++ tokens) ++
        [⟨.exprCloseBracket, closing⟩])
      (Frame.close ⟨.list, items, outer⟩ last) :=
  .list opening closing (listed.items (Items.one expression))

end Grammar

/-- What stands between the beginning of an expression and the application that
its operand belongs to. -/
inductive Lead : List Token → Clause → Prop where
  | mk {before indent left : List Token} {clause : Clause} :
      Dollars before clause.dollars → Indent indent → Side left clause.side →
      Lead (before ++ indent ++ left) clause

/-- The open brackets with what stands to the left of each and the items that
have been read in it. -/
inductive Opened : List Token → List Frame → Prop where
  | nil : Opened [] []
  | paren (opening : List Char) {tight : Bool}
      {outer lead callee before : List Token} {items : List Expr}
      {clause : Clause} {frames : List Frame} :
      Opened outer frames → Lead lead clause →
      Callee tight callee clause.function → Listed before items →
      Opened (outer ++ lead ++ callee ++ ⟨.exprOpenParen, opening⟩ :: before)
        (⟨.paren, items, clause⟩ :: frames)
  | list (opening : List Char) {outer lead callee before : List Token}
      {items : List Expr} {clause : Clause} {frames : List Frame} :
      Opened outer frames → Lead lead clause →
      Callee false callee clause.function → Listed before items →
      Opened
        (outer ++ lead ++ callee ++ ⟨.exprOpenBracket, opening⟩ :: before)
        (⟨.list, items, clause⟩ :: frames)

/-- The tokens that may have led to a state. -/
inductive Justified : List Token → State → Prop where
  | start {outer before : List Token} {functions : List Expr}
      {frames : List Frame} :
      Opened outer frames → Dollars before functions →
      Justified (outer ++ before) ⟨.start, ⟨functions, none, none⟩, frames⟩
  | opened {outer : List Token} {frames : List Frame} :
      Opened outer frames → Justified outer ⟨.opened, .empty, frames⟩
  | operand {outer lead callee : List Token} {clause : Clause}
      {frames : List Frame} :
      Opened outer frames → Lead lead clause →
      Callee false callee clause.function →
      Justified (outer ++ lead ++ callee) ⟨.operand, clause, frames⟩
  | argument (gap : List Char) {outer lead left : List Token}
      {clause : Clause} {function : Expr} {frames : List Frame} :
      Opened outer frames → Lead lead clause → Application left function →
      Justified (outer ++ lead ++ left ++ [⟨.spaces, gap⟩])
        ⟨.argument function, clause, frames⟩
  | spaced (gap name : List Char) {outer before indent left : List Token}
      {functions : List Expr} {first : Expr} {frames : List Frame} :
      Opened outer frames → Dollars before functions → Indent indent →
      Application left first →
      Justified
        (outer ++ before ++ indent ++ left ++
          [⟨.spaces, gap⟩, ⟨.operator, name⟩])
        ⟨.spaced, ⟨functions, some (.apply (ofOperator name) first), none⟩,
          frames⟩
  | after {outer lead call : List Token} {clause : Clause} {operand : Expr}
      {frames : List Frame} :
      Opened outer frames → Lead lead clause →
      Call call clause.function operand →
      Justified (outer ++ lead ++ call) ⟨.after operand, clause, frames⟩

theorem Lead.empty : Lead [] .empty := by
  have front : Lead ([] ++ [] ++ []) .empty := .mk .nil .none .none
  exact front

theorem Lead.applying {lead : List Token} {clause : Clause}
    (front : Lead lead clause) (function : Expr) :
    Lead lead (clause.applying function) := by
  cases front with
  | mk dollars indent side => exact .mk dollars indent side

theorem Clause.call_eq_elim (clause : Clause) (operand : Expr) :
    clause.call operand =
      clause.function.elim operand fun callee => .apply callee operand := by
  unfold Clause.call
  cases clause.function <;> rfl

theorem Lead.close {lead tokens : List Token} {clause : Clause}
    {operand : Expr} (front : Lead lead clause)
    (call : Call tokens clause.function operand) :
    Expression (lead ++ tokens) (clause.close operand) := by
  cases front with
  | mk dollars indent side =>
      have application := call.application
      rw [← Clause.call_eq_elim] at application
      have body := side.close application
      have whole := dollars.close (Expression.of_indent indent body)
      unfold Clause.close
      cases sideEq : clause.side <;> simpa [sideEq] using whole

namespace Justified

variable {outer lead callee call : List Token} {clause : Clause}
  {frames : List Frame} {operand : Expr} {terminal : Terminal}
  {next : List Char → State}

theorem of_tightOperand {tight : Bool} (brackets : Opened outer frames)
    (front : Lead lead clause) (before : Callee tight callee clause.function)
    (member : (terminal, next) ∈ State.tightOperands clause frames)
    (lexeme : List Char) :
    Justified (outer ++ lead ++ callee ++ [⟨terminal, lexeme⟩])
      (next lexeme) := by
  simp only [State.tightOperands, List.mem_cons, Prod.mk.injEq,
    List.not_mem_nil, or_false] at member
  rcases member with ⟨rfl, rfl⟩ | ⟨rfl, rfl⟩ | ⟨rfl, rfl⟩
  · simpa [State.opening, Clause.empty] using Justified.start
      (.paren lexeme brackets front before .nil) .nil
  · simpa using Justified.after brackets front
      (before.tightOperand (.operatorName lexeme))
  · simpa using Justified.after brackets front
      (before.tightOperand (.string lexeme))

theorem of_operand (brackets : Opened outer frames)
    (front : Lead lead clause) (before : Callee false callee clause.function)
    (member : (terminal, next) ∈ State.operands clause frames)
    (lexeme : List Char) :
    Justified (outer ++ lead ++ callee ++ [⟨terminal, lexeme⟩])
      (next lexeme) := by
  rcases List.mem_append.mp member with tight | other
  · exact of_tightOperand brackets front before tight lexeme
  · simp only [List.mem_cons, Prod.mk.injEq, List.not_mem_nil,
      or_false] at other
    rcases other with ⟨rfl, rfl⟩ | ⟨rfl, rfl⟩ | ⟨rfl, rfl⟩
    · simpa [State.opening] using
        Justified.opened (.list lexeme brackets front before .nil)
    · simpa using Justified.after brackets front
        (before.operand (.number lexeme))
    · simpa using Justified.after brackets front
        (before.operand (.identifier lexeme))

theorem of_itemEnd {tokens : List Token} {item : Expr}
    (brackets : Opened outer frames) (expression : Expression tokens item)
    (member : (terminal, next) ∈ State.itemEnds item frames)
    (lexeme : List Char) :
    Justified (outer ++ tokens ++ [⟨terminal, lexeme⟩]) (next lexeme) := by
  cases brackets with
  | nil => simp [State.itemEnds] at member
  | paren opening brackets front before listed =>
      simp only [State.itemEnds, List.mem_cons, Prod.mk.injEq,
        List.not_mem_nil, or_false] at member
      rcases member with ⟨rfl, rfl⟩ | ⟨rfl, rfl⟩
      · simpa [Clause.empty] using Justified.start
          (.paren opening brackets front before
            (.cons lexeme listed expression)) .nil
      · simpa using Justified.after brackets front
          (before.tightOperand
            (listed.tightAtom expression opening lexeme _))
  | list opening brackets front before listed =>
      simp only [State.itemEnds, List.mem_cons, Prod.mk.injEq,
        List.not_mem_nil, or_false] at member
      rcases member with ⟨rfl, rfl⟩ | ⟨rfl, rfl⟩
      · simpa [Clause.empty] using Justified.start
          (.list opening brackets front before
            (.cons lexeme listed expression)) .nil
      · simpa using Justified.after brackets front
          (before.operand (listed.listAtom expression opening lexeme _))

theorem of_emptyListEnd (brackets : Opened outer frames)
    (member : (terminal, next) ∈ State.emptyListEnd frames)
    (lexeme : List Char) :
    Justified (outer ++ [⟨terminal, lexeme⟩]) (next lexeme) := by
  cases brackets with
  | nil => simp [State.emptyListEnd] at member
  | paren => simp [State.emptyListEnd] at member
  | list opening brackets front before listed =>
      cases listed with
      | nil =>
          simp only [State.emptyListEnd, List.mem_singleton,
            Prod.mk.injEq] at member
          obtain ⟨rfl, rfl⟩ := member
          simpa using Justified.after brackets front
            (before.operand (.emptyList opening lexeme))
      | cons => simp [State.emptyListEnd] at member

theorem of_leadingBlanks {before : List Token} {functions : List Expr}
    (brackets : Opened outer frames) (dollars : Dollars before functions)
    (member : (terminal, next) ∈
      State.leadingBlanks ⟨functions, none, none⟩ frames)
    (lexeme : List Char) :
    Justified (outer ++ before ++ [⟨terminal, lexeme⟩]) (next lexeme) := by
  simp only [State.leadingBlanks, List.mem_singleton,
    Prod.mk.injEq] at member
  obtain ⟨rfl, rfl⟩ := member
  have front : Lead (before ++ [⟨.blanks, lexeme⟩] ++ [])
      ⟨functions, none, none⟩ := .mk dollars (.blanks lexeme) .none
  simpa using Justified.operand brackets front .none

theorem of_operator {left : List Token} {function : Expr} (gap : List Char)
    (brackets : Opened outer frames) (front : Lead lead clause)
    (application : Application left function)
    (member : (terminal, next) ∈ State.operators function clause frames)
    (lexeme : List Char) :
    Justified
      (outer ++ lead ++ left ++ [⟨.spaces, gap⟩] ++ [⟨terminal, lexeme⟩])
      (next lexeme) := by
  cases front with
  | mk dollars indent side =>
      cases sideEq : clause.side with
      | some _ => simp [State.operators, sideEq] at member
      | none =>
          simp only [State.operators, sideEq, List.mem_singleton,
            Prod.mk.injEq] at member
          obtain ⟨rfl, rfl⟩ := member
          rw [sideEq] at side
          cases side with
          | none =>
              simpa [Clause.operate] using
                Justified.spaced gap lexeme brackets dollars indent application

theorem of_dollar (brackets : Opened outer frames) (front : Lead lead clause)
    (before : Call call clause.function operand)
    (member : (terminal, next) ∈ State.dollars operand clause frames)
    (lexeme : List Char) :
    Justified (outer ++ lead ++ call ++ [⟨terminal, lexeme⟩])
      (next lexeme) := by
  have application := before.application
  rw [← Clause.call_eq_elim] at application
  cases front with
  | mk dollars indent side =>
      cases sideEq : clause.side with
      | some _ => simp [State.dollars, sideEq] at member
      | none =>
          simp only [State.dollars, sideEq, List.mem_singleton,
            Prod.mk.injEq] at member
          obtain ⟨rfl, rfl⟩ := member
          rw [sideEq] at side
          cases side with
          | none =>
              simpa [Clause.dollar] using
                Justified.start brackets (.cons lexeme dollars indent application)

theorem of_after (brackets : Opened outer frames) (front : Lead lead clause)
    (before : Call call clause.function operand)
    (member : (terminal, next) ∈
      State.moves ⟨.after operand, clause, frames⟩)
    (lexeme : List Char) :
    Justified (outer ++ lead ++ call ++ [⟨terminal, lexeme⟩])
      (next lexeme) := by
  have application := before.application
  rw [← Clause.call_eq_elim] at application
  simp only [State.moves, List.mem_append, List.mem_cons, Prod.mk.injEq,
    List.not_mem_nil, or_false] at member
  rcases member with
    (((⟨rfl, rfl⟩ | ⟨rfl, rfl⟩) | tight) | dollar) | ending
  · simpa using Justified.after brackets front (before.access lexeme)
  · exact .argument lexeme brackets front application
  · simpa using of_tightOperand brackets (front.applying _)
      (.tight application) tight lexeme
  · exact of_dollar brackets front before dollar lexeme
  · simpa using of_itemEnd brackets (front.close before) ending lexeme

/-- Every move keeps the tokens and the state in step. -/
theorem step {read : List Token} {state : State}
    (justified : Justified read state)
    (member : (terminal, next) ∈ state.moves) (lexeme : List Char) :
    Justified (read ++ [⟨terminal, lexeme⟩]) (next lexeme) := by
  cases justified with
  | start brackets dollars =>
      rcases List.mem_append.mp member with blank | operand
      · exact of_leadingBlanks brackets dollars blank lexeme
      · have front : Lead _ ⟨_, none, none⟩ := .mk dollars .none .none
        simpa using of_operand brackets front .none operand lexeme
  | opened brackets =>
      rcases List.mem_append.mp member with first | ending
      · rcases List.mem_append.mp first with blank | operand
        · simpa using of_leadingBlanks brackets .nil blank lexeme
        · simpa using of_operand brackets .empty .none operand lexeme
      · exact of_emptyListEnd brackets ending lexeme
  | operand brackets front callee =>
      exact of_operand brackets front callee member lexeme
  | argument gap brackets front application =>
      rcases List.mem_append.mp member with operand | operator
      · simpa using of_operand brackets (front.applying _)
          (.spaced gap application) operand lexeme
      · exact of_operator gap brackets front application operator lexeme
  | spaced gap name brackets dollars indent application =>
      simp only [State.moves, List.mem_singleton, Prod.mk.injEq] at member
      obtain ⟨rfl, rfl⟩ := member
      have front : Lead _ ⟨_, some _, none⟩ :=
        .mk dollars indent (.operator gap name lexeme application)
      simpa using Justified.operand brackets front .none
  | after brackets front before =>
      exact of_after brackets front before member lexeme

end Justified

/-- Where a path from the start may end, its tokens are an expression. -/
theorem expression_of_path {tokens : List Token} {final : State} {value : Expr}
    (path : language.Path language.start tokens final)
    (finished : language.value? final = some value) :
    Expression tokens value := by
  have initial : Justified [] language.start := .start .nil .nil
  have justified := path.preserves Justified
    (fun _ _ _ _ lexeme held member => Justified.step held member lexeme)
    [] initial
  rw [List.nil_append] at justified
  cases justified with
  | after brackets front before =>
      cases brackets with
      | nil =>
          cases finished
          simpa using front.close before
      | paren => simp [language, State.value?] at finished
      | list => simp [language, State.value?] at finished
  | start => cases finished
  | opened => cases finished
  | operand => cases finished
  | argument => cases finished
  | spaced => cases finished

end TemplateSyntax.Expr
