import TemplateSyntax.Expr
import TemplateSyntax.Reading.Language

/-!
# Reading expressions

The states of an expression reader.  A state holds what stands to the left of
the operand being read (`Clause`), the brackets still open around it, and the
place inside an operand (`Phase`).  Application groups to the left, a dollar
takes everything behind it as one argument, and an operator stands between two
applications.
-/

namespace TemplateSyntax.Expr

/-- What stands to the left of an operand between the innermost open bracket
and the operand itself. -/
structure Clause where
  /-- What is applied to everything behind a dollar, innermost first. -/
  dollars : List Expr
  /-- An operator with its left side, waiting for its right side. -/
  side : Option Expr
  /-- The application the operand is the next argument of. -/
  function : Option Expr

namespace Clause

/-- Nothing stands to the left. -/
def empty : Clause := ⟨[], none, none⟩

/-- The application that ends in an operand. -/
def call (clause : Clause) (operand : Expr) : Expr :=
  match clause.function with
  | none => operand
  | some function => .apply function operand

/-- Everything up to the end of an operand as one expression. -/
def close (clause : Clause) (operand : Expr) : Expr :=
  let right := clause.call operand
  let whole :=
    match clause.side with
    | none => right
    | some side => .apply side right
  clause.dollars.foldl (fun argument function => .apply function argument)
    whole

/-- The clause behind an operand that another operand follows. -/
def applying (clause : Clause) (function : Expr) : Clause :=
  { clause with function := some function }

/-- The clause behind an operand and a dollar. -/
def dollar (clause : Clause) (operand : Expr) : Clause :=
  ⟨clause.call operand :: clause.dollars, none, none⟩

/-- The clause behind a left side and an operator. -/
def operate (clause : Clause) (left operator : Expr) : Clause :=
  { clause with side := some (.apply operator left), function := none }

/-- How many nodes of the syntax tree a clause lies around its last application:
two for every dollar in front and one for an operator. -/
def depth (clause : Clause) : Nat :=
  2 * clause.dollars.length + clause.side.toList.length

end Clause

inductive Bracket where
  | paren
  | list
  deriving DecidableEq, Repr

/-- An open bracket: the items read so far, latest first, and what stands to
the left of the bracket. -/
structure Frame where
  bracket : Bracket
  items : List Expr
  outer : Clause

/-- What a bracket stands for once its last item is read.  Parentheses around
one item only group. -/
def Frame.close (frame : Frame) (last : Expr) : Expr :=
  match frame.bracket, frame.items with
  | .paren, [] => last
  | .paren, items => .tuple (items.reverse ++ [last])
  | .list, items => .list (items.reverse ++ [last])

/-- The place inside an expression. -/
inductive Phase where
  /-- An expression begins here. -/
  | start
  /-- The first item of a list begins here, or the list ends. -/
  | opened
  /-- An operand must follow. -/
  | operand
  /-- Spaces behind an application: an operand or an operator follows. -/
  | argument (function : Expr)
  /-- Spaces must follow an operator. -/
  | spaced
  /-- An operand has been read. -/
  | after (operand : Expr)

structure State where
  phase : Phase
  clause : Clause
  frames : List Frame

namespace State

def start : State := ⟨.start, .empty, []⟩

/-- The state inside a bracket that has just been opened. -/
def opening (bracket : Bracket) (phase : Phase) (clause : Clause)
    (frames : List Frame) : State :=
  ⟨phase, .empty, ⟨bracket, [], clause⟩ :: frames⟩

/-- Operands that may follow without a space. -/
def tightOperands (clause : Clause) (frames : List Frame) : Moves State :=
  [(.exprOpenParen, fun _ => opening .paren .start clause frames),
    (.operatorName, fun lexeme =>
      ⟨.after (ofOperatorName lexeme), clause, frames⟩),
    (.string, fun lexeme => ⟨.after (ofString lexeme), clause, frames⟩)]

def operands (clause : Clause) (frames : List Frame) : Moves State :=
  tightOperands clause frames ++
    [(.exprOpenBracket, fun _ => opening .list .opened clause frames),
      (.number, fun lexeme =>
        ⟨.after (ofNumber (.ofLexeme lexeme)), clause, frames⟩),
      (.identifier, fun lexeme =>
        ⟨.after (ofIdentifier lexeme), clause, frames⟩)]

def leadingBlanks (clause : Clause) (frames : List Frame) : Moves State :=
  [(.blanks, fun _ => ⟨.operand, clause, frames⟩)]

def emptyListEnd : List Frame → Moves State
  | ⟨.list, [], outer⟩ :: frames =>
      [(.exprCloseBracket, fun _ => ⟨.after (.list []), outer, frames⟩)]
  | _ => []

/-- A comma or the closing bracket behind an item of the innermost bracket. -/
def itemEnds (item : Expr) : List Frame → Moves State
  | [] => []
  | frame :: frames =>
      let comma : State :=
        ⟨.start, .empty, { frame with items := item :: frame.items } :: frames⟩
      let closed : State := ⟨.after (frame.close item), frame.outer, frames⟩
      [(.exprComma, fun _ => comma),
        (match frame.bracket with
          | .paren => .exprCloseParen
          | .list => .exprCloseBracket, fun _ => closed)]

/-- An operator, where the clause has none yet. -/
def operators (function : Expr) (clause : Clause) (frames : List Frame) :
    Moves State :=
  match clause.side with
  | some _ => []
  | none =>
      [(.operator, fun lexeme =>
        ⟨.spaced, clause.operate function (ofOperator lexeme), frames⟩)]

/-- A dollar, where the clause has no operator. -/
def dollars (operand : Expr) (clause : Clause) (frames : List Frame) :
    Moves State :=
  match clause.side with
  | some _ => []
  | none => [(.dollar, fun _ => ⟨.start, clause.dollar operand, frames⟩)]

def moves : State → Moves State
  | ⟨.start, clause, frames⟩ =>
      leadingBlanks clause frames ++ operands clause frames
  | ⟨.opened, clause, frames⟩ =>
      leadingBlanks clause frames ++ operands clause frames ++
        emptyListEnd frames
  | ⟨.operand, clause, frames⟩ => operands clause frames
  | ⟨.argument function, clause, frames⟩ =>
      operands (clause.applying function) frames ++
        operators function clause frames
  | ⟨.spaced, clause, frames⟩ =>
      [(.spaces, fun _ => ⟨.operand, clause, frames⟩)]
  | ⟨.after operand, clause, frames⟩ =>
      [(.fieldAccess, fun lexeme =>
          ⟨.after (operand.access lexeme), clause, frames⟩),
        (.spaces, fun _ => ⟨.argument (clause.call operand), clause, frames⟩)] ++
        tightOperands (clause.applying (clause.call operand)) frames ++
        dollars operand clause frames ++
        itemEnds (clause.close operand) frames

/-- The expression that has been read, if it may end here. -/
def value? : State → Option Expr
  | ⟨.after operand, clause, []⟩ => some (clause.close operand)
  | _ => none

/-- How many of the clauses around a place still come to a dollar or an operator
behind it.  `inner` brackets have been opened behind the place; `settled` says
that the clause of the place, or of the innermost bracket around it that is
still open, has come to its dollar, its operator or its end. -/
def sidesAhead (inner : Nat) (settled : Bool) : List Token → Nat
  | [] => 0
  | token :: rest =>
      match token.terminal, inner with
      | .exprOpenParen, _ | .exprOpenBracket, _ =>
          sidesAhead (inner + 1) settled rest
      | .exprCloseParen, 0 | .exprCloseBracket, 0 => sidesAhead 0 false rest
      | .exprCloseParen, inner + 1 | .exprCloseBracket, inner + 1 =>
          sidesAhead inner settled rest
      | .exprComma, 0 => sidesAhead 0 true rest
      | .dollar, 0 | .operator, 0 =>
          sidesAhead 0 true rest + if settled then 0 else 1
      | .valueClose, _ | .controlClose, _ => 0
      | _, _ => sidesAhead inner settled rest

/-- How many nodes of the syntax tree the open brackets stand for.  A bracket lies
in an expression, an application and an operand, and is a node itself. -/
def framesDepth (frames : List Frame) : Nat :=
  frames.foldr (fun frame inner => inner + frame.outer.depth + 4) 0

/-- No operand stands ahead in the clause of the place: the item or the bracket
around it ends, or the whole expression does. -/
def endsClause : List Token → Bool
  | [] => true
  | token :: _ =>
      match token.terminal with
      | .exprComma | .exprCloseParen | .exprCloseBracket | .valueClose
      | .controlClose => true
      | _ => false

/-- How many nodes of the syntax tree lie around the place.  An operand lies three
nodes deep in its clause; in front of a comma or a closing bracket there is none,
so that a list without items is a single node.  The left side of a dollar or an
operator lies in a node that only the tokens ahead show. -/
def depth (state : State) (ahead : List Token) : Nat :=
  framesDepth state.frames + state.clause.depth +
    (if endsClause ahead then 0 else 3) + sidesAhead 0 false ahead

end State

def language : Language State Expr where
  start := State.start
  moves := State.moves
  value? := State.value?
  depth := State.depth

end TemplateSyntax.Expr
