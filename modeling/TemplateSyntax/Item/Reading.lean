import TemplateSyntax.Expr.Reading
import TemplateSyntax.Item
import TemplateSyntax.Pattern.Reading

/-!
# Reading template lines

The states of a line reader: the items read so far and the place in the line.
Inside an interpolation or a directive the place holds the state of the
expression or pattern reader, together with what the result is for.
-/

namespace TemplateSyntax.Item

/-- What an expression in a line is for. -/
inductive ExprUse where
  | value
  | ifStart
  | elseIf
  | caseStart
  /-- The values a loop with a given pattern runs over. -/
  | forallStart (pattern : Pattern)

/-- What ends the expression. -/
def ExprUse.closer : ExprUse → Terminal
  | .value => .valueClose
  | .ifStart | .elseIf | .caseStart | .forallStart _ => .controlClose

/-- The item an expression completes. -/
def ExprUse.item (use : ExprUse) (expr : Expr) : Item :=
  match use with
  | .value => .value expr
  | .ifStart => .ifStart expr
  | .elseIf => .elseIf expr
  | .caseStart => .caseStart expr
  | .forallStart pattern => .forallStart expr pattern

/-- What a pattern in a line is for. -/
inductive PatternUse where
  | forallStart
  | caseOf
  deriving DecidableEq, Repr

inductive Place where
  /-- Between items. -/
  | text
  /-- Behind the opening of a directive: a keyword must follow. -/
  | directive
  /-- Inside an expression. -/
  | expr (use : ExprUse) (state : Expr.State)
  /-- Inside a pattern. -/
  | pattern (use : PatternUse) (state : Pattern.State)
  /-- Behind the keyword of a directive without a payload. -/
  | bare (item : Item)

/-- The state of a line reader: the items so far, latest first, and the place. -/
structure State where
  items : List Item
  place : Place

namespace State

def start : State := ⟨[], .text⟩

/-- The state behind one more item. -/
def finish (items : List Item) (item : Item) : State :=
  ⟨item :: items, .text⟩

/-- A terminal that is an item of its own, with the literal it stands for. -/
def literalMove (items : List Item) (terminal : Terminal)
    (text : List Char → List Char) : Terminal × (List Char → State) :=
  (terminal, fun lexeme =>
    finish items (.literal (String.ofList (text lexeme))))

/-- What may stand between items.  An escaped or stray trigger stands for the
trigger itself, and a value trigger at the end of a line for nothing. -/
def textMoves (items : List Item) : Moves State :=
  [literalMove items .literal id,
    (.valueOpen, fun _ => ⟨items, .expr .value .start⟩),
    literalMove items .valueEscape (·.take 1),
    literalMove items .valueAtLineEnd (fun _ => []),
    literalMove items .valueBare (·.take 1),
    literalMove items .controlEscape (·.take 1),
    literalMove items .controlBare (·.take 1),
    (.controlOpen, fun _ => ⟨items, .directive⟩)]

def keywordPlace : Keyword → Place
  | .forallStart => .pattern .forallStart .start
  | .forallEnd => .bare .forallEnd
  | .ifStart => .expr .ifStart .start
  | .elseIf => .expr .elseIf .start
  | .otherwise => .bare .otherwise
  | .ifEnd => .bare .ifEnd
  | .caseStart => .expr .caseStart .start
  | .caseOf => .pattern .caseOf .start
  | .caseEnd => .bare .caseEnd

def keywordMoves (items : List Item) : Moves State :=
  [.forallStart, .forallEnd, .ifStart, .elseIf, .otherwise, .ifEnd,
    .caseStart, .caseOf, .caseEnd].map fun (word : Keyword) =>
      (.keyword word, fun _ => ⟨items, keywordPlace word⟩)

/-- The moves of an inner reader, seen from the line. -/
def within {σ : Type} (items : List Item) (place : σ → Place)
    (moves : Moves σ) : Moves State :=
  moves.map fun (terminal, next) =>
    (terminal, fun lexeme => ⟨items, place (next lexeme)⟩)

/-- What may follow a complete expression. -/
def exprEnds (items : List Item) (use : ExprUse) : Option Expr → Moves State
  | none => []
  | some expr => [(use.closer, fun _ => finish items (use.item expr))]

/-- What may follow a complete pattern. -/
def patternEnds (items : List Item) : PatternUse → Option Pattern → Moves State
  | _, none => []
  | .forallStart, some pattern =>
      [(.arrow, fun _ => ⟨items, .expr (.forallStart pattern) .start⟩)]
  | .caseOf, some pattern =>
      [(.controlClose, fun _ => finish items (.caseOf pattern))]

def moves : State → Moves State
  | ⟨items, .text⟩ => textMoves items
  | ⟨items, .directive⟩ => keywordMoves items
  | ⟨items, .expr use state⟩ =>
      within items (.expr use) state.moves ++ exprEnds items use state.value?
  | ⟨items, .pattern use state⟩ =>
      within items (.pattern use) state.moves ++
        patternEnds items use state.value?
  | ⟨items, .bare item⟩ => [(.controlClose, fun _ => finish items item)]

/-- The items that have been read, if the line may end here. -/
def value? : State → Option (List Item)
  | ⟨items, .text⟩ => some (merge items.reverse)
  | _ => none

/-- How many nodes of the syntax tree lie around an expression: the line and
the interpolation, or the line, the statement and its directive. -/
def exprDepth : ExprUse → Nat
  | .value => 2
  | .ifStart | .elseIf | .caseStart | .forallStart _ => 3

/-- How many nodes of the syntax tree lie around the place. -/
def depth (state : State) (ahead : List Token) : Nat :=
  match state.place with
  | .expr use state => exprDepth use + state.depth ahead
  | .pattern _ state => 3 + state.depth
  | .text | .directive | .bare _ => 1

end State

def language : Language State (List Item) where
  start := State.start
  moves := State.moves
  value? := State.value?
  depth := State.depth

end TemplateSyntax.Item
