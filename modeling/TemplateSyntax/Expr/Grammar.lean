import TemplateSyntax.Expr
import TemplateSyntax.Reading.Laid

/-!
# The grammar of expressions

Which sequences of tokens are expressions, and what they stand for.  An
expression is an application, a dollar between an application and an
expression, or an operator between two applications.  An argument needs spaces
in front of it unless it begins with a parenthesis, a quote or an operator
name.
-/

namespace TemplateSyntax.Expr.Grammar

/-- Field accesses by their lexemes. -/
def accesses (fields : List (List Char)) : List Token :=
  fields.map (Token.mk .fieldAccess)

mutual

/-- An expression, with or without blanks in front. -/
inductive Expression : List Token → Expr → Prop where
  | plain {tokens : List Token} {value : Expr} :
      Body tokens value → Expression tokens value
  | indented (blanks : List Char) {tokens : List Token} {value : Expr} :
      Body tokens value → Expression (⟨.blanks, blanks⟩ :: tokens) value

/-- An expression without blanks in front. -/
inductive Body : List Token → Expr → Prop where
  | application {tokens : List Token} {value : Expr} :
      Application tokens value → Body tokens value
  | dollar (sign : List Char) {left right : List Token}
      {function argument : Expr} :
      Application left function → Expression right argument →
      Body (left ++ ⟨.dollar, sign⟩ :: right) (.apply function argument)
  | operator (before name after : List Char) {left right : List Token}
      {first second : Expr} :
      Application left first → Application right second →
      Body
        (left ++ ⟨.spaces, before⟩ :: ⟨.operator, name⟩ ::
          ⟨.spaces, after⟩ :: right)
        (.apply (.apply (ofOperator name) first) second)

/-- One operand, or an application of operands that groups to the left. -/
inductive Application : List Token → Expr → Prop where
  | operand {tokens : List Token} {value : Expr} :
      Operand tokens value → Application tokens value
  | spaced (gap : List Char) {left right : List Token}
      {function argument : Expr} :
      Application left function → Operand right argument →
      Application (left ++ ⟨.spaces, gap⟩ :: right) (.apply function argument)
  | tight {left right : List Token} {function argument : Expr} :
      Application left function → TightOperand right argument →
      Application (left ++ right) (.apply function argument)

/-- An atom and its field accesses. -/
inductive Operand : List Token → Expr → Prop where
  | fields (names : List (List Char)) {tokens : List Token} {value : Expr} :
      Atom tokens value →
      Operand (tokens ++ accesses names) (names.foldl access value)

/-- An operand that needs no space in front of it. -/
inductive TightOperand : List Token → Expr → Prop where
  | fields (names : List (List Char)) {tokens : List Token} {value : Expr} :
      TightAtom tokens value →
      TightOperand (tokens ++ accesses names) (names.foldl access value)

inductive Atom : List Token → Expr → Prop where
  | tight {tokens : List Token} {value : Expr} :
      TightAtom tokens value → Atom tokens value
  | emptyList (opening closing : List Char) :
      Atom [⟨.exprOpenBracket, opening⟩, ⟨.exprCloseBracket, closing⟩]
        (.list [])
  | list (opening closing : List Char) {tokens : List Token}
      {items : List Expr} :
      Items tokens items →
      Atom
        (⟨.exprOpenBracket, opening⟩ :: tokens ++
          [⟨.exprCloseBracket, closing⟩])
        (.list items)
  | number (lexeme : List Char) :
      Atom [⟨.number, lexeme⟩] (ofNumber (.ofLexeme lexeme))
  | identifier (lexeme : List Char) :
      Atom [⟨.identifier, lexeme⟩] (ofIdentifier lexeme)

/-- A smallest expression that needs no space in front of it. -/
inductive TightAtom : List Token → Expr → Prop where
  | group (opening closing : List Char) {tokens : List Token} {value : Expr} :
      Expression tokens value →
      TightAtom
        (⟨.exprOpenParen, opening⟩ :: tokens ++ [⟨.exprCloseParen, closing⟩])
        value
  | tuple (opening comma closing : List Char) {first rest : List Token}
      {head : Expr} {tail : List Expr} :
      Expression first head → Items rest tail →
      TightAtom
        (⟨.exprOpenParen, opening⟩ :: first ++ ⟨.exprComma, comma⟩ :: rest ++
          [⟨.exprCloseParen, closing⟩])
        (.tuple (head :: tail))
  | operatorName (lexeme : List Char) :
      TightAtom [⟨.operatorName, lexeme⟩] (ofOperatorName lexeme)
  | string (lexeme : List Char) :
      TightAtom [⟨.string, lexeme⟩] (ofString lexeme)

/-- One expression or more, separated by commas. -/
inductive Items : List Token → List Expr → Prop where
  | one {tokens : List Token} {value : Expr} :
      Expression tokens value → Items tokens [value]
  | more (comma : List Char) {first rest : List Token} {value : Expr}
      {values : List Expr} :
      Expression first value → Items rest values →
      Items (first ++ ⟨.exprComma, comma⟩ :: rest) (value :: values)

end

end TemplateSyntax.Expr.Grammar
