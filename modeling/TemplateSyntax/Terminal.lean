/-!
# Terminals

The smallest units the three languages are written in: the text around
directives, patterns and expressions.  A hint lists the terminals that could
have followed, by their labels and in the order of `Terminal.hintOrder`; all
keywords share one label, which comes first.
-/

namespace TemplateSyntax

/-- The words that open a directive. -/
inductive Keyword where
  | forallStart
  | forallEnd
  | ifStart
  | elseIf
  | otherwise
  | ifEnd
  | caseStart
  | caseOf
  | caseEnd
  deriving DecidableEq, Repr

def Keyword.spelling : Keyword → String
  | .forallStart => "forall"
  | .forallEnd => "endforall"
  | .ifStart => "if"
  | .elseIf => "elseif"
  | .otherwise => "else"
  | .ifEnd => "endif"
  | .caseStart => "case"
  | .caseOf => "of"
  | .caseEnd => "endcase"

/-- Something follows the keyword inside its directive, so that the keyword
takes the blanks behind it. -/
def Keyword.opensPayload : Keyword → Bool
  | .forallStart | .ifStart | .elseIf | .caseStart | .caseOf => true
  | .forallEnd | .otherwise | .ifEnd | .caseEnd => false

/-- The units of the text, pattern and expression languages. -/
inductive Terminal where
  | capitalWord
  | controlBare
  | controlEscape
  | fieldAccess
  | number
  | operator
  | operatorName
  | operatorConstructor
  | identifier
  | literal
  | string
  | variableWord
  | valueAtLineEnd
  | valueBare
  | valueEscape
  | wildcard
  | arrow
  | asSign
  | controlClose
  | controlOpen
  | exprComma
  | exprOpenBracket
  | exprOpenParen
  | dollar
  | dot
  | exprCloseBracket
  | exprCloseParen
  | equals
  | blanks
  | keyword (keyword : Keyword)
  | openBrace
  | patternOpenBracket
  | patternOpenParen
  | patternComma
  | closeBrace
  | patternCloseBracket
  | patternCloseParen
  | spaces
  | valueClose
  | valueOpen
  deriving DecidableEq, Repr

namespace Terminal

/-- How a hint names a terminal. -/
def label : Terminal → String
  | .capitalWord => "constructor"
  | .controlBare => "control trigger"
  | .controlEscape => "escaped control trigger"
  | .fieldAccess => "field access"
  | .number => "number"
  | .operator => "operator"
  | .operatorName => "operator name"
  | .operatorConstructor => "operator constructor"
  | .identifier => "identifier"
  | .literal => "text"
  | .string => "string literal"
  | .variableWord => "variable"
  | .valueAtLineEnd => "variable trigger"
  | .valueBare => "variable trigger"
  | .valueEscape => "escaped variable trigger"
  | .wildcard => "`..`"
  | .arrow => "`<-`"
  | .asSign => "`@`"
  | .controlClose => "`\x7d`"
  | .controlOpen => "control statement"
  | .exprComma => "`,`"
  | .exprOpenBracket => "`[`"
  | .exprOpenParen => "`(`"
  | .dollar => "`$`"
  | .dot => "`.`"
  | .exprCloseBracket => "`]`"
  | .exprCloseParen => "`)`"
  | .equals => "`=`"
  | .blanks => "whitespace"
  | .keyword _ => "directive keyword"
  | .openBrace => "`\x7b`"
  | .patternOpenBracket => "`[`"
  | .patternOpenParen => "`(`"
  | .patternComma => "`,`"
  | .closeBrace => "`\x7d`"
  | .patternCloseBracket => "`]`"
  | .patternCloseParen => "`)`"
  | .spaces => "space"
  | .valueClose => "`\x7d`"
  | .valueOpen => "interpolation"

def keywords : List Terminal :=
  [.keyword .forallStart, .keyword .forallEnd, .keyword .ifStart,
    .keyword .elseIf, .keyword .otherwise, .keyword .ifEnd,
    .keyword .caseStart, .keyword .caseOf, .keyword .caseEnd]

/-- All terminals in the order in which a hint names them. -/
def hintOrder : List Terminal :=
  keywords ++
    [.capitalWord, .controlBare, .controlEscape, .fieldAccess, .number,
      .operator, .operatorName, .operatorConstructor, .identifier, .literal,
      .string, .variableWord, .valueAtLineEnd, .valueBare, .valueEscape,
      .wildcard, .arrow, .asSign, .controlClose, .controlOpen, .exprComma,
      .exprOpenBracket, .exprOpenParen, .dollar, .dot, .exprCloseBracket,
      .exprCloseParen, .equals, .blanks, .openBrace, .patternOpenBracket,
      .patternOpenParen, .patternComma, .closeBrace, .patternCloseBracket,
      .patternCloseParen, .spaces, .valueClose, .valueOpen]

theorem mem_hintOrder (terminal : Terminal) : terminal ∈ hintOrder := by
  cases terminal with
  | keyword word => cases word <;> decide
  | _ => decide

/-- The labels of a set of terminals, each once. -/
def labels (expected : List Terminal) : List String :=
  ((hintOrder.filter expected.contains).map label).eraseDups

/-- The hint that names the terminals that could have followed, if any. -/
def hint (expected : List Terminal) : Option String :=
  match labels expected with
  | [] => none
  | names => some ("expected one of: " ++ String.intercalate ", " names)

end Terminal

end TemplateSyntax
