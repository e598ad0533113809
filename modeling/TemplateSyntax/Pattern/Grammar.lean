import TemplateSyntax.Pattern
import TemplateSyntax.Reading.Laid

/-!
# The grammar of patterns

Which sequences of tokens are patterns, and what they stand for.  A pattern is
a constructor with arguments or a single part; arguments and the part behind an
alias are parts, so that an application among them needs parentheses.
-/

namespace TemplateSyntax.Pattern.Grammar

inductive Piece : Token → String → Prop where
  | word (lexeme : List Char) : Piece ⟨.capitalWord, lexeme⟩ (wordName lexeme)
  | operator (lexeme : List Char) :
      Piece ⟨.operatorConstructor, lexeme⟩ (operatorName lexeme)

inductive Pieces : List Token → List String → Prop where
  | one {token : Token} {name : String} :
      Piece token name → Pieces [token] [name]
  | more (dot : List Char) {token : Token} {name : String}
      {tokens : List Token} {names : List String} :
      Piece token name → Pieces tokens names →
      Pieces (token :: ⟨.dot, dot⟩ :: tokens) (name :: names)

/-- A constructor: the last piece is its name, the others are its modules. -/
inductive Constructor : List Token → QualifiedName → Prop where
  | pieces {tokens : List Token} {names : List String} :
      Pieces tokens names →
      Constructor tokens (constructorName names.reverse)

inductive FieldName : Token → String → Prop where
  | variableWord (lexeme : List Char) :
      FieldName ⟨.variableWord, lexeme⟩ (wordName lexeme)
  | piece {token : Token} {name : String} :
      Piece token name → FieldName token name

mutual

/-- A pattern. -/
inductive Whole : List Token → Pattern → Prop where
  | part {tokens : List Token} {value : Pattern} :
      Part tokens value → Whole tokens value
  | application {first rest : List Token} {head : QualifiedName}
      {arguments : List Pattern} :
      Constructor first head → Arguments rest arguments →
      Whole (first ++ rest) (.construct head arguments)

/-- One part or more, side by side. -/
inductive Arguments : List Token → List Pattern → Prop where
  | one {tokens : List Token} {value : Pattern} :
      Part tokens value → Arguments tokens [value]
  | more {first rest : List Token} {value : Pattern} {values : List Pattern} :
      Part first value → Arguments rest values →
      Arguments (first ++ rest) (value :: values)

inductive Part : List Token → Pattern → Prop where
  | var (lexeme : List Char) :
      Part [⟨.variableWord, lexeme⟩] (.var (wordName lexeme))
  | named (lexeme sign : List Char) {tokens : List Token} {value : Pattern} :
      Part tokens value →
      Part (⟨.variableWord, lexeme⟩ :: ⟨.asSign, sign⟩ :: tokens)
        (.named (wordName lexeme) value)
  | bare {tokens : List Token} {head : QualifiedName} :
      Constructor tokens head → Part tokens (.construct head [])
  | emptyRecord (opening closing : List Char) {tokens : List Token}
      {head : QualifiedName} :
      Constructor tokens head →
      Part
        (tokens ++ [⟨.openBrace, opening⟩, ⟨.closeBrace, closing⟩])
        (.record head [] false)
  | openRecord (opening dots closing : List Char) {tokens : List Token}
      {head : QualifiedName} :
      Constructor tokens head →
      Part
        (tokens ++ [⟨.openBrace, opening⟩, ⟨.wildcard, dots⟩,
          ⟨.closeBrace, closing⟩])
        (.record head [] true)
  | record (opening closing : List Char) {first rest : List Token}
      {head : QualifiedName} {fields : List (String × Pattern)}
      {wildcard : Bool} :
      Constructor first head → Fields rest fields wildcard →
      Part
        (first ++ ⟨.openBrace, opening⟩ :: rest ++ [⟨.closeBrace, closing⟩])
        (.record head fields wildcard)
  | emptyTuple (opening closing : List Char) :
      Part [⟨.patternOpenParen, opening⟩, ⟨.patternCloseParen, closing⟩]
        (.tuple [])
  | group (opening closing : List Char) {tokens : List Token}
      {value : Pattern} :
      Whole tokens value →
      Part
        (⟨.patternOpenParen, opening⟩ :: tokens ++
          [⟨.patternCloseParen, closing⟩])
        value
  | tuple (opening comma closing : List Char) {first rest : List Token}
      {head : Pattern} {tail : List Pattern} :
      Whole first head → Items rest tail →
      Part
        (⟨.patternOpenParen, opening⟩ :: first ++ ⟨.patternComma, comma⟩ ::
          rest ++ [⟨.patternCloseParen, closing⟩])
        (.tuple (head :: tail))
  | emptyList (opening closing : List Char) :
      Part [⟨.patternOpenBracket, opening⟩, ⟨.patternCloseBracket, closing⟩]
        (.list [])
  | list (opening closing : List Char) {tokens : List Token}
      {items : List Pattern} :
      Items tokens items →
      Part
        (⟨.patternOpenBracket, opening⟩ :: tokens ++
          [⟨.patternCloseBracket, closing⟩])
        (.list items)

/-- One field or more, separated by commas, and perhaps a wildcard at the
end. -/
inductive Fields : List Token → List (String × Pattern) → Bool → Prop where
  | one {tokens : List Token} {field : String × Pattern} :
      Field tokens field → Fields tokens [field] false
  | oneOpen (comma dots : List Char) {tokens : List Token}
      {field : String × Pattern} :
      Field tokens field →
      Fields (tokens ++ [⟨.patternComma, comma⟩, ⟨.wildcard, dots⟩]) [field]
        true
  | more (comma : List Char) {first rest : List Token}
      {field : String × Pattern} {fields : List (String × Pattern)}
      {wildcard : Bool} :
      Field first field → Fields rest fields wildcard →
      Fields (first ++ ⟨.patternComma, comma⟩ :: rest) (field :: fields)
        wildcard

/-- A field with its pattern, or alone for a variable of its own name. -/
inductive Field : List Token → String × Pattern → Prop where
  | punned {token : Token} {name : String} :
      FieldName token name → Field [token] (name, .var name)
  | bound (sign : List Char) {token : Token} {tokens : List Token}
      {name : String} {value : Pattern} :
      FieldName token name → Whole tokens value →
      Field (token :: ⟨.equals, sign⟩ :: tokens) (name, value)

/-- One pattern or more, separated by commas. -/
inductive Items : List Token → List Pattern → Prop where
  | one {tokens : List Token} {value : Pattern} :
      Whole tokens value → Items tokens [value]
  | more (comma : List Char) {first rest : List Token} {value : Pattern}
      {values : List Pattern} :
      Whole first value → Items rest values →
      Items (first ++ ⟨.patternComma, comma⟩ :: rest) (value :: values)

end

end TemplateSyntax.Pattern.Grammar
