import TemplateSyntax.Name
import TemplateSyntax.Terminal
import TemplateSyntax.Terminal.Scan
import TemplateSyntax.Triggers
import TemplateSyntax.Unicode.Decimal

/-!
# How terminals are written

One scanning rule for every terminal.  Expression terminals take the blanks in
front of them, pattern terminals the spaces behind them.  Every rule reads at
least one character and hands on exactly what it did not read
(`scan_eq_append`, `lexeme_ne_nil`), so reading always moves forward.
-/

namespace TemplateSyntax

namespace Scan

/-! ### Shared pieces -/

def isSpace (c : Char) : Bool :=
  c = ' '

def isSpaceOrTab (c : Char) : Bool :=
  c = ' ' || c = '\t'

/-- A line feed, or a carriage return and a line feed. -/
def lineEnd : Scan :=
  (word ['\r', '\n']).orElse (char '\n')

/-- A text that takes one line end behind it. -/
def absorbing (scan : Scan) : Scan :=
  scan.andThen lineEnd.optional

/-- The text ahead does not begin with a character of a class. -/
def notAhead (accepts : Char → Bool) (ahead : List Char) : Bool :=
  !ahead.head?.any accepts

/-- The text ahead is at its end or at a line break of the two plain kinds. -/
def atLineEnd (ahead : List Char) : Bool :=
  ahead.head?.all fun c => c = '\r' || c = '\n'

/-! ### Expressions -/

/-- The character a letter behind a backslash stands for. -/
def escapeValue? : Char → Option Char
  | 'n' => some '\n'
  | 'r' => some '\r'
  | 'b' => some '\x08'
  | 't' => some '\t'
  | '\\' => some '\\'
  | '"' => some '"'
  | '\'' => some '\''
  | _ => none

/-- The rest of a string literal, up to and with its closing quote.  A
backslash must begin one of the known escapes. -/
def stringTail : Scan
  | [] => none
  | '"' :: rest => some (['"'], rest)
  | '\\' :: escaped :: rest =>
      if (escapeValue? escaped).isSome then
        match stringTail rest with
        | none => none
        | some (lexeme, left) => some ('\\' :: escaped :: lexeme, left)
      else none
  | c :: rest =>
      if c = '\\' then none
      else
        match stringTail rest with
        | none => none
        | some (lexeme, left) => some (c :: lexeme, left)

def stringLiteral : Scan :=
  (char '"').andThen stringTail

/-- A run of operator characters. -/
def operatorRun : Scan :=
  some1 isOperatorChar

def parenthesisedOperator : Scan :=
  (char '(').andThen (operatorRun.andThen (char ')'))

def digits : Scan :=
  some1 Unicode.isDecimal

/-- An optional sign, digits, and optionally a point with more digits. -/
def number : Scan :=
  (char '-').optional.andThen
    (digits.andThen ((char '.').andThen digits).optional)

/-- The first character of a plain name: a word character but no digit. -/
def isNameStart (c : Char) : Bool :=
  !Unicode.isDecimal c && Unicode.isWord c

/-- A name without a path. -/
def plainName : Scan :=
  (one isNameStart).andThen (many isNameChar)

/-- One step of a module path: a capitalised word and a dot. -/
def moduleStep : Scan :=
  (one Unicode.isUppercaseLetter).andThen
    ((many Unicode.isWord).andThen (char '.'))

theorem Faithful.moduleStep : moduleStep.Faithful :=
  Faithful.andThen (Faithful.one _)
    (Faithful.andThen (Faithful.many _) (Faithful.one _))

theorem Productive.moduleStep : moduleStep.Productive :=
  Productive.andThen_left _ (Productive.one _)

theorem length_lt_of_moduleStep {text lexeme rest : List Char}
    (read : moduleStep text = some (lexeme, rest)) :
    rest.length < text.length := by
  have split := Faithful.moduleStep read
  have positive := List.length_pos_iff.mpr (Productive.moduleStep read)
  rw [split, List.length_append]
  omega

/-- A name behind its module path.  A word and a dot belong to the path only
if a name still follows them. -/
def identifier (text : List Char) : Option (List Char × List Char) :=
  match _read : moduleStep text with
  | none => plainName text
  | some (step, rest) =>
      match identifier rest with
      | none => plainName text
      | some (lexeme, left) => some (step ++ lexeme, left)
termination_by text.length
decreasing_by exact length_lt_of_moduleStep _read

/-- The first character of a field name. -/
def isFieldStart (c : Char) : Bool :=
  Unicode.isLowercaseLetter c || c = '_'

def fieldAccess : Scan :=
  (char '.').andThen ((one isFieldStart).andThen (many isNameChar))

/-! ### Patterns -/

/-- A pattern terminal takes the spaces behind it. -/
def spaced (scan : Scan) : Scan :=
  scan.andThen (many isSpace)

/-- The first character of a variable in a pattern. -/
def isVariableStart (c : Char) : Bool :=
  isNameChar c && !Unicode.isCapitalLetter c

def variableWord : Scan :=
  (one isVariableStart).andThen (many isNameChar)

def capitalWord : Scan :=
  (one Unicode.isCapitalLetter).andThen (many isNameChar)

/-! ### Directives -/

/-- A keyword that is not the beginning of a longer name. -/
def keyword (word : Keyword) : Scan :=
  let plain := (Scan.word word.spelling.toList).before (notAhead isNameChar)
  if word.opensPayload then plain.andThen (many Unicode.isBlank) else plain

/-- A text that may have blanks in front of it. -/
def blanksThen (accepts : Char → Bool) (scan : Scan) : Scan :=
  (many accepts).andThen scan

end Scan

open Scan in
/-- The rule by which a terminal is read. -/
def Terminal.scan (triggers : Triggers) : Terminal → Scan
  -- text
  | .literal => some1 fun c => c != triggers.control && c != triggers.value
  | .valueOpen => word [triggers.value, '{']
  | .valueClose => blanksThen isSpaceOrTab (char '}')
  | .valueEscape => word [triggers.value, '\\']
  | .valueAtLineEnd => (char triggers.value).before atLineEnd
  | .valueBare =>
      (char triggers.value).before fun ahead =>
        !atLineEnd ahead && notAhead (fun c => c = '\\' || c = '{') ahead
  | .controlOpen =>
      (word [triggers.control, '{']).andThen (many Unicode.isBlank)
  | .controlClose =>
      absorbing (blanksThen Unicode.isBlank (char '}'))
  | .controlEscape => absorbing (word [triggers.control, '\\'])
  | .controlBare =>
      absorbing ((char triggers.control).before
        (notAhead fun c => c = '\\' || c = '{'))
  | .keyword word => Scan.keyword word
  | .arrow =>
      blanksThen Unicode.isBlank
        ((word ['<', '-']).andThen (many Unicode.isBlank))
  -- patterns
  | .variableWord => spaced Scan.variableWord
  | .capitalWord => spaced Scan.capitalWord
  | .operatorConstructor => spaced parenthesisedOperator
  | .wildcard => spaced (word ['.', '.'])
  | .dot => char '.'
  | .asSign => spaced (char '@')
  | .equals => spaced (char '=')
  | .patternComma => spaced (char ',')
  | .patternOpenParen => spaced (char '(')
  | .patternCloseParen => spaced (char ')')
  | .patternOpenBracket => spaced (char '[')
  | .patternCloseBracket => spaced (char ']')
  | .openBrace => spaced (char '{')
  | .closeBrace => spaced (char '}')
  -- expressions
  | .identifier => Scan.identifier
  | .fieldAccess => Scan.fieldAccess
  | .number => Scan.number
  | .string => stringLiteral
  | .operatorName => parenthesisedOperator
  | .operator => operatorRun.only (· != ['$'])
  | .dollar => (some1 isSpace).andThen (char '$')
  | .spaces => some1 isSpace
  | .blanks => some1 isSpaceOrTab
  | .exprOpenParen => char '('
  | .exprCloseParen => blanksThen isSpaceOrTab (char ')')
  | .exprComma => blanksThen isSpaceOrTab (char ',')
  | .exprOpenBracket => char '['
  | .exprCloseBracket => blanksThen isSpaceOrTab (char ']')

namespace Scan

/-! ### Every rule hands on what it did not read -/

theorem Faithful.char (expected : Char) : (char expected).Faithful :=
  Faithful.one _

theorem Productive.char (expected : Char) : (char expected).Productive :=
  Productive.one _

theorem Faithful.lineEnd : lineEnd.Faithful :=
  Faithful.orElse (Faithful.word _) (Faithful.char _)

theorem Faithful.absorbing {scan : Scan} (faithful : scan.Faithful) :
    scan.absorbing.Faithful :=
  Faithful.andThen faithful (Faithful.optional Faithful.lineEnd)

theorem Productive.absorbing {scan : Scan} (productive : scan.Productive) :
    scan.absorbing.Productive :=
  Productive.andThen_left _ productive

theorem Faithful.stringTail : stringTail.Faithful := by
  intro text lexeme rest read
  fun_induction Scan.stringTail text generalizing lexeme rest with
  | case1 => cases read
  | case2 => cases read; rfl
  | case3 => cases read
  | case4 escaped tail _ lexeme' left inner ih =>
      cases read
      rw [ih inner]
      rfl
  | case5 => cases read
  | case6 => cases read
  | case7 => cases read
  | case8 c tail _ _ _ lexeme' left inner ih =>
      cases read
      rw [ih inner]
      rfl

theorem Faithful.stringLiteral : stringLiteral.Faithful :=
  Faithful.andThen (Faithful.char _) Faithful.stringTail

theorem Productive.stringLiteral : stringLiteral.Productive :=
  Productive.andThen_left _ (Productive.char _)

theorem Faithful.parenthesisedOperator : parenthesisedOperator.Faithful :=
  Faithful.andThen (Faithful.char _)
    (Faithful.andThen (Faithful.some1 _) (Faithful.char _))

theorem Productive.parenthesisedOperator : parenthesisedOperator.Productive :=
  Productive.andThen_left _ (Productive.char _)

theorem Faithful.number : number.Faithful :=
  Faithful.andThen (Faithful.optional (Faithful.char _))
    (Faithful.andThen (Faithful.some1 _)
      (Faithful.optional
        (Faithful.andThen (Faithful.char _) (Faithful.some1 _))))

theorem Productive.number : number.Productive :=
  Productive.andThen_right _
    (Productive.andThen_left _ (Productive.some1 _))

theorem Faithful.plainName : plainName.Faithful :=
  Faithful.andThen (Faithful.one _) (Faithful.many _)

theorem Productive.plainName : plainName.Productive :=
  Productive.andThen_left _ (Productive.one _)

theorem Faithful.identifier : Faithful identifier := by
  intro text lexeme rest read
  fun_induction Scan.identifier text generalizing lexeme rest with
  | case1 text none => exact Faithful.plainName read
  | case2 text step left stepRead none _ => exact Faithful.plainName read
  | case3 text step left stepRead name tail nameRead ih =>
      cases read
      rw [Faithful.moduleStep stepRead, ih nameRead, List.append_assoc]

theorem Productive.identifier : Productive identifier := by
  intro text lexeme rest read
  fun_induction Scan.identifier text generalizing lexeme rest with
  | case1 text none => exact Productive.plainName read
  | case2 text step left stepRead none _ => exact Productive.plainName read
  | case3 text step left stepRead name tail nameRead _ =>
      cases read
      have nonempty := Productive.moduleStep stepRead
      simp [nonempty]

theorem Faithful.fieldAccess : fieldAccess.Faithful :=
  Faithful.andThen (Faithful.char _)
    (Faithful.andThen (Faithful.one _) (Faithful.many _))

theorem Productive.fieldAccess : fieldAccess.Productive :=
  Productive.andThen_left _ (Productive.char _)

theorem Faithful.spaced {scan : Scan} (faithful : scan.Faithful) :
    scan.spaced.Faithful :=
  Faithful.andThen faithful (Faithful.many _)

theorem Productive.spaced {scan : Scan} (productive : scan.Productive) :
    scan.spaced.Productive :=
  Productive.andThen_left _ productive

theorem Faithful.keyword (word : Keyword) : (keyword word).Faithful := by
  have plain := Faithful.before (notAhead isNameChar)
    (Faithful.word word.spelling.toList)
  rw [Scan.keyword]
  split
  · exact Faithful.andThen plain (Faithful.many _)
  · exact plain

theorem Productive.keyword (word : Keyword) : (keyword word).Productive := by
  have nonempty : word.spelling.toList ≠ [] := by
    cases word <;> decide
  have plain := Productive.before (notAhead isNameChar)
    (Productive.word nonempty)
  rw [Scan.keyword]
  split
  · exact Productive.andThen_left _ plain
  · exact plain

theorem Faithful.blanksThen {scan : Scan} (accepts : Char → Bool)
    (faithful : scan.Faithful) : (blanksThen accepts scan).Faithful :=
  Faithful.andThen (Faithful.many _) faithful

theorem Productive.blanksThen {scan : Scan} (accepts : Char → Bool)
    (productive : scan.Productive) : (blanksThen accepts scan).Productive :=
  Productive.andThen_right _ productive

end Scan

namespace Terminal

open Scan

theorem faithful_scan (triggers : Triggers) (terminal : Terminal) :
    (terminal.scan triggers).Faithful := by
  cases terminal with
  | literal => exact Faithful.some1 _
  | valueOpen => exact Faithful.word _
  | valueClose => exact Faithful.blanksThen _ (Faithful.char _)
  | valueEscape => exact Faithful.word _
  | valueAtLineEnd => exact Faithful.before _ (Faithful.char _)
  | valueBare => exact Faithful.before _ (Faithful.char _)
  | controlOpen =>
      exact Faithful.andThen (Faithful.word _) (Faithful.many _)
  | controlClose =>
      exact Faithful.absorbing (Faithful.blanksThen _ (Faithful.char _))
  | controlEscape => exact Faithful.absorbing (Faithful.word _)
  | controlBare =>
      exact Faithful.absorbing (Faithful.before _ (Faithful.char _))
  | keyword word => exact Faithful.keyword word
  | arrow =>
      exact Faithful.blanksThen _
        (Faithful.andThen (Faithful.word _) (Faithful.many _))
  | variableWord =>
      exact Faithful.spaced
        (Faithful.andThen (Faithful.one _) (Faithful.many _))
  | capitalWord =>
      exact Faithful.spaced
        (Faithful.andThen (Faithful.one _) (Faithful.many _))
  | operatorConstructor => exact Faithful.spaced Faithful.parenthesisedOperator
  | wildcard => exact Faithful.spaced (Faithful.word _)
  | dot => exact Faithful.char _
  | asSign => exact Faithful.spaced (Faithful.char _)
  | equals => exact Faithful.spaced (Faithful.char _)
  | patternComma => exact Faithful.spaced (Faithful.char _)
  | patternOpenParen => exact Faithful.spaced (Faithful.char _)
  | patternCloseParen => exact Faithful.spaced (Faithful.char _)
  | patternOpenBracket => exact Faithful.spaced (Faithful.char _)
  | patternCloseBracket => exact Faithful.spaced (Faithful.char _)
  | openBrace => exact Faithful.spaced (Faithful.char _)
  | closeBrace => exact Faithful.spaced (Faithful.char _)
  | identifier => exact Faithful.identifier
  | fieldAccess => exact Faithful.fieldAccess
  | number => exact Faithful.number
  | string => exact Faithful.stringLiteral
  | operatorName => exact Faithful.parenthesisedOperator
  | operator => exact Faithful.only _ (Faithful.some1 _)
  | dollar => exact Faithful.andThen (Faithful.some1 _) (Faithful.char _)
  | spaces => exact Faithful.some1 _
  | blanks => exact Faithful.some1 _
  | exprOpenParen => exact Faithful.char _
  | exprCloseParen => exact Faithful.blanksThen _ (Faithful.char _)
  | exprComma => exact Faithful.blanksThen _ (Faithful.char _)
  | exprOpenBracket => exact Faithful.char _
  | exprCloseBracket => exact Faithful.blanksThen _ (Faithful.char _)

theorem productive_scan (triggers : Triggers) (terminal : Terminal) :
    (terminal.scan triggers).Productive := by
  cases terminal with
  | literal => exact Productive.some1 _
  | valueOpen => exact Productive.word (List.cons_ne_nil _ _)
  | valueClose => exact Productive.blanksThen _ (Productive.char _)
  | valueEscape => exact Productive.word (List.cons_ne_nil _ _)
  | valueAtLineEnd => exact Productive.before _ (Productive.char _)
  | valueBare => exact Productive.before _ (Productive.char _)
  | controlOpen =>
      have opening : (word [triggers.control, '{']).Productive :=
        Productive.word (List.cons_ne_nil _ _)
      exact Productive.andThen_left (many Unicode.isBlank) opening
  | controlClose =>
      exact Productive.absorbing (Productive.blanksThen _ (Productive.char _))
  | controlEscape =>
      have escape : (word [triggers.control, '\\']).Productive :=
        Productive.word (List.cons_ne_nil _ _)
      exact Productive.absorbing escape
  | controlBare =>
      exact Productive.absorbing (Productive.before _ (Productive.char _))
  | keyword word => exact Productive.keyword word
  | arrow =>
      have sign : (word ['<', '-']).Productive :=
        Productive.word (List.cons_ne_nil _ _)
      exact Productive.blanksThen _ (Productive.andThen_left _ sign)
  | variableWord =>
      exact Productive.spaced (Productive.andThen_left _ (Productive.one _))
  | capitalWord =>
      exact Productive.spaced (Productive.andThen_left _ (Productive.one _))
  | operatorConstructor =>
      exact Productive.spaced Productive.parenthesisedOperator
  | wildcard =>
      have dots : (word ['.', '.']).Productive :=
        Productive.word (List.cons_ne_nil _ _)
      exact Productive.spaced dots
  | dot => exact Productive.char _
  | asSign => exact Productive.spaced (Productive.char _)
  | equals => exact Productive.spaced (Productive.char _)
  | patternComma => exact Productive.spaced (Productive.char _)
  | patternOpenParen => exact Productive.spaced (Productive.char _)
  | patternCloseParen => exact Productive.spaced (Productive.char _)
  | patternOpenBracket => exact Productive.spaced (Productive.char _)
  | patternCloseBracket => exact Productive.spaced (Productive.char _)
  | openBrace => exact Productive.spaced (Productive.char _)
  | closeBrace => exact Productive.spaced (Productive.char _)
  | identifier => exact Productive.identifier
  | fieldAccess => exact Productive.fieldAccess
  | number => exact Productive.number
  | string => exact Productive.stringLiteral
  | operatorName => exact Productive.parenthesisedOperator
  | operator => exact Productive.only _ (Productive.some1 _)
  | dollar => exact Productive.andThen_left _ (Productive.some1 _)
  | spaces => exact Productive.some1 _
  | blanks => exact Productive.some1 _
  | exprOpenParen => exact Productive.char _
  | exprCloseParen => exact Productive.blanksThen _ (Productive.char _)
  | exprComma => exact Productive.blanksThen _ (Productive.char _)
  | exprOpenBracket => exact Productive.char _
  | exprCloseBracket => exact Productive.blanksThen _ (Productive.char _)

theorem scan_eq_append {triggers : Triggers} {terminal : Terminal}
    {text lexeme rest : List Char}
    (read : terminal.scan triggers text = some (lexeme, rest)) :
    text = lexeme ++ rest :=
  faithful_scan triggers terminal read

theorem lexeme_ne_nil {triggers : Triggers} {terminal : Terminal}
    {text lexeme rest : List Char}
    (read : terminal.scan triggers text = some (lexeme, rest)) :
    lexeme ≠ [] :=
  productive_scan triggers terminal read

theorem length_lt_of_scan {triggers : Triggers} {terminal : Terminal}
    {text lexeme rest : List Char}
    (read : terminal.scan triggers text = some (lexeme, rest)) :
    rest.length < text.length := by
  have positive := List.length_pos_iff.mpr (lexeme_ne_nil read)
  rw [scan_eq_append read, List.length_append]
  omega

end Terminal

end TemplateSyntax
