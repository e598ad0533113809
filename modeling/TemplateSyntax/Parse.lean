import TemplateSyntax.Diagnostic
import TemplateSyntax.Item.Reading

/-!
# Reading texts

The entry points: a line of template text, a pattern and an expression.  Each
reads the whole text or answers one error.  A failure becomes a diagnostic of
the text it was found in; only a number without a value and a trigger that no
line can be read with do not point anywhere.
-/

namespace TemplateSyntax

/-- Why a text was refused. -/
inductive ParseError where
  | atPlace (diagnostic : Diagnostic)
  | number (error : NumberError)
  /-- One of the triggers is the null character.  It is the only Unicode scalar
  value that no line can be read with; lone surrogates are not considered. -/
  | nullTrigger
  deriving DecidableEq

def ParseError.message : ParseError → String
  | .atPlace diagnostic => diagnostic.message
  | .number error => error.message
  | .nullTrigger =>
      "Error trying to process rule \"literal\":\n\nsource code string cannot contain null bytes"

/-- A failure as a diagnostic of the source it was found in. -/
def Failure.diagnostic (failure : Failure) (source : Source) : Diagnostic where
  message := failure.message
  span := failure.span
  source := source
  code := some "syntax"
  notes := failure.notes
  hint := failure.hint

/-- A failure as an error of the source it was found in. -/
def Failure.inSource (source : Source) : Failure → ParseError
  | .number error => .number error
  | failure => .atPlace (failure.diagnostic source)

/-- Read a source in one of the languages. -/
def Language.parse {σ α : Type} (language : Language σ α)
    (triggers : Triggers) (source : Source) : Except ParseError α :=
  (language.read triggers source.chars).mapError (Failure.inSource source)

/-- A line can be read with the triggers: neither is the null character. -/
def Triggers.canRead (triggers : Triggers) : Bool :=
  triggers.control != '\x00' && triggers.value != '\x00'

/-- Read a line of template text.  A line end directly behind a directive
belongs to the directive. -/
def parseLine (triggers : Triggers) (text : String) (label : Option String) :
    Except ParseError (List Item) :=
  if triggers.canRead then Item.language.parse triggers ⟨text, label⟩
  else .error .nullTrigger

/-- Read a pattern; triggers mean nothing inside it. -/
def parsePattern (text : String) (label : Option String) :
    Except ParseError Pattern :=
  Pattern.language.parse Triggers.standard ⟨text, label⟩

/-- A text without the spaces and tabs at its end. -/
def trimEnd (text : String) : String :=
  String.ofList (text.toList.reverse.dropWhile Scan.isSpaceOrTab).reverse

/-- Read an expression; spaces and tabs at the end of the text do not count. -/
def parseExpr (text : String) (label : Option String) :
    Except ParseError Expr :=
  Expr.language.parse Triggers.standard ⟨trimEnd text, label⟩

end TemplateSyntax
