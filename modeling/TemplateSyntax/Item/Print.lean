import TemplateSyntax.Item
import TemplateSyntax.Pattern.Print

/-!
# Printing template lines

A source text for every sequence of items that reading can produce.  A trigger
inside a literal is written behind its escape; behind an escaped control
trigger, as behind a directive, stands the line end that it takes with it.
-/

namespace TemplateSyntax.Item

/-- A character of a literal. -/
def printCharacter (triggers : Triggers) (c : Char) : List Char :=
  if c = triggers.control then [c, '\\', '\n']
  else if c = triggers.value then [c, '\\']
  else [c]

/-- A literal; the empty one can only be written at the end of a line. -/
def printLiteral (triggers : Triggers) (text : String) : List Char :=
  if text.isEmpty then [triggers.value]
  else text.toList.flatMap (printCharacter triggers)

def printDirective (triggers : Triggers) (keyword : Keyword)
    (payload : List Char) : List Char :=
  triggers.control :: '{' :: keyword.spelling.toList ++
    (if keyword.opensPayload then ' ' :: payload else payload) ++ ['}', '\n']

def print (triggers : Triggers) : Item → List Char
  | .literal text => printLiteral triggers text
  | .value expr => triggers.value :: '{' :: expr.print ++ ['}']
  | .forallStart expr pattern =>
      printDirective triggers .forallStart
        (pattern.print ++ " <- ".toList ++ expr.print)
  | .forallEnd => printDirective triggers .forallEnd []
  | .ifStart expr => printDirective triggers .ifStart expr.print
  | .elseIf expr => printDirective triggers .elseIf expr.print
  | .otherwise => printDirective triggers .otherwise []
  | .ifEnd => printDirective triggers .ifEnd []
  | .caseStart expr => printDirective triggers .caseStart expr.print
  | .caseOf pattern => printDirective triggers .caseOf pattern.print
  | .caseEnd => printDirective triggers .caseEnd []

def printLine (triggers : Triggers) (items : List Item) : List Char :=
  items.flatMap (print triggers)

end TemplateSyntax.Item
