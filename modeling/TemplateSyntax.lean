import TemplateSyntax.Diagnostic
import TemplateSyntax.Diagnostic.Frame
import TemplateSyntax.Expr
import TemplateSyntax.Expr.Equality
import TemplateSyntax.Expr.Grammar
import TemplateSyntax.Expr.Print
import TemplateSyntax.Expr.Reading
import TemplateSyntax.Item
import TemplateSyntax.Item.Grammar
import TemplateSyntax.Item.Print
import TemplateSyntax.Item.Reading
import TemplateSyntax.Name
import TemplateSyntax.Parse
import TemplateSyntax.Pattern
import TemplateSyntax.Pattern.Equality
import TemplateSyntax.Pattern.Grammar
import TemplateSyntax.Pattern.Print
import TemplateSyntax.Pattern.Reading
import TemplateSyntax.Reading.Failure
import TemplateSyntax.Reading.Laid
import TemplateSyntax.Reading.Language
import TemplateSyntax.Reading.Paths
import TemplateSyntax.Source
import TemplateSyntax.Span
import TemplateSyntax.Template
import TemplateSyntax.Terminal
import TemplateSyntax.Terminal.Number
import TemplateSyntax.Terminal.Rules
import TemplateSyntax.Terminal.Scan
import TemplateSyntax.Text.Lines
import TemplateSyntax.Text.Quoted
import TemplateSyntax.Text.Styled
import TemplateSyntax.Text.Tabs
import TemplateSyntax.Triggers
import TemplateSyntax.Triggers.History
import TemplateSyntax.Unicode.Blank
import TemplateSyntax.Unicode.CodeRange
import TemplateSyntax.Unicode.Decimal
import TemplateSyntax.Unicode.Letter
import TemplateSyntax.Unicode.Printable
import TemplateSyntax.Unicode.Word
import TemplateSyntax.Proofs.Expr.Soundness
import TemplateSyntax.Proofs.Expr.Completeness
import TemplateSyntax.Proofs.Pattern.Completeness
import TemplateSyntax.Proofs.Item.Recognition
import TemplateSyntax.Proofs.Correctness
import TemplateSyntax.Proofs.Refusal
import TemplateSyntax.Proofs.Item.Fault
import TemplateSyntax.Proofs.Item.Seam
import TemplateSyntax.Proofs.Reading.Braced
import TemplateSyntax.Proofs.Item.Local
import TemplateSyntax.Proofs.Locality
import TemplateSyntax.Proofs.Template
import TemplateSyntax.Proofs.Diagnostic
import TemplateSyntax.Proofs.Outcome
import TemplateSyntax.Proofs.Expr.Number
import TemplateSyntax.Proofs.Expr.WellFormed
import TemplateSyntax.Proofs.Expr.Places
import TemplateSyntax.Proofs.Expr.Height
import TemplateSyntax.Proofs.Expr.Limits
import TemplateSyntax.Proofs.Expr.StringItem
import TemplateSyntax.Proofs.Expr.Printed
import TemplateSyntax.Proofs.Pattern.WellFormed
import TemplateSyntax.Proofs.Pattern.Printed
import TemplateSyntax.Proofs.Terminal.Cut
import TemplateSyntax.Proofs.Alone
import TemplateSyntax.Proofs.Item.Height
import TemplateSyntax.Proofs.Item.Canonical
import TemplateSyntax.Proofs.Item.Printed
import TemplateSyntax.Proofs.RoundTrip
import TemplateSyntax.Proofs.Conversion
import TemplateSyntax.Proofs.Errors
import TemplateSyntax.Proofs.Positions
import TemplateSyntax.Proofs.ErrorLine
import TemplateSyntax.Proofs.Terminal.Onward
import TemplateSyntax.Proofs.Item.Directive
import TemplateSyntax.Proofs.Payload
import TemplateSyntax.Proofs.Agreement
import TemplateSyntax.Proofs.Terminal.Kept
import TemplateSyntax.Proofs.Unicode.Included
import TemplateSyntax.Proofs.Terminal.Digit
import TemplateSyntax.Proofs.Terminal.Unvalued
import TemplateSyntax.Proofs.Reading.Nearsighted
import TemplateSyntax.Proofs.Item.Nearsighted
import TemplateSyntax.Proofs.Reading.Resumed
import TemplateSyntax.Proofs.Completion
import TemplateSyntax.Proofs.Continuation
import TemplateSyntax.Proofs.Name
import TemplateSyntax.Proofs.Pattern.Parts
import TemplateSyntax.Proofs.Naming
import TemplateSyntax.Proofs.LiteralText
import TemplateSyntax.Proofs.LineEnd
import TemplateSyntax.Proofs.UnknownDirective
import TemplateSyntax.Proofs.Expr.Nested
import TemplateSyntax.Proofs.Expr.Composition
import TemplateSyntax.Proofs.Pattern.Composition
import TemplateSyntax.Proofs.StringLiteral
import TemplateSyntax.Proofs.NumberValue
import TemplateSyntax.Proofs.DottedName
import TemplateSyntax.Proofs.Respacing
import TemplateSyntax.Proofs.Frame.Carets
import TemplateSyntax.Proofs.Frame.Window
import TemplateSyntax.Proofs.Frame.Columns
import TemplateSyntax.Proofs.TriggerHistory
import TemplateSyntax.Proofs.Item.Merge
