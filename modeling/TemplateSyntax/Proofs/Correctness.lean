import Mathlib.Data.List.TakeWhile
import TemplateSyntax.Proofs.Item.Fault
import TemplateSyntax.Proofs.Reading.Acceptance

/-!
# Lines, patterns and expressions

The three grammars are unambiguous, and each of the three entry points answers a
text as its grammar calls for.  A pattern that can be derived is refused for its
depth only.  Numbers can also be too long, and they can hold digits that are
recognised but have no value; `parseLine_accepts_iff` and
`parseExpr_accepts_iff` say that nothing else comes between an answer and the
grammar, apart from triggers no line can be read with.
-/

namespace TemplateSyntax

open Expr.Grammar (Expression)
open Item.Grammar (Line)
open Pattern.Grammar (Whole)

theorem line_unambiguous (triggers : Triggers) : Unambiguous Line triggers :=
  Item.language_recognises.unambiguous (Item.language_foresees triggers)
    Item.language_distinct

theorem whole_unambiguous (triggers : Triggers) :
    Unambiguous Whole triggers :=
  Pattern.language_recognises.unambiguous
    (Pattern.language_foresees triggers) Pattern.language_distinct

theorem expression_unambiguous (triggers : Triggers) :
    Unambiguous Expression triggers :=
  Expr.language_recognises.unambiguous (Expr.language_foresees triggers)
    Expr.language_distinct

/-- Whatever the triggers, a text can be derived in one way only, whether as a
line, as a pattern or as an expression. -/
theorem grammars_unambiguous (triggers : Triggers) :
    Unambiguous Line triggers ∧ Unambiguous Whole triggers ∧
      Unambiguous Expression triggers :=
  ⟨line_unambiguous triggers, whole_unambiguous triggers,
    expression_unambiguous triggers⟩

theorem parseLine_eq_ok_iff {triggers : Triggers} {text : String}
    {label : Option String} {items : List Item} :
    parseLine triggers text label = .ok items ↔
      triggers.canRead = true ∧ ∃ tokens, Laid triggers text.toList tokens [] ∧
        Line tokens items ∧
        Item.language.fault? Item.language.start tokens = none := by
  rw [parseLine]
  split
  · rename_i readable
    rw [and_iff_right readable]
    exact Item.language_recognises.parse_eq_ok_iff (line_unambiguous triggers)
  · rename_i unreadable
    refine iff_of_false ?_ (fun both => unreadable both.1)
    rintro ⟨⟩

theorem parsePattern_eq_ok_iff {text : String} {label : Option String}
    {pattern : Pattern} :
    parsePattern text label = .ok pattern ↔
      ∃ tokens, Laid Triggers.standard text.toList tokens [] ∧
        Whole tokens pattern ∧
        Pattern.language.fault? Pattern.language.start tokens = none :=
  Pattern.language_recognises.parse_eq_ok_iff
    (whole_unambiguous Triggers.standard)

theorem parseExpr_eq_ok_iff {text : String} {label : Option String}
    {expr : Expr} :
    parseExpr text label = .ok expr ↔
      ∃ tokens, Laid Triggers.standard (trimEnd text).toList tokens [] ∧
        Expression tokens expr ∧
        Expr.language.fault? Expr.language.start tokens = none :=
  Expr.language_recognises.parse_eq_ok_iff
    (expression_unambiguous Triggers.standard)

theorem parseLine_of_plain {triggers : Triggers}
    (readable : triggers.canRead = true) {text : String}
    (proper : text.toList ≠ [])
    (plain : ∀ c ∈ text.toList, c ≠ triggers.control ∧ c ≠ triggers.value)
    (label : Option String) :
    parseLine triggers text label = .ok [.literal text] := by
  have accepted : ∀ c ∈ text.toList,
      (c != triggers.control && c != triggers.value) = true := by
    intro c member
    simpa using plain c member
  have read : Terminal.literal.scan triggers text.toList =
      some (text.toList, []) := by
    obtain ⟨c, tail, split⟩ := List.exists_cons_of_ne_nil proper
    rw [split] at accepted ⊢
    have inside : ∀ other ∈ tail,
        (other != triggers.control && other != triggers.value) = true :=
      fun other member => accepted other (List.mem_cons_of_mem _ member)
    refine Scan.some1_eq_some_iff.mpr
      ⟨c, tail, rfl, accepted c List.mem_cons_self, ?_, ?_⟩
    · rw [List.takeWhile_eq_self_iff.mpr inside]
    · exact (List.dropWhile_eq_nil_iff.mpr inside).symm
  have one := Item.Grammar.One.literal text.toList
  rw [String.ofList_toList] at one
  refine parseLine_eq_ok_iff.mpr ⟨readable, [⟨.literal, text.toList⟩],
    .cons read (.nil _), ⟨[.literal text], .cons one .nil, rfl⟩, ?_⟩
  rw [Item.fault?_literal one]

/-- A line is answered as its grammar calls for, unless one of the triggers is
the null character or the first fault of the line is a digit without a value. -/
theorem parseLine_accepts_iff (triggers : Triggers) (text : String)
    (label : Option String) :
    Accepts Line triggers text.toList (parseLine triggers text label)
        ParseError.BeyondLimit ↔
      triggers.canRead = true ∧
        ¬Item.language.FailsOnDigit Line triggers text.toList := by
  by_cases readable : triggers.canRead = true
  · have answer : parseLine triggers text label =
        Item.language.parse triggers ⟨text, label⟩ := if_pos readable
    rw [answer, and_iff_right readable]
    exact Item.language_recognises.accepts_parse_beyondLimit_iff
      (line_unambiguous triggers) ⟨text, label⟩
  · have answer : parseLine triggers text label = .error .nullTrigger :=
      if_neg readable
    refine iff_of_false ?_ (fun both => readable both.1)
    intro accepts
    -- the refusal does not count as unexpected, so the text would be derivable
    have derivable := accepts.derivable_iff.mpr <| by
      rintro ⟨error, failed, unexpected⟩
      rw [answer] at failed
      cases failed
      exact unexpected
    exact (accepts.failure _ derivable answer).elim id id

/-- An expression is answered as its grammar calls for, unless its first fault
is a digit without a value. -/
theorem parseExpr_accepts_iff (text : String) (label : Option String) :
    Accepts Expression Triggers.standard (trimEnd text).toList
        (parseExpr text label) ParseError.BeyondLimit ↔
      ¬Expr.language.FailsOnDigit Expression Triggers.standard
        (trimEnd text).toList :=
  Expr.language_recognises.accepts_parse_beyondLimit_iff
    (expression_unambiguous Triggers.standard) ⟨trimEnd text, label⟩

theorem Pattern.terminal_ne_number_of_whole {tokens : List Token}
    {value : Pattern} (derivation : Whole tokens value) :
    ∀ token ∈ tokens, token.terminal ≠ .number := by
  obtain ⟨_, path, _⟩ :=
    (Pattern.language_recognises tokens value).mp derivation
  exact path.forall_terminal fun _ _ _ => Pattern.terminal_ne_number

/-- Every pattern is answered as its grammar calls for. -/
theorem parsePattern_accepts (text : String) (label : Option String) :
    Accepts Whole Triggers.standard text.toList (parsePattern text label)
      ParseError.NestedTooDeeply := by
  refine Pattern.language_recognises.accepts_parse_of_no_number
    (whole_unambiguous Triggers.standard) ⟨text, label⟩ ?_
  intro tokens value derivation
  exact Pattern.terminal_ne_number_of_whole derivation

end TemplateSyntax
