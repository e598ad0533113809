import TemplateSyntax.Proofs.Item.Canonical
import TemplateSyntax.Proofs.Item.Directive
import TemplateSyntax.Proofs.Item.Height
import TemplateSyntax.Proofs.Payload
import TemplateSyntax.Proofs.RoundTrip

/-!
# Expressions and patterns inside lines

What is read as an expression or a pattern by itself is read the same inside an
interpolation or a directive, whatever blanks stand around it, as long as the line
does not nest too deeply.  This holds for all triggers that lines can be read
with, and for no others (`entryPointsAgree_iff`).
-/

namespace TemplateSyntax

open Expr.Grammar (Expression)
open Pattern.Grammar (Whole)

/-! ### Statement -/

def Item.valueText (triggers : Triggers) (payload : List Char) : String :=
  String.ofList (triggers.value :: '{' :: (payload ++ ['}']))

/-- The text of a directive and what stands behind it. -/
def Item.directiveText (triggers : Triggers) (inside ending : List Char) :
    String :=
  String.ofList (triggers.control :: '{' :: (inside ++ '}' :: ending))

/-- One line end of the two plain kinds, or none. -/
def IsLineEnd (ending : List Char) : Prop :=
  ending = [] ∨ ending = ['\n'] ∨ ending = ['\r', '\n']

/-- With that many nodes around it, what the text spells stays within the
limit. -/
def Language.LiesWithin {σ α : Type} (language : Language σ α) (around : Nat)
    (text : List Char) (value : α) : Prop :=
  ∃ tokens height, Laid Triggers.standard text tokens [] ∧
    language.Measures tokens value height ∧ around + height ≤ nestingLimit

/-- The same for an expression, whose text is trimmed. -/
def Expr.LiesWithin (around : Nat) (text : String) (expr : Expr) : Prop :=
  Expr.language.LiesWithin around (trimEnd text).toList expr

def Pattern.LiesWithin (around : Nat) (text : String) (pattern : Pattern) :
    Prop :=
  Pattern.language.LiesWithin around text.toList pattern

/-- The answer is the item alone if it fits, and else that the line nests too
deeply. -/
def AnswersIf (answer : Except ParseError (List Item)) (item : Item)
    (fits : Prop) : Prop :=
  fits ∧ answer = .ok [item] ∨
    ¬fits ∧ ∃ error, answer = .error error ∧ error.NestedTooDeeply

theorem AnswersIf.eq_ok {answer : Except ParseError (List Item)} {item : Item}
    {fits : Prop} (answers : AnswersIf answer item fits) (met : fits) :
    answer = .ok [item] :=
  AnswersWithin.eq_ok answers met

open Item (Blank valueText directiveText)

/-- A line reads expressions and patterns as they are read alone. -/
structure EntryPointsAgree (triggers : Triggers) : Prop where
  value : ∀ (text : String) (expr : Expr) (label label' : Option String),
    parseExpr text label = .ok expr →
    AnswersIf (parseLine triggers (valueText triggers text.toList) label')
      (.value expr) (expr.LiesWithin 2 text)
  /-- Whatever is read between the braces can also be read alone. -/
  expr : ∀ (text : String) (expr : Expr) (label label' : Option String),
    parseLine triggers (valueText triggers text.toList) label' =
      .ok [.value expr] → parseExpr text label = .ok expr
  exprDirective : ∀ (keyword : Keyword) (expr : Expr) (item : Item),
    Item.Grammar.ExprDirective keyword expr item →
    ∀ (text : String) (label label' : Option String)
      (before gap after ending : List Char),
    parseExpr text label = .ok expr → Blank before → Blank gap → gap ≠ [] →
    Blank after → IsLineEnd ending →
    AnswersIf
      (parseLine triggers
        (directiveText triggers (before ++ (keyword.spelling.toList ++
          (gap ++ (text.toList ++ after)))) ending) label')
      item (expr.LiesWithin 3 text)
  caseOf : ∀ (text : String) (pattern : Pattern) (label label' : Option String)
      (before gap after ending : List Char),
    parsePattern text label = .ok pattern → Blank before → Blank gap →
    gap ≠ [] → Blank after → IsLineEnd ending →
    AnswersIf
      (parseLine triggers
        (directiveText triggers (before ++ (Keyword.caseOf.spelling.toList ++
          (gap ++ (text.toList ++ after)))) ending) label')
      (.caseOf pattern) (pattern.LiesWithin 2 text)
  forallStart : ∀ (text : String) (pattern : Pattern) (text' : String)
      (expr : Expr) (label label' label'' : Option String)
      (before gap left right after ending : List Char),
    parsePattern text label = .ok pattern → parseExpr text' label' = .ok expr →
    Blank before → Blank gap → gap ≠ [] → Blank left → Blank right →
    Blank after → IsLineEnd ending →
    AnswersIf
      (parseLine triggers
        (directiveText triggers (before ++
          (Keyword.forallStart.spelling.toList ++ (gap ++ (text.toList ++
            (left ++ '<' :: '-' :: (right ++ (text'.toList ++ after)))))))
          ending) label'')
      (.forallStart expr pattern)
      (pattern.LiesWithin 2 text ∧ expr.LiesWithin 3 text')
  bare : ∀ (keyword : Keyword) (item : Item),
    Item.Grammar.BareDirective keyword item →
    ∀ (label : Option String) (before after ending : List Char),
    Blank before → Blank after → IsLineEnd ending →
    parseLine triggers
      (directiveText triggers
        (before ++ (keyword.spelling.toList ++ after)) ending) label =
      .ok [item]

/-! ### One item -/

theorem IsLineEnd.ends {ending : List Char} (isLineEnd : IsLineEnd ending) :
    Scan.lineEnd.optional (ending ++ []) = some (ending, []) := by
  rcases isLineEnd with rfl | rfl | rfl <;> rfl

namespace Language

variable {σ α : Type} {language : Language σ α}

theorem Recognises.liesWithin_iff {grammar : List Token → α → Prop}
    (recognises : language.Recognises grammar)
    (unambiguous : Unambiguous grammar Triggers.standard) {text : List Char}
    {value : α} {tokens : List Token} {height : Nat}
    (laid : Laid Triggers.standard text tokens [])
    (measures : language.Measures tokens value height) (around : Nat) :
    language.LiesWithin around text value ↔ around + height ≤ nestingLimit := by
  constructor
  · rintro ⟨tokens', height', laid', measures', shallow⟩
    obtain ⟨rfl, _⟩ := unambiguous _ _ _ _ _ laid
      (recognises.of_measures measures) laid'
      (recognises.of_measures measures')
    rwa [measures.unique measures']
  · intro shallow
    exact ⟨tokens, height, laid, measures, shallow⟩

end Language

namespace Item

variable {triggers : Triggers} {text : String} {tokens : List Token}
  {item : Item} {fits : Prop}

theorem valued_within {opening closing : Token}
    (first : opening.terminal ≠ .number) (last : closing.terminal ≠ .number)
    (valued : Valued tokens) : Valued (opening :: tokens ++ [closing]) :=
  (valued_cons_iff first).mpr
    (valued_append.mpr ⟨valued, valued_singleton last⟩)

/-- The answer to the text of a single item without a number that has no value. -/
theorem answersIf_of_one (readable : triggers.canRead = true)
    (laid : Laid triggers text.toList tokens []) (one : Grammar.One tokens item)
    (valued : Valued tokens)
    (faultless : language.fault? language.start tokens = none ↔ fits)
    (label : Option String) :
    AnswersIf (parseLine triggers text label) item fits := by
  have line : Grammar.Line tokens [item] := by
    refine ⟨[item], ?_, by cases item <;> rfl⟩
    have sequence := Grammar.Sequence.cons one .nil
    rwa [List.append_nil] at sequence
  have whole : Laid triggers (Source.chars ⟨text, label⟩) tokens [] := laid
  have answers : AnswersWithin (parseLine triggers text label) [item] fits := by
    rw [parseLine, if_pos readable]
    exact language_recognises.answersWithin (line_unambiguous triggers) whole
      line valued faultless
  exact answers

end Item

/-! ### Payloads -/

/-- The text of an expression: blanks, the tokens of the expression, which are laid
in front of every stop, and more blanks. -/
structure Expr.Payload (text : String) (expr : Expr)
    (lead body trail : List Char) (tokens : List Token) (height : Nat) :
    Prop where
  split : text.toList = lead ++ (body ++ trail)
  lead : Blank lead
  trail : Blank trail
  visible : Expr.BeginsVisibly body
  laid : ∀ (triggers : Triggers) (more : List Char), Stopped more →
    Laid triggers (body ++ more) tokens more
  measures : Expr.language.Measures tokens expr height
  valued : Item.Valued tokens
  liesWithin_iff : ∀ around,
    expr.LiesWithin around text ↔ around + height ≤ nestingLimit

namespace Expr

theorem exists_alone {text : String} {label : Option String} {expr : Expr}
    (answer : parseExpr text label = .ok expr) :
    ∃ tokens height, Laid Triggers.standard (trimEnd text).toList tokens [] ∧
      language.Measures tokens expr height ∧ Item.Valued tokens ∧
      ∀ around, expr.LiesWithin around text ↔
        around + height ≤ nestingLimit := by
  obtain ⟨tokens, laid, expression, faultless⟩ := parseExpr_eq_ok_iff.mp answer
  obtain ⟨final, path, finished⟩ :=
    (language_recognises tokens expr).mp expression
  have measures : language.Measures tokens expr _ :=
    ⟨final, path, finished, rfl⟩
  exact ⟨tokens, _, laid, measures,
    ((language_distinct.fault?_eq_none_iff path).mp faultless).2,
    language_recognises.liesWithin_iff
      (expression_unambiguous Triggers.standard) laid measures⟩

theorem exists_payload {text : String} {label : Option String} {expr : Expr}
    (answer : parseExpr text label = .ok expr) :
    ∃ lead body trail tokens height,
      expr.Payload text lead body trail tokens height := by
  obtain ⟨tokens, height, laid, measures, valued, limits⟩ := exists_alone answer
  obtain ⟨trail, split, blank⟩ := exists_trimmed text
  obtain ⟨lead, body, inner, bodySplit, leadBlank, visible, bodyLaid,
    bodyMeasures, within⟩ := exists_body laid measures
  have expression := language_recognises.of_measures bodyMeasures
  exact ⟨lead, body, trail, inner, height, {
    split := by rw [split, bodySplit, List.append_assoc]
    lead := fun c member => Scan.isBlank_of_isSpaceOrTab c (leadBlank c member)
    trail := fun c member => Scan.isBlank_of_isSpaceOrTab c (blank c member)
    visible := visible
    laid := fun triggers _ stopped =>
      laid_stopped bodyLaid expression stopped triggers
    measures := bodyMeasures
    valued := fun token member => valued token (within token member)
    liesWithin_iff := limits }⟩

theorem liesWithin_print {expr : Expr} (formed : expr.WellFormed)
    (around : Nat) :
    expr.LiesWithin around (String.ofList expr.print) ↔
      around + expr.levels ≤ nestingLimit := by
  obtain ⟨tokens, spells⟩ := exists_spells formed
  have trimmed := trimEnd_of_laid spells.alone spells.expression
  have laid := spells.alone
  rw [← String.toList_ofList (l := expr.print), ← trimmed] at laid
  exact language_recognises.liesWithin_iff
    (expression_unambiguous Triggers.standard) laid spells.measures around

theorem liesWithin_of_isWord {name : String} (isWord : Scan.IsWord name.toList)
    {around : Nat} (shallow : around + 3 ≤ nestingLimit) :
    (Expr.name name).LiesWithin around name := by
  have within := (liesWithin_print (.word isWord) around).mpr shallow
  rwa [print_of_isWord isWord] at within

end Expr

namespace Pattern

theorem exists_alone {text : String} {label : Option String}
    {pattern : Pattern} (answer : parsePattern text label = .ok pattern) :
    ∃ tokens height, Laid Triggers.standard text.toList tokens [] ∧
      language.Measures tokens pattern height ∧
      ∀ around, pattern.LiesWithin around text ↔
        around + height ≤ nestingLimit := by
  obtain ⟨tokens, laid, whole, _⟩ := parsePattern_eq_ok_iff.mp answer
  obtain ⟨height, measures⟩ := language_recognises.exists_measures whole
  exact ⟨tokens, height, laid, measures,
    language_recognises.liesWithin_iff
      (whole_unambiguous Triggers.standard) laid measures⟩

theorem liesWithin_print {pattern : Pattern} (formed : pattern.WellFormed)
    (around : Nat) :
    pattern.LiesWithin around (String.ofList pattern.print) ↔
      around + (pattern.nesting + 2) ≤ nestingLimit := by
  obtain ⟨tokens, spells⟩ := readable_of_wellFormed formed [] .nil
  exact language_recognises.liesWithin_iff (whole_unambiguous Triggers.standard)
    spells.covers.alone spells.measures around

theorem liesWithin_of_isVariable {name : String}
    (isVariable : Scan.IsVariable name.toList) {around : Nat}
    (shallow : around + 2 ≤ nestingLimit) :
    (Pattern.var name).LiesWithin around name := by
  have within := (liesWithin_print (.var isVariable) around).mpr shallow
  rwa [print, String.ofList_toList] at within

/-- The text of a pattern with the spaces behind it, which its last token takes, in
front of other blanks and a sign. -/
structure Payload (triggers : Triggers) (text : String) (pattern : Pattern)
    (after more gap rest : List Char) (tokens : List Token) (height : Nat) :
    Prop where
  split : after = gap ++ rest
  blank : Blank rest
  visible : Expr.BeginsVisibly text.toList
  laid : Laid triggers (text.toList ++ (gap ++ (rest ++ more))) tokens
    (rest ++ more)
  measures : language.Measures tokens pattern height
  liesWithin_iff : ∀ around,
    pattern.LiesWithin around text ↔ around + height ≤ nestingLimit

theorem exists_payload (triggers : Triggers) {text : String}
    {label : Option String} {pattern : Pattern}
    (answer : parsePattern text label = .ok pattern) {after : List Char}
    (blank : Blank after) (sign : Char) (more : List Char)
    (shown : Unicode.isBlank sign = false) (mark : sign ∈ marks) :
    ∃ gap rest tokens height,
      Payload triggers text pattern after (sign :: more) gap rest tokens
        height := by
  obtain ⟨tokens, height, laid, measures, limits⟩ := exists_alone answer
  have split : after.takeWhile Scan.isSpace ++ after.dropWhile Scan.isSpace =
      after := List.takeWhile_append_dropWhile
  have inside : ∀ c ∈ after.takeWhile Scan.isSpace, c = ' ' := fun c member =>
    of_decide_eq_true (List.all_eq_true.mp List.all_takeWhile c member)
  have blankRest : Blank (after.dropWhile Scan.isSpace) := fun c member =>
    blank c ((List.dropWhile_suffix _).subset member)
  have name : Scan.notAhead isNameChar (after ++ sign :: more) = true := by
    by_cases empty : after = []
    · subst empty
      have other : isNameChar sign = false := by
        rw [Bool.eq_false_iff]
        exact fun name => not_mem_marks_of_isNameChar name mark
      simp [Scan.notAhead, other]
    · exact Item.notAhead_isNameChar blank empty
  have space : Scan.notAhead Scan.isSpace
      (after.dropWhile Scan.isSpace ++ sign :: more) = true := by
    cases rest : after.dropWhile Scan.isSpace with
    | nil =>
        have other : sign ≠ ' ' := by
          rintro rfl
          cases shown
        simp [Scan.notAhead, Scan.isSpace, other]
    | cons c rest =>
        have refused := List.head?_dropWhile_not Scan.isSpace after
        simpa [Scan.notAhead, rest] using refused
  rw [← split, List.append_assoc] at name
  obtain ⟨tokens', longer, measures'⟩ :=
    exists_laid_gap laid measures inside name space triggers
  exact ⟨_, _, tokens', height, {
    split := split.symm
    blank := blankRest
    visible := beginsVisibly_of_laid laid measures
    laid := longer
    measures := measures'
    liesWithin_iff := limits }⟩

end Pattern

/-! ### Agreement -/

theorem laid_valueText {triggers : Triggers} {text : String}
    {payload trail : List Char} {tokens : List Token}
    (split : text.toList = payload ++ trail)
    (blank : ∀ c ∈ trail, Scan.isSpaceOrTab c = true)
    (inside : Laid triggers (payload ++ (trail ++ ['}'])) tokens
      (trail ++ ['}'])) :
    Laid triggers (valueText triggers text.toList).toList
      (⟨.valueOpen, [triggers.value, '{']⟩ :: tokens ++
        [⟨.valueClose, trail ++ ['}']⟩]) [] := by
  have opening : Terminal.valueOpen.scan triggers
      (triggers.value :: '{' :: (payload ++ (trail ++ ['}']))) =
      some ([triggers.value, '{'], payload ++ (trail ++ ['}'])) :=
    Scan.word_eq_some_iff.mpr ⟨rfl, rfl⟩
  have closing : Terminal.valueClose.scan triggers (trail ++ ['}']) =
      some (trail ++ ['}'], []) :=
    Scan.blanksThen_gap (by decide) blank []
  rw [valueText, String.toList_ofList, split, List.append_assoc]
  exact .cons opening (inside.append (.cons closing (.nil [])))

theorem laid_directiveText {triggers : Triggers} {keyword : Keyword}
    {before gap payload after ending : List Char} {tokens : List Token}
    (opens : keyword.opensPayload = true) (blankBefore : Blank before)
    (blank : Blank gap) (proper : gap ≠ []) (blankAfter : Blank after)
    (isLineEnd : IsLineEnd ending) (visible : Expr.BeginsVisibly payload)
    (inside : Laid triggers (payload ++ (after ++ '}' :: ending)) tokens
      (after ++ '}' :: ending)) :
    Laid triggers (directiveText triggers (before ++
        (keyword.spelling.toList ++ (gap ++ (payload ++ after)))) ending).toList
      (⟨.controlOpen, triggers.control :: '{' :: before⟩ ::
        ⟨.keyword keyword, keyword.spelling.toList ++ gap⟩ :: tokens ++
          [⟨.controlClose, after ++ '}' :: ending⟩]) [] := by
  rw [← List.append_nil ending] at inside
  have laid := Item.laid_directive opens blankBefore blank proper blankAfter
    (visible.append _) inside isLineEnd.ends
  simpa [directiveText] using laid

/-- The text of a loop directive: the pattern takes the spaces in front of the
arrow, and the arrow the blanks around it. -/
theorem laid_forallStart {triggers : Triggers} {text text' : String}
    {pattern : Pattern} {expr : Expr}
    {before gap left right after ending spaces rest lead body trail : List Char}
    {tokens tokens' : List Token} {height height' : Nat}
    (front : pattern.Payload triggers text left
      ('<' :: '-' :: (right ++ lead ++ (body ++ (trail ++ after ++
        '}' :: ending)))) spaces rest tokens' height')
    (payload : expr.Payload text' lead body trail tokens height)
    (blankBefore : Blank before) (blank : Blank gap) (proper : gap ≠ [])
    (blankRight : Blank right) (blankAfter : Blank after)
    (isLineEnd : IsLineEnd ending) :
    Laid triggers (directiveText triggers (before ++
        (Keyword.forallStart.spelling.toList ++ (gap ++ (text.toList ++
          (left ++ '<' :: '-' :: (right ++ (text'.toList ++ after)))))))
        ending).toList
      (⟨.controlOpen, triggers.control :: '{' :: before⟩ ::
        ⟨.keyword .forallStart, Keyword.forallStart.spelling.toList ++ gap⟩ ::
          (tokens' ++ ⟨.arrow, rest ++ '<' :: '-' :: (right ++ lead)⟩ ::
            tokens) ++
          [⟨.controlClose, trail ++ after ++ '}' :: ending⟩]) [] := by
  have behind := payload.trail.append blankAfter
  have inside := payload.laid triggers (trail ++ after ++ '}' :: ending)
    ((Stopped.cons (by decide) _).behind behind)
  have arrow : Terminal.arrow.scan triggers (rest ++ '<' :: '-' ::
      (right ++ lead ++ (body ++ (trail ++ after ++ '}' :: ending)))) = _ :=
    Item.scan_arrow front.blank (blankRight.append payload.lead)
      (payload.visible.append _)
  have both := front.laid.append (.cons arrow inside)
  have pieces : text.toList ++ (spaces ++ (rest ++ '<' :: '-' ::
      (right ++ lead ++ (body ++ (trail ++ after ++ '}' :: ending))))) =
      text.toList ++ (left ++ '<' :: '-' :: (right ++ lead ++ body)) ++
        (trail ++ after ++ '}' :: ending) := by
    simp [front.split]
  rw [pieces] at both
  have opens : Keyword.forallStart.opensPayload = true := rfl
  have whole := laid_directiveText opens blankBefore blank proper behind
    isLineEnd (front.visible.append _) both
  have inner : text.toList ++ (left ++ '<' :: '-' :: (right ++ lead ++ body)) ++
      (trail ++ after) =
      text.toList ++ (left ++ '<' :: '-' :: (right ++ (text'.toList ++ after))) := by
    simp [payload.split]
  rwa [inner] at whole

section Readable

variable {triggers : Triggers} (readable : triggers.canRead = true)
include readable

theorem answers_value {text : String} {expr : Expr} {label : Option String}
    (answer : parseExpr text label = .ok expr) (label' : Option String) :
    AnswersIf (parseLine triggers (valueText triggers text.toList) label')
      (.value expr) (expr.LiesWithin 2 text) := by
  obtain ⟨tokens, height, laid, measures, valued, limits⟩ :=
    Expr.exists_alone answer
  obtain ⟨trail, split, blank⟩ := exists_trimmed text
  have expression := Expr.language_recognises.of_measures measures
  have stopped : Stopped (trail ++ ['}']) :=
    (Stopped.cons (by decide) []).behind fun c member =>
      Scan.isBlank_of_isSpaceOrTab c (blank c member)
  have whole := laid_valueText split blank
    (Expr.laid_stopped laid expression stopped triggers)
  refine Item.answersIf_of_one readable whole (.value _ _ expression)
    (Item.valued_within (by simp) (by simp) valued) ?_ label'
  rw [Item.fault?_value_iff measures, and_iff_left valued, limits]

theorem answers_exprDirective {keyword : Keyword} {expr : Expr} {item : Item}
    (known : Item.Grammar.ExprDirective keyword expr item) {text : String}
    {label : Option String} {before gap after ending : List Char}
    (answer : parseExpr text label = .ok expr) (blankBefore : Blank before)
    (blank : Blank gap) (proper : gap ≠ []) (blankAfter : Blank after)
    (isLineEnd : IsLineEnd ending) (label' : Option String) :
    AnswersIf
      (parseLine triggers
        (directiveText triggers (before ++ (keyword.spelling.toList ++
          (gap ++ (text.toList ++ after)))) ending) label')
      item (expr.LiesWithin 3 text) := by
  obtain ⟨lead, body, trail, tokens, height, payload⟩ :=
    Expr.exists_payload answer
  have opens : keyword.opensPayload = true := by
    cases known <;> rfl
  have expression := Expr.language_recognises.of_measures payload.measures
  have behind := payload.trail.append blankAfter
  have inside := payload.laid triggers (trail ++ after ++ '}' :: ending)
    ((Stopped.cons (by decide) _).behind behind)
  have whole := laid_directiveText opens blankBefore
    (blank.append payload.lead) (by simp [proper]) behind isLineEnd
    payload.visible inside
  have text : gap ++ lead ++ (body ++ (trail ++ after)) =
      gap ++ (text.toList ++ after) := by
    simp [payload.split]
  rw [text] at whole
  refine Item.answersIf_of_one readable whole
    (.directive _ _ (.expr _ expression known)) ?_ ?_ label'
  · exact Item.valued_within (by simp) (by simp)
      ((Item.valued_cons_iff (by simp)).mpr payload.valued)
  · rw [payload.liesWithin_iff]
    refine (Item.fault?_exprDirective_iff payload.measures known _ _ _).trans ?_
    exact and_iff_left payload.valued

theorem answers_caseOf {text : String} {pattern : Pattern}
    {label : Option String} {before gap after ending : List Char}
    (answer : parsePattern text label = .ok pattern)
    (blankBefore : Blank before) (blank : Blank gap) (proper : gap ≠ [])
    (blankAfter : Blank after) (isLineEnd : IsLineEnd ending)
    (label' : Option String) :
    AnswersIf
      (parseLine triggers
        (directiveText triggers (before ++ (Keyword.caseOf.spelling.toList ++
          (gap ++ (text.toList ++ after)))) ending) label')
      (.caseOf pattern) (pattern.LiesWithin 2 text) := by
  obtain ⟨spaces, rest, tokens, height, payload⟩ :=
    Pattern.exists_payload triggers answer blankAfter '}' ending (by decide)
      (by decide)
  have pattern := Pattern.language_recognises.of_measures payload.measures
  have inside := payload.laid
  rw [← List.append_assoc] at inside
  have opens : Keyword.caseOf.opensPayload = true := rfl
  have whole := laid_directiveText opens blankBefore blank proper payload.blank
    isLineEnd (payload.visible.append spaces) inside
  rw [List.append_assoc, ← payload.split] at whole
  refine Item.answersIf_of_one readable whole
    (.directive _ _ (.caseOf _ pattern)) ?_ ?_ label'
  · exact Item.valued_within (by simp) (by simp)
      ((Item.valued_cons_iff (by simp)).mpr
        (Item.valued_of_pattern payload.measures))
  · rw [payload.liesWithin_iff]
    exact Item.fault?_caseOf_iff payload.measures _ _ _

theorem answers_forallStart {text text' : String} {pattern : Pattern}
    {expr : Expr} {label label' : Option String}
    {before gap left right after ending : List Char}
    (answer : parsePattern text label = .ok pattern)
    (answer' : parseExpr text' label' = .ok expr)
    (blankBefore : Blank before) (blank : Blank gap) (proper : gap ≠ [])
    (blankLeft : Blank left) (blankRight : Blank right)
    (blankAfter : Blank after) (isLineEnd : IsLineEnd ending)
    (label'' : Option String) :
    AnswersIf
      (parseLine triggers
        (directiveText triggers (before ++
          (Keyword.forallStart.spelling.toList ++ (gap ++ (text.toList ++
            (left ++ '<' :: '-' :: (right ++ (text'.toList ++ after)))))))
          ending) label'')
      (.forallStart expr pattern)
      (pattern.LiesWithin 2 text ∧ expr.LiesWithin 3 text') := by
  obtain ⟨lead, body, trail, tokens, height, payload⟩ :=
    Expr.exists_payload answer'
  obtain ⟨spaces, rest, tokens', height', front⟩ :=
    Pattern.exists_payload triggers answer blankLeft '<'
      ('-' :: (right ++ lead ++ (body ++ (trail ++ after ++ '}' :: ending))))
      (by decide) (by decide)
  have whole := laid_forallStart front payload blankBefore blank proper
    blankRight blankAfter isLineEnd
  have one := Item.Grammar.One.directive (triggers.control :: '{' :: before)
    (trail ++ after ++ '}' :: ending)
    (.forallStart (Keyword.forallStart.spelling.toList ++ gap)
      (rest ++ '<' :: '-' :: (right ++ lead))
      (Pattern.language_recognises.of_measures front.measures)
      (Expr.language_recognises.of_measures payload.measures))
  have valued : Item.Valued (tokens' ++
      ⟨.arrow, rest ++ '<' :: '-' :: (right ++ lead)⟩ :: tokens) :=
    Item.valued_append.mpr ⟨Item.valued_of_pattern front.measures,
      (Item.valued_cons_iff (by simp)).mpr payload.valued⟩
  refine Item.answersIf_of_one readable whole one ?_ ?_ label''
  · exact Item.valued_within (by simp) (by simp)
      ((Item.valued_cons_iff (by simp)).mpr valued)
  · rw [payload.liesWithin_iff, front.liesWithin_iff]
    refine (Item.fault?_forallStart_iff payload.measures front.measures
      _ _ _ _).trans ?_
    rw [and_iff_left payload.valued]

theorem parseLine_bare {keyword : Keyword} {item : Item}
    (known : Item.Grammar.BareDirective keyword item)
    {before after ending : List Char} (blankBefore : Blank before)
    (blankAfter : Blank after) (isLineEnd : IsLineEnd ending)
    (label : Option String) :
    parseLine triggers
      (directiveText triggers
        (before ++ (keyword.spelling.toList ++ after)) ending) label =
      .ok [item] := by
  have closes : keyword.opensPayload = false := by
    cases known <;> rfl
  have laid : Laid triggers _ _ [] :=
    Item.laid_bareDirective closes blankBefore blankAfter isLineEnd.ends
  have whole : Laid triggers (directiveText triggers
      (before ++ (keyword.spelling.toList ++ after)) ending).toList
      (⟨.controlOpen, triggers.control :: '{' :: before⟩ ::
        [⟨.keyword keyword, keyword.spelling.toList⟩] ++
          [⟨.controlClose, after ++ '}' :: ending⟩]) [] := by
    simpa [directiveText] using laid
  have valued : Item.Valued [⟨.keyword keyword, keyword.spelling.toList⟩] :=
    Item.valued_singleton (by simp)
  have faultless := Item.fault?_bare known (triggers.control :: '{' :: before)
    keyword.spelling.toList (after ++ '}' :: ending)
  have answer := Item.answersIf_of_one readable whole
    (.directive _ _ (.bare _ known))
    (Item.valued_within (by simp) (by simp) valued)
    (iff_of_true faultless trivial) label
  exact answer.eq_ok trivial

end Readable

theorem Item.eq_singleton_of_merge {parts : List Item} {item : Item}
    (other : item.isLiteral = false) (merged : merge parts = [item]) :
    parts = [item] := by
  have head : (merge parts).head? = some item := by
    rw [merged]
    rfl
  obtain ⟨first, begins, same⟩ := head_of_merge head
  cases parts with
  | nil => cases begins
  | cons part parts =>
      cases begins
      have apart : merge (first :: parts) = first :: merge parts :=
        prepend_other (same.trans other) _
      rw [apart] at merged
      obtain ⟨rfl, empty⟩ := List.cons.inj merged
      cases parts with
      | nil => rfl
      | cons next parts =>
          rw [merge] at empty
          unfold prepend at empty
          split at empty <;> cases empty

theorem Item.exists_value_of_line {tokens : List Token} {expr : Expr}
    (line : Grammar.Line tokens [.value expr]) :
    ∃ opening closing inner,
      tokens = ⟨.valueOpen, opening⟩ :: inner ++ [⟨.valueClose, closing⟩] ∧
        Expression inner expr := by
  obtain ⟨parts, sequence, merged⟩ := line
  rw [eq_singleton_of_merge rfl merged.symm] at sequence
  cases sequence with
  | cons one rest =>
      cases rest
      rw [List.append_nil]
      cases one with
      | value opening closing expression =>
          exact ⟨opening, closing, _, rfl, expression⟩
      | directive opening closing directive =>
          cases directive with
          | expr word expression known => cases known
          | bare word known => cases known

theorem exists_trail_of_close {triggers : Triggers} {text closing : List Char}
    (read : Terminal.valueClose.scan triggers text = some (closing, [])) :
    ∃ trail, text = trail ++ ['}'] ∧
      ∀ c ∈ trail, Scan.isSpaceOrTab c = true := by
  rw [Terminal.faithful_scan triggers .valueClose read, List.append_nil]
  obtain ⟨trail, _, brace, blanks, ends, rfl⟩ :=
    Scan.andThen_eq_some_iff.mp
      (show (Scan.many Scan.isSpaceOrTab).andThen (Scan.char '}') text = _
        from read)
  obtain ⟨rfl, _⟩ := Scan.char_eq_some_iff.mp ends
  obtain ⟨rfl, _⟩ := Scan.many_eq_some_iff.mp blanks
  exact ⟨_, rfl, List.all_eq_true.mp List.all_takeWhile⟩

/-- What a reading of an interpolation lays between the braces. -/
theorem exists_trail_of_laid {triggers : Triggers} {text : String}
    {opening closing : List Char} {inner : List Token}
    (laid : Laid triggers (valueText triggers text.toList).toList
      (⟨.valueOpen, opening⟩ :: inner ++ [⟨.valueClose, closing⟩]) []) :
    ∃ trail, text.toList = inner.flatMap Token.lexeme ++ trail ∧
      (∀ c ∈ trail, Scan.isSpaceOrTab c = true) ∧
      Laid triggers (text.toList ++ ['}']) inner (trail ++ ['}']) := by
  rw [valueText, String.toList_ofList] at laid
  cases laid with
  | cons opens between =>
      obtain ⟨rfl, rest⟩ := Scan.word_eq_some_iff.mp opens
      have front : [triggers.value, '{'] ++ (text.toList ++ ['}']) = _ := rest
      cases List.append_cancel_left front
      obtain ⟨middle, inside, last⟩ := between.split
      cases last with
      | cons closes done =>
          cases done
          obtain ⟨trail, rfl, blank⟩ := exists_trail_of_close closes
          have whole := inside.text_eq
          rw [← List.append_assoc] at whole
          exact ⟨trail, List.append_cancel_right whole, blank, inside⟩

theorem parseExpr_of_value {triggers : Triggers} {text : String} {expr : Expr}
    {label' : Option String}
    (answer : parseLine triggers (valueText triggers text.toList) label' =
      .ok [.value expr]) (label : Option String) :
    parseExpr text label = .ok expr := by
  obtain ⟨_, tokens, laid, line, faultless⟩ := parseLine_eq_ok_iff.mp answer
  obtain ⟨opening, closing, inner, rfl, expression⟩ :=
    Item.exists_value_of_line line
  obtain ⟨trail, split, blank, within⟩ := exists_trail_of_laid laid
  obtain ⟨height, measures⟩ :=
    Expr.language_recognises.exists_measures expression
  have alone := within.alone (Expr.isInner_of_path measures.choose_spec.1)
    Triggers.standard
  obtain ⟨shallow, valued⟩ :=
    (Item.fault?_value_iff measures opening closing).mp faultless
  have trimmed : (trimEnd text).toList = inner.flatMap Token.lexeme := by
    rw [← String.ofList_toList (s := text), split, trimEnd_append _ blank,
      Expr.trimEnd_of_laid alone expression, String.toList_ofList]
  refine parseExpr_eq_ok_iff.mpr ⟨inner, ?_, expression, ?_⟩
  · rw [← trimmed] at alone
    exact alone
  · rw [Expr.language_distinct.fault?_iff_of_measures measures]
    exact ⟨by omega, valued⟩

/-- The entry points agree just with the triggers that lines can be read with. -/
theorem entryPointsAgree_iff (triggers : Triggers) :
    EntryPointsAgree triggers ↔ triggers.canRead = true := by
  constructor
  · intro agree
    have answer := agree.bare _ _ .otherwise none [] [] [] .nil .nil (.inl rfl)
    exact (parseLine_eq_ok_iff.mp answer).1
  · intro readable
    exact {
      value := fun _ _ _ label' answer => answers_value readable answer label'
      expr := fun _ _ label _ answer => parseExpr_of_value answer label
      exprDirective := fun _ _ _ known _ _ label' _ _ _ _ answer before blank
          proper after isLineEnd =>
        answers_exprDirective readable known answer before blank proper after
          isLineEnd label'
      caseOf := fun _ _ _ label' _ _ _ _ answer before blank proper after
          isLineEnd =>
        answers_caseOf readable answer before blank proper after isLineEnd
          label'
      forallStart := fun _ _ _ _ _ _ label'' _ _ _ _ _ _ answer answer' before
          blank proper left right after isLineEnd =>
        answers_forallStart readable answer answer' before blank proper left
          right after isLineEnd label''
      bare := fun _ _ known label _ _ _ before after isLineEnd =>
        parseLine_bare readable known before after isLineEnd label }

/-- Words inside an interpolation and inside directives of every kind. -/
theorem entryPointsAgree_standard :
    parseLine Triggers.standard "#\x7bx\x7d" none =
        .ok [.value (.name "x")] ∧
      parseExpr "f x" none = .ok (.apply (.name "f") (.name "x")) ∧
      parseLine Triggers.standard "%\x7bif x \x7d\n" none =
        .ok [.ifStart (.name "x")] ∧
      parseLine Triggers.standard "%\x7b of y\x7d" none =
        .ok [.caseOf (.var "y")] ∧
      parseLine Triggers.standard "%\x7bforall y <- x\x7d\r\n" none =
        .ok [.forallStart (.name "x") (.var "y")] ∧
      parseLine Triggers.standard "%\x7b else\x7d" none = .ok [.otherwise] := by
  have agree := (entryPointsAgree_iff Triggers.standard).mpr (by decide)
  have word : Scan.IsWord "x".toList := Spelled.single (by decide)
  have isVariable : Scan.IsVariable "y".toList := Spelled.single (by decide)
  have space : Blank [' '] := List.forall_mem_singleton.mpr rfl
  have expr := parseExpr_of_isWord word none
  have pattern := parsePattern_of_isVariable isVariable none
  have within {around : Nat} (shallow : around + 3 ≤ nestingLimit) :=
    Expr.liesWithin_of_isWord word shallow
  have within' {around : Nat} (shallow : around + 2 ≤ nestingLimit) :=
    Pattern.liesWithin_of_isVariable isVariable shallow
  refine ⟨?_, ?_, ?_, ?_, ?_, ?_⟩
  · exact (agree.value "x" _ none none expr).eq_ok (within (by decide))
  · exact agree.expr "f x" _ none none (by decide +kernel)
  · exact (agree.exprDirective .ifStart _ _ (.ifStart _) "x" none none [] [' ']
      [' '] ['\n'] expr .nil space (by simp) space (.inr (.inl rfl))).eq_ok
      (within (by decide))
  · exact (agree.caseOf "y" _ none none [' '] [' '] [] [] pattern space space
      (by simp) .nil (.inl rfl)).eq_ok (within' (by decide))
  · exact (agree.forallStart "y" _ "x" _ none none none [] [' '] [' '] [' '] []
      ['\r', '\n'] pattern expr .nil space (by simp) space space .nil
      (.inr (.inr rfl))).eq_ok ⟨within' (by decide), within (by decide)⟩
  · exact agree.bare _ _ .otherwise none [' '] [] [] space .nil (.inl rfl)

end TemplateSyntax
