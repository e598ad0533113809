import TemplateSyntax.Item.Print
import TemplateSyntax.Proofs.Item.Canonical
import TemplateSyntax.Proofs.Item.Directive
import TemplateSyntax.Proofs.Pattern.Printed

/-!
# Lines in print

The printed text of canonical items has one reading, and it merges to the items
again.  It has no fault exactly if every item lies within the limits
(`exists_reading_of_canonical`).
-/

namespace TemplateSyntax

open Scan

/-- So deep in a line, the printed expression has no fault. -/
def Expr.Fits (depth : Nat) (expr : Expr) : Prop :=
  depth + expr.levels ≤ nestingLimit ∧ expr.InDigitLimit

/-- In a line, the printed pattern has no fault. -/
def Pattern.Fits (pattern : Pattern) : Prop :=
  2 + (pattern.nesting + 2) ≤ nestingLimit

/-- Nothing in the printed item lies too deeply, and no number is too long. -/
def Item.WithinLimits : Item → Prop
  | .value expr => expr.Fits 2
  | .ifStart expr | .elseIf expr | .caseStart expr => expr.Fits 3
  | .forallStart expr pattern => pattern.Fits ∧ expr.Fits 3
  | .caseOf pattern => pattern.Fits
  | .literal _ | .forallEnd | .otherwise | .ifEnd | .caseEnd => True

theorem Expr.wellFormed_of_hasSource {expr : Expr} (source : expr.HasSource) :
    expr.WellFormed := by
  obtain ⟨text, label, answer⟩ := source
  obtain ⟨_, laid, expression, _⟩ := parseExpr_eq_ok_iff.mp answer
  exact wellFormed_of_expression expression laid.forall_read

theorem Pattern.exists_whole {text : String} {label : Option String}
    {pattern : Pattern} (accepted : parsePattern text label = .ok pattern) :
    ∃ tokens, Laid Triggers.standard text.toList tokens [] ∧
      Grammar.Whole tokens pattern := by
  obtain ⟨tokens, laid, whole, _⟩ := parsePattern_eq_ok_iff.mp accepted
  exact ⟨tokens, laid, whole⟩

theorem Pattern.wellFormed_of_hasSource {pattern : Pattern}
    (source : pattern.HasSource) : pattern.WellFormed := by
  obtain ⟨text, label, answer⟩ := source
  obtain ⟨_, laid, whole⟩ := exists_whole answer
  exact wellFormed_of_whole whole laid.forall_read

namespace Item

open Grammar
open TemplateSyntax.Expr (BeginsVisibly Closes)

/-! ### Around a payload -/

section Directive

variable {triggers : Triggers} {text : List Char}

/-- The tokens of a printed directive around those inside it. -/
def directiveTokens (triggers : Triggers) (tokens : List Token) : List Token :=
  ⟨.controlOpen, [triggers.control, '{']⟩ :: tokens ++
    [⟨.controlClose, ['}', '\n']⟩]

/-- A keyword and the space between it and the payload. -/
def payloadToken (keyword : Keyword) : Token :=
  ⟨.keyword keyword, keyword.spelling.toList ++ [' ']⟩

theorem laid_printDirective {keyword : Keyword} {tokens : List Token}
    (opens : keyword.opensPayload = true) (visible : BeginsVisibly text)
    (inside : ∀ rest, Laid triggers (text ++ '}' :: rest) tokens ('}' :: rest))
    (rest : List Char) :
    Laid triggers (printDirective triggers keyword text ++ rest)
      (directiveTokens triggers (payloadToken keyword :: tokens)) rest := by
  have ends : lineEnd.optional (['\n'] ++ rest) = some (['\n'], rest) := rfl
  have laid := laid_directive opens .nil .space (List.cons_ne_nil _ _) .nil
    (visible.append _) (inside ('\n' :: rest)) ends
  simpa [printDirective, opens, directiveTokens, payloadToken] using laid

theorem laid_printBareDirective {keyword : Keyword}
    (closes : keyword.opensPayload = false) (rest : List Char) :
    Laid triggers (printDirective triggers keyword [] ++ rest)
      (directiveTokens triggers [⟨.keyword keyword, keyword.spelling.toList⟩])
      rest := by
  have ends : lineEnd.optional (['\n'] ++ rest) = some (['\n'], rest) := rfl
  have laid : Laid triggers _ _ rest :=
    laid_bareDirective closes .nil .nil ends
  simpa [printDirective, closes, directiveTokens] using laid

end Directive

/-! ### Items -/

/-- The tokens are laid over the printed item wherever it stands, and have no
fault exactly within the limits. -/
structure Spells (triggers : Triggers) (item : Item) (tokens : List Token) :
    Prop where
  one : One tokens item
  laid : ∀ rest, Laid triggers (item.print triggers ++ rest) tokens rest
  faultless : language.fault? language.start tokens = none ↔ item.WithinLimits

section Item

variable (triggers : Triggers)

theorem exists_spells_value {expr : Expr} (formed : expr.WellFormed) :
    ∃ tokens, Spells triggers (.value expr) tokens := by
  obtain ⟨tokens, spells⟩ := Expr.exists_spells formed
  refine ⟨⟨.valueOpen, [triggers.value, '{']⟩ :: tokens ++
    [⟨.valueClose, ['}']⟩], .value _ _ spells.expression, ?_, ?_⟩
  · intro rest
    have opening : Terminal.valueOpen.scan triggers
        (triggers.value :: '{' :: (expr.print ++ '}' :: rest)) =
        some ([triggers.value, '{'], expr.print ++ '}' :: rest) :=
      word_eq_some_iff.mpr ⟨rfl, rfl⟩
    have closing : Terminal.valueClose.scan triggers ('}' :: rest) =
        some (['}'], rest) := blanksThen_char (by decide) rest
    have inside := spells.laid triggers ('}' :: rest) (.cons (by simp) rest)
    have split : (Item.value expr).print triggers ++ rest =
        triggers.value :: '{' :: (expr.print ++ '}' :: rest) := by
      simp [print]
    rw [split]
    exact .cons opening (inside.append (.cons closing (.nil rest)))
  · rw [fault?_value_iff spells.measures, Valued, spells.weighs.valued]
    rfl

theorem exists_spells_exprDirective {keyword : Keyword} {expr : Expr}
    {item : Item} (known : ExprDirective keyword expr item)
    (formed : expr.WellFormed) : ∃ tokens, Spells triggers item tokens := by
  obtain ⟨tokens, spells⟩ := Expr.exists_spells formed
  have text : item.print triggers =
      printDirective triggers keyword expr.print := by
    cases known <;> rfl
  have opens : keyword.opensPayload = true := by
    cases known <;> rfl
  refine ⟨directiveTokens triggers (payloadToken keyword :: tokens),
    .directive _ _ (.expr _ spells.expression known), ?_, ?_⟩
  · intro rest
    rw [text]
    exact laid_printDirective opens spells.begins
      (fun rest => spells.laid triggers ('}' :: rest) (.cons (by simp) rest))
      rest
  · have limits := fault?_exprDirective_iff spells.measures known
      [triggers.control, '{'] (payloadToken keyword).lexeme ['}', '\n']
    rw [Valued, spells.weighs.valued] at limits
    cases known <;> exact limits

theorem exists_spells_caseOf {pattern : Pattern}
    (formed : pattern.WellFormed) :
    ∃ tokens, Spells triggers (.caseOf pattern) tokens := by
  obtain ⟨tokens, spells⟩ := Pattern.readable_of_wellFormed formed [] .nil
  have whole := Pattern.language_recognises.of_measures spells.measures
  refine ⟨directiveTokens triggers (payloadToken .caseOf :: tokens),
    .directive _ _ (.caseOf _ whole), ?_, ?_⟩
  · intro rest
    exact laid_printDirective rfl spells.visible
      (fun rest => spells.covers triggers ('}' :: rest)
        (.cons (by decide) (by decide) rest))
      rest
  · exact fault?_caseOf_iff spells.measures _ _ _

theorem exists_spells_forallStart {expr : Expr} {pattern : Pattern}
    (formed : expr.WellFormed) (patternFormed : pattern.WellFormed) :
    ∃ tokens, Spells triggers (.forallStart expr pattern) tokens := by
  obtain ⟨left, patternSpells⟩ :=
    Pattern.readable_of_wellFormed patternFormed [' '] .one
  obtain ⟨right, spells⟩ := Expr.exists_spells formed
  have whole := Pattern.language_recognises.of_measures patternSpells.measures
  refine ⟨directiveTokens triggers (payloadToken .forallStart :: left ++
      ⟨.arrow, ['<', '-', ' ']⟩ :: right),
    .directive _ _ (.forallStart _ _ whole spells.expression), ?_, ?_⟩
  · intro rest
    have payload : (Item.forallStart expr pattern).print triggers =
        printDirective triggers .forallStart
          (pattern.print ++ " <- ".toList ++ expr.print) := rfl
    rw [payload]
    refine laid_printDirective rfl ((patternSpells.visible.append _).append _) ?_ rest
    intro rest
    have arrow : Terminal.arrow.scan triggers
        ('<' :: '-' :: ' ' :: (expr.print ++ '}' :: rest)) =
        some (['<', '-', ' '], expr.print ++ '}' :: rest) :=
      scan_arrow .nil .space (spells.begins.append _)
    have front := patternSpells.covers triggers
      ('<' :: '-' :: ' ' :: (expr.print ++ '}' :: rest))
      (.cons (by decide) (by decide) _)
    have back := spells.laid triggers ('}' :: rest) (.cons (by simp) rest)
    simpa using front.append (.cons arrow back)
  · have limits := fault?_forallStart_iff spells.measures
      patternSpells.measures [triggers.control, '{']
      (payloadToken .forallStart).lexeme ['<', '-', ' '] ['}', '\n']
    rw [Valued, spells.weighs.valued] at limits
    exact limits

theorem exists_spells_bare {keyword : Keyword} {item : Item}
    (known : BareDirective keyword item) :
    ∃ tokens, Spells triggers item tokens := by
  have text : item.print triggers = printDirective triggers keyword [] := by
    cases known <;> rfl
  have closes : keyword.opensPayload = false := by
    cases known <;> rfl
  refine ⟨directiveTokens triggers [⟨.keyword keyword, keyword.spelling.toList⟩],
    .directive _ _ (.bare _ known), ?_, ?_⟩
  · intro rest
    rw [text]
    exact laid_printBareDirective closes rest
  · have faultless := fault?_bare known [triggers.control, '{']
      keyword.spelling.toList ['}', '\n']
    cases known <;> exact iff_of_true faultless trivial

theorem exists_spells {item : Item} (source : item.HasSource)
    (other : item.isLiteral = false) :
    ∃ tokens, Spells triggers item tokens := by
  cases item with
  | literal => cases other
  | value => exact exists_spells_value triggers (Expr.wellFormed_of_hasSource source)
  | forallStart =>
      exact exists_spells_forallStart triggers
        (Expr.wellFormed_of_hasSource source.1)
        (Pattern.wellFormed_of_hasSource source.2)
  | ifStart =>
      exact exists_spells_exprDirective triggers (.ifStart _)
        (Expr.wellFormed_of_hasSource source)
  | elseIf =>
      exact exists_spells_exprDirective triggers (.elseIf _)
        (Expr.wellFormed_of_hasSource source)
  | caseStart =>
      exact exists_spells_exprDirective triggers (.caseStart _)
        (Expr.wellFormed_of_hasSource source)
  | caseOf =>
      exact exists_spells_caseOf triggers
        (Pattern.wellFormed_of_hasSource source)
  | forallEnd => exact exists_spells_bare triggers .forallEnd
  | otherwise => exact exists_spells_bare triggers .otherwise
  | ifEnd => exact exists_spells_bare triggers .ifEnd
  | caseEnd => exact exists_spells_bare triggers .caseEnd

end Item

/-! ### Lines -/

/-- The text has a reading that merges to the items, and the reading has no fault
exactly under the condition. -/
def Reading (triggers : Triggers) (text : List Char) (items : List Item)
    (condition : Prop) : Prop :=
  ∃ tokens parts, Laid triggers text tokens [] ∧ Sequence tokens parts ∧
    merge parts = items ∧
    (language.fault? language.start tokens = none ↔ condition)

namespace Reading

variable {triggers : Triggers} {text : List Char} {items : List Item}
  {condition : Prop}

theorem nil : Reading triggers [] [] True :=
  ⟨[], [], .nil [], .nil, rfl, iff_of_true rfl trivial⟩

theorem cons {whole : List Char} {first : List Token} {item : Item}
    {within : Prop} (one : One first item)
    (laid : Laid triggers whole first text)
    (faultless : language.fault? language.start first = none ↔ within)
    (reading : Reading triggers text items condition) :
    Reading triggers whole (prepend item items) (within ∧ condition) := by
  obtain ⟨tokens, parts, behind, sequence, rfl, noFault⟩ := reading
  refine ⟨first ++ tokens, item :: parts, laid.append behind,
    .cons one sequence, rfl, ?_⟩
  rw [fault?_sequence one, Option.or_eq_none_iff, faultless, noFault]

theorem cons_literal {whole : List Char} {token : Token} {shown : String}
    (one : One [token] (.literal shown))
    (read : token.terminal.scan triggers whole = some (token.lexeme, text))
    (reading : Reading triggers text items condition) :
    Reading triggers whole (prepend (.literal shown) items) condition := by
  have joined := reading.cons one (.cons read (.nil text))
    (iff_of_true (fault?_literal one) trivial)
  rwa [true_and] at joined

theorem plain {c : Char} (plain : ¬(c = triggers.control ∨ c = triggers.value))
    (reading : Reading triggers text items condition) :
    Reading triggers (c :: text)
      (prepend (.literal (String.ofList [c])) items) condition := by
  have accepted : (c != triggers.control && c != triggers.value) = true := by
    simpa using plain
  have alone (stop : notAhead
      (fun c => c != triggers.control && c != triggers.value) text = true) :
      Terminal.literal.scan triggers ([c] ++ text) = some ([c], text) :=
    read_of_spelled (Spelled.single accepted) stop
  cases text with
  | nil => exact cons_literal (.literal [c]) (alone rfl) reading
  | cons d more =>
      by_cases trigger : d = triggers.control ∨ d = triggers.value
      · refine cons_literal (.literal [c]) (alone ?_) reading
        rcases trigger with rfl | rfl <;> simp [notAhead]
      · obtain ⟨tokens, parts, laid, sequence, rfl, noFault⟩ := reading
        have read : Terminal.literal.scan triggers [c] = some ([c], []) := by
          simp [Terminal.scan, some1, andThen, one, many, accepted]
        obtain ⟨joined, merged, joinedLaid, joinedSequence, mergedEq, faults⟩ :=
          exists_joined read sequence laid trigger
        refine ⟨joined, merged, joinedLaid, joinedSequence, mergedEq, ?_⟩
        rw [faults, noFault]

theorem character (c : Char) (reading : Reading triggers text items condition) :
    Reading triggers (printCharacter triggers c ++ text)
      (prepend (.literal (String.ofList [c])) items) condition := by
  rw [printCharacter]
  split
  · rename_i control
    subst control
    refine reading.cons_literal
      (.controlEscape [triggers.control, '\\', '\n']) ?_
    rw [Terminal.scan, absorbing, andThen_eq_some_iff]
    exact ⟨[triggers.control, '\\'], '\n' :: text, ['\n'],
      word_eq_some_iff.mpr ⟨rfl, rfl⟩, rfl, rfl⟩
  · split
    · rename_i value
      subst value
      exact reading.cons_literal (.valueEscape [triggers.value, '\\'])
        (word_eq_some_iff.mpr ⟨rfl, rfl⟩)
    · rename_i notControl notValue
      exact reading.plain (by simp [notControl, notValue])

theorem literal {chars : List Char} (proper : chars ≠ [])
    (reading : Reading triggers text items condition) :
    Reading triggers (chars.flatMap (printCharacter triggers) ++ text)
      (prepend (.literal (String.ofList chars)) items) condition := by
  induction chars with
  | nil => exact absurd rfl proper
  | cons c chars ih =>
      rw [List.flatMap_cons, List.append_assoc]
      by_cases last : chars = []
      · subst last
        exact reading.character c
      · have whole := (ih last).character c
        rwa [prepend_literals, ← String.ofList_append] at whole

end Reading

theorem reading_cons_literal {triggers : Triggers} {shown : String}
    {items : List Item} {condition : Prop}
    (precedes : ∀ next, items.head? = some next →
      Precedes (.literal shown) next)
    (reading : Reading triggers (printLine triggers items) items condition) :
    Reading triggers (printLine triggers (.literal shown :: items))
      (prepend (.literal shown) items) condition := by
  have split : printLine triggers (.literal shown :: items) =
      printLiteral triggers shown ++ printLine triggers items := rfl
  rw [split, printLiteral]
  split
  · rename_i empty
    obtain rfl : shown = "" := String.isEmpty_iff.mp empty
    -- nothing stands behind the empty literal
    cases items with
    | nil =>
        have trigger : (char triggers.value).before atLineEnd
            [triggers.value] = some ([triggers.value], []) :=
          before_eq_some_iff.mpr ⟨read_char _ _, rfl⟩
        exact reading.cons_literal (.valueAtLineEnd [triggers.value]) trigger
    | cons next rest => exact absurd rfl (precedes next rfl).1
  · rename_i proper
    have nonempty : shown.toList ≠ [] := fun nothing =>
      proper (String.isEmpty_iff.mpr (String.toList_eq_nil_iff.mp nothing))
    have whole := reading.literal nonempty
    rwa [String.ofList_toList] at whole

/-- By induction over the items, each printed in front of the others. -/
theorem reading_of_canonical (triggers : Triggers) {items : List Item}
    (canonical : Canonical items) :
    Reading triggers (printLine triggers items) items
      (∀ item ∈ items, item.WithinLimits) := by
  obtain ⟨chain, sources⟩ := canonical
  induction items with
  | nil => simpa [printLine] using Reading.nil
  | cons item items ih =>
      obtain ⟨source, later⟩ := List.forall_mem_cons.mp sources
      have precedes := chain.rel_head?
      have reading := ih chain.tail later
      have single := prepend_of_keptApart fun _ head => (precedes head).2
      rw [List.forall_mem_cons]
      cases literal : item.isLiteral with
      | true =>
          cases item with
          | literal shown =>
              have whole := reading_cons_literal precedes reading
              rw [single] at whole
              rwa [WithinLimits, true_and]
          | _ => cases literal
      | false =>
          obtain ⟨tokens, spells⟩ := exists_spells triggers source literal
          have whole := reading.cons spells.one (spells.laid _) spells.faultless
          rwa [single] at whole

/-- A text with a reading is read as its items, unless no line can be read with
the triggers, or the reading has a fault. -/
theorem Reading.parseLine_eq_ok_iff {triggers : Triggers} {text : String}
    {items : List Item} {condition : Prop}
    (reading : Reading triggers text.toList items condition)
    (label : Option String) :
    parseLine triggers text label = .ok items ↔
      triggers.canRead = true ∧ condition := by
  obtain ⟨tokens, parts, laid, sequence, merged, faultless⟩ := reading
  rw [TemplateSyntax.parseLine_eq_ok_iff]
  refine and_congr_right fun _ => ?_
  rw [← faultless]
  constructor
  · rintro ⟨tokens', laid', line, noFault⟩
    obtain ⟨rfl, _⟩ := line_unambiguous triggers _ _ _ _ _ laid
      ⟨parts, sequence, rfl⟩ laid' line
    exact noFault
  · intro noFault
    exact ⟨tokens, laid, ⟨parts, sequence, merged.symm⟩, noFault⟩

/-- The printed text of canonical items is read as the items, unless no line can
be read with the triggers, or an item exceeds the limits. -/
theorem parseLine_printLine {triggers : Triggers} {items : List Item}
    (canonical : Canonical items) (label : Option String) :
    parseLine triggers (String.ofList (printLine triggers items)) label =
        .ok items ↔
      triggers.canRead = true ∧ ∀ item ∈ items, item.WithinLimits := by
  have reading := reading_of_canonical triggers canonical
  rw [← String.toList_ofList (l := printLine triggers items)] at reading
  exact reading.parseLine_eq_ok_iff label

end Item

end TemplateSyntax
