import Mathlib.Data.List.Chain
import TemplateSyntax.Proofs.Alone
import TemplateSyntax.Proofs.Item.Height
import TemplateSyntax.Proofs.Item.Seam

/-!
# The items that reading produces

Reading answers canonical items only: neighbouring literals are merged, the
empty literal stands for a value trigger at the end of the text, and every
expression and every pattern can also be read alone
(`canonical_of_parseLine`).
-/

namespace TemplateSyntax

/-- Some text is read as the expression. -/
def Expr.HasSource (expr : Expr) : Prop :=
  ∃ text label, parseExpr text label = .ok expr

def Pattern.HasSource (pattern : Pattern) : Prop :=
  ∃ text label, parsePattern text label = .ok pattern

namespace Item

/-- Every expression and every pattern in the item has a source. -/
def HasSource : Item → Prop
  | .value expr | .ifStart expr | .elseIf expr | .caseStart expr =>
      expr.HasSource
  | .forallStart expr pattern => expr.HasSource ∧ pattern.HasSource
  | .caseOf pattern => pattern.HasSource
  | .literal _ | .forallEnd | .otherwise | .ifEnd | .caseEnd => True

def isLiteral : Item → Bool
  | .literal _ => true
  | _ => false

/-- The items are not both literals, so that merging keeps them apart. -/
def KeptApart (left right : Item) : Prop :=
  ¬(left.isLiteral = true ∧ right.isLiteral = true)

/-- The right item may stand directly behind the left one: the left one is not
the empty literal, and they are not both literals. -/
def Precedes (left right : Item) : Prop :=
  left ≠ .literal "" ∧ ¬(left.isLiteral = true ∧ right.isLiteral = true)

/-- No two literals are neighbours, the empty literal stands at the end only, and
everything in the items has a source. -/
structure Canonical (items : List Item) : Prop where
  chain : items.IsChain Precedes
  sources : ∀ item ∈ items, item.HasSource

open Grammar Scan

/-! ### Merged items -/

theorem eq_or_mem_of_prepend {item first : Item} {items : List Item}
    (member : item ∈ prepend first items) :
    item.isLiteral = true ∨ item = first ∨ item ∈ items := by
  have unmerged (member : item ∈ first :: items) :
      item.isLiteral = true ∨ item = first ∨ item ∈ items :=
    .inr (List.mem_cons.mp member)
  cases first with
  | literal left =>
      cases items with
      | nil => exact unmerged member
      | cons other rest =>
          cases other with
          | literal right =>
              rcases List.mem_cons.mp member with rfl | later
              · exact .inl rfl
              · exact .inr (.inr (List.mem_cons_of_mem _ later))
          | _ => exact unmerged member
  | _ => exact unmerged member

theorem isLiteral_or_mem_of_merge {item : Item} {parts : List Item}
    (member : item ∈ merge parts) : item.isLiteral = true ∨ item ∈ parts := by
  induction parts with
  | nil => cases member
  | cons first parts ih =>
      rcases eq_or_mem_of_prepend member with literal | rfl | later
      · exact .inl literal
      · exact .inr List.mem_cons_self
      · exact (ih later).imp_right (List.mem_cons_of_mem _)

theorem literal_or_other (item : Item) :
    (∃ text, item = .literal text) ∨ item.isLiteral = false := by
  cases item with
  | literal text => exact .inl ⟨text, rfl⟩
  | _ => exact .inr rfl

theorem KeptApart.of_left {left right : Item} (other : left.isLiteral = false) :
    KeptApart left right := by
  rw [KeptApart, other]
  exact fun both => nomatch both.1

theorem KeptApart.of_right {left right : Item} (other : right.isLiteral = false) :
    KeptApart left right := by
  rw [KeptApart, other]
  exact fun both => nomatch both.2

theorem prepend_of_keptApart {first : Item} {items : List Item}
    (apart : ∀ next, items.head? = some next → KeptApart first next) :
    prepend first items = first :: items := by
  cases first with
  | literal left =>
      cases items with
      | nil => rfl
      | cons next rest =>
          cases next with
          | literal right => exact absurd ⟨rfl, rfl⟩ (apart _ rfl)
          | _ => rfl
  | _ => rfl

theorem prepend_other {item : Item} (other : item.isLiteral = false)
    (items : List Item) : prepend item items = item :: items :=
  prepend_of_keptApart fun _ _ => .of_left other

theorem prepend_before_other (first : Item) {item : Item}
    (other : item.isLiteral = false) (items : List Item) :
    prepend first (item :: items) = first :: item :: items := by
  refine prepend_of_keptApart fun next head => ?_
  cases head
  exact .of_right other

/-- Items linked by a relation stay linked with one more in front, if the relation
does not look at how its left literal begins and links the new item to a head
that it is kept apart from. -/
theorem isChain_prepend {relation : Item → Item → Prop} {first : Item}
    {items : List Item} (chain : items.IsChain relation)
    (joined : ∀ left right next, relation (.literal right) next →
      relation (.literal (left ++ right)) next)
    (behind : ∀ next, items.head? = some next → KeptApart first next →
      relation first next) :
    (prepend first items).IsChain relation := by
  have unmerged (apart : ∀ next, items.head? = some next →
      KeptApart first next) : (prepend first items).IsChain relation := by
    rw [prepend_of_keptApart apart]
    exact chain.cons fun next head => behind next head (apart next head)
  rcases first.literal_or_other with ⟨left, rfl⟩ | other
  · cases items with
    | nil => exact .singleton _
    | cons next rest =>
        rcases next.literal_or_other with ⟨right, rfl⟩ | other
        · -- what followed the right literal now follows both
          exact chain.tail.cons fun following head =>
            joined left right following (chain.rel_head? head)
        · refine unmerged fun _ head => ?_
          cases head
          exact .of_right other
  · exact unmerged fun _ _ => .of_left other

theorem chain_prepend {first : Item} {items : List Item}
    (chain : items.IsChain Precedes)
    (behind : first = .literal "" →
      ∀ next, items.head? = some next → next.isLiteral = true) :
    (prepend first items).IsChain Precedes := by
  refine isChain_prepend chain ?_ ?_
  · rintro left right next ⟨proper, single⟩
    refine ⟨?_, single⟩
    intro empty
    have whole : left ++ right = "" := Item.literal.inj empty
    exact proper (by rw [(String.append_eq_empty_iff.mp whole).2])
  · intro next head apart
    refine ⟨?_, apart⟩
    rintro rfl
    exact apart ⟨rfl, behind rfl next head⟩

/-- Behind an empty literal stands nothing, or another literal. -/
def EmptyJoins (left right : Item) : Prop :=
  left = .literal "" → right.isLiteral = true

theorem head_of_merge {parts : List Item} {next : Item}
    (head : (merge parts).head? = some next) :
    ∃ first, parts.head? = some first ∧
      first.isLiteral = next.isLiteral := by
  cases parts with
  | nil => cases head
  | cons first parts =>
      refine ⟨first, rfl, ?_⟩
      rw [merge] at head
      cases first with
      | literal left =>
          cases split : merge parts with
          | nil =>
              rw [split] at head
              cases head
              rfl
          | cons other rest =>
              rw [split] at head
              cases other <;> cases head <;> rfl
      | _ =>
          cases head
          rfl

theorem chain_merge {parts : List Item} (chain : parts.IsChain EmptyJoins) :
    (merge parts).IsChain Precedes := by
  induction parts with
  | nil => exact .nil
  | cons first parts ih =>
      refine chain_prepend (ih chain.tail) fun empty next head => ?_
      obtain ⟨other, begins, same⟩ := head_of_merge head
      rw [← same]
      exact chain.rel_head? begins empty

/-! ### Items that have been read -/

section Read

variable {triggers : Triggers} {text rest : List Char} {tokens : List Token}

/-- Only the value trigger at a line end stands for the empty literal. -/
theorem atLineEnd_of_empty {item : Item} (one : One tokens item)
    (laid : Laid triggers text tokens rest) (empty : item = .literal "") :
    atLineEnd rest = true := by
  have proper {terminal : Terminal} {lexeme shown : List Char}
      (laid : Laid triggers text [⟨terminal, lexeme⟩] rest)
      (shows : lexeme ≠ [] → shown ≠ [])
      (empty : Item.literal (String.ofList shown) = .literal "") :
      atLineEnd rest = true := by
    cases laid with
    | cons read _ =>
        have nonempty := shows (Terminal.lexeme_ne_nil read)
        have nothing : String.ofList shown = String.ofList [] :=
          Item.literal.inj empty
        exact absurd (String.ofList_injective nothing) nonempty
  have take {lexeme : List Char} (nonempty : lexeme ≠ []) :
      lexeme.take 1 ≠ [] := by
    simpa using nonempty
  cases one with
  | literal => exact proper laid id empty
  | valueEscape => exact proper laid take empty
  | valueAtLineEnd =>
      cases laid with
      | cons read ended =>
          cases ended
          exact (before_eq_some_iff.mp read).2
  | valueBare => exact proper laid take empty
  | controlEscape => exact proper laid take empty
  | controlBare => exact proper laid take empty
  | value => cases empty
  | directive _ _ directive =>
      cases directive with
      | expr _ _ known => cases known <;> cases empty
      | bare _ known => cases known <;> cases empty
      | forallStart => cases empty
      | caseOf => cases empty

theorem not_trigger_of_atLineEnd {c : Char}
    (ending : atLineEnd (c :: text) = true) :
    ¬(c = triggers.control ∨ c = triggers.value) := by
  have lineBreak : canTrigger c = false := by
    simp only [atLineEnd, List.head?_cons, Option.all_some, Bool.or_eq_true,
      decide_eq_true_eq] at ending
    rcases ending with rfl | rfl <;> decide
  rintro (rfl | rfl)
  · rw [triggers.control_ok] at lineBreak
    cases lineBreak
  · rw [triggers.value_ok] at lineBreak
    cases lineBreak

/-- A line break behind an empty literal begins another literal. -/
theorem chain_of_sequence {parts : List Item} (sequence : Sequence tokens parts)
    (laid : Laid triggers text tokens []) : parts.IsChain EmptyJoins := by
  induction sequence generalizing text with
  | nil => exact .nil
  | @cons first rest item items one later ih =>
      obtain ⟨middle, front, back⟩ := laid.split
      refine (ih back).cons fun next head empty => ?_
      have ending := atLineEnd_of_empty one front empty
      cases later with
      | nil => cases head
      | cons second _ =>
          cases head
          obtain ⟨_, secondLaid, _⟩ := back.split
          cases middle with
          | nil =>
              have nothing := secondLaid.eq_nil_of_nil
              subst nothing
              cases second
          | cons c middle =>
              have plain : ¬(c = triggers.control ∨ c = triggers.value) :=
                not_trigger_of_atLineEnd ending
              obtain ⟨_, _, rfl⟩ := second.exists_literal secondLaid plain
              rfl

/-- Within the limits, the tokens of an expression inside a line can be read
alone. -/
theorem expr_hasSource {value : Expr} {height shift : Nat}
    (measures : Expr.language.Measures tokens value height)
    (laid : Laid triggers text tokens rest)
    (within : shift + height ≤ nestingLimit ∧ Valued tokens) :
    value.HasSource := by
  obtain ⟨shallow, valued⟩ := within
  exact exists_parseExpr laid
    (Expr.language_recognises.of_measures measures)
    ((Expr.language_distinct.fault?_iff_of_measures measures).mpr
      ⟨by omega, valued⟩)

theorem pattern_hasSource {value : Pattern} {height : Nat}
    (measures : Pattern.language.Measures tokens value height)
    (laid : Laid triggers text tokens rest)
    (shallow : 2 + height ≤ nestingLimit) : value.HasSource :=
  exists_parsePattern laid
    (Pattern.language_recognises.of_measures measures)
    ((Pattern.language_distinct.fault?_iff_of_measures measures).mpr
      ⟨by omega, valued_of_pattern measures⟩)

theorem hasSource_of_one {item : Item} (one : One tokens item)
    (laid : Laid triggers text tokens rest)
    (faultless : language.fault? language.start tokens = none) :
    item.HasSource := by
  cases one with
  | value opening closing expression =>
      obtain ⟨height, measures⟩ :=
        Expr.language_recognises.exists_measures expression
      obtain ⟨_, _, inside⟩ := Laid.exists_infix [_] _ laid
      exact expr_hasSource measures inside
        ((fault?_value_iff measures opening closing).mp faultless)
  | directive opening closing directive =>
      cases directive with
      | expr word expression known =>
          obtain ⟨height, measures⟩ :=
            Expr.language_recognises.exists_measures expression
          obtain ⟨_, _, inside⟩ := Laid.exists_infix [_, _] _ laid
          have within := (fault?_exprDirective_iff measures known opening word
            closing).mp faultless
          have source := expr_hasSource measures inside within
          cases known <;> exact source
      | bare _ known => cases known <;> exact trivial
      | @forallStart word arrow left right _ _ whole expression =>
          obtain ⟨height, measures⟩ :=
            Expr.language_recognises.exists_measures expression
          obtain ⟨height', patternMeasures⟩ :=
            Pattern.language_recognises.exists_measures whole
          obtain ⟨_, _, patternInside⟩ := Laid.exists_infix
            [⟨.controlOpen, opening⟩, ⟨.keyword .forallStart, word⟩] left
            (by simpa using laid)
          obtain ⟨_, _, inside⟩ := Laid.exists_infix
            (⟨.controlOpen, opening⟩ :: ⟨.keyword .forallStart, word⟩ ::
              left ++ [⟨.arrow, arrow⟩]) right (by simpa using laid)
          obtain ⟨patternWithin, within⟩ := (fault?_forallStart_iff measures
            patternMeasures opening word arrow closing).mp faultless
          exact ⟨expr_hasSource measures inside within,
            pattern_hasSource patternMeasures patternInside patternWithin⟩
      | caseOf word whole =>
          obtain ⟨height, measures⟩ :=
            Pattern.language_recognises.exists_measures whole
          obtain ⟨_, _, inside⟩ := Laid.exists_infix [_, _] _ laid
          exact pattern_hasSource measures inside
            ((fault?_caseOf_iff measures opening word closing).mp faultless)
  | _ => exact trivial

theorem hasSource_of_sequence {parts : List Item}
    (sequence : Sequence tokens parts) (laid : Laid triggers text tokens rest)
    (faultless : language.fault? language.start tokens = none) :
    ∀ item ∈ parts, item.HasSource := by
  induction sequence generalizing text with
  | nil =>
      intro _ member
      cases member
  | cons one _ ih =>
      obtain ⟨_, front, back⟩ := laid.split
      rw [fault?_sequence one, Option.or_eq_none_iff] at faultless
      exact List.forall_mem_cons.mpr
        ⟨hasSource_of_one one front faultless.1, ih back faultless.2⟩

end Read

/-- Every line that is read has canonical items. -/
theorem canonical_of_parseLine {triggers : Triggers} {text : String}
    {label : Option String} {items : List Item}
    (accepted : parseLine triggers text label = .ok items) :
    Canonical items := by
  obtain ⟨_, tokens, laid, ⟨parts, sequence, rfl⟩, faultless⟩ :=
    parseLine_eq_ok_iff.mp accepted
  refine ⟨chain_merge (chain_of_sequence sequence laid), ?_⟩
  intro item member
  rcases isLiteral_or_mem_of_merge member with literal | part
  · cases item <;> first | exact trivial | cases literal
  · exact hasSource_of_sequence sequence laid faultless item part

end Item

end TemplateSyntax
