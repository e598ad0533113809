import TemplateSyntax.Proofs.Agreement
import TemplateSyntax.Proofs.Expr.Nested

/-!
# Expressions put together

Texts that are read as expressions can be put together to the text of a larger
expression, which is read as the expression made of theirs
(`parseExpr_compositional`).  The blanks at the ends of a text fall to the bracket
or the comma behind it, and those in front to a token of their own.
-/

namespace TemplateSyntax.Expr

open Scan Grammar
open State (sidesAhead)
open Item (Valued valued_append valued_singleton valued_cons_iff)

/-! ### Statement -/

/-- Texts between parentheses, side by side, each behind that many spaces. -/
def spacedGroups (arguments : List (Nat × String)) : List Char :=
  arguments.flatMap fun (gap, text) =>
    List.replicate gap ' ' ++ parenthesised text.toList

/-- Texts with nothing but commas between them. -/
def commaJoined (texts : List (List Char)) : List Char :=
  [','].intercalate texts

/-- The text is read as the expression. -/
def IsSource (text : String) (expr : Expr) : Prop :=
  ∃ label, parseExpr text label = .ok expr

/-- Texts of expressions, put together, are read as the expression put together. -/
structure Compositional : Prop where
  group : ∀ (text : String) (expr : Expr) (label : Option String),
    IsSource text expr →
    AnswersWithin
      (parseExpr (String.ofList (parenthesised text.toList)) label)
      expr (expr.LiesWithin 4 text)
  application : ∀ (text : String) (expr : Expr)
      (arguments : List (Nat × String)) (exprs : List Expr)
      (label : Option String),
    IsSource text expr →
    List.Forall₂ IsSource (arguments.map Prod.snd) exprs →
    AnswersWithin
      (parseExpr (String.ofList
        (parenthesised text.toList ++ spacedGroups arguments)) label)
      (exprs.foldl .apply expr)
      (expr.LiesWithin 4 text ∧
        List.Forall₂ (Expr.LiesWithin 4) (arguments.map Prod.snd) exprs)
  list : ∀ (texts : List String) (exprs : List Expr) (label : Option String),
    texts ≠ [] → List.Forall₂ IsSource texts exprs →
    AnswersWithin
      (parseExpr (String.ofList
        ('[' :: commaJoined (texts.map String.toList) ++ [']'])) label)
      (.list exprs) (List.Forall₂ (Expr.LiesWithin 4) texts exprs)
  tuple : ∀ (texts : List String) (exprs : List Expr) (label : Option String),
    2 ≤ texts.length → List.Forall₂ IsSource texts exprs →
    AnswersWithin
      (parseExpr (String.ofList
        (parenthesised (commaJoined (texts.map String.toList)))) label)
      (.tuple exprs) (List.Forall₂ (Expr.LiesWithin 4) texts exprs)
  dollar : ∀ (left right : String) (function argument : Expr)
      (label : Option String),
    IsSource left function → IsSource right argument →
    AnswersWithin
      (parseExpr (String.ofList
        (parenthesised left.toList ++ ' ' :: '$' :: ' ' :: right.toList)) label)
      (.apply function argument)
      (function.LiesWithin 5 left ∧ argument.LiesWithin 2 right)
  operator : ∀ (name left right : String) (first second : Expr)
      (label : Option String),
    IsOperator name.toList → name ≠ "$" →
    IsSource left first → IsSource right second →
    AnswersWithin
      (parseExpr (String.ofList
        (parenthesised left.toList ++ ' ' :: (name.toList ++
          ' ' :: parenthesised right.toList))) label)
      (.apply (.apply (.name name) first) second)
      (first.LiesWithin 5 left ∧ second.LiesWithin 5 right)
  field : ∀ (text : String) (expr : Expr) (names : List String)
      (label : Option String),
    (∀ name ∈ names, IsField name.toList) → IsSource text expr →
    AnswersWithin
      (parseExpr (String.ofList
        (parenthesised text.toList ++ names.flatMap fun name =>
          '.' :: name.toList)) label)
      (names.foldl .field expr) (expr.LiesWithin 4 text)

/-! ### Texts of expressions -/

/-- The tokens are laid over the text, up to the blanks at its end, in front of a
bracket or a comma. -/
def LaidUpTo (text : List Char) (tokens : List Token) (trail : List Char) :
    Prop :=
  ∀ c rest, c ∈ [')', ']', ','] →
    Laid Triggers.standard (text ++ c :: rest) tokens (trail ++ c :: rest)

theorem halts_of_closer {c : Char} (closer : c ∈ [')', ']', ',']) : Halts c := by
  simp only [List.mem_cons, List.not_mem_nil, or_false] at closer
  rcases closer with rfl | rfl | rfl <;> exact .inr ⟨by decide, by decide⟩

/-- The tokens of the text of an expression, up to the blanks at its end, and how
deep they come. -/
structure Stands (text : String) (expr : Expr) (tokens : List Token)
    (trail : List Char) (height : Nat) : Prop where
  laid : LaidUpTo text.toList tokens trail
  blank : ∀ c ∈ trail, isSpaceOrTab c = true
  expression : Expression tokens expr
  complete : Complete tokens height
  valued : Valued tokens
  liesWithin_iff : ∀ around,
    expr.LiesWithin around text ↔ around + height ≤ nestingLimit

theorem exists_stands {text : String} {expr : Expr}
    (source : IsSource text expr) :
    ∃ tokens trail height, Stands text expr tokens trail height := by
  obtain ⟨label, answer⟩ := source
  obtain ⟨tokens, height, laid, measures, valued, limits⟩ := exists_alone answer
  obtain ⟨trail, split, blank⟩ := exists_trimmed text
  have expression := language_recognises.of_measures measures
  refine ⟨tokens, trail, height, ?_, blank, expression,
    complete_of_measures measures, valued, limits⟩
  intro c rest closer
  rw [split, List.append_assoc]
  refine laid_halted laid expression ?_ Triggers.standard
  intro first here
  cases trail with
  | nil =>
      cases here
      exact halts_of_closer closer
  | cons space others =>
      cases here
      exact .inl (isBlank_of_isSpaceOrTab _ (blank _ List.mem_cons_self))

/-- The same for texts with commas between them. -/
structure Lists (texts : List String) (exprs : List Expr) (tokens : List Token)
    (trail : List Char) (height : Nat) : Prop where
  laid : LaidUpTo (commaJoined (texts.map String.toList)) tokens trail
  blank : ∀ c ∈ trail, isSpaceOrTab c = true
  items : Items tokens exprs
  listed : Listed tokens height
  valued : Valued tokens
  liesWithin_iff : ∀ around, List.Forall₂ (Expr.LiesWithin around) texts exprs ↔
    around + height ≤ nestingLimit

section Source

variable {text : String} {texts : List String} {expr : Expr} {exprs : List Expr}
  {tokens tokens' : List Token} {trail trail' : List Char}
  {height height' : Nat}

theorem Stands.lists (stands : Stands text expr tokens trail height) :
    Lists [text] [expr] tokens trail height where
  laid := by simpa [commaJoined] using stands.laid
  blank := stands.blank
  items := .one stands.expression
  listed := .one stands.complete
  valued := stands.valued
  liesWithin_iff around := by
    rw [List.forall₂_cons, and_iff_left .nil, stands.liesWithin_iff]

/-- The comma takes the blanks behind the first text. -/
theorem LaidUpTo.comma {first later : List Char}
    (front : LaidUpTo first tokens trail)
    (blank : ∀ c ∈ trail, isSpaceOrTab c = true)
    (back : LaidUpTo later tokens' trail') :
    LaidUpTo (first ++ ',' :: later)
      (tokens ++ ⟨.exprComma, trail ++ [',']⟩ :: tokens') trail' := by
  intro c rest closer
  have comma : Terminal.exprComma.scan Triggers.standard
      (trail ++ ',' :: (later ++ c :: rest)) =
        some (trail ++ [','], later ++ c :: rest) :=
    blanksThen_gap (by decide) blank _
  have whole := (front ',' (later ++ c :: rest) (by simp)).append
    (.cons comma (back c rest closer))
  simpa using whole

theorem Lists.cons (stands : Stands text expr tokens trail height)
    (proper : texts ≠ []) (lists : Lists texts exprs tokens' trail' height') :
    Lists (text :: texts) (expr :: exprs)
      (tokens ++ ⟨.exprComma, trail ++ [',']⟩ :: tokens') trail'
      (max height height') where
  laid := by
    obtain ⟨second, others, rfl⟩ := List.exists_cons_of_ne_nil proper
    exact stands.laid.comma stands.blank lists.laid
  blank := lists.blank
  items := .more _ stands.expression lists.items
  listed := .more _ stands.complete lists.listed
  valued := valued_append.mpr
    ⟨stands.valued, (valued_cons_iff (by simp)).mpr lists.valued⟩
  liesWithin_iff around := by
    rw [List.forall₂_cons, stands.liesWithin_iff, lists.liesWithin_iff]
    omega

theorem exists_lists (proper : texts ≠ [])
    (sources : List.Forall₂ IsSource texts exprs) :
    ∃ tokens trail height, Lists texts exprs tokens trail height := by
  induction sources with
  | nil => exact absurd rfl proper
  | cons source sources ih =>
      obtain ⟨tokens, trail, height, stands⟩ := exists_stands source
      cases sources with
      | nil => exact ⟨tokens, trail, height, stands.lists⟩
      | cons =>
          obtain ⟨tokens', trail', height', lists⟩ := ih (List.cons_ne_nil _ _)
          exact ⟨_, _, _, lists.cons stands (List.cons_ne_nil _ _)⟩

end Source

/-! ### Groups -/

/-- The tokens of a text that ends in a bracket, with how deep they come when they
are read behind others. -/
structure Part (text : List Char) (tokens : List Token) (height : Nat) :
    Prop where
  laid : ∀ rest, Laid Triggers.standard (text ++ rest) tokens rest
  valued : Valued tokens
  sidesAhead_skip : ∀ settled back,
    sidesAhead 0 settled (tokens ++ back) = sidesAhead 0 settled back
  reaches : ∀ {place final : Place} {back : List Token} {height' : Nat},
    Reaches place back final height' →
    Reaches place (tokens ++ back) final
      (max (place.here + 4 + sidesAhead 0 false back + height) height')

namespace Part

variable {text text' : List Char} {tokens tokens' : List Token}
  {height height' : Nat}

theorem append (first : Part text tokens height)
    (second : Part text' tokens' height') :
    Part (text ++ text') (tokens ++ tokens') (max height height') where
  laid rest := by
    have whole := (first.laid (text' ++ rest)).append (second.laid rest)
    simpa using whole
  valued := valued_append.mpr ⟨first.valued, second.valued⟩
  sidesAhead_skip settled back := by
    rw [List.append_assoc, first.sidesAhead_skip, second.sidesAhead_skip]
  reaches behind := by
    have whole := first.reaches (second.reaches behind)
    rw [second.sidesAhead_skip, ← Nat.max_assoc, Nat.add_max_add_left] at whole
    rw [List.append_assoc]
    exact whole

theorem settled (part : Part text tokens height) (settled : Bool) :
    sidesAhead 0 settled tokens = 0 := by
  have skipped := part.sidesAhead_skip settled []
  rwa [List.append_nil, sidesAhead] at skipped

theorem alone (part : Part text tokens height) (here : Nat) :
    Reaches ⟨here, []⟩ tokens ⟨here, []⟩ (here + 4 + height) := by
  have whole := part.reaches (.nil ⟨here, []⟩)
  have deeper : max (here + 4 + 0 + height) here = here + 4 + height := by
    omega
  rw [List.append_nil, sidesAhead, deeper] at whole
  exact whole

theorem complete (part : Part text tokens height) {back : List Token}
    (flat : Flat back) : Complete (tokens ++ back) (4 + height) := by
  obtain ⟨height', behind, _, shallow⟩ := Reaches.behind_flat flat (.nil .top)
  have whole := part.reaches behind
  have ahead := sidesAhead_flat flat 0 false []
  have here : Place.top.here = 0 := rfl
  have none : sidesAhead 0 false [] = 0 := rfl
  have alone : max (Place.top.here + 4 + 0 + height) height' = 4 + height := by
    omega
  rw [List.append_nil] at whole ahead
  rw [ahead, none, alone] at whole
  exact ⟨_, whole⟩

/-- In front of a dollar or an operator a part lies one node deeper. -/
theorem complete_side (part : Part text tokens height) {gap back : List Token}
    (flat : Flat gap) {terminal : Terminal} {more last : Nat}
    (deepens : turn terminal = .deepens more) (lexeme : List Char)
    (behind : Reaches ⟨more, []⟩ back ⟨last, []⟩ height')
    (settled : sidesAhead 0 true back = 0) :
    Complete (tokens ++ (gap ++ ⟨terminal, lexeme⟩ :: back))
      (max (5 + height) height') := by
  have deeper := Place.Leads.deepens 0 more []
  rw [← deepens, Nat.zero_add] at deeper
  have leads : Place.top.Leads (turn terminal) ⟨more, []⟩ := deeper
  have side : sidesAhead 0 false (⟨terminal, lexeme⟩ :: back) = 1 := by
    rw [sidesAhead_cons]
    simp only [deepens, settled]
    rfl
  obtain ⟨total, later, above, below⟩ :=
    Reaches.behind_flat flat (.cons lexeme leads behind)
  have whole := part.reaches later
  have front := Place.top.around_le (⟨terminal, lexeme⟩ :: back)
  have here : Place.top.here = 0 := rfl
  rw [sidesAhead_flat flat, side] at whole
  rw [side] at above below
  have alone : max (Place.top.here + 4 + 1 + height) total =
      max (5 + height) height' := by
    omega
  rw [alone] at whole
  exact ⟨_, whole⟩

end Part

theorem Lists.part {texts : List String} {exprs : List Expr}
    {tokens : List Token} {trail : List Char} {height : Nat}
    (lists : Lists texts exprs tokens trail height)
    {opening closing : Terminal} {opener closer : Char}
    (opens : opening.scan Triggers.standard = char opener)
    (closes : closing.scan Triggers.standard =
      blanksThen isSpaceOrTab (char closer))
    (down : turn opening = .opens) (up : turn closing = .closes)
    (ends : closer ∈ [')', ']', ',']) (visible : isSpaceOrTab closer = false) :
    Part (opener :: commaJoined (texts.map String.toList) ++ [closer])
      (⟨opening, [opener]⟩ :: tokens ++ [⟨closing, trail ++ [closer]⟩])
      height where
  laid rest :=
    laid_between opens closes visible lists.blank (lists.laid closer rest ends)
  valued := by
    refine Item.valued_within ?_ ?_ lists.valued
    · rintro rfl
      cases down
    · rintro rfl
      cases up
  sidesAhead_skip settled back :=
    lists.listed.sidesAhead_bracketed down up _ _ settled back
  reaches behind := lists.listed.bracketed down up _ _ behind

structure Group (text : String) (expr : Expr) (tokens : List Token)
    (height : Nat) : Prop where
  part : Part (parenthesised text.toList) tokens height
  atom : TightAtom tokens expr
  liesWithin_iff : ∀ around,
    expr.LiesWithin around text ↔ around + height ≤ nestingLimit

theorem exists_group {text : String} {expr : Expr} (source : IsSource text expr) :
    ∃ tokens height, Group text expr tokens height := by
  obtain ⟨tokens, trail, height, stands⟩ := exists_stands source
  have part : Part
      ('(' :: commaJoined ([text].map String.toList) ++ [')'])
      (⟨.exprOpenParen, ['(']⟩ :: tokens ++
        [⟨.exprCloseParen, trail ++ [')']⟩]) height :=
    stands.lists.part rfl rfl rfl rfl (by simp) (by decide)
  have joined : commaJoined ([text].map String.toList) = text.toList := by
    simp [commaJoined]
  rw [joined] at part
  exact ⟨_, height, {
    part := part
    atom := .group ['('] (trail ++ [')']) stands.expression
    liesWithin_iff := stands.liesWithin_iff }⟩

/-! ### Arguments -/

/-- The token of the spaces in front of an argument, if there are any. -/
def gapTokens (gap : Nat) : List Token :=
  if gap = 0 then [] else [⟨.spaces, List.replicate gap ' '⟩]

theorem laid_gapTokens (gap : Nat) {c : Char} (other : c ≠ ' ')
    (rest : List Char) :
    Laid Triggers.standard (List.replicate gap ' ' ++ c :: rest) (gapTokens gap)
      (c :: rest) := by
  cases gap with
  | zero => exact .nil _
  | succ gap =>
      have spaces : Spelled isSpace isSpace (List.replicate (gap + 1) ' ') := by
        refine ⟨' ', List.replicate gap ' ', List.replicate_succ, rfl, ?_⟩
        intro d member
        rw [List.eq_of_mem_replicate member]
        rfl
      have stop : notAhead isSpace (c :: rest) = true := by
        simp [notAhead, isSpace, other]
      exact .cons (read_of_spelled spaces stop) (.nil _)

theorem flat_gapTokens (gap : Nat) : Flat (gapTokens gap) := by
  intro token member
  rw [gapTokens] at member
  split at member
  · cases member
  · cases List.mem_singleton.mp member
    rfl

theorem valued_gapTokens (gap : Nat) : Valued (gapTokens gap) := by
  rw [gapTokens]
  split
  · exact List.forall_mem_nil _
  · exact valued_singleton (by simp)

theorem Part.spaced {text : List Char} {tokens : List Token} {height : Nat}
    (part : Part ('(' :: text) tokens height) (gap : Nat) :
    Part (List.replicate gap ' ' ++ '(' :: text) (gapTokens gap ++ tokens)
      height where
  laid rest := by
    have whole := (laid_gapTokens gap (by decide) (text ++ rest)).append
      (part.laid rest)
    simpa using whole
  valued := valued_append.mpr ⟨valued_gapTokens gap, part.valued⟩
  sidesAhead_skip settled back := by
    rw [List.append_assoc, sidesAhead_flat (flat_gapTokens gap),
      part.sidesAhead_skip]
  reaches {place final back height'} behind := by
    obtain ⟨total, whole, above, below⟩ :=
      Reaches.behind_flat (flat_gapTokens gap) (part.reaches behind)
    have deepest : total =
        max (place.here + 4 + sidesAhead 0 false back + height) height' := by
      rw [part.sidesAhead_skip] at below
      omega
    rw [List.append_assoc, ← deepest]
    exact whole

/-- An argument with the spaces in front of it, if there are any. -/
theorem application_argument {front tokens : List Token} {function expr : Expr}
    (called : Application front function) (atom : TightAtom tokens expr)
    (gap : Nat) :
    Application (front ++ (gapTokens gap ++ tokens)) (.apply function expr) := by
  cases gap with
  | zero =>
      have operand : TightOperand (tokens ++ accesses []) _ := .fields [] atom
      rw [accesses, List.map_nil, List.append_nil] at operand
      exact .tight called operand
  | succ gap =>
      have operand : Operand (tokens ++ accesses []) _ := .fields [] (.tight atom)
      rw [accesses, List.map_nil, List.append_nil] at operand
      exact .spaced _ called operand

theorem exists_arguments {arguments : List (Nat × String)} {exprs : List Expr}
    (sources : List.Forall₂ IsSource (arguments.map Prod.snd) exprs)
    {text : List Char} {front : List Token} {function : Expr} {height : Nat}
    (part : Part text front height) (called : Application front function) :
    ∃ tokens height', Part (text ++ spacedGroups arguments) tokens height' ∧
      Application tokens (exprs.foldl .apply function) ∧
      ∀ around, around + height' ≤ nestingLimit ↔
        around + height ≤ nestingLimit ∧
        List.Forall₂ (Expr.LiesWithin around) (arguments.map Prod.snd) exprs := by
  induction arguments generalizing exprs text front function height with
  | nil =>
      cases sources
      exact ⟨front, height, by simpa [spacedGroups] using part, called,
        by simp⟩
  | cons argument arguments ih =>
      obtain ⟨gap, second⟩ := argument
      cases sources with
      | cons source sources =>
          obtain ⟨tokens, height', group⟩ := exists_group source
          obtain ⟨all, total, whole, application, limits⟩ := ih sources
            (part.append (group.part.spaced gap))
            (application_argument called group.atom gap)
          refine ⟨all, total, ?_, application, ?_⟩
          · simpa [spacedGroups, parenthesised] using whole
          · intro around
            rw [List.map_cons, List.forall₂_cons, limits, group.liesWithin_iff,
              ← and_assoc]
            exact and_congr_left' (by omega)

/-! ### Answers -/

theorem answers {text trail : List Char} {tokens : List Token} {expr : Expr}
    {height : Nat} {fits : Prop}
    (laid : Laid Triggers.standard text tokens [])
    (blank : ∀ c ∈ trail, isSpaceOrTab c = true)
    (expression : Expression tokens expr) (complete : Complete tokens height)
    (valued : Valued tokens) (limit : fits ↔ height ≤ nestingLimit)
    (label : Option String) :
    AnswersWithin (parseExpr (String.ofList (text ++ trail)) label) expr fits := by
  have trimmed : trimEnd (String.ofList (text ++ trail)) = String.ofList text := by
    rw [trimEnd_append _ blank, trimEnd_of_laid laid expression]
  have whole : Laid Triggers.standard
      (Source.mk (String.ofList text) label).chars tokens [] := by
    rw [Source.chars, String.toList_ofList]
    exact laid
  obtain ⟨height', measures⟩ := language_recognises.exists_measures expression
  obtain rfl := complete.height_eq measures
  rw [parseExpr, trimmed]
  refine language_recognises.answersWithin (expression_unambiguous _) whole
    expression valued ?_
  rw [language_distinct.fault?_iff_of_measures measures, limit]
  exact and_iff_left valued

theorem Part.answers {text : List Char} {tokens : List Token} {expr : Expr}
    {height : Nat} {fits : Prop} (part : Part text tokens height)
    (application : Application tokens expr)
    (limit : fits ↔ 4 + height ≤ nestingLimit) (label : Option String) :
    AnswersWithin (parseExpr (String.ofList text) label) expr fits := by
  have laid := part.laid []
  have complete := part.complete (List.forall_mem_nil _)
  rw [List.append_nil] at laid complete
  have answer := Expr.answers laid (List.forall_mem_nil _)
    (.plain (.application application)) complete part.valued limit label
  rwa [List.append_nil] at answer

theorem application_of_atom {tokens : List Token} {expr : Expr}
    (atom : Atom tokens expr) : Application tokens expr := by
  have whole := Application.operand (.fields [] atom)
  rwa [accesses, List.map_nil, List.append_nil] at whole

theorem answers_application {text : String} {expr : Expr}
    {arguments : List (Nat × String)} {exprs : List Expr}
    (source : IsSource text expr)
    (sources : List.Forall₂ IsSource (arguments.map Prod.snd) exprs)
    (label : Option String) :
    AnswersWithin
      (parseExpr (String.ofList
        (parenthesised text.toList ++ spacedGroups arguments)) label)
      (exprs.foldl .apply expr)
      (expr.LiesWithin 4 text ∧
        List.Forall₂ (Expr.LiesWithin 4) (arguments.map Prod.snd) exprs) := by
  obtain ⟨tokens, height, group⟩ := exists_group source
  obtain ⟨tokens, height', part, application, limits⟩ :=
    exists_arguments sources group.part (application_of_atom (.tight group.atom))
  refine part.answers application ?_ label
  rw [limits, group.liesWithin_iff]

theorem answers_list {texts : List String} {exprs : List Expr}
    (proper : texts ≠ []) (sources : List.Forall₂ IsSource texts exprs)
    (label : Option String) :
    AnswersWithin
      (parseExpr (String.ofList
        ('[' :: commaJoined (texts.map String.toList) ++ [']'])) label)
      (.list exprs) (List.Forall₂ (Expr.LiesWithin 4) texts exprs) := by
  obtain ⟨tokens, trail, height, lists⟩ := exists_lists proper sources
  have part : Part _ (⟨.exprOpenBracket, ['[']⟩ :: tokens ++
      [⟨.exprCloseBracket, trail ++ [']']⟩]) height :=
    lists.part rfl rfl rfl rfl (by simp) (by decide)
  exact part.answers (application_of_atom (.list _ _ lists.items))
    (lists.liesWithin_iff 4) label

theorem answers_tuple {texts : List String} {exprs : List Expr}
    (several : 2 ≤ texts.length)
    (sources : List.Forall₂ IsSource texts exprs) (label : Option String) :
    AnswersWithin
      (parseExpr (String.ofList
        (parenthesised (commaJoined (texts.map String.toList)))) label)
      (.tuple exprs) (List.Forall₂ (Expr.LiesWithin 4) texts exprs) := by
  have proper : texts ≠ [] := by
    rintro rfl
    cases several
  obtain ⟨tokens, trail, height, lists⟩ := exists_lists proper sources
  have part : Part (parenthesised (commaJoined (texts.map String.toList)))
      (⟨.exprOpenParen, ['(']⟩ :: tokens ++
        [⟨.exprCloseParen, trail ++ [')']⟩]) height :=
    lists.part rfl rfl rfl rfl (by simp) (by decide)
  have atom : TightAtom (⟨.exprOpenParen, ['(']⟩ :: tokens ++
      [⟨.exprCloseParen, trail ++ [')']⟩]) (.tuple exprs) := by
    rw [sources.length_eq] at several
    cases lists.items with
    | one => simp at several
    | more comma first rest =>
        simpa using TightAtom.tuple ['('] comma (trail ++ [')']) first rest
  exact part.answers (application_of_atom (.tight atom))
    (lists.liesWithin_iff 4) label

/-! ### Fields -/

/-- The names of fields, each behind a dot. -/
def dotted (names : List String) : List (List Char) :=
  names.map fun name => '.' :: name.toList

theorem notAhead_dotted (names : List String) :
    notAhead isNameChar (dotted names).flatten = true := by
  cases names with
  | nil => rfl
  | cons name names =>
      simp only [dotted, List.map_cons, List.flatten_cons, List.cons_append,
        notAhead, List.head?_cons, Option.any_some]
      decide

theorem laid_dotted {names : List String}
    (each : ∀ name ∈ names, IsField name.toList) (back : List String) :
    Laid Triggers.standard (dotted (names ++ back)).flatten
      (accesses (dotted names)) (dotted back).flatten := by
  induction names with
  | nil => exact .nil _
  | cons name names ih =>
      obtain ⟨isField, others⟩ := List.forall_mem_cons.mp each
      exact .cons (fieldAccess_of_spelled isField (notAhead_dotted _))
        (ih others)

theorem foldl_dotted (names : List String) (expr : Expr) :
    (dotted names).foldl access expr = names.foldl .field expr := by
  rw [dotted, List.foldl_map]
  simp only [access, List.tail_cons, String.ofList_toList]

theorem flat_accesses (lexemes : List (List Char)) : Flat (accesses lexemes) := by
  intro token member
  obtain ⟨_, _, rfl⟩ := List.mem_map.mp member
  rfl

theorem valued_accesses (lexemes : List (List Char)) :
    Valued (accesses lexemes) := by
  intro token member
  obtain ⟨_, _, rfl⟩ := List.mem_map.mp member
  rfl

theorem answers_field {text : String} {expr : Expr} {names : List String}
    (each : ∀ name ∈ names, IsField name.toList) (source : IsSource text expr)
    (label : Option String) :
    AnswersWithin
      (parseExpr (String.ofList
        (parenthesised text.toList ++ names.flatMap fun name =>
          '.' :: name.toList)) label)
      (names.foldl .field expr) (expr.LiesWithin 4 text) := by
  obtain ⟨tokens, height, group⟩ := exists_group source
  have laid := (group.part.laid _).append (laid_dotted each [])
  have operand : Operand (tokens ++ accesses (dotted names)) _ :=
    .fields (dotted names) (.tight group.atom)
  rw [foldl_dotted] at operand
  have answer := answers laid (List.forall_mem_nil _)
    (.plain (.application (.operand operand)))
    (group.part.complete (flat_accesses _))
    (valued_append.mpr ⟨group.part.valued, valued_accesses _⟩)
    (group.liesWithin_iff 4) label
  rwa [List.append_nil, List.append_nil, dotted, ← List.flatMap_def] at answer

/-! ### Dollars and operators -/

theorem laid_operator {name : String} (isOperator : IsOperator name.toList)
    (other : name ≠ "$") (rest : List Char) :
    Laid Triggers.standard (' ' :: (name.toList ++ ' ' :: '(' :: rest))
      [⟨.spaces, [' ']⟩, ⟨.operator, name.toList⟩, ⟨.spaces, [' ']⟩]
      ('(' :: rest) := by
  have differs : (name.toList != ['$']) = true := by
    rw [bne_iff_ne]
    exact fun same => other (String.toList_inj.mp same)
  have read : Terminal.operator.scan Triggers.standard
      (name.toList ++ ' ' :: '(' :: rest) =
        some (name.toList, ' ' :: '(' :: rest) :=
    only_eq_some_iff.mpr ⟨read_of_spelled isOperator (by
      simp only [notAhead, List.head?_cons, Option.any_some]
      decide), differs⟩
  obtain ⟨first, others, split, begun, _⟩ := isOperator
  have visible : first ≠ ' ' := by
    rintro rfl
    cases begun
  have front : Terminal.spaces.scan Triggers.standard
      (' ' :: (name.toList ++ ' ' :: '(' :: rest)) =
        some ([' '], name.toList ++ ' ' :: '(' :: rest) := by
    rw [split]
    exact read_spaces visible _
  exact .cons front (.cons read (.cons (read_spaces (by decide) _) (.nil _)))

theorem answers_operator {name left right : String} {first second : Expr}
    (isOperator : IsOperator name.toList) (other : name ≠ "$")
    (leftSource : IsSource left first) (rightSource : IsSource right second)
    (label : Option String) :
    AnswersWithin
      (parseExpr (String.ofList
        (parenthesised left.toList ++ ' ' :: (name.toList ++
          ' ' :: parenthesised right.toList))) label)
      (.apply (.apply (.name name) first) second)
      (first.LiesWithin 5 left ∧ second.LiesWithin 5 right) := by
  obtain ⟨front, height, leftGroup⟩ := exists_group leftSource
  obtain ⟨back, height', rightGroup⟩ := exists_group rightSource
  have settled := (sidesAhead_flat (flat_gapTokens 1) 0 true back).trans
    (rightGroup.part.settled true)
  have deepens : turn .operator = .deepens 1 := rfl
  obtain ⟨total, later, above, below⟩ :=
    Reaches.behind_flat (flat_gapTokens 1) (rightGroup.part.alone 1)
  obtain rfl : total = 1 + 4 + height' := by
    rw [rightGroup.part.settled] at below
    have here : (Place.mk 1 []).here = 1 := rfl
    omega
  have complete := leftGroup.part.complete_side (flat_gapTokens 1) deepens
    name.toList later settled
  have laid := (leftGroup.part.laid _).append
    ((laid_operator isOperator other _).append (rightGroup.part.laid []))
  have body := Body.operator [' '] name.toList [' ']
    (application_of_atom (.tight leftGroup.atom))
    (application_of_atom (.tight rightGroup.atom))
  have named : ofOperator name.toList = .name name := by
    rw [ofOperator, String.ofList_toList]
  have valued : Valued (front ++ ⟨.spaces, [' ']⟩ :: ⟨.operator, name.toList⟩ ::
      ⟨.spaces, [' ']⟩ :: back) := by
    refine valued_append.mpr ⟨leftGroup.part.valued, ?_⟩
    rw [valued_cons_iff (by simp), valued_cons_iff (by simp),
      valued_cons_iff (by simp)]
    exact rightGroup.part.valued
  rw [named] at body
  have limit : first.LiesWithin 5 left ∧ second.LiesWithin 5 right ↔
      max (5 + height) (1 + 4 + height') ≤ nestingLimit := by
    rw [leftGroup.liesWithin_iff, rightGroup.liesWithin_iff]
    omega
  have answer := answers laid (List.forall_mem_nil _) (.plain body) complete
    valued limit label
  simpa [parenthesised] using answer

theorem body_of_visible {triggers : Triggers} {text rest : List Char}
    {tokens : List Token} {expr : Expr} (laid : Laid triggers text tokens rest)
    (visible : BeginsVisibly text) (expression : Expression tokens expr) :
    Body tokens expr := by
  cases expression with
  | plain body => exact body
  | indented blanks body =>
      obtain ⟨first, others, rfl, shown⟩ := visible
      cases laid with
      | cons read _ =>
          obtain ⟨c, tail, split, accepted, _⟩ := some1_eq_some_iff.mp read
          obtain ⟨rfl, rfl⟩ := List.cons.inj split
          rw [isBlank_of_isSpaceOrTab first accepted] at shown
          cases shown

/-- The text of an expression behind a space: the blanks in front of it belong to
the space, and those behind it to no token. -/
structure Indented (text : String) (expr : Expr) (lead body trail : List Char)
    (tokens : List Token) (height : Nat) : Prop where
  split : text.toList = lead ++ body ++ trail
  blank : ∀ c ∈ trail, isSpaceOrTab c = true
  laid : Laid Triggers.standard (' ' :: lead ++ body)
    (⟨.blanks, ' ' :: lead⟩ :: tokens) []
  expression : Expression (⟨.blanks, ' ' :: lead⟩ :: tokens) expr
  complete : Complete tokens height
  first_le : 3 + sidesAhead 0 false tokens ≤ height
  valued : Valued tokens
  liesWithin_iff : ∀ around,
    expr.LiesWithin around text ↔ around + height ≤ nestingLimit

theorem exists_indented {text : String} {expr : Expr}
    (source : IsSource text expr) :
    ∃ lead body trail tokens height,
      Indented text expr lead body trail tokens height := by
  obtain ⟨label, answer⟩ := source
  obtain ⟨tokens, height, laid, measures, valued, limits⟩ := exists_alone answer
  obtain ⟨trail, split, blank⟩ := exists_trimmed text
  obtain ⟨lead, body, inner, bodySplit, leadBlank, visible, bodyLaid,
    bodyMeasures, within⟩ := exists_body laid measures
  have expression := language_recognises.of_measures bodyMeasures
  have blanks := read_lead leadBlank visible []
  rw [List.append_nil] at blanks
  exact ⟨lead, body, trail, inner, height, {
    split := by rw [split, bodySplit]
    blank := blank
    laid := .cons blanks bodyLaid
    expression :=
      .indented _ (body_of_visible bodyLaid visible expression)
    complete := complete_of_measures bodyMeasures
    first_le := first_le_of_measures bodyMeasures
    valued := fun token member => valued token (within token member)
    liesWithin_iff := limits }⟩

theorem answers_dollar {left right : String} {function argument : Expr}
    (leftSource : IsSource left function) (rightSource : IsSource right argument)
    (label : Option String) :
    AnswersWithin
      (parseExpr (String.ofList
        (parenthesised left.toList ++ ' ' :: '$' :: ' ' :: right.toList)) label)
      (.apply function argument)
      (function.LiesWithin 5 left ∧ argument.LiesWithin 2 right) := by
  obtain ⟨front, height, group⟩ := exists_group leftSource
  obtain ⟨lead, body, trail, tokens, height', indented⟩ :=
    exists_indented rightSource
  have deepens : turn .dollar = .deepens 2 := rfl
  have flat : Flat [⟨.blanks, ' ' :: lead⟩] := List.forall_mem_singleton.mpr rfl
  obtain ⟨last, reaches⟩ := indented.complete.raised 2
  obtain ⟨total, later, above, below⟩ := Reaches.behind_flat flat reaches
  obtain rfl : total = 2 + height' := by
    have first := indented.first_le
    have here : (Place.mk 2 []).here = 2 := rfl
    omega
  have settled := (sidesAhead_flat flat 0 true tokens).trans
    indented.complete.settled
  have whole := group.part.complete_side (List.forall_mem_nil _) deepens [' ', '$']
    later settled
  have read : Terminal.dollar.scan Triggers.standard
      (' ' :: '$' :: (' ' :: lead ++ body)) =
        some ([' ', '$'], ' ' :: lead ++ body) :=
    andThen_eq_some_iff.mpr ⟨[' '], _, ['$'], read_spaces (by decide) _,
      read_char _ _, rfl⟩
  have laid := (group.part.laid _).append (.cons read indented.laid)
  have dollar := Body.dollar [' ', '$']
    (application_of_atom (.tight group.atom)) indented.expression
  have valued : Valued (front ++ ⟨.dollar, [' ', '$']⟩ ::
      ⟨.blanks, ' ' :: lead⟩ :: tokens) := by
    refine valued_append.mpr ⟨group.part.valued, ?_⟩
    rw [valued_cons_iff (by simp), valued_cons_iff (by simp)]
    exact indented.valued
  have limit : function.LiesWithin 5 left ∧ argument.LiesWithin 2 right ↔
      max (5 + height) (2 + height') ≤ nestingLimit := by
    rw [group.liesWithin_iff, indented.liesWithin_iff]
    omega
  have answer := answers laid indented.blank (.plain dollar) whole valued limit
    label
  rw [indented.split]
  simpa using answer

/-- However many texts of expressions are put together, the whole is read as the
expression put together from theirs. -/
theorem parseExpr_compositional : Compositional where
  group text expr label source := by
    have none : List.Forall₂ IsSource (([] : List (Nat × String)).map Prod.snd)
        [] := .nil
    have answer := answers_application source none label
    rwa [spacedGroups, List.flatMap_nil, List.append_nil, List.map_nil,
      and_iff_left .nil] at answer
  application _ _ _ _ label source sources :=
    answers_application source sources label
  list _ _ label proper sources := answers_list proper sources label
  tuple _ _ label several sources := answers_tuple several sources label
  dollar _ _ _ _ label left right := answers_dollar left right label
  operator _ _ _ _ _ label isOperator other left right :=
    answers_operator isOperator other left right label
  field _ _ _ label each source := answers_field each source label

/-- Two words, put together in every way. -/
theorem parseExpr_two_words :
    parseExpr "(f)" none = .ok (.name "f") ∧
      parseExpr "(f) (x)(f)" none =
        .ok (.apply (.apply (.name "f") (.name "x")) (.name "f")) ∧
      parseExpr "[f,x]" none = .ok (.list [.name "f", .name "x"]) ∧
      parseExpr "(f,x)" none = .ok (.tuple [.name "f", .name "x"]) ∧
      parseExpr "(f) $ x" none = .ok (.apply (.name "f") (.name "x")) ∧
      parseExpr "(f) + (x)" none =
        .ok (.apply (.apply (.name "+") (.name "f")) (.name "x")) ∧
      parseExpr "(f).a.b" none = .ok (.field (.field (.name "f") "a") "b") := by
  have whole := parseExpr_compositional
  have word : IsWord "f".toList := Spelled.single (by decide)
  have word' : IsWord "x".toList := Spelled.single (by decide)
  have source : IsSource "f" (.name "f") := ⟨none, parseExpr_of_isWord word none⟩
  have source' : IsSource "x" (.name "x") :=
    ⟨none, parseExpr_of_isWord word' none⟩
  have within {around : Nat} (shallow : around + 3 ≤ nestingLimit) :=
    liesWithin_of_isWord word shallow
  have within' {around : Nat} (shallow : around + 3 ≤ nestingLimit) :=
    liesWithin_of_isWord word' shallow
  have sources : List.Forall₂ IsSource ["f", "x"] [.name "f", .name "x"] :=
    .cons source (.cons source' .nil)
  have inside : List.Forall₂ (Expr.LiesWithin 4) ["f", "x"]
      [.name "f", .name "x"] :=
    .cons (within (by decide)) (.cons (within' (by decide)) .nil)
  have plus : IsOperator "+".toList := Spelled.single (by decide)
  have fields : ∀ name ∈ ["a", "b"], IsField name.toList := by
    refine List.forall_mem_cons.mpr ⟨?_, List.forall_mem_singleton.mpr ?_⟩
    · exact Spelled.single (by decide)
    · exact Spelled.single (by decide)
  refine ⟨?_, ?_, ?_, ?_, ?_, ?_, ?_⟩
  · exact (whole.group "f" _ none source).eq_ok (within (by decide))
  · exact (whole.application "f" _ [(1, "x"), (0, "f")] _ none source
      (.cons source' (.cons source .nil))).eq_ok ⟨within (by decide),
        .cons (within' (by decide)) (.cons (within (by decide)) .nil)⟩
  · exact (whole.list ["f", "x"] _ none (by simp) sources).eq_ok inside
  · exact (whole.tuple ["f", "x"] _ none (by simp) sources).eq_ok inside
  · exact (whole.dollar "f" "x" _ _ none source source').eq_ok
      ⟨within (by decide), within' (by decide)⟩
  · exact (whole.operator "+" "f" "x" _ _ none plus (by decide) source
      source').eq_ok ⟨within (by decide), within' (by decide)⟩
  · exact (whole.field "f" _ ["a", "b"] none fields source).eq_ok
      (within (by decide))

end TemplateSyntax.Expr
