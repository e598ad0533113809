import TemplateSyntax.Proofs.Expr.Soundness

/-!
# Every expression can be read

A derivation of the expression grammar is a recipe for a path: each part of it
is read from the state its place allows, whatever stands to the left of the
place and whatever brackets are open around it.  There is one lemma for each
production; `readsWhole_of_expression` is the induction over the derivation
that uses them.  Together with `expression_of_path` it makes the reader
recognise the grammar (`language_recognises`).
-/

namespace TemplateSyntax.Expr

open Grammar

abbrev Path : State → List Token → State → Prop :=
  Language.Path language

/-- Tokens that are read wherever certain moves are offered, and leave a
finished operand. -/
def ReadsOperand (offered : Clause → List Frame → Moves State)
    (tokens : List Token) (value : Expr) : Prop :=
  ∀ (state : State) (clause : Clause) (frames : List Frame),
    language.Offers state (offered clause frames) →
    Path state tokens ⟨.after value, clause, frames⟩

/-- Tokens that are read as an application and change nothing to its left. -/
def ReadsApplication (tokens : List Token) (value : Expr) : Prop :=
  ∀ (functions : List Expr) (side : Option Expr) (frames : List Frame),
    ∃ operand function,
      Path ⟨.operand, ⟨functions, side, none⟩, frames⟩ tokens
        ⟨.after operand, ⟨functions, side, function⟩, frames⟩ ∧
      Clause.call ⟨functions, side, function⟩ operand = value

/-- Tokens that are read in a phase and leave the last operand of a whole
expression, behind functions that still wait for their argument. -/
def ReadsWhole (phase : Phase) (tokens : List Token) (value : Expr) : Prop :=
  ∀ (functions : List Expr) (frames : List Frame),
    ∃ operand clause,
      Path ⟨phase, ⟨functions, none, none⟩, frames⟩ tokens
        ⟨.after operand, clause, frames⟩ ∧
      clause.close operand =
        functions.foldl (fun argument function => .apply function argument)
          value

/-- Tokens that are read as items of a bracket, behind the items it has; the
last item is left unfinished. -/
def ReadsItems (tokens : List Token) (values : List Expr) : Prop :=
  ∀ (bracket : Bracket) (before : List Expr) (outer : Clause)
    (frames : List Frame),
    ∃ operand clause items,
      Path ⟨.start, .empty, ⟨bracket, before, outer⟩ :: frames⟩ tokens
        ⟨.after operand, clause,
          ⟨bracket, items ++ before, outer⟩ :: frames⟩ ∧
      items.reverse ++ [clause.close operand] = values

/-! ### Operands -/

theorem ReadsOperand.single {offered : Clause → List Frame → Moves State}
    {terminal : Terminal} {value : List Char → Expr}
    (isOffered : ∀ clause frames,
      (terminal, fun lexeme => State.mk (.after (value lexeme)) clause frames) ∈
        offered clause frames)
    (lexeme : List Char) :
    ReadsOperand offered [⟨terminal, lexeme⟩] (value lexeme) := by
  intro state clause frames offers
  exact .take offers lexeme (isOffered clause frames) (.nil _)

theorem ReadsOperand.of_tight {tokens : List Token} {value : Expr}
    (reads : ReadsOperand State.tightOperands tokens value) :
    ReadsOperand State.operands tokens value := by
  intro state clause frames offers
  exact reads state clause frames offers.left

theorem path_accesses (names : List (List Char)) (value : Expr)
    (clause : Clause) (frames : List Frame) :
    Path ⟨.after value, clause, frames⟩ (accesses names)
      ⟨.after (names.foldl access value), clause, frames⟩ := by
  induction names generalizing value with
  | nil => exact .nil _
  | cons name names ih =>
      have member : (Terminal.fieldAccess, fun lexeme =>
          State.mk (.after (value.access lexeme)) clause frames) ∈
          language.moves ⟨.after value, clause, frames⟩ := List.mem_cons_self
      exact .cons name member (ih (value.access name))

theorem ReadsOperand.fields {offered : Clause → List Frame → Moves State}
    {tokens : List Token} {value : Expr} (names : List (List Char))
    (reads : ReadsOperand offered tokens value) :
    ReadsOperand offered (tokens ++ accesses names)
      (names.foldl access value) := by
  intro state clause frames offers
  exact (reads state clause frames offers).append
    (path_accesses names value clause frames)

/-! ### Applications -/

theorem ReadsApplication.operand {tokens : List Token} {value : Expr}
    (reads : ReadsOperand State.operands tokens value) :
    ReadsApplication tokens value := by
  intro functions side frames
  exact ⟨value, none, reads _ _ _ (.refl _), rfl⟩

theorem ReadsApplication.spaced (gap : List Char) {left right : List Token}
    {function argument : Expr} (first : ReadsApplication left function)
    (reads : ReadsOperand State.operands right argument) :
    ReadsApplication (left ++ ⟨.spaces, gap⟩ :: right)
      (.apply function argument) := by
  intro functions side frames
  obtain ⟨operand, callee, front, rfl⟩ := first functions side frames
  let clause : Clause := ⟨functions, side, callee⟩
  have space : (Terminal.spaces, fun _ =>
      State.mk (.argument (clause.call operand)) clause frames) ∈
      language.moves ⟨.after operand, clause, frames⟩ := by
    simp [language, State.moves]
  have back := reads ⟨.argument (clause.call operand), clause, frames⟩
    (clause.applying (clause.call operand)) frames (Language.Offers.refl _).left
  exact ⟨argument, some (clause.call operand),
    front.append (.cons gap space back), rfl⟩

theorem ReadsApplication.tight {left right : List Token}
    {function argument : Expr} (first : ReadsApplication left function)
    (reads : ReadsOperand State.tightOperands right argument) :
    ReadsApplication (left ++ right) (.apply function argument) := by
  intro functions side frames
  obtain ⟨operand, callee, front, rfl⟩ := first functions side frames
  let clause : Clause := ⟨functions, side, callee⟩
  have back := reads ⟨.after operand, clause, frames⟩
    (clause.applying (clause.call operand)) frames
    (Language.Offers.refl _).left.left.right
  exact ⟨argument, some (clause.call operand), front.append back, rfl⟩

/-! ### Whole expressions -/

theorem ReadsWhole.application {tokens : List Token} {value : Expr}
    (reads : ReadsApplication tokens value) :
    ReadsWhole .operand tokens value := by
  intro functions frames
  obtain ⟨operand, callee, path, rfl⟩ := reads functions none frames
  exact ⟨operand, _, path, rfl⟩

theorem ReadsWhole.dollar (sign : List Char) {left right : List Token}
    {function argument : Expr} (first : ReadsApplication left function)
    (reads : ReadsWhole .start right argument) :
    ReadsWhole .operand (left ++ ⟨.dollar, sign⟩ :: right)
      (.apply function argument) := by
  intro functions frames
  obtain ⟨operand, callee, front, rfl⟩ := first functions none frames
  let clause : Clause := ⟨functions, none, callee⟩
  obtain ⟨last, inner, back, closed⟩ :=
    reads (clause.call operand :: functions) frames
  have dollar : (Terminal.dollar, fun _ =>
      State.mk .start (clause.dollar operand) frames) ∈
      language.moves ⟨.after operand, clause, frames⟩ := by
    simp [language, State.moves, State.dollars, clause]
  exact ⟨last, inner, front.append (.cons sign dollar back), closed⟩

theorem ReadsWhole.operator (before name after : List Char)
    {left right : List Token} {first second : Expr}
    (front : ReadsApplication left first)
    (reads : ReadsApplication right second) :
    ReadsWhole .operand
      (left ++ ⟨.spaces, before⟩ :: ⟨.operator, name⟩ :: ⟨.spaces, after⟩ ::
        right)
      (.apply (.apply (ofOperator name) first) second) := by
  intro functions frames
  obtain ⟨operand, callee, path, rfl⟩ := front functions none frames
  let clause : Clause := ⟨functions, none, callee⟩
  let left := clause.call operand
  have space : (Terminal.spaces, fun _ =>
      State.mk (.argument left) clause frames) ∈
      language.moves ⟨.after operand, clause, frames⟩ := by
    simp [language, State.moves, left]
  have operator : (Terminal.operator, fun lexeme =>
      State.mk .spaced (clause.operate left (ofOperator lexeme)) frames) ∈
      language.moves ⟨.argument left, clause, frames⟩ := by
    simp [language, State.moves, State.operators, clause]
  have gap : (Terminal.spaces, fun _ =>
      State.mk .operand (clause.operate left (ofOperator name)) frames) ∈
      language.moves
        ⟨.spaced, clause.operate left (ofOperator name), frames⟩ :=
    List.mem_singleton_self _
  obtain ⟨last, inner, back, rfl⟩ :=
    reads functions (some (.apply (ofOperator name) left)) frames
  exact ⟨last, _,
    path.append (.cons before space (.cons name operator
      (.cons after gap back))), rfl⟩

theorem ReadsWhole.nonempty {tokens : List Token} {value : Expr}
    {phase : Phase} (different : ∀ operand, phase ≠ .after operand)
    (reads : ReadsWhole phase tokens value) : tokens ≠ [] := by
  rintro rfl
  obtain ⟨operand, clause, path, _⟩ := reads [] []
  cases path
  exact different operand rfl

theorem ReadsWhole.plain {tokens : List Token} {value : Expr}
    (reads : ReadsWhole .operand tokens value) :
    ReadsWhole .start tokens value := by
  intro functions frames
  have proper := reads.nonempty (by simp)
  obtain ⟨operand, clause, path, closed⟩ := reads functions frames
  exact ⟨operand, clause,
    path.of_offers (Language.Offers.refl _).right proper, closed⟩

theorem ReadsWhole.indented (blanks : List Char) {tokens : List Token}
    {value : Expr} (reads : ReadsWhole .operand tokens value) :
    ReadsWhole .start (⟨.blanks, blanks⟩ :: tokens) value := by
  intro functions frames
  obtain ⟨operand, clause, path, closed⟩ := reads functions frames
  have blank : (Terminal.blanks, fun _ =>
      State.mk .operand ⟨functions, none, none⟩ frames) ∈
      language.moves ⟨.start, ⟨functions, none, none⟩, frames⟩ :=
    List.mem_cons_self
  exact ⟨operand, clause, .cons blanks blank path, closed⟩

/-! ### Brackets -/

theorem ReadsItems.one {tokens : List Token} {value : Expr}
    (reads : ReadsWhole .start tokens value) : ReadsItems tokens [value] := by
  intro bracket before outer frames
  obtain ⟨operand, clause, path, closed⟩ :=
    reads [] (⟨bracket, before, outer⟩ :: frames)
  exact ⟨operand, clause, [], path, by simp [closed]⟩

theorem mem_moves_comma (operand : Expr) (clause : Clause) (frame : Frame)
    (frames : List Frame) :
    (Terminal.exprComma, fun _ => State.mk .start .empty
      ({ frame with items := clause.close operand :: frame.items } ::
        frames)) ∈
      language.moves ⟨.after operand, clause, frame :: frames⟩ := by
  simp [language, State.moves, State.itemEnds]

theorem ReadsItems.more (comma : List Char) {first rest : List Token}
    {value : Expr} {values : List Expr}
    (reads : ReadsWhole .start first value) (later : ReadsItems rest values) :
    ReadsItems (first ++ ⟨.exprComma, comma⟩ :: rest) (value :: values) := by
  intro bracket before outer frames
  obtain ⟨operand, clause, front, closed⟩ :=
    reads [] (⟨bracket, before, outer⟩ :: frames)
  obtain ⟨last, inner, items, back, rfl⟩ :=
    later bracket (clause.close operand :: before) outer frames
  have member := mem_moves_comma operand clause ⟨bracket, before, outer⟩ frames
  refine ⟨last, inner, items ++ [clause.close operand], ?_, by simp [closed]⟩
  rw [List.append_assoc]
  exact front.append (.cons comma member back)

theorem mem_moves_closeParen (operand : Expr) (clause outer : Clause)
    (items : List Expr) (frames : List Frame) :
    (Terminal.exprCloseParen, fun _ => State.mk
      (.after (Frame.close ⟨.paren, items, outer⟩ (clause.close operand)))
      outer frames) ∈
      language.moves
        ⟨.after operand, clause, ⟨.paren, items, outer⟩ :: frames⟩ := by
  simp [language, State.moves, State.itemEnds]

theorem mem_moves_closeBracket (operand : Expr) (clause outer : Clause)
    (items : List Expr) (frames : List Frame) :
    (Terminal.exprCloseBracket, fun _ => State.mk
      (.after (Frame.close ⟨.list, items, outer⟩ (clause.close operand)))
      outer frames) ∈
      language.moves
        ⟨.after operand, clause, ⟨.list, items, outer⟩ :: frames⟩ := by
  simp [language, State.moves, State.itemEnds]

theorem ReadsOperand.group (opening closing : List Char) {tokens : List Token}
    {value : Expr} (reads : ReadsWhole .start tokens value) :
    ReadsOperand State.tightOperands
      (⟨.exprOpenParen, opening⟩ :: tokens ++ [⟨.exprCloseParen, closing⟩])
      value := by
  intro state clause frames offers
  obtain ⟨operand, inner, path, closed⟩ :=
    reads [] (⟨.paren, [], clause⟩ :: frames)
  have close := mem_moves_closeParen operand inner clause [] frames
  have opened := offers _ List.mem_cons_self
  have whole : Path state _ _ :=
    .cons opening opened (path.append (.single closing close))
  rw [closed] at whole
  exact whole

theorem ReadsOperand.tuple (opening comma closing : List Char)
    {first rest : List Token} {head : Expr} {tail : List Expr}
    (reads : ReadsWhole .start first head) (later : ReadsItems rest tail) :
    ReadsOperand State.tightOperands
      (⟨.exprOpenParen, opening⟩ :: first ++ ⟨.exprComma, comma⟩ :: rest ++
        [⟨.exprCloseParen, closing⟩])
      (.tuple (head :: tail)) := by
  intro state clause frames offers
  obtain ⟨operand, inner, front, closed⟩ :=
    reads [] (⟨.paren, [], clause⟩ :: frames)
  obtain ⟨last, final, items, back, rfl⟩ :=
    later .paren [inner.close operand] clause frames
  have opened := offers _ List.mem_cons_self
  have separator := mem_moves_comma operand inner ⟨.paren, [], clause⟩ frames
  have close := mem_moves_closeParen last final clause
    (items ++ [inner.close operand]) frames
  have whole : Path state _ _ := .cons opening opened <|
    front.append (.cons comma separator (back.append (.single closing close)))
  -- the bracket holds the first item and is a tuple because of it
  have value : Frame.close ⟨.paren, items ++ [inner.close operand], clause⟩
      (final.close last) =
      .tuple (head :: (items.reverse ++ [final.close last])) := by
    have firstEq : inner.close operand = head := closed
    cases items <;> simp [Frame.close, firstEq]
  rw [value] at whole
  simpa using whole

theorem ReadsItems.opened {tokens : List Token} {values : List Expr}
    (reads : ReadsItems tokens values) (outer : Clause)
    (frames : List Frame) :
    ∃ operand clause items,
      Path ⟨.opened, .empty, ⟨.list, [], outer⟩ :: frames⟩ tokens
        ⟨.after operand, clause, ⟨.list, items, outer⟩ :: frames⟩ ∧
      items.reverse ++ [clause.close operand] = values := by
  obtain ⟨operand, clause, items, path, itemsEq⟩ := reads .list [] outer frames
  rw [List.append_nil] at path
  have proper : tokens ≠ [] := by
    rintro rfl
    cases path
  exact ⟨operand, clause, items,
    path.of_offers (Language.Offers.refl _).left proper, itemsEq⟩

theorem mem_operands_openBracket (clause : Clause) (frames : List Frame) :
    (Terminal.exprOpenBracket, fun _ =>
      State.opening .list .opened clause frames) ∈
      State.operands clause frames := by
  simp [State.operands]

theorem ReadsOperand.list (opening closing : List Char) {tokens : List Token}
    {values : List Expr} (reads : ReadsItems tokens values) :
    ReadsOperand State.operands
      (⟨.exprOpenBracket, opening⟩ :: tokens ++
        [⟨.exprCloseBracket, closing⟩])
      (.list values) := by
  intro state clause frames offers
  obtain ⟨operand, inner, items, path, rfl⟩ := reads.opened clause frames
  have opened := offers _ (mem_operands_openBracket clause frames)
  have close := mem_moves_closeBracket operand inner clause items frames
  exact Language.Path.cons opening opened (path.append (.single closing close))

theorem ReadsOperand.emptyList (opening closing : List Char) :
    ReadsOperand State.operands
      [⟨.exprOpenBracket, opening⟩, ⟨.exprCloseBracket, closing⟩]
      (.list []) := by
  intro state clause frames offers
  have opened := offers _ (mem_operands_openBracket clause frames)
  have close : (Terminal.exprCloseBracket, fun _ =>
      State.mk (.after (.list [])) clause frames) ∈
      language.moves (State.opening .list .opened clause frames) := by
    simp [language, State.moves, State.opening, State.emptyListEnd]
  exact .cons opening opened (.cons closing close (.nil _))

/-! ### Derivations -/

/-- By induction over the derivation, with one lemma for each production. -/
theorem readsWhole_of_expression {tokens : List Token} {value : Expr}
    (expression : Expression tokens value) :
    ReadsWhole .start tokens value := by
  refine @Expression.rec
    (fun tokens value _ => ReadsWhole .start tokens value)
    (fun tokens value _ => ReadsWhole .operand tokens value)
    (fun tokens value _ => ReadsApplication tokens value)
    (fun tokens value _ => ReadsOperand State.operands tokens value)
    (fun tokens value _ => ReadsOperand State.tightOperands tokens value)
    (fun tokens value _ => ReadsOperand State.operands tokens value)
    (fun tokens value _ => ReadsOperand State.tightOperands tokens value)
    (fun tokens values _ => ReadsItems tokens values)
    ?plain ?indented ?application ?dollar ?operator ?operand ?spaced ?tight
    ?operandFields ?tightFields ?tightAtom ?emptyList ?list ?number
    ?identifier ?group ?tuple ?operatorName ?string ?oneItem ?moreItems
    tokens value expression
  -- expressions and their bodies
  case plain => exact fun _ body => body.plain
  case indented => exact fun blanks _ _ _ body => body.indented blanks
  case application => exact fun _ application => .application application
  case dollar =>
    exact fun sign _ _ _ _ _ _ left right => .dollar sign left right
  case operator =>
    exact fun before name after _ _ _ _ _ _ left right =>
      .operator before name after left right
  -- applications and operands
  case operand => exact fun _ operand => .operand operand
  case spaced => exact fun gap _ _ _ _ _ _ left right => .spaced gap left right
  case tight => exact fun _ _ left right => .tight left right
  case operandFields => exact fun names _ _ _ atom => atom.fields names
  case tightFields => exact fun names _ _ _ atom => atom.fields names
  -- atoms
  case tightAtom => exact fun _ atom => atom.of_tight
  case emptyList => exact fun opening closing => .emptyList opening closing
  case list =>
    exact fun opening closing _ _ _ items => .list opening closing items
  case number => exact .single fun clause frames => by simp [State.operands]
  case identifier =>
    exact .single fun clause frames => by simp [State.operands]
  -- tight atoms
  case group =>
    exact fun opening closing _ _ _ inner => .group opening closing inner
  case tuple =>
    exact fun opening comma closing _ _ _ _ _ _ first rest =>
      .tuple opening comma closing first rest
  case operatorName =>
    exact .single fun clause frames => by simp [State.tightOperands]
  case string =>
    exact .single fun clause frames => by simp [State.tightOperands]
  -- items
  case oneItem => exact fun _ item => .one item
  case moreItems =>
    exact fun comma _ _ _ _ _ _ first rest => .more comma first rest

theorem language_recognises : language.Recognises Expression := by
  intro tokens value
  constructor
  · intro expression
    obtain ⟨operand, clause, path, closed⟩ :=
      readsWhole_of_expression expression [] []
    refine ⟨_, path, ?_⟩
    rw [← show clause.close operand = value from closed]
    rfl
  · rintro ⟨final, path, finished⟩
    exact expression_of_path path finished

end TemplateSyntax.Expr
