import TemplateSyntax.Proofs.Expr.Viable
import TemplateSyntax.Proofs.Item.Recognition
import TemplateSyntax.Proofs.Pattern.Viable

/-!
# Beginnings of lines

A line may end between items, so a place is completed by leading back there:
through the rest of an expression or a pattern, and then through what ends it.
What may follow a place inside an expression or a pattern is what may follow it
there, or what ends it (`Place.shape`).
-/

namespace TemplateSyntax.Item

/-! ### Every place can be completed -/

def directiveEnd : Token :=
  ⟨.controlClose, ['}']⟩

/-- What completes a place.  Behind the opening of a directive, any keyword
without a payload will do. -/
def State.completion (state : State) : List Token :=
  match state.place with
  | .text => []
  | .directive =>
      [⟨.keyword .otherwise, Keyword.otherwise.spelling.toList⟩, directiveEnd]
  | .expr use state => state.completion ++ [⟨use.closer, ['}']⟩]
  | .pattern .caseOf state => state.completion ++ [directiveEnd]
  | .pattern .forallStart state =>
      state.completion ++
        ⟨.arrow, ['<', '-']⟩ :: (Expr.emptyList ++ [directiveEnd])
  | .bare _ => [directiveEnd]

/-- A closing brace may lead back between items. -/
theorem path_close {state : State} {terminal : Terminal} {items : List Item}
    (member : (terminal, fun _ => ⟨items, .text⟩) ∈ state.moves) :
    Path state [⟨terminal, ['}']⟩] ⟨items, .text⟩ :=
  .cons ['}'] member (.nil _)

theorem path_expr_completion (items : List Item) (use : ExprUse)
    (state : Expr.State) :
    ∃ item, Path ⟨items, .expr use state⟩
      (state.completion ++ [⟨use.closer, ['}']⟩]) (State.finish items item) := by
  obtain ⟨final, expr, inner, complete⟩ := Expr.path_completion state
  have close : (use.closer, fun _ => State.finish items (use.item expr)) ∈
      State.moves ⟨items, .expr use final⟩ := by
    have valueEq : final.value? = some expr := complete
    simp [State.moves, valueEq, State.exprEnds]
  exact ⟨use.item expr,
    (path_within_expr inner items use).append (path_close close)⟩

theorem path_caseOf_completion (items : List Item) (state : Pattern.State) :
    ∃ item, Path ⟨items, .pattern .caseOf state⟩
      (state.completion ++ [directiveEnd]) (State.finish items item) := by
  obtain ⟨final, pattern, inner, complete⟩ := Pattern.path_completion state
  have close : (Terminal.controlClose, fun _ =>
      State.finish items (.caseOf pattern)) ∈
      State.moves ⟨items, .pattern .caseOf final⟩ := by
    have valueEq : final.value? = some pattern := complete
    simp [State.moves, valueEq, State.patternEnds]
  exact ⟨.caseOf pattern,
    (path_within_pattern inner items .caseOf).append (path_close close)⟩

theorem path_forall_completion (items : List Item) (state : Pattern.State) :
    ∃ item, Path ⟨items, .pattern .forallStart state⟩
      (state.completion ++
        ⟨.arrow, ['<', '-']⟩ :: (Expr.emptyList ++ [directiveEnd]))
      (State.finish items item) := by
  obtain ⟨final, pattern, inner, complete⟩ := Pattern.path_completion state
  have arrow : (Terminal.arrow, fun _ =>
      State.mk items (.expr (.forallStart pattern) .start)) ∈
      State.moves ⟨items, .pattern .forallStart final⟩ := by
    have valueEq : final.value? = some pattern := complete
    simp [State.moves, valueEq, State.patternEnds]
  obtain ⟨item, path⟩ :=
    path_expr_completion items (.forallStart pattern) .start
  exact ⟨item, (path_within_pattern inner items .forallStart).append
    (.cons ['<', '-'] arrow path)⟩

theorem path_completion (state : State) :
    ∃ items, Path state state.completion ⟨items, .text⟩ := by
  obtain ⟨items, place⟩ := state
  cases place with
  | text => exact ⟨items, .nil _⟩
  | directive =>
      have close : Path ⟨items, .bare .otherwise⟩ [directiveEnd]
          (State.finish items .otherwise) :=
        path_close (List.mem_singleton_self _)
      exact ⟨_, .cons _ (mem_keywordMoves items .otherwise) close⟩
  | expr use state => exact ⟨_, (path_expr_completion items use state).choose_spec⟩
  | pattern use state =>
      cases use with
      | forallStart =>
          exact ⟨_, (path_forall_completion items state).choose_spec⟩
      | caseOf => exact ⟨_, (path_caseOf_completion items state).choose_spec⟩
  | bare item => exact ⟨_, path_close (List.mem_singleton_self _)⟩

theorem language_completable : language.Completable := by
  intro state
  obtain ⟨items, path⟩ := path_completion state
  exact ⟨state.completion, _, merge items.reverse, path, rfl⟩

/-! ### What may follow a place -/

/-- All that decides which terminals may follow a place in a line: where it is,
what may follow it there, and what ends the expression or pattern. -/
inductive Place.Shape where
  | text
  | directive
  | expr (closer : Terminal)
      (shape : Expr.Phase × Bool × List (Expr.Bracket × Bool × Bool))
  | pattern (use : PatternUse)
      (shape : (Pattern.Phase ⊕ Pattern.FieldPhase) × (Bool × Bool) ×
        List (Terminal × Bool × Bool × Bool))
  | bare

/-- All that decides which terminals may follow. -/
def State.shape (state : State) : Place.Shape :=
  match state.place with
  | .text => .text
  | .directive => .directive
  | .expr use state => .expr use.closer state.shape
  | .pattern use state => .pattern use state.shape
  | .bare _ => .bare

section Alike

variable (items items' : List Item)

theorem textMoves_alike :
    (State.textMoves items).Alike State.shape (State.textMoves items') := by
  simp [Moves.Alike, State.textMoves, State.literalMove, State.finish,
    State.shape]

theorem keywordMoves_alike :
    (State.keywordMoves items).Alike State.shape
      (State.keywordMoves items') := by
  simp [Moves.Alike, State.keywordMoves, State.keywordPlace, State.shape]

theorem within_alike {σ τ : Type} {shape : σ → τ} {moves moves' : Moves σ}
    (alike : moves.Alike shape moves') (place place' : σ → Place)
    (places : ∀ state state', shape state = shape state' →
      State.shape ⟨items, place state⟩ = State.shape ⟨items', place' state'⟩) :
    (State.within items place moves).Alike State.shape
      (State.within items' place' moves') := by
  rw [Moves.Alike, State.within, State.within, List.forall₂_map_left_iff,
    List.forall₂_map_right_iff]
  exact alike.imp fun _ _ same =>
    ⟨same.1, fun lexeme lexeme' => places _ _ (same.2 lexeme lexeme')⟩

theorem exprEnds_alike {use use' : ExprUse} {value? value?' : Option Expr}
    (closers : use.closer = use'.closer)
    (complete : value?.isSome = value?'.isSome) :
    (State.exprEnds items use value?).Alike State.shape
      (State.exprEnds items' use' value?') := by
  cases value? <;> cases value?' <;> simp at complete
  · exact .nil
  · exact .cons ⟨closers, fun _ _ => rfl⟩ .nil

theorem patternEnds_alike (use : PatternUse)
    {value? value?' : Option Pattern}
    (complete : value?.isSome = value?'.isSome) :
    (State.patternEnds items use value?).Alike State.shape
      (State.patternEnds items' use value?') := by
  cases value? <;> cases value?' <;> simp at complete
  · cases use <;> exact .nil
  · cases use <;> exact .cons ⟨rfl, fun _ _ => rfl⟩ .nil

end Alike

theorem language_shaped : language.Shaped State.shape := by
  rintro ⟨items, place⟩ ⟨items', place'⟩ same
  cases place <;> cases place' <;>
    simp only [State.shape, Place.Shape.expr.injEq,
      Place.Shape.pattern.injEq, reduceCtorEq] at same
  · exact textMoves_alike items items'
  · exact keywordMoves_alike items items'
  · rename_i use state use' state'
    obtain ⟨closers, shapes⟩ := same
    have inside := within_alike items items'
      (Expr.language_shaped state state' shapes) (.expr use) (.expr use')
      fun _ _ inner => by simp only [State.shape, closers, inner]
    exact inside.append (exprEnds_alike items items' closers
      (Expr.value?_isSome_of_shape shapes))
  · rename_i use state use' state'
    obtain ⟨rfl, shapes⟩ := same
    have inside := within_alike items items'
      (Pattern.language_shaped state state' shapes) (.pattern use)
      (.pattern use) fun _ _ inner => by simp only [State.shape, inner]
    exact inside.append (patternEnds_alike items items' use
      (Pattern.value?_isSome_of_shape shapes))
  · exact .cons ⟨rfl, fun _ _ => rfl⟩ .nil

end TemplateSyntax.Item
