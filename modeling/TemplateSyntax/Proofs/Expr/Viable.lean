import TemplateSyntax.Proofs.Expr.Completeness
import TemplateSyntax.Proofs.Reading.Viable

/-!
# Beginnings of expressions

Every place inside an expression can be completed, by an empty list where an
operand is missing and then by what closes the brackets that are still open.  What may follow a place
depends on its phase, on whether an operator has been read, and on the kinds of
the open brackets (`State.shape`).
-/

namespace TemplateSyntax.Expr

/-! ### Every place can be completed -/

/-- The empty list, which may stand wherever an operand is missing. -/
def emptyList : List Token :=
  [⟨.exprOpenBracket, ['[']⟩, ⟨.exprCloseBracket, [']']⟩]

/-- What stands in for the operand that is missing in a phase. -/
def Phase.filler : Phase → List Token
  | .start | .opened | .operand | .argument _ => emptyList
  | .spaced => ⟨.spaces, [' ']⟩ :: emptyList
  | .after _ => []

def Frame.closer (frame : Frame) : Token :=
  match frame.bracket with
  | .paren => ⟨.exprCloseParen, [')']⟩
  | .list => ⟨.exprCloseBracket, [']']⟩

/-- What completes a place. -/
def State.completion (state : State) : List Token :=
  state.phase.filler ++ state.frames.map Frame.closer

theorem path_closers (frames : List Frame) :
    ∀ operand clause, ∃ final value,
      Path ⟨.after operand, clause, frames⟩ (frames.map Frame.closer) final ∧
        final.value? = some value := by
  induction frames with
  | nil =>
      intro operand clause
      exact ⟨_, clause.close operand, .nil _, rfl⟩
  | cons frame frames ih =>
      intro operand clause
      obtain ⟨bracket, items, outer⟩ := frame
      cases bracket with
      | paren =>
          have close := mem_moves_closeParen operand clause outer items frames
          obtain ⟨final, value, path, finished⟩ := ih _ outer
          exact ⟨final, value, .cons [')'] close path, finished⟩
      | list =>
          have close :=
            mem_moves_closeBracket operand clause outer items frames
          obtain ⟨final, value, path, finished⟩ := ih _ outer
          exact ⟨final, value, .cons [']'] close path, finished⟩

theorem path_filler (state : State) :
    ∃ operand clause,
      Path state state.phase.filler ⟨.after operand, clause, state.frames⟩ := by
  obtain ⟨phase, clause, frames⟩ := state
  have list := ReadsOperand.emptyList ['['] [']']
  cases phase with
  | start => exact ⟨_, clause, list _ _ _ (Language.Offers.refl _).right⟩
  | opened => exact ⟨_, clause, list _ _ _ (Language.Offers.refl _).left.right⟩
  | operand => exact ⟨_, clause, list _ _ _ (.refl _)⟩
  | argument function =>
      exact ⟨_, _, list _ (clause.applying function) _
        (Language.Offers.refl _).left⟩
  | spaced =>
      have later := list ⟨.operand, clause, frames⟩ _ _ (.refl _)
      exact ⟨_, clause, .cons [' '] (List.mem_singleton_self _) later⟩
  | after operand => exact ⟨operand, clause, .nil _⟩

theorem path_completion (state : State) :
    ∃ final value, Path state state.completion final ∧
      final.value? = some value := by
  obtain ⟨operand, clause, path⟩ := path_filler state
  obtain ⟨final, value, later, finished⟩ :=
    path_closers state.frames operand clause
  exact ⟨final, value, path.append later, finished⟩

theorem language_completable : language.Completable :=
  fun state => ⟨state.completion, path_completion state⟩

/-! ### What may follow a place -/

/-- What may follow an open bracket: its kind, whether it is still empty, and
whether an operator stands to its left. -/
def Frame.shape (frame : Frame) : Bracket × Bool × Bool :=
  (frame.bracket, frame.items.isEmpty, frame.outer.side.isSome)

/-- A phase without the values it holds. -/
def Phase.shape : Phase → Phase
  | .argument _ => .argument (.list [])
  | .after _ => .after (.list [])
  | phase => phase

/-- All that decides which terminals may follow. -/
def State.shape (state : State) : Phase × Bool × List (Bracket × Bool × Bool) :=
  (state.phase.shape, state.clause.side.isSome, state.frames.map Frame.shape)

section Alike

variable {clause clause' : Clause} {frames frames' : List Frame}
  (side : clause.side.isSome = clause'.side.isSome)
  (brackets : frames.map Frame.shape = frames'.map Frame.shape)

include side brackets

theorem tightOperands_alike :
    (State.tightOperands clause frames).Alike State.shape
      (State.tightOperands clause' frames') := by
  simp [Moves.Alike, State.tightOperands, State.opening, State.shape,
    Frame.shape, Phase.shape, side, brackets]

theorem operands_alike :
    (State.operands clause frames).Alike State.shape
      (State.operands clause' frames') := by
  apply (tightOperands_alike side brackets).append
  simp [Moves.Alike, State.opening, State.shape, Frame.shape, Phase.shape,
    side, brackets]

theorem leadingBlanks_alike :
    (State.leadingBlanks clause frames).Alike State.shape
      (State.leadingBlanks clause' frames') := by
  simp [Moves.Alike, State.leadingBlanks, State.shape, side, brackets]

theorem operators_alike (function function' : Expr) :
    (State.operators function clause frames).Alike State.shape
      (State.operators function' clause' frames') := by
  cases left : clause.side <;> cases right : clause'.side <;>
    simp_all [Moves.Alike, State.operators, State.shape, Clause.operate]

theorem dollars_alike (operand operand' : Expr) :
    (State.dollars operand clause frames).Alike State.shape
      (State.dollars operand' clause' frames') := by
  cases left : clause.side <;> cases right : clause'.side <;>
    simp_all [Moves.Alike, State.dollars, State.shape, Clause.dollar]

omit side in
theorem emptyListEnd_alike :
    (State.emptyListEnd frames).Alike State.shape
      (State.emptyListEnd frames') := by
  cases frames with
  | nil =>
      obtain rfl : frames' = [] := by simpa using brackets.symm
      exact .nil
  | cons frame frames =>
      obtain ⟨frame', frames', rfl, same, later⟩ :=
        List.map_eq_cons_iff.mp brackets.symm
      obtain ⟨bracket, items, outer⟩ := frame
      obtain ⟨bracket', items', outer'⟩ := frame'
      simp only [Frame.shape, Prod.mk.injEq] at same
      obtain ⟨rfl, empty, sides⟩ := same
      cases bracket' <;> cases items <;> cases items' <;>
        simp_all [Moves.Alike, State.emptyListEnd, State.shape, Phase.shape]

omit side in
theorem itemEnds_alike (item item' : Expr) :
    (State.itemEnds item frames).Alike State.shape
      (State.itemEnds item' frames') := by
  cases frames with
  | nil =>
      obtain rfl : frames' = [] := by simpa using brackets.symm
      exact .nil
  | cons frame frames =>
      obtain ⟨frame', frames', rfl, same, later⟩ :=
        List.map_eq_cons_iff.mp brackets.symm
      simp only [Frame.shape, Prod.mk.injEq] at same
      obtain ⟨bracket, _, sides⟩ := same
      simp [Moves.Alike, State.itemEnds, State.shape, Frame.shape, Phase.shape,
        Clause.empty, bracket, sides, later]

end Alike

theorem language_shaped : language.Shaped State.shape := by
  rintro ⟨phase, clause, frames⟩ ⟨phase', clause', frames'⟩ same
  simp only [State.shape, Prod.mk.injEq] at same
  obtain ⟨phases, side, brackets⟩ := same
  have blanks := leadingBlanks_alike side brackets
  have operands := operands_alike side brackets
  cases phase <;> cases phase' <;> cases phases
  · exact blanks.append operands
  · exact (blanks.append operands).append (emptyListEnd_alike brackets)
  · exact operands
  · rename_i function function'
    have applied : (clause.applying function).side.isSome =
        (clause'.applying function').side.isSome := side
    exact (operands_alike applied brackets).append
      (operators_alike side brackets _ _)
  · simp [Moves.Alike, language, State.moves, State.shape, side, brackets]
  · rename_i operand operand'
    have applied : (clause.applying (clause.call operand)).side.isSome =
        (clause'.applying (clause'.call operand')).side.isSome := side
    refine ((Moves.Alike.append ?_ (tightOperands_alike applied brackets)).append
      (dollars_alike side brackets _ _)).append (itemEnds_alike brackets _ _)
    simp [Moves.Alike, State.shape, Phase.shape, side, brackets]

theorem value?_isSome_of_shape {state state' : State}
    (same : state.shape = state'.shape) :
    state.value?.isSome = state'.value?.isSome := by
  obtain ⟨phase, clause, frames⟩ := state
  obtain ⟨phase', clause', frames'⟩ := state'
  simp only [State.shape, Prod.mk.injEq] at same
  obtain ⟨phases, _, brackets⟩ := same
  cases phase <;> cases phase' <;> cases phases <;> try rfl
  cases frames <;> cases frames' <;> simp_all [State.value?]

end TemplateSyntax.Expr
