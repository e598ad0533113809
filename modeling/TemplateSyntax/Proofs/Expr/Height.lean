import TemplateSyntax.Proofs.Expr.Completeness
import TemplateSyntax.Proofs.Expr.Lookahead
import TemplateSyntax.Proofs.Expr.Places
import TemplateSyntax.Proofs.Reading.Height

/-!
# How deep expressions go

Where no dollar and no operator stands, only the open brackets count: each of
them is an expression, an application, an operand and an atom.  So the tokens
alone tell how deep a reading goes (`peak_of_plain`).
-/

namespace TemplateSyntax.Expr

open State (endsClause)

/-- The token neither is a dollar nor an operator. -/
def PlainToken (token : Token) : Prop :=
  token.terminal ≠ .dollar ∧ token.terminal ≠ .operator

/-- How deep the clause behind a terminal lies. -/
def depthBehind (depth : Nat) : Terminal → Nat
  | .exprOpenParen | .exprOpenBracket => depth + 4
  | .exprCloseParen | .exprCloseBracket => depth - 4
  | _ => depth

/-- How deep the deepest place along the tokens lies, from the depth of the
first clause and the brackets. -/
def deepest (depth : Nat) : List Token → Nat
  | [] => depth
  | token :: tokens =>
      max (depth + if endsClause (token :: tokens) then 0 else 3)
        (deepest (depthBehind depth token.terminal) tokens)

theorem le_deepest (depth : Nat) (tokens : List Token) :
    depth ≤ deepest depth tokens := by
  cases tokens with
  | nil => exact Nat.le_refl _
  | cons token tokens =>
      exact Nat.le_trans (Nat.le_add_right _ _) (Nat.le_max_left _ _)

theorem depthBehind_eq (depth : Nat) (terminal : Terminal) :
    depthBehind depth terminal =
      match turn terminal with
      | .opens => depth + 4
      | .closes => depth - 4
      | _ => depth := by
  cases terminal <;> rfl

theorem turn_ne_deepens {terminal : Terminal} {lexeme : List Char}
    (token : PlainToken ⟨terminal, lexeme⟩) (more : Nat) :
    turn terminal ≠ .deepens more := by
  intro deepens
  cases terminal <;>
    first | exact token.1 rfl | exact token.2 rfl | cases deepens

/-! ### Places that only brackets surround -/

/-- Nothing but brackets lies around the place. -/
inductive Place.Plain : Place → Prop where
  | top : Plain .top
  | inside {here : Nat} {outer : List Nat} :
      Plain ⟨here, outer⟩ → Plain ⟨here + 4, here :: outer⟩

namespace Place.Plain

variable {place next : Place}

/-- A terminal that is neither a dollar nor an operator leads from a plain place
to a plain place, and the brackets tell how deep that one lies. -/
theorem leads (plain : place.Plain) {terminal : Terminal} {lexeme : List Char}
    (token : PlainToken ⟨terminal, lexeme⟩)
    (leads : place.Leads (turn terminal) next) :
    next.Plain ∧ next.here = depthBehind place.here terminal := by
  rw [depthBehind_eq]
  have shallow := turn_ne_deepens token
  generalize turn terminal = turned at leads shallow
  cases leads with
  | opens => exact ⟨.inside plain, rfl⟩
  | closes =>
      cases plain with
      | inside around => exact ⟨around, rfl⟩
  | separates =>
      cases plain with
      | inside around => exact ⟨.inside around, rfl⟩
  | deepens here more => exact absurd rfl (shallow more)
  | stays => exact ⟨plain, rfl⟩

end Place.Plain

namespace State

theorem sidesAhead_of_plain {tokens : List Token}
    (plain : ∀ token ∈ tokens, PlainToken token) (inner : Nat)
    (settled : Bool) : sidesAhead inner settled tokens = 0 := by
  induction tokens generalizing inner settled with
  | nil => rfl
  | cons token tokens ih =>
      obtain ⟨token, others⟩ := List.forall_mem_cons.mp plain
      have shallow := turn_ne_deepens token
      rw [sidesAhead_cons]
      generalize turn _ = turned at shallow ⊢
      cases turned with
      | deepens more => exact absurd rfl (shallow more)
      | leaves => rfl
      | _ => cases inner <;> exact ih others _ _

/-- In front of plain tokens, no side counts. -/
theorem depth_of_plain (state : State) {tokens : List Token}
    (plain : ∀ token ∈ tokens, PlainToken token) :
    state.depth tokens = state.place.around tokens := by
  rw [depth_eq, sidesAhead_of_plain plain, Nat.add_zero]

end State

/-! ### Plain tokens -/

theorem peak_of_plain {state final : State} {tokens : List Token}
    (path : Path state tokens final) (plain : state.place.Plain)
    (tokensPlain : ∀ token ∈ tokens, PlainToken token) :
    language.peak state tokens = deepest state.place.here tokens := by
  induction path with
  | nil => rfl
  | @cons terminal next state final tokens lexeme member _ ih =>
      have depth : language.depth state _ = _ := state.depth_of_plain tokensPlain
      obtain ⟨token, others⟩ := List.forall_mem_cons.mp tokensPlain
      obtain ⟨behind, here⟩ :=
        plain.leads token (State.follows_of_move member lexeme)
      rw [language_distinct.peak_cons member, ih behind others, here, depth]
      rfl

/-- The deepest of all places along the plain tokens of an expression. -/
theorem measures_of_plain {tokens : List Token} {value : Expr}
    (expression : Grammar.Expression tokens value)
    (tokensPlain : ∀ token ∈ tokens, PlainToken token) :
    language.Measures tokens value (deepest 0 tokens) := by
  obtain ⟨final, path, finished⟩ :=
    (language_recognises tokens value).mp expression
  exact ⟨final, path, finished, peak_of_plain path .top tokensPlain⟩

end TemplateSyntax.Expr
