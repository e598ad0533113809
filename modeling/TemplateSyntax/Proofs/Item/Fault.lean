import TemplateSyntax.Proofs.Item.Lookahead
import TemplateSyntax.Proofs.Reading.Longer

/-!
# Faults along lines

The closer of an interpolation or a directive shuts off the depth of the places
in front of it from what follows.  So the first fault of a line is the first
fault of its first item, and otherwise that of the rest of the line
(`fault?_sequence`); the items read before do not count.
-/

namespace TemplateSyntax.Item

open Grammar

/-- The tokens end in the closer of an interpolation or a directive. -/
def Closed (tokens : List Token) : Prop :=
  ∃ front closing, tokens = front ++ [closing] ∧
    (closing.terminal = .valueClose ∨ closing.terminal = .controlClose)

theorem Closed.of_suffix {tokens behind : List Token} (closed : Closed tokens)
    (suffix : behind <:+ tokens) (proper : behind ≠ []) : Closed behind := by
  obtain ⟨front, closing, rfl, closes⟩ := closed
  obtain ⟨before, whole⟩ := suffix
  obtain ⟨inner, last, rfl⟩ :=
    (List.eq_nil_or_concat behind).resolve_left proper
  rw [List.concat_eq_append] at whole ⊢
  rw [← List.append_assoc] at whole
  obtain ⟨_, same⟩ := List.append_inj' whole rfl
  cases same
  exact ⟨inner, closing, rfl, closes⟩

/-- No dollar and no operator is looked for behind a closer. -/
theorem sidesAhead_append {tokens : List Token} (closed : Closed tokens)
    (back : List Token) (inner : Nat) (settled : Bool) :
    Expr.State.sidesAhead inner settled (tokens ++ back) =
      Expr.State.sidesAhead inner settled tokens := by
  obtain ⟨front, ⟨terminal, lexeme⟩, rfl, closes⟩ := closed
  rw [List.append_assoc, List.singleton_append]
  induction front generalizing inner settled with
  | nil =>
      rcases closes with rfl | rfl <;>
        simp [Expr.State.sidesAhead]
  | cons token front ih =>
      rw [List.cons_append, List.cons_append]
      simp only [Expr.State.sidesAhead, ih]

theorem endsClause_append {tokens : List Token} (closed : Closed tokens)
    (back : List Token) :
    Expr.State.endsClause (tokens ++ back) = Expr.State.endsClause tokens := by
  obtain ⟨front, closing, rfl, _⟩ := closed
  cases front <;> rfl

theorem depth_append {tokens : List Token} (closed : Closed tokens)
    (back : List Token) (state : State) :
    language.depth state (tokens ++ back) = language.depth state tokens := by
  obtain ⟨items, place⟩ := state
  cases place with
  | expr use inner =>
      simp only [language, State.depth, Expr.State.depth,
        sidesAhead_append closed, endsClause_append closed]
  | _ => rfl

theorem Grammar.One.literal_or_closed {tokens : List Token} {item : Item}
    (one : One tokens item) :
    (∃ token text, tokens = [token] ∧ item = .literal text ∧
      token.terminal ≠ .number) ∨
      ∃ opening rest, tokens = opening :: rest ∧ Closed rest := by
  cases one with
  | value opening closing _ =>
      exact .inr ⟨_, _, List.cons_append, _, ⟨.valueClose, closing⟩, rfl,
        .inl rfl⟩
  | directive opening closing _ =>
      exact .inr ⟨_, _, List.cons_append, _, ⟨.controlClose, closing⟩, rfl,
        .inr rfl⟩
  | _ => exact .inl ⟨_, _, rfl, rfl, by simp⟩

theorem depth_text_le (items : List Item) :
    language.depth ⟨items, .text⟩ [] ≤ nestingLimit := by
  have shallow : language.depth ⟨items, .text⟩ [] = 1 := rfl
  rw [shallow]
  decide

theorem fault?_text (items : List Item) {terminal : Terminal}
    {next : List Char → State}
    (member : (terminal, next) ∈ language.moves ⟨items, .text⟩)
    (lexeme : List Char) (rest : List Token) :
    language.fault? ⟨items, .text⟩ (⟨terminal, lexeme⟩ :: rest) =
      ((Token.error? ⟨terminal, lexeme⟩).map .number).or
        (language.fault? (next lexeme) rest) := by
  have shallow : language.depth ⟨items, .text⟩ (⟨terminal, lexeme⟩ :: rest) =
      1 := rfl
  rw [Language.fault?, shallow, if_neg (by decide),
    language_distinct.step?_eq member, Option.bind_some]

/-- The tokens of an item have the same faults whatever follows them. -/
theorem fault?_one {tokens : List Token} {item : Item} (one : One tokens item)
    (items : List Item) (back : List Token) :
    language.fault? ⟨items, .text⟩ (tokens ++ back) =
      (language.fault? ⟨items, .text⟩ tokens).or
        (language.fault? ⟨item :: items, .text⟩ back) := by
  have path := path_of_one one items
  rcases one.literal_or_closed with ⟨token, _, rfl, _, _⟩ |
    ⟨opening, rest, rfl, closed⟩
  · cases path with
    | cons lexeme member later =>
        rw [List.singleton_append, fault?_text items member,
          fault?_text items member, later.eq_of_nil, Option.or_assoc]
        rfl
  · cases path with
    | cons lexeme member later =>
        have inside := language_distinct.fault?_append later
          (fun state behind suffix proper =>
            depth_append (closed.of_suffix suffix proper) back state)
          (depth_text_le _)
        rw [List.cons_append, fault?_text items member,
          fault?_text items member, inside, Option.or_assoc]

theorem step?_place (items items' : List Item) (place : Place)
    (token : Token) :
    (language.step? ⟨items, place⟩ token).map State.place =
      (language.step? ⟨items', place⟩ token).map State.place := by
  have places : (language.moves ⟨items, place⟩).map
        (fun move => (move.1, fun lexeme => (move.2 lexeme).place)) =
      (language.moves ⟨items', place⟩).map
        (fun move => (move.1, fun lexeme => (move.2 lexeme).place)) := by
    cases place with
    | text => rfl
    | directive => rfl
    | bare item => rfl
    | expr use inner =>
        simp only [language, State.moves, State.within, List.map_append,
          List.map_map]
        cases inner.value? <;> rfl
    | pattern use inner =>
        simp only [language, State.moves, State.within, List.map_append,
          List.map_map]
        cases inner.value? <;> cases use <;> rfl
  have lookup (moves : Moves State) :
      ((moves.lookup token.terminal).map (· token.lexeme)).map State.place =
        ((moves.map fun move => (move.1, fun lexeme =>
          (move.2 lexeme).place)).lookup token.terminal).map
            (· token.lexeme) := by
    induction moves with
    | nil => rfl
    | cons move moves ih =>
        rw [List.map_cons, List.lookup_cons, List.lookup_cons]
        split
        · rfl
        · exact ih
  rw [Language.step?, Language.step?, lookup, lookup, places]

/-- Faults do not depend on the items read before. -/
theorem fault?_items (items items' : List Item) (place : Place)
    (tokens : List Token) :
    language.fault? ⟨items, place⟩ tokens =
      language.fault? ⟨items', place⟩ tokens := by
  induction tokens generalizing items items' place with
  | nil => rfl
  | cons token tokens ih =>
      have depth : language.depth ⟨items, place⟩ (token :: tokens) =
          language.depth ⟨items', place⟩ (token :: tokens) := rfl
      rw [Language.fault?, Language.fault?, depth]
      have same := step?_place items items' place token
      congr 2
      cases left : language.step? ⟨items, place⟩ token with
      | none =>
          rw [left] at same
          rw [Option.map_eq_none_iff.mp same.symm]
      | some next =>
          rw [left] at same
          obtain ⟨next', right, placeEq⟩ :=
            Option.map_eq_some_iff.mp same.symm
          obtain ⟨before, place⟩ := next
          obtain ⟨before', place'⟩ := next'
          obtain rfl : place' = place := placeEq
          rw [right]
          exact ih before before' place'

/-- The first fault of a line is that of its first item, and otherwise that of
the rest. -/
theorem fault?_sequence {first : List Token} {item : Item}
    (one : One first item) (rest : List Token) :
    language.fault? language.start (first ++ rest) =
      (language.fault? language.start first).or
        (language.fault? language.start rest) := by
  have whole := fault?_one one [] rest
  rw [fault?_items [item] []] at whole
  exact whole

theorem fault?_literal {token : Token} {text : String}
    (one : One [token] (.literal text)) :
    language.fault? language.start [token] = none := by
  have proper : token.terminal ≠ .number := by
    rcases one.literal_or_closed with ⟨_, _, eq, _, proper⟩ |
      ⟨_, rest, eq, closed⟩
    · cases eq
      exact proper
    · cases eq
      obtain ⟨front, closing, empty, _⟩ := closed
      simp at empty
  have path := path_of_one one []
  cases path with
  | cons lexeme member later =>
      have whole := fault?_text [] member lexeme []
      rw [Token.error?, if_neg proper, later.eq_of_nil] at whole
      exact whole

end TemplateSyntax.Item
