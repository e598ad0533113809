import TemplateSyntax.Reading.Language

/-!
# Tokens laid end to end

`Laid triggers text tokens rest` says that the tokens stand end to end at the
front of a text, each read by the rule of its own terminal at its place, and
that `rest` follows them.  A grammar describes which sequences of tokens have
which value; `Derivable` puts both together.
-/

namespace TemplateSyntax

/-- The tokens stand end to end at the front of the text, in front of the rest,
each of them exactly what its own rule reads there. -/
inductive Laid (triggers : Triggers) :
    List Char → List Token → List Char → Prop where
  | nil (text : List Char) : Laid triggers text [] text
  | cons {terminal : Terminal} {text lexeme middle rest : List Char}
      {tokens : List Token} :
      terminal.scan triggers text = some (lexeme, middle) →
      Laid triggers middle tokens rest →
      Laid triggers text (⟨terminal, lexeme⟩ :: tokens) rest

/-- The whole text is a sequence of tokens to which a grammar gives a value. -/
def Derivable {α : Type} (grammar : List Token → α → Prop)
    (triggers : Triggers) (text : List Char) (value : α) : Prop :=
  ∃ tokens, Laid triggers text tokens [] ∧ grammar tokens value

namespace Laid

variable {triggers : Triggers}

theorem text_eq {text rest : List Char} {tokens : List Token}
    (laid : Laid triggers text tokens rest) :
    text = tokens.flatMap Token.lexeme ++ rest := by
  induction laid with
  | nil text => rfl
  | cons read _ ih =>
      rw [Terminal.scan_eq_append read, ih]
      simp

theorem append {text middle rest : List Char} {first second : List Token}
    (left : Laid triggers text first middle)
    (right : Laid triggers middle second rest) :
    Laid triggers text (first ++ second) rest := by
  induction left with
  | nil text => exact right
  | cons read _ ih => exact .cons read (ih right)

/-- What a sequence of terminals reads is determined by the text. -/
theorem tokens_unique {text rest rest' : List Char}
    {tokens tokens' : List Token}
    (laid : Laid triggers text tokens rest)
    (laid' : Laid triggers text tokens' rest')
    (terminals : tokens.map Token.terminal = tokens'.map Token.terminal) :
    tokens = tokens' ∧ rest = rest' := by
  induction laid generalizing tokens' with
  | nil text =>
      cases laid' with
      | nil => exact ⟨rfl, rfl⟩
      | cons => simp at terminals
  | cons read _ ih =>
      cases laid' with
      | nil => simp at terminals
      | cons read' tail' =>
          rw [List.map_cons, List.map_cons, List.cons.injEq] at terminals
          obtain ⟨same, later⟩ := terminals
          subst same
          rw [read] at read'
          cases read'
          obtain ⟨tokensEq, restEq⟩ := ih tail' later
          exact ⟨by rw [tokensEq], restEq⟩

end Laid

end TemplateSyntax
