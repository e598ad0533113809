import TemplateSyntax.Proofs.Reading.Longer

/-!
# Paths up to a closing brace

Two readings of a text may part, but not in front of a closing brace that both
reach: the text ahead decides for both of them up to the token that holds it.
So a path that ends in such a token is the beginning of every path that gets at
least as far (`Foresees.prefix_of_brace`).
-/

namespace TemplateSyntax

namespace Laid

variable {triggers : Triggers} {text rest rest' : List Char}
  {tokens tokens' : List Token}

theorem readsBrace_of_mem {token : Token} (laid : Laid triggers text tokens rest)
    (member : token ∈ tokens) (brace : '}' ∈ token.lexeme) :
    token.terminal.readsBrace = true := by
  induction laid with
  | nil => cases member
  | cons read _ ih =>
      rcases List.mem_cons.mp member with rfl | later
      · exact Terminal.readsBrace_of_mem read brace
      · exact ih later

/-- Tokens that get as far as others hold all the characters of those. -/
theorem exists_of_mem_lexeme (laid : Laid triggers text tokens rest)
    (laid' : Laid triggers text tokens' rest')
    (beyond : rest'.length ≤ rest.length) {token : Token} {c : Char}
    (member : token ∈ tokens) (inLexeme : c ∈ token.lexeme) :
    ∃ token' ∈ tokens', c ∈ token'.lexeme := by
  have front : tokens.flatMap Token.lexeme <+: text := by
    rw [laid.text_eq]
    exact List.prefix_append _ _
  have front' : tokens'.flatMap Token.lexeme <+: text := by
    rw [laid'.text_eq]
    exact List.prefix_append _ _
  have total := congrArg List.length (laid.text_eq.symm.trans laid'.text_eq)
  rw [List.length_append, List.length_append] at total
  have longer := List.prefix_of_prefix_length_le front front' (by omega)
  exact List.mem_flatMap.mp
    (longer.subset (List.mem_flatMap.mpr ⟨token, member, inLexeme⟩))

end Laid

namespace Language

variable {σ α : Type} {language : Language σ α} {triggers : Triggers}

/-- Some path from the place reads a token that may hold a closing brace. -/
def Braced (language : Language σ α) (triggers : Triggers) (state : σ)
    (text : List Char) : Prop :=
  ∃ tokens rest final, language.Path state tokens final ∧
    Laid triggers text tokens rest ∧
    ∃ token ∈ tokens, token.terminal.readsBrace = true

/-- Behind another token, the one with the brace is still to come. -/
theorem Braced.of_cons {state final : σ} {text rest : List Char}
    {token : Token} {tokens : List Token}
    (path : language.Path state tokens final)
    (laid : Laid triggers text tokens rest)
    (brace : ∃ other ∈ token :: tokens, other.terminal.readsBrace = true)
    (plain : token.terminal.readsBrace = false) :
    language.Braced triggers state text := by
  obtain ⟨other, member, reads⟩ := brace
  rcases List.mem_cons.mp member with rfl | later
  · rw [plain] at reads
    cases reads
  · exact ⟨tokens, rest, final, path, laid, other, later, reads⟩

theorem braced_advancing (language : Language σ α) (triggers : Triggers) :
    language.Advancing triggers (language.Braced triggers) := by
  rintro state text ⟨tokens, rest, final, path, laid, brace⟩ _
  cases path with
  | nil =>
      obtain ⟨_, member, _⟩ := brace
      cases member
  | cons lexeme member later =>
      cases laid with
      | cons read laidLater =>
          exact ⟨_, _, lexeme, _, member, read, .of_cons later laidLater brace⟩

/-- A path that ends in a token with a closing brace begins every path over the
same text that gets as far.  The two paths take the same moves, because both are
still to reach that brace. -/
theorem Foresees.prefix_of_brace {ahead : σ → List Char → Terminal}
    (foresees : language.Foresees triggers ahead)
    (distinct : language.Distinct) {state final final' : σ}
    {text rest rest' : List Char} {tokens tokens' : List Token}
    (brace : ∀ last, tokens.getLast? = some last → '}' ∈ last.lexeme)
    (path : language.Path state tokens final)
    (laid : Laid triggers text tokens rest)
    (path' : language.Path state tokens' final')
    (laid' : Laid triggers text tokens' rest')
    (beyond : rest'.length ≤ rest.length) : tokens <+: tokens' := by
  induction path generalizing text tokens' with
  | nil => exact List.nil_prefix
  | @cons terminal next state final tokens lexeme member later ih =>
      obtain ⟨last, lastEq⟩ : ∃ last,
          (⟨terminal, lexeme⟩ :: tokens).getLast? = some last :=
        ⟨_, List.getLast?_cons⟩
      have inTokens := List.mem_of_getLast? lastEq
      have inLexeme := brace last lastEq
      have reads := laid.readsBrace_of_mem inTokens inLexeme
      obtain ⟨other, inTokens', inLexeme'⟩ :=
        laid.exists_of_mem_lexeme laid' beyond inTokens inLexeme
      have reads' := laid'.readsBrace_of_mem inTokens' inLexeme'
      cases path' with
      | nil => cases inTokens'
      | cons lexeme' member' later' =>
          cases laid with
          | cons read laidLater =>
              cases laid' with
              | cons read' laidLater' =>
                  have same := foresees.move_unique distinct
                    (braced_advancing language triggers) member read
                    (.of_cons later laidLater ⟨last, inTokens, reads⟩) member'
                    read' (.of_cons later' laidLater' ⟨other, inTokens', reads'⟩)
                  cases same
                  rw [List.prefix_cons_inj]
                  refine ih ?_ laidLater later' laidLater'
                  intro inner innerEq
                  apply brace inner
                  rw [List.getLast?_cons, innerEq]
                  rfl

end Language

end TemplateSyntax
