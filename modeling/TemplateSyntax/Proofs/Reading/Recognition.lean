import TemplateSyntax.Reading.Paths

/-!
# Readers that recognise a grammar

A reader recognises a grammar when its accepting paths are the derivations of
the grammar, values included.  `Path.preserves` is the way to show that every
path is a derivation, and `Path.append` the way to build a path from the paths
of the parts of a derivation.  For a reader that recognises a grammar, the
readings of a text are the derivations whose tokens are laid over all of it
(`Recognises.mem_readings_iff`).
-/

namespace TemplateSyntax.Language

variable {σ α : Type} {language : Language σ α}

/-- The accepting paths are the derivations of the grammar. -/
def Recognises (language : Language σ α)
    (grammar : List Token → α → Prop) : Prop :=
  ∀ tokens value, grammar tokens value ↔
    ∃ final, language.Path language.start tokens final ∧
      language.value? final = some value

theorem Path.append {first middle last : σ} {left right : List Token}
    (front : language.Path first left middle)
    (back : language.Path middle right last) :
    language.Path first (left ++ right) last := by
  induction front with
  | nil => exact back
  | cons lexeme member _ ih => exact .cons lexeme member (ih back)

theorem Path.single {terminal : Terminal} {next : List Char → σ} {state : σ}
    (lexeme : List Char) (member : (terminal, next) ∈ language.moves state) :
    language.Path state [⟨terminal, lexeme⟩] (next lexeme) :=
  .cons lexeme member (.nil _)

/-- All the moves may be made in the state. -/
def Offers (language : Language σ α) (state : σ) (moves : Moves σ) : Prop :=
  ∀ move, move ∈ moves → move ∈ language.moves state

theorem Offers.refl (state : σ) :
    language.Offers state (language.moves state) :=
  fun _ member => member

theorem Offers.left {state : σ} {front back : Moves σ}
    (offers : language.Offers state (front ++ back)) :
    language.Offers state front :=
  fun move member => offers move (List.mem_append_left back member)

theorem Offers.right {state : σ} {front back : Moves σ}
    (offers : language.Offers state (front ++ back)) :
    language.Offers state back :=
  fun move member => offers move (List.mem_append_right front member)

theorem Offers.tail {state : σ} {first : Terminal × (List Char → σ)}
    {others : Moves σ} (offers : language.Offers state (first :: others)) :
    language.Offers state others :=
  fun move member => offers move (List.mem_cons_of_mem first member)

theorem Path.take {state final : σ} {tokens : List Token}
    {terminal : Terminal} {next : List Char → σ} {offered : Moves σ}
    (offers : language.Offers state offered) (lexeme : List Char)
    (member : (terminal, next) ∈ offered)
    (later : language.Path (next lexeme) tokens final) :
    language.Path state (⟨terminal, lexeme⟩ :: tokens) final :=
  .cons lexeme (offers _ member) later

/-- A path that takes a step can start wherever its first move is offered. -/
theorem Path.of_offers {first other last : σ} {tokens : List Token}
    (path : language.Path first tokens last)
    (offers : language.Offers other (language.moves first))
    (proper : tokens ≠ []) : language.Path other tokens last := by
  cases path with
  | nil => exact (proper rfl).elim
  | cons lexeme member later => exact .take offers lexeme member later

/-- What holds of the tokens read so far and of the state they lead to, and is
kept by every move, holds along every path. -/
theorem Path.preserves (holds : List Token → σ → Prop)
    (step : ∀ (read : List Token) (state : σ) (terminal : Terminal)
      (next : List Char → σ) (lexeme : List Char),
      holds read state → (terminal, next) ∈ language.moves state →
      holds (read ++ [⟨terminal, lexeme⟩]) (next lexeme))
    {state final : σ} {tokens : List Token}
    (path : language.Path state tokens final) :
    ∀ read, holds read state → holds (read ++ tokens) final := by
  induction path with
  | nil state =>
      intro read held
      rw [List.append_nil]
      exact held
  | @cons terminal next state final tokens lexeme member _ ih =>
      intro read held
      have later := ih _ (step read state terminal next lexeme held member)
      rw [List.append_assoc, List.singleton_append] at later
      exact later

theorem Path.forall_terminal {holds : Terminal → Prop}
    (moves : ∀ state terminal next,
      (terminal, next) ∈ language.moves state → holds terminal)
    {state final : σ} {tokens : List Token}
    (path : language.Path state tokens final) :
    ∀ token ∈ tokens, holds token.terminal := by
  induction path with
  | nil =>
      intro _ member
      cases member
  | cons _ moveMember _ ih =>
      intro token member
      rcases List.mem_cons.mp member with rfl | later
      · exact moves _ _ _ moveMember
      · exact ih token later

namespace Recognises

variable {grammar : List Token → α → Prop} {triggers : Triggers}
  {text : List Char}

theorem mem_readings_iff (recognises : language.Recognises grammar)
    {tokens : List Token} {value : α} :
    (tokens, value) ∈ language.readings triggers language.start text ↔
      Laid triggers text tokens [] ∧ grammar tokens value := by
  rw [Language.mem_readings_iff, recognises tokens value]

theorem readings_eq_nil_iff (recognises : language.Recognises grammar) :
    language.readings triggers language.start text = [] ↔
      ¬∃ value, Derivable grammar triggers text value := by
  rw [List.eq_nil_iff_forall_not_mem]
  constructor
  · rintro none ⟨value, tokens, laid, derivation⟩
    exact none (tokens, value)
      (recognises.mem_readings_iff.mpr ⟨laid, derivation⟩)
  · rintro none ⟨tokens, value⟩ member
    obtain ⟨laid, derivation⟩ := recognises.mem_readings_iff.mp member
    exact none ⟨value, tokens, laid, derivation⟩

end Recognises

end TemplateSyntax.Language
