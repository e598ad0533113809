import Mathlib.Data.List.Forall2
import TemplateSyntax.Proofs.Reading.Furthest
import TemplateSyntax.Proofs.Reading.Recognition

/-!
# Beginnings of derivations

A sequence of terminals is viable when some derivation begins with it.  The
paths of a reader are the viable sequences, provided that from every state some
tokens lead to a value (`Completable`) and that what has been read decides
about values only, not about what may follow (`Shaped`).  Then the places where
a text fails are those the grammar itself calls for.
-/

namespace TemplateSyntax

/-- A derivation of the grammar begins with the terminals. -/
def Viable {α : Type} (grammar : List Token → α → Prop)
    (terminals : List Terminal) : Prop :=
  ∃ tokens value, grammar tokens value ∧
    terminals <+: tokens.map Token.terminal

/-- The tokens stand end to end from the beginning of the text up to a
position, and a derivation begins with their terminals. -/
def Reaches {α : Type} (grammar : List Token → α → Prop) (triggers : Triggers)
    (text : List Char) (tokens : List Token) (position : Nat) : Prop :=
  Viable grammar (tokens.map Token.terminal) ∧
    ∃ rest, Laid triggers text tokens rest ∧
      rest.length + position = text.length

/-- The same terminals in the same order, with the same shapes behind them. -/
def Moves.Alike {σ τ : Type} (shape : σ → τ) (moves moves' : Moves σ) : Prop :=
  List.Forall₂ (fun move move' => move.1 = move'.1 ∧
    ∀ lexeme lexeme', shape (move.2 lexeme) = shape (move'.2 lexeme'))
    moves moves'

namespace Moves.Alike

variable {σ τ : Type} {shape : σ → τ}

theorem append {front front' back back' : Moves σ}
    (left : front.Alike shape front') (right : back.Alike shape back') :
    Moves.Alike shape (front ++ back) (front' ++ back') :=
  List.rel_append left right

theorem exists_of_mem {moves moves' : Moves σ} {terminal : Terminal}
    {next : List Char → σ} (alike : moves.Alike shape moves')
    (member : (terminal, next) ∈ moves) :
    ∃ next', (terminal, next') ∈ moves' ∧
      ∀ lexeme lexeme', shape (next lexeme) = shape (next' lexeme') := by
  induction alike with
  | nil => cases member
  | @cons move move' moves moves' same _ ih =>
      rcases List.mem_cons.mp member with rfl | later
      · obtain ⟨_, next'⟩ := move'
        obtain ⟨rfl, shapes⟩ := same
        exact ⟨next', List.mem_cons_self, shapes⟩
      · obtain ⟨next', member', shapes⟩ := ih later
        exact ⟨next', List.mem_cons_of_mem _ member', shapes⟩

end Moves.Alike

namespace Language

variable {σ τ α : Type} {language : Language σ α}

/-- From every state some tokens lead to a value. -/
def Completable (language : Language σ α) : Prop :=
  ∀ state, ∃ tokens final value, language.Path state tokens final ∧
    language.value? final = some value

/-- What may follow a state depends on its shape, and the shape behind a token
depends on its terminal. -/
def Shaped (language : Language σ α) (shape : σ → τ) : Prop :=
  ∀ state state', shape state = shape state' →
    (language.moves state).Alike shape (language.moves state')

theorem Path.split {left right : List Token} {state final : σ}
    (path : language.Path state (left ++ right) final) :
    ∃ middle, language.Path state left middle ∧
      language.Path middle right final := by
  induction left generalizing state with
  | nil => exact ⟨state, .nil state, path⟩
  | cons token left ih =>
      cases path with
      | cons lexeme member later =>
          obtain ⟨middle, front, back⟩ := ih later
          exact ⟨middle, .cons lexeme member front, back⟩

theorem Path.exists_last {tokens : List Token} {state final : σ}
    (path : language.Path state tokens final) (proper : tokens ≠ []) :
    ∃ front middle terminal next lexeme,
      tokens = front ++ [⟨terminal, lexeme⟩] ∧
      language.Path state front middle ∧
      (terminal, next) ∈ language.moves middle ∧ next lexeme = final := by
  rcases List.eq_nil_or_concat' tokens with rfl | ⟨front, last, rfl⟩
  · exact absurd rfl proper
  · obtain ⟨middle, before, move⟩ := path.split
    cases move with
    | cons lexeme member later =>
        cases later
        exact ⟨front, middle, _, _, lexeme, rfl, before, member, rfl⟩

/-- A path can be taken with other lexemes, too, and from any state of the same
shape. -/
theorem Shaped.path {shape : σ → τ} (shaped : language.Shaped shape)
    {tokens tokens' : List Token} {state state' final : σ}
    (path : language.Path state tokens final)
    (same : shape state = shape state')
    (terminals : tokens'.map Token.terminal = tokens.map Token.terminal) :
    ∃ final', language.Path state' tokens' final' ∧
      shape final = shape final' := by
  induction path generalizing state' tokens' with
  | nil state =>
      obtain rfl : tokens' = [] := by simpa using terminals
      exact ⟨state', .nil state', same⟩
  | @cons terminal next state final tokens lexeme member _ ih =>
      obtain ⟨⟨_, lexeme'⟩, rest, rfl, rfl, restEq⟩ :=
        List.map_eq_cons_iff.mp terminals
      obtain ⟨next', member', follows⟩ :=
        (shaped _ _ same).exists_of_mem member
      obtain ⟨final', later, alike⟩ := ih (follows lexeme lexeme') restEq
      exact ⟨final', .cons lexeme' member' later, alike⟩

theorem Shaped.expected_eq {shape : σ → τ} (shaped : language.Shaped shape)
    {state state' : σ} (same : shape state = shape state') :
    language.expected state = language.expected state' := by
  have terminals {moves moves' : Moves σ} (alike : moves.Alike shape moves') :
      moves.map Prod.fst = moves'.map Prod.fst := by
    induction alike with
    | nil => rfl
    | cons move _ ih => rw [List.map_cons, List.map_cons, move.1, ih]
  exact terminals (shaped state state' same)

namespace Recognises

variable {grammar : List Token → α → Prop} {shape : σ → τ}

/-- The paths from the start are the beginnings of derivations. -/
theorem viable_iff (recognises : language.Recognises grammar)
    (completable : language.Completable) (shaped : language.Shaped shape)
    (tokens : List Token) :
    Viable grammar (tokens.map Token.terminal) ↔
      ∃ final, language.Path language.start tokens final := by
  constructor
  · rintro ⟨derived, value, derivation, later, terminals⟩
    obtain ⟨last, path, _⟩ := (recognises derived value).mp derivation
    obtain ⟨front, back, rfl, frontEq, _⟩ :=
      List.map_eq_append_iff.mp terminals.symm
    obtain ⟨middle, frontPath, _⟩ := path.split
    obtain ⟨final, path, _⟩ := shaped.path frontPath rfl frontEq.symm
    exact ⟨final, path⟩
  · rintro ⟨final, path⟩
    obtain ⟨later, last, value, back, finished⟩ := completable final
    refine ⟨tokens ++ later, value, ?_, ?_⟩
    · exact (recognises _ _).mpr ⟨last, path.append back, finished⟩
    · rw [List.map_append]
      exact List.prefix_append _ _

/-- A path goes on with the terminals that its last state expects. -/
theorem viable_snoc_iff (recognises : language.Recognises grammar)
    (completable : language.Completable) (shaped : language.Shaped shape)
    (tokens : List Token) (terminal : Terminal) :
    Viable grammar (tokens.map Token.terminal ++ [terminal]) ↔
      ∃ final, language.Path language.start tokens final ∧
        terminal ∈ language.expected final := by
  have whole := recognises.viable_iff completable shaped
    (tokens ++ [⟨terminal, []⟩])
  rw [List.map_append] at whole
  rw [show [terminal] = [Token.mk terminal []].map Token.terminal from rfl,
    whole]
  constructor
  · rintro ⟨last, path⟩
    obtain ⟨final, front, back⟩ := path.split
    cases back with
    | cons _ member _ => exact ⟨final, front, List.mem_map_of_mem member⟩
  · rintro ⟨final, path, expected⟩
    obtain ⟨⟨_, next⟩, member, rfl⟩ := List.mem_map.mp expected
    exact ⟨next [], path.append (.single [] member)⟩

variable {triggers : Triggers} {text : List Char}

/-- The furthest place of a text is the furthest end of any tokens with which a
derivation begins. -/
theorem furthest_position (recognises : language.Recognises grammar)
    (completable : language.Completable) (shaped : language.Shaped shape) :
    let left := Stop.leastLeft (language.stops triggers language.start text)
    (∃ tokens, Reaches grammar triggers text tokens (text.length - left)) ∧
      ∀ tokens position, Reaches grammar triggers text tokens position →
        position ≤ text.length - left := by
  intro left
  have bound : left ≤ text.length := leastLeft_le_length
  constructor
  · have proper : language.stops triggers language.start text ≠ [] :=
      List.ne_nil_of_mem start_mem_stops
    obtain ⟨stop, member, leftEq⟩ := Stop.exists_leastLeft proper
    obtain ⟨tokens, rest, final, laid, path, rfl⟩ := mem_stops_iff.mp member
    have restEq : rest.length = left := leftEq
    refine ⟨tokens, (recognises.viable_iff completable shaped _).mpr
      ⟨final, path⟩, rest, laid, ?_⟩
    omega
  · rintro tokens position ⟨viable, rest, laid, total⟩
    obtain ⟨final, path⟩ :=
      (recognises.viable_iff completable shaped _).mp viable
    have least : left ≤ rest.length := Stop.leastLeft_le
      (mem_stops_iff.mpr ⟨tokens, rest, final, laid, path, rfl⟩)
    omega

/-- What is expected at the furthest place is what goes on from there. -/
theorem mem_expected_furthest_iff (recognises : language.Recognises grammar)
    (completable : language.Completable) (shaped : language.Shaped shape)
    (terminal : Terminal) :
    let stops := language.stops triggers language.start text
    terminal ∈ (Stop.furthest stops).expected ↔
      ∃ tokens, Reaches grammar triggers text tokens
          (text.length - Stop.leastLeft stops) ∧
        Viable grammar (tokens.map Token.terminal ++ [terminal]) := by
  intro stops
  have bound : Stop.leastLeft stops ≤ text.length := leastLeft_le_length
  rw [Stop.mem_expected_furthest]
  constructor
  · rintro ⟨stop, member, leftEq, expected⟩
    obtain ⟨tokens, rest, final, laid, path, rfl⟩ := mem_stops_iff.mp member
    have restEq : rest.length = Stop.leastLeft stops := leftEq
    refine ⟨tokens, ⟨(recognises.viable_iff completable shaped _).mpr
      ⟨final, path⟩, rest, laid, ?_⟩,
      (recognises.viable_snoc_iff completable shaped _ _).mpr
        ⟨final, path, expected⟩⟩
    omega
  · rintro ⟨tokens, ⟨_, rest, laid, total⟩, viable⟩
    obtain ⟨final, path, expected⟩ :=
      (recognises.viable_snoc_iff completable shaped _ _).mp viable
    refine ⟨⟨rest.length, language.expected final⟩,
      mem_stops_iff.mpr ⟨tokens, rest, final, laid, path, rfl⟩, ?_, expected⟩
    show rest.length = Stop.leastLeft stops
    omega

end Recognises

end Language

end TemplateSyntax
