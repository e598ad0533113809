import Mathlib.Data.List.Nodup
import TemplateSyntax.Proofs.Reading.Recognition
import TemplateSyntax.Proofs.Terminal.Brace

/-!
# Readers that look ahead

Several terminals can match at one place.  A reader follows all of them, but
when the text ahead decides which of them can still be completed, a text has at
most one reading (`Foresees.readings_unique`), and a grammar the reader
recognises is unambiguous (`Recognises.unambiguous`).  It is enough that a path
can be followed up to a token that may hold a closing brace.
-/

namespace TemplateSyntax

/-- Any two derivations of a whole text have the same tokens and the same
value. -/
def Unambiguous {α : Type} (grammar : List Token → α → Prop)
    (triggers : Triggers) : Prop :=
  ∀ text tokens tokens' value value',
    Laid triggers text tokens [] → grammar tokens value →
    Laid triggers text tokens' [] → grammar tokens' value' →
    tokens = tokens' ∧ value = value'

/-- Some move reads a terminal at the front of the text and leads to a live
place, unless the terminal may hold a closing brace. -/
def Moves.Proceed {σ : Type} (moves : Moves σ) (triggers : Triggers)
    (live : σ → List Char → Prop) (text : List Char) : Prop :=
  ∃ terminal next lexeme rest, (terminal, next) ∈ moves ∧
    terminal.scan triggers text = some (lexeme, rest) ∧
    (terminal.readsBrace = false → live (next lexeme) rest)

namespace Language

variable {σ α : Type} {language : Language σ α} {triggers : Triggers}

/-- The whole text can be read from the state on. -/
def Completes (language : Language σ α) (triggers : Triggers) (state : σ)
    (text : List Char) : Prop :=
  ∃ tokens value, (tokens, value) ∈ language.readings triggers state text

/-- A place that can be completed is the end, or some move proceeds from it. -/
theorem Completes.proceeds {state : σ} {text : List Char}
    (completes : language.Completes triggers state text) :
    (text = [] ∧ ∃ value, language.value? state = some value) ∨
      (language.moves state).Proceed triggers (language.Completes triggers)
        text := by
  obtain ⟨tokens, value, member⟩ := completes
  cases tokens with
  | nil =>
      obtain ⟨empty, finished⟩ := mem_readings_nil_iff.mp member
      exact .inl ⟨empty, value, finished⟩
  | cons token tokens =>
      obtain ⟨next, rest, moveMember, read, later⟩ :=
        mem_readings_cons_iff.mp member
      exact .inr ⟨token.terminal, next, token.lexeme, rest, moveMember, read,
        fun _ => ⟨tokens, value, later⟩⟩

/-- No two moves in a state read the same terminal. -/
def Distinct (language : Language σ α) : Prop :=
  ∀ state, (language.expected state).Nodup

/-- Some move leads on from every live place that has no value. -/
def Advancing (language : Language σ α) (triggers : Triggers)
    (live : σ → List Char → Prop) : Prop :=
  ∀ state text, live state text → language.value? state = none →
    (language.moves state).Proceed triggers live text

/-- The state and the text ahead tell the only terminal that leads to a live
place or may hold a closing brace.  What is live is left open, because the
reader may be part of another one, in which more can follow a value. -/
def Foresees (language : Language σ α) (triggers : Triggers)
    (ahead : σ → List Char → Terminal) : Prop :=
  ∀ live, language.Advancing triggers live →
    ∀ state text terminal next lexeme rest,
      (terminal, next) ∈ language.moves state →
      terminal.scan triggers text = some (lexeme, rest) →
      (terminal.readsBrace = false → live (next lexeme) rest) →
      terminal = ahead state text

theorem completes_advancing (language : Language σ α) (triggers : Triggers) :
    language.Advancing triggers (language.Completes triggers) := by
  intro state text completes unfinished
  rcases completes.proceeds with ⟨_, value, finished⟩ | proceeds
  · rw [unfinished] at finished
    cases finished
  · exact proceeds

theorem Distinct.next_eq (distinct : language.Distinct) {state : σ}
    {terminal : Terminal} {next next' : List Char → σ}
    (member : (terminal, next) ∈ language.moves state)
    (member' : (terminal, next') ∈ language.moves state) : next = next' := by
  have same :=
    List.inj_on_of_nodup_map (distinct state) member member' rfl
  exact (Prod.mk.inj same).2

/-- At most one move reads something that leads to a live place or may hold a
closing brace. -/
theorem Foresees.move_unique {ahead : σ → List Char → Terminal}
    (foresees : language.Foresees triggers ahead)
    (distinct : language.Distinct) {live : σ → List Char → Prop}
    (advancing : language.Advancing triggers live) {state : σ}
    {text : List Char} {terminal terminal' : Terminal}
    {next next' : List Char → σ} {lexeme lexeme' rest rest' : List Char}
    (member : (terminal, next) ∈ language.moves state)
    (read : terminal.scan triggers text = some (lexeme, rest))
    (alive : terminal.readsBrace = false → live (next lexeme) rest)
    (member' : (terminal', next') ∈ language.moves state)
    (read' : terminal'.scan triggers text = some (lexeme', rest'))
    (alive' : terminal'.readsBrace = false → live (next' lexeme') rest') :
    (terminal, next, lexeme, rest) = (terminal', next', lexeme', rest') := by
  have choice : terminal = ahead state text :=
    foresees _ advancing _ _ _ _ _ _ member read alive
  have choice' : terminal' = ahead state text :=
    foresees _ advancing _ _ _ _ _ _ member' read' alive'
  have terminalEq : terminal = terminal' := choice.trans choice'.symm
  subst terminalEq
  have nextEq : next = next' := distinct.next_eq member member'
  subst nextEq
  have readEq : (lexeme, rest) = (lexeme', rest') :=
    Option.some.inj (read.symm.trans read')
  cases readEq
  rfl

/-- A text has at most one reading.  The induction is on the tokens of one of
two readings; the other has as many, because every terminal reads something. -/
theorem Foresees.readings_unique {ahead : σ → List Char → Terminal}
    (foresees : language.Foresees triggers ahead)
    (distinct : language.Distinct) {state : σ} {text : List Char}
    {tokens tokens' : List Token} {value value' : α}
    (member : (tokens, value) ∈ language.readings triggers state text)
    (member' : (tokens', value') ∈ language.readings triggers state text) :
    tokens = tokens' ∧ value = value' := by
  induction tokens generalizing state text tokens' with
  | nil =>
      obtain ⟨rfl, finished⟩ := mem_readings_nil_iff.mp member
      cases tokens' with
      | nil =>
          obtain ⟨_, finished'⟩ := mem_readings_nil_iff.mp member'
          rw [finished] at finished'
          exact ⟨rfl, Option.some.inj finished'⟩
      | cons token' tokens' =>
          obtain ⟨_, _, _, read, _⟩ := mem_readings_cons_iff.mp member'
          exact absurd (Terminal.length_lt_of_scan read) (Nat.not_lt_zero _)
  | cons token tokens ih =>
      obtain ⟨next, rest, moveMember, read, later⟩ :=
        mem_readings_cons_iff.mp member
      cases tokens' with
      | nil =>
          obtain ⟨rfl, _⟩ := mem_readings_nil_iff.mp member'
          exact absurd (Terminal.length_lt_of_scan read) (Nat.not_lt_zero _)
      | cons token' tokens' =>
          obtain ⟨next', rest', moveMember', read', later'⟩ :=
            mem_readings_cons_iff.mp member'
          obtain ⟨terminal, lexeme⟩ := token
          obtain ⟨terminal', lexeme'⟩ := token'
          have same := foresees.move_unique distinct
            (completes_advancing language triggers)
            moveMember read (fun _ => ⟨tokens, value, later⟩)
            moveMember' read' (fun _ => ⟨tokens', value', later'⟩)
          cases same
          obtain ⟨tokensEq, valueEq⟩ := ih later later'
          exact ⟨by rw [tokensEq], valueEq⟩

theorem Recognises.unambiguous {grammar : List Token → α → Prop}
    (recognises : language.Recognises grammar)
    {ahead : σ → List Char → Terminal}
    (foresees : language.Foresees triggers ahead)
    (distinct : language.Distinct) : Unambiguous grammar triggers := by
  intro text tokens tokens' value value' laid derivation laid' derivation'
  exact foresees.readings_unique distinct
    (recognises.mem_readings_iff.mpr ⟨laid, derivation⟩)
    (recognises.mem_readings_iff.mpr ⟨laid', derivation'⟩)

end Language

end TemplateSyntax
