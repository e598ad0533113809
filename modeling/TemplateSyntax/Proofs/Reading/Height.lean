import TemplateSyntax.Proofs.Reading.Longer

/-!
# How deep a reading goes

A reading has no fault exactly if the deepest place along it lies within the
limit and all its numbers have a value (`Distinct.fault?_eq_none_iff`).
-/

namespace TemplateSyntax.Language

variable {σ α : Type} {language : Language σ α}

/-- How deep the deepest of all places along the tokens lies, the last one
included. -/
def peak (language : Language σ α) (state : σ) : List Token → Nat
  | [] => language.depth state []
  | token :: tokens =>
      max (language.depth state (token :: tokens))
        (((language.step? state token).map (language.peak · tokens)).getD 0)

theorem Distinct.peak_cons (distinct : language.Distinct) {state : σ}
    {terminal : Terminal} {next : List Char → σ}
    (member : (terminal, next) ∈ language.moves state) (lexeme : List Char)
    (tokens : List Token) :
    language.peak state (⟨terminal, lexeme⟩ :: tokens) =
      max (language.depth state (⟨terminal, lexeme⟩ :: tokens))
        (language.peak (next lexeme) tokens) := by
  rw [peak, distinct.step?_eq member]
  rfl

theorem Distinct.fault?_eq_none_iff (distinct : language.Distinct)
    {state final : σ} {tokens : List Token}
    (path : language.Path state tokens final) :
    language.fault? state tokens = none ↔
      language.peak state tokens ≤ nestingLimit ∧
        ∀ token ∈ tokens, token.error? = none := by
  induction path with
  | nil => simp [fault?, peak]
  | @cons terminal next state final tokens lexeme member _ ih =>
      rw [fault?, distinct.step?_eq member, Option.bind_some,
        distinct.peak_cons member, Nat.max_le, List.forall_mem_cons,
        ← and_and_and_comm, ← ih]
      split
      · rename_i deep
        simp [Nat.not_le.mpr deep]
      · rename_i shallow
        simp [Nat.le_of_not_lt shallow]

/-- The tokens are read as the value, and the deepest of all places along them
lies that deep. -/
def Measures (language : Language σ α) (tokens : List Token) (value : α)
    (height : Nat) : Prop :=
  ∃ final, language.Path language.start tokens final ∧
    language.value? final = some value ∧
    language.peak language.start tokens = height

theorem Measures.unique {tokens : List Token} {value value' : α}
    {height height' : Nat} (measures : language.Measures tokens value height)
    (measures' : language.Measures tokens value' height') :
    height = height' := by
  obtain ⟨_, _, _, rfl⟩ := measures
  obtain ⟨_, _, _, rfl⟩ := measures'
  rfl

section Measure

variable {grammar : List Token → α → Prop} {tokens : List Token} {value : α}
  (recognises : language.Recognises grammar)
include recognises

theorem Recognises.exists_measures (derivation : grammar tokens value) :
    ∃ height, language.Measures tokens value height := by
  obtain ⟨final, path, finished⟩ := (recognises tokens value).mp derivation
  exact ⟨_, final, path, finished, rfl⟩

theorem Recognises.of_measures {height : Nat}
    (measures : language.Measures tokens value height) :
    grammar tokens value := by
  obtain ⟨final, path, finished, _⟩ := measures
  exact (recognises tokens value).mpr ⟨final, path, finished⟩

end Measure

/-- A reading has no fault exactly if its deepest place lies within the limit and
its numbers have a value. -/
theorem Distinct.fault?_iff_of_measures (distinct : language.Distinct)
    {tokens : List Token} {value : α} {height : Nat}
    (measures : language.Measures tokens value height) :
    language.fault? language.start tokens = none ↔
      height ≤ nestingLimit ∧ ∀ token ∈ tokens, token.error? = none := by
  obtain ⟨final, path, _, rfl⟩ := measures
  exact distinct.fault?_eq_none_iff path

/-! ### Places whose depth shows at once -/

/-- The tokens lead from one place to another, and the deepest of all places
along them, the last included, lies that deep. -/
inductive Climbs (language : Language σ α) :
    σ → List Token → σ → Nat → Prop where
  | nil (state : σ) :
      Climbs language state [] state (language.depth state [])
  | cons {terminal : Terminal} {next : List Char → σ} {state final : σ}
      {tokens : List Token} {height : Nat} (lexeme : List Char) :
      (terminal, next) ∈ language.moves state →
      Climbs language (next lexeme) tokens final height →
      Climbs language state (⟨terminal, lexeme⟩ :: tokens) final
        (max (language.depth state []) height)

namespace Climbs

variable {state middle final : σ} {tokens front back : List Token}
  {height height' : Nat}

theorem path (climbs : language.Climbs state tokens final height) :
    language.Path state tokens final := by
  induction climbs with
  | nil => exact .nil _
  | cons lexeme member _ ih => exact .cons lexeme member ih

theorem depth_le (climbs : language.Climbs state tokens final height) :
    language.depth state [] ≤ height := by
  cases climbs with
  | nil => exact Nat.le_refl _
  | cons => exact Nat.le_max_left _ _

theorem last_le (climbs : language.Climbs state tokens final height) :
    language.depth final [] ≤ height := by
  induction climbs with
  | nil => exact Nat.le_refl _
  | cons _ _ _ ih => exact Nat.le_trans ih (Nat.le_max_right _ _)

theorem append (first : language.Climbs state front middle height)
    (second : language.Climbs middle back final height') :
    language.Climbs state (front ++ back) final (max height height') := by
  induction first with
  | nil =>
      rw [Nat.max_eq_right second.depth_le]
      exact second
  | cons lexeme member _ ih =>
      rw [Nat.max_assoc]
      exact .cons lexeme member (ih second)

/-- Where the depth of places does not depend on what lies ahead, the deepest
place along the tokens shows at once. -/
theorem peak_eq (climbs : language.Climbs state tokens final height)
    (distinct : language.Distinct)
    (steady : ∀ state ahead,
      language.depth state ahead = language.depth state []) :
    language.peak state tokens = height := by
  induction climbs with
  | nil => rfl
  | cons lexeme member _ ih =>
      rw [distinct.peak_cons member, steady _ (_ :: _), ih]

end Climbs

end TemplateSyntax.Language
