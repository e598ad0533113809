import TemplateSyntax.Proofs.Reading.Acceptance
import TemplateSyntax.Proofs.Reading.Viable
import TemplateSyntax.Proofs.Terminal.Hint

/-!
# Where a text is refused

A text without a derivation is refused at the furthest place that tokens reach
with which a derivation still begins, and the hint lists the terminals that
could have gone on there.  `Pinpoints` says so of a diagnostic in terms of the
grammar alone, and `pinpoints_iff` that a reader answers exactly the texts
without a derivation in this way.
-/

namespace TemplateSyntax

section Grammar

variable {α : Type} (grammar : List Token → α → Prop) (triggers : Triggers)
  (text : List Char) (position : Nat)

/-- No tokens with which a derivation begins reach beyond the position, and some
reach it. -/
def FurthestReach : Prop :=
  (∃ tokens, Reaches grammar triggers text tokens position) ∧
    ∀ tokens other, Reaches grammar triggers text tokens other →
      other ≤ position

/-- A derivation begins with tokens that reach the position and the terminal
behind them. -/
def GoesOn (terminal : Terminal) : Prop :=
  ∃ tokens, Reaches grammar triggers text tokens position ∧
    Viable grammar (tokens.map Token.terminal ++ [terminal])

end Grammar

/-- The diagnostic shows a position of its source: the character that stands
there, or the end of the source. -/
def Diagnostic.Shows (diagnostic : Diagnostic) (position : Nat) : Prop :=
  match diagnostic.source.chars[position]? with
  | some c =>
      diagnostic.span = Span.single position ∧
        diagnostic.message = "unexpected character " ++ Text.quoted c.toString
  | none =>
      diagnostic.span = Span.point diagnostic.source.length ∧
        diagnostic.message = "unexpected end of input"

/-- The diagnostic shows the furthest position that can be reached in its source
and lists what could have gone on there. -/
structure Pinpoints {α : Type} (grammar : List Token → α → Prop)
    (triggers : Triggers) (source : Source) (diagnostic : Diagnostic)
    (position : Nat) : Prop where
  source_eq : diagnostic.source = source
  furthest : FurthestReach grammar triggers source.chars position
  shows : diagnostic.Shows position
  hint : ∃ listed, Terminal.InNameOrder listed ∧
    (∀ terminal, terminal ∈ listed ↔
      GoesOn grammar triggers source.chars position terminal) ∧
    diagnostic.hint = Terminal.hintText (Terminal.summary listed)

theorem Diagnostic.Shows.unexpected {diagnostic : Diagnostic} {position : Nat}
    (shows : diagnostic.Shows position) :
    (ParseError.atPlace diagnostic).Unexpected := by
  rw [Diagnostic.Shows] at shows
  split at shows
  · rename_i c _
    exact .inr ⟨c, shows.2⟩
  · exact .inl shows.2

namespace Failure

theorem shows_diagnostic {source : Source} {position : Nat}
    {expected : List Terminal} (inside : position ≤ source.length) :
    ((Failure.unexpected position source.chars[position]? expected).diagnostic
      source).Shows position := by
  rw [Diagnostic.Shows]
  show match source.chars[position]? with | some c => _ | none => _
  split
  · rename_i c found
    rw [found]
    exact ⟨rfl, rfl⟩
  · rename_i ended
    rw [ended]
    have atEnd : position = source.length :=
      Nat.le_antisymm inside (List.getElem?_eq_none_iff.mp ended)
    exact ⟨congrArg Span.point atEnd, rfl⟩

end Failure

namespace Language.Recognises

variable {σ τ α : Type} {language : Language σ α}
  {grammar : List Token → α → Prop} {shape : σ → τ} {triggers : Triggers}

/-- Where no reading goes on, the diagnostic pinpoints the place. -/
theorem pinpoints_unexpected (recognises : language.Recognises grammar)
    (completable : language.Completable) (shaped : language.Shaped shape)
    (source : Source) :
    ∃ position, Pinpoints grammar triggers source
      ((language.unexpected triggers source.chars).diagnostic source)
      position := by
  let stops := language.stops triggers language.start source.chars
  refine ⟨source.chars.length - Stop.leastLeft stops, rfl,
    recognises.furthest_position completable shaped,
    Failure.shows_diagnostic (Nat.sub_le _ _), ?_⟩
  obtain ⟨listed, ordered, members, hint⟩ :=
    Terminal.hint_eq (Stop.furthest stops).expected
  refine ⟨listed, ordered, ?_, hint⟩
  intro terminal
  rw [members]
  exact recognises.mem_expected_furthest_iff completable shaped terminal

/-- The texts refused at a pinpointed place are those without a derivation. -/
theorem pinpoints_iff (recognises : language.Recognises grammar)
    (unambiguous : Unambiguous grammar triggers)
    (completable : language.Completable) (shaped : language.Shaped shape)
    (source : Source) :
    (∃ diagnostic position,
        language.parse triggers source = .error (.atPlace diagnostic) ∧
          Pinpoints grammar triggers source diagnostic position) ↔
      ¬∃ value, Derivable grammar triggers source.chars value := by
  constructor
  · rintro ⟨diagnostic, position, answer, pinpoints⟩
    exact recognises.not_derivable_of_unexpected unambiguous answer
      pinpoints.shows.unexpected
  · intro underivable
    have pinpointed : ∃ position, Pinpoints grammar triggers source
        ((language.unexpected triggers source.chars).diagnostic source)
        position :=
      recognises.pinpoints_unexpected completable shaped source
    obtain ⟨position, pinpoints⟩ := pinpointed
    exact ⟨_, position, recognises.parse_of_not_derivable underivable,
      pinpoints⟩

end Language.Recognises

end TemplateSyntax
