import TemplateSyntax.Proofs.Terminal.Onward

/-!
# Where a line may be cut

Of the rules of lines, too, all but one read the same in front of any beginning
of what follows (`Terminal.cuts_scan_of_ne`); so the tokens of an item that is not
finished can stand alone (`Laid.cutOff`).  A stray value trigger is told from one
at the end of a line by what follows it.  So where it may be among the tokens,
some of the text behind them is kept (`Laid.cutBehind`).
-/

namespace TemplateSyntax

namespace Scan

variable {first second scan : Scan}

theorem Persists.orElse (left : first.Persists) (right : second.Persists) :
    (first.orElse second).Persists := by
  have isSome_orElse (text : List Char) :
      (first.orElse second text).isSome =
        ((first text).isSome || (second text).isSome) := by
    rw [Scan.orElse]
    cases first text <;> rfl
  intro text more read
  rw [isSome_orElse, Bool.or_eq_true] at read ⊢
  exact read.imp (left more) (right more)

namespace Cuts

theorem lineEnd_optional : lineEnd.optional.Cuts := by
  have persists : (Scan.word ['\r', '\n']).Persists :=
    (Rigid.word ['\r', '\n']).persists
  have cuts : lineEnd.Cuts :=
    .orElse (.word _) (.char '\n') persists (Faithful.char _)
  exact cuts.optional (persists.orElse (Rigid.char '\n').persists)

theorem absorbing (cuts : scan.Cuts) : scan.absorbing.Cuts :=
  cuts.andThen lineEnd_optional (Faithful.optional Faithful.lineEnd)

theorem before {ahead : List Char → Bool} (cuts : scan.Cuts)
    (less : ∀ rest back, ahead (rest ++ back) = true → ahead rest = true) :
    (scan.before ahead).Cuts := by
  intro text lexeme rest back read
  obtain ⟨answer, seen⟩ := before_eq_some_iff.mp read
  exact before_eq_some_iff.mpr ⟨cuts answer, less rest back seen⟩

theorem before_notAhead (accepts : Char → Bool) (cuts : scan.Cuts) :
    (scan.before (notAhead accepts)).Cuts := by
  refine cuts.before fun rest back seen => ?_
  cases rest with
  | nil => rfl
  | cons c rest => exact seen

theorem before_atLineEnd (cuts : scan.Cuts) :
    (scan.before atLineEnd).Cuts := by
  refine cuts.before fun rest back seen => ?_
  cases rest with
  | nil => rfl
  | cons c rest => exact seen

theorem keyword (word : Keyword) : (Scan.keyword word).Cuts := by
  have plain := before_notAhead isNameChar (Cuts.word word.spelling.toList)
  rw [Scan.keyword]
  split
  · exact plain.andThen (many _) (Faithful.many _)
  · exact plain

end Cuts

/-- What the rule reads, it also reads when the text ends somewhere behind the
character that follows. -/
def CutsBehind (scan : Scan) : Prop :=
  ∀ ⦃text lexeme rest back : List Char⦄ ⦃c : Char⦄,
    scan text = some (lexeme, rest ++ c :: back) →
    scan (lexeme ++ (rest ++ [c])) = some (lexeme, rest ++ [c])

theorem Cuts.behind (cuts : scan.Cuts) : scan.CutsBehind := by
  intro text lexeme rest back c read
  rw [List.append_cons] at read
  exact cuts read

theorem CutsBehind.before {ahead : List Char → Bool} (cuts : scan.CutsBehind)
    (near : ∀ c rest, ahead (c :: rest) = ahead [c]) :
    (scan.before ahead).CutsBehind := by
  intro text lexeme rest back c read
  obtain ⟨answer, seen⟩ := before_eq_some_iff.mp read
  refine before_eq_some_iff.mpr ⟨cuts answer, ?_⟩
  cases rest with
  | nil => rw [← seen, List.nil_append, List.nil_append, near c back]
  | cons d rest =>
      rw [List.cons_append, near] at seen
      rw [List.cons_append, near, seen]

end Scan

namespace Terminal

open Scan

variable {terminal : Terminal}

theorem cuts_scan_of_ne (other : terminal ≠ .valueBare) (triggers : Triggers) :
    (terminal.scan triggers).Cuts := by
  cases terminal with
  | literal => exact .some1 _
  | valueOpen => exact .word _
  | valueClose => exact .blanksThen _ (.char '}') (Faithful.char _)
  | valueEscape => exact .word _
  | valueAtLineEnd => exact (Cuts.char _).before_atLineEnd
  | valueBare => exact absurd rfl other
  | controlOpen => exact .andThen (.word _) (.many _) (Faithful.many _)
  | controlClose =>
      exact (Cuts.blanksThen _ (.char '}') (Faithful.char _)).absorbing
  | controlEscape => exact (Cuts.word _).absorbing
  | controlBare => exact ((Cuts.char _).before_notAhead _).absorbing
  | keyword word => exact .keyword word
  | arrow =>
      exact .blanksThen _ (.andThen (.word _) (.many _) (Faithful.many _))
        (Faithful.andThen (Faithful.word _) (Faithful.many _))
  | _ => exact cuts_scan rfl triggers

theorem cutsBehind_scan (terminal : Terminal) (triggers : Triggers) :
    (terminal.scan triggers).CutsBehind := by
  by_cases bare : terminal = .valueBare
  · subst bare
    exact (Cuts.char _).behind.before fun _ _ => rfl
  · exact (cuts_scan_of_ne bare triggers).behind

end Terminal

namespace Laid

variable {triggers : Triggers} {text rest back : List Char}
  {tokens : List Token}

/-- Tokens can stand alone, unless one of them is a stray value trigger. -/
theorem cutOff (laid : Laid triggers text tokens rest)
    (other : ∀ token ∈ tokens, token.terminal ≠ .valueBare) :
    Laid triggers (tokens.flatMap Token.lexeme) tokens [] := by
  induction laid with
  | nil => exact .nil []
  | cons read later ih =>
      rw [List.forall_mem_cons] at other
      rw [later.text_eq] at read
      exact .cons (Terminal.cuts_scan_of_ne other.1 triggers read) (ih other.2)

/-- Tokens are laid as before in a text that ends behind a character that follows
them. -/
theorem cutBehind {c : Char} (laid : Laid triggers text tokens (rest ++ c :: back)) :
    Laid triggers (tokens.flatMap Token.lexeme ++ (rest ++ [c])) tokens
      (rest ++ [c]) := by
  generalize behind : rest ++ c :: back = left at laid
  induction laid with
  | nil => exact .nil _
  | @cons terminal text lexeme middle left tokens read later ih =>
      rw [later.text_eq, ← behind, ← List.append_assoc] at read
      have begun := Terminal.cutsBehind_scan terminal triggers read
      rw [List.append_assoc] at begun
      rw [List.flatMap_cons, List.append_assoc]
      exact .cons begun (ih behind)

end Laid

end TemplateSyntax
