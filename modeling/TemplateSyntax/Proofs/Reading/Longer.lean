import TemplateSyntax.Proofs.Reading.Lookahead

/-!
# Tokens in front of more text

Tokens in front of a closing brace are laid over a longer text as they are over
a shorter one (`Laid.extend`), and the faults along them are the same whatever
follows, if the depth of their places does not depend on it
(`fault?_append`).
-/

namespace TemplateSyntax

namespace Laid

variable {triggers : Triggers} {text rest : List Char}

theorem split {left right : List Token}
    (laid : Laid triggers text (left ++ right) rest) :
    ∃ middle, Laid triggers text left middle ∧
      Laid triggers middle right rest := by
  induction left generalizing text with
  | nil => exact ⟨text, .nil text, laid⟩
  | cons token left ih =>
      cases laid with
      | cons read later =>
          obtain ⟨middle, front, back⟩ := ih later
          exact ⟨middle, .cons read front, back⟩

theorem exists_infix (front inner : List Token) {back : List Token}
    (laid : Laid triggers text (front ++ inner ++ back) rest) :
    ∃ text rest, Laid triggers text inner rest := by
  obtain ⟨_, before, _⟩ := laid.split
  obtain ⟨_, _, inside⟩ := before.split
  exact ⟨_, _, inside⟩

/-- In front of a closing brace, more text makes no difference. -/
theorem extend {tokens : List Token} (laid : Laid triggers text tokens rest)
    (brace : '}' ∈ rest) (more : List Char) :
    Laid triggers (text ++ more) tokens (rest ++ more) := by
  induction laid with
  | nil text => exact .nil _
  | @cons terminal text lexeme middle rest tokens read later ih =>
      have inMiddle : '}' ∈ middle := by
        rw [later.text_eq]
        exact List.mem_append_right _ brace
      exact .cons (Terminal.scan_append more read inMiddle) (ih brace)

theorem eq_nil_of_nil {tokens : List Token}
    (laid : Laid triggers [] tokens rest) : tokens = [] := by
  cases laid with
  | nil => rfl
  | cons read _ =>
      exact absurd (Terminal.length_lt_of_scan read) (Nat.not_lt_zero _)

theorem rest_unique {rest' : List Char} {tokens : List Token}
    (laid : Laid triggers text tokens rest)
    (laid' : Laid triggers text tokens rest') : rest = rest' :=
  (laid.tokens_unique laid' rfl).2

end Laid

namespace Language

variable {σ α : Type} {language : Language σ α}

theorem Path.eq_of_nil {state final : σ}
    (path : language.Path state [] final) : state = final := by
  cases path
  rfl

theorem lookup_of_mem {moves : Moves σ} {terminal : Terminal}
    {next : List Char → σ} (nodup : (moves.map Prod.fst).Nodup)
    (member : (terminal, next) ∈ moves) :
    moves.lookup terminal = some next := by
  induction moves with
  | nil => cases member
  | cons move moves ih =>
      rw [List.map_cons, List.nodup_cons] at nodup
      rcases List.mem_cons.mp member with rfl | later
      · rw [List.lookup_cons_self]
      · have different : terminal ≠ move.1 := by
          rintro rfl
          exact nodup.1 (List.mem_map.mpr ⟨(move.1, next), later, rfl⟩)
        rw [List.lookup_cons, beq_false_of_ne different]
        exact ih nodup.2 later

theorem Distinct.step?_eq (distinct : language.Distinct) {state : σ}
    {terminal : Terminal} {next : List Char → σ}
    (member : (terminal, next) ∈ language.moves state)
    (lexeme : List Char) :
    language.step? state ⟨terminal, lexeme⟩ = some (next lexeme) := by
  rw [step?, lookup_of_mem (distinct state) member]
  rfl

/-- The tokens of a path determine where it ends. -/
theorem Distinct.final_unique (distinct : language.Distinct)
    {state final final' : σ} {tokens : List Token}
    (path : language.Path state tokens final)
    (path' : language.Path state tokens final') : final = final' := by
  induction path with
  | nil => exact path'.eq_of_nil
  | cons lexeme member _ ih =>
      cases path' with
      | cons _ member' later' =>
          obtain rfl := distinct.next_eq member member'
          exact ih later'

/-- The faults along tokens and what follows them, if the depth of the places
along the tokens does not depend on what follows, and the last of them is not
too deep. -/
theorem Distinct.fault?_append (distinct : language.Distinct)
    {state middle : σ} {front back : List Token}
    (path : language.Path state front middle)
    (settled : ∀ state behind, behind <:+ front → behind ≠ [] →
      language.depth state (behind ++ back) = language.depth state behind)
    (shallow : language.depth middle [] ≤ nestingLimit) :
    language.fault? state (front ++ back) =
      (language.fault? state front).or (language.fault? middle back) := by
  induction path with
  | nil state =>
      rw [fault?.eq_1, if_neg (Nat.not_lt.mpr shallow)]
      rfl
  | @cons terminal next state final tokens lexeme member later ih =>
      have shorter := ih (fun state behind suffix =>
        settled state behind (suffix.trans (List.suffix_cons _ _))) shallow
      have depth := settled state _ List.suffix_rfl (List.cons_ne_nil _ _)
      rw [List.cons_append] at depth ⊢
      rw [fault?, fault?, depth, distinct.step?_eq member]
      split
      · rfl
      · rw [Option.bind_some, Option.bind_some, shorter, Option.or_assoc]

end Language

end TemplateSyntax
