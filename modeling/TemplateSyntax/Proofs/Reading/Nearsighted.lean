import TemplateSyntax.Proofs.Reading.Acceptance
import TemplateSyntax.Proofs.Terminal.Digit
import TemplateSyntax.Proofs.Terminal.Unvalued

/-!
# Texts that begin alike

A reader that looks ahead does not look behind a digit.  So when two texts begin
alike up to the end of a number of the one, the other has the same tokens in
front of the number, and its own number there begins with that number
(`Foresees.number_kept`).
-/

namespace TemplateSyntax.Language

variable {σ α : Type} {language : Language σ α} {triggers : Triggers}

/-- What stands behind a digit does not matter for the terminal the text calls
for, if that terminal can be read. -/
def Nearsighted (language : Language σ α) (triggers : Triggers)
    (ahead : σ → List Char → Terminal) : Prop :=
  ∀ ⦃state terminal next front digit back more⦄,
    Unicode.isDecimal digit = true →
    (terminal, next) ∈ language.moves state →
    (terminal.scan triggers (front ++ digit :: more)).isSome = true →
    terminal = ahead state (front ++ digit :: back) →
    terminal = ahead state (front ++ digit :: more)

variable {ahead : σ → List Char → Terminal}

/-- The first token of a reading has the terminal the text calls for. -/
theorem Foresees.exists_first (foresees : language.Foresees triggers ahead)
    {state : σ} {text : List Char} {tokens : List Token} {value : α}
    (member : (tokens, value) ∈ language.readings triggers state text)
    (proper : text ≠ []) :
    ∃ next lexeme rest others,
      tokens = ⟨ahead state text, lexeme⟩ :: others ∧
      (ahead state text, next) ∈ language.moves state ∧
      (ahead state text).scan triggers text = some (lexeme, rest) ∧
      (others, value) ∈ language.readings triggers (next lexeme) rest := by
  cases tokens with
  | nil => exact absurd (mem_readings_nil_iff.mp member).1 proper
  | cons token tokens =>
      obtain ⟨terminal, lexeme⟩ := token
      obtain ⟨next, rest, move, read, later⟩ := mem_readings_cons_iff.mp member
      obtain rfl : terminal = ahead state text :=
        foresees _ (completes_advancing language triggers) _ _ _ _ _ _ move
          read fun _ => ⟨tokens, value, later⟩
      exact ⟨next, lexeme, rest, tokens, rfl, move, read, later⟩

/-- Two texts that agree up to a digit are read alike at first, if the first
terminal of the one can be read in the other. -/
theorem Foresees.first_kept (foresees : language.Foresees triggers ahead)
    (distinct : language.Distinct)
    (nearsighted : language.Nearsighted triggers ahead) {state : σ}
    {terminal : Terminal} {lexeme front back more : List Char} {digit : Char}
    {tokens tokens' : List Token} {value value' : α}
    (decimal : Unicode.isDecimal digit = true)
    (member : (⟨terminal, lexeme⟩ :: tokens, value) ∈
      language.readings triggers state (front ++ digit :: back))
    (reads : (terminal.scan triggers (front ++ digit :: more)).isSome = true)
    (member' : (tokens', value') ∈
      language.readings triggers state (front ++ digit :: more)) :
    ∃ (next : List Char → σ) (rest lexeme' rest' : List Char)
      (others : List Token),
      terminal.scan triggers (front ++ digit :: back) = some (lexeme, rest) ∧
      (tokens, value) ∈ language.readings triggers (next lexeme) rest ∧
      tokens' = ⟨terminal, lexeme'⟩ :: others ∧
      terminal.scan triggers (front ++ digit :: more) =
        some (lexeme', rest') ∧
      (others, value') ∈ language.readings triggers (next lexeme') rest' := by
  obtain ⟨next, _, rest, _, firstEq, move, read, later⟩ :=
    foresees.exists_first member (by simp)
  obtain ⟨next', lexeme', rest', others, tokensEq, move', read', later'⟩ :=
    foresees.exists_first member' (by simp)
  rw [List.cons.injEq, Token.mk.injEq] at firstEq
  obtain ⟨⟨called, rfl⟩, rfl⟩ := firstEq
  rw [← called] at move read
  have called' := nearsighted decimal move reads called
  rw [← called'] at tokensEq move' read'
  obtain rfl := distinct.next_eq move move'
  exact ⟨next, rest, lexeme', rest', others, read, later, tokensEq, read',
    later'⟩

/-- A number is read first in every text that begins with it. -/
theorem Foresees.first_number_kept (foresees : language.Foresees triggers ahead)
    (distinct : language.Distinct)
    (nearsighted : language.Nearsighted triggers ahead)
    {behind tokens : List Token} {number more : List Char} {state : σ}
    {value value' : α}
    (member : (⟨.number, number⟩ :: behind, value) ∈
      language.readings triggers state
        (number ++ behind.flatMap Token.lexeme))
    (member' : (tokens, value') ∈
      language.readings triggers state (number ++ more)) :
    ∃ longer others, tokens = ⟨.number, longer⟩ :: others ∧
      number <+: longer := by
  obtain ⟨_, _, _, scanned, _⟩ := mem_readings_cons_iff.mp member
  have read : Scan.number _ = some (number, [] ++ _) := scanned
  have alone := Scan.Cuts.number read
  rw [List.append_nil] at alone
  obtain ⟨front, digit, numberEq, decimal⟩ := Scan.exists_last_of_number read
  have split (back : List Char) : number ++ back = front ++ digit :: back := by
    simp [numberEq]
  have reads := Scan.isSome_number_append alone more
  rw [split] at member member' reads
  obtain ⟨_, _, longer, _, others, _, _, tokensEq, goesOn, _⟩ :=
    foresees.first_kept distinct nearsighted decimal member reads member'
  rw [← split] at goesOn
  exact ⟨longer, others, tokensEq,
    Scan.Cuts.number.isPrefix Scan.Faithful.number alone goesOn⟩

/-- The tokens in front of a number are kept when the text behind the number
changes; the number itself may go on.  The induction is on the tokens in front
of it: each of them is read the same, since the last digit of the number stands
behind it. -/
theorem Foresees.number_kept (foresees : language.Foresees triggers ahead)
    (distinct : language.Distinct)
    (nearsighted : language.Nearsighted triggers ahead)
    {before behind tokens : List Token} {number text more : List Char}
    {state : σ} {value value' : α}
    (member : (before ++ ⟨.number, number⟩ :: behind, value) ∈
      language.readings triggers state text)
    (member' : (tokens, value') ∈ language.readings triggers state
      (before.flatMap Token.lexeme ++ (number ++ more))) :
    ∃ longer others, tokens = before ++ ⟨.number, longer⟩ :: others ∧
      number <+: longer := by
  induction before generalizing state text tokens with
  | nil =>
      have laid := (Language.mem_readings_iff.mp member).1
      have textEq : text = number ++ behind.flatMap Token.lexeme := by
        simpa using laid.text_eq
      rw [textEq] at member
      exact foresees.first_number_kept distinct nearsighted member member'
  | cons token before ih =>
      obtain ⟨terminal, lexeme⟩ := token
      obtain ⟨_, rest, _, read, later⟩ := mem_readings_cons_iff.mp member
      have laid := (Language.mem_readings_iff.mp later).1
      obtain ⟨_, left, scanned⟩ := laid.exists_scan List.mem_append_cons_self
      have numberRead : Scan.number _ = some (number, left) := scanned
      obtain ⟨front, digit, numberEq, decimal⟩ :=
        Scan.exists_last_of_number numberRead
      have restEq : rest = (before.flatMap Token.lexeme ++ front) ++
          digit :: behind.flatMap Token.lexeme := by
        simpa [numberEq] using laid.text_eq
      have moreEq : before.flatMap Token.lexeme ++ (number ++ more) =
          (before.flatMap Token.lexeme ++ front) ++ digit :: more := by
        simp [numberEq]
      rw [restEq] at read
      have again := Terminal.boundedByDigit_scan terminal triggers more decimal
        read
      rw [Terminal.scan_eq_append read, ← List.append_assoc] at member
      rw [List.flatMap_cons, List.append_assoc, moreEq,
        ← List.append_assoc] at member'
      rw [← List.append_assoc] at again
      obtain ⟨_, _, _, _, _, _, behindFirst, rfl, goesOn, further⟩ :=
        foresees.first_kept distinct nearsighted decimal member
          (Option.isSome_of_eq_some again) member'
      rw [again] at goesOn
      cases goesOn
      rw [← moreEq] at further
      obtain ⟨longer, others, rfl, begins⟩ := ih behindFirst further
      exact ⟨longer, others, rfl, begins⟩

end TemplateSyntax.Language
