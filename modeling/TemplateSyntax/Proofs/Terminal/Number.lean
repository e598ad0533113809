import TemplateSyntax.Proofs.Terminal.Lookahead
import TemplateSyntax.Terminal.Number

/-!
# Numbers that have been read

The parts of a number literal are the runs of digits its rule has read
(`ofLexeme_of_scan`).  So a literal with a digit that has no value is found only
in a text in which such a digit stands.
-/

namespace TemplateSyntax

open Scan

def DigitRun (run : List Char) : Prop :=
  run ≠ [] ∧ ∀ c ∈ run, Unicode.isDecimal c = true

theorem digitRun_of_digits {text lexeme rest : List Char}
    (read : digits text = some (lexeme, rest)) : DigitRun lexeme := by
  obtain ⟨c, tail, _, decimal, rfl, _⟩ := some1_eq_some_iff.mp read
  refine ⟨List.cons_ne_nil _ _, ?_⟩
  intro digit member
  rcases List.mem_cons.mp member with rfl | later
  · exact decimal
  · exact List.all_eq_true.mp List.all_takeWhile digit later

/-- A number is a sign or none, a run of digits, and a second one behind a point
or none. -/
theorem exists_of_number {text lexeme rest : List Char}
    (read : number text = some (lexeme, rest)) :
    ∃ sign whole fraction, lexeme = sign ++ whole ++ fraction ∧
      (sign = [] ∨ sign = ['-']) ∧ DigitRun whole ∧
      (fraction = [] ∨ ∃ run, fraction = '.' :: run ∧ DigitRun run) := by
  obtain ⟨sign, _, unsigned, signRead, unsignedRead, rfl⟩ :=
    andThen_eq_some_iff.mp read
  obtain ⟨whole, _, fraction, wholeRead, fractionRead, rfl⟩ :=
    andThen_eq_some_iff.mp unsignedRead
  refine ⟨sign, whole, fraction, (List.append_assoc _ _ _).symm, ?_,
    digitRun_of_digits wholeRead, ?_⟩
  · rcases eq_or_eq_of_optional signRead with minus | ⟨rfl, _⟩
    · exact .inr (char_eq_some_iff.mp minus).1
    · exact .inl rfl
  · rcases eq_or_eq_of_optional fractionRead with behind | ⟨rfl, _⟩
    · obtain ⟨_, _, run, point, runRead, rfl⟩ := andThen_eq_some_iff.mp behind
      obtain ⟨rfl, _⟩ := char_eq_some_iff.mp point
      exact .inr ⟨run, rfl, digitRun_of_digits runRead⟩
    · exact .inl rfl

namespace NumberLiteral

theorem ofLexeme_append {sign whole fraction : List Char}
    (signed : sign = [] ∨ sign = ['-']) (digits : DigitRun whole)
    (pointed : fraction = [] ∨ ∃ run, fraction = '.' :: run ∧ DigitRun run) :
    ofLexeme (sign ++ whole ++ fraction) =
      ⟨!sign.isEmpty, whole,
        if fraction.isEmpty then none else some fraction.tail⟩ := by
  have unsigned :
      (whole ++ fraction).takeWhile Unicode.isDecimal = whole ∧
        (whole ++ fraction).dropWhile Unicode.isDecimal = fraction := by
    rw [List.takeWhile_append_of_pos digits.2, List.dropWhile_append_of_pos
      digits.2]
    rcases pointed with rfl | ⟨run, rfl, _⟩
    · simp
    · have point : Unicode.isDecimal '.' = false := by
        rw [Bool.eq_false_iff]
        intro decimal
        exact not_mem_marks_of_isDecimal decimal (by decide)
      simp [point]
  have head : (whole ++ fraction).head? ≠ some '-' := by
    obtain ⟨first, others, rfl⟩ := List.exists_cons_of_ne_nil digits.1
    have decimal := digits.2 first List.mem_cons_self
    rintro minus
    obtain rfl : first = '-' := by simpa using minus
    exact not_mem_marks_of_isDecimal decimal (by decide)
  rcases signed with rfl | rfl
  · simp only [ofLexeme, List.nil_append, if_neg head, unsigned.1, unsigned.2,
      decide_eq_false head]
    rfl
  · simp [ofLexeme, unsigned.1, unsigned.2]

end NumberLiteral

end TemplateSyntax
