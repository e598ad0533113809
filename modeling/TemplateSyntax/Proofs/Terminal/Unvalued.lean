import Mathlib.Data.List.TakeWhile
import TemplateSyntax.Proofs.Terminal.Cut
import TemplateSyntax.Proofs.Terminal.Number

/-!
# Numbers that go on

A number is read to its end: in front of more text at least as much is read as of
the number alone (`Scan.Cuts.isPrefix`).  But a number without a value has none
either when it goes on, because no digit and no run of digits is taken back
(`Token.error?_of_isPrefix`).
-/

namespace TemplateSyntax

namespace Scan

/-- In front of more text a rule reads at least what it reads of a whole word. -/
theorem Cuts.isPrefix {scan : Scan} (cuts : scan.Cuts)
    (faithful : scan.Faithful) {word more lexeme rest : List Char}
    (alone : scan word = some (word, []))
    (read : scan (word ++ more) = some (lexeme, rest)) : word <+: lexeme := by
  have split := faithful read
  rcases List.append_eq_append_iff.mp split with
    ⟨back, lexemeEq, _⟩ | ⟨back, wordEq, restEq⟩
  · exact ⟨back, lexemeEq.symm⟩
  · -- less would be read of the word alone, too
    rw [restEq] at read
    have begun := cuts read
    rw [← wordEq, alone, Option.some.injEq, Prod.mk.injEq] at begun
    exact ⟨[], by rw [List.append_nil, begun.1]⟩

theorem isSome_optional (scan : Scan) (text : List Char) :
    (scan.optional text).isSome = true := by
  rw [Scan.optional, Scan.orElse]
  cases scan text <;> rfl

theorem isSome_number {sign rest : List Char} {digit : Char}
    (signed : sign = [] ∨ sign = ['-'])
    (decimal : Unicode.isDecimal digit = true) :
    (number (sign ++ digit :: rest)).isSome = true := by
  have skipped : (char '-').optional (sign ++ digit :: rest) =
      some (sign, digit :: rest) := by
    rcases signed with rfl | rfl
    · have other : digit ≠ '-' := by
        rintro rfl
        exact not_mem_marks_of_isDecimal decimal (by decide)
      simp [optional, orElse, char, one, other, word]
    · rfl
  have read : digits (digit :: rest) =
      some (digit :: rest.takeWhile Unicode.isDecimal,
        rest.dropWhile Unicode.isDecimal) :=
    some1_eq_some_iff.mpr ⟨digit, rest, rfl, decimal, rfl, rfl⟩
  rw [number, isSome_andThen skipped, isSome_andThen read]
  exact isSome_optional _ _

theorem isSome_number_append {text lexeme rest : List Char}
    (read : number text = some (lexeme, rest)) (more : List Char) :
    (number (lexeme ++ more)).isSome = true := by
  obtain ⟨sign, whole, fraction, rfl, signed, digits, _⟩ :=
    exists_of_number read
  obtain ⟨digit, others, rfl⟩ := List.exists_cons_of_ne_nil digits.1
  have decimal := digits.2 digit List.mem_cons_self
  simpa using isSome_number signed decimal

theorem exists_last_of_number {text lexeme rest : List Char}
    (read : number text = some (lexeme, rest)) :
    ∃ front digit, lexeme = front ++ [digit] ∧
      Unicode.isDecimal digit = true := by
  have last {run : List Char} (digits : DigitRun run) :
      ∃ front digit, run = front ++ [digit] ∧
        Unicode.isDecimal digit = true := by
    obtain ⟨front, digit, rfl⟩ := (List.eq_nil_or_concat run).resolve_left digits.1
    exact ⟨front, digit, List.concat_eq_append, digits.2 digit (by simp)⟩
  obtain ⟨sign, whole, fraction, rfl, _, digits, pointed⟩ :=
    exists_of_number read
  rcases pointed with rfl | ⟨run, rfl, more⟩
  · obtain ⟨front, digit, rfl, decimal⟩ := last digits
    exact ⟨sign ++ front, digit, by simp, decimal⟩
  · obtain ⟨front, digit, rfl, decimal⟩ := last more
    exact ⟨sign ++ whole ++ '.' :: front, digit, by simp, decimal⟩

end Scan

namespace NumberLiteral

def runs (literal : NumberLiteral) : List (List Char) :=
  literal.whole :: literal.fraction.toList

/-- A literal has a value if its digits have one and its runs are short. -/
theorem error?_eq_none_iff {literal : NumberLiteral} :
    literal.error? = none ↔
      ∀ run ∈ literal.runs, valued run = true ∧ run.length ≤ digitLimit := by
  have short_iff (run : List Char) :
      lengthError? run = none ↔ run.length ≤ digitLimit := by
    rw [lengthError?]
    split <;> simp <;> omega
  cases point : literal.fraction with
  | none =>
      have whole (all : valued literal.whole = true) :
          literal.whole.takeWhile Unicode.hasDigitValue = literal.whole :=
        List.takeWhile_eq_self_iff.mpr (List.all_eq_true.mp all)
      rw [error?, point]
      by_cases all : valued literal.whole = true
      · simp [integerError?, runs, point, all, whole all, short_iff]
      · simp [integerError?, runs, point, all]
  | some fraction =>
      rw [error?, point]
      by_cases all : (valued literal.whole && valued fraction) = true
      · have both := Bool.and_eq_true_iff.mp all
        simp [rationalError?, runs, point, both, short_iff]
      · have either : ¬(valued literal.whole = true ∧ valued fraction = true) :=
          fun both => all (Bool.and_eq_true_iff.mpr both)
        simp only [rationalError?, if_neg all, runs, point, reduceCtorEq,
          Option.toList_some, List.forall_mem_cons, false_iff]
        rintro ⟨first, second, _⟩
        exact either ⟨first.1, second.1⟩

/-- The runs of a number without its sign. -/
def runsOf (unsigned : List Char) : List (List Char) :=
  unsigned.takeWhile Unicode.isDecimal ::
    match unsigned.dropWhile Unicode.isDecimal with
    | [] => []
    | _ :: fraction => [fraction]

theorem runs_ofLexeme (lexeme : List Char) :
    (ofLexeme lexeme).runs =
      runsOf (if lexeme.head? = some '-' then lexeme.tail else lexeme) := by
  rw [runs, ofLexeme, runsOf]
  generalize (if lexeme.head? = some '-' then lexeme.tail else lexeme) =
    unsigned
  cases rest : unsigned.dropWhile Unicode.isDecimal <;> rfl

theorem exists_longer_run {unsigned run : List Char}
    (member : run ∈ runsOf unsigned) (more : List Char) :
    ∃ longer ∈ runsOf (unsigned ++ more), run <+: longer := by
  have split := List.takeWhile_append_dropWhile (p := Unicode.isDecimal)
    (l := unsigned)
  rw [runsOf] at member ⊢
  rw [List.takeWhile_append, List.dropWhile_append]
  cases rest : unsigned.dropWhile Unicode.isDecimal with
  | nil =>
      rw [rest, List.append_nil] at split
      rw [rest, split, List.mem_singleton] at member
      rw [split, if_pos rfl]
      exact ⟨_, List.mem_cons_self, member ▸ List.prefix_append _ _⟩
  | cons point fraction =>
      have shorter : (unsigned.takeWhile Unicode.isDecimal).length ≠
          unsigned.length := by
        have length := congrArg List.length split
        rw [rest, List.length_append, List.length_cons] at length
        omega
      rw [rest] at member
      rw [if_neg shorter, if_neg (by simp)]
      rcases List.mem_cons.mp member with rfl | second
      · exact ⟨_, List.mem_cons_self, List.prefix_rfl⟩
      · rw [List.mem_singleton] at second
        exact ⟨fraction ++ more, by simp, second ▸ List.prefix_append _ _⟩

theorem error?_of_append {lexeme more : List Char} (proper : lexeme ≠ [])
    (valued : (ofLexeme (lexeme ++ more)).error? = none) :
    (ofLexeme lexeme).error? = none := by
  have unsigned : (if (lexeme ++ more).head? = some '-' then
      (lexeme ++ more).tail else lexeme ++ more) =
      (if lexeme.head? = some '-' then lexeme.tail else lexeme) ++ more := by
    obtain ⟨first, others, rfl⟩ := List.exists_cons_of_ne_nil proper
    by_cases minus : first = '-' <;> simp [minus]
  rw [error?_eq_none_iff, runs_ofLexeme] at valued ⊢
  rw [unsigned] at valued
  intro run member
  obtain ⟨longer, goesOn, begins⟩ := exists_longer_run member more
  obtain ⟨all, short⟩ := valued longer goesOn
  refine ⟨?_, begins.length_le.trans short⟩
  exact List.all_eq_true.mpr fun c inRun =>
    List.all_eq_true.mp all c (begins.subset inRun)

end NumberLiteral

/-- A number that goes on to one with a value has a value. -/
theorem Token.error?_of_isPrefix {lexeme longer : List Char}
    (begins : lexeme <+: longer)
    (valued : Token.error? ⟨.number, longer⟩ = none) :
    Token.error? ⟨.number, lexeme⟩ = none := by
  obtain ⟨more, rfl⟩ := begins
  cases lexeme with
  | nil => rfl
  | cons c lexeme =>
      exact NumberLiteral.error?_of_append (List.cons_ne_nil _ _) valued

end TemplateSyntax
