import Mathlib.Data.Nat.Digits.Lemmas
import Mathlib.Tactic.FieldSimp
import Mathlib.Tactic.Ring
import TemplateSyntax.Proofs.Alone
import TemplateSyntax.Proofs.Terminal.Spelled
import TemplateSyntax.Proofs.Terminal.Unvalued

/-!
# The values of numbers

A number stands for its sign times the decimal value of its digits, those behind
the point counted in fractions of ten, whichever scripts they are taken from.  A
literal whose runs are not too long is answered with exactly that value unless
one of its digits is only recognised and has no value (`parseExpr_number`).
-/

namespace TemplateSyntax

/-- What a digit of any script counts. -/
def Unicode.decimalValue (c : Char) : Nat :=
  (digitIn? (valuedZeros ++ recentZeros) c).getD 0

theorem Unicode.decimalValue_of_digitValue? {c : Char} {value : Nat}
    (isDigit : digitValue? c = some value) : decimalValue c = value := by
  obtain ⟨first, found, rfl⟩ := Option.map_eq_some_iff.mp isDigit
  rw [decimalValue, digitIn?, List.find?_append, found]
  rfl

/-- The number some decimal digits stand for. -/
def decimal (digits : List Nat) : Nat :=
  Nat.ofDigits 10 digits.reverse

theorem decimal_eq_foldl (digits : List Nat) :
    decimal digits = digits.foldl (fun value digit => 10 * value + digit) 0 := by
  rw [decimal, Nat.ofDigits_eq_foldr, List.foldr_reverse]
  simp [Nat.add_comm]

theorem decimal_zeros_append (count : Nat) (digits : List Nat) :
    decimal (List.replicate count 0 ++ digits) = decimal digits := by
  rw [decimal, List.reverse_append, List.reverse_replicate,
    Nat.ofDigits_append_replicate_zero, decimal]

theorem decimal_append_zeros (digits : List Nat) (count : Nat) :
    decimal (digits ++ List.replicate count 0) =
      10 ^ count * decimal digits := by
  rw [decimal, List.reverse_append, List.reverse_replicate, Nat.ofDigits_append,
    Nat.ofDigits_replicate_zero, List.length_replicate, Nat.zero_add, decimal]

namespace NumberLiteral

def digitsOf (run : List Char) : List Nat :=
  run.map Unicode.decimalValue

/-- The part of one that digits behind a point make up. -/
def fractional (digits : List Nat) : Rat :=
  decimal digits / 10 ^ digits.length

/-- The factor that the sign of a literal is. -/
def signum (literal : NumberLiteral) : Int :=
  if literal.negative then -1 else 1

/-- The number a literal stands for. -/
def value (literal : NumberLiteral) : Expr :=
  let whole := decimal (digitsOf literal.whole)
  match literal.fraction with
  | none => .integer (literal.signum * whole)
  | some run => .rational (literal.signum * (whole + fractional (digitsOf run)))

/-- The literal is made of runs of digits that are not too long. -/
def Proper (literal : NumberLiteral) : Prop :=
  ∀ run ∈ literal.runs, DigitRun run ∧ run.length ≤ digitLimit

def Valued (literal : NumberLiteral) : Prop :=
  ∀ run ∈ literal.runs, valued run = true

instance (run : List Char) : Decidable (DigitRun run) :=
  decidable_of_iff (run ≠ [] ∧ run.all Unicode.isDecimal = true)
    (and_congr_right fun _ => List.all_eq_true)

instance (literal : NumberLiteral) : Decidable literal.Proper :=
  inferInstanceAs <| Decidable <|
    ∀ run ∈ literal.runs, DigitRun run ∧ run.length ≤ digitLimit

instance (literal : NumberLiteral) : Decidable literal.Valued :=
  inferInstanceAs <| Decidable <| ∀ run ∈ literal.runs, valued run = true

/-- Why a literal with a digit without a value is refused. -/
def unknown (literal : NumberLiteral) : NumberError :=
  match literal.fraction with
  | none => .unknownInteger literal.text
  | some _ => .unknownRational literal.text

/-- The literals differ only in zeros in front, in zeros at the end of their
fractions and in the scripts of their digits. -/
structure Alike (literal other : NumberLiteral) : Prop where
  sign : literal.negative = other.negative
  whole : ∃ m n, List.replicate m 0 ++ digitsOf literal.whole =
    List.replicate n 0 ++ digitsOf other.whole
  fraction : Option.Rel
    (fun run run' => ∃ m n, digitsOf run ++ List.replicate m 0 =
      digitsOf run' ++ List.replicate n 0)
    literal.fraction other.fraction

/-! ### The value that is computed -/

theorem digitsValue_eq {run : List Char} (all : valued run = true) :
    digitsValue run = decimal (digitsOf run) := by
  rw [digitsValue, decimal_eq_foldl, digitsOf, List.foldl_map]
  apply List.foldl_ext
  intro value c member
  obtain ⟨digit, isDigit⟩ :=
    Option.isSome_iff_exists.mp (List.all_eq_true.mp all c member)
  rw [isDigit, Unicode.decimalValue_of_digitValue? isDigit, Option.getD_some]

theorem numerator_eq (literal : NumberLiteral) :
    literal.numerator = literal.signum * literal.magnitude := by
  rw [numerator, signum]
  split <;> simp

theorem ofNumber_of_valued {literal : NumberLiteral} (all : literal.Valued) :
    Expr.ofNumber literal = literal.value := by
  have whole := digitsValue_eq (all literal.whole List.mem_cons_self)
  rw [Expr.ofNumber, value]
  cases point : literal.fraction with
  | none =>
      have magnitude :
          literal.magnitude = decimal (digitsOf literal.whole) := by
        rw [NumberLiteral.magnitude, point, whole]
        exact Nat.mul_one _
      simp only [numerator_eq, magnitude]
  | some run =>
      have behind := digitsValue_eq (all run (by simp [runs, point]))
      have length : (digitsOf run).length = run.length := List.length_map _
      have scale : ((Nat.pow 10 run.length : Nat) : Rat) = 10 ^ run.length := by
        rw [Nat.pow_eq]
        push_cast
        rfl
      have magnitude : (literal.magnitude : Rat) =
          (decimal (digitsOf literal.whole) + fractional (digitsOf run)) *
            10 ^ run.length := by
        rw [NumberLiteral.magnitude, point, Option.getD_some, whole, behind,
          fractional, length]
        push_cast [scale]
        field_simp
      simp only [Expr.rational.injEq]
      rw [Rat.mkRat_eq_div, numerator_eq, denominator, point, Option.getD_some,
        scale, Int.cast_mul, Int.cast_natCast, magnitude]
      field_simp

/-! ### Zeros and scripts -/

theorem fractional_append_zeros (digits : List Nat) (count : Nat) :
    fractional (digits ++ List.replicate count 0) = fractional digits := by
  rw [fractional, fractional, decimal_append_zeros, List.length_append,
    List.length_replicate]
  push_cast
  field_simp
  ring

theorem Alike.value_eq {literal other : NumberLiteral}
    (alike : literal.Alike other) : other.value = literal.value := by
  have sign : other.signum = literal.signum := by
    rw [signum, signum, alike.sign]
  have whole : decimal (digitsOf other.whole) =
      decimal (digitsOf literal.whole) := by
    obtain ⟨m, n, same⟩ := alike.whole
    rw [← decimal_zeros_append n, ← same, decimal_zeros_append]
  have fraction := alike.fraction
  rw [value, value]
  generalize literal.fraction = point at fraction
  generalize other.fraction = point' at fraction
  cases fraction with
  | none => simp only [sign, whole]
  | some rel =>
      obtain ⟨m, n, same⟩ := rel
      have behind := congrArg fractional same
      rw [fractional_append_zeros, fractional_append_zeros] at behind
      simp only [sign, whole, behind]

/-! ### The answer -/

theorem error?_of_not_valued {literal : NumberLiteral}
    (proper : literal.Proper) (bare : ¬literal.Valued) :
    literal.error? = some literal.unknown := by
  rw [error?, unknown]
  cases point : literal.fraction with
  | none =>
      have unvalued : valued literal.whole ≠ true := by
        intro all
        exact bare (by simp [Valued, runs, point, all])
      have short : (literal.whole.takeWhile Unicode.hasDigitValue).length ≤
          digitLimit :=
        (List.takeWhile_prefix _).length_le.trans
          (proper literal.whole List.mem_cons_self).2
      simp [integerError?, lengthError?, Nat.not_lt.mpr short, unvalued]
  | some run =>
      have unvalued : (valued literal.whole && valued run) ≠ true := by
        intro both
        rw [Bool.and_eq_true] at both
        exact bare (by simp [Valued, runs, point, both])
      simp only [rationalError?, if_neg unvalued]

variable {literal : NumberLiteral} (proper : literal.Proper)
include proper

theorem error?_eq_none_iff_valued : literal.error? = none ↔ literal.Valued := by
  rw [error?_eq_none_iff]
  constructor
  · intro each run member
    exact (each run member).1
  · intro all run member
    exact ⟨all run member, (proper run member).2⟩

theorem exists_laid : ∃ lexeme, literal.text = String.ofList lexeme ∧
    Laid Triggers.standard lexeme [⟨.number, lexeme⟩] [] ∧
    ofLexeme lexeme = literal := by
  obtain ⟨negative, whole, fraction⟩ := literal
  have digits : DigitRun whole := (proper whole List.mem_cons_self).1
  have signed : (if negative then ['-'] else []) = [] ∨
      (if negative then ['-'] else []) = ['-'] := by
    cases negative
    · exact .inl rfl
    · exact .inr rfl
  have pointed : fraction.elim [] ('.' :: ·) = [] ∨
      ∃ run, fraction.elim [] ('.' :: ·) = '.' :: run ∧ DigitRun run := by
    cases fraction with
    | none => exact .inl rfl
    | some run => exact .inr ⟨run, rfl, (proper run (by simp [runs])).1⟩
  have stop : Scan.notAhead Unicode.isDecimal [] = true := rfl
  have read := Scan.number_of_parts signed digits pointed stop (by simp)
  rw [List.append_nil] at read
  refine ⟨_, rfl, .cons read (.nil _), ?_⟩
  rw [ofLexeme_append signed digits pointed]
  cases negative <;> cases fraction <;> rfl

/-- A literal alone is answered with its number unless it has none. -/
theorem parseExpr_text (label : Option String) :
    parseExpr literal.text label =
      match literal.error? with
      | some error => .error (.number error)
      | none => .ok (Expr.ofNumber literal) := by
  obtain ⟨lexeme, text, laid, parts⟩ := exists_laid proper
  have expression : Expr.Grammar.Expression [⟨.number, lexeme⟩]
      (Expr.ofNumber (.ofLexeme lexeme)) :=
    .plain (.application (.operand (.fields [] (.number lexeme))))
  have fault : Expr.language.fault? Expr.language.start [⟨.number, lexeme⟩] =
      literal.error?.map .number := by
    have single : Token.error? ⟨.number, lexeme⟩ = literal.error? := by
      rw [Token.error?, if_pos rfl, parts]
    have depth :
        Expr.language.depth Expr.language.start [⟨.number, lexeme⟩] = 3 := rfl
    rw [Language.fault?, depth, if_neg (by decide), single]
    cases literal.error? <;> rfl
  rw [text, parseExpr_of_laid laid expression, fault, parts]
  cases literal.error? <;> rfl

end NumberLiteral

/-- A number whose runs of digits are not too long is answered with exactly its
value if all its digits have one, and refused otherwise; literals that differ
only in zeros that do not count and in the scripts of their digits are answered
alike. -/
theorem parseExpr_number {literal : NumberLiteral} (proper : literal.Proper)
    (label : Option String) :
    (parseExpr literal.text label = .ok literal.value ↔ literal.Valued) ∧
    (¬literal.Valued →
      parseExpr literal.text label = .error (.number literal.unknown)) ∧
    ∀ (other : NumberLiteral) label', other.Proper → literal.Alike other →
      literal.Valued → other.Valued →
      parseExpr other.text label' = parseExpr literal.text label := by
  have answer {literal : NumberLiteral} (proper : literal.Proper)
      (all : literal.Valued) (label : Option String) :
      parseExpr literal.text label = .ok literal.value := by
    rw [literal.parseExpr_text proper,
      (NumberLiteral.error?_eq_none_iff_valued proper).mpr all,
      NumberLiteral.ofNumber_of_valued all]
  have refusal (bare : ¬literal.Valued) :
      parseExpr literal.text label = .error (.number literal.unknown) := by
    rw [literal.parseExpr_text proper,
      NumberLiteral.error?_of_not_valued proper bare]
  refine ⟨⟨?_, fun all => answer proper all label⟩, refusal, ?_⟩
  · intro accepted
    by_contra bare
    rw [refusal bare] at accepted
    cases accepted
  · intro other label' proper' alike all all'
    rw [answer proper' all', answer proper all, alike.value_eq]

/-- Minus a half with digits of two scripts, and a digit without a value. -/
theorem parseExpr_number_half :
    parseExpr "-0.5" none = .ok (.rational (-1 / 2)) ∧
      parseExpr "-\u06600.\u06650" none = parseExpr "-0.5" none ∧
      parseExpr (String.ofList [Char.ofNat 0x11F51]) none =
        .error (.number
          (.unknownInteger (String.ofList [Char.ofNat 0x11F51]))) := by
  let half : NumberLiteral := ⟨true, ['0'], some ['5']⟩
  let padded : NumberLiteral :=
    ⟨true, ['\u0660', '0'], some ['\u0665', '0']⟩
  let recent : NumberLiteral := ⟨false, [Char.ofNat 0x11F51], none⟩
  have halfText : half.text = "-0.5" := by decide
  have paddedText : padded.text = "-\u06600.\u06650" := by decide
  have recentText : recent.text = String.ofList [Char.ofNat 0x11F51] := by
    decide
  have value : half.value = .rational (-1 / 2) := by
    have digits : NumberLiteral.digitsOf ['0'] = [0] ∧
        NumberLiteral.digitsOf ['5'] = [5] := by decide
    simp only [half, NumberLiteral.value, digits, Expr.rational.injEq]
    norm_num [NumberLiteral.signum, NumberLiteral.fractional, decimal]
  have alike : half.Alike padded :=
    ⟨rfl, ⟨1, 0, by decide⟩, .some ⟨1, 0, by decide⟩⟩
  have halfProper : half.Proper := by decide
  have recentProper : recent.Proper := by decide
  obtain ⟨answer, _, same⟩ := parseExpr_number halfProper none
  obtain ⟨_, refusal, _⟩ := parseExpr_number recentProper none
  rw [← halfText, ← paddedText]
  refine ⟨?_, same padded none (by decide) alike (by decide) (by decide), ?_⟩
  · rw [← value]
    exact answer.mpr (by decide)
  · have refused := refusal (by decide)
    rw [NumberLiteral.unknown, recentText] at refused
    exact refused

end TemplateSyntax
