import Mathlib.Data.List.TakeWhile
import Mathlib.Data.Nat.Factorization.Basic
import TemplateSyntax.Expr.Print
import TemplateSyntax.Proofs.Terminal.Number

/-!
# Numbers in print

A printed number is read back with its value (`ofNumber_integer`,
`ofNumber_rational`).  A rational has a decimal expansion that ends exactly if
its denominator divides a power of ten, and it is then written with as few
digits behind the point as there can be (`decimalPlaces_le_iff`).
-/

namespace TemplateSyntax

open Scan

/-! ### Runs of plain digits -/

theorem digitValue?_of_isDigit {c : Char} (digit : c.isDigit = true) :
    Unicode.digitValue? c = some (c.toNat - 48) := by
  have inBlock : 48 ≤ c.toNat ∧ c.toNat ≤ 57 := Char.isDigit_iff_toNat.mp digit
  have first : (decide (0x0030 ≤ c.toNat) && decide (c.toNat < 0x0030 + 10)) =
      true := by
    simp only [Bool.and_eq_true, decide_eq_true_eq]
    omega
  simp only [Unicode.digitValue?, Unicode.digitIn?, Unicode.valuedZeros,
    List.find?_cons, first, Option.map_some]

theorem hasDigitValue_of_isDigit {c : Char} (digit : c.isDigit = true) :
    Unicode.hasDigitValue c = true := by
  rw [Unicode.hasDigitValue, digitValue?_of_isDigit digit]
  rfl

/-- A run of the digits from 0 to 9. -/
def PlainRun (run : List Char) : Prop :=
  run ≠ [] ∧ ∀ c ∈ run, c.isDigit = true

namespace PlainRun

variable {run : List Char}

theorem toDigits (n : Nat) : PlainRun (Nat.toDigits 10 n) :=
  ⟨Nat.toDigits_ne_nil, fun _ member =>
    Nat.isDigit_of_mem_toDigits (by decide) (by decide) member⟩

theorem digitRun (plain : PlainRun run) : DigitRun run :=
  ⟨plain.1, fun c member =>
    Unicode.isDecimal_of_hasDigitValue
      (hasDigitValue_of_isDigit (plain.2 c member))⟩

theorem valued (plain : PlainRun run) : NumberLiteral.valued run = true :=
  List.all_eq_true.mpr fun c member =>
    hasDigitValue_of_isDigit (plain.2 c member)

theorem digitsValue_eq (plain : PlainRun run) :
    NumberLiteral.digitsValue run = Nat.ofDigitChars 10 run 0 := by
  rw [NumberLiteral.digitsValue, Nat.ofDigitChars_eq_foldl]
  apply List.foldl_ext
  intro value c member
  rw [digitValue?_of_isDigit (plain.2 c member)]
  rfl

end PlainRun

theorem digitsValue_toDigits (n : Nat) :
    NumberLiteral.digitsValue (Nat.toDigits 10 n) = n := by
  rw [(PlainRun.toDigits n).digitsValue_eq, Nat.ofDigitChars_ten_toDigits]

/-- The digits of a number with zeros in front. -/
def padded (places n : Nat) : List Char :=
  List.replicate (places - (Nat.toDigits 10 n).length) '0' ++
    Nat.toDigits 10 n

theorem padded_plain (places n : Nat) : PlainRun (padded places n) := by
  refine ⟨?_, ?_⟩
  · rw [padded, Ne, List.append_eq_nil_iff, not_and]
    exact fun _ => Nat.toDigits_ne_nil
  · intro c member
    rcases List.mem_append.mp member with zero | digit
    · obtain ⟨_, rfl⟩ := List.mem_replicate.mp zero
      rfl
    · exact (PlainRun.toDigits n).2 c digit

theorem digitsValue_padded (places n : Nat) :
    NumberLiteral.digitsValue (padded places n) = n := by
  rw [(padded_plain places n).digitsValue_eq, padded, Nat.ofDigitChars_append,
    Nat.ofDigitChars_replicate_zero, Nat.mul_zero,
    Nat.ofDigitChars_ten_toDigits]

theorem length_padded {places n : Nat} (proper : 0 < places)
    (fits : n < 10 ^ places) : (padded places n).length = places := by
  have short := (Nat.length_toDigits_le_iff (by decide) proper).mpr fits
  rw [padded, List.length_append, List.length_replicate]
  omega

namespace Expr

/-! ### Places behind the point -/

/-- A power of ten a number divides need not be larger than the number. -/
theorem dvd_ten_pow_log2 {n k : Nat} (divides : n ∣ 10 ^ k) :
    n ∣ 10 ^ n.log2 := by
  have proper : n ≠ 0 := by
    rintro rfl
    exact absurd (Nat.eq_zero_of_zero_dvd divides)
      (Nat.pow_pos (by decide)).ne'
  rw [← Nat.factorization_prime_le_iff_dvd proper
    (Nat.pow_pos (by decide)).ne']
  intro p prime
  rw [Nat.factorization_pow, Finsupp.smul_apply, smul_eq_mul]
  by_cases factor : p ∣ n
  · have ofTen : p ∣ 10 := prime.dvd_of_dvd_pow (factor.trans divides)
    have counted : 1 ≤ Nat.factorization 10 p :=
      prime.factorization_pos_of_dvd (by decide) ofTen
    have small : n.factorization p ≤ n.log2 := by
      rw [Nat.le_log2 proper]
      calc 2 ^ n.factorization p ≤ p ^ n.factorization p :=
            Nat.pow_le_pow_left prime.two_le _
        _ ≤ n := Nat.ordProj_le p proper
    calc n.factorization p ≤ n.log2 := small
      _ = n.log2 * 1 := (Nat.mul_one _).symm
      _ ≤ n.log2 * Nat.factorization 10 p := Nat.mul_le_mul_left _ counted
  · rw [Nat.factorization_eq_zero_of_not_dvd factor]
    exact Nat.zero_le _

/-- The decimal expansion of a rational ends. -/
def EndsInDigits (value : Rat) : Prop :=
  ∃ places, value.den ∣ 10 ^ places

section Places

variable {denominator : Nat} (finite : ∃ k, denominator ∣ 10 ^ k)
include finite

theorem decimalPlaces_spec :
    0 < decimalPlaces denominator ∧
      denominator ∣ 10 ^ decimalPlaces denominator ∧
      ∀ places, 0 < places → denominator ∣ 10 ^ places →
        decimalPlaces denominator ≤ places := by
  obtain ⟨k, divides⟩ := finite
  have enough : denominator ∣ 10 ^ (denominator.log2 + 1) :=
    (dvd_ten_pow_log2 divides).trans (Nat.pow_dvd_pow _ (Nat.le_succ _))
  have searched : ((List.range (denominator.log2 + 2)).tail.find? fun places =>
      decide (Nat.pow 10 places % denominator = 0)) =
      some (decimalPlaces denominator) := by
    rw [decimalPlaces]
    cases found : (List.range (denominator.log2 + 2)).tail.find? fun places =>
      decide (Nat.pow 10 places % denominator = 0) with
    | some places => rfl
    | none =>
        rw [List.tail_range, List.find?_range'_eq_none] at found
        have missed := found (denominator.log2 + 1) (by omega) (by omega)
        rw [Bool.not_eq_true', decide_eq_false_iff_not] at missed
        exact absurd (Nat.mod_eq_zero_of_dvd enough) missed
  rw [List.tail_range, List.find?_range'_eq_some] at searched
  obtain ⟨divided, inRange, least⟩ := searched
  rw [List.mem_range'_1] at inRange
  refine ⟨by omega, Nat.dvd_of_mod_eq_zero (of_decide_eq_true divided), ?_⟩
  intro places proper fits
  by_contra fewer
  have missed := least places (by omega) (by omega)
  rw [Bool.not_eq_true', decide_eq_false_iff_not] at missed
  exact absurd (Nat.mod_eq_zero_of_dvd fits) missed

theorem decimalPlaces_le_iff {limit : Nat} (proper : 0 < limit) :
    decimalPlaces denominator ≤ limit ↔ denominator ∣ 10 ^ limit := by
  obtain ⟨_, divides, least⟩ := decimalPlaces_spec finite
  exact ⟨fun few => divides.trans (Nat.pow_dvd_pow _ few),
    fun fits => least limit proper fits⟩

end Places

/-! ### Integers -/

def sign (negative : Prop) [Decidable negative] : List Char :=
  if negative then ['-'] else []

theorem sign_cases (negative : Prop) [Decidable negative] :
    sign negative = [] ∨ sign negative = ['-'] := by
  rw [sign]
  split
  · exact .inr rfl
  · exact .inl rfl

theorem isEmpty_sign (negative : Prop) [Decidable negative] :
    (!(sign negative).isEmpty) = decide negative := by
  by_cases holds : negative <;> simp [sign, holds]

theorem toList_toString (value : Int) :
    (toString value).toList =
      sign (value < 0) ++ Nat.toDigits 10 value.natAbs ++ [] := by
  rw [List.append_nil, Int.toString_eq_repr, Int.repr_eq_if, sign]
  by_cases negative : value < 0
  · have size : (-value).toNat = value.natAbs := by omega
    rw [if_neg (by omega), if_pos negative, String.toList_append,
      Nat.toList_repr, size]
    rfl
  · have size : value.toNat = value.natAbs := by omega
    rw [if_pos (by omega), if_neg negative, Nat.toList_repr, size]
    rfl

theorem ofLexeme_integer (value : Int) :
    NumberLiteral.ofLexeme (toString value).toList =
      ⟨decide (value < 0), Nat.toDigits 10 value.natAbs, none⟩ := by
  rw [toList_toString, NumberLiteral.ofLexeme_append (sign_cases _)
    (PlainRun.toDigits _).digitRun (.inl rfl), isEmpty_sign]
  rfl

theorem ofNumber_integer (value : Int) :
    ofNumber (.ofLexeme (toString value).toList) = .integer value := by
  have magnitude : NumberLiteral.magnitude
      ⟨decide (value < 0), Nat.toDigits 10 value.natAbs, none⟩ =
      value.natAbs := by
    rw [NumberLiteral.magnitude, digitsValue_toDigits]
    exact Nat.mul_one _
  rw [ofLexeme_integer, ofNumber]
  simp only [NumberLiteral.numerator, magnitude, decide_eq_true_eq,
    Expr.integer.injEq]
  split <;> omega

theorem error?_integer (value : Int) :
    (NumberLiteral.ofLexeme (toString value).toList).error? = none ↔
      value.natAbs < 10 ^ digitLimit := by
  have plain := PlainRun.toDigits value.natAbs
  have whole : (Nat.toDigits 10 value.natAbs).takeWhile Unicode.hasDigitValue =
      Nat.toDigits 10 value.natAbs :=
    List.takeWhile_eq_self_iff.mpr fun c member =>
      hasDigitValue_of_isDigit (plain.2 c member)
  rw [ofLexeme_integer, NumberLiteral.error?, NumberLiteral.integerError?,
    if_pos plain.valued, Option.or_none, whole, NumberLiteral.lengthError?,
    ite_eq_right_iff, ← Nat.length_toDigits_le_iff (by decide) (by decide)]
  simp

/-! ### Rationals -/

/-- How many units of its last place a rational is. -/
def units (value : Rat) : Nat :=
  value.num.natAbs * (10 ^ decimalPlaces value.den / value.den)

theorem printRational_eq (value : Rat) :
    printRational value =
      sign (value.num < 0) ++
        Nat.toDigits 10 (units value / 10 ^ decimalPlaces value.den) ++
        '.' :: padded (decimalPlaces value.den)
          (units value % 10 ^ decimalPlaces value.den) := by
  simp [printRational, padded, sign, units]

theorem ofLexeme_rational (value : Rat) :
    NumberLiteral.ofLexeme (printRational value) =
      ⟨decide (value.num < 0),
        Nat.toDigits 10 (units value / 10 ^ decimalPlaces value.den),
        some (padded (decimalPlaces value.den)
          (units value % 10 ^ decimalPlaces value.den))⟩ := by
  rw [printRational_eq, NumberLiteral.ofLexeme_append (sign_cases _)
    (PlainRun.toDigits _).digitRun
    (.inr ⟨_, rfl, (padded_plain _ _).digitRun⟩), isEmpty_sign]
  rfl

section Rational

variable {value : Rat} (finite : EndsInDigits value)
include finite

theorem length_fraction :
    (padded (decimalPlaces value.den)
      (units value % 10 ^ decimalPlaces value.den)).length =
      decimalPlaces value.den :=
  length_padded (decimalPlaces_spec finite).1
    (Nat.mod_lt _ (Nat.pow_pos (by decide)))

theorem ofNumber_rational :
    ofNumber (.ofLexeme (printRational value)) = .rational value := by
  obtain ⟨scale, scaleEq⟩ := (decimalPlaces_spec finite).2.1
  have proper : scale ≠ 0 := by
    rintro rfl
    exact absurd scaleEq (by simp)
  have unitsEq : units value = value.num.natAbs * scale := by
    rw [units, scaleEq, Nat.mul_div_cancel_left _ value.den_pos]
  have magnitude : NumberLiteral.magnitude
      (.ofLexeme (printRational value)) = value.num.natAbs * scale := by
    rw [ofLexeme_rational, NumberLiteral.magnitude, Option.getD_some,
      length_fraction finite, digitsValue_toDigits, digitsValue_padded, ← unitsEq]
    exact Nat.div_add_mod' _ _
  have numerator : NumberLiteral.numerator (.ofLexeme (printRational value)) =
      value.num * scale := by
    rw [NumberLiteral.numerator, magnitude, ofLexeme_rational]
    simp only [decide_eq_true_eq]
    split
    · rw [Nat.cast_mul, Int.ofNat_natAbs_of_nonpos (by omega), Int.neg_mul,
        Int.neg_neg]
    · rw [Nat.cast_mul, Int.natAbs_of_nonneg (by omega)]
  have denominator : NumberLiteral.denominator
      (.ofLexeme (printRational value)) = value.den * scale := by
    rw [ofLexeme_rational, NumberLiteral.denominator, Option.getD_some,
      length_fraction finite]
    exact scaleEq
  have fraction : (NumberLiteral.ofLexeme (printRational value)).fraction =
      some (padded (decimalPlaces value.den)
        (units value % 10 ^ decimalPlaces value.den)) := by
    rw [ofLexeme_rational]
  rw [ofNumber, fraction, numerator, denominator]
  simp only
  rw [Rat.mkRat_mul_right proper, Rat.mkRat_self]

theorem error?_rational :
    (NumberLiteral.ofLexeme (printRational value)).error? = none ↔
      value.num.natAbs / value.den < 10 ^ digitLimit ∧
        value.den ∣ 10 ^ digitLimit := by
  obtain ⟨scale, scaleEq⟩ := (decimalPlaces_spec finite).2.1
  have proper : 0 < scale := by
    rw [Nat.pos_iff_ne_zero]
    rintro rfl
    exact absurd scaleEq (by simp)
  have wholeEq : units value / 10 ^ decimalPlaces value.den =
      value.num.natAbs / value.den := by
    rw [units, scaleEq, Nat.mul_div_cancel_left _ value.den_pos,
      Nat.mul_div_mul_right _ _ proper]
  have short (run : List Char) :
      NumberLiteral.lengthError? run = none ↔ run.length ≤ digitLimit := by
    rw [NumberLiteral.lengthError?, ite_eq_right_iff]
    simp
  rw [ofLexeme_rational]
  simp only [NumberLiteral.error?, NumberLiteral.rationalError?,
    (PlainRun.toDigits _).valued, (padded_plain _ _).valued, Bool.and_self,
    if_true]
  rw [Option.or_eq_none_iff, short, short, length_fraction finite,
    decimalPlaces_le_iff finite (by decide), wholeEq,
    Nat.length_toDigits_le_iff (by decide) (by decide)]

end Rational

end Expr

end TemplateSyntax
