import TemplateSyntax.Proofs.Name
import TemplateSyntax.Proofs.Pattern.Parts
import TemplateSyntax.Proofs.RoundTrip
import TemplateSyntax.Proofs.Unicode.Included

/-!
# Names in patterns and in expressions

What the names of a pattern can be relied on for: they are variables and
constructors by their first characters (`parsePattern_names`), the variables can
be named in expressions (`parsePattern_binders`), and expressions read the
constructors as patterns do (`parse_constructor`).  Each statement has exact
exceptions.
-/

namespace TemplateSyntax

open Scan

namespace Pattern

/-- The name that the pattern itself binds. -/
def binder? : Pattern → Option String
  | .var name | .named name _ => some name
  | .construct .. | .record .. | .tuple _ | .list _ => none

/-- The constructor that the pattern itself is built with. -/
def head? : Pattern → Option QualifiedName
  | .construct head _ | .record head _ _ => some head
  | .var _ | .named .. | .tuple _ | .list _ => none

/-- The text of the pattern spells a binder of the name out; the variables made
up for fields that stand alone do not count. -/
def Binds (text : String) (pattern : Pattern) (name : String) : Prop :=
  ∃ tokens part, Laid Triggers.standard text.toList tokens [] ∧
    Grammar.WholeHolds part tokens pattern ∧ part.binder? = some name

variable {text name : String} {label : Option String} {pattern part : Pattern}

/-- Every binder counts that is not a field of its own name. -/
theorem binds_of_within (accepted : parsePattern text label = .ok pattern)
    (within : part.Within pattern) (binder : part.binder? = some name) :
    Binds text pattern name := by
  obtain ⟨tokens, laid, whole⟩ := exists_whole accepted
  exact ⟨tokens, part, laid, Grammar.wholeHolds_of_within whole within, binder⟩

theorem isVariable_of_binds (binds : Binds text pattern name) :
    IsVariable name.toList := by
  obtain ⟨_, _, laid, holds, binder⟩ := binds
  cases holds.wellFormed laid.forall_read with
  | var spelled =>
      cases binder
      exact spelled
  | named spelled _ =>
      cases binder
      exact spelled
  | construct | record | tuple | list => cases binder

theorem WellFormed.of_within (formed : WellFormed pattern)
    (within : part.Within pattern) : WellFormed part := by
  induction within with
  | self => exact formed
  | named _ _ ih =>
      cases formed with
      | named _ inner => exact ih inner
  | argument _ member _ ih =>
      cases formed with
      | construct _ arguments => exact ih (arguments _ member)
  | field _ _ member written _ ih =>
      cases formed with
      | record _ _ _ fields => exact ih (fields _ member written)
  | tupleItem member _ ih =>
      cases formed with
      | tuple _ items => exact ih (items _ member)
  | listItem member _ ih =>
      cases formed with
      | list items => exact ih (items _ member)

theorem WellFormed.isConstructor {head : QualifiedName}
    (formed : WellFormed part) (built : part.head? = some head) :
    IsConstructor head := by
  cases formed with
  | construct spelled _ =>
      cases built
      exact spelled
  | record _ spelled _ _ =>
      cases built
      exact spelled
  | var | named | tuple | list => cases built

end Pattern

/-! ### Names by their first character -/

/-- The names that a pattern binds are variables and no constructors, unless they
begin with a symbol written as a capital; the pieces of its constructors are
constructors, unless they begin with a recent capital. -/
theorem parsePattern_names {text : String} {label : Option String}
    {pattern : Pattern} (accepted : parsePattern text label = .ok pattern) :
    (∀ (part : Pattern) name, part.Within pattern →
      part.binder? = some name → Pattern.Binds text pattern name) ∧
    (∀ name, Pattern.Binds text pattern name →
      isVariable name = .ok (!begins Unicode.isCapitalSymbol name) ∧
      isConstructor name = .ok (begins Unicode.isCapitalSymbol name)) ∧
    ∀ (part : Pattern) head, part.Within pattern → part.head? = some head →
      ∀ piece ∈ head.modules ++ [head.name],
        isConstructor piece = .ok (!begins Unicode.isRecentCapital piece) := by
  refine ⟨?_, ?_, ?_⟩
  · intro part name within binder
    exact Pattern.binds_of_within accepted within binder
  · intro name binds
    exact classes_of_isVariable (Pattern.isVariable_of_binds binds)
  · intro part head within built piece member
    have formed := Pattern.wellFormed_of_hasSource ⟨text, label, accepted⟩
    have spelled := (formed.of_within within).isConstructor built
    exact isConstructor_of_isPiece (spelled piece member)

/-- A Roman numeral for an alias, and a recent capital for a constructor. -/
theorem parsePattern_names_misjudged :
    parsePattern "\u2167@(\u1C89)" none =
        .ok (.named "\u2167" (.construct ⟨[], "\u1C89"⟩ [])) ∧
      isVariable "\u2167" = .ok false ∧ isConstructor "\u2167" = .ok true ∧
      isConstructor "\u1C89" = .ok false := by
  have numeral : IsVariable "\u2167".toList :=
    Spelled.single (by decide +kernel)
  have capital : Unicode.isCapitalLetter '\u1C89' = true :=
    Unicode.isCapitalLetter_of_isRecentCapital (by decide)
  have letter : IsPiece "\u1C89".toList := .inl (Spelled.single capital)
  have formed : Pattern.WellFormed
      (.named "\u2167" (.construct ⟨[], "\u1C89"⟩ [])) :=
    .named numeral (.construct (List.forall_mem_singleton.mpr letter)
      (List.forall_mem_nil _))
  have accepted : parsePattern "\u2167@(\u1C89)" none = .ok _ :=
    Pattern.parsePattern_of_print formed (by decide) (by decide) none
  obtain ⟨spelled, bound, built⟩ := parsePattern_names accepted
  have numeralClasses := bound _ (spelled _ _ .self rfl)
  have piece := built _ _ (.named _ .self) rfl "\u1C89" List.mem_cons_self
  have symbol : begins Unicode.isCapitalSymbol "\u2167" = true := by decide
  have added : begins Unicode.isRecentCapital "\u1C89" = true := by decide
  rw [symbol] at numeralClasses
  rw [added] at piece
  exact ⟨accepted, numeralClasses.1, numeralClasses.2, piece⟩

/-! ### Variables in expressions -/

/-- A variable of a pattern is a word of an expression, unless it begins with a
digit or a prime. -/
theorem isWord_of_isVariable {name : String} (spelled : IsVariable name.toList)
    (noDigit : begins Unicode.isDecimal name = false)
    (noPrime : begins (· == '\'') name = false) : IsWord name.toList := by
  obtain ⟨first, others, split, begun, inside⟩ := spelled
  rw [begins_of_cons split] at noDigit noPrime
  simp only [isVariableStart, isNameChar, Bool.and_eq_true, Bool.or_eq_true,
    decide_eq_true_eq] at begun
  have letter : Unicode.isWord first = true :=
    begun.1.resolve_right (beq_eq_false_iff_ne.mp noPrime)
  exact ⟨first, others, split, by simp [isNameStart, noDigit, letter], inside⟩

/-- What is read as a name begins with neither a digit nor a prime. -/
theorem begins_of_parseExpr {name : String} {label : Option String}
    (answer : parseExpr name label = .ok (.name name)) :
    begins Unicode.isDecimal name = false ∧
      begins (· == '\'') name = false := by
  cases Expr.wellFormed_of_hasSource ⟨name, label, answer⟩ with
  | word isWord =>
      obtain ⟨first, _, split, begun, _⟩ := isWord
      rw [begins_of_cons split, begins_of_cons split]
      simp only [isNameStart, Bool.and_eq_true, Bool.not_eq_true'] at begun
      refine ⟨begun.1, beq_eq_false_iff_ne.mpr ?_⟩
      rintro rfl
      exact absurd begun.2 (by decide)
  | operator isOperator =>
      obtain ⟨first, _, split, begun, _⟩ := isOperator
      rw [begins_of_cons split, begins_of_cons split]
      refine ⟨isDecimal_of_isOperatorChar begun, beq_eq_false_iff_ne.mpr ?_⟩
      rintro rfl
      exact absurd begun (by decide)

/-- A name that a pattern binds can be named in an expression exactly if it
begins with neither a digit nor a prime. -/
theorem parsePattern_binders {text : String} {label : Option String}
    {pattern : Pattern} (accepted : parsePattern text label = .ok pattern) :
    (∀ (part : Pattern) name, part.Within pattern →
      part.binder? = some name → Pattern.Binds text pattern name) ∧
    ∀ name label', Pattern.Binds text pattern name →
      (parseExpr name label' = .ok (.name name) ↔
        begins Unicode.isDecimal name = false ∧
          begins (· == '\'') name = false) := by
  constructor
  · intro part name within binder
    exact Pattern.binds_of_within accepted within binder
  · intro name label' binds
    refine ⟨begins_of_parseExpr, ?_⟩
    rintro ⟨noDigit, noPrime⟩
    exact parseExpr_of_isWord
      (isWord_of_isVariable (Pattern.isVariable_of_binds binds) noDigit noPrime)
      label'

/-- The alias can be named in an expression, the numeral cannot. -/
theorem parsePattern_binders_numeral :
    parsePattern "x@(1)" none = .ok (.named "x" (.var "1")) ∧
      parseExpr "x" none = .ok (.name "x") ∧
      parseExpr "1" none ≠ .ok (.name "1") := by
  have formed : Pattern.WellFormed (.named "x" (.var "1")) :=
    .named (Spelled.single (by decide)) (.var (Spelled.single (by decide)))
  have accepted : parsePattern "x@(1)" none = .ok _ :=
    Pattern.parsePattern_of_print formed (by decide) (by decide) none
  obtain ⟨spelled, named⟩ := parsePattern_binders accepted
  have outer := named "x" none (spelled _ _ .self rfl)
  have inner := named "1" none (spelled _ _ (.named _ .self) rfl)
  refine ⟨accepted, outer.mpr (by decide), fun answer => ?_⟩
  exact absurd (inner.mp answer).1 (by decide)

/-- A pattern may bind a numeral, which is a number as an expression. -/
theorem exists_binder_of_no_name :
    parsePattern "1" none = .ok (.var "1") ∧
      Pattern.Binds "1" (.var "1") "1" ∧
      parseExpr "1" none = .ok (.integer 1) := by
  have formed : Pattern.WellFormed (.var "1") :=
    .var (Spelled.single (by decide))
  have accepted : parsePattern "1" none = .ok _ :=
    Pattern.parsePattern_of_print formed (by decide) (by decide) none
  have inLimit : Expr.InDigitLimit (.integer 1) := by
    rw [Expr.InDigitLimit]
    exact Nat.one_lt_pow (by decide) (by decide)
  have fits := Expr.fits_of_flat rfl inLimit
  have number : parseExpr "1" none = .ok _ :=
    Expr.parseExpr_of_print (.integer 1) (by decide) fits none
  exact ⟨accepted, Pattern.binds_of_within accepted .self rfl, number⟩

/-! ### Constructors in expressions -/

/-- The expression that a constructor's name is read as. -/
def QualifiedName.toExpr (head : QualifiedName) : Expr :=
  if head.modules = [] then .name head.name
  else .qualified head.modules head.name

theorem isWord_of_isCapital {word : List Char} (capital : IsCapital word) :
    IsWord word := by
  obtain ⟨first, others, rfl, letter, inside⟩ := capital
  have noDigit := Unicode.isDecimal_of_isCapitalLetter letter
  have isWord := Unicode.isWord_of_isCapitalLetter letter
  exact ⟨first, others, rfl, by simp [isNameStart, noDigit, isWord], inside⟩

/-- Of the capital words, those in title case and those with primes are no
modules of an expression. -/
theorem isModule_iff_of_isCapital {name : String}
    (capital : IsCapital name.toList) :
    IsModule name.toList ↔
      begins Unicode.isUppercaseLetter name = true ∧ '\'' ∉ name.toList := by
  obtain ⟨first, others, split, letter, inside⟩ := capital
  rw [begins_of_cons split, split]
  constructor
  · intro isModule
    have noPrime := isModule.not_mem (c := '\'') (by decide) (by decide)
    obtain ⟨_, _, again, upper, _⟩ := isModule
    cases again
    exact ⟨upper, noPrime⟩
  · rintro ⟨upper, noPrime⟩
    refine ⟨first, others, rfl, upper, fun c member => ?_⟩
    have named := inside c member
    simp only [isNameChar, Bool.or_eq_true, decide_eq_true_eq] at named
    refine named.resolve_right ?_
    rintro rfl
    exact noPrime (List.mem_cons_of_mem first member)

section Constructor

variable {head : QualifiedName}

theorem QualifiedName.print_toExpr (isWord : IsWord head.name.toList) :
    head.toExpr.print = head.toString.toList := by
  rw [toExpr, toString, String.toList_intercalate]
  split
  · rename_i alone
    rw [Expr.print, Expr.printName_of_isWord isWord, alone]
    simp
  · rw [Expr.print]
    rfl

theorem QualifiedName.wellFormed_toExpr_iff (isWord : IsWord head.name.toList) :
    head.toExpr.WellFormed ↔ ∀ step ∈ head.modules, IsModule step.toList := by
  rw [toExpr]
  split
  · rename_i alone
    rw [alone]
    exact iff_of_true (.word isWord) (List.forall_mem_nil _)
  · rename_i proper
    constructor
    · intro formed
      cases formed with
      | qualified _ each _ => exact each
    · intro each
      exact .qualified proper each isWord

theorem QualifiedName.fits_toExpr : head.toExpr.Fits 0 := by
  rw [toExpr]
  split
  · exact Expr.fits_of_flat rfl trivial
  · exact Expr.fits_of_flat rfl trivial

theorem print_construct_of_isCapital
    (capital : ∀ piece ∈ head.modules ++ [head.name], IsCapital piece.toList) :
    (Pattern.construct head []).print = head.toString.toList := by
  have words : (head.modules ++ [head.name]).map Expr.printName =
      (head.modules ++ [head.name]).map String.toList := by
    refine List.map_congr_left fun piece member => ?_
    exact Expr.printName_of_isWord (isWord_of_isCapital (capital piece member))
  rw [Pattern.print, Pattern.printConstructor, words, QualifiedName.toString,
    String.toList_intercalate]
  exact List.append_nil _

/-- Capital words joined by dots are a constructor without arguments as a
pattern.  As an expression they are the same name exactly if every module begins
in upper case, not in title case, and holds no prime. -/
theorem parse_constructor
    (capital : ∀ piece ∈ head.modules ++ [head.name], IsCapital piece.toList)
    (label label' : Option String) :
    parsePattern head.toString label = .ok (.construct head []) ∧
      (parseExpr head.toString label' = .ok head.toExpr ↔
        ∀ step ∈ head.modules,
          begins Unicode.isUppercaseLetter step = true ∧
            '\'' ∉ step.toList) := by
  have capitalName := capital head.name (by simp)
  have isWord := isWord_of_isCapital capitalName
  constructor
  · have formed : Pattern.WellFormed (.construct head []) :=
      .construct (fun piece member => .inl (capital piece member))
        (List.forall_mem_nil _)
    refine Pattern.parsePattern_of_print formed ?_
      (by simp [Pattern.nesting, Pattern.nestingOf, nestingLimit]) label
    rw [print_construct_of_isCapital capital, String.ofList_toList]
  · have modules : (∀ step ∈ head.modules, IsModule step.toList) ↔
        ∀ step ∈ head.modules, begins Unicode.isUppercaseLetter step = true ∧
          '\'' ∉ step.toList := by
      refine forall₂_congr fun step member => ?_
      exact isModule_iff_of_isCapital
        (capital step (List.mem_append_left _ member))
    rw [← modules, ← QualifiedName.wellFormed_toExpr_iff isWord]
    constructor
    · intro answer
      exact Expr.wellFormed_of_hasSource ⟨_, label', answer⟩
    · intro formed
      refine Expr.parseExpr_of_print formed ?_ QualifiedName.fits_toExpr label'
      rw [QualifiedName.print_toExpr isWord, String.ofList_toList]

/-- A module with a prime is read in a pattern only. -/
theorem parse_constructor_primed :
    parsePattern "A'.B" none = .ok (.construct ⟨["A'"], "B"⟩ []) ∧
      parseExpr "A'.B" none ≠ .ok (.qualified ["A'"] "B") := by
  have capital : ∀ piece ∈ ["A'", "B"], IsCapital piece.toList := by
    refine List.forall_mem_cons.mpr
      ⟨⟨'A', ['\''], rfl, by decide, ?_⟩, ?_⟩
    · exact List.forall_mem_singleton.mpr (by decide)
    · exact List.forall_mem_singleton.mpr (Spelled.single (by decide))
  obtain ⟨pattern, expr⟩ :=
    @parse_constructor ⟨["A'"], "B"⟩ capital none none
  refine ⟨pattern, fun answer => ?_⟩
  exact (expr.mp answer "A'" List.mem_cons_self).2 (by decide)

end Constructor

end TemplateSyntax
