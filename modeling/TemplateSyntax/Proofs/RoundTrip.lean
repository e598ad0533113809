import TemplateSyntax.Proofs.Item.Printed

/-!
# Printing and reading again

What is read is well-formed, and what is well-formed can be printed and read
again: expressions (`parseExpr_round_trip`), patterns
(`parsePattern_round_trip`) and the items of a line (`parseLine_round_trip`).
Exactly the limits on depth and digits stand in the way.
-/

namespace TemplateSyntax

/-! ### Expressions -/

theorem Expr.Spells.fault?_eq_none_iff {text : List Char}
    {tokens : List Token} {expr : Expr} (spells : Spells text tokens expr) :
    language.fault? language.start tokens = none ↔ expr.Fits 0 := by
  rw [language_distinct.fault?_iff_of_measures spells.measures,
    spells.weighs.valued, Fits, Nat.zero_add]

theorem Expr.Spells.parseExpr_iff {text : List Char} {tokens : List Token}
    {expr : Expr} (spells : Spells text tokens expr) (label : Option String) :
    parseExpr (String.ofList text) label = .ok expr ↔ expr.Fits 0 := by
  rw [parseExpr_eq_ok_iff_of_laid spells.alone spells.expression,
    spells.fault?_eq_none_iff]

theorem Expr.parseExpr_print {expr : Expr} (formed : expr.WellFormed)
    (label : Option String) :
    parseExpr (String.ofList expr.print) label = .ok expr ↔ expr.Fits 0 := by
  obtain ⟨_, spells⟩ := exists_spells formed
  exact spells.parseExpr_iff label

theorem Expr.parseExpr_of_print {expr : Expr} {text : String}
    (formed : expr.WellFormed) (printed : String.ofList expr.print = text)
    (fits : expr.Fits 0) (label : Option String) :
    parseExpr text label = .ok expr := by
  rw [← printed]
  exact (parseExpr_print formed label).mpr fits

/-- An expression without brackets is not too deep. -/
theorem Expr.fits_of_flat {expr : Expr} (flat : expr.levels = 3)
    (inLimit : expr.InDigitLimit) : expr.Fits 0 := by
  rw [Fits, flat]
  exact ⟨by decide, inLimit⟩

theorem Expr.print_of_isWord {name : String} (isWord : Scan.IsWord name.toList) :
    String.ofList (Expr.name name).print = name := by
  rw [print, printName_of_isWord isWord, String.ofList_toList]

theorem parseExpr_of_isWord {name : String} (isWord : Scan.IsWord name.toList)
    (label : Option String) : parseExpr name label = .ok (.name name) :=
  Expr.parseExpr_of_print (.word isWord) (Expr.print_of_isWord isWord)
    (Expr.fits_of_flat rfl trivial) label

/-- Every expression that is read is well-formed, and every well-formed
expression is read from its printed text, if it lies within the limits. -/
theorem parseExpr_round_trip :
    (∀ text label expr, parseExpr text label = .ok expr → expr.WellFormed) ∧
    ∀ expr label, expr.WellFormed →
      (parseExpr (String.ofList expr.print) label = .ok expr ↔
        expr.Fits 0) := by
  constructor
  · intro text label expr answer
    exact Expr.wellFormed_of_hasSource ⟨text, label, answer⟩
  · intro expr label formed
    exact Expr.parseExpr_print formed label

/-- An operator applied to a negative number. -/
theorem parseExpr_print_apply :
    Expr.WellFormed (.apply (.name "+") (.rational (-3 / 2))) ∧
      parseExpr "((+)) (-1.5)" none =
        .ok (.apply (.name "+") (.rational (-3 / 2))) := by
  have operator : Expr.WellFormed (.name "+") :=
    .operator (Spelled.single (by decide))
  have number : Expr.WellFormed (.rational (-3 / 2)) :=
    .rational ⟨1, by decide +kernel⟩
  have formed := Expr.WellFormed.apply operator number
  have fits : Expr.Fits 0 (.apply (.name "+") (.rational (-3 / 2))) := by
    refine ⟨by decide, trivial, ?_⟩
    rw [Expr.InDigitLimit]
    decide +kernel
  have text : String.ofList
      (Expr.print (.apply (.name "+") (.rational (-3 / 2)))) =
      "((+)) (-1.5)" := by decide +kernel
  have answer := (parseExpr_round_trip.2 _ none formed).mpr fits
  rw [text] at answer
  exact ⟨formed, answer⟩

/-! ### Patterns -/

theorem Pattern.parsePattern_print {pattern : Pattern}
    (formed : pattern.WellFormed) (label : Option String) :
    parsePattern (String.ofList pattern.print) label = .ok pattern ↔
      pattern.nesting + 2 ≤ nestingLimit := by
  obtain ⟨tokens, spells⟩ := readable_of_wellFormed formed [] .nil
  have whole := language_recognises.of_measures spells.measures
  rw [← fault?_eq_none_iff spells.measures]
  exact language_recognises.parse_eq_ok_iff_of_derivation
    (whole_unambiguous Triggers.standard) spells.covers.alone whole

theorem Pattern.parsePattern_of_print {pattern : Pattern} {text : String}
    (formed : pattern.WellFormed) (printed : String.ofList pattern.print = text)
    (shallow : pattern.nesting + 2 ≤ nestingLimit) (label : Option String) :
    parsePattern text label = .ok pattern := by
  rw [← printed]
  exact (parsePattern_print formed label).mpr shallow

theorem parsePattern_of_isVariable {name : String}
    (isVariable : Scan.IsVariable name.toList) (label : Option String) :
    parsePattern name label = .ok (.var name) := by
  refine Pattern.parsePattern_of_print (.var isVariable) ?_ ?_ label
  · rw [Pattern.print, String.ofList_toList]
  · exact of_decide_eq_true rfl

/-- Every pattern that is read is well-formed, and every well-formed pattern is
read from its printed text, if it lies within the limit. -/
theorem parsePattern_round_trip :
    (∀ text label pattern, parsePattern text label = .ok pattern →
      pattern.WellFormed) ∧
    ∀ pattern label, pattern.WellFormed →
      (parsePattern (String.ofList pattern.print) label = .ok pattern ↔
        pattern.nesting + 2 ≤ nestingLimit) := by
  constructor
  · intro text label pattern answer
    exact Pattern.wellFormed_of_hasSource ⟨text, label, answer⟩
  · intro pattern label formed
    exact Pattern.parsePattern_print formed label

/-- A record with an operator and a capital word for its fields. -/
theorem parsePattern_print_record :
    Pattern.WellFormed
        (.record ⟨["M"], "Q"⟩ [("+", .tuple []), ("F", .var "F")] true) ∧
      parsePattern "M.Q\x7b(+) = (), F, ..\x7d" none =
        .ok (.record ⟨["M"], "Q"⟩ [("+", .tuple []), ("F", .var "F")]
          true) := by
  have capital {c : Char} (upper : Unicode.isCapitalLetter c = true) :
      Scan.IsPiece [c] :=
    .inl (Spelled.single upper)
  have operator : Scan.IsPiece ['+'] := .inr (Spelled.single (by decide))
  have formed : Pattern.WellFormed
      (.record ⟨["M"], "Q"⟩ [("+", .tuple []), ("F", .var "F")] true) := by
    refine .record true ?_ ?_ ?_
    · exact List.forall_mem_cons.mpr ⟨capital (by decide),
        List.forall_mem_singleton.mpr (capital (by decide))⟩
    · exact List.forall_mem_cons.mpr ⟨.inr operator,
        List.forall_mem_singleton.mpr (.inr (capital (by decide)))⟩
    · refine List.forall_mem_cons.mpr ⟨fun _ => ?_,
        List.forall_mem_singleton.mpr fun other => absurd rfl other⟩
      exact .tuple (by simp) (List.forall_mem_nil _)
  have text : String.ofList (Pattern.print
      (.record ⟨["M"], "Q"⟩ [("+", .tuple []), ("F", .var "F")] true)) =
      "M.Q\x7b(+) = (), F, ..\x7d" := by decide +kernel
  have answer :=
    (parsePattern_round_trip.2 _ none formed).mpr (by decide +kernel)
  rw [text] at answer
  exact ⟨formed, answer⟩

/-! ### Lines -/

/-- What is read is canonical, and what is canonical can be printed and read
again: unless no line can be read with the triggers, exactly the limits on depth
and digits stand in the way. -/
theorem parseLine_round_trip (triggers : Triggers) :
    (∀ text label items, parseLine triggers text label = .ok items →
      Item.Canonical items) ∧
    ∀ items label, Item.Canonical items →
      (parseLine triggers (String.ofList (Item.printLine triggers items))
          label = .ok items ↔
        triggers.canRead = true ∧ ∀ item ∈ items, item.WithinLimits) := by
  constructor
  · intro text label items accepted
    exact Item.canonical_of_parseLine accepted
  · intro items label canonical
    exact Item.parseLine_printLine canonical label

/-- A trigger in a literal, a directive with its line end and a trigger at the
end of the text. -/
theorem parseLine_print_otherwise :
    Item.Canonical [.literal "50%", .otherwise, .literal ""] ∧
      parseLine Triggers.standard "50%\\\n%\x7belse\x7d\n#" none =
        .ok [.literal "50%", .otherwise, .literal ""] := by
  have canonical :
      Item.Canonical [.literal "50%", .otherwise, .literal ""] := by
    refine ⟨?_, ?_⟩
    · simp [Item.Precedes, Item.isLiteral]
    · simp [Item.HasSource]
  have text : String.ofList (Item.printLine Triggers.standard
      [.literal "50%", .otherwise, .literal ""]) =
      "50%\\\n%\x7belse\x7d\n#" := by decide
  have answer := ((parseLine_round_trip Triggers.standard).2 _ none
    canonical).mpr ⟨by decide, by simp [Item.WithinLimits]⟩
  rw [text] at answer
  exact ⟨canonical, answer⟩

end TemplateSyntax
