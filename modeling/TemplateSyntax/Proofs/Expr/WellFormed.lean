import TemplateSyntax.Proofs.Expr.Completeness
import TemplateSyntax.Proofs.Expr.Number
import TemplateSyntax.Proofs.Reading.Acceptance
import TemplateSyntax.Proofs.Terminal.Spelled

/-!
# Expressions that reading can produce

`WellFormed` says of every part of an expression what its lexeme allows: names
are words or operators, a path has modules, a rational is a finite decimal, a
tuple has two items or more.  Every expression that is read is well-formed
(`wellFormed_of_expression`).
-/

namespace TemplateSyntax

/-- The rule of the token's terminal has read its lexeme somewhere. -/
def Token.Read (triggers : Triggers) (token : Token) : Prop :=
  ∃ ahead behind, token.terminal.scan triggers ahead =
    some (token.lexeme, behind)

theorem Laid.forall_read {triggers : Triggers} {text rest : List Char}
    {tokens : List Token} (laid : Laid triggers text tokens rest) :
    ∀ token ∈ tokens, token.Read triggers :=
  fun _ member => laid.exists_scan member

namespace Expr

open Scan Grammar

/-- Every part of the expression is one that can be read. -/
inductive WellFormed : Expr → Prop where
  | word {name : String} : IsWord name.toList → WellFormed (.name name)
  | operator {name : String} : IsOperator name.toList → WellFormed (.name name)
  | qualified {modules : List String} {name : String} :
      modules ≠ [] → (∀ step ∈ modules, IsModule step.toList) →
      IsWord name.toList → WellFormed (.qualified modules name)
  | integer (value : Int) : WellFormed (.integer value)
  | rational {value : Rat} : EndsInDigits value → WellFormed (.rational value)
  | string (text : String) : WellFormed (.string text)
  | apply {function argument : Expr} :
      WellFormed function → WellFormed argument →
      WellFormed (.apply function argument)
  | list {items : List Expr} :
      (∀ item ∈ items, WellFormed item) → WellFormed (.list items)
  | tuple {items : List Expr} :
      2 ≤ items.length → (∀ item ∈ items, WellFormed item) →
      WellFormed (.tuple items)
  | field {record : Expr} {name : String} :
      WellFormed record → IsField name.toList →
      WellFormed (.field record name)

/-! ### What the lexemes stand for -/

theorem pieces_of_not_mem {piece : List Char} (noDot : '.' ∉ piece) :
    pieces piece = [piece] := by
  induction piece with
  | nil => rfl
  | cons c piece ih =>
      rw [List.mem_cons, not_or] at noDot
      rw [pieces, if_neg (Ne.symm noDot.1), ih noDot.2]

theorem pieces_append {piece : List Char} (noDot : '.' ∉ piece)
    (rest : List Char) : pieces (piece ++ '.' :: rest) = piece :: pieces rest := by
  induction piece with
  | nil => rfl
  | cons c piece ih =>
      rw [List.mem_cons, not_or] at noDot
      rw [List.cons_append, pieces, if_neg (Ne.symm noDot.1), ih noDot.2]

theorem pieces_intercalate {modules : List (List Char)} {word : List Char}
    (noDots : ∀ step ∈ modules, '.' ∉ step) (noDot : '.' ∉ word) :
    pieces (['.'].intercalate (modules ++ [word])) = modules ++ [word] := by
  induction modules with
  | nil =>
      have alone : ['.'].intercalate ([] ++ [word]) = word := by simp
      rw [alone]
      exact pieces_of_not_mem noDot
  | cons step modules ih =>
      have later := ih fun other member => noDots other
        (List.mem_cons_of_mem _ member)
      have first := noDots step List.mem_cons_self
      rw [List.cons_append, intercalate_dot_cons, pieces_append first, later]

theorem ofIdentifier_intercalate {modules : List (List Char)}
    {word : List Char} (each : ∀ step ∈ modules, IsModule step)
    (isWord : IsWord word) :
    ofIdentifier (['.'].intercalate (modules ++ [word])) =
      if modules = [] then .name (String.ofList word)
      else .qualified (modules.map String.ofList) (String.ofList word) := by
  have noDots : ∀ step ∈ modules, '.' ∉ step := fun step member =>
    (each step member).not_mem (by decide) (by decide)
  have noDot := isWord.not_mem (c := '.') (by decide) (by decide)
  have split := pieces_intercalate noDots noDot
  rw [ofIdentifier, split]
  simp only [List.map_append, List.map_cons, List.map_nil,
    List.dropLast_concat, List.getLast?_concat, Option.getD_some]
  cases modules with
  | nil => rfl
  | cons step modules => rfl

section Lexeme

variable {text lexeme rest : List Char}

theorem wellFormed_ofIdentifier
    (read : identifier text = some (lexeme, rest)) :
    WellFormed (ofIdentifier lexeme) := by
  obtain ⟨modules, word, each, isWord, rfl⟩ := spelled_of_identifier read
  rw [ofIdentifier_intercalate each isWord]
  split
  · exact .word (by rwa [String.toList_ofList])
  · rename_i proper
    refine .qualified (by simpa using proper) ?_ (by rwa [String.toList_ofList])
    intro step member
    obtain ⟨chars, charsMember, rfl⟩ := List.mem_map.mp member
    rw [String.toList_ofList]
    exact each chars charsMember

theorem den_mkRat_dvd (numerator : Int) (denominator : Nat) :
    (mkRat numerator denominator).den ∣ denominator := by
  rw [Rat.den_mkRat]
  split
  · exact Nat.one_dvd _
  · exact Nat.div_dvd_of_dvd (Nat.gcd_dvd_left _ _)

theorem wellFormed_ofNumber (literal : NumberLiteral) :
    WellFormed (ofNumber literal) := by
  rw [ofNumber]
  split
  · exact .integer _
  · exact .rational ⟨_, den_mkRat_dvd _ _⟩

theorem spelled_of_parenthesisedOperator
    (read : parenthesisedOperator text = some (lexeme, rest)) :
    ∃ word, IsOperator word ∧ lexeme = parenthesised word := by
  obtain ⟨_, _, _, opening, inside, rfl⟩ := andThen_eq_some_iff.mp read
  obtain ⟨word, _, _, run, closing, rfl⟩ := andThen_eq_some_iff.mp inside
  obtain ⟨rfl, _⟩ := char_eq_some_iff.mp opening
  obtain ⟨rfl, _⟩ := char_eq_some_iff.mp closing
  exact ⟨word, spelled_of_read run, rfl⟩

theorem ofOperatorName_parenthesised (word : List Char) :
    ofOperatorName (parenthesised word) = .name (String.ofList word) := by
  simp [ofOperatorName, parenthesised]

theorem wellFormed_ofOperatorName
    (read : parenthesisedOperator text = some (lexeme, rest)) :
    WellFormed (ofOperatorName lexeme) := by
  obtain ⟨word, isOperator, rfl⟩ := spelled_of_parenthesisedOperator read
  rw [ofOperatorName_parenthesised]
  exact .operator (by rwa [String.toList_ofList])

theorem wellFormed_ofOperator {accepts : List Char → Bool}
    (read : operatorRun.only accepts text = some (lexeme, rest)) :
    WellFormed (ofOperator lexeme) := by
  obtain ⟨run, _⟩ := only_eq_some_iff.mp read
  exact .operator (by rw [String.toList_ofList]; exact spelled_of_read run)

theorem WellFormed.accessed {record : Expr} (formed : WellFormed record)
    (read : fieldAccess text = some (lexeme, rest)) :
    WellFormed (record.access lexeme) := by
  obtain ⟨_, _, word, point, inside, rfl⟩ := andThen_eq_some_iff.mp read
  obtain ⟨rfl, _⟩ := char_eq_some_iff.mp point
  have spelled : IsField word := spelled_of_read inside
  exact .field formed (by rwa [String.toList_ofList])

end Lexeme

/-! ### Derivations -/

variable {triggers : Triggers}

theorem WellFormed.accesses {names : List (List Char)} {value : Expr}
    (formed : WellFormed value)
    (read : ∀ token ∈ accesses names, token.Read triggers) :
    WellFormed (names.foldl access value) := by
  induction names generalizing value with
  | nil => exact formed
  | cons name names ih =>
      obtain ⟨_, _, first⟩ := read _ List.mem_cons_self
      exact ih (formed.accessed first) fun token member =>
        read token (List.mem_cons_of_mem _ member)

/-- The expression is well-formed if its tokens have been read. -/
def FormedBy (triggers : Triggers) (tokens : List Token) (value : Expr) :
    Prop :=
  (∀ token ∈ tokens, token.Read triggers) → WellFormed value

/-- The items are well-formed if their tokens have been read. -/
def ItemsFormedBy (triggers : Triggers) (tokens : List Token)
    (values : List Expr) : Prop :=
  values ≠ [] ∧
    ((∀ token ∈ tokens, token.Read triggers) →
      ∀ value ∈ values, WellFormed value)

/-- Every expression that is read is well-formed.  By induction over the
derivation; only the tokens that hold a text of their own matter. -/
theorem wellFormed_of_expression {tokens : List Token} {value : Expr}
    (expression : Expression tokens value)
    (read : ∀ token ∈ tokens, token.Read triggers) : WellFormed value := by
  revert read
  refine @Expression.rec
    (fun tokens value _ => FormedBy triggers tokens value)
    (fun tokens value _ => FormedBy triggers tokens value)
    (fun tokens value _ => FormedBy triggers tokens value)
    (fun tokens value _ => FormedBy triggers tokens value)
    (fun tokens value _ => FormedBy triggers tokens value)
    (fun tokens value _ => FormedBy triggers tokens value)
    (fun tokens value _ => FormedBy triggers tokens value)
    (fun tokens values _ => ItemsFormedBy triggers tokens values)
    ?plain ?indented ?application ?dollar ?operator ?operand ?spaced ?tight
    ?operandFields ?tightFields ?tightAtom ?emptyList ?list ?number
    ?identifier ?group ?tuple ?operatorName ?string ?oneItem ?moreItems
    tokens value expression
  -- expressions and their bodies
  case plain => exact fun _ body => body
  case indented =>
    intro blanks tokens value _ body read
    exact body fun token member => read token (List.mem_cons_of_mem _ member)
  case application => exact fun _ application => application
  case dollar =>
    intro sign left right function argument _ _ first second read
    rw [List.forall_mem_append, List.forall_mem_cons] at read
    exact .apply (first read.1) (second read.2.2)
  case operator =>
    intro before name after left right first second _ _ front back read
    rw [List.forall_mem_append, List.forall_mem_cons, List.forall_mem_cons,
      List.forall_mem_cons] at read
    obtain ⟨inLeft, _, ⟨_, _, operator⟩, _, inRight⟩ := read
    exact .apply (.apply (wellFormed_ofOperator operator) (front inLeft))
      (back inRight)
  -- applications and operands
  case operand => exact fun _ operand => operand
  case spaced =>
    intro gap left right function argument _ _ first second read
    rw [List.forall_mem_append, List.forall_mem_cons] at read
    exact .apply (first read.1) (second read.2.2)
  case tight =>
    intro left right function argument _ _ first second read
    rw [List.forall_mem_append] at read
    exact .apply (first read.1) (second read.2)
  case operandFields =>
    intro names tokens value _ atom read
    rw [List.forall_mem_append] at read
    exact (atom read.1).accesses read.2
  case tightFields =>
    intro names tokens value _ atom read
    rw [List.forall_mem_append] at read
    exact (atom read.1).accesses read.2
  -- atoms
  case tightAtom => exact fun _ atom => atom
  case emptyList =>
    intro opening closing read
    exact .list fun _ member => nomatch member
  case list =>
    intro opening closing tokens items _ inside read
    rw [List.cons_append, List.forall_mem_cons, List.forall_mem_append] at read
    exact .list (inside.2 read.2.1)
  case number =>
    intro lexeme read
    exact wellFormed_ofNumber _
  case identifier =>
    intro lexeme read
    obtain ⟨_, _, identifier⟩ := read _ List.mem_cons_self
    exact wellFormed_ofIdentifier identifier
  -- tight atoms
  case group =>
    intro opening closing tokens value _ inside read
    rw [List.cons_append, List.forall_mem_cons, List.forall_mem_append] at read
    exact inside read.2.1
  case tuple =>
    intro opening comma closing first rest head tail _ _ front back read
    rw [List.cons_append, List.cons_append, List.forall_mem_cons,
      List.append_assoc, List.forall_mem_append, List.cons_append,
      List.forall_mem_cons, List.forall_mem_append] at read
    obtain ⟨_, inFirst, _, inRest, _⟩ := read
    have more := List.length_pos_iff.mpr back.1
    refine .tuple (by rw [List.length_cons]; omega) ?_
    rw [List.forall_mem_cons]
    exact ⟨front inFirst, back.2 inRest⟩
  case operatorName =>
    intro lexeme read
    obtain ⟨_, _, operator⟩ := read _ List.mem_cons_self
    exact wellFormed_ofOperatorName operator
  case string =>
    intro lexeme read
    exact .string _
  -- items
  case oneItem =>
    intro tokens value _ item
    refine ⟨List.cons_ne_nil _ _, fun read => ?_⟩
    rw [List.forall_mem_singleton]
    exact item read
  case moreItems =>
    intro comma first rest value values _ _ front back
    refine ⟨List.cons_ne_nil _ _, fun read => ?_⟩
    rw [List.forall_mem_append, List.forall_mem_cons] at read
    rw [List.forall_mem_cons]
    exact ⟨front read.1, back.2 read.2.2⟩

end Expr

end TemplateSyntax
