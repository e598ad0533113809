import TemplateSyntax.Proofs.Expr.WellFormed
import TemplateSyntax.Proofs.Pattern.Completeness

/-!
# Patterns that reading can produce

`WellFormed` says of every part of a pattern what its lexeme allows: variables
are variable words, the pieces of a constructor are capital words or operators,
a field may have any name, and a tuple does not have exactly one item.  Every
pattern that is read is well-formed (`wellFormed_of_whole`).
-/

namespace TemplateSyntax

namespace Scan

def IsVariable : List Char → Prop :=
  Spelled isVariableStart isNameChar

/-- A word that names a constructor. -/
def IsCapital : List Char → Prop :=
  Spelled Unicode.isCapitalLetter isNameChar

/-- A piece of a constructor's name. -/
def IsPiece (piece : List Char) : Prop :=
  IsCapital piece ∨ IsOperator piece

def IsFieldName (name : List Char) : Prop :=
  IsVariable name ∨ IsPiece name

end Scan

namespace Pattern

open Scan Grammar

/-- Every piece of the name is one that can be read. -/
def IsConstructor (head : QualifiedName) : Prop :=
  ∀ piece ∈ head.modules ++ [head.name], IsPiece piece.toList

/-- Every part of the pattern is one that can be read.  A field that is a
variable of its own name may have a name that no other variable has. -/
inductive WellFormed : Pattern → Prop where
  | var {name : String} : IsVariable name.toList → WellFormed (.var name)
  | named {name : String} {pattern : Pattern} :
      IsVariable name.toList → WellFormed pattern →
      WellFormed (.named name pattern)
  | construct {head : QualifiedName} {arguments : List Pattern} :
      IsConstructor head → (∀ argument ∈ arguments, WellFormed argument) →
      WellFormed (.construct head arguments)
  | record {head : QualifiedName} {fields : List (String × Pattern)}
      (wildcard : Bool) :
      IsConstructor head → (∀ field ∈ fields, IsFieldName field.1.toList) →
      (∀ field ∈ fields, field.2 ≠ .var field.1 → WellFormed field.2) →
      WellFormed (.record head fields wildcard)
  | tuple {items : List Pattern} :
      items.length ≠ 1 → (∀ item ∈ items, WellFormed item) →
      WellFormed (.tuple items)
  | list {items : List Pattern} :
      (∀ item ∈ items, WellFormed item) → WellFormed (.list items)

/-! ### What the lexemes stand for -/

section Lexeme

variable {text lexeme rest : List Char}

theorem trimmed_append {word spaces : List Char}
    (proper : word.getLast? ≠ some ' ') (blank : ∀ c ∈ spaces, c = ' ') :
    trimmed (word ++ spaces) = word := by
  have skipped : ∀ c ∈ spaces.reverse, (c == ' ') = true := by
    intro c member
    rw [blank c (List.mem_reverse.mp member)]
    rfl
  have ended : word.reverse.dropWhile (· == ' ') = word.reverse := by
    cases split : word.reverse with
    | nil => rfl
    | cons c others =>
        have last : word.getLast? = some c := by
          rw [List.getLast?_eq_head?_reverse, split]
          rfl
        have other : (c == ' ') = false := by
          rw [beq_eq_false_iff_ne]
          rintro rfl
          exact proper last
        rw [List.dropWhile_cons, other]
        rfl
  rw [trimmed, List.reverse_append, List.dropWhile_append_of_pos skipped,
    ended, List.reverse_reverse]

theorem exists_of_spacedRead {scan : Scan}
    (read : spaced scan text = some (lexeme, rest)) :
    ∃ word spaces middle, scan text = some (word, middle) ∧
      lexeme = word ++ spaces ∧ ∀ c ∈ spaces, c = ' ' := by
  obtain ⟨word, middle, spaces, first, skipped, rfl⟩ :=
    andThen_eq_some_iff.mp read
  obtain ⟨rfl, _⟩ := many_eq_some_iff.mp skipped
  refine ⟨word, _, middle, first, rfl, fun c member => ?_⟩
  have space := List.all_eq_true.mp List.all_takeWhile c member
  simpa [isSpace] using space

theorem getLast?_ne_space {begins : Char → Bool} {word : List Char}
    (spelled : Spelled begins isNameChar word)
    (named : ∀ c, begins c = true → c ∉ marks) :
    word.getLast? ≠ some ' ' := by
  have begun : begins ' ' = false := by
    rw [Bool.eq_false_iff]
    exact fun begun => named ' ' begun (by decide)
  have noSpace := spelled.not_mem begun (by decide)
  exact fun last => noSpace (List.mem_of_getLast? last)

theorem not_mem_marks_of_isVariableStart {c : Char}
    (start : isVariableStart c = true) : c ∉ marks := by
  simp only [isVariableStart, Bool.and_eq_true] at start
  exact not_mem_marks_of_isNameChar start.1

theorem spelled_of_variableWord
    (read : spaced variableWord text = some (lexeme, rest)) :
    IsVariable (trimmed lexeme) := by
  obtain ⟨word, spaces, _, first, rfl, blank⟩ := exists_of_spacedRead read
  have spelled : IsVariable word := spelled_of_read first
  rwa [trimmed_append (getLast?_ne_space spelled
    fun _ => not_mem_marks_of_isVariableStart) blank]

theorem spelled_of_capitalWord
    (read : spaced capitalWord text = some (lexeme, rest)) :
    IsCapital (trimmed lexeme) := by
  obtain ⟨word, spaces, _, first, rfl, blank⟩ := exists_of_spacedRead read
  have spelled : IsCapital word := spelled_of_read first
  rwa [trimmed_append (getLast?_ne_space spelled
    fun _ => not_mem_marks_of_isCapitalLetter) blank]

theorem spelled_of_operatorConstructor
    (read : spaced parenthesisedOperator text = some (lexeme, rest)) :
    IsOperator (trimmed lexeme).tail.dropLast := by
  obtain ⟨_, spaces, _, first, rfl, blank⟩ := exists_of_spacedRead read
  obtain ⟨word, isOperator, rfl⟩ := Expr.spelled_of_parenthesisedOperator first
  have last : (Expr.parenthesised word).getLast? ≠ some ' ' := by
    rw [Expr.parenthesised, List.getLast?_concat]
    decide
  rw [trimmed_append last blank]
  simpa [Expr.parenthesised] using isOperator

end Lexeme

/-! ### Derivations -/

variable {triggers : Triggers}

theorem isVariable_wordName {lexeme : List Char}
    (read : Token.Read triggers ⟨.variableWord, lexeme⟩) :
    IsVariable (wordName lexeme).toList := by
  obtain ⟨_, _, scanned⟩ := read
  rw [wordName, String.toList_ofList]
  exact spelled_of_variableWord scanned

theorem isPiece_of_piece {token : Token} {name : String}
    (piece : Piece token name) (read : token.Read triggers) :
    IsPiece name.toList := by
  obtain ⟨_, _, scanned⟩ := read
  cases piece with
  | word =>
      rw [wordName, String.toList_ofList]
      exact .inl (spelled_of_capitalWord scanned)
  | operator =>
      rw [operatorName, String.toList_ofList]
      exact .inr (spelled_of_operatorConstructor scanned)

theorem isFieldName_of_fieldName {token : Token} {name : String}
    (isName : FieldName token name) (read : token.Read triggers) :
    IsFieldName name.toList := by
  cases isName with
  | variableWord => exact .inl (isVariable_wordName read)
  | piece piece => exact .inr (isPiece_of_piece piece read)

theorem isPiece_of_pieces {tokens : List Token} {names : List String}
    (pieces : Pieces tokens names)
    (read : ∀ token ∈ tokens, token.Read triggers) :
    names ≠ [] ∧ ∀ name ∈ names, IsPiece name.toList := by
  induction pieces with
  | one piece =>
      rw [List.forall_mem_singleton] at read
      exact ⟨List.cons_ne_nil _ _,
        List.forall_mem_singleton.mpr (isPiece_of_piece piece read)⟩
  | more dot piece _ ih =>
      rw [List.forall_mem_cons, List.forall_mem_cons] at read
      exact ⟨List.cons_ne_nil _ _, List.forall_mem_cons.mpr
        ⟨isPiece_of_piece piece read.1, (ih read.2.2).2⟩⟩

theorem constructorName_append (modules : List String) (name : String) :
    constructorName (modules ++ [name]).reverse = ⟨modules, name⟩ := by
  simp [constructorName]

theorem isConstructor_of_constructor {tokens : List Token}
    {head : QualifiedName} (constructor : Constructor tokens head)
    (read : ∀ token ∈ tokens, token.Read triggers) : IsConstructor head := by
  cases constructor with
  | pieces pieces =>
      obtain ⟨proper, each⟩ := isPiece_of_pieces pieces read
      obtain ⟨modules, name, rfl⟩ :=
        (List.eq_nil_or_concat _).resolve_left proper
      rw [List.concat_eq_append] at each ⊢
      rw [constructorName_append]
      exact each

/-- The pattern is well-formed if its tokens have been read. -/
def FormedBy (triggers : Triggers) (tokens : List Token) (value : Pattern) :
    Prop :=
  (∀ token ∈ tokens, token.Read triggers) → WellFormed value

/-- The patterns, at least one, are well-formed if their tokens have been
read. -/
def ItemsFormedBy (triggers : Triggers) (tokens : List Token)
    (values : List Pattern) : Prop :=
  values ≠ [] ∧
    ((∀ token ∈ tokens, token.Read triggers) →
      ∀ value ∈ values, WellFormed value)

theorem ItemsFormedBy.one {tokens : List Token} {value : Pattern}
    (formed : FormedBy triggers tokens value) :
    ItemsFormedBy triggers tokens [value] :=
  ⟨List.cons_ne_nil _ _, fun read =>
    List.forall_mem_singleton.mpr (formed read)⟩

/-- The name is that of a field, and the pattern is well-formed unless it is the
variable of that name. -/
def FieldFormed (field : String × Pattern) : Prop :=
  IsFieldName field.1.toList ∧
    (field.2 ≠ .var field.1 → WellFormed field.2)

/-- Every pattern that is read is well-formed.  By induction over the
derivation. -/
theorem wellFormed_of_whole {tokens : List Token} {value : Pattern}
    (whole : Whole tokens value)
    (read : ∀ token ∈ tokens, token.Read triggers) : WellFormed value := by
  revert read
  refine @Whole.rec
    (fun tokens value _ => FormedBy triggers tokens value)
    (fun tokens values _ => ItemsFormedBy triggers tokens values)
    (fun tokens value _ => FormedBy triggers tokens value)
    (fun tokens fields _ _ =>
      (∀ token ∈ tokens, token.Read triggers) →
        ∀ field ∈ fields, FieldFormed field)
    (fun tokens field _ =>
      (∀ token ∈ tokens, token.Read triggers) → FieldFormed field)
    (fun tokens values _ => ItemsFormedBy triggers tokens values)
    ?part ?application ?oneArgument ?moreArguments ?var ?named ?bare
    ?emptyRecord ?openRecord ?record ?emptyTuple ?group ?tuple ?emptyList
    ?list ?oneField ?oneFieldOpen ?moreFields ?punned ?bound ?oneItem
    ?moreItems
    tokens value whole
  -- patterns and arguments
  case part => exact fun _ part => part
  case application =>
    intro first rest head arguments constructor _ later read
    rw [List.forall_mem_append] at read
    exact .construct (isConstructor_of_constructor constructor read.1)
      (later.2 read.2)
  case oneArgument => exact fun _ part => .one part
  case moreArguments =>
    intro first rest value values _ _ part later
    refine ⟨List.cons_ne_nil _ _, fun read => ?_⟩
    rw [List.forall_mem_append] at read
    exact List.forall_mem_cons.mpr ⟨part read.1, later.2 read.2⟩
  -- parts
  case var =>
    intro lexeme read
    exact .var (isVariable_wordName (read _ List.mem_cons_self))
  case named =>
    intro lexeme sign tokens value _ part read
    rw [List.forall_mem_cons, List.forall_mem_cons] at read
    exact .named (isVariable_wordName read.1) (part read.2.2)
  case bare =>
    intro tokens head constructor read
    exact .construct (isConstructor_of_constructor constructor read)
      fun _ member => nomatch member
  case emptyRecord =>
    intro opening closing tokens head constructor read
    rw [List.forall_mem_append] at read
    exact .record false (isConstructor_of_constructor constructor read.1)
      (fun _ member => nomatch member) (fun _ member => nomatch member)
  case openRecord =>
    intro opening dots closing tokens head constructor read
    rw [List.forall_mem_append] at read
    exact .record true (isConstructor_of_constructor constructor read.1)
      (fun _ member => nomatch member) (fun _ member => nomatch member)
  case record =>
    intro opening closing first rest head fields wildcard constructor _ inside
      read
    rw [List.append_assoc, List.forall_mem_append, List.cons_append,
      List.forall_mem_cons, List.forall_mem_append] at read
    obtain ⟨inHead, _, inFields, _⟩ := read
    have formed := inside inFields
    exact .record wildcard (isConstructor_of_constructor constructor inHead)
      (fun field member => (formed field member).1)
      (fun field member => (formed field member).2)
  case emptyTuple =>
    intro opening closing read
    exact .tuple (by simp) fun _ member => nomatch member
  case group =>
    intro opening closing tokens value _ inside read
    rw [List.cons_append, List.forall_mem_cons, List.forall_mem_append] at read
    exact inside read.2.1
  case tuple =>
    intro opening comma closing first rest head tail _ _ front back read
    rw [List.cons_append, List.cons_append, List.forall_mem_cons,
      List.append_assoc, List.forall_mem_append, List.cons_append,
      List.forall_mem_cons, List.forall_mem_append] at read
    obtain ⟨_, inFirst, _, inRest, _⟩ := read
    have more := List.length_pos_iff.mpr back.1
    refine .tuple (by rw [List.length_cons]; omega) ?_
    exact List.forall_mem_cons.mpr ⟨front inFirst, back.2 inRest⟩
  case emptyList =>
    intro opening closing read
    exact .list fun _ member => nomatch member
  case list =>
    intro opening closing tokens items _ inside read
    rw [List.cons_append, List.forall_mem_cons, List.forall_mem_append] at read
    exact .list (inside.2 read.2.1)
  -- fields
  case oneField =>
    intro tokens field _ formed read
    exact List.forall_mem_singleton.mpr (formed read)
  case oneFieldOpen =>
    intro comma dots tokens field _ formed read
    rw [List.forall_mem_append] at read
    exact List.forall_mem_singleton.mpr (formed read.1)
  case moreFields =>
    intro comma first rest field fields wildcard _ _ formed later read
    rw [List.forall_mem_append, List.forall_mem_cons] at read
    exact List.forall_mem_cons.mpr ⟨formed read.1, later read.2.2⟩
  case punned =>
    intro token name isName read
    exact ⟨isFieldName_of_fieldName isName (read _ List.mem_cons_self),
      fun other => absurd rfl other⟩
  case bound =>
    intro sign token tokens name value isName _ formed read
    rw [List.forall_mem_cons, List.forall_mem_cons] at read
    exact ⟨isFieldName_of_fieldName isName read.1,
      fun _ => formed read.2.2⟩
  -- items
  case oneItem => exact fun _ item => .one item
  case moreItems =>
    intro comma first rest value values _ _ front back
    refine ⟨List.cons_ne_nil _ _, fun read => ?_⟩
    rw [List.forall_mem_append, List.forall_mem_cons] at read
    exact List.forall_mem_cons.mpr ⟨front read.1, back.2 read.2.2⟩

end Pattern

end TemplateSyntax
