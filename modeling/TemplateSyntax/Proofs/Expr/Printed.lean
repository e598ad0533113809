import TemplateSyntax.Proofs.Expr.Limits
import TemplateSyntax.Proofs.Expr.StringItem
import TemplateSyntax.Proofs.Expr.WellFormed

/-!
# Expressions in print

The printed text of a well-formed expression is laid with tokens that derive
the expression again, wherever a closing character or the end of the text
follows (`exists_spells`).
-/

namespace TemplateSyntax.Expr

open Scan Grammar

/-! ### What stands behind a printed expression -/

/-- The text ends, or a character follows that closes or separates. -/
def Closes (rest : List Char) : Prop :=
  ∀ c, rest.head? = some c → c ∈ [')', ']', '}', ',']

theorem mem_marks_of_closer {c : Char} (closes : c ∈ [')', ']', '}', ',']) :
    c ∈ marks := by
  simp only [List.mem_cons, List.not_mem_nil, or_false] at closes
  rcases closes with rfl | rfl | rfl | rfl <;> decide

namespace Closes

theorem cons {c : Char} (closes : c ∈ [')', ']', '}', ',']) (rest : List Char) :
    Closes (c :: rest) := by
  intro d head
  cases head
  exact closes

theorem notAhead {accepts : Char → Bool} {rest : List Char}
    (closes : Closes rest)
    (refused : ∀ c ∈ [')', ']', '}', ','], accepts c = false) :
    Scan.notAhead accepts rest = true := by
  cases rest with
  | nil => rfl
  | cons c rest => simp [Scan.notAhead, refused c (closes c rfl)]

variable {rest : List Char} (closes : Closes rest)
include closes

theorem noDot : rest.head? ≠ some '.' := by
  intro dot
  exact absurd (closes '.' dot) (by decide)

theorem stop : Scan.notAhead isNameChar rest = true := by
  apply closes.notAhead
  intro c member
  rw [Bool.eq_false_iff]
  intro name
  exact not_mem_marks_of_isNameChar name (mem_marks_of_closer member)

theorem noDigit : Scan.notAhead Unicode.isDecimal rest = true := by
  apply closes.notAhead
  intro c member
  rw [Bool.eq_false_iff]
  intro decimal
  exact not_mem_marks_of_isDecimal decimal (mem_marks_of_closer member)

end Closes

/-! ### Printed texts and their tokens -/

/-- A text begins with a character that is not blank. -/
def BeginsVisibly (text : List Char) : Prop :=
  ∃ first others, text = first :: others ∧ Unicode.isBlank first = false

/-- The tokens that are laid over the text derive the expression and come to its
limits. -/
structure Spells (text : List Char) (tokens : List Token) (expr : Expr) :
    Prop where
  laid : ∀ triggers rest, Closes rest → Laid triggers (text ++ rest) tokens rest
  application : Application tokens expr
  begins : BeginsVisibly text
  weighs : Weighs tokens expr.levels expr.InDigitLimit

/-- The same for expressions with commas between them; blanks may stand in front
of the first. -/
structure SpellsItems (text : List Char) (tokens : List Token)
    (items : List Expr) : Prop where
  laid : ∀ triggers rest, Closes rest → Laid triggers (text ++ rest) tokens rest
  derives : Items tokens items
  indented : ∀ blanks, Items (⟨.blanks, blanks⟩ :: tokens) items
  begins : BeginsVisibly text
  weighs : Weighs tokens (levelsOf items) (AllInDigitLimit items)

theorem Spells.single {text : List Char} {terminal : Terminal} {expr : Expr}
    (read : ∀ triggers rest, Closes rest →
      terminal.scan triggers (text ++ rest) = some (text, rest))
    (atom : Atom [⟨terminal, text⟩] expr) (begins : BeginsVisibly text)
    (weighs : Weighs [⟨terminal, text⟩] expr.levels expr.InDigitLimit) :
    Spells text [⟨terminal, text⟩] expr where
  laid := fun triggers rest closes => .cons (read triggers rest closes) (.nil _)
  application := by simpa [accesses] using Application.operand (.fields [] atom)
  begins := begins
  weighs := weighs

theorem Spells.expression {text : List Char} {tokens : List Token}
    {expr : Expr} (spells : Spells text tokens expr) :
    Expression tokens expr :=
  .plain (.application spells.application)

theorem Spells.alone {text : List Char} {tokens : List Token} {expr : Expr}
    (spells : Spells text tokens expr) :
    Laid Triggers.standard text tokens [] := by
  have laid := spells.laid Triggers.standard [] fun _ head => nomatch head
  rwa [List.append_nil] at laid

theorem Spells.measures {text : List Char} {tokens : List Token} {expr : Expr}
    (spells : Spells text tokens expr) :
    language.Measures tokens expr expr.levels := by
  have measures := measures_of_plain spells.expression spells.weighs.plain
  have deep := spells.weighs.deepest 0 []
  rw [List.append_nil, deepest, Nat.max_zero, Nat.zero_add] at deep
  rwa [deep] at measures

/-! ### Names and literals -/

theorem BeginsVisibly.of_mark {c : Char} {text : List Char}
    (visible : Unicode.isBlank c = false) : BeginsVisibly (c :: text) :=
  ⟨c, text, rfl, visible⟩

theorem BeginsVisibly.append {text : List Char} (visible : BeginsVisibly text)
    (more : List Char) : BeginsVisibly (text ++ more) := by
  obtain ⟨first, others, rfl, shown⟩ := visible
  exact ⟨first, _, rfl, shown⟩

theorem BeginsVisibly.of_isNameHead {first : Char} (head : isNameHead first = true)
    (others : List Char) : BeginsVisibly (first :: others) := by
  refine ⟨first, others, rfl, ?_⟩
  rw [Bool.eq_false_iff]
  intro blank
  rw [isNameHead_of_isBlank blank] at head
  cases head

theorem exists_head_of_identifier {modules : List (List Char)}
    {word : List Char} (each : ∀ step ∈ modules, IsModule step)
    (isWord : IsWord word) :
    ∃ first others, ['.'].intercalate (modules ++ [word]) = first :: others ∧
      isNameHead first = true := by
  cases modules with
  | nil =>
      obtain ⟨first, others, rfl, begun, _⟩ := isWord
      exact ⟨first, others, by simp, by simp [isNameHead, begun]⟩
  | cons step modules =>
      obtain ⟨first, others, rfl, begun, _⟩ := each step List.mem_cons_self
      rw [List.cons_append, intercalate_dot_cons]
      exact ⟨first, _, rfl, by simp [isNameHead, begun]⟩

theorem Spells.identifier {modules : List (List Char)} {word : List Char}
    {expr : Expr} (each : ∀ step ∈ modules, IsModule step)
    (isWord : IsWord word)
    (value : ofIdentifier (['.'].intercalate (modules ++ [word])) = expr)
    (flat : expr.levels = 3) (noDigits : expr.InDigitLimit) :
    Spells (['.'].intercalate (modules ++ [word]))
      [⟨.identifier, ['.'].intercalate (modules ++ [word])⟩] expr := by
  refine .single ?_ ?_ ?_ ?_
  · intro triggers rest closes
    exact identifier_of_spelled each isWord closes.stop fun _ => closes.noDot
  · rw [← value]
    exact .identifier _
  · obtain ⟨first, others, shape, head⟩ := exists_head_of_identifier each isWord
    rw [shape]
    exact .of_isNameHead head others
  · have weighs :
        Weighs [⟨.identifier, ['.'].intercalate (modules ++ [word])⟩] 3 True :=
      .single_of_ne_number (by simp [PlainToken]) (fun _ => rfl) (by simp)
    exact weighs.congr flat.symm (iff_of_true trivial noDigits)

theorem printName_of_not_mem_marks {name : String} {first : Char}
    {others : List Char} (split : name.toList = first :: others)
    (plain : first ∉ marks) : printName name = name.toList := by
  rw [printName, split]
  simp [isOperatorChar_of_not_mem_marks plain]

theorem printName_of_isWord {name : String} (isWord : IsWord name.toList) :
    printName name = name.toList := by
  obtain ⟨first, others, split, begun, _⟩ := isWord
  have named : isNameHead first = true := by simp [isNameHead, begun]
  exact printName_of_not_mem_marks split (not_mem_marks_of_isNameHead named)

theorem printName_of_isOperator {name : String}
    (isOperator : IsOperator name.toList) :
    printName name = parenthesised name.toList := by
  obtain ⟨first, others, split, begun, _⟩ := isOperator
  rw [printName, split]
  simp [begun]

theorem exists_spells_word {name : String} (isWord : IsWord name.toList) :
    ∃ tokens, Spells (Expr.name name).print tokens (.name name) := by
  have none : ∀ step ∈ ([] : List (List Char)), IsModule step :=
    fun _ member => nomatch member
  have value := ofIdentifier_intercalate none isWord
  rw [if_pos rfl, String.ofList_toList] at value
  have spells := Spells.identifier none isWord value rfl trivial
  have text : (Expr.name name).print =
      ['.'].intercalate ([] ++ [name.toList]) := by
    rw [print, printName_of_isWord isWord]
    simp
  rw [← text] at spells
  exact ⟨_, spells⟩

theorem exists_spells_operator {name : String}
    (isOperator : IsOperator name.toList) :
    ∃ tokens, Spells (Expr.name name).print tokens (.name name) := by
  have value := ofOperatorName_parenthesised name.toList
  rw [String.ofList_toList] at value
  rw [print, printName_of_isOperator isOperator]
  refine ⟨[⟨.operatorName, parenthesised name.toList⟩], .single ?_ ?_ ?_ ?_⟩
  · intro triggers rest _
    exact parenthesisedOperator_of_spelled isOperator rest
  · rw [← value]
    exact .tight (.operatorName _)
  · exact .of_mark (by decide)
  · exact .single_of_ne_number (by simp [PlainToken]) (fun _ => rfl) (by simp)

theorem exists_spells_qualified {modules : List String} {name : String}
    (proper : modules ≠ []) (each : ∀ step ∈ modules, IsModule step.toList)
    (isWord : IsWord name.toList) :
    ∃ tokens, Spells (Expr.qualified modules name).print tokens
      (.qualified modules name) := by
  have steps : ∀ step ∈ modules.map String.toList, IsModule step :=
    List.forall_mem_map.mpr each
  have value := ofIdentifier_intercalate steps isWord
  rw [if_neg (by simpa using proper), String.ofList_toList, List.map_map,
    String.ofList_comp_toList, List.map_id] at value
  have spells := Spells.identifier steps isWord value rfl trivial
  have text : (Expr.qualified modules name).print =
      ['.'].intercalate (modules.map String.toList ++ [name.toList]) := by
    rw [print, List.map_append]
    rfl
  rw [← text] at spells
  exact ⟨_, spells⟩

theorem Spells.number {sign whole fraction : List Char} {expr : Expr}
    (signed : sign = [] ∨ sign = ['-']) (digits : DigitRun whole)
    (pointed : fraction = [] ∨ ∃ run, fraction = '.' :: run ∧ DigitRun run)
    (value : ofNumber (.ofLexeme (sign ++ whole ++ fraction)) = expr)
    (flat : expr.levels = 3)
    (sound : (NumberLiteral.ofLexeme (sign ++ whole ++ fraction)).error? =
      none ↔ expr.InDigitLimit) :
    Spells (sign ++ whole ++ fraction)
      [⟨.number, sign ++ whole ++ fraction⟩] expr := by
  refine .single ?_ ?_ ?_ ?_
  · intro triggers rest closes
    exact number_of_parts signed digits pointed closes.noDigit closes.noDot
  · rw [← value]
    exact .number _
  · rcases signed with rfl | rfl
    · obtain ⟨first, others, rfl⟩ := List.exists_cons_of_ne_nil digits.1
      refine ⟨first, others ++ fraction, rfl, ?_⟩
      rw [Bool.eq_false_iff]
      intro blank
      have digit := digits.2 first List.mem_cons_self
      rw [Unicode.isDecimal_of_isBlank blank] at digit
      cases digit
    · exact .of_mark (by decide)
  · have weighs : Weighs [⟨.number, sign ++ whole ++ fraction⟩] 3 _ :=
      .single (by simp [PlainToken]) (fun _ => rfl)
    refine weighs.congr flat.symm ?_
    rw [Token.error?, if_pos rfl]
    exact sound

theorem exists_spells_integer (value : Int) :
    ∃ tokens, Spells (Expr.integer value).print tokens (.integer value) := by
  have number := ofNumber_integer value
  have sound := error?_integer value
  rw [print]
  rw [toList_toString] at number sound ⊢
  exact ⟨_, .number (sign_cases _) (PlainRun.toDigits _).digitRun (.inl rfl)
    number rfl sound⟩

theorem exists_spells_rational {value : Rat} (finite : EndsInDigits value) :
    ∃ tokens, Spells (Expr.rational value).print tokens (.rational value) := by
  have number := ofNumber_rational finite
  have sound := error?_rational finite
  rw [print]
  rw [printRational_eq] at number sound ⊢
  exact ⟨_, .number (sign_cases _) (PlainRun.toDigits _).digitRun
    (.inr ⟨_, rfl, (padded_plain _ _).digitRun⟩) number rfl sound⟩

/-! ### Strings -/

theorem Spells.string (items : List StringItem) :
    Spells (StringItem.literal items)
      [⟨.string, StringItem.literal items⟩]
      (.string (StringItem.meaning items)) := by
  refine .single ?_ ?_ ?_ ?_
  · intro triggers rest _
    exact stringLiteral_items items rest
  · rw [← ofString_literal]
    exact .tight (.string _)
  · exact .of_mark (by decide)
  · exact .single_of_ne_number (by simp [PlainToken]) (fun _ => rfl) (by simp)

theorem exists_spells_string (text : String) :
    ∃ tokens, Spells (Expr.string text).print tokens (.string text) := by
  have spells := Spells.string (text.toList.map StringItem.ofChar)
  rw [StringItem.meaning_ofChar, StringItem.literal_ofChar] at spells
  exact ⟨_, spells⟩

/-! ### Brackets -/

def groupTokens (tokens : List Token) : List Token :=
  ⟨.exprOpenParen, ['(']⟩ :: tokens ++ [⟨.exprCloseParen, [')']⟩]

def listTokens (tokens : List Token) : List Token :=
  ⟨.exprOpenBracket, ['[']⟩ :: tokens ++ [⟨.exprCloseBracket, [']']⟩]

/-- Brackets around a text; the closing one takes the blanks behind the text. -/
theorem laid_between {opening closing : Terminal} {opener closer : Char}
    {triggers : Triggers} {text trail rest : List Char} {tokens : List Token}
    (opens : opening.scan triggers = char opener)
    (closes : closing.scan triggers = blanksThen isSpaceOrTab (char closer))
    (visible : isSpaceOrTab closer = false)
    (blank : ∀ c ∈ trail, isSpaceOrTab c = true)
    (inside : Laid triggers (text ++ closer :: rest) tokens
      (trail ++ closer :: rest)) :
    Laid triggers (opener :: text ++ [closer] ++ rest)
      (⟨opening, [opener]⟩ :: tokens ++ [⟨closing, trail ++ [closer]⟩]) rest := by
  have front : opening.scan triggers (opener :: (text ++ closer :: rest)) =
      some ([opener], text ++ closer :: rest) := by
    rw [opens]
    exact read_char _ _
  have back : closing.scan triggers (trail ++ closer :: rest) =
      some (trail ++ [closer], rest) := by
    rw [closes]
    exact blanksThen_gap visible blank rest
  simpa using Laid.cons front (inside.append (.cons back (.nil _)))

section Bracket

variable {text : List Char} {tokens : List Token}
  (laid : ∀ triggers rest, Closes rest →
    Laid triggers (text ++ rest) tokens rest)
include laid

theorem laid_bracket {opening closing : Terminal} {opener closer : Char}
    (opens : ∀ triggers, opening.scan triggers = char opener)
    (closes : ∀ triggers,
      closing.scan triggers = blanksThen isSpaceOrTab (char closer))
    (visible : isSpaceOrTab closer = false) (ends : closer ∈ [')', ']', '}', ','])
    (triggers : Triggers) (rest : List Char) :
    Laid triggers (opener :: text ++ [closer] ++ rest)
      (⟨opening, [opener]⟩ :: tokens ++ [⟨closing, [closer]⟩]) rest :=
  laid_between (opens triggers) (closes triggers) visible (List.forall_mem_nil _)
    (laid triggers (closer :: rest) (.cons ends rest))

theorem laid_groupTokens (triggers : Triggers) (rest : List Char) :
    Laid triggers (parenthesised text ++ rest) (groupTokens tokens) rest :=
  laid_bracket laid (fun _ => rfl) (fun _ => rfl) (by decide) (by decide)
    triggers rest

theorem laid_listTokens (triggers : Triggers) (rest : List Char) :
    Laid triggers ('[' :: text ++ [']'] ++ rest) (listTokens tokens) rest :=
  laid_bracket laid (fun _ => rfl) (fun _ => rfl) (by decide) (by decide)
    triggers rest

end Bracket

theorem weighs_groupTokens {tokens : List Token} {height : Nat}
    {valued : Prop} (inside : Weighs tokens height valued) :
    Weighs (groupTokens tokens) (height + 4) valued :=
  inside.bracketed (.inl rfl) (.inl rfl)

theorem read_spaces {c : Char} (other : c ≠ ' ') (rest : List Char) :
    some1 isSpace (' ' :: c :: rest) = some ([' '], c :: rest) :=
  read_of_spelled (Spelled.single rfl) (by simp [notAhead, isSpace, other])

theorem read_lead {lead text : List Char}
    (blank : ∀ c ∈ lead, isSpaceOrTab c = true) (begins : BeginsVisibly text)
    (rest : List Char) :
    some1 isSpaceOrTab (' ' :: lead ++ (text ++ rest)) =
      some (' ' :: lead, text ++ rest) := by
  obtain ⟨first, others, rfl, visible⟩ := begins
  refine read_of_spelled ⟨' ', lead, rfl, rfl, blank⟩ ?_
  have shown : isSpaceOrTab first = false := by
    rw [Bool.eq_false_iff]
    intro blank
    rw [isBlank_of_isSpaceOrTab first blank] at visible
    cases visible
  simp [notAhead, shown]

theorem read_blanks {text : List Char} (begins : BeginsVisibly text)
    (rest : List Char) :
    some1 isSpaceOrTab (' ' :: (text ++ rest)) = some ([' '], text ++ rest) :=
  read_lead (List.forall_mem_nil _) begins rest

theorem Spells.apply {left right : List Char} {tokens tokens' : List Token}
    {function argument : Expr} (first : Spells left tokens function)
    (second : Spells right tokens' argument) :
    Spells (parenthesised left ++ ' ' :: parenthesised right)
      (groupTokens tokens ++ ⟨.spaces, [' ']⟩ :: groupTokens tokens')
      (.apply function argument) where
  laid := by
    intro triggers rest _
    have back := laid_groupTokens second.laid triggers rest
    have gap : Terminal.spaces.scan triggers
        (' ' :: (parenthesised right ++ rest)) =
        some ([' '], parenthesised right ++ rest) :=
      read_spaces (by decide) _
    rw [List.append_assoc]
    exact (laid_groupTokens first.laid triggers _).append (.cons gap back)
  application := by
    have called := Application.operand (.fields []
      (.tight (.group ['('] [')'] first.expression)))
    have handed := Operand.fields []
      (.tight (.group ['('] [')'] second.expression))
    have whole := Application.spaced [' '] called handed
    simpa [accesses, groupTokens] using whole
  begins := .of_mark (by decide)
  weighs := by
    have gap : Weighs [⟨.spaces, [' ']⟩] 3 True :=
      .single_of_ne_number (by simp [PlainToken]) (fun _ => rfl) (by simp)
    have front := weighs_groupTokens first.weighs
    have back := weighs_groupTokens second.weighs
    refine (front.append (gap.append back)).congr ?_ ?_
    · rw [levels]
      omega
    · rw [InDigitLimit, true_and]

theorem Spells.field {text : List Char} {tokens : List Token} {record : Expr}
    {name : String} (spells : Spells text tokens record)
    (isField : IsField name.toList) :
    Spells (parenthesised text ++ '.' :: name.toList)
      (groupTokens tokens ++ [⟨.fieldAccess, '.' :: name.toList⟩])
      (.field record name) where
  laid := by
    intro triggers rest closes
    have access : Terminal.fieldAccess.scan triggers
        ('.' :: name.toList ++ rest) = some ('.' :: name.toList, rest) :=
      fieldAccess_of_spelled isField closes.stop
    rw [List.append_assoc]
    exact (laid_groupTokens spells.laid triggers _).append
      (.cons access (.nil _))
  application := by
    have whole := Application.operand (.fields ['.' :: name.toList]
      (.tight (.group ['('] [')'] spells.expression)))
    simpa [accesses, groupTokens, access] using whole
  begins := .of_mark (by decide)
  weighs := by
    have named : Weighs [⟨.fieldAccess, '.' :: name.toList⟩] 3 True :=
      .single_of_ne_number (by simp [PlainToken]) (fun _ => rfl) (by simp)
    have front := weighs_groupTokens spells.weighs
    refine (front.append named).congr ?_ ?_
    · have deep : 3 ≤ record.levels := record.three_le_levels
      rw [levels]
      omega
    · rw [InDigitLimit, and_true]

/-! ### Items -/

theorem commaSeparated_cons (first second : List Char)
    (others : List (List Char)) :
    commaSeparated (first :: second :: others) =
      first ++ ',' :: ' ' :: commaSeparated (second :: others) := by
  simp [commaSeparated]

theorem SpellsItems.one {text : List Char} {tokens : List Token} {expr : Expr}
    (spells : Spells text tokens expr) :
    SpellsItems (commaSeparated [text]) tokens [expr] where
  laid := by simpa [commaSeparated] using spells.laid
  derives := .one spells.expression
  indented := fun blanks =>
    .one (.indented blanks (.application spells.application))
  begins := by simpa [commaSeparated] using spells.begins
  weighs := by
    refine spells.weighs.congr ?_ ?_
    · rw [levelsOf, levelsOf, Nat.max_zero]
    · rw [AllInDigitLimit, AllInDigitLimit, and_true]

theorem SpellsItems.more {text next : List Char} {texts : List (List Char)}
    {tokens tokens' : List Token} {expr : Expr} {items : List Expr}
    (spells : Spells text tokens expr)
    (later : SpellsItems (commaSeparated (next :: texts)) tokens' items) :
    SpellsItems (commaSeparated (text :: next :: texts))
      (tokens ++ ⟨.exprComma, [',']⟩ :: ⟨.blanks, [' ']⟩ :: tokens')
      (expr :: items) where
  laid := by
    intro triggers rest closes
    have comma : Terminal.exprComma.scan triggers
        (',' :: ' ' :: (commaSeparated (next :: texts) ++ rest)) =
        some ([','], ' ' :: (commaSeparated (next :: texts) ++ rest)) :=
      blanksThen_char (by decide) _
    have blank : Terminal.blanks.scan triggers
        (' ' :: (commaSeparated (next :: texts) ++ rest)) =
        some ([' '], commaSeparated (next :: texts) ++ rest) :=
      read_blanks later.begins rest
    have first := spells.laid triggers
      (',' :: ' ' :: (commaSeparated (next :: texts) ++ rest))
      (.cons (by simp) _)
    rw [commaSeparated_cons, List.append_assoc]
    exact first.append
      (.cons comma (.cons blank (later.laid triggers rest closes)))
  derives := .more [','] spells.expression (later.indented [' '])
  indented := fun blanks =>
    .more [','] (.indented blanks (.application spells.application))
      (later.indented [' '])
  begins := by
    rw [commaSeparated_cons]
    exact spells.begins.append _
  weighs := by
    have comma : Weighs [⟨.exprComma, [',']⟩] 0 True :=
      .single_of_ne_number (by simp [PlainToken]) (fun _ => rfl) (by simp)
    have blank : Weighs [⟨.blanks, [' ']⟩] 3 True :=
      .single_of_ne_number (by simp [PlainToken]) (fun _ => rfl) (by simp)
    refine (spells.weighs.append
      (comma.append (blank.append later.weighs))).congr ?_ ?_
    · have deep : 3 ≤ expr.levels := expr.three_le_levels
      rw [levelsOf]
      omega
    · rw [AllInDigitLimit, true_and, true_and]

theorem exists_spellsItems {items : List Expr} (proper : items ≠ [])
    (each : ∀ item ∈ items, ∃ tokens, Spells item.print tokens item) :
    ∃ tokens, SpellsItems (commaSeparated (printItems items)) tokens items := by
  induction items with
  | nil => exact absurd rfl proper
  | cons item items ih =>
      obtain ⟨tokens, spells⟩ := each item List.mem_cons_self
      cases items with
      | nil => exact ⟨tokens, .one spells⟩
      | cons next items =>
          obtain ⟨tokens', later⟩ := ih (List.cons_ne_nil _ _)
            fun other member => each other (List.mem_cons_of_mem _ member)
          exact ⟨_, .more spells later⟩

theorem exists_spells_list {items : List Expr}
    (each : ∀ item ∈ items, ∃ tokens, Spells item.print tokens item) :
    ∃ tokens, Spells (Expr.list items).print tokens (.list items) := by
  rw [print]
  by_cases empty : items = []
  · subst empty
    refine ⟨listTokens [], ?_, ?_, .of_mark (by decide),
      Weighs.nil.bracketed (.inr rfl) (.inr rfl)⟩
    · intro triggers rest _
      exact .cons (read_char _ _)
        (.cons (blanksThen_char (by decide) rest) (.nil _))
    · simpa [accesses, listTokens] using
        Application.operand (.fields [] (.emptyList ['['] [']']))
  · obtain ⟨tokens, spells⟩ := exists_spellsItems empty each
    refine ⟨listTokens tokens,
      fun triggers rest _ => laid_listTokens spells.laid triggers rest, ?_,
      .of_mark (by decide), ?_⟩
    · simpa [accesses, listTokens] using
        Application.operand (.fields [] (.list ['['] [']'] spells.derives))
    · exact spells.weighs.bracketed (.inr rfl) (.inr rfl)

theorem exists_spells_tuple {items : List Expr} (several : 2 ≤ items.length)
    (each : ∀ item ∈ items, ∃ tokens, Spells item.print tokens item) :
    ∃ tokens, Spells (Expr.tuple items).print tokens (.tuple items) := by
  have proper : items ≠ [] := by
    rintro rfl
    simp at several
  obtain ⟨tokens, spells⟩ := exists_spellsItems proper each
  rw [print]
  refine ⟨groupTokens tokens,
    fun triggers rest _ => laid_groupTokens spells.laid triggers rest, ?_,
    .of_mark (by decide), weighs_groupTokens spells.weighs⟩
  have derives := spells.derives
  cases derives with
  | one => simp at several
  | more comma first rest =>
      simpa [accesses, groupTokens] using Application.operand
        (.fields [] (.tight (.tuple ['('] comma [')'] first rest)))

/-- The printed text of every well-formed expression can be read as the
expression.  By induction over the expression, with one lemma for each kind. -/
theorem exists_spells {expr : Expr} (formed : WellFormed expr) :
    ∃ tokens, Spells expr.print tokens expr := by
  induction formed with
  | word isWord => exact exists_spells_word isWord
  | operator isOperator => exact exists_spells_operator isOperator
  | qualified proper each isWord =>
      exact exists_spells_qualified proper each isWord
  | integer value => exact exists_spells_integer value
  | rational finite => exact exists_spells_rational finite
  | string text => exact exists_spells_string text
  | apply _ _ first second =>
      obtain ⟨_, function⟩ := first
      obtain ⟨_, argument⟩ := second
      rw [print]
      exact ⟨_, function.apply argument⟩
  | list _ each => exact exists_spells_list each
  | tuple several _ each => exact exists_spells_tuple several each
  | field _ isField inside =>
      obtain ⟨_, record⟩ := inside
      rw [print]
      exact ⟨_, record.field isField⟩

end TemplateSyntax.Expr
