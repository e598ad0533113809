import TemplateSyntax.Pattern.Print
import TemplateSyntax.Proofs.Expr.Printed
import TemplateSyntax.Proofs.Pattern.Lookahead
import TemplateSyntax.Proofs.Pattern.WellFormed

/-!
# Patterns in print

The printed text of a well-formed pattern, with any spaces behind it, is laid
with tokens that are read as the pattern again (`exists_spells`).  The last
token takes the spaces, because every token of a pattern does.  How deep the
reading goes can be told from the pattern (`nesting`).
-/

namespace TemplateSyntax.Pattern

open Scan Grammar
open TemplateSyntax.Expr (BeginsVisibly commaSeparated commaSeparated_cons
  parenthesised printName printName_of_not_mem_marks)

/-! ### How deep a printed pattern goes -/

mutual

/-- How many nodes of the syntax tree lie between the printed pattern and its
deepest part. -/
def nesting : Pattern → Nat
  | .var _ => 0
  | .named _ pattern => nesting pattern + 2
  | .construct _ arguments =>
      nestingOf arguments + if arguments.isEmpty then 1 else 2
  | .record _ fields _ => nestingOfFields fields + 1
  | .tuple items => nestingOf items + if items.isEmpty then 0 else 1
  | .list items => nestingOf items + if items.isEmpty then 0 else 1

def nestingOf : List Pattern → Nat
  | [] => 0
  | item :: items => max (nesting item) (nestingOf items)

/-- The same for fields side by side; a field that is written alone holds no
part. -/
def nestingOfFields : List (String × Pattern) → Nat
  | [] => 0
  | (name, value) :: fields =>
      max (if isPunned name value then 0 else nesting value + 1)
        (nestingOfFields fields)

end

/-! ### Tokens and the spaces behind them -/

def Spaces (gap : List Char) : Prop :=
  ∀ c ∈ gap, c = ' '

instance (gap : List Char) : Decidable (Spaces gap) :=
  List.decidableBAll _ gap

theorem Spaces.nil : Spaces [] :=
  fun _ member => nomatch member

theorem Spaces.one : Spaces [' '] :=
  fun _ member => List.mem_singleton.mp member

/-- The text ends, or a character follows that goes on neither with a word nor
with spaces. -/
def Stops (rest : List Char) : Prop :=
  ∀ c, rest.head? = some c → c ∈ marks ∧ c ≠ ' '

theorem Stops.cons {c : Char} (mark : c ∈ marks) (other : c ≠ ' ')
    (rest : List Char) : Stops (c :: rest) := by
  rintro _ ⟨⟩
  exact ⟨mark, other⟩

theorem notAhead_isSpace {rest : List Char}
    (other : rest.head? ≠ some ' ') : notAhead isSpace rest = true := by
  cases rest with
  | nil => rfl
  | cons c rest =>
      have notSpace : c ≠ ' ' := by simpa using other
      simp [notAhead, isSpace, notSpace]

theorem Stops.notSpace {rest : List Char} (stops : Stops rest) :
    notAhead isSpace rest = true :=
  notAhead_isSpace fun space => (stops ' ' space).2 rfl

/-- No name goes on with spaces, nor behind none of them if it does not go on
there. -/
theorem notName_of_spaces {gap rest : List Char} (blank : Spaces gap)
    (stop : gap = [] → notAhead isNameChar rest = true) :
    notAhead isNameChar (gap ++ rest) = true := by
  cases gap with
  | nil => exact stop rfl
  | cons c gap =>
      obtain rfl := blank c List.mem_cons_self
      have refused : isNameChar ' ' = false := by decide
      simp [notAhead, refused]

theorem notName_of_mark {c : Char} (mark : c ∈ marks) (rest : List Char) :
    notAhead isNameChar (c :: rest) = true := by
  have refused : isNameChar c = false := by
    rw [Bool.eq_false_iff]
    exact fun name => not_mem_marks_of_isNameChar name mark
  simp [notAhead, refused]

theorem Stops.notName {gap rest : List Char} (stops : Stops rest)
    (blank : Spaces gap) : notAhead isNameChar (gap ++ rest) = true := by
  refine notName_of_spaces blank fun _ => ?_
  cases rest with
  | nil => rfl
  | cons c rest => exact notName_of_mark (stops c rfl).1 rest

/-- The tokens are laid over the text and the spaces behind it. -/
def Covers (text gap : List Char) (tokens : List Token) : Prop :=
  ∀ triggers rest, Stops rest →
    Laid triggers (text ++ (gap ++ rest)) tokens rest

/-- A rule of patterns takes the spaces behind what it names. -/
theorem spaced_read {scan : Scan} {word gap rest : List Char}
    (read : scan (word ++ (gap ++ rest)) = some (word, gap ++ rest))
    (blank : Spaces gap) (stop : notAhead isSpace rest = true) :
    spaced scan (word ++ (gap ++ rest)) = some (word ++ gap, rest) := by
  have spaces : ∀ c ∈ gap, isSpace c = true := by
    intro c member
    rw [blank c member]
    rfl
  exact andThen_eq_some_iff.mpr
    ⟨word, _, gap, read, many_of_stop spaces stop, rfl⟩

namespace Covers

variable {text text' gap gap' : List Char} {tokens tokens' : List Token}
  {terminal : Terminal} {c : Char}

theorem nil : Covers [] [] [] :=
  fun _ rest _ => .nil rest

theorem word {begins : Char → Bool} {word : List Char}
    (rule : ∀ triggers, terminal.scan triggers =
      spaced ((one begins).andThen (many isNameChar)))
    (spelled : Spelled begins isNameChar word) (blank : Spaces gap) :
    Covers word gap [⟨terminal, word ++ gap⟩] := by
  intro triggers rest stops
  refine .cons ?_ (.nil _)
  rw [rule]
  exact spaced_read (read_of_spelled spelled (stops.notName blank)) blank
    stops.notSpace

theorem sign (rule : ∀ triggers, terminal.scan triggers = spaced (char c))
    (blank : Spaces gap) : Covers [c] gap [⟨terminal, c :: gap⟩] := by
  intro triggers rest stops
  refine .cons ?_ (.nil _)
  rw [rule]
  have read : char c ([c] ++ (gap ++ rest)) = some ([c], gap ++ rest) :=
    read_char c _
  exact spaced_read read blank stops.notSpace

theorem behind_sign (inside : Covers text gap tokens)
    (rule : ∀ triggers, terminal.scan triggers = spaced (char c))
    {spaces : List Char} (blank : Spaces spaces) (visible : BeginsVisibly text) :
    Covers (c :: (spaces ++ text)) gap (⟨terminal, c :: spaces⟩ :: tokens) := by
  intro triggers rest stops
  have other : (text ++ (gap ++ rest)).head? ≠ some ' ' := by
    obtain ⟨first, others, rfl, shown⟩ := visible
    rintro ⟨⟩
    exact absurd shown (by decide)
  have front : char c ([c] ++ (spaces ++ (text ++ (gap ++ rest)))) =
      some ([c], spaces ++ (text ++ (gap ++ rest))) :=
    read_char c _
  have read := spaced_read front blank (notAhead_isSpace other)
  rw [← rule triggers] at read
  have whole := Laid.cons read (inside triggers rest stops)
  simpa using whole

theorem append (first : Covers text gap tokens)
    (second : Covers (c :: text') gap' tokens') (mark : c ∈ marks)
    (other : c ≠ ' ') :
    Covers (text ++ (gap ++ c :: text')) gap' (tokens ++ tokens') := by
  intro triggers rest stops
  have front := first triggers (c :: text' ++ (gap' ++ rest))
    (.cons mark other _)
  have whole := front.append (second triggers rest stops)
  simpa using whole

theorem between (inside : Covers text [] tokens)
    (visible : text ≠ [] → BeginsVisibly text)
    {opening closing : Char} {opener closer : Terminal}
    (opens : ∀ triggers, opener.scan triggers = spaced (char opening))
    (closes : ∀ triggers, closer.scan triggers = spaced (char closing))
    (mark : closing ∈ marks) (other : Unicode.isBlank closing = false)
    (blank : Spaces gap) :
    Covers (opening :: text ++ [closing]) gap
      (⟨opener, [opening]⟩ :: tokens ++ [⟨closer, closing :: gap⟩]) := by
  have last := sign closes blank
  have notSpace : closing ≠ ' ' := by
    rintro rfl
    exact absurd other (by decide)
  have whole := (inside.append last mark notSpace).behind_sign opens .nil
    (by
      cases text with
      | nil => exact ⟨closing, [], rfl, other⟩
      | cons first others => exact (visible (List.cons_ne_nil _ _)).append _)
  simpa using whole

theorem separated (first : Covers text [] tokens)
    (later : Covers text' [] tokens') (visible : BeginsVisibly text')
    {spaces : List Char} (blank : Spaces spaces) :
    Covers (text ++ ',' :: (spaces ++ text')) []
      (tokens ++ ⟨.patternComma, ',' :: spaces⟩ :: tokens') :=
  first.append (later.behind_sign (fun _ => rfl) blank visible) (by decide)
    (by decide)

theorem comma (first : Covers text [] tokens) (later : Covers text' [] tokens')
    (visible : BeginsVisibly text') :
    Covers (text ++ ',' :: ' ' :: text') []
      (tokens ++ ⟨.patternComma, [',', ' ']⟩ :: tokens') :=
  first.separated later visible .one

end Covers

/-! ### Names -/

theorem isBlank_of_isNameChar {c : Char} (name : isNameChar c = true) :
    Unicode.isBlank c = false := by
  rw [Bool.eq_false_iff]
  intro blank
  simp only [isNameChar, Bool.or_eq_true, decide_eq_true_eq] at name
  rcases name with word | rfl
  · rw [Unicode.isWord_of_isBlank blank] at word
    cases word
  · exact absurd blank (by decide)

theorem isBlank_of_isCapitalLetter {c : Char}
    (capital : Unicode.isCapitalLetter c = true) :
    Unicode.isBlank c = false := by
  rw [Bool.eq_false_iff]
  intro blank
  rw [Unicode.isCapitalLetter_of_isBlank blank] at capital
  cases capital

variable {name : String} {gap : List Char}

/-- A word in front of which no mark stands is printed as it is, and trimming
takes the spaces behind it away. -/
theorem wordName_append {begins : Char → Bool}
    (spelled : Spelled begins isNameChar name.toList)
    (named : ∀ c, begins c = true → c ∉ marks) (blank : Spaces gap) :
    wordName (name.toList ++ gap) = name := by
  rw [wordName, trimmed_append (getLast?_ne_space spelled named) blank,
    String.ofList_toList]

theorem exists_piece (isPiece : IsPiece name.toList) (blank : Spaces gap) :
    ∃ token, Piece token name ∧ Covers (printName name) gap [token] ∧
      BeginsVisibly (printName name) := by
  rcases isPiece with isCapital | isOperator
  · have value := wordName_append isCapital
      (fun _ => not_mem_marks_of_isCapitalLetter) blank
    have covers : Covers name.toList gap
        [⟨.capitalWord, name.toList ++ gap⟩] :=
      .word (fun _ => rfl) isCapital blank
    obtain ⟨first, others, split, begun, _⟩ := isCapital
    rw [printName_of_not_mem_marks split
      (not_mem_marks_of_isCapitalLetter begun)]
    have piece := Piece.word (name.toList ++ gap)
    rw [value] at piece
    exact ⟨_, piece, covers, first, others, split,
      isBlank_of_isCapitalLetter begun⟩
  · have last : (parenthesised name.toList).getLast? ≠ some ' ' := by
      rw [parenthesised, List.getLast?_concat]
      decide
    have value : operatorName (parenthesised name.toList ++ gap) = name := by
      rw [operatorName, trimmed_append last blank]
      simp [parenthesised]
    have piece := Piece.operator (parenthesised name.toList ++ gap)
    rw [value] at piece
    rw [Expr.printName_of_isOperator isOperator]
    refine ⟨_, piece, ?_, .of_mark (by decide)⟩
    intro triggers rest stops
    exact .cons (spaced_read (parenthesisedOperator_of_spelled isOperator _)
      blank stops.notSpace) (.nil _)

theorem exists_variable (isVariable : IsVariable name.toList)
    (blank : Spaces gap) :
    ∃ lexeme, wordName lexeme = name ∧
      Covers name.toList gap [⟨.variableWord, lexeme⟩] ∧
      BeginsVisibly name.toList := by
  have ⟨first, others, split, begun, _⟩ := isVariable
  have named := (Bool.and_eq_true_iff.mp begun).1
  exact ⟨name.toList ++ gap,
    wordName_append isVariable (fun _ => not_mem_marks_of_isVariableStart) blank,
    .word (fun _ => rfl) isVariable blank, first, others, split,
    isBlank_of_isNameChar named⟩

theorem printName_of_isVariable (isVariable : IsVariable name.toList) :
    printName name = name.toList := by
  obtain ⟨first, others, split, begun, _⟩ := isVariable
  exact printName_of_not_mem_marks split (not_mem_marks_of_isVariableStart begun)

theorem exists_fieldName (isName : IsFieldName name.toList)
    (blank : Spaces gap) :
    ∃ token, FieldName token name ∧ Covers (printName name) gap [token] ∧
      BeginsVisibly (printName name) := by
  rcases isName with isVariable | isPiece
  · obtain ⟨lexeme, rfl, covers, visible⟩ := exists_variable isVariable blank
    rw [printName_of_isVariable isVariable]
    exact ⟨_, .variableWord lexeme, covers, visible⟩
  · obtain ⟨token, piece, covers⟩ := exists_piece isPiece blank
    exact ⟨token, .piece piece, covers⟩

theorem exists_pieces {names : List String} (proper : names ≠ [])
    (each : ∀ name ∈ names, IsPiece name.toList) (blank : Spaces gap) :
    ∃ tokens, Pieces tokens names ∧
      Covers (['.'].intercalate (names.map printName)) gap tokens ∧
      BeginsVisibly (['.'].intercalate (names.map printName)) := by
  induction names with
  | nil => exact absurd rfl proper
  | cons first names ih =>
      cases names with
      | nil =>
          obtain ⟨token, piece, covers, visible⟩ :=
            exists_piece (each first List.mem_cons_self) blank
          exact ⟨_, .one piece, by simpa using covers, by simpa using visible⟩
      | cons second names =>
          obtain ⟨token, piece, covers, visible⟩ :=
            exists_piece (each first List.mem_cons_self) .nil
          obtain ⟨tokens, pieces, later, _⟩ := ih (List.cons_ne_nil _ _)
            fun name member => each name (List.mem_cons_of_mem _ member)
          have split : ['.'].intercalate
                ((first :: second :: names).map printName) =
              printName first ++ ([] ++ '.' ::
                ['.'].intercalate ((second :: names).map printName)) := by
            simp
          have dotted : Covers ('.' ::
              ['.'].intercalate ((second :: names).map printName)) gap
              (⟨.dot, ['.']⟩ :: tokens) := by
            intro triggers rest stops
            exact .cons (read_char '.' _) (later triggers rest stops)
          rw [split]
          exact ⟨_, .more ['.'] piece pieces,
            covers.append dotted (by decide) (by decide), visible.append _⟩

theorem exists_constructor {head : QualifiedName}
    (isConstructor : IsConstructor head) (blank : Spaces gap) :
    ∃ tokens, Constructor tokens head ∧
      Covers (printConstructor head) gap tokens ∧
      BeginsVisibly (printConstructor head) := by
  obtain ⟨tokens, pieces, covers⟩ :=
    exists_pieces (by simp) isConstructor blank
  have constructor := Constructor.pieces pieces
  rw [constructorName_append] at constructor
  exact ⟨tokens, constructor, covers⟩

/-! ### Printed texts and their tokens -/

theorem Covers.alone {text : List Char} {tokens : List Token}
    (covers : Covers text [] tokens) :
    Laid Triggers.standard (String.ofList text).toList tokens [] := by
  have laid := covers Triggers.standard [] fun _ head => nomatch head
  rwa [List.append_nil, List.append_nil,
    ← String.toList_ofList (l := text)] at laid

/-- The tokens that are laid over the text and the spaces behind it are read as
the part. -/
structure SpellsPart (text gap : List Char) (tokens : List Token)
    (value : Pattern) (height : Nat) : Prop where
  covers : Covers text gap tokens
  reads : ReadsPart tokens value height
  visible : BeginsVisibly text

/-- The tokens that are laid over the text and the spaces behind it are read as
the pattern. -/
structure Spells (text gap : List Char) (tokens : List Token)
    (value : Pattern) : Prop where
  covers : Covers text gap tokens
  reads : ReadsWhole tokens value (nesting value)
  visible : BeginsVisibly text

/-- The printed pattern can be read as the pattern, whatever spaces follow. -/
def Readable (pattern : Pattern) : Prop :=
  ∀ gap, Spaces gap → ∃ tokens, Spells pattern.print gap tokens pattern

variable {text : List Char} {tokens : List Token} {value : Pattern}

theorem SpellsPart.spells
    (part : SpellsPart text gap tokens value (nesting value)) :
    Spells text gap tokens value :=
  ⟨part.covers, .part part.reads, part.visible⟩

/-- Alone, a pattern lies inside two more nodes. -/
theorem ReadsWhole.measures {height : Nat} (reads : ReadsWhole tokens value height) :
    language.Measures tokens value (height + 2) := by
  obtain ⟨final, climbs, ended⟩ := reads .start [] (.refl _)
  have start : max State.start.depth (State.framesDepth [] + height + 1) + 1 =
      height + 2 := by
    have depth : State.start.depth = 1 := rfl
    have outside : State.framesDepth [] = 0 := rfl
    omega
  have deepest := Language.Climbs.peak_eq climbs language_distinct fun _ _ => rfl
  rw [start] at deepest
  exact ⟨final, climbs.path, ended.value rfl, deepest⟩

theorem Spells.measures (spells : Spells text gap tokens value) :
    language.Measures tokens value (nesting value + 2) :=
  spells.reads.measures

/-- A pattern alone has no fault exactly if it lies within the limit. -/
theorem fault?_eq_none_iff {height : Nat}
    (measures : language.Measures tokens value height) :
    language.fault? language.start tokens = none ↔ height ≤ nestingLimit := by
  have ⟨_, path, _⟩ := measures
  rw [language_distinct.fault?_iff_of_measures measures,
    and_iff_left (error?_of_path path)]

theorem SpellsPart.group {height : Nat} (covers : Covers text [] tokens)
    (reads : ReadsWhole tokens value height) (visible : BeginsVisibly text)
    (blank : Spaces gap) :
    SpellsPart (parenthesised text) gap
      (⟨.patternOpenParen, ['(']⟩ :: tokens ++
        [⟨.patternCloseParen, ')' :: gap⟩])
      value (height + 1) where
  covers := covers.between (fun _ => visible) (fun _ => rfl) (fun _ => rfl)
    (by decide) (by decide) blank
  reads := .group _ _ reads
  visible := .of_mark (by decide)

theorem Spells.group (spells : Spells text [] tokens value)
    (blank : Spaces gap) :
    SpellsPart (parenthesised text) gap
      (⟨.patternOpenParen, ['(']⟩ :: tokens ++
        [⟨.patternCloseParen, ')' :: gap⟩])
      value (nesting value + 1) :=
  .group spells.covers spells.reads spells.visible blank

theorem readable_var (isVariable : IsVariable name.toList) :
    Readable (.var name) := by
  intro gap blank
  obtain ⟨lexeme, rfl, covers, visible⟩ := exists_variable isVariable blank
  rw [print]
  exact ⟨_, SpellsPart.spells ⟨covers, .var lexeme, visible⟩⟩

theorem readable_named {pattern : Pattern}
    (isVariable : IsVariable name.toList) (inside : Readable pattern) :
    Readable (.named name pattern) := by
  intro gap blank
  obtain ⟨tokens, spells⟩ := inside [] .nil
  have part := spells.group blank
  obtain ⟨lexeme, rfl, word, visible⟩ := exists_variable isVariable .nil
  have signed : Covers ('@' :: '(' :: (print pattern ++ [')'])) gap
      (⟨.asSign, ['@']⟩ :: _) :=
    part.covers.behind_sign (fun _ => rfl) .nil part.visible
  have whole := word.append signed (by decide) (by decide)
  rw [print]
  exact ⟨_, SpellsPart.spells
    ⟨whole, part.reads.named lexeme ['@'], visible.append _⟩⟩

/-! ### Arguments and items -/

theorem exists_spellsArguments {first : Pattern} {others : List Pattern}
    (each : ∀ argument ∈ first :: others, Readable argument)
    (blank : Spaces gap) :
    ∃ tokens,
      Covers (parenthesised first.print ++ (others.map print).flatMap fun text =>
        ' ' :: parenthesised text) gap tokens ∧
      ReadsArguments tokens (first :: others)
        (nestingOf (first :: others) + 1) := by
  induction others generalizing first with
  | nil =>
      obtain ⟨tokens, spells⟩ := each first List.mem_cons_self [] .nil
      have part := spells.group blank
      rw [nestingOf, nestingOf, Nat.max_zero]
      exact ⟨_, by simpa using part.covers, .one part.reads⟩
  | cons second others ih =>
      obtain ⟨tokens, spells⟩ := each first List.mem_cons_self [] .nil
      obtain ⟨tokens', later, reads⟩ := ih fun argument member =>
        each argument (List.mem_cons_of_mem _ member)
      have part := spells.group .one
      have whole := part.covers.append later (by decide) (by decide)
      rw [nestingOf, ← Nat.add_max_add_right]
      exact ⟨_, by simpa [parenthesised] using whole, .more part.reads reads⟩

theorem readable_construct {head : QualifiedName} {arguments : List Pattern}
    (isConstructor : IsConstructor head)
    (each : ∀ argument ∈ arguments, Readable argument) :
    Readable (.construct head arguments) := by
  intro gap blank
  rw [print, printItems_eq_map]
  cases arguments with
  | nil =>
      obtain ⟨tokens, constructor, covers, visible⟩ :=
        exists_constructor isConstructor blank
      refine ⟨tokens, SpellsPart.spells ⟨?_, .bare constructor, ?_⟩⟩
      · simpa using covers
      · simpa using visible
  | cons first others =>
      obtain ⟨tokens, constructor, covers, visible⟩ :=
        exists_constructor isConstructor .one
      obtain ⟨tokens', later, reads⟩ := exists_spellsArguments each blank
      have whole := covers.append later (by decide) (by decide)
      exact ⟨tokens ++ tokens', by simpa [parenthesised] using whole,
        .application constructor reads, visible.append _⟩

theorem exists_spellsItems {items : List Pattern} (proper : items ≠ [])
    (each : ∀ item ∈ items, Readable item) :
    ∃ tokens, Covers (commaSeparated (items.map print)) [] tokens ∧
      ReadsItems tokens items (nestingOf items) ∧
      BeginsVisibly (commaSeparated (items.map print)) := by
  induction items with
  | nil => exact absurd rfl proper
  | cons first items ih =>
      obtain ⟨tokens, spells⟩ := each first List.mem_cons_self [] .nil
      cases items with
      | nil =>
          rw [nestingOf, nestingOf, Nat.max_zero]
          exact ⟨tokens, by simpa [commaSeparated] using spells.covers,
            .one spells.reads, by simpa [commaSeparated] using spells.visible⟩
      | cons second items =>
          obtain ⟨tokens', later, reads, visible⟩ := ih (List.cons_ne_nil _ _)
            fun item member => each item (List.mem_cons_of_mem _ member)
          rw [nestingOf, List.map_cons, List.map_cons, commaSeparated_cons]
          exact ⟨_, spells.covers.comma later visible,
            .more _ spells.reads reads, spells.visible.append _⟩

theorem readable_list {items : List Pattern}
    (each : ∀ item ∈ items, Readable item) : Readable (.list items) := by
  intro gap blank
  rw [print, printItems_eq_map]
  by_cases empty : items = []
  · subst empty
    exact ⟨_, SpellsPart.spells ⟨Covers.nil.between (absurd rfl) (fun _ => rfl)
      (fun _ => rfl) (by decide) (by decide) blank, .emptyList _ _,
      .of_mark (by decide)⟩⟩
  · obtain ⟨tokens, covers, reads, visible⟩ := exists_spellsItems empty each
    have whole := ReadsPart.list ['['] (']' :: gap) reads
    have deep : nesting (.list items) = nestingOf items + 1 := by
      simp [nesting, empty]
    rw [← deep] at whole
    exact ⟨_, SpellsPart.spells ⟨covers.between (fun _ => visible)
      (fun _ => rfl) (fun _ => rfl) (by decide) (by decide) blank, whole,
      .of_mark (by decide)⟩⟩

theorem readable_tuple {items : List Pattern} (several : items.length ≠ 1)
    (each : ∀ item ∈ items, Readable item) : Readable (.tuple items) := by
  intro gap blank
  rw [print, printItems_eq_map]
  cases items with
  | nil =>
      exact ⟨_, SpellsPart.spells ⟨Covers.nil.between (absurd rfl)
        (fun _ => rfl) (fun _ => rfl) (by decide) (by decide) blank,
        .emptyTuple _ _, .of_mark (by decide)⟩⟩
  | cons first items =>
      have proper : items ≠ [] := by
        rintro rfl
        exact several rfl
      obtain ⟨tokens, spells⟩ := each first List.mem_cons_self [] .nil
      obtain ⟨tokens', later, reads, visible⟩ := exists_spellsItems proper
        fun item member => each item (List.mem_cons_of_mem _ member)
      obtain ⟨second, others, rfl⟩ := List.exists_cons_of_ne_nil proper
      have inside := spells.covers.comma later visible
      have covers : Covers _ gap (⟨.patternOpenParen, ['(']⟩ :: _ ++
          [⟨.patternCloseParen, ')' :: gap⟩]) :=
        inside.between (fun _ => spells.visible.append _) (fun _ => rfl)
          (fun _ => rfl) (by decide) (by decide) blank
      rw [List.map_cons, List.map_cons, commaSeparated_cons]
      refine ⟨_, SpellsPart.spells ⟨covers, ?_, .of_mark (by decide)⟩⟩
      have whole := ReadsPart.tuple ['('] [',', ' '] (')' :: gap) spells.reads
        reads
      simpa [nesting, nestingOf] using whole

/-! ### Records -/

theorem isVariable_of_isVariableWord (word : isVariableWord name = true) :
    IsVariable name.toList := by
  rw [isVariableWord, Bool.and_eq_true] at word
  obtain ⟨begun, inside⟩ := word
  cases split : name.toList with
  | nil =>
      rw [split] at begun
      cases begun
  | cons first others =>
      rw [split] at begun inside
      rw [List.all_cons, Bool.and_eq_true] at inside
      exact ⟨first, others, rfl, begun, List.all_eq_true.mp inside.2⟩

theorem eq_var_of_isPunned {pattern : Pattern}
    (punned : isPunned name pattern = true) : pattern = .var name := by
  cases pattern with
  | var other =>
      rw [isPunned, Bool.and_eq_true, beq_iff_eq] at punned
      rw [punned.1]
  | _ => cases punned

/-- A field that is not written alone holds a pattern that can be read. -/
theorem readable_of_not_isPunned {pattern : Pattern}
    (inside : pattern ≠ .var name → Readable pattern)
    (bound : isPunned name pattern = false) : Readable pattern := by
  by_cases same : pattern = .var name
  · subst same
    rw [isPunned, beq_self_eq_true, Bool.true_and, Bool.not_eq_false'] at bound
    exact readable_var (isVariable_of_isVariableWord bound)
  · exact inside same

/-- How deep the deepest part of a field lies. -/
def fieldNesting : String × Pattern → Nat
  | (name, value) => if isPunned name value then 0 else nesting value + 1

def fieldText : String × Pattern → List Char
  | (name, value) => printField name value value.print

theorem printFields_eq_map (fields : List (String × Pattern)) :
    printFields fields = fields.map fieldText := by
  induction fields with
  | nil => rfl
  | cons field fields ih => rw [printFields, ih, List.map_cons, fieldText]

theorem exists_spellsField {pattern : Pattern}
    (isName : IsFieldName name.toList)
    (inside : pattern ≠ .var name → Readable pattern) :
    ∃ tokens, Covers (fieldText (name, pattern)) [] tokens ∧
      ReadsField tokens (name, pattern) (fieldNesting (name, pattern)) ∧
      BeginsVisibly (fieldText (name, pattern)) := by
  rw [fieldText, fieldNesting, printField]
  split
  · rename_i punned
    obtain ⟨token, fieldName, covers, visible⟩ := exists_fieldName isName .nil
    obtain rfl := eq_var_of_isPunned punned
    exact ⟨_, covers, .punned fieldName, visible⟩
  · rename_i bound
    have readable := readable_of_not_isPunned inside
      (Bool.eq_false_iff.mpr bound)
    obtain ⟨tokens, spells⟩ := readable [] .nil
    obtain ⟨token, fieldName, covers, visible⟩ := exists_fieldName isName .one
    have equals : Covers ('=' :: ' ' :: print pattern) []
        (⟨.equals, ['=', ' ']⟩ :: tokens) :=
      spells.covers.behind_sign (fun _ => rfl) .one spells.visible
    have whole := covers.append equals (by decide) (by decide)
    exact ⟨_, by simpa using whole, .bound ['=', ' '] fieldName spells.reads,
      (visible.append _).append _⟩

theorem covers_wildcard : Covers ['.', '.'] [] [⟨.wildcard, ['.', '.']⟩] := by
  intro triggers rest stops
  have read : word ['.', '.'] (['.', '.'] ++ ([] ++ rest)) =
      some (['.', '.'], [] ++ rest) :=
    word_eq_some_iff.mpr ⟨rfl, rfl⟩
  exact .cons (spaced_read read .nil stops.notSpace) (.nil _)

theorem exists_spellsFields {fields : List (String × Pattern)}
    (proper : fields ≠ []) (wildcard : Bool)
    (names : ∀ field ∈ fields, IsFieldName field.1.toList)
    (inside : ∀ field ∈ fields, field.2 ≠ .var field.1 → Readable field.2) :
    ∃ tokens,
      Covers (commaSeparated (fields.map fieldText ++ printWildcard wildcard)) []
        tokens ∧
      ReadsFields tokens fields wildcard (nestingOfFields fields) ∧
      BeginsVisibly
        (commaSeparated (fields.map fieldText ++ printWildcard wildcard)) := by
  induction fields with
  | nil => exact absurd rfl proper
  | cons field fields ih =>
      obtain ⟨tokens, covers, reads, visible⟩ := exists_spellsField
        (names field List.mem_cons_self) (inside field List.mem_cons_self)
      have height : nestingOfFields (field :: fields) =
          max (fieldNesting field) (nestingOfFields fields) := rfl
      rw [height]
      cases fields with
      | nil =>
          rw [nestingOfFields, Nat.max_zero]
          cases wildcard with
          | false =>
              exact ⟨tokens, by simpa [commaSeparated, printWildcard] using covers,
                .one reads, by simpa [commaSeparated, printWildcard] using visible⟩
          | true =>
              have dots := covers.comma covers_wildcard (.of_mark (by decide))
              rw [printWildcard, if_pos rfl, List.map_singleton,
                List.singleton_append, commaSeparated_cons]
              exact ⟨_, by simpa [commaSeparated] using dots,
                .oneOpen [',', ' '] ['.', '.'] reads, visible.append _⟩
      | cons second fields =>
          obtain ⟨tokens', later, moreReads, more⟩ := ih (List.cons_ne_nil _ _)
            (fun field member => names field (List.mem_cons_of_mem _ member))
            (fun field member => inside field (List.mem_cons_of_mem _ member))
          have whole := covers.comma later more
          rw [List.map_cons, List.map_cons, List.cons_append, List.cons_append,
            commaSeparated_cons]
          exact ⟨_, whole, .more _ reads moreReads, visible.append _⟩

theorem readable_record {head : QualifiedName}
    {fields : List (String × Pattern)} (wildcard : Bool)
    (isConstructor : IsConstructor head)
    (names : ∀ field ∈ fields, IsFieldName field.1.toList)
    (inside : ∀ field ∈ fields, field.2 ≠ .var field.1 → Readable field.2) :
    Readable (.record head fields wildcard) := by
  intro gap blank
  obtain ⟨tokens, constructor, covers, visible⟩ :=
    exists_constructor isConstructor .nil
  -- the braces are the same for all records
  have braced {text : List Char} {inner : List Token}
      (between : Covers text [] inner)
      (begins : text ≠ [] → BeginsVisibly text)
      (reads : ReadsPart (tokens ++ ⟨.openBrace, ['{']⟩ :: inner ++
          [⟨.closeBrace, '}' :: gap⟩])
        (.record head fields wildcard)
        (nesting (.record head fields wildcard))) :
      ∃ tokens, Spells (printConstructor head ++ '{' :: text ++ ['}']) gap
        tokens (.record head fields wildcard) := by
    have closed : Covers ('{' :: text ++ ['}']) gap
        (⟨.openBrace, ['{']⟩ :: inner ++ [⟨.closeBrace, '}' :: gap⟩]) :=
      between.between begins (fun _ => rfl) (fun _ => rfl) (by decide)
        (by decide) blank
    have whole := covers.append closed (by decide) (by decide)
    exact ⟨_, SpellsPart.spells ⟨by simpa using whole, reads,
      (visible.append _).append _⟩⟩
  rw [print, printFields_eq_map]
  by_cases empty : fields = []
  · subst empty
    cases wildcard with
    | false =>
        have reads := ReadsPart.emptyRecord ['{'] ('}' :: gap) constructor
        exact braced .nil (absurd rfl)
          (by simpa [nesting, nestingOfFields] using reads)
    | true =>
        have reads :=
          ReadsPart.openRecord ['{'] ['.', '.'] ('}' :: gap) constructor
        exact braced covers_wildcard (fun _ => .of_mark (by decide))
          (by simpa [nesting, nestingOfFields] using reads)
  · obtain ⟨tokens', later, reads, begins⟩ :=
      exists_spellsFields empty wildcard names inside
    exact braced later (fun _ => begins)
      (.record ['{'] ('}' :: gap) constructor reads)

/-- The printed text of every well-formed pattern can be read as the pattern.
By induction over the pattern, with one lemma for each kind. -/
theorem readable_of_wellFormed {pattern : Pattern}
    (formed : WellFormed pattern) : Readable pattern := by
  induction formed with
  | var isVariable => exact readable_var isVariable
  | named isVariable _ inside => exact readable_named isVariable inside
  | construct isConstructor _ each => exact readable_construct isConstructor each
  | record wildcard isConstructor names _ inside =>
      exact readable_record wildcard isConstructor names inside
  | tuple several _ each => exact readable_tuple several each
  | list _ each => exact readable_list each

end TemplateSyntax.Pattern
