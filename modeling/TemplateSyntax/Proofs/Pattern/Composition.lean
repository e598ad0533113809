import TemplateSyntax.Proofs.Expr.Composition

/-!
# Patterns put together

Texts that are read as patterns can be put together to the text of a larger
pattern, which is read as the pattern made of theirs
(`parsePattern_compositional`).  Their number is not limited; how many nodes of
the syntax tree lie around the parts is all that can make the whole too deep.
-/

namespace TemplateSyntax.Pattern

open Scan Grammar
open TemplateSyntax.Expr (BeginsVisibly commaJoined parenthesised printName
  spacedGroups)

/-! ### Statement -/

def IsSource (text : String) (pattern : Pattern) : Prop :=
  ∃ label, parsePattern text label = .ok pattern

/-- A name, alone or with the text of a pattern. -/
def fieldSource : String × Option String → List Char
  | (name, none) => printName name
  | (name, some text) => printName name ++ '=' :: text.toList

/-- What the text of a field stands for. -/
inductive IsFieldSource : String × Option String → String × Pattern → Prop where
  | alone {name : String} : IsFieldName name.toList →
      IsFieldSource (name, none) (name, .var name)
  | bound {name text : String} {pattern : Pattern} :
      IsFieldName name.toList → IsSource text pattern →
      IsFieldSource (name, some text) (name, pattern)

/-- With that many nodes around it, what a field holds stays within the limit; a
field that is written alone holds nothing. -/
def FieldLiesWithin (around : Nat) :
    String × Option String → String × Pattern → Prop
  | (_, none), _ => True
  | (_, some text), (_, pattern) => pattern.LiesWithin around text

/-- Texts of patterns, put together, are read as the pattern put together. -/
structure Compositional : Prop where
  group : ∀ (text : String) (pattern : Pattern) (label : Option String),
    IsSource text pattern →
    AnswersWithin
      (parsePattern (String.ofList (parenthesised text.toList)) label)
      pattern (pattern.LiesWithin 1 text)
  tuple : ∀ (texts : List String) (patterns : List Pattern)
      (label : Option String),
    2 ≤ texts.length → List.Forall₂ IsSource texts patterns →
    AnswersWithin
      (parsePattern (String.ofList
        (parenthesised (commaJoined (texts.map String.toList)))) label)
      (.tuple patterns) (List.Forall₂ (Pattern.LiesWithin 1) texts patterns)
  list : ∀ (texts : List String) (patterns : List Pattern)
      (label : Option String),
    texts ≠ [] → List.Forall₂ IsSource texts patterns →
    AnswersWithin
      (parsePattern (String.ofList
        ('[' :: commaJoined (texts.map String.toList) ++ [']'])) label)
      (.list patterns) (List.Forall₂ (Pattern.LiesWithin 1) texts patterns)
  named : ∀ (name text : String) (pattern : Pattern) (label : Option String),
    IsVariable name.toList → IsSource text pattern →
    AnswersWithin
      (parsePattern (String.ofList
        (name.toList ++ '@' :: parenthesised text.toList)) label)
      (.named name pattern) (pattern.LiesWithin 2 text)
  construct : ∀ (head : QualifiedName) (arguments : List (Nat × String))
      (patterns : List Pattern) (label : Option String),
    IsConstructor head → arguments ≠ [] →
    List.Forall₂ IsSource (arguments.map Prod.snd) patterns →
    AnswersWithin
      (parsePattern (String.ofList
        (printConstructor head ++ spacedGroups arguments)) label)
      (.construct head patterns)
      (List.Forall₂ (Pattern.LiesWithin 2) (arguments.map Prod.snd) patterns)
  record : ∀ (head : QualifiedName) (fields : List (String × Option String))
      (values : List (String × Pattern)) (wildcard : Bool)
      (label : Option String),
    IsConstructor head → fields ≠ [] →
    List.Forall₂ IsFieldSource fields values →
    AnswersWithin
      (parsePattern (String.ofList (printConstructor head ++ '{' ::
        commaJoined (fields.map fieldSource ++ printWildcard wildcard) ++ ['}']))
        label)
      (.record head values wildcard)
      (List.Forall₂ (FieldLiesWithin 2) fields values)

/-! ### Parts and their places -/

/-- The tokens that are laid over the text and the spaces behind it come that deep,
and with so many nodes around them they fit. -/
structure Standing (text gap : List Char) (tokens : List Token)
    (around height : Nat) (fits : Prop) : Prop where
  covers : Covers text gap tokens
  visible : BeginsVisibly text
  fits_iff : fits ↔ around + height + 2 ≤ nestingLimit

namespace Standing

variable {text text' gap gap' : List Char} {tokens tokens' : List Token}
  {around height height' : Nat} {fits fits' : Prop}

theorem separated (first : Standing text [] tokens around height fits)
    (later : Standing text' [] tokens' around height' fits') :
    Standing (text ++ ',' :: text') []
      (tokens ++ ⟨.patternComma, [',']⟩ :: tokens') around (max height height')
      (fits ∧ fits') where
  covers := first.covers.separated later.covers later.visible .nil
  visible := first.visible.append _
  fits_iff := by
    rw [first.fits_iff, later.fits_iff]
    omega

theorem append {c : Char} (first : Standing text gap tokens around height fits)
    (second : Standing (c :: text') gap' tokens' around height' fits')
    (mark : c ∈ marks) (other : c ≠ ' ') :
    Standing (text ++ (gap ++ c :: text')) gap' (tokens ++ tokens') around
      (max height height') (fits ∧ fits') where
  covers := first.covers.append second.covers mark other
  visible := first.visible.append _
  fits_iff := by
    rw [first.fits_iff, second.fits_iff]
    omega

theorem behind {c : Char} (covers : Covers text gap tokens)
    (visible : BeginsVisibly text)
    (standing : Standing (c :: text') gap' tokens' around height' fits')
    (mark : c ∈ marks) (other : c ≠ ' ') :
    Standing (text ++ (gap ++ c :: text')) gap' (tokens ++ tokens') around
      height' fits' where
  covers := covers.append standing.covers mark other
  visible := visible.append _
  fits_iff := standing.fits_iff

theorem signed {c : Char} {terminal : Terminal}
    (standing : Standing text gap tokens around height fits)
    (rule : ∀ triggers, terminal.scan triggers = spaced (char c))
    (shown : Unicode.isBlank c = false) :
    Standing (c :: text) gap (⟨terminal, [c]⟩ :: tokens) around height fits where
  covers := standing.covers.behind_sign rule .nil standing.visible
  visible := .of_mark shown
  fits_iff := standing.fits_iff

/-- A node around the text can be counted with it. -/
theorem outward (standing : Standing text gap tokens (around + 1) height fits) :
    Standing text gap tokens around (height + 1) fits where
  covers := standing.covers
  visible := standing.visible
  fits_iff := by
    rw [standing.fits_iff]
    omega

/-- Brackets are one of the nodes around what they hold. -/
theorem between (inside : Standing text [] tokens (around + 1) height fits)
    {opening closing : Char} {opener closer : Terminal}
    (opens : ∀ triggers, opener.scan triggers = spaced (char opening))
    (closes : ∀ triggers, closer.scan triggers = spaced (char closing))
    (shown : Unicode.isBlank opening = false) (mark : closing ∈ marks)
    (other : Unicode.isBlank closing = false) (blank : Spaces gap) :
    Standing (opening :: text ++ [closing]) gap
      (⟨opener, [opening]⟩ :: tokens ++ [⟨closer, closing :: gap⟩]) around
      (height + 1) fits where
  covers := inside.covers.between (fun _ => inside.visible) opens closes mark
    other blank
  visible := .of_mark shown
  fits_iff := inside.outward.fits_iff

theorem answers {value : Pattern}
    (standing : Standing text [] tokens 0 height fits)
    (reads : ReadsWhole tokens value height) (label : Option String) :
    AnswersWithin (parsePattern (String.ofList text) label) value fits := by
  have measures := reads.measures
  have ⟨_, path, _⟩ := measures
  have laid : Laid Triggers.standard (Source.mk (String.ofList text) label).chars
      tokens [] := standing.covers.alone
  refine language_recognises.answersWithin (whole_unambiguous _) laid
    (language_recognises.of_measures measures) (error?_of_path path) ?_
  rw [fault?_eq_none_iff measures, standing.fits_iff, Nat.zero_add]

end Standing

/-! ### Texts of patterns -/

section Source

variable {text : String} {texts : List String} {pattern : Pattern}
  {patterns : List Pattern}

theorem exists_standing (source : IsSource text pattern) :
    ∃ tokens height, ReadsWhole tokens pattern height ∧
      ∀ around, Standing text.toList [] tokens around height
        (pattern.LiesWithin around text) := by
  obtain ⟨label, answer⟩ := source
  obtain ⟨tokens, height, laid, measures, limits⟩ := exists_alone answer
  obtain ⟨height', reads⟩ :=
    readsWhole_of_whole (language_recognises.of_measures measures)
  obtain rfl : height = height' + 2 :=
    measures.unique reads.measures
  obtain ⟨front, terminal, lexeme, rfl, longer⟩ := exists_last_laid laid measures
  refine ⟨_, height', reads, fun around => ⟨?_, ?_, limits around⟩⟩
  · intro triggers rest stops
    have laid := longer .nil (stops.notName .nil) stops.notSpace triggers
    rwa [List.append_nil] at laid
  · exact beginsVisibly_of_laid laid measures

theorem exists_group (source : IsSource text pattern) {gap : List Char}
    (blank : Spaces gap) :
    ∃ tokens height, ReadsPart tokens pattern (height + 1) ∧
      ∀ around, Standing (parenthesised text.toList) gap tokens around
        (height + 1) (pattern.LiesWithin (around + 1) text) := by
  obtain ⟨tokens, height, reads, standing⟩ := exists_standing source
  exact ⟨_, height, .group ['('] (')' :: gap) reads, fun around =>
    (standing (around + 1)).between (fun _ => rfl) (fun _ => rfl) (by decide)
      (by decide) (by decide) blank⟩

theorem exists_items (proper : texts ≠ [])
    (sources : List.Forall₂ IsSource texts patterns) (around : Nat) :
    ∃ tokens height, ReadsItems tokens patterns height ∧
      Standing (commaJoined (texts.map String.toList)) [] tokens around height
        (List.Forall₂ (Pattern.LiesWithin around) texts patterns) := by
  induction sources with
  | nil => exact absurd rfl proper
  | @cons text pattern texts patterns source sources ih =>
      obtain ⟨tokens, height, reads, standing⟩ := exists_standing source
      cases sources with
      | nil =>
          refine ⟨tokens, height, .one reads, ?_⟩
          simpa [commaJoined] using standing around
      | cons second sources =>
          obtain ⟨tokens', height', later, inside⟩ := ih (List.cons_ne_nil _ _)
          rw [List.forall₂_cons]
          exact ⟨_, _, .more [','] reads later,
            by simpa [commaJoined] using (standing around).separated inside⟩

theorem spaces_replicate (count : Nat) : Spaces (List.replicate count ' ') :=
  fun _ member => List.eq_of_mem_replicate member

/-- The spaces in front of an argument belong to the argument before it. -/
theorem exists_arguments {argument : Nat × String}
    {others : List (Nat × String)}
    (sources : List.Forall₂ IsSource ((argument :: others).map Prod.snd) patterns)
    (around : Nat) :
    ∃ tokens height, ReadsArguments tokens patterns (height + 1) ∧
      Standing (parenthesised argument.2.toList ++ spacedGroups others) [] tokens
        around (height + 1)
        (List.Forall₂ (Pattern.LiesWithin (around + 1))
          ((argument :: others).map Prod.snd) patterns) := by
  induction others generalizing argument patterns with
  | nil =>
      cases sources with
      | cons source sources =>
          cases sources
          obtain ⟨tokens, height, reads, standing⟩ := exists_group source .nil
          exact ⟨tokens, height, .one reads,
            by simpa [spacedGroups] using standing around⟩
  | cons second others ih =>
      obtain ⟨count, text⟩ := second
      cases sources with
      | cons source sources =>
          obtain ⟨tokens', height', later, inside⟩ := ih sources
          obtain ⟨tokens, height, reads, standing⟩ :=
            exists_group source (spaces_replicate count)
          have both := (standing around).append inside (by decide) (by decide)
          rw [List.map_cons, List.forall₂_cons]
          refine ⟨tokens ++ tokens', max height height', ?_, ?_⟩
          · rw [← Nat.add_max_add_right]
            exact .more reads later
          · rw [← Nat.add_max_add_right]
            simpa [spacedGroups, parenthesised] using both

end Source

/-! ### Texts of fields -/

theorem exists_field {source : String × Option String}
    {field : String × Pattern} (isSource : IsFieldSource source field) :
    ∃ tokens height, ReadsField tokens field height ∧
      Standing (fieldSource source) [] tokens 1 height
        (FieldLiesWithin 2 source field) := by
  cases isSource with
  | alone isName =>
      obtain ⟨token, fieldName, covers, visible⟩ := exists_fieldName isName .nil
      exact ⟨_, _, .punned fieldName, covers, visible,
        iff_of_true trivial (by decide)⟩
  | @bound name text pattern isName source =>
      obtain ⟨token, fieldName, covers, visible⟩ := exists_fieldName isName .nil
      obtain ⟨tokens, height, reads, standing⟩ := exists_standing source
      have equals : Standing ('=' :: text.toList) [] (⟨.equals, ['=']⟩ :: tokens)
          2 height _ :=
        (standing 2).signed (fun _ => rfl) (by decide)
      exact ⟨_, _, .bound ['='] fieldName reads,
        (equals.behind covers visible (by decide) (by decide)).outward⟩

theorem exists_fields {fields : List (String × Option String)}
    {values : List (String × Pattern)} (proper : fields ≠ []) (wildcard : Bool)
    (sources : List.Forall₂ IsFieldSource fields values) :
    ∃ tokens height, ReadsFields tokens values wildcard height ∧
      Standing
        (commaJoined (fields.map fieldSource ++ printWildcard wildcard)) []
        tokens 1 height (List.Forall₂ (FieldLiesWithin 2) fields values) := by
  induction sources with
  | nil => exact absurd rfl proper
  | @cons field value fields values source sources ih =>
      obtain ⟨tokens, height, reads, standing⟩ := exists_field source
      cases sources with
      | nil =>
          cases wildcard with
          | false =>
              exact ⟨tokens, height, .one reads,
                by simpa [commaJoined, printWildcard] using standing⟩
          | true =>
              have dots := standing.covers.separated covers_wildcard
                (.of_mark (by decide)) .nil
              refine ⟨_, height, .oneOpen [','] ['.', '.'] reads, ?_⟩
              rw [List.forall₂_cons]
              exact ⟨by simpa [commaJoined, printWildcard] using dots,
                by simpa [commaJoined, printWildcard] using
                  standing.visible.append _,
                by simpa using standing.fits_iff⟩
      | cons second sources =>
          obtain ⟨tokens', height', later, inside⟩ := ih (List.cons_ne_nil _ _)
          rw [List.forall₂_cons]
          exact ⟨_, _, .more [','] reads later,
            by simpa [commaJoined] using standing.separated inside⟩

/-! ### Patterns put together -/

theorem answers_group {text : String} {pattern : Pattern}
    (source : IsSource text pattern) (label : Option String) :
    AnswersWithin
      (parsePattern (String.ofList (parenthesised text.toList)) label)
      pattern (pattern.LiesWithin 1 text) := by
  obtain ⟨tokens, height, reads, standing⟩ := exists_group source .nil
  exact (standing 0).answers (.part reads) label

theorem answers_tuple {texts : List String} {patterns : List Pattern}
    (several : 2 ≤ texts.length)
    (sources : List.Forall₂ IsSource texts patterns) (label : Option String) :
    AnswersWithin
      (parsePattern (String.ofList
        (parenthesised (commaJoined (texts.map String.toList)))) label)
      (.tuple patterns) (List.Forall₂ (Pattern.LiesWithin 1) texts patterns) := by
  cases sources with
  | nil => cases several
  | @cons first pattern texts patterns source sources =>
      have proper : texts ≠ [] := by
        rintro rfl
        simp at several
      obtain ⟨tokens, height, reads, standing⟩ := exists_standing source
      obtain ⟨tokens', height', later, behind⟩ := exists_items proper sources 1
      have inside := (standing 1).separated behind
      have whole : Standing (parenthesised (first.toList ++ ',' ::
          commaJoined (texts.map String.toList))) []
          (⟨.patternOpenParen, ['(']⟩ :: (tokens ++ ⟨.patternComma, [',']⟩ ::
            tokens') ++ [⟨.patternCloseParen, [')']⟩]) 0 _ _ :=
        inside.between (fun _ => rfl) (fun _ => rfl) (by decide) (by decide)
          (by decide) .nil
      have part : ReadsPart
          (⟨.patternOpenParen, ['(']⟩ :: (tokens ++ ⟨.patternComma, [',']⟩ ::
            tokens') ++ [⟨.patternCloseParen, [')']⟩])
          (.tuple (pattern :: patterns)) (max height height' + 1) :=
        .tuple ['('] [','] [')'] reads later
      obtain ⟨second, others, rfl⟩ := List.exists_cons_of_ne_nil proper
      rw [List.forall₂_cons]
      exact whole.answers (.part part) label

theorem answers_list {texts : List String} {patterns : List Pattern}
    (proper : texts ≠ []) (sources : List.Forall₂ IsSource texts patterns)
    (label : Option String) :
    AnswersWithin
      (parsePattern (String.ofList
        ('[' :: commaJoined (texts.map String.toList) ++ [']'])) label)
      (.list patterns) (List.Forall₂ (Pattern.LiesWithin 1) texts patterns) := by
  obtain ⟨tokens, height, reads, inside⟩ := exists_items proper sources 1
  have whole : Standing ('[' :: commaJoined (texts.map String.toList) ++ [']'])
      [] (⟨.patternOpenBracket, ['[']⟩ :: tokens ++
        [⟨.patternCloseBracket, [']']⟩]) 0 _ _ :=
    inside.between (fun _ => rfl) (fun _ => rfl) (by decide) (by decide)
      (by decide) .nil
  exact whole.answers (.part (.list ['['] [']'] reads)) label

theorem answers_named {name text : String} {pattern : Pattern}
    (isVariable : IsVariable name.toList) (source : IsSource text pattern)
    (label : Option String) :
    AnswersWithin
      (parsePattern (String.ofList
        (name.toList ++ '@' :: parenthesised text.toList)) label)
      (.named name pattern) (pattern.LiesWithin 2 text) := by
  obtain ⟨tokens, height, reads, standing⟩ := exists_group source .nil
  obtain ⟨lexeme, rfl, covers, visible⟩ := exists_variable isVariable .nil
  have signed : Standing ('@' :: parenthesised text.toList) []
      (⟨.asSign, ['@']⟩ :: tokens) 1 (height + 1) _ :=
    (standing 1).signed (fun _ => rfl) (by decide)
  have whole := signed.behind covers visible (by decide) (by decide)
  exact whole.outward.answers (.part (reads.named lexeme ['@'])) label

theorem answers_construct {head : QualifiedName}
    {arguments : List (Nat × String)} {patterns : List Pattern}
    (isConstructor : IsConstructor head) (proper : arguments ≠ [])
    (sources : List.Forall₂ IsSource (arguments.map Prod.snd) patterns)
    (label : Option String) :
    AnswersWithin
      (parsePattern (String.ofList
        (printConstructor head ++ spacedGroups arguments)) label)
      (.construct head patterns)
      (List.Forall₂ (Pattern.LiesWithin 2) (arguments.map Prod.snd)
        patterns) := by
  obtain ⟨⟨count, text⟩, others, rfl⟩ := List.exists_cons_of_ne_nil proper
  obtain ⟨tokens, height, reads, standing⟩ := exists_arguments sources 1
  obtain ⟨tokens', constructor, covers, visible⟩ :=
    exists_constructor isConstructor (spaces_replicate count)
  have whole := standing.behind covers visible (by decide) (by decide)
  rw [spacedGroups, List.flatMap_cons, List.append_assoc]
  exact whole.outward.answers (.application constructor reads) label

theorem answers_record {head : QualifiedName}
    {fields : List (String × Option String)} {values : List (String × Pattern)}
    (wildcard : Bool) (isConstructor : IsConstructor head)
    (proper : fields ≠ []) (sources : List.Forall₂ IsFieldSource fields values)
    (label : Option String) :
    AnswersWithin
      (parsePattern (String.ofList (printConstructor head ++ '{' ::
        commaJoined (fields.map fieldSource ++ printWildcard wildcard) ++ ['}']))
        label)
      (.record head values wildcard)
      (List.Forall₂ (FieldLiesWithin 2) fields values) := by
  obtain ⟨tokens, height, reads, standing⟩ :=
    exists_fields proper wildcard sources
  obtain ⟨tokens', constructor, covers, visible⟩ :=
    exists_constructor isConstructor .nil
  have closed : Standing ('{' :: commaJoined (fields.map fieldSource ++
      printWildcard wildcard) ++ ['}']) []
      (⟨.openBrace, ['{']⟩ :: tokens ++ [⟨.closeBrace, ['}']⟩]) 0 _ _ :=
    standing.between (fun _ => rfl) (fun _ => rfl) (by decide) (by decide)
      (by decide) .nil
  have whole := closed.behind covers visible (by decide) (by decide)
  have part := ReadsPart.record ['{'] ['}'] constructor reads
  rw [List.append_assoc] at part
  rw [List.append_assoc]
  exact whole.answers (.part part) label

/-- However many texts of patterns are put together, the whole is read as the
pattern put together from theirs. -/
theorem parsePattern_compositional : Compositional where
  group _ _ label source := answers_group source label
  tuple _ _ label several sources := answers_tuple several sources label
  list _ _ label proper sources := answers_list proper sources label
  named _ _ _ label isVariable source := answers_named isVariable source label
  construct _ _ _ label isConstructor proper sources :=
    answers_construct isConstructor proper sources label
  record _ _ _ wildcard label isConstructor proper sources :=
    answers_record wildcard isConstructor proper sources label

/-- Two variables, put together in every way. -/
theorem parsePattern_two_variables :
    parsePattern "(x)" none = .ok (.var "x") ∧
      parsePattern "(x,y)" none = .ok (.tuple [.var "x", .var "y"]) ∧
      parsePattern "[x,y]" none = .ok (.list [.var "x", .var "y"]) ∧
      parsePattern "n@(x)" none = .ok (.named "n" (.var "x")) ∧
      parsePattern "A (x)(y)" none =
        .ok (.construct ⟨[], "A"⟩ [.var "x", .var "y"]) ∧
      parsePattern "A\x7bB,n=x,..\x7d" none =
        .ok (.record ⟨[], "A"⟩ [("B", .var "B"), ("n", .var "x")] true) := by
  have whole := parsePattern_compositional
  have isVariable : IsVariable "x".toList := Spelled.single (by decide)
  have isVariable' : IsVariable "y".toList := Spelled.single (by decide)
  have source : IsSource "x" (.var "x") :=
    ⟨none, parsePattern_of_isVariable isVariable none⟩
  have source' : IsSource "y" (.var "y") :=
    ⟨none, parsePattern_of_isVariable isVariable' none⟩
  have within {around : Nat} (shallow : around + 2 ≤ nestingLimit) :=
    liesWithin_of_isVariable isVariable shallow
  have within' {around : Nat} (shallow : around + 2 ≤ nestingLimit) :=
    liesWithin_of_isVariable isVariable' shallow
  have sources : List.Forall₂ IsSource ["x", "y"] [.var "x", .var "y"] :=
    .cons source (.cons source' .nil)
  have inside {around : Nat} (shallow : around + 2 ≤ nestingLimit) :
      List.Forall₂ (Pattern.LiesWithin around) ["x", "y"]
        [.var "x", .var "y"] :=
    .cons (within shallow) (.cons (within' shallow) .nil)
  have capital {c : Char} (upper : Unicode.isCapitalLetter c = true) :
      IsPiece [c] := .inl (Spelled.single upper)
  have name : IsVariable "n".toList := Spelled.single (by decide)
  have head : IsConstructor ⟨[], "A"⟩ :=
    List.forall_mem_singleton.mpr (capital (by decide))
  have fields : List.Forall₂ IsFieldSource [("B", none), ("n", some "x")]
      [("B", .var "B"), ("n", .var "x")] :=
    .cons (.alone (.inr (capital (by decide))))
      (.cons (.bound (.inl name) source) .nil)
  refine ⟨?_, ?_, ?_, ?_, ?_, ?_⟩
  · exact (whole.group "x" _ none source).eq_ok (within (by decide))
  · exact (whole.tuple ["x", "y"] _ none (by simp) sources).eq_ok
      (inside (by decide))
  · exact (whole.list ["x", "y"] _ none (by simp) sources).eq_ok
      (inside (by decide))
  · exact (whole.named "n" "x" _ none name source).eq_ok (within (by decide))
  · exact (whole.construct _ [(1, "x"), (0, "y")] _ none head (by simp)
      sources).eq_ok (inside (by decide))
  · exact (whole.record _ _ _ true none head (by simp) fields).eq_ok
      (.cons trivial (.cons (within (by decide)) .nil))

end TemplateSyntax.Pattern
