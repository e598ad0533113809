import TemplateSyntax.Proofs.Item.Lookahead
import TemplateSyntax.Proofs.Item.Printed

/-!
# Literal text

A text that opens neither a directive nor a value is literal throughout.  What it
stands for is found from left to right, one character or one trigger at a time
(`literalText`), and a line without openings is read as just that
(`parseLine_literalText`).
-/

namespace TemplateSyntax

open Scan

/-! ### The rule -/

/-- The text behind the backslash of an escaped trigger. -/
def dropEscape : List Char → List Char
  | '\\' :: rest => rest
  | text => text

/-- The text behind one line end. -/
def dropLineEnd : List Char → List Char
  | '\n' :: rest => rest
  | '\r' :: '\n' :: rest => rest
  | text => text

theorem dropEscape_suffix (text : List Char) : dropEscape text <:+ text := by
  fun_cases dropEscape text with
  | case1 rest => exact List.suffix_cons _ _
  | case2 => exact List.suffix_refl _

theorem dropLineEnd_suffix (text : List Char) : dropLineEnd text <:+ text := by
  fun_cases dropLineEnd text with
  | case1 rest => exact List.suffix_cons _ _
  | case2 rest => exact (List.suffix_cons _ _).trans (List.suffix_cons _ _)
  | case3 => exact List.suffix_refl _

/-- What a text stands for that has triggers but no openings.  A control trigger
takes a backslash and a line end with it, a value trigger a backslash; in front
of a line end and at the end of the text a value trigger stands for nothing. -/
def literalText (triggers : Triggers) : List Char → List Char
  | [] => []
  | c :: rest =>
      if c = triggers.control then
        c :: literalText triggers (dropLineEnd (dropEscape rest))
      else if c = triggers.value then
        if atLineEnd rest then literalText triggers rest
        else c :: literalText triggers (dropEscape rest)
      else c :: literalText triggers rest
termination_by text => text.length
decreasing_by
  all_goals
    have escape := (dropEscape_suffix rest).length_le
    have lineEnd := (dropLineEnd_suffix (dropEscape rest)).length_le
    simp only [List.length_cons]
    omega

/-- The literal that a text without openings is read as; the empty text has
none. -/
def literalItems (triggers : Triggers) (text : List Char) : List Item :=
  if text = [] then []
  else [.literal (String.ofList (literalText triggers text))]

/-- Neither a directive nor a value opens in the text. -/
structure OpensNothing (triggers : Triggers) (text : List Char) : Prop where
  control : ¬[triggers.control, '{'] <:+: text
  value : ¬[triggers.value, '{'] <:+: text

section Rule

variable {triggers : Triggers} {text rest : List Char} {c : Char}

theorem OpensNothing.of_suffix (opensNothing : OpensNothing triggers text)
    (suffix : rest <:+ text) : OpensNothing triggers rest :=
  ⟨fun opening => opensNothing.control (opening.trans suffix.isInfix),
    fun opening => opensNothing.value (opening.trans suffix.isInfix)⟩

theorem OpensNothing.tail (opensNothing : OpensNothing triggers (c :: rest)) :
    OpensNothing triggers rest :=
  opensNothing.of_suffix (List.suffix_cons c rest)

theorem OpensNothing.head?_ne (opensNothing : OpensNothing triggers (c :: rest))
    (trigger : c = triggers.control ∨ c = triggers.value) :
    rest.head? ≠ some '{' := by
  intro brace
  obtain ⟨tail, rfl⟩ := List.head?_eq_some_iff.mp brace
  have opening : [c, '{'] <:+: c :: '{' :: tail := ⟨[], tail, rfl⟩
  rcases trigger with rfl | rfl
  · exact opensNothing.control opening
  · exact opensNothing.value opening

theorem prepend_literalItems (triggers : Triggers) (front rest : List Char) :
    Item.prepend (.literal (String.ofList front)) (literalItems triggers rest) =
      [.literal (String.ofList (front ++ literalText triggers rest))] := by
  rw [literalItems]
  split
  · rename_i empty
    rw [empty, literalText, List.append_nil]
    rfl
  · rw [String.ofList_append]
    rfl

end Rule

/-! ### What a trigger reads -/

/-- One token in front of the rest, which shows the characters. -/
def ReadsLiteral (triggers : Triggers) (text shown rest : List Char) : Prop :=
  ∃ token, Item.Grammar.One [token] (.literal (String.ofList shown)) ∧
    token.terminal.scan triggers text = some (token.lexeme, rest)

section Trigger

variable {triggers : Triggers} {text lexeme rest : List Char}

theorem exists_read_lineEnd (text : List Char) :
    ∃ ending, lineEnd.optional text = some (ending, dropLineEnd text) := by
  fun_cases dropLineEnd text with
  | case1 rest => exact ⟨['\n'], rfl⟩
  | case2 rest => exact ⟨['\r', '\n'], rfl⟩
  | case3 _ noFeed noReturn =>
      have noWord : word ['\r', '\n'] text = none := by
        rw [Option.eq_none_iff_forall_ne_some]
        rintro ⟨_, rest⟩ read
        exact noReturn rest (word_eq_some_iff.mp read).2
      have noChar : char '\n' text = none := by
        rw [Option.eq_none_iff_forall_ne_some]
        rintro ⟨_, rest⟩ read
        exact noFeed rest (char_eq_some_iff.mp read).2
      refine ⟨[], ?_⟩
      rw [Scan.optional, orElse, lineEnd, orElse, noWord, noChar]
      rfl

theorem exists_read_absorbing {scan : Scan}
    (read : scan text = some (lexeme, rest)) :
    ∃ ending, scan.absorbing text =
      some (lexeme ++ ending, dropLineEnd rest) := by
  obtain ⟨ending, taken⟩ := exists_read_lineEnd rest
  exact ⟨ending, andThen_eq_some_iff.mpr
    ⟨lexeme, rest, ending, read, taken, rfl⟩⟩

theorem notAhead_of_ne (noEscape : ∀ tail, rest ≠ '\\' :: tail)
    (noBrace : rest.head? ≠ some '{') :
    notAhead (fun c => c = '\\' || c = '{') rest = true := by
  refine Item.notAhead_of_head (fun escape => ?_) noBrace
  obtain ⟨tail, shape⟩ := List.head?_eq_some_iff.mp escape
  exact noEscape tail shape

/-- A control trigger that opens nothing passes over a backslash and then over a
line end. -/
theorem readsLiteral_control (noBrace : rest.head? ≠ some '{') :
    ReadsLiteral triggers (triggers.control :: rest) [triggers.control]
      (dropLineEnd (dropEscape rest)) := by
  fun_cases dropEscape rest with
  | case1 rest =>
      have escape : word [triggers.control, '\\']
          (triggers.control :: '\\' :: rest) =
          some ([triggers.control, '\\'], rest) :=
        word_eq_some_iff.mpr ⟨rfl, rfl⟩
      obtain ⟨_, read⟩ := exists_read_absorbing escape
      exact ⟨⟨.controlEscape, _⟩, .controlEscape _, read⟩
  | case2 _ noEscape =>
      have bare := before_eq_some_iff.mpr
        ⟨read_char triggers.control rest, notAhead_of_ne noEscape noBrace⟩
      obtain ⟨_, read⟩ := exists_read_absorbing bare
      exact ⟨⟨.controlBare, _⟩, .controlBare _, read⟩

/-- A value trigger in front of a line end stands for nothing. -/
theorem readsLiteral_valueAtLineEnd (ending : atLineEnd rest = true) :
    ReadsLiteral triggers (triggers.value :: rest) [] rest :=
  ⟨⟨.valueAtLineEnd, [triggers.value]⟩, .valueAtLineEnd _,
    before_eq_some_iff.mpr ⟨read_char _ _, ending⟩⟩

/-- Another value trigger that opens nothing passes over a backslash. -/
theorem readsLiteral_value (noEnding : atLineEnd rest = false)
    (noBrace : rest.head? ≠ some '{') :
    ReadsLiteral triggers (triggers.value :: rest) [triggers.value]
      (dropEscape rest) := by
  fun_cases dropEscape rest with
  | case1 rest =>
      exact ⟨⟨.valueEscape, _⟩, .valueEscape [triggers.value, '\\'],
        word_eq_some_iff.mpr ⟨rfl, rfl⟩⟩
  | case2 _ noEscape =>
      have ahead := notAhead_of_ne noEscape noBrace
      exact ⟨⟨.valueBare, _⟩, .valueBare [triggers.value],
        before_eq_some_iff.mpr
          ⟨read_char _ _, by rw [noEnding, ahead]; rfl⟩⟩

end Trigger

/-! ### Whole lines -/

section Line

variable {triggers : Triggers} {text shown rest : List Char}

theorem ReadsLiteral.reading (reads : ReadsLiteral triggers text shown rest)
    (later : Item.Reading triggers rest (literalItems triggers rest) True) :
    Item.Reading triggers text
      [.literal (String.ofList (shown ++ literalText triggers rest))] True := by
  obtain ⟨_, one, read⟩ := reads
  rw [← prepend_literalItems]
  exact later.cons_literal one read

theorem literalItems_cons (c : Char) (rest : List Char) :
    literalItems triggers (c :: rest) =
      [.literal (String.ofList (literalText triggers (c :: rest)))] :=
  if_neg (List.cons_ne_nil c rest)

/-- By induction along the rule, one token in front of the others. -/
theorem reading_literalItems (opensNothing : OpensNothing triggers text) :
    Item.Reading triggers text (literalItems triggers text) True := by
  fun_induction literalText triggers text with
  | case1 => exact .nil
  | case2 rest ih =>
      have noBrace := opensNothing.head?_ne (.inl rfl)
      have later := ih (opensNothing.tail.of_suffix
        ((dropLineEnd_suffix _).trans (dropEscape_suffix rest)))
      rw [literalItems_cons, literalText, if_pos rfl]
      exact (readsLiteral_control noBrace).reading later
  | case3 rest ending notControl ih =>
      rw [literalItems_cons, literalText, if_neg notControl, if_pos rfl,
        if_pos ending]
      exact (readsLiteral_valueAtLineEnd ending).reading (ih opensNothing.tail)
  | case4 rest noEnding notControl ih =>
      have noBrace := opensNothing.head?_ne (.inr rfl)
      have later := ih (opensNothing.tail.of_suffix (dropEscape_suffix rest))
      rw [literalItems_cons, literalText, if_neg notControl, if_pos rfl,
        if_neg noEnding]
      exact (readsLiteral_value (Bool.eq_false_iff.mpr noEnding)
        noBrace).reading later
  | case5 c rest notControl notValue ih =>
      have reading := (ih opensNothing.tail).plain
        (not_or.mpr ⟨notControl, notValue⟩)
      rw [prepend_literalItems] at reading
      rwa [literalItems_cons, literalText, if_neg notControl, if_neg notValue]

end Line

/-- A text that opens nothing is read as the literal it stands for, unless no
line can be read with the triggers. -/
theorem parseLine_literalText {triggers : Triggers} {text : String}
    (opensNothing : OpensNothing triggers text.toList) (label : Option String) :
    parseLine triggers text label =
        .ok (literalItems triggers text.toList) ↔
      triggers.canRead = true := by
  rw [(reading_literalItems opensNothing).parseLine_eq_ok_iff, and_true]

/-- Escaped and bare triggers, in front of line ends and of other text. -/
theorem parseLine_literalText_triggers :
    OpensNothing Triggers.standard "a%\\\nb#\\c%\r\nd#e#\nf#".toList ∧
      parseLine Triggers.standard "a%\\\nb#\\c%\r\nd#e#\nf#" none =
        .ok [.literal "a%b#c%d#e\nf"] := by
  have opensNothing : OpensNothing Triggers.standard
      "a%\\\nb#\\c%\r\nd#e#\nf#".toList := ⟨by decide, by decide⟩
  have answer := (parseLine_literalText opensNothing none).mpr (by decide)
  have shown : literalItems Triggers.standard
      "a%\\\nb#\\c%\r\nd#e#\nf#".toList = [.literal "a%b#c%d#e\nf"] := by
    cbv
  rw [shown] at answer
  exact ⟨opensNothing, answer⟩

end TemplateSyntax
