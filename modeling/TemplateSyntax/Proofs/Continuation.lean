import TemplateSyntax.Proofs.Completion
import TemplateSyntax.Proofs.Item.Nearsighted

/-!
# Refusals do not come too early

Where a text is refused as unexpected, what stands in front of the place can be
continued to a text that is not.  A pattern can even be continued to one with a
value or one that is nested too deeply; for lines and expressions this is so
exactly if the numbers in front of the place have values
(`entryPoints_neverPremature`).
-/

namespace TemplateSyntax

open Expr.Grammar (Expression)
open Item.Grammar (Line)
open Pattern.Grammar (Whole)

/-- Some continuation of the text has an answer of the kind. -/
def Continues {α : Type} (parse : String → Except ParseError α)
    (begun : List Char) (kind : Except ParseError α → Prop) : Prop :=
  ∃ more, kind (parse (String.ofList (begun ++ more)))

/-- The text was not refused as unexpected. -/
def NotUnexpected {α : Type} (answer : Except ParseError α) : Prop :=
  ¬∃ error, answer = .error error ∧ error.Unexpected

/-- What stands in front of the place of an unexpected refusal can be continued
to a text that has a value or is nested too deeply. -/
def NeverPremature {α : Type} (parse : String → Except ParseError α) : Prop :=
  ∀ text diagnostic, parse text = .error (.atPlace diagnostic) →
    (ParseError.atPlace diagnostic).Unexpected →
    Continues parse (text.toList.take diagnostic.span.start) Fits

/-- What stands in front of the place of an unexpected refusal consists of tokens
that begin a derivation, and it can be continued to a text that is not
unexpected.  It can be continued to one that has a value or is nested too deeply
exactly if the numbers among the tokens have values, or if it can be continued to
one that is nested too deeply. -/
def PrematureForNumbersOnly {α : Type} (grammar : List Token → α → Prop)
    (triggers : Triggers) (parse : String → Except ParseError α) : Prop :=
  ∀ text diagnostic, parse text = .error (.atPlace diagnostic) →
    (ParseError.atPlace diagnostic).Unexpected →
    ∃ tokens later, Resumes grammar triggers tokens later ∧
      text.toList.take diagnostic.span.start = tokens.flatMap Token.lexeme ∧
      Continues parse (tokens.flatMap Token.lexeme) NotUnexpected ∧
      (Continues parse (tokens.flatMap Token.lexeme) Fits ↔
        (∀ token ∈ tokens, token.error? = none) ∨
          Continues parse (tokens.flatMap Token.lexeme) TooDeep)

theorem PrematureForNumbersOnly.neverPremature {α : Type}
    {grammar : List Token → α → Prop} {triggers : Triggers}
    {parse : String → Except ParseError α}
    (only : PrematureForNumbersOnly grammar triggers parse)
    (none : ∀ tokens value, grammar tokens value →
      ∀ token ∈ tokens, token.terminal ≠ .number) : NeverPremature parse := by
  intro text diagnostic answer unexpected
  obtain ⟨tokens, later, resumes, begun, _, fits_iff⟩ :=
    only text diagnostic answer unexpected
  obtain ⟨value, derivation⟩ := resumes.derived
  rw [begun, fits_iff]
  exact .inl fun token member => Token.error?_of_ne_number
    (none _ _ derivation token (List.mem_append_left later member))

/-- Blanks that are cut off at the end of a text leave its digits. -/
theorem isPrefix_of_trimmed {text trimmed trail front : List Char}
    {digit : Char} (whole : text = trimmed ++ trail)
    (blank : ∀ c ∈ trail, Scan.isSpaceOrTab c = true)
    (decimal : Unicode.isDecimal digit = true)
    (begins : front ++ [digit] <+: text) : front ++ [digit] <+: trimmed := by
  obtain ⟨more, split⟩ := begins
  rw [whole] at split
  rcases List.append_eq_append_iff.mp split with
    ⟨back, trimmedEq, _⟩ | ⟨back, frontEq, trailEq⟩
  · exact ⟨back, trimmedEq.symm⟩
  · rcases List.eq_nil_or_concat back with rfl | ⟨others, last, rfl⟩
    · rw [List.append_nil] at frontEq
      exact ⟨[], by rw [List.append_nil, frontEq]⟩
    · -- the digit would be among the blanks
      rw [List.concat_eq_append, ← List.append_assoc] at frontEq
      obtain rfl : digit = last := by
        simpa using (List.append_inj' frontEq rfl).2
      have isBlank := Scan.isBlank_of_isSpaceOrTab digit
        (blank digit (by simp [trailEq]))
      rw [Unicode.isDecimal_of_isBlank isBlank] at decimal
      cases decimal

namespace Language.Recognises

variable {σ α : Type} {language : Language σ α}
  {grammar : List Token → α → Prop} {triggers : Triggers}
  {ahead : σ → List Char → Terminal}

/-- A reader whose stuck readings can be resumed is premature for numbers only.
What it reads of a text (`source`) may leave out blanks at the end, but none at
the end of a derivation. -/
theorem prematureForNumbersOnly (recognises : language.Recognises grammar)
    (foresees : language.Foresees triggers ahead)
    (distinct : language.Distinct)
    (nearsighted : language.Nearsighted triggers ahead)
    {parse : String → Except ParseError α} {source : String → Source}
    (reads : ∀ text, parse text = language.parse triggers (source text))
    (trims : ∀ text, ∃ trail, text.toList = (source text).chars ++ trail ∧
      ∀ c ∈ trail, Scan.isSpaceOrTab c = true)
    (whole : ∀ tokens value,
      Laid triggers (tokens.flatMap Token.lexeme) tokens [] →
      grammar tokens value →
      (source (String.ofList (tokens.flatMap Token.lexeme))).chars =
        tokens.flatMap Token.lexeme)
    (resumed : ∀ text tokens rest state, Laid triggers text tokens rest →
      language.Path language.start tokens state →
      language.Stuck triggers state rest →
      ∃ later, Resumes grammar triggers tokens later) :
    PrematureForNumbersOnly grammar triggers parse := by
  intro text diagnostic answer unexpected
  have unambiguous := recognises.unambiguous foresees distinct
  rw [reads] at answer
  have underivable :=
    recognises.not_derivable_of_unexpected unambiguous answer unexpected
  rw [recognises.parse_of_not_derivable underivable] at answer
  obtain ⟨tokens, rest, state, laid, path, stuck, position⟩ :=
    recognises.exists_stuck underivable
  obtain ⟨later, resumes⟩ := resumed _ tokens rest state laid path stuck
  have start : diagnostic.span.start =
      (tokens.flatMap Token.lexeme).length := by
    cases answer
    exact position
  have begun : text.toList.take diagnostic.span.start =
      tokens.flatMap Token.lexeme := by
    obtain ⟨trail, split, _⟩ := trims text
    rw [split, laid.text_eq, start, List.append_assoc, List.take_left]
  obtain ⟨value, derivation⟩ := resumes.derived
  have completed : (source (String.ofList (tokens.flatMap Token.lexeme ++
      later.flatMap Token.lexeme))).chars =
        (tokens ++ later).flatMap Token.lexeme := by
    rw [← List.flatMap_append]
    exact whole _ _ resumes.laid derivation
  refine ⟨tokens, later, resumes, begun, ⟨later.flatMap Token.lexeme, ?_⟩, ?_⟩
  · rintro ⟨error, failed, surprising⟩
    rw [reads] at failed
    apply recognises.not_derivable_of_unexpected unambiguous failed surprising
    rw [completed]
    exact resumes.derivable
  · simp only [Continues, reads]
    refine recognises.continues_iff resumes foresees distinct nearsighted
      (fun more => source (String.ofList (tokens.flatMap Token.lexeme ++ more)))
      ?_ completed
    intro more front digit decimal begins
    obtain ⟨trail, split, blank⟩ :=
      trims (String.ofList (tokens.flatMap Token.lexeme ++ more))
    rw [String.toList_ofList] at split
    exact isPrefix_of_trimmed split blank decimal
      (begins.trans (List.prefix_append _ _))

end Language.Recognises

namespace Item

variable {triggers : Triggers}

theorem isSome_absorbing {scan : Scan} {text lexeme rest : List Char}
    (read : scan text = some (lexeme, rest)) :
    (scan.absorbing text).isSome = true := by
  rw [Scan.absorbing, Scan.isSome_andThen read, Scan.optional, Scan.orElse]
  cases Scan.lineEnd rest <;> rfl

theorem isSome_scan_textAhead (triggers : Triggers) (c : Char)
    (rest : List Char) :
    ((textAhead triggers (c :: rest)).scan triggers (c :: rest)).isSome =
      true := by
  have opened {trigger d : Char} (same : c = trigger)
      (next : rest.head? = some d) :
      Scan.word [trigger, d] (c :: rest) = some ([trigger, d], rest.tail) := by
    obtain ⟨tail, rfl⟩ := List.head?_eq_some_iff.mp next
    exact Scan.word_eq_some_iff.mpr ⟨rfl, by rw [same]; rfl⟩
  have bare {trigger : Char} (same : c = trigger) :
      Scan.char trigger (c :: rest) = some ([trigger], rest) := by
    rw [same]
    exact Scan.read_char _ _
  rw [textAhead]
  split_ifs with control brace escape value brace escape ending
  · have rule : Terminal.controlOpen.scan triggers =
        (Scan.word [triggers.control, '{']).andThen
          (Scan.many Unicode.isBlank) := rfl
    rw [rule, Scan.isSome_andThen (opened control brace)]
    rfl
  · exact isSome_absorbing (opened control escape)
  · exact isSome_absorbing (Scan.before_eq_some_iff.mpr
      ⟨bare control, notAhead_of_head escape brace⟩)
  · exact Option.isSome_of_eq_some (opened value brace)
  · exact Option.isSome_of_eq_some (opened value escape)
  · exact Option.isSome_of_eq_some
      (Scan.before_eq_some_iff.mpr ⟨bare value, ending⟩)
  · exact Option.isSome_of_eq_some (Scan.before_eq_some_iff.mpr
      ⟨bare value, by simp [ending, notAhead_of_head escape brace]⟩)
  · exact Option.isSome_of_eq_some (Scan.some1_eq_some_iff.mpr
      ⟨c, rest, rfl, by simp [control, value], rfl, rfl⟩)

theorem place_ne_text {state : State} {rest : List Char}
    (stuck : language.Stuck triggers state rest) : state.place ≠ .text := by
  obtain ⟨items, place⟩ := state
  rintro rfl
  cases rest with
  | nil => exact absurd (stuck.unfinished rfl) (Option.some_ne_none _)
  | cons c rest =>
      have read := isSome_scan_textAhead triggers c rest
      have known : textAhead triggers (c :: rest) ∈
          language.expected ⟨items, .text⟩ := by
        rw [textAhead]
        split_ifs <;> simp [language, Language.expected, State.moves,
          State.textMoves, State.literalMove]
      rw [stuck.unread _ known] at read
      cases read

end Item

theorem parseLine_prematureForNumbersOnly (triggers : Triggers)
    (label : Option String) :
    PrematureForNumbersOnly Line triggers (parseLine triggers · label) := by
  by_cases readable : triggers.canRead = true
  · have reads : ∀ text, parseLine triggers text label =
        Item.language.parse triggers ⟨text, label⟩ := fun _ => if_pos readable
    refine Item.language_recognises.prematureForNumbersOnly
      (Item.language_foresees triggers) Item.language_distinct
      (Item.language_nearsighted triggers) reads ?_ ?_ ?_
    · exact fun text => ⟨[], (List.append_nil _).symm, by simp⟩
    · exact fun tokens _ _ _ => String.toList_ofList
    · exact fun _ _ _ state laid path stuck =>
        ⟨state.completion, Item.resumes laid path (Item.place_ne_text stuck)⟩
  · intro text diagnostic answer _
    have refused : parseLine triggers text label = .error .nullTrigger :=
      if_neg readable
    cases refused.symm.trans answer

/-- No number stands in a pattern, so patterns are never refused too early. -/
theorem parsePattern_neverPremature (label : Option String) :
    NeverPremature (parsePattern · label) := by
  have only : PrematureForNumbersOnly Whole Triggers.standard
      (parsePattern · label) := by
    refine Pattern.language_recognises.prematureForNumbersOnly
      (Pattern.language_foresees _) Pattern.language_distinct
      (Pattern.language_nearsighted _) (fun _ => rfl) ?_ ?_ ?_
    · exact fun text => ⟨[], (List.append_nil _).symm, by simp⟩
    · exact fun tokens _ _ _ => String.toList_ofList
    · exact fun _ _ _ state laid path _ =>
        ⟨state.completion, Pattern.resumes laid path⟩
  exact only.neverPremature fun _ _ => Pattern.terminal_ne_number_of_whole

theorem parseExpr_prematureForNumbersOnly (label : Option String) :
    PrematureForNumbersOnly Expression Triggers.standard
      (parseExpr · label) := by
  refine Expr.language_recognises.prematureForNumbersOnly
    (Expr.language_foresees _) Expr.language_distinct
    (Expr.language_nearsighted _) (fun _ => rfl) exists_trimmed ?_ ?_
  · intro tokens value laid expression
    -- an expression does not end in a blank
    have trimmed := Expr.trimEnd_of_laid laid expression
    rw [Source.chars, trimmed, String.toList_ofList]
  · exact fun _ _ _ state laid path _ =>
      ⟨state.completion, Expr.resumes laid path⟩

/-- At every entry point, whatever stands in front of the place of an unexpected
refusal can be continued to a text that is not unexpected, and to one that has a
value or is nested too deeply exactly if the numbers in front of the place have
values, or if it can be nested too deeply; in a pattern no number is in the way. -/
theorem entryPoints_neverPremature (triggers : Triggers)
    (label : Option String) :
    PrematureForNumbersOnly Line triggers (parseLine triggers · label) ∧
      NeverPremature (parsePattern · label) ∧
      PrematureForNumbersOnly Expression Triggers.standard
        (parseExpr · label) :=
  ⟨parseLine_prematureForNumbersOnly triggers label,
    parsePattern_neverPremature label, parseExpr_prematureForNumbersOnly label⟩

-- numbers without a value do arise: a bracket behind this digit is unexpected,
-- and without the bracket the digit has no value
example :
    parseExpr (String.ofList [Char.ofNat 0x11F51]) none =
      .error (.number
        (.unknownInteger (String.ofList [Char.ofNat 0x11F51]))) := by
  decide +kernel

end TemplateSyntax
