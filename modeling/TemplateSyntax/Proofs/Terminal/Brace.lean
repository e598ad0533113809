import TemplateSyntax.Proofs.Terminal.Lookahead

/-!
# Closing braces and the rules

Every interpolation and every directive ends in a closing brace, and few rules
read one (`Terminal.readsBrace`).  The others stop at it at the latest, so what
stands behind a closing brace does not matter to them (`Scan.Braceless`).  What
any rule has read in front of one it also reads when more text is added
(`Terminal.scan_append`).
-/

namespace TemplateSyntax

namespace Scan

variable {text lexeme rest more : List Char} {first second scan : Scan}

/-- An answer for a longer text. -/
def longer (more : List Char) (answer : List Char × List Char) :
    List Char × List Char :=
  (answer.1, answer.2 ++ more)

/-- A run ends where it did if what is added does not go on with it. -/
theorem many_append {accepts : Char → Bool}
    (stops : text.dropWhile accepts = [] →
      ∀ c, more.head? = some c → accepts c = false) :
    many accepts (text ++ more) = (many accepts text).map (longer more) := by
  induction text with
  | nil =>
      cases more with
      | nil => rfl
      | cons c more =>
          have refused : accepts c = false := stops rfl c rfl
          simp [many, longer, refused]
  | cons c text ih =>
      by_cases accepted : accepts c = true
      · rw [List.dropWhile_cons_of_pos accepted] at stops
        have later := ih stops
        simp only [many, longer, Option.map_some, Option.some.injEq,
          Prod.mk.injEq] at later ⊢
        simp [accepted, later]
      · simp [many, longer, accepted]

/-- The rule reads no closing brace, and text behind one does not matter. -/
structure Braceless (scan : Scan) : Prop where
  faithful : scan.Faithful
  unread : ∀ {text lexeme rest : List Char},
    scan text = some (lexeme, rest) → '}' ∉ lexeme
  settled : ∀ {text : List Char} (more : List Char), '}' ∈ text →
    scan (text ++ more) = (scan text).map (longer more)

namespace Braceless

theorem mem_rest (braceless : scan.Braceless)
    (read : scan text = some (lexeme, rest)) (brace : '}' ∈ text) :
    '}' ∈ rest := by
  rw [braceless.faithful read] at brace
  exact (List.mem_append.mp brace).resolve_left (braceless.unread read)

theorem one {accepts : Char → Bool} (refuses : accepts '}' = false) :
    (one accepts).Braceless := by
  refine ⟨Faithful.one accepts, ?_, ?_⟩
  · intro text lexeme rest read
    obtain ⟨c, accepted, rfl, _⟩ := one_eq_some_iff.mp read
    intro member
    rw [← List.mem_singleton.mp member, refuses] at accepted
    cases accepted
  · intro text more brace
    cases text with
    | nil => cases brace
    | cons c tail =>
        rw [List.cons_append, Scan.one, Scan.one]
        split <;> rfl

theorem char {expected : Char} (other : expected ≠ '}') :
    (char expected).Braceless :=
  one (beq_false_of_ne other.symm)

theorem many {accepts : Char → Bool} (refuses : accepts '}' = false) :
    (many accepts).Braceless := by
  refine ⟨Faithful.many accepts, ?_, ?_⟩
  · intro text lexeme rest read
    obtain ⟨rfl, _⟩ := many_eq_some_iff.mp read
    intro member
    rw [List.all_eq_true.mp List.all_takeWhile _ member] at refuses
    cases refuses
  · intro text more brace
    apply many_append
    intro all
    exfalso
    have split := List.takeWhile_append_dropWhile (p := accepts) (l := text)
    rw [all, List.append_nil] at split
    rw [← split] at brace
    rw [List.all_eq_true.mp List.all_takeWhile _ brace] at refuses
    cases refuses

theorem andThen (left : first.Braceless) (right : second.Braceless) :
    (first.andThen second).Braceless := by
  refine ⟨left.faithful.andThen right.faithful, ?_, ?_⟩
  · intro text lexeme rest read
    obtain ⟨_, _, _, readFirst, readSecond, rfl⟩ :=
      andThen_eq_some_iff.mp read
    rw [List.mem_append, not_or]
    exact ⟨left.unread readFirst, right.unread readSecond⟩
  · intro text more brace
    rw [Scan.andThen, Scan.andThen, left.settled more brace]
    cases readFirst : first text with
    | none => rfl
    | some answer =>
        have later := right.settled more (left.mem_rest readFirst brace)
        simp only [Option.map_some, longer, later]
        cases second answer.2 <;> rfl

theorem orElse (left : first.Braceless) (right : second.Braceless) :
    (first.orElse second).Braceless := by
  refine ⟨left.faithful.orElse right.faithful, ?_, ?_⟩
  · intro text lexeme rest read
    rw [Scan.orElse] at read
    split at read
    · exact right.unread read
    · exact left.unread read
  · intro text more brace
    rw [Scan.orElse, Scan.orElse, left.settled more brace]
    cases first text with
    | none => exact right.settled more brace
    | some answer => rfl

theorem word {expected : List Char} (plain : '}' ∉ expected) :
    (word expected).Braceless := by
  induction expected with
  | nil =>
      refine ⟨Faithful.word [], ?_, fun _ _ => rfl⟩
      intro text lexeme rest read
      obtain ⟨rfl, _⟩ := word_eq_some_iff.mp read
      exact plain
  | cons c expected ih =>
      rw [List.mem_cons, not_or] at plain
      exact (char (Ne.symm plain.1)).andThen (ih plain.2)

theorem optional (braceless : scan.Braceless) : scan.optional.Braceless :=
  braceless.orElse (word List.not_mem_nil)

theorem some1 {accepts : Char → Bool} (refuses : accepts '}' = false) :
    (some1 accepts).Braceless :=
  (one refuses).andThen (many refuses)

theorem before {ahead : List Char → Bool} (braceless : scan.Braceless)
    (near : ∀ c tail more, ahead (c :: tail ++ more) = ahead (c :: tail)) :
    (scan.before ahead).Braceless := by
  refine ⟨Faithful.before ahead braceless.faithful,
    fun read => braceless.unread (eq_some_of_before read), ?_⟩
  intro text more brace
  rw [Scan.before, Scan.before, braceless.settled more brace]
  cases read : scan text with
  | none => rfl
  | some answer =>
      obtain ⟨lexeme, rest⟩ := answer
      have left := braceless.mem_rest read brace
      cases rest with
      | nil => cases left
      | cons c tail =>
          simp only [Option.map_some, longer, near]
          split <;> rfl

theorem only {accepts : List Char → Bool} (braceless : scan.Braceless) :
    (scan.only accepts).Braceless := by
  refine ⟨Faithful.only accepts braceless.faithful,
    fun read => braceless.unread (eq_some_of_only read), ?_⟩
  intro text more brace
  rw [Scan.only, Scan.only, braceless.settled more brace]
  cases scan text with
  | none => rfl
  | some answer =>
      simp only [Option.map_some, longer]
      split <;> rfl

theorem spaced (braceless : scan.Braceless) : scan.spaced.Braceless :=
  braceless.andThen (many (by decide))

theorem blanksThen {accepts : Char → Bool} (refuses : accepts '}' = false)
    (braceless : scan.Braceless) : (blanksThen accepts scan).Braceless :=
  (many refuses).andThen braceless

theorem lineEnd : lineEnd.Braceless :=
  (word (by decide)).orElse (char (by decide))

theorem absorbing (braceless : scan.Braceless) : scan.absorbing.Braceless :=
  braceless.andThen lineEnd.optional

theorem parenthesisedOperator : parenthesisedOperator.Braceless :=
  (char (by decide)).andThen ((some1 (by decide)).andThen (char (by decide)))

theorem number : number.Braceless :=
  (char (by decide)).optional.andThen ((some1 (by decide)).andThen
    ((char (by decide)).andThen (some1 (by decide))).optional)

theorem plainName : plainName.Braceless :=
  (one (by decide)).andThen (many (by decide))

theorem moduleStep : moduleStep.Braceless :=
  (one (by decide)).andThen ((many (by decide)).andThen (char (by decide)))

theorem identifier : Braceless identifier := by
  refine ⟨Faithful.identifier, ?_, ?_⟩
  · intro text lexeme rest read
    fun_induction Scan.identifier text generalizing lexeme rest with
    | case1 text none => exact plainName.unread read
    | case2 text step left stepRead none _ => exact plainName.unread read
    | case3 text step left stepRead name tail nameRead ih =>
        cases read
        rw [List.mem_append, not_or]
        exact ⟨moduleStep.unread stepRead, ih nameRead⟩
  · intro text more brace
    fun_induction Scan.identifier text with
    | case1 text none =>
        have stepNone := moduleStep.settled more brace
        rw [none] at stepNone
        rw [Scan.identifier]
        split
        · exact plainName.settled more brace
        · rename_i step left stepRead
          rw [stepRead] at stepNone
          cases stepNone
    | case2 text step left stepRead none ih =>
        have stepLonger := moduleStep.settled more brace
        rw [stepRead] at stepLonger
        rw [Scan.identifier]
        split
        · exact plainName.settled more brace
        · rename_i _ left' stepRead'
          rw [stepRead'] at stepLonger
          cases stepLonger
          rw [ih (moduleStep.mem_rest stepRead brace), none]
          exact plainName.settled more brace
    | case3 text step left stepRead name tail nameRead ih =>
        have stepLonger := moduleStep.settled more brace
        rw [stepRead] at stepLonger
        rw [Scan.identifier]
        split
        · rename_i unread
          rw [unread] at stepLonger
          cases stepLonger
        · rename_i _ left' stepRead'
          rw [stepRead'] at stepLonger
          cases stepLonger
          rw [ih (moduleStep.mem_rest stepRead brace), nameRead]
          rfl

theorem fieldAccess : fieldAccess.Braceless :=
  (char (by decide)).andThen ((one (by decide)).andThen (many (by decide)))

theorem keyword (word : Keyword) : (keyword word).Braceless := by
  have spelling : '}' ∉ word.spelling.toList := by
    cases word <;> decide
  have plain : ((Scan.word word.spelling.toList).before
      (notAhead isNameChar)).Braceless :=
    (Braceless.word spelling).before fun _ _ _ => rfl
  rw [Scan.keyword]
  split
  · exact plain.andThen (many (by decide))
  · exact plain

end Braceless

/-! ### What has been read in front of a closing brace -/

/-- What the rule reads in front of a closing brace it reads from a longer text,
too. -/
def Extends (scan : Scan) : Prop :=
  ∀ ⦃text lexeme rest : List Char⦄ (more : List Char),
    scan text = some (lexeme, rest) → '}' ∈ rest →
    scan (text ++ more) = some (lexeme, rest ++ more)

theorem Braceless.extends (braceless : scan.Braceless) : scan.Extends := by
  intro text lexeme rest more read brace
  have inText : '}' ∈ text := by
    rw [braceless.faithful read]
    exact List.mem_append_right _ brace
  rw [braceless.settled more inText, read]
  rfl

namespace Extends

theorem one (accepts : Char → Bool) : (one accepts).Extends := by
  intro text lexeme rest more read _
  obtain ⟨c, accepted, rfl, rfl⟩ := one_eq_some_iff.mp read
  exact one_eq_some_iff.mpr ⟨c, accepted, rfl, rfl⟩

theorem many (accepts : Char → Bool) : (many accepts).Extends := by
  intro text lexeme rest more read brace
  rw [many_append, read]
  · rfl
  · intro all
    obtain ⟨_, rfl⟩ := many_eq_some_iff.mp read
    exact absurd all (List.ne_nil_of_mem brace)

theorem andThen (left : first.Extends) (right : second.Extends)
    (faithful : second.Faithful) : (first.andThen second).Extends := by
  intro text lexeme rest more read brace
  obtain ⟨front, middle, back, readFirst, readSecond, rfl⟩ :=
    andThen_eq_some_iff.mp read
  have inMiddle : '}' ∈ middle := by
    rw [faithful readSecond]
    exact List.mem_append_right _ brace
  exact andThen_eq_some_iff.mpr ⟨front, middle ++ more, back,
    left more readFirst inMiddle, right more readSecond brace, rfl⟩

theorem stringTail_append (more : List Char)
    (read : stringTail text = some (lexeme, rest)) :
    stringTail (text ++ more) = some (lexeme, rest ++ more) := by
  fun_induction Scan.stringTail text generalizing lexeme rest with
  | case1 => cases read
  | case2 =>
      cases read
      rfl
  | case3 => cases read
  | case4 escaped tail known lexeme' left inner ih =>
      cases read
      simp only [List.cons_append, Scan.stringTail, if_pos known, ih inner]
  | case5 => cases read
  | case6 => cases read
  | case7 => cases read
  | case8 c tail notQuote _ notEscape lexeme' left inner ih =>
      cases read
      rw [List.cons_append, Scan.stringTail.eq_4]
      · rw [if_neg notEscape, ih inner]
      · exact notQuote
      · intro _ _ eq
        exact absurd eq notEscape

/-- Whatever follows it, a closing brace with blanks in front stays the same. -/
theorem blanksThen_brace_append {accepts : Char → Bool} (more : List Char)
    (read : blanksThen accepts (char '}') text = some (lexeme, rest)) :
    lexeme.getLast? = some '}' ∧
      blanksThen accepts (char '}') (text ++ more) =
        some (lexeme, rest ++ more) := by
  obtain ⟨blanks, middle, brace, skipped, closing, rfl⟩ :=
    andThen_eq_some_iff.mp read
  obtain ⟨rfl, rfl⟩ := char_eq_some_iff.mp closing
  have blanksLonger : Scan.many accepts (text ++ more) =
      some (blanks, '}' :: rest ++ more) := by
    rw [many_append, skipped]
    · rfl
    · intro all
      have stop := (many_eq_some_iff.mp skipped).2
      rw [all] at stop
      cases stop
  refine ⟨List.getLast?_concat, ?_⟩
  exact andThen_eq_some_iff.mpr ⟨blanks, '}' :: rest ++ more, ['}'],
    blanksLonger, char_eq_some_iff.mpr ⟨rfl, rfl⟩, rfl⟩

theorem stringLiteral : stringLiteral.Extends :=
  (one _).andThen (fun _ _ _ more read _ => stringTail_append more read)
    Faithful.stringTail

end Extends

end Scan

namespace Terminal

open Scan

/-- The rule of the terminal may read a closing brace. -/
def readsBrace : Terminal → Bool
  | .literal | .string | .closeBrace | .valueClose | .controlClose => true
  | _ => false

theorem braceless_scan (triggers : Triggers) {terminal : Terminal}
    (other : terminal.readsBrace = false) :
    (terminal.scan triggers).Braceless := by
  have notBrace {trigger : Char} (allowed : canTrigger trigger = true) :
      trigger ≠ '}' := by
    rintro rfl
    exact absurd allowed (by decide)
  have control := notBrace triggers.control_ok
  have value := notBrace triggers.value_ok
  cases terminal with
  | literal | string | closeBrace | valueClose | controlClose => cases other
  | valueOpen => exact .word (by simp [value.symm])
  | valueEscape => exact .word (by simp [value.symm])
  | valueAtLineEnd => exact (Braceless.char value).before fun _ _ _ => rfl
  | valueBare => exact (Braceless.char value).before fun _ _ _ => rfl
  | controlOpen =>
      have opening : (word [triggers.control, '{']).Braceless :=
        .word (by simp [control.symm])
      exact opening.andThen (.many (by decide))
  | controlEscape =>
      have escape : (word [triggers.control, '\\']).Braceless :=
        .word (by simp [control.symm])
      exact escape.absorbing
  | controlBare =>
      exact ((Braceless.char control).before fun _ _ _ => rfl).absorbing
  | keyword word => exact .keyword word
  | arrow =>
      have sign : (word ['<', '-']).Braceless := .word (by decide)
      exact .blanksThen (by decide) (sign.andThen (.many (by decide)))
  | variableWord =>
      exact ((Braceless.one (by decide)).andThen (.many (by decide))).spaced
  | capitalWord =>
      exact ((Braceless.one (by decide)).andThen (.many (by decide))).spaced
  | operatorConstructor => exact Braceless.parenthesisedOperator.spaced
  | wildcard =>
      have dots : (word ['.', '.']).Braceless := .word (by decide)
      exact dots.spaced
  | dot => exact .char (by decide)
  | asSign | equals | patternComma | patternOpenParen | patternCloseParen
  | patternOpenBracket | patternCloseBracket | openBrace =>
      exact (Braceless.char (by decide)).spaced
  | identifier => exact .identifier
  | fieldAccess => exact .fieldAccess
  | number => exact .number
  | operatorName => exact .parenthesisedOperator
  | operator => exact (Braceless.some1 (by decide)).only
  | dollar => exact (Braceless.some1 (by decide)).andThen (.char (by decide))
  | spaces => exact .some1 (by decide)
  | blanks => exact .some1 (by decide)
  | exprOpenParen | exprOpenBracket => exact .char (by decide)
  | exprCloseParen | exprComma | exprCloseBracket =>
      exact .blanksThen (by decide) (.char (by decide))

variable {triggers : Triggers} {terminal : Terminal}
  {text lexeme rest : List Char}

theorem readsBrace_of_mem (read : terminal.scan triggers text =
    some (lexeme, rest)) (brace : '}' ∈ lexeme) :
    terminal.readsBrace = true := by
  rw [← Bool.not_eq_false]
  intro other
  exact (braceless_scan triggers other).unread read brace

theorem extends_scan (triggers : Triggers) (terminal : Terminal) :
    (terminal.scan triggers).Extends := by
  cases brace : terminal.readsBrace with
  | false => exact (braceless_scan triggers brace).extends
  | true =>
      have closing {accepts : Char → Bool} :
          (blanksThen accepts (char '}')).Extends :=
        fun _ _ _ more read _ => (Extends.blanksThen_brace_append more read).2
      cases terminal with
      | literal => exact (Extends.one _).andThen (.many _) (Faithful.many _)
      | string => exact .stringLiteral
      | closeBrace => exact (Extends.one _).andThen (.many _) (Faithful.many _)
      | valueClose => exact closing
      | controlClose =>
          exact closing.andThen Braceless.lineEnd.optional.extends
            Braceless.lineEnd.optional.faithful
      | _ => cases brace

/-- What stands in front of a closing brace is read the same from a longer
text. -/
theorem scan_append (more : List Char)
    (read : terminal.scan triggers text = some (lexeme, rest))
    (brace : '}' ∈ rest) :
    terminal.scan triggers (text ++ more) = some (lexeme, rest ++ more) :=
  extends_scan triggers terminal more read brace

end Terminal

end TemplateSyntax
