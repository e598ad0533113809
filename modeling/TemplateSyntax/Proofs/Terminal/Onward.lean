import TemplateSyntax.Proofs.Reading.Longer
import TemplateSyntax.Proofs.Terminal.Cut

/-!
# Text put behind what has been read

A rule that is used inside an item reads the same when text is put behind that it
cannot take: characters of names behind a name, digits behind a number, blanks
behind a token of a pattern (`Terminal.takes`).  What follows the token already
keeps it from going on, unless the rule looks further ahead
(`Terminal.scan_onward`).
-/

namespace TemplateSyntax

namespace Scan

variable {takes accepts : Char → Bool} {first second scan : Scan}
  {text more : List Char}

/-! ### Rules that look ahead -/

/-- The rule answers the same when text is put behind that it does not take. -/
def Settled (takes : Char → Bool) (scan : Scan) : Prop :=
  ∀ text more : List Char, notAhead takes more = true →
    scan (text ++ more) = (scan text).map (longer more)

theorem refuses_of_notAhead (within : ∀ c, accepts c = true → takes c = true)
    (stop : notAhead takes more = true) :
    ∀ c, more.head? = some c → accepts c = false := by
  intro c here
  have refused : takes c = false := by simpa [notAhead, here] using stop
  rw [Bool.eq_false_iff]
  intro accepted
  rw [within c accepted] at refused
  cases refused

namespace Settled

theorem one (within : ∀ c, accepts c = true → takes c = true) :
    (one accepts).Settled takes := by
  intro text more stop
  have refused := refuses_of_notAhead within stop
  cases text with
  | cons c text =>
      rw [List.cons_append, Scan.one, Scan.one]
      split <;> rfl
  | nil =>
      cases more with
      | nil => rfl
      | cons c more =>
          simp [Scan.one, refused c rfl]

theorem char {expected : Char} (taken : takes expected = true) :
    (char expected).Settled takes := by
  apply one
  intro c accepted
  rwa [eq_of_beq accepted]

theorem many (within : ∀ c, accepts c = true → takes c = true) :
    (many accepts).Settled takes :=
  fun _ _ stop => many_append fun _ => refuses_of_notAhead within stop

theorem andThen (left : first.Settled takes) (right : second.Settled takes) :
    (first.andThen second).Settled takes := by
  intro text more stop
  rw [Scan.andThen, Scan.andThen, left text more stop]
  cases first text with
  | none => rfl
  | some answer =>
      simp only [Option.map_some, longer, right answer.2 more stop]
      cases second answer.2 <;> rfl

theorem optional (settled : scan.Settled takes) :
    scan.optional.Settled takes := by
  intro text more stop
  rw [Scan.optional, orElse, orElse, settled text more stop]
  cases scan text <;> rfl

theorem some1 (within : ∀ c, accepts c = true → takes c = true) :
    (some1 accepts).Settled takes :=
  (one within).andThen (many within)

theorem number (digits : ∀ c, Unicode.isDecimal c = true → takes c = true)
    (sign : takes '-' = true) (point : takes '.' = true) :
    number.Settled takes :=
  (char sign).optional.andThen
    ((some1 digits).andThen ((char point).andThen (some1 digits)).optional)

theorem identifier (heads : ∀ c, isNameHead c = true → takes c = true)
    (names : ∀ c, isNameChar c = true → takes c = true)
    (point : takes '.' = true) : Settled takes identifier := by
  have plain : plainName.Settled takes :=
    (one fun c start => heads c (by simp [isNameHead, start])).andThen
      (many names)
  have step : moduleStep.Settled takes :=
    (one fun c upper => heads c (by simp [isNameHead, upper])).andThen
      ((many fun c word => names c (isNameChar_of_isWord word)).andThen
        (char point))
  intro text more stop
  have longerStep := fun text => step text more stop
  fun_induction Scan.identifier text with
  | case1 text none =>
      have stepNone := longerStep text
      rw [none] at stepNone
      rw [Scan.identifier]
      split
      · exact plain text more stop
      · rename_i stepRead
        rw [stepRead] at stepNone
        cases stepNone
  | case2 text _ left stepRead none ih =>
      have stepLonger := longerStep text
      rw [stepRead] at stepLonger
      rw [Scan.identifier]
      split
      · exact plain text more stop
      · rename_i stepRead'
        rw [stepRead'] at stepLonger
        cases stepLonger
        rw [ih, none]
        exact plain text more stop
  | case3 text _ left stepRead _ _ nameRead ih =>
      have stepLonger := longerStep text
      rw [stepRead] at stepLonger
      rw [Scan.identifier]
      split
      · rename_i unread
        rw [unread] at stepLonger
        cases stepLonger
      · rename_i stepRead'
        rw [stepRead'] at stepLonger
        cases stepLonger
        rw [ih, nameRead]
        rfl

end Settled

/-! ### Rules that look at the next character only -/

/-- What the rule has read it also reads when text is put behind, if something
already follows or the text is not taken. -/
def Onward (takes : Char → Bool) (scan : Scan) : Prop :=
  ∀ ⦃text lexeme rest : List Char⦄ (more : List Char),
    scan text = some (lexeme, rest) →
    (rest = [] → notAhead takes more = true) →
    scan (text ++ more) = some (lexeme, rest ++ more)

theorem Rigid.onward (rigid : scan.Rigid) : scan.Onward takes :=
  fun _ _ _ more read _ => rigid more read

namespace Onward

theorem many (within : ∀ c, accepts c = true → takes c = true) :
    (many accepts).Onward takes := by
  intro text lexeme rest more read stop
  rw [many_append, read]
  · rfl
  · intro all
    obtain ⟨_, rfl⟩ := many_eq_some_iff.mp read
    exact refuses_of_notAhead within (stop all)

theorem andThen (left : first.Onward takes) (right : second.Onward takes)
    (faithful : second.Faithful) : (first.andThen second).Onward takes := by
  intro text lexeme rest more read stop
  obtain ⟨front, middle, back, readFirst, readSecond, rfl⟩ :=
    andThen_eq_some_iff.mp read
  have early : middle = [] → notAhead takes more = true := by
    intro empty
    rw [faithful readSecond, List.append_eq_nil_iff] at empty
    exact stop empty.2
  exact andThen_eq_some_iff.mpr ⟨front, middle ++ more, back,
    left more readFirst early, right more readSecond stop, rfl⟩

theorem only (accepted : List Char → Bool) (onward : scan.Onward takes) :
    (scan.only accepted).Onward takes := by
  intro text lexeme rest more read stop
  obtain ⟨answer, fits⟩ := only_eq_some_iff.mp read
  exact only_eq_some_iff.mpr ⟨onward more answer stop, fits⟩

theorem some1 (within : ∀ c, accepts c = true → takes c = true) :
    (some1 accepts).Onward takes :=
  (Rigid.one accepts).onward.andThen (many within) (Faithful.many _)

theorem named {begins : Char → Bool}
    (within : ∀ c, isNameChar c = true → takes c = true) :
    ((one begins).andThen (Scan.many isNameChar)).Onward takes :=
  (Rigid.one begins).onward.andThen (many within) (Faithful.many _)

theorem spaced (onward : scan.Onward takes)
    (within : ∀ c, isSpace c = true → takes c = true) :
    scan.spaced.Onward takes :=
  onward.andThen (many within) (Faithful.many _)

theorem before_notAhead (onward : scan.Onward takes)
    (within : ∀ c, accepts c = true → takes c = true) :
    (scan.before (notAhead accepts)).Onward takes := by
  intro text lexeme rest more read stop
  obtain ⟨answer, seen⟩ := before_eq_some_iff.mp read
  refine before_eq_some_iff.mpr ⟨onward more answer stop, ?_⟩
  cases rest with
  | cons c rest => exact seen
  | nil =>
      have refused := refuses_of_notAhead within (stop rfl)
      cases more with
      | nil => rfl
      | cons c more => simp [notAhead, refused c rfl]

end Onward

namespace Rigid

theorem andThen (left : first.Rigid) (right : second.Rigid) :
    (first.andThen second).Rigid := by
  intro text lexeme rest more read
  obtain ⟨front, middle, back, readFirst, readSecond, rfl⟩ :=
    andThen_eq_some_iff.mp read
  exact andThen_eq_some_iff.mpr ⟨front, middle ++ more, back,
    left more readFirst, right more readSecond, rfl⟩

theorem word (expected : List Char) : (word expected).Rigid := by
  intro text lexeme rest more read
  obtain ⟨rfl, rfl⟩ := word_eq_some_iff.mp read
  exact word_eq_some_iff.mpr ⟨rfl, List.append_assoc _ _ _⟩

theorem before_char (onward : first.Onward fun _ => true) (last : Char) :
    (first.andThen (Scan.char last)).Rigid := by
  intro text lexeme rest more read
  obtain ⟨front, middle, back, readFirst, readLast, rfl⟩ :=
    andThen_eq_some_iff.mp read
  have early : middle = [] → notAhead (fun _ => true) more = true := by
    obtain ⟨_, rfl⟩ := char_eq_some_iff.mp readLast
    intro empty
    cases empty
  exact andThen_eq_some_iff.mpr ⟨front, middle ++ more, back,
    onward more readFirst early, Rigid.char last more readLast, rfl⟩

theorem blanksThen (blank : Char → Bool) (last : Char) :
    (blanksThen blank (Scan.char last)).Rigid :=
  before_char (.many fun _ _ => rfl) last

theorem parenthesisedOperator : parenthesisedOperator.Rigid :=
  (char '(').andThen (before_char (.some1 fun _ _ => rfl) ')')

theorem stringLiteral : stringLiteral.Rigid :=
  (char '"').andThen fun _ _ _ more read => Extends.stringTail_append more read

end Rigid

end Scan

namespace Terminal

open Scan

/-- The terminal stands inside an item: it belongs to expressions or patterns, or
it opens something. -/
def isWithin : Terminal → Bool
  | .valueOpen | .controlOpen | .keyword _ | .arrow => true
  | terminal => terminal.isInner

/-- The rule looks further ahead than at the next character. -/
def looksAhead : Terminal → Bool
  | .number | .identifier => true
  | _ => false

/-- The characters that the rule may take when they are put behind what it has
read, or behind what it looks at. -/
def takes : Terminal → Char → Bool
  | .controlOpen | .arrow => Unicode.isBlank
  | .keyword _ => fun c => isNameChar c || Unicode.isBlank c
  | .number => fun c => Unicode.isDecimal c || c = '.' || c = '-'
  | .identifier => fun c => isNameHead c || isNameChar c || c = '.'
  | .fieldAccess => isNameChar
  | .operator => isOperatorChar
  | .spaces => isSpace
  | .blanks => isSpaceOrTab
  | .variableWord | .capitalWord => fun c => isNameChar c || isSpace c
  | .operatorConstructor | .wildcard | .asSign | .equals | .patternComma
  | .patternOpenParen | .patternCloseParen | .patternOpenBracket
  | .patternCloseBracket | .openBrace | .closeBrace => isSpace
  | _ => fun _ => false

variable {terminal : Terminal} {triggers : Triggers}

theorem settled_scan (looks : terminal.looksAhead = true) :
    (terminal.scan triggers).Settled terminal.takes := by
  cases terminal with
  | number =>
      exact .number (by simp +contextual [takes]) (by simp [takes])
        (by simp [takes])
  | identifier =>
      exact .identifier (by simp +contextual [takes])
        (by simp +contextual [takes]) (by simp [takes])
  | _ => cases looks

theorem isWithin_of_isInner (inner : terminal.isInner = true) :
    terminal.isWithin = true := by
  cases terminal with
  | valueOpen | controlOpen | keyword | arrow => rfl
  | _ => exact inner

theorem onward_keyword (word : Keyword) :
    ((Terminal.keyword word).scan triggers).Onward
      (Terminal.keyword word).takes := by
  have plain : ((Scan.word word.spelling.toList).before
      (notAhead isNameChar)).Onward (Terminal.keyword word).takes :=
    (Rigid.word _).onward.before_notAhead (by simp +contextual [takes])
  show (Scan.keyword word).Onward _
  rw [Scan.keyword]
  split
  · exact plain.andThen (.many (by simp +contextual [takes]))
      (Faithful.many _)
  · exact plain

theorem onward_scan (within : terminal.isWithin = true)
    (near : terminal.looksAhead = false) :
    (terminal.scan triggers).Onward terminal.takes := by
  have spaced {c : Char} : (Scan.spaced (char c)).Onward isSpace :=
    (Rigid.char c).onward.spaced fun _ => id
  have word {begins : Char → Bool} :
      (Scan.spaced ((one begins).andThen (many isNameChar))).Onward
        fun c => isNameChar c || isSpace c :=
    (Onward.named (by simp +contextual)).spaced (by simp +contextual)
  cases terminal with
  | literal | valueClose | valueEscape | valueAtLineEnd | valueBare
  | controlClose | controlEscape | controlBare => cases within
  | number | identifier => cases near
  | valueOpen => exact (Rigid.word _).onward
  | controlOpen =>
      exact (Rigid.word _).onward.andThen (.many fun _ => id) (Faithful.many _)
  | keyword word => exact onward_keyword word
  | arrow =>
      exact .andThen (.many fun _ => id)
        ((Rigid.word _).onward.andThen (.many fun _ => id) (Faithful.many _))
        (Faithful.andThen (Faithful.word _) (Faithful.many _))
  | variableWord | capitalWord => exact word
  | operatorConstructor =>
      exact Rigid.parenthesisedOperator.onward.spaced fun _ => id
  | wildcard => exact (Rigid.word _).onward.spaced fun _ => id
  | asSign | equals | patternComma | patternOpenParen | patternCloseParen
  | patternOpenBracket | patternCloseBracket | openBrace | closeBrace =>
      exact spaced
  | dot | exprOpenParen | exprOpenBracket => exact (Rigid.char _).onward
  | fieldAccess =>
      exact (Rigid.char _).onward.andThen (.named fun _ => id)
        (Faithful.andThen (Faithful.one _) (Faithful.many _))
  | string => exact Rigid.stringLiteral.onward
  | operatorName => exact Rigid.parenthesisedOperator.onward
  | operator => exact .only _ (.some1 fun _ => id)
  | dollar => exact (Rigid.before_char (.some1 fun _ _ => rfl) _).onward
  | spaces => exact .some1 fun _ => id
  | blanks => exact .some1 fun _ => id
  | exprCloseParen | exprComma | exprCloseBracket =>
      exact (Rigid.blanksThen _ _).onward

/-- What has been read is read again when text is put behind that is not
taken. -/
theorem scan_onward (within : terminal.isWithin = true)
    {text lexeme rest more : List Char}
    (read : terminal.scan triggers text = some (lexeme, rest))
    (stop : rest = [] ∨ terminal.looksAhead = true →
      notAhead terminal.takes more = true) :
    terminal.scan triggers (text ++ more) = some (lexeme, rest ++ more) := by
  cases looks : terminal.looksAhead with
  | true =>
      rw [settled_scan looks text more (stop (.inr looks)), read]
      rfl
  | false =>
      exact onward_scan within looks more read fun empty => stop (.inl empty)

end Terminal

/-- Tokens inside an item are laid as before when text is put behind that neither
the last of them takes nor any that looks ahead. -/
theorem Laid.onward {triggers : Triggers} {text rest : List Char}
    {tokens : List Token} (laid : Laid triggers text tokens rest)
    (within : ∀ token ∈ tokens, token.terminal.isWithin = true)
    (more : List Char)
    (ahead : ∀ token ∈ tokens, token.terminal.looksAhead = true →
      Scan.notAhead token.terminal.takes more = true)
    (last : rest = [] → ∀ token, tokens.getLast? = some token →
      Scan.notAhead token.terminal.takes more = true) :
    Laid triggers (text ++ more) tokens (rest ++ more) := by
  induction laid with
  | nil => exact .nil _
  | @cons terminal text lexeme middle rest tokens read later ih =>
      rw [List.forall_mem_cons] at within ahead
      refine .cons (Terminal.scan_onward within.1 read ?_)
        (ih within.2 ahead.2 fun empty token here => last empty token ?_)
      · rintro (empty | looks)
        · subst empty
          obtain rfl := later.eq_nil_of_nil
          cases later
          exact last rfl _ rfl
        · exact ahead.1 looks
      · have proper : tokens ≠ [] := by
          rintro rfl
          cases here
        rw [List.getLast?_cons_of_ne_nil proper]
        exact here

end TemplateSyntax
