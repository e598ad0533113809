import TemplateSyntax.Proofs.Terminal.Spelled
import TemplateSyntax.Reading.Laid

/-!
# Where the text may be cut

What a rule of expressions or patterns reads, it also reads in front of any
beginning of what follows (`Terminal.cuts_scan`), and whatever the triggers are.
So tokens that stand inside a line can also stand alone
(`Laid.alone`).
-/

namespace TemplateSyntax

namespace Scan

variable {first second scan : Scan}

/-- What the rule reads, it also reads in front of any beginning of what
follows. -/
def Cuts (scan : Scan) : Prop :=
  ∀ ⦃text lexeme rest back : List Char⦄,
    scan text = some (lexeme, rest ++ back) →
    scan (lexeme ++ rest) = some (lexeme, rest)

/-- The rule still reads something when more text is added. -/
def Persists (scan : Scan) : Prop :=
  ∀ ⦃text : List Char⦄ (more : List Char),
    (scan text).isSome = true → (scan (text ++ more)).isSome = true

/-- The rule reads the same when more text is added. -/
def Rigid (scan : Scan) : Prop :=
  ∀ ⦃text lexeme rest : List Char⦄ (more : List Char),
    scan text = some (lexeme, rest) →
    scan (text ++ more) = some (lexeme, rest ++ more)

theorem Rigid.one (accepts : Char → Bool) : (one accepts).Rigid := by
  intro text lexeme rest more read
  obtain ⟨c, accepted, rfl, rfl⟩ := one_eq_some_iff.mp read
  exact one_eq_some_iff.mpr ⟨c, accepted, rfl, rfl⟩

theorem Rigid.char (expected : Char) : (char expected).Rigid :=
  .one _

theorem Rigid.persists (rigid : scan.Rigid) : scan.Persists := by
  intro text more read
  obtain ⟨⟨lexeme, rest⟩, answer⟩ := Option.isSome_iff_exists.mp read
  rw [rigid more answer]
  rfl

theorem Persists.eq_none {text : List Char} (persists : scan.Persists)
    (more : List Char) (unread : scan (text ++ more) = none) :
    scan text = none := by
  rw [← Option.not_isSome_iff_eq_none]
  intro read
  have longer := persists more read
  rw [unread] at longer
  cases longer

theorem Persists.many (accepts : Char → Bool) : (many accepts).Persists :=
  fun _ _ _ => rfl

theorem isSome_andThen {text left middle : List Char}
    (read : first text = some (left, middle)) :
    (first.andThen second text).isSome = (second middle).isSome := by
  simp only [Scan.andThen, read]
  cases second middle <;> rfl

theorem Persists.andThen (left : first.Rigid) (right : second.Persists) :
    (first.andThen second).Persists := by
  intro text more read
  obtain ⟨⟨lexeme, rest⟩, answer⟩ := Option.isSome_iff_exists.mp read
  obtain ⟨front, middle, _, firstRead, _, _⟩ := andThen_eq_some_iff.mp answer
  rw [isSome_andThen firstRead] at read
  rw [isSome_andThen (left more firstRead)]
  exact right more read

namespace Cuts

theorem one (accepts : Char → Bool) : (one accepts).Cuts := by
  intro text lexeme rest back read
  obtain ⟨c, accepted, rfl, _⟩ := one_eq_some_iff.mp read
  exact one_eq_some_iff.mpr ⟨c, accepted, rfl, rfl⟩

theorem char (expected : Char) : (char expected).Cuts :=
  one _

theorem many (accepts : Char → Bool) : (many accepts).Cuts := by
  intro text lexeme rest back read
  have stop := notAhead_of_many read
  obtain ⟨rfl, _⟩ := many_eq_some_iff.mp read
  refine many_of_stop (List.all_eq_true.mp List.all_takeWhile) ?_
  cases rest with
  | nil => rfl
  | cons c rest => exact stop

theorem andThen (left : first.Cuts) (right : second.Cuts)
    (faithful : second.Faithful) : (first.andThen second).Cuts := by
  intro text lexeme rest back read
  obtain ⟨front, middle, last, firstRead, secondRead, rfl⟩ :=
    andThen_eq_some_iff.mp read
  rw [faithful secondRead, ← List.append_assoc] at firstRead
  have begun := left firstRead
  rw [← List.append_assoc] at begun
  exact andThen_eq_some_iff.mpr
    ⟨front, last ++ rest, last, begun, right secondRead, rfl⟩

theorem word (expected : List Char) : (word expected).Cuts := by
  intro text lexeme rest back read
  obtain ⟨rfl, _⟩ := word_eq_some_iff.mp read
  exact word_eq_some_iff.mpr ⟨rfl, rfl⟩

theorem only (accepts : List Char → Bool) (cuts : scan.Cuts) :
    (scan.only accepts).Cuts := by
  intro text lexeme rest back read
  obtain ⟨answer, accepted⟩ := only_eq_some_iff.mp read
  exact only_eq_some_iff.mpr ⟨cuts answer, accepted⟩

theorem orElse (left : first.Cuts) (right : second.Cuts)
    (persists : first.Persists) (faithful : second.Faithful) :
    (first.orElse second).Cuts := by
  intro text lexeme rest back read
  rw [Scan.orElse] at read
  split at read
  · rename_i unread
    rw [faithful read, ← List.append_assoc] at unread
    rw [Scan.orElse, persists.eq_none back unread]
    exact right read
  · rw [Scan.orElse, left read]

theorem optional (cuts : scan.Cuts) (persists : scan.Persists) :
    scan.optional.Cuts :=
  cuts.orElse (word []) persists (Faithful.word [])

theorem blanksThen (accepts : Char → Bool) (cuts : scan.Cuts)
    (faithful : scan.Faithful) : (blanksThen accepts scan).Cuts :=
  (many accepts).andThen cuts faithful

theorem spaced (cuts : scan.Cuts) : scan.spaced.Cuts :=
  cuts.andThen (many _) (Faithful.many _)

theorem named (begins : Char → Bool) :
    ((Scan.one begins).andThen (Scan.many isNameChar)).Cuts :=
  (one begins).andThen (many _) (Faithful.many _)

theorem some1 (accepts : Char → Bool) : (some1 accepts).Cuts :=
  (one accepts).andThen (many accepts) (Faithful.many _)

theorem parenthesisedOperator : parenthesisedOperator.Cuts :=
  (char '(').andThen
    ((some1 isOperatorChar).andThen (char ')') (Faithful.char _))
    (Faithful.andThen (Faithful.some1 _) (Faithful.char _))

theorem number : number.Cuts := by
  have fraction : ((Scan.char '.').andThen digits).optional.Cuts :=
    .optional
      ((char '.').andThen (some1 Unicode.isDecimal) (Faithful.some1 _))
      (.andThen (.char '.') (.andThen (.one Unicode.isDecimal) (.many _)))
  have faithful : ((Scan.char '.').andThen digits).Faithful :=
    Faithful.andThen (Faithful.char _) (Faithful.some1 _)
  have unsigned : (digits.andThen
      ((Scan.char '.').andThen digits).optional).Cuts :=
    (some1 Unicode.isDecimal).andThen fraction (Faithful.optional faithful)
  exact (optional (char '-') (Rigid.char '-').persists).andThen unsigned
    (Faithful.andThen (Faithful.some1 _) (Faithful.optional faithful))

end Cuts

/-! ### Strings -/

theorem stringTail_append {text lexeme rest : List Char}
    (read : stringTail text = some (lexeme, rest)) (more : List Char) :
    stringTail (lexeme ++ more) = some (lexeme, more) := by
  fun_induction Scan.stringTail text generalizing lexeme rest with
  | case1 => cases read
  | case2 =>
      cases read
      rfl
  | case3 => cases read
  | case4 escaped tail known lexeme' left inner ih =>
      cases read
      simp only [List.cons_append, stringTail, if_pos known, ih inner]
  | case5 => cases read
  | case6 => cases read
  | case7 => cases read
  | case8 c tail notQuote notEscape other lexeme' left inner ih =>
      cases read
      rw [List.cons_append, stringTail.eq_4, if_neg other, ih inner]
      · exact notQuote
      · intro _ _ backslash
        exact absurd backslash other

theorem Cuts.stringLiteral : stringLiteral.Cuts := by
  have tail : stringTail.Cuts := fun _ _ rest _ read =>
    stringTail_append read rest
  exact (char '"').andThen tail Faithful.stringTail

/-! ### Names behind a path -/

/-- A step of a path is read the same when more text is added, because its
letters end at the dot. -/
theorem Rigid.moduleStep : moduleStep.Rigid := by
  intro text lexeme rest more read
  obtain ⟨step, isModule, rfl⟩ := spelled_of_moduleStep read
  have split := Faithful.moduleStep read
  have whole := read_moduleStep isModule (rest ++ more)
  rw [split]
  simpa using whole

theorem Cuts.moduleStep : moduleStep.Cuts :=
  (one _).andThen ((many _).andThen (char '.') (Faithful.char _))
    (Faithful.andThen (Faithful.many _) (Faithful.char _))

theorem isSome_identifier {text : List Char} :
    (identifier text).isSome = true ↔
      (plainName text).isSome = true ∨
        ∃ step rest, moduleStep text = some (step, rest) ∧
          (identifier rest).isSome = true := by
  rw [identifier]
  split
  · rename_i unread
    simp [unread]
  · rename_i step rest read
    cases name : identifier rest with
    | none => simp [read, name]
    | some answer => simp [read, name]

theorem Persists.identifier : Persists identifier := by
  intro text more read
  have plain : plainName.Persists := .andThen (.one _) (.many _)
  fun_induction Scan.identifier text with
  | case1 text none =>
      exact isSome_identifier.mpr (.inl (plain more read))
  | case2 text step left stepRead none _ =>
      exact isSome_identifier.mpr (.inl (plain more read))
  | case3 text step left stepRead name tail nameRead ih =>
      refine isSome_identifier.mpr (.inr ⟨step, left ++ more,
        Rigid.moduleStep more stepRead, ih ?_⟩)
      rw [nameRead]
      rfl

theorem Cuts.identifier : Cuts identifier := by
  intro text lexeme rest back read
  have plain : plainName.Cuts := named _
  have faithful := Faithful.identifier read
  fun_induction Scan.identifier text generalizing lexeme rest with
  | case1 text unread =>
      rw [faithful, ← List.append_assoc] at unread
      have step := Rigid.moduleStep.persists.eq_none _ unread
      rw [Scan.identifier]
      split
      · exact plain read
      · rename_i answer
        rw [step] at answer
        cases answer
  | case2 text step left stepRead unread _ =>
      rw [Scan.identifier]
      split
      · exact plain read
      · rename_i step' left' answer
        -- the same step is read of less text, and no name behind it
        have whole := Rigid.moduleStep back answer
        rw [List.append_assoc, ← faithful, stepRead] at whole
        cases whole
        rw [Persists.identifier.eq_none _ unread]
        exact plain read
  | case3 text step left stepRead name tail nameRead ih =>
      cases read
      have nameFaithful := Faithful.identifier nameRead
      rw [nameFaithful, ← List.append_assoc] at stepRead
      have first := Cuts.moduleStep stepRead
      have later := ih nameRead nameFaithful
      rw [List.append_assoc, Scan.identifier]
      split
      · rename_i unread
        rw [first] at unread
        cases unread
      · rename_i answer
        rw [first] at answer
        cases answer
        rw [later]

end Scan

namespace Terminal

open Scan

/-- The terminal belongs to expressions or patterns. -/
def isInner : Terminal → Bool
  | .literal | .valueOpen | .valueClose | .valueEscape | .valueAtLineEnd
  | .valueBare | .controlOpen | .controlClose | .controlEscape | .controlBare
  | .keyword _ | .arrow => false
  | _ => true

variable {terminal : Terminal}

/-- Triggers mean nothing inside expressions and patterns. -/
theorem scan_eq_of_isInner (inner : terminal.isInner = true)
    (triggers triggers' : Triggers) :
    terminal.scan triggers = terminal.scan triggers' := by
  cases terminal with
  | literal | valueOpen | valueClose | valueEscape | valueAtLineEnd
  | valueBare | controlOpen | controlClose | controlEscape | controlBare
  | keyword | arrow => cases inner
  | _ => rfl

theorem cuts_scan (inner : terminal.isInner = true) (triggers : Triggers) :
    (terminal.scan triggers).Cuts := by
  cases terminal with
  | literal | valueOpen | valueClose | valueEscape | valueAtLineEnd
  | valueBare | controlOpen | controlClose | controlEscape | controlBare
  | keyword | arrow => cases inner
  | variableWord => exact .spaced (.named _)
  | capitalWord => exact .spaced (.named _)
  | operatorConstructor => exact .spaced .parenthesisedOperator
  | wildcard => exact .spaced (.word _)
  | dot => exact .char _
  | asSign => exact .spaced (.char _)
  | equals => exact .spaced (.char _)
  | patternComma => exact .spaced (.char _)
  | patternOpenParen => exact .spaced (.char _)
  | patternCloseParen => exact .spaced (.char _)
  | patternOpenBracket => exact .spaced (.char _)
  | patternCloseBracket => exact .spaced (.char _)
  | openBrace => exact .spaced (.char _)
  | closeBrace => exact .spaced (.char _)
  | identifier => exact .identifier
  | fieldAccess =>
      exact .andThen (.char _) (.named _)
        (Faithful.andThen (Faithful.one _) (Faithful.many _))
  | number => exact .number
  | string => exact .stringLiteral
  | operatorName => exact .parenthesisedOperator
  | operator => exact .only _ (.some1 _)
  | dollar => exact .andThen (.some1 _) (.char _) (Faithful.char _)
  | spaces => exact .some1 _
  | blanks => exact .some1 _
  | exprOpenParen => exact .char _
  | exprCloseParen => exact .blanksThen _ (.char _) (Faithful.char _)
  | exprComma => exact .blanksThen _ (.char _) (Faithful.char _)
  | exprOpenBracket => exact .char _
  | exprCloseBracket => exact .blanksThen _ (.char _) (Faithful.char _)

end Terminal

/-- Tokens of an expression or a pattern can stand alone, whatever the
triggers. -/
theorem Laid.alone {triggers : Triggers} {text rest : List Char}
    {tokens : List Token} (laid : Laid triggers text tokens rest)
    (inner : ∀ token ∈ tokens, token.terminal.isInner = true)
    (triggers' : Triggers) :
    Laid triggers' (tokens.flatMap Token.lexeme) tokens [] := by
  induction laid with
  | nil => exact .nil []
  | @cons terminal text lexeme middle rest tokens read later ih =>
      rw [List.forall_mem_cons] at inner
      rw [later.text_eq] at read
      have begun := Terminal.cuts_scan inner.1 triggers read
      rw [Terminal.scan_eq_of_isInner inner.1 triggers triggers'] at begun
      exact .cons begun (ih inner.2)

/-- A text of such tokens alone is laid the same whatever the triggers. -/
theorem Laid.anew {triggers : Triggers} {text : List Char}
    {tokens : List Token} (laid : Laid triggers text tokens [])
    (inner : ∀ token ∈ tokens, token.terminal.isInner = true)
    (triggers' : Triggers) : Laid triggers' text tokens [] := by
  have whole := laid.text_eq
  rw [List.append_nil] at whole
  have alone := laid.alone inner triggers'
  rwa [← whole] at alone

end TemplateSyntax
