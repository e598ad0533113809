import TemplateSyntax.Proofs.Pattern.Spacing
import TemplateSyntax.Proofs.Unicode.Included

/-!
# Other spaces in patterns

`Writes` says that a text writes trimmed tokens with any spaces behind them:
none behind a dot, and at least one between words.  A text that is laid with
tokens writes them (`writes_of_laid`), and whatever writes them is laid with tokens
that differ in their spaces only (`exists_laid_of_writes`).  So every text that
writes the tokens of a pattern is read as the same pattern
(`parsePattern_respaced`).
-/

namespace TemplateSyntax

namespace Pattern

open Scan

/-- What may stand between a token and those behind it. -/
structure Separates (token : Token) (behind : List Token) (gap : List Char) :
    Prop where
  spaces : Spaces gap
  tight : token.terminal = .dot → gap = []
  apart : isWord token.terminal = true →
    behind.head?.any (fun next => isWord next.terminal) = true → gap ≠ []

instance (token : Token) (behind : List Token) (gap : List Char) :
    Decidable (Separates token behind gap) :=
  decidable_of_iff
    (Spaces gap ∧ (token.terminal = .dot → gap = []) ∧
      (isWord token.terminal = true →
        behind.head?.any (fun next => isWord next.terminal) = true → gap ≠ []))
    ⟨fun ⟨spaces, tight, apart⟩ => ⟨spaces, tight, apart⟩,
      fun separates => ⟨separates.spaces, separates.tight, separates.apart⟩⟩

/-- The text consists of the tokens, each with what separates it from those
behind it. -/
inductive Writes : List Token → List Char → Prop where
  | nil : Writes [] []
  | cons {token : Token} {tokens : List Token} {gap rest : List Char} :
      Separates token tokens gap → Writes tokens rest →
      Writes (token :: tokens) (token.lexeme ++ (gap ++ rest))

variable {triggers triggers' : Triggers} {terminal : Terminal}
  {text lexeme rest : List Char} {tokens tokens' : List Token}

/-! ### How tokens begin -/

theorem isNameChar_of_beginsWith {c : Char} (word : isWord terminal = true)
    (begins : beginsWith terminal c = true) : isNameChar c = true := by
  cases terminal with
  | variableWord => exact (Bool.and_eq_true_iff.mp begins).1
  | capitalWord =>
      exact isNameChar_of_isWord (Unicode.isWord_of_isCapitalLetter begins)
  | _ => cases word

theorem mem_marks_of_beginsWith {c : Char} (other : isWord terminal = false)
    (begins : beginsWith terminal c = true) : c ∈ marks := by
  cases terminal with
  | variableWord | capitalWord => cases other
  | operatorConstructor | patternOpenParen | dot | wildcard | asSign | equals
  | patternComma | patternCloseParen | patternOpenBracket
  | patternCloseBracket | openBrace | closeBrace =>
      obtain rfl := of_decide_eq_true begins
      decide
  | _ => cases begins

/-! ### A text writes its tokens -/

theorem notName_behind_spelled {begins : Char → Bool}
    (outside : ∀ c, begins c = true → c ∉ marks)
    (read : spaced ((one begins).andThen (many isNameChar)) text =
      some (lexeme, rest))
    (tight : trimmed lexeme = lexeme) : notAhead isNameChar rest = true := by
  obtain ⟨word, middle, spaces, first, skipped, rfl⟩ :=
    andThen_eq_some_iff.mp read
  have proper := getLast?_ne_space (spelled_of_read first) outside
  have blank : Spaces spaces := by
    obtain ⟨rfl, _⟩ := many_eq_some_iff.mp skipped
    exact fun c member =>
      of_decide_eq_true (List.all_eq_true.mp List.all_takeWhile c member)
  rw [trimmed_append proper blank, List.self_eq_append_right] at tight
  obtain rfl : middle = rest := by
    have whole := Faithful.many _ skipped
    rwa [tight] at whole
  obtain ⟨_, _, _, _, run, _⟩ := andThen_eq_some_iff.mp first
  exact notAhead_of_many run

theorem notName_behind_word (word : isWord terminal = true)
    (read : terminal.scan triggers text = some (lexeme, rest))
    (tight : trimmed lexeme = lexeme) : notAhead isNameChar rest = true := by
  cases terminal with
  | variableWord =>
      exact notName_behind_spelled (fun _ => not_mem_marks_of_isVariableStart)
        read tight
  | capitalWord =>
      exact notName_behind_spelled (fun _ => not_mem_marks_of_isCapitalLetter)
        read tight
  | _ => cases word

/-- A text writes the tokens it is laid with: nothing but spaces is trimmed. -/
theorem writes_of_laid (laid : Laid triggers text tokens [])
    (known : ∀ token ∈ tokens, token.terminal ∈ allTerminals) :
    Writes (tokens.map bare) text := by
  induction tokens generalizing text with
  | nil =>
      cases laid
      exact .nil
  | cons token tokens ih =>
      cases laid with
      | @cons terminal _ lexeme middle _ _ read later =>
          rw [List.forall_mem_cons] at known
          obtain ⟨gap, blank, split⟩ := exists_gap lexeme
          have whole : text = trimmed lexeme ++ (gap ++ middle) := by
            rw [Terminal.scan_eq_append read, ← List.append_assoc, ← split]
          rw [whole]
          refine .cons ⟨blank, ?_, ?_⟩ (ih later known.2)
          · rintro rfl
            obtain ⟨rfl, _⟩ := char_eq_some_iff.mp read
            exact List.self_eq_append_right.mp split
          · rintro word nextWord rfl
            rw [List.append_nil] at split
            have stop := notName_behind_word word read split.symm
            cases later with
            | nil => cases nextWord
            | cons read' _ =>
                obtain ⟨c, tail, rfl, begins⟩ :=
                  head_of_scan (known.2 _ List.mem_cons_self) read'
                have name := isNameChar_of_beginsWith nextWord begins
                simp [notAhead, name] at stop

/-! ### What writes tokens is laid with them -/

/-- What follows a token does not belong to it: neither spaces, nor behind a word
a name. -/
theorem separated_of_laid {token : Token} {gap : List Char}
    (separates : Separates (bare token) (tokens.map bare) gap)
    (laid : Laid triggers rest tokens [])
    (known : ∀ token ∈ tokens, token.terminal ∈ allTerminals) :
    notAhead isSpace rest = true ∧
      (isWord token.terminal = true →
        notAhead isNameChar (gap ++ rest) = true) := by
  cases laid with
  | nil =>
      exact ⟨rfl, fun _ => notName_of_spaces separates.spaces fun _ => rfl⟩
  | @cons next _ lexeme _ _ tokens read _ =>
      obtain ⟨c, tail, rfl, begins⟩ :=
        head_of_scan (known _ List.mem_cons_self) read
      refine ⟨notAhead_isSpace ?_, fun word => ?_⟩
      · rintro ⟨⟩
        exact absurd (beginsWith_visible begins).1 (by decide)
      · refine notName_of_spaces separates.spaces fun tight => ?_
        have other : isWord next = false := by
          rw [Bool.eq_false_iff]
          exact fun nextWord => separates.apart word nextWord tight
        exact notName_of_mark (mem_marks_of_beginsWith other begins) tail

theorem forall_terminal_of_alike {holds : Terminal → Prop}
    (alike : tokens.map bare = tokens'.map bare)
    (each : ∀ token ∈ tokens, holds token.terminal) :
    ∀ token ∈ tokens', holds token.terminal := by
  intro token member
  have trimmed : bare token ∈ tokens.map bare := by
    rw [alike]
    exact List.mem_map_of_mem member
  obtain ⟨original, inside, same⟩ := List.mem_map.mp trimmed
  have terminal : (bare original).terminal = (bare token).terminal := by
    rw [same]
  exact terminal ▸ each original inside

/-- A token that has been read somewhere is read again, with what separates it
from the tokens behind it. -/
theorem scan_of_separates {token : Token} {gap : List Char}
    (read : token.Read triggers) (here : token.terminal ∈ allTerminals)
    (separates : Separates (bare token) (tokens.map bare) gap)
    (laid : Laid triggers' rest tokens [])
    (known : ∀ token ∈ tokens, token.terminal ∈ allTerminals) :
    token.terminal.scan triggers' (trimmed token.lexeme ++ (gap ++ rest)) =
      some (trimmed token.lexeme ++ gap, rest) := by
  obtain ⟨terminal, lexeme⟩ := token
  obtain ⟨_, _, scanned⟩ := read
  by_cases dot : terminal = .dot
  · obtain rfl := separates.tight dot
    subst dot
    obtain ⟨rfl, _⟩ := char_eq_some_iff.mp scanned
    exact read_char '.' rest
  · obtain ⟨space, name⟩ := separated_of_laid separates laid known
    exact scan_trimmed here dot scanned separates.spaces name space

/-- What writes tokens that have been read is laid with tokens that differ from
them in their spaces only.  By induction from the last token, because each token
is read in front of the next one. -/
theorem exists_laid_of_writes (triggers' : Triggers)
    (read : ∀ token ∈ tokens, token.Read triggers)
    (known : ∀ token ∈ tokens, token.terminal ∈ allTerminals)
    (writes : Writes (tokens.map bare) text) :
    ∃ tokens', Laid triggers' text tokens' [] ∧
      tokens.map bare = tokens'.map bare := by
  induction tokens generalizing text with
  | nil =>
      cases writes
      exact ⟨[], .nil [], rfl⟩
  | cons token tokens ih =>
      rw [List.forall_mem_cons] at read known
      cases writes with
      | @cons _ _ gap rest separates later =>
          obtain ⟨tokens', laid, alike⟩ := ih read.2 known.2 later
          rw [alike] at separates
          have again := scan_of_separates read.1 known.1 separates laid
            (forall_terminal_of_alike alike known.2)
          refine ⟨⟨token.terminal, trimmed token.lexeme ++ gap⟩ :: tokens',
            .cons again laid, ?_⟩
          simp [bare, alike, trimmed_gap separates.spaces]

end Pattern

/-- Every text that writes the tokens of an accepted pattern is read as the same
pattern. -/
theorem parsePattern_respaced {text : String} {label : Option String}
    {pattern : Pattern} (accepted : parsePattern text label = .ok pattern) :
    ∃ tokens, Laid Triggers.standard text.toList tokens [] ∧
      Pattern.Grammar.Whole tokens pattern ∧
      (∀ other value, Laid Triggers.standard text.toList other [] →
        Pattern.Grammar.Whole other value → other = tokens) ∧
      Pattern.Writes (tokens.map Pattern.bare) text.toList ∧
      ∀ text' label', Pattern.Writes (tokens.map Pattern.bare) text'.toList →
        parsePattern text' label' = .ok pattern := by
  obtain ⟨tokens, laid, whole, faultless⟩ := parsePattern_eq_ok_iff.mp accepted
  obtain ⟨final, path, finished⟩ :=
    (Pattern.language_recognises tokens pattern).mp whole
  have known := Pattern.known_of_path path
  refine ⟨tokens, laid, whole, ?_, Pattern.writes_of_laid laid known, ?_⟩
  · intro other value laid' whole'
    exact (whole_unambiguous _ _ _ _ _ _ laid' whole' laid whole).1
  · intro text' label' writes
    obtain ⟨tokens', laid', alike⟩ := Pattern.exists_laid_of_writes
      Triggers.standard laid.forall_read known writes
    have path' := Pattern.path_of_alike alike path
    exact parsePattern_eq_ok_iff.mpr ⟨tokens', laid',
      (Pattern.language_recognises tokens' pattern).mpr ⟨final, path', finished⟩,
      Pattern.faultless_of_alike alike path faultless⟩

/-- The spaces may stand in front of a dot and behind a word. -/
theorem parsePattern_respaced_qualified :
    parsePattern "M.F x" none = .ok (.construct ⟨["M"], "F"⟩ [.var "x"]) ∧
      parsePattern "M .F   x " none =
        .ok (.construct ⟨["M"], "F"⟩ [.var "x"]) := by
  have laid : Laid Triggers.standard "M.F x".toList
      [⟨.capitalWord, ['M']⟩, ⟨.dot, ['.']⟩, ⟨.capitalWord, ['F', ' ']⟩,
        ⟨.variableWord, ['x']⟩] [] :=
    .cons rfl (.cons rfl (.cons rfl (.cons rfl (.nil []))))
  have whole : Pattern.Grammar.Whole _ (.construct ⟨["M"], "F"⟩ [.var "x"]) :=
    .application
      (.pieces (.more ['.'] (.word ['M']) (.one (.word ['F', ' ']))))
      (.one (.var ['x']))
  have accepted : parsePattern "M.F x" none = .ok _ :=
    parsePattern_eq_ok_iff.mpr ⟨_, laid, whole, by decide⟩
  obtain ⟨tokens, _, _, unique, _, respaced⟩ := parsePattern_respaced accepted
  obtain rfl := unique _ _ laid whole
  refine ⟨accepted, respaced "M .F   x " none ?_⟩
  exact .cons (by decide : Pattern.Separates _ _ [' '])
    (.cons (by decide : Pattern.Separates _ _ [])
      (.cons (by decide : Pattern.Separates _ _ [' ', ' ', ' '])
        (.cons (by decide : Pattern.Separates _ _ [' ']) .nil)))

end TemplateSyntax
