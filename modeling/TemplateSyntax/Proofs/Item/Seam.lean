import TemplateSyntax.Proofs.Item.Fault

/-!
# Lines put together

Where two texts meet at a `Seam`, no token of the first reads on into the
second, except that literal text goes on.  So the tokens of both make up a
reading of the whole, with two literal tokens joined into one, and its items are
the merged items of both (`exists_sequence_append`).
-/

namespace TemplateSyntax.Item

open Grammar Scan

/-! ### Merging -/

theorem prepend_literals (left right : String) (items : List Item) :
    prepend (.literal left) (prepend (.literal right) items) =
      prepend (.literal (left ++ right)) items := by
  cases items with
  | nil => rfl
  | cons item items => cases item <;> simp [prepend, String.append_assoc]

theorem merge_merge_append (front back : List Item) :
    merge (merge front ++ back) = merge (front ++ back) := by
  induction front with
  | nil => rfl
  | cons item items ih =>
      have pushed (merged : List Item) :
          merge (prepend item merged ++ back) =
            merge (item :: (merged ++ back)) := by
        cases item with
        | literal left =>
            cases merged with
            | nil => rfl
            | cons other merged =>
                cases other with
                | literal right => exact (prepend_literals left right _).symm
                | _ => rfl
        | _ => rfl
      rw [merge, pushed, List.cons_append, merge, merge, ih]

theorem merge_merge (items : List Item) : merge (merge items) = merge items := by
  have whole := merge_merge_append items []
  rwa [List.append_nil, List.append_nil] at whole

theorem merge_append_merge (front back : List Item) :
    merge (front ++ merge back) = merge (front ++ back) := by
  induction front with
  | nil => exact merge_merge back
  | cons item items ih => rw [List.cons_append, List.cons_append, merge, merge, ih]

/-! ### Where two texts meet -/

/-- Nothing but literal text goes on from one text into the other: the first
does not end in a value trigger, what may take a line end behind it is not
followed by one, and no line break is cut in two. -/
structure Seam (triggers : Triggers) (text more : List Char) : Prop where
  value : more ≠ [] → text.getLast? ≠ some triggers.value
  opening : ∀ c, text.getLast? = some c →
    c ∈ [triggers.control, '\\', '}'] →
    ∀ d, more.head? = some d → d ∉ ['\\', '{', '\r', '\n']
  lineBreak : text.getLast? = some '\r' → more.head? ≠ some '\n'

namespace Seam

variable {triggers : Triggers} {front back text rest more : List Char}

theorem suffix (seam : Seam triggers (front ++ back) more) :
    Seam triggers back more := by
  cases back with
  | nil =>
      refine ⟨fun _ last => ?_, fun _ last => ?_, fun last => ?_⟩ <;> cases last
  | cons c back =>
      have last : (front ++ c :: back).getLast? = (c :: back).getLast? :=
        List.getLast?_append_of_ne_nil _ (List.cons_ne_nil _ _)
      refine ⟨?_, ?_, ?_⟩
      · rw [← last]
        exact seam.value
      · rw [← last]
        exact seam.opening
      · rw [← last]
        exact seam.lineBreak

/-- Behind what may take a line end, the same line end is taken. -/
theorem lineEnd (seam : Seam triggers (front ++ rest) more) {c : Char}
    (last : front.getLast? = some c)
    (opens : c ∈ [triggers.control, '\\', '}']) :
    lineEnd.optional (rest ++ more) =
      (lineEnd.optional rest).map (longer more) := by
  cases rest with
  | nil =>
      rw [List.append_nil] at seam
      have closed := seam.opening c last opens
      cases more with
      | nil => rfl
      | cons d more =>
          have other := closed d rfl
          simp only [List.mem_cons, List.not_mem_nil, or_false, not_or] at other
          obtain ⟨_, _, notReturn, notFeed⟩ := other
          simp [Scan.optional, Scan.lineEnd, orElse, word, andThen, char, one,
            longer, notReturn, notFeed]
  | cons c rest =>
      cases rest with
      | nil =>
          by_cases carriage : c = '\r'
          · subst carriage
            have whole := seam.lineBreak (by simp)
            cases more with
            | nil => rfl
            | cons d more =>
                have notFeed : d ≠ '\n' := by simpa using whole
                simp [Scan.optional, Scan.lineEnd, orElse, word, andThen, char,
                  one, longer, notFeed]
          · by_cases feed : c = '\n' <;>
              simp [Scan.optional, Scan.lineEnd, orElse, word, andThen, char,
                one, longer, carriage, feed]
      | cons second rest =>
          by_cases carriage : c = '\r' <;> by_cases feed : c = '\n' <;>
            by_cases second : second = '\n' <;>
            simp [Scan.optional, Scan.lineEnd, orElse, word, andThen, char,
              one, longer, carriage, feed, second]

theorem absorbing {scan : Scan} {lexeme : List Char} {c : Char}
    (seam : Seam triggers text more)
    (opens : c ∈ [triggers.control, '\\', '}'])
    (extends_ : ∀ {front middle}, text = front ++ middle →
      scan text = some (front, middle) →
      front.getLast? = some c ∧
        scan (text ++ more) = some (front, middle ++ more))
    (faithful : scan.Faithful)
    (read : scan.absorbing text = some (lexeme, rest)) :
    scan.absorbing (text ++ more) = some (lexeme, rest ++ more) := by
  obtain ⟨left, middle, right, first, absorbed, rfl⟩ :=
    andThen_eq_some_iff.mp read
  have split := faithful first
  obtain ⟨last, longerRead⟩ := extends_ split first
  rw [split] at seam
  have lineEnds := seam.lineEnd last opens
  rw [absorbed] at lineEnds
  exact andThen_eq_some_iff.mpr ⟨left, middle ++ more, right, longerRead,
    lineEnds, rfl⟩

end Seam

/-! ### Tokens at a seam -/

variable {triggers : Triggers} {text rest more : List Char}

/-- A literal goes on only where the text does. -/
theorem literal_append {lexeme : List Char}
    (read : Terminal.literal.scan triggers text = some (lexeme, rest))
    (stops : rest = [] → ∀ d, more.head? = some d →
      d = triggers.control ∨ d = triggers.value) :
    Terminal.literal.scan triggers (text ++ more) =
      some (lexeme, rest ++ more) := by
  obtain ⟨c, tail, rfl, plain, rfl, rfl⟩ := some1_eq_some_iff.mp read
  have untouched : tail.dropWhile
      (fun c => c != triggers.control && c != triggers.value) = [] →
      ∀ d, more.head? = some d →
        (d != triggers.control && d != triggers.value) = false := by
    intro whole d first
    rcases stops whole d first with rfl | rfl <;> simp
  have run := many_append untouched
  obtain ⟨front, back⟩ := many_eq_some_iff.mp run
  exact some1_eq_some_iff.mpr ⟨c, tail ++ more, rfl, plain, by rw [← front], back⟩

theorem valueClose_append {lexeme : List Char}
    (read : Terminal.valueClose.scan triggers text = some (lexeme, rest)) :
    Terminal.valueClose.scan triggers (text ++ more) =
      some (lexeme, rest ++ more) :=
  (Extends.blanksThen_brace_append more read).2

theorem controlClose_append {lexeme : List Char}
    (seam : Seam triggers text more)
    (read : Terminal.controlClose.scan triggers text = some (lexeme, rest)) :
    Terminal.controlClose.scan triggers (text ++ more) =
      some (lexeme, rest ++ more) :=
  seam.absorbing (c := '}') (by simp)
    (fun _ closing => Extends.blanksThen_brace_append more closing)
    (Faithful.blanksThen _ (Faithful.char _)) read

theorem controlEscape_append {lexeme : List Char}
    (seam : Seam triggers text more)
    (read : Terminal.controlEscape.scan triggers text = some (lexeme, rest)) :
    Terminal.controlEscape.scan triggers (text ++ more) =
      some (lexeme, rest ++ more) := by
  refine seam.absorbing (c := '\\') (by simp) ?_ (Faithful.word _) read
  intro front middle _ escape
  obtain ⟨rfl, rfl⟩ := word_eq_some_iff.mp escape
  exact ⟨rfl, word_eq_some_iff.mpr ⟨rfl, rfl⟩⟩

theorem controlBare_append {lexeme : List Char}
    (seam : Seam triggers text more)
    (read : Terminal.controlBare.scan triggers text = some (lexeme, rest)) :
    Terminal.controlBare.scan triggers (text ++ more) =
      some (lexeme, rest ++ more) := by
  refine seam.absorbing (c := triggers.control) (by simp) ?_
    (Faithful.before _ (Faithful.char _)) read
  intro front middle _ bare
  obtain ⟨trigger, behind⟩ := before_eq_some_iff.mp bare
  obtain ⟨rfl, rfl⟩ := char_eq_some_iff.mp trigger
  refine ⟨rfl, before_eq_some_iff.mpr
    ⟨char_eq_some_iff.mpr ⟨rfl, rfl⟩, ?_⟩⟩
  cases middle with
  | cons c middle => exact behind
  | nil =>
      cases more with
      | nil => rfl
      | cons d more =>
          have other := seam.opening triggers.control rfl (by simp) d rfl
          simp only [List.mem_cons, not_or] at other
          simp [notAhead, other.1, other.2.1]

theorem valueAtLineEnd_append {lexeme : List Char}
    (seam : Seam triggers text more)
    (read : Terminal.valueAtLineEnd.scan triggers text =
      some (lexeme, rest)) :
    Terminal.valueAtLineEnd.scan triggers (text ++ more) =
      some (lexeme, rest ++ more) := by
  obtain ⟨trigger, ending⟩ := before_eq_some_iff.mp read
  obtain ⟨rfl, rfl⟩ := char_eq_some_iff.mp trigger
  refine before_eq_some_iff.mpr ⟨char_eq_some_iff.mpr ⟨rfl, rfl⟩, ?_⟩
  cases rest with
  | cons c rest => exact ending
  | nil =>
      cases more with
      | nil => rfl
      | cons d more => exact absurd rfl (seam.value (List.cons_ne_nil _ _))

theorem valueBare_append {lexeme : List Char}
    (read : Terminal.valueBare.scan triggers text = some (lexeme, rest)) :
    Terminal.valueBare.scan triggers (text ++ more) =
      some (lexeme, rest ++ more) := by
  obtain ⟨trigger, behind⟩ := before_eq_some_iff.mp read
  obtain ⟨rfl, rfl⟩ := char_eq_some_iff.mp trigger
  refine before_eq_some_iff.mpr ⟨char_eq_some_iff.mpr ⟨rfl, rfl⟩, ?_⟩
  cases rest with
  | cons c rest => exact behind
  | nil => simp [atLineEnd] at behind

/-- Between an opening and its closer, nothing depends on what follows. -/
theorem laid_append_of_closer {tokens : List Token} {closing : Token}
    (laid : Laid triggers text (tokens ++ [closing]) rest)
    (brace : ∀ {front}, closing.terminal.scan triggers front =
      some (closing.lexeme, rest) → '}' ∈ front)
    (closes : ∀ {front back}, text = front ++ back →
      closing.terminal.scan triggers back = some (closing.lexeme, rest) →
      closing.terminal.scan triggers (back ++ more) =
        some (closing.lexeme, rest ++ more)) :
    Laid triggers (text ++ more) (tokens ++ [closing]) (rest ++ more) := by
  obtain ⟨middle, inside, last⟩ := laid.split
  cases last with
  | cons read ended =>
      cases ended
      have front := inside.extend (brace read) more
      have back := closes inside.text_eq read
      exact front.append (.cons back (.nil _))

theorem mem_of_blanksThen_brace {accepts : Char → Bool} {lexeme : List Char}
    (read : blanksThen accepts (char '}') text = some (lexeme, rest)) :
    '}' ∈ text := by
  obtain ⟨last, _⟩ := Extends.blanksThen_brace_append [] read
  rw [Faithful.blanksThen _ (Faithful.char _) read]
  exact List.mem_append_left _ (List.mem_of_getLast? last)

/-- The tokens of an item are the same in front of more text, unless they are
literal text that goes on. -/
theorem Grammar.One.laid_append {tokens : List Token} {item : Item}
    (one : One tokens item) (laid : Laid triggers text tokens rest)
    (seam : Seam triggers text more)
    (stops : ∀ lexeme, tokens = [⟨.literal, lexeme⟩] → rest = [] →
      ∀ d, more.head? = some d → d = triggers.control ∨ d = triggers.value) :
    Laid triggers (text ++ more) tokens (rest ++ more) := by
  have single {token : Token}
      (laid : Laid triggers text [token] rest)
      (longer : token.terminal.scan triggers text = some (token.lexeme, rest) →
        token.terminal.scan triggers (text ++ more) =
          some (token.lexeme, rest ++ more)) :
      Laid triggers (text ++ more) [token] (rest ++ more) := by
    cases laid with
    | cons read ended =>
        cases ended
        exact .cons (longer read) (.nil _)
  cases one with
  | literal lexeme =>
      exact single laid fun read => literal_append read (stops lexeme rfl)
  | valueEscape lexeme =>
      refine single laid fun read => ?_
      obtain ⟨lexemeEq, rfl⟩ := word_eq_some_iff.mp read
      exact word_eq_some_iff.mpr ⟨lexemeEq, List.append_assoc _ _ _⟩
  | valueAtLineEnd => exact single laid (valueAtLineEnd_append seam)
  | valueBare => exact single laid valueBare_append
  | controlEscape => exact single laid (controlEscape_append seam)
  | controlBare => exact single laid (controlBare_append seam)
  | value opening closing _ =>
      exact laid_append_of_closer laid mem_of_blanksThen_brace
        fun _ => valueClose_append
  | directive opening closing _ =>
      refine laid_append_of_closer laid ?_ ?_
      · intro front read
        obtain ⟨_, _, closer⟩ := exists_of_andThen read
        exact mem_of_blanksThen_brace closer
      · intro front back split read
        rw [split] at seam
        exact controlClose_append seam.suffix read

theorem Grammar.One.exists_literal {tokens : List Token} {item : Item} {c : Char}
    (one : One tokens item) (laid : Laid triggers (c :: text) tokens rest)
    (plain : ¬(c = triggers.control ∨ c = triggers.value)) :
    ∃ lexeme, tokens = [⟨.literal, lexeme⟩] ∧
      item = .literal (String.ofList lexeme) := by
  have path := path_of_one one []
  cases laid with
  | nil => cases one
  | cons read _ =>
      cases path with
      | cons lexeme member _ =>
          have terminalEq := eq_textAhead member read
          rw [not_or] at plain
          rw [textAhead, if_neg plain.1, if_neg plain.2] at terminalEq
          subst terminalEq
          cases one
          exact ⟨_, rfl, rfl⟩

theorem Grammar.Sequence.parts_eq_nil {parts : List Item}
    (sequence : Sequence [] parts) : parts = [] := by
  generalize empty : [] = tokens at sequence
  cases sequence with
  | nil => rfl
  | cons one _ =>
      rcases one.literal_or_closed with ⟨_, _, rfl, _⟩ | ⟨_, _, rfl, _⟩ <;>
        cases empty

/-! ### Lines at a seam -/

/-- Literal text that goes on is one token with what it goes on with. -/
theorem literal_joined {lexeme lexeme' : List Char}
    (read : Terminal.literal.scan triggers text = some (lexeme, []))
    (read' : Terminal.literal.scan triggers more = some (lexeme', rest)) :
    Terminal.literal.scan triggers (text ++ more) =
      some (lexeme ++ lexeme', rest) := by
  obtain ⟨c, tail, rfl, plain, rfl, whole⟩ := some1_eq_some_iff.mp read
  obtain ⟨d, others, rfl, plain', rfl, rfl⟩ := some1_eq_some_iff.mp read'
  have split := List.takeWhile_append_dropWhile (l := tail)
    (p := fun c => c != triggers.control && c != triggers.value)
  rw [← whole, List.append_nil] at split
  have all : ∀ other ∈ tail,
      (other != triggers.control && other != triggers.value) = true := by
    rw [← split]
    exact List.all_eq_true.mp List.all_takeWhile
  refine some1_eq_some_iff.mpr ⟨c, tail ++ d :: others, rfl, plain, ?_, ?_⟩
  · rw [split, List.takeWhile_append_of_pos all, List.takeWhile_cons,
      if_pos plain', List.cons_append]
  · rw [List.dropWhile_append_of_pos all, List.dropWhile_cons, if_pos plain']

theorem exists_joined {lexeme : List Char} {tokens : List Token}
    {parts : List Item} {c : Char}
    (read : Terminal.literal.scan triggers text = some (lexeme, []))
    (sequence : Sequence tokens parts)
    (laid : Laid triggers (c :: more) tokens [])
    (plain : ¬(c = triggers.control ∨ c = triggers.value)) :
    ∃ joined items, Laid triggers (text ++ c :: more) joined [] ∧
      Sequence joined items ∧
      merge items = merge (.literal (String.ofList lexeme) :: parts) ∧
      language.fault? language.start joined =
        language.fault? language.start tokens := by
  cases sequence with
  | nil => cases laid
  | @cons first rest item items one later =>
      obtain ⟨middle, front, back⟩ := laid.split
      obtain ⟨lexeme', rfl, rfl⟩ := one.exists_literal front plain
      cases front with
      | cons read' ended =>
          cases ended
          have joined := One.literal (lexeme ++ lexeme')
          refine ⟨_, _, .cons (literal_joined read read') back,
            .cons joined later, ?_, ?_⟩
          · rw [String.ofList_append]
            exact (prepend_literals _ _ _).symm
          · have whole := fault?_sequence joined rest
            rw [fault?_literal joined] at whole
            rw [fault?_sequence one, fault?_literal one]
            exact whole

/-- Two lines that meet at a seam make up one line with the merged items of
both, and with no fault if neither has one. -/
theorem exists_sequence_append {tokens tokens' : List Token}
    {parts parts' : List Item} (sequence : Sequence tokens parts)
    (laid : Laid triggers text tokens []) (sequence' : Sequence tokens' parts')
    (laid' : Laid triggers more tokens' []) (seam : Seam triggers text more) :
    ∃ joined items, Laid triggers (text ++ more) joined [] ∧
      Sequence joined items ∧ merge items = merge (parts ++ parts') ∧
      (language.fault? language.start tokens = none →
        language.fault? language.start tokens' = none →
        language.fault? language.start joined = none) := by
  induction sequence generalizing text with
  | nil =>
      cases laid
      exact ⟨tokens', parts', laid', sequence', rfl, fun _ faultless => faultless⟩
  | @cons first rest item items one later ih =>
      obtain ⟨middle, front, back⟩ := laid.split
      by_cases goesOn : ∃ lexeme, first = [⟨.literal, lexeme⟩] ∧ middle = [] ∧
          ∃ c tail, more = c :: tail ∧
            ¬(c = triggers.control ∨ c = triggers.value)
      · obtain ⟨lexeme, rfl, rfl, c, tail, rfl, plain⟩ := goesOn
        obtain rfl := back.eq_nil_of_nil
        obtain rfl := later.parts_eq_nil
        cases one
        cases front with
        | cons read ended =>
            cases ended
            obtain ⟨joined, items, joinedLaid, joinedSequence, merged,
              faults⟩ := exists_joined read sequence' laid' plain
            exact ⟨joined, items, joinedLaid, joinedSequence, merged,
              fun _ => faults.trans⟩
      · rw [front.text_eq] at seam
        obtain ⟨joined, merged, joinedLaid, joinedSequence, mergedEq,
          faultless⟩ := ih back seam.suffix
        rw [← front.text_eq] at seam
        have longer := one.laid_append front seam <| by
          rintro lexeme rfl rfl d first
          obtain ⟨tail, rfl⟩ := List.head?_eq_some_iff.mp first
          by_contra plain
          exact goesOn ⟨lexeme, rfl, rfl, d, tail, rfl, plain⟩
        refine ⟨first ++ joined, item :: merged, longer.append joinedLaid,
          .cons one joinedSequence, ?_, ?_⟩
        · rw [merge, mergedEq]
          rfl
        · intro faultless' faultless''
          rw [fault?_sequence one, Option.or_eq_none_iff] at faultless' ⊢
          exact ⟨faultless'.1, faultless faultless'.2 faultless''⟩

end TemplateSyntax.Item
