import TemplateSyntax.Proofs.Item.Seam
import TemplateSyntax.Proofs.Item.Viable
import TemplateSyntax.Proofs.Reading.Braced

/-!
# What follows a complete line

Behind a line that can be read, a text that begins with a trigger is read as if
it stood alone.  Every path that gets past the line begins with the tokens of
the line (`Grammar.Sequence.prefix_of_path`), so the places it reaches are those
of the text alone, and so are the ways it can go on
(`mem_stops_behind_iff`).
-/

namespace TemplateSyntax.Item

open Grammar Scan

variable {triggers : Triggers} {text rest more : List Char}

/-! ### Paths behind a line -/

theorem Grammar.One.prefix_of_path {tokens tokens' : List Token} {item : Item}
    {rest' : List Char} {items : List Item} {final : State}
    (one : One tokens item) (laid : Laid triggers text tokens rest)
    (path : Path ⟨items, .text⟩ tokens' final)
    (laid' : Laid triggers text tokens' rest')
    (beyond : rest'.length ≤ rest.length) : tokens <+: tokens' := by
  have onePath := path_of_one one items
  have closed {tokens : List Token} {closing : Token}
      (laid : Laid triggers text (tokens ++ [closing]) rest)
      (onePath : Path ⟨items, .text⟩ (tokens ++ [closing])
        ⟨item :: items, .text⟩)
      (brace : ∀ {front back}, closing.terminal.scan triggers front =
        some (closing.lexeme, back) → '}' ∈ closing.lexeme) :
      tokens ++ [closing] <+: tokens' := by
    refine (language_foresees triggers).prefix_of_brace language_distinct ?_
      onePath laid path laid' beyond
    intro last lastEq
    rw [List.getLast?_concat] at lastEq
    cases lastEq
    obtain ⟨_, _, last⟩ := laid.split
    cases last with
    | cons read _ => exact brace read
  have literal {token : Token} (laid : Laid triggers text [token] rest)
      (onePath : Path ⟨items, .text⟩ [token] ⟨item :: items, .text⟩) :
      [token] <+: tokens' := by
    cases laid with
    | cons read ended =>
        cases ended
        cases laid' with
        | nil =>
            have shorter := Terminal.length_lt_of_scan read
            omega
        | cons read' _ =>
            cases onePath with
            | cons _ member _ =>
                cases path with
                | cons _ member' _ =>
                    obtain rfl := (eq_textAhead member read).trans
                      (eq_textAhead member' read').symm
                    rw [read] at read'
                    cases read'
                    exact List.prefix_append [_] _
  cases one with
  | value opening closing _ =>
      refine closed laid onePath fun read => ?_
      obtain ⟨last, _⟩ := Extends.blanksThen_brace_append [] read
      exact List.mem_of_getLast? last
  | directive opening closing _ =>
      refine closed laid onePath fun read => ?_
      obtain ⟨_, _, _, closer, _, rfl⟩ := andThen_eq_some_iff.mp read
      obtain ⟨last, _⟩ := Extends.blanksThen_brace_append [] closer
      exact List.mem_append_left _ (List.mem_of_getLast? last)
  | _ => exact literal laid onePath

/-- A path that gets past a line begins with the tokens of the line. -/
theorem Grammar.Sequence.prefix_of_path {tokens tokens' : List Token}
    {parts : List Item} {rest' : List Char} {items : List Item} {final : State}
    (sequence : Sequence tokens parts) (laid : Laid triggers text tokens rest)
    (path : Path ⟨items, .text⟩ tokens' final)
    (laid' : Laid triggers text tokens' rest')
    (beyond : rest'.length ≤ rest.length) : tokens <+: tokens' := by
  induction sequence generalizing text items tokens' with
  | nil => exact List.nil_prefix
  | @cons first others item parts one _ ih =>
      obtain ⟨middle, front, back⟩ := laid.split
      have within : rest.length ≤ middle.length := by
        rw [back.text_eq, List.length_append]
        omega
      obtain ⟨tail, rfl⟩ :=
        one.prefix_of_path front path laid' (Nat.le_trans beyond within)
      obtain ⟨state, frontPath, backPath⟩ := path.split
      obtain ⟨middle', front', back'⟩ := laid'.split
      obtain rfl := front.rest_unique front'
      obtain rfl :=
        language_distinct.final_unique (path_of_one one items) frontPath
      rw [List.prefix_append_right_inj]
      exact ih back backPath back'

/-- In front of a trigger, the tokens of a line are laid as before. -/
theorem Grammar.Sequence.laid_append {tokens : List Token} {parts : List Item}
    (sequence : Sequence tokens parts) (laid : Laid triggers text tokens rest)
    (seam : Seam triggers text more)
    (opens : rest = [] → ∀ d, more.head? = some d →
      d = triggers.control ∨ d = triggers.value) :
    Laid triggers (text ++ more) tokens (rest ++ more) := by
  induction sequence generalizing text with
  | nil =>
      cases laid
      exact .nil _
  | cons one _ ih =>
      obtain ⟨middle, front, back⟩ := laid.split
      have longer := one.laid_append front seam fun _ _ empty => by
        rw [back.text_eq, List.append_eq_nil_iff] at empty
        exact opens empty.2
      rw [front.text_eq] at seam
      exact longer.append (ih back seam.suffix)

/-! ### Places behind a line -/

section Behind

variable {tokens : List Token} {parts : List Item}
  (sequence : Sequence tokens parts)
  (laid : Laid triggers (text ++ more) tokens more)

include sequence laid

/-- The places reached behind a line are those reached from the start. -/
theorem mem_stops_behind_iff {stop : Stop} (behind : stop.left ≤ more.length) :
    stop ∈ language.stops triggers language.start (text ++ more) ↔
      stop ∈ language.stops triggers language.start more := by
  have linePath := path_of_sequence sequence []
  have same : State.shape ⟨parts.reverse ++ [], .text⟩ =
      State.shape language.start := rfl
  rw [Language.mem_stops_iff, Language.mem_stops_iff]
  constructor
  · rintro ⟨tokens', rest, final, laid', path, rfl⟩
    obtain ⟨tail, rfl⟩ := sequence.prefix_of_path laid path laid' behind
    obtain ⟨state, frontPath, backPath⟩ := path.split
    obtain ⟨middle, front, back⟩ := laid'.split
    obtain rfl := laid.rest_unique front
    obtain rfl := language_distinct.final_unique linePath frontPath
    obtain ⟨final', path', alike⟩ := language_shaped.path backPath same rfl
    exact ⟨tail, rest, final', back, path',
      by rw [language_shaped.expected_eq alike]⟩
  · rintro ⟨tail, rest, final, laid', path, rfl⟩
    obtain ⟨final', path', alike⟩ := language_shaped.path path same.symm rfl
    exact ⟨tokens ++ tail, rest, final', laid.append laid',
      linePath.append path', by rw [language_shaped.expected_eq alike]⟩

theorem leastLeft_behind :
    Stop.leastLeft (language.stops triggers language.start (text ++ more)) =
      Stop.leastLeft (language.stops triggers language.start more) := by
  have proper : language.stops triggers language.start more ≠ [] :=
    List.ne_nil_of_mem Language.start_mem_stops
  obtain ⟨stop, member, leftEq⟩ := Stop.exists_leastLeft proper
  rw [← leftEq]
  have inside : stop.left ≤ more.length := by
    rw [leftEq]
    exact Language.leastLeft_le_length
  apply Stop.leastLeft_eq ((mem_stops_behind_iff sequence laid inside).mpr member)
  intro other otherMember
  rcases Nat.lt_or_ge more.length other.left with before | behind
  · omega
  · rw [leftEq]
    exact Stop.leastLeft_le
      ((mem_stops_behind_iff sequence laid behind).mp otherMember)

theorem mem_expected_behind_iff {terminal : Terminal} :
    terminal ∈ (Stop.furthest
        (language.stops triggers language.start (text ++ more))).expected ↔
      terminal ∈ (Stop.furthest
        (language.stops triggers language.start more)).expected := by
  have bound : Stop.leastLeft (language.stops triggers language.start more) ≤
      more.length := Language.leastLeft_le_length
  rw [Stop.mem_expected_furthest, Stop.mem_expected_furthest,
    leastLeft_behind sequence laid]
  constructor
  · rintro ⟨stop, member, leftEq, expected⟩
    have behind : stop.left ≤ more.length := by omega
    exact ⟨stop, (mem_stops_behind_iff sequence laid behind).mp member, leftEq,
      expected⟩
  · rintro ⟨stop, member, leftEq, expected⟩
    have behind : stop.left ≤ more.length := by omega
    exact ⟨stop, (mem_stops_behind_iff sequence laid behind).mpr member, leftEq,
      expected⟩

theorem derivable_behind
    (derivable : ∃ items, Derivable Line triggers (text ++ more) items) :
    ∃ items, Derivable Line triggers more items := by
  obtain ⟨value, tokens', laid', derivation⟩ := derivable
  obtain ⟨final, path, finished⟩ :=
    (language_recognises tokens' value).mp derivation
  obtain ⟨tail, rfl⟩ := sequence.prefix_of_path laid path laid' (Nat.zero_le _)
  obtain ⟨state, frontPath, backPath⟩ := path.split
  obtain ⟨middle, front, back⟩ := laid'.split
  obtain rfl := laid.rest_unique front
  obtain rfl :=
    language_distinct.final_unique (path_of_sequence sequence []) frontPath
  have same : State.shape ⟨parts.reverse ++ [], .text⟩ =
      State.shape language.start := rfl
  obtain ⟨⟨items, place⟩, path', alike⟩ := language_shaped.path backPath same rfl
  obtain ⟨items', place'⟩ := final
  cases place' <;> cases finished
  cases place <;> cases alike
  exact ⟨_, tail, back, (language_recognises tail _).mpr ⟨_, path', rfl⟩⟩

end Behind

end TemplateSyntax.Item
