import TemplateSyntax.Reading.Laid

/-!
# Readings as paths

A path is a sequence of moves from one state to another.  `mem_readings_iff`
says that the readings of a text are the paths over tokens laid end to end over
all of it, and `mem_stops_iff` that the places reached are the ends of the
paths over tokens laid from its beginning.
-/

namespace TemplateSyntax.Language

variable {σ α : Type}

/-- The tokens lead from one state to another. -/
inductive Path (language : Language σ α) : σ → List Token → σ → Prop where
  | nil (state : σ) : Path language state [] state
  | cons {terminal : Terminal} {next : List Char → σ} {state final : σ}
      {tokens : List Token} (lexeme : List Char) :
      (terminal, next) ∈ language.moves state →
      Path language (next lexeme) tokens final →
      Path language state (⟨terminal, lexeme⟩ :: tokens) final

/-- The readings from a state on, with the first token split off. -/
theorem mem_readings_cons_iff {language : Language σ α} {triggers : Triggers}
    {state : σ} {text : List Char} {token : Token} {tokens : List Token}
    {value : α} :
    (token :: tokens, value) ∈ language.readings triggers state text ↔
      ∃ next rest, (token.terminal, next) ∈ language.moves state ∧
        token.terminal.scan triggers text = some (token.lexeme, rest) ∧
        (tokens, value) ∈
          language.readings triggers (next token.lexeme) rest := by
  rw [readings, List.mem_append, List.mem_flatMap]
  constructor
  · rintro (atEnd | ⟨move, member, later⟩)
    · split at atEnd <;> simp at atEnd
    · split at later
      · simp at later
      · rename_i lexeme rest read
        obtain ⟨⟨tail, found⟩, tailMember, pairEq⟩ := List.mem_map.mp later
        cases pairEq
        exact ⟨move.2, rest, member, read, tailMember⟩
  · rintro ⟨next, rest, member, read, later⟩
    refine .inr ⟨(token.terminal, next), member, ?_⟩
    split
    · rename_i unread
      rw [read] at unread
      cases unread
    · rename_i lexeme' rest' read'
      rw [read] at read'
      cases read'
      exact List.mem_map.mpr ⟨(tokens, value), later, rfl⟩

theorem mem_readings_nil_iff {language : Language σ α} {triggers : Triggers}
    {state : σ} {text : List Char} {value : α} :
    ([], value) ∈ language.readings triggers state text ↔
      text = [] ∧ language.value? state = some value := by
  rw [readings, List.mem_append, List.mem_flatMap]
  constructor
  · rintro (atEnd | ⟨move, _, later⟩)
    · split at atEnd
      · rename_i empty
        refine ⟨List.isEmpty_iff.mp empty, ?_⟩
        simpa using atEnd
      · simp at atEnd
    · split at later
      · simp at later
      · obtain ⟨_, _, pairEq⟩ := List.mem_map.mp later
        simp at pairEq
  · rintro ⟨rfl, finished⟩
    left
    simp [finished]

/-- The readings of a text are the paths over tokens laid over all of it. -/
theorem mem_readings_iff {language : Language σ α} {triggers : Triggers}
    {state : σ} {text : List Char} {tokens : List Token} {value : α} :
    (tokens, value) ∈ language.readings triggers state text ↔
      Laid triggers text tokens [] ∧
        ∃ final, language.Path state tokens final ∧
          language.value? final = some value := by
  induction tokens generalizing state text with
  | nil =>
      rw [mem_readings_nil_iff]
      constructor
      · rintro ⟨rfl, finished⟩
        exact ⟨.nil [], state, .nil state, finished⟩
      · rintro ⟨laid, final, path, finished⟩
        cases laid
        cases path
        exact ⟨rfl, finished⟩
  | cons token tokens ih =>
      rw [mem_readings_cons_iff]
      constructor
      · rintro ⟨next, rest, member, read, later⟩
        obtain ⟨laid, final, path, finished⟩ := ih.mp later
        exact ⟨.cons read laid, final, .cons token.lexeme member path, finished⟩
      · rintro ⟨laid, final, path, finished⟩
        cases laid with
        | cons read laidLater =>
            cases path with
            | cons _ member pathLater =>
                exact ⟨_, _, member, read,
                  ih.mpr ⟨laidLater, final, pathLater, finished⟩⟩

/-- The places reached are the ends of the paths over tokens laid from the
beginning of the text. -/
theorem mem_stops_iff {language : Language σ α} {triggers : Triggers}
    {state : σ} {text : List Char} {stop : Stop} :
    stop ∈ language.stops triggers state text ↔
      ∃ tokens rest final, Laid triggers text tokens rest ∧
        language.Path state tokens final ∧
        stop = ⟨rest.length, language.expected final⟩ := by
  constructor
  · intro member
    fun_induction stops language triggers state text with
    | case1 state text ih =>
        rcases List.mem_cons.mp member with here | later
        · exact ⟨[], text, state, .nil text, .nil state, here⟩
        · obtain ⟨move, moveMember, found⟩ := List.mem_flatMap.mp later
          split at found
          · simp at found
          · rename_i lexeme rest read
            obtain ⟨tokens, final, last, laid, path, stopEq⟩ :=
              ih move lexeme rest read found
            exact ⟨⟨move.1, lexeme⟩ :: tokens, final, last, .cons read laid,
              .cons lexeme moveMember path, stopEq⟩
  · rintro ⟨tokens, rest, final, laid, path, rfl⟩
    induction laid generalizing state with
    | nil text =>
        cases path
        rw [stops]
        exact List.mem_cons_self
    | cons read _ ih =>
        cases path with
        | cons lexeme moveMember later =>
            rw [stops]
            refine List.mem_cons_of_mem _
              (List.mem_flatMap.mpr ⟨_, moveMember, ?_⟩)
            split
            · rename_i unread
              rw [read] at unread
              cases unread
            · rename_i read'
              rw [read] at read'
              cases read'
              exact ih later

end TemplateSyntax.Language
