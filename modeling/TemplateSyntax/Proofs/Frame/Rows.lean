import TemplateSyntax.Diagnostic.Frame

/-!
# Rows of a code frame

Every line of the window adds a numbered row to the frame and, if it belongs to
the span, a row of carets (`Diagnostic.rowsOf`).  With a tab width that can be
counted the frame is made, and a reader who takes it apart at its line feeds
finds just these rows (`Diagnostic.rows_of_frameBody`).
-/

namespace TemplateSyntax

/-! ### Texts joined by a separator -/

section Intercalate

variable {α β : Type}

theorem intercalate_append (separator : List α) {front back : List (List α)}
    (first : front ≠ []) (second : back ≠ []) :
    separator.intercalate (front ++ back) =
      separator.intercalate front ++ separator ++
        separator.intercalate back := by
  induction front with
  | nil => exact absurd rfl first
  | cons part parts ih =>
      cases parts with
      | nil =>
          rw [List.singleton_append,
            List.intercalate_cons_of_ne_nil second, List.intercalate_singleton]
      | cons next parts =>
          have proper : next :: parts ++ back ≠ [] :=
            List.append_ne_nil_of_left_ne_nil (List.cons_ne_nil _ _) _
          rw [List.cons_append, List.intercalate_cons_of_ne_nil proper,
            ih (List.cons_ne_nil _ _), List.intercalate_cons_cons]
          simp only [List.append_assoc]

theorem flatMap_intercalate (f : α → List β) (separator : List α)
    (parts : List (List α)) :
    (separator.intercalate parts).flatMap f =
      (separator.flatMap f).intercalate (parts.map (List.flatMap f)) := by
  induction parts with
  | nil => rfl
  | cons part parts ih =>
      cases parts with
      | nil =>
          rw [List.intercalate_singleton, List.map_singleton,
            List.intercalate_singleton]
      | cons next parts =>
          rw [List.intercalate_cons_cons, List.flatMap_append,
            List.flatMap_append, ih, List.map_cons (l := next :: parts),
            List.map_cons, List.intercalate_cons_cons]

/-- Blocks joined within themselves and with each other are all joined. -/
theorem intercalate_map_intercalate (separator : List α)
    {blocks : List (List (List α))} (proper : ∀ block ∈ blocks, block ≠ []) :
    separator.intercalate (blocks.map separator.intercalate) =
      separator.intercalate blocks.flatten := by
  induction blocks with
  | nil => rfl
  | cons block blocks ih =>
      rw [List.forall_mem_cons] at proper
      cases blocks with
      | nil =>
          rw [List.map_singleton, List.intercalate_singleton,
            List.flatten_cons, List.flatten_nil, List.append_nil]
      | cons next blocks =>
          have more : (next :: blocks).flatten ≠ [] := by
            simp [proper.2 next List.mem_cons_self]
          have others : (next :: blocks).map separator.intercalate ≠ [] := by
            simp
          rw [List.map_cons, List.intercalate_cons_of_ne_nil others,
            ih proper.2, List.flatten_cons (L := next :: blocks),
            intercalate_append separator proper.1 more]

end Intercalate

theorem exists_mapM {α β γ ε : Type} {f : α → Except ε β} {view : β → γ}
    {expected : α → γ}
    (each : ∀ item, ∃ result, f item = .ok result ∧
      view result = expected item) (items : List α) :
    ∃ results, items.mapM f = .ok results ∧
      results.map view = items.map expected := by
  induction items with
  | nil => exact ⟨[], rfl, rfl⟩
  | cons item items ih =>
      obtain ⟨result, answer, seen⟩ := each item
      obtain ⟨results, answers, views⟩ := ih
      refine ⟨result :: results, ?_, ?_⟩
      · rw [List.mapM_cons, answer]
        simp only [answers, bind, Except.bind, pure, Except.pure]
      · rw [List.map_cons, List.map_cons, seen, views]

/-! ### Texts inside a row -/

namespace Text

theorem shown_eq_self {piece : List Char}
    (visible : ∀ c ∈ piece, isDropped c = false) : shown piece = piece := by
  rw [shown, List.filter_eq_self]
  intro c member
  rw [visible c member]
  rfl

theorem mem_of_mem_expandFrom {width : Int} {column : Nat} {line : List Char}
    {c : Char} (member : c ∈ expandFrom width column line) :
    c = ' ' ∨ c ∈ line := by
  fun_induction expandFrom width column line with
  | case1 column => cases member
  | case2 column rest ih =>
      rcases List.mem_append.mp member with space | later
      · exact .inl (List.mem_replicate.mp space).2
      · exact (ih later).imp_right (List.mem_cons_of_mem _)
  | case3 column d rest _ ih =>
      rcases List.mem_cons.mp member with rfl | later
      · exact .inr List.mem_cons_self
      · exact (ih later).imp_right (List.mem_cons_of_mem _)

/-- The rows of a text: what stands between its line feeds. -/
def Styled.rows (text : Styled) : List (List Char) :=
  text.chars.splitOn '\n'

end Text

theorem toList_toString_nat (n : Nat) :
    (toString n).toList = Nat.toDigits 10 n := by
  rw [Nat.toString_eq_ofList_toDigits, String.toList_ofList]

theorem isDropped_of_isDigit {c : Char} (digit : c.isDigit = true) :
    Text.isDropped c = false := by
  rw [Text.isDropped, ← Bool.not_eq_true, List.contains_iff_mem]
  intro member
  simp only [List.mem_cons, List.not_mem_nil, or_false] at member
  rcases member with rfl | rfl | rfl | rfl | rfl <;> cases digit

/-! ### Rows of one line -/

theorem expanded_of_counted {tabWidth : Int}
    (counted : isTabWidth tabWidth = true) (line : List Char) :
    expanded tabWidth line = .ok (Text.expandTabs tabWidth line) :=
  if_pos counted

theorem carets_of_counted {tabWidth : Int}
    (counted : isTabWidth tabWidth = true) (line : List Char)
    (start stop : Nat) :
    carets line start stop tabWidth = .ok
      (caretsBetween (Text.expandTabs tabWidth (line.take (start - 1))).length
        (Text.expandTabs tabWidth (line.take (stop - 1))).length) := by
  rw [carets, expanded_of_counted counted, expanded_of_counted counted]
  rfl

namespace Diagnostic

variable {source : Source} {style : FrameStyle} {width line : Nat}
  {first last : LineColumn}

def numberedRow (source : Source) (tabWidth : Int) (width line : Nat) :
    List Char :=
  gutter width line ++
    Text.shown (Text.expandTabs tabWidth (source.lineTextAt line))

/-- How many characters of a line stand in front of its part of the span. -/
def markStart (first : LineColumn) (line : Nat) : Nat :=
  (if line = first.line then first.column else 1) - 1

/-- How many characters of a line stand in front of the end of its part of the
span. -/
def markStop (text : List Char) (last : LineColumn) (line : Nat) : Nat :=
  (if line = last.line then last.column else text.length + 1) - 1

def lineCarets (text : List Char) (tabWidth : Int) (first last : LineColumn)
    (line : Nat) : List Char :=
  caretsBetween
    (Text.expandTabs tabWidth (text.take (markStart first line))).length
    (Text.expandTabs tabWidth (text.take (markStop text last line))).length

def marksRow (source : Source) (tabWidth : Int) (width : Nat)
    (first last : LineColumn) (line : Nat) : List Char :=
  List.replicate (width + 3) ' ' ++
    lineCarets (source.lineTextAt line) tabWidth first last line

/-- The rows for one line of the window. -/
def rowsOf (source : Source) (tabWidth : Int) (width : Nat)
    (first last : LineColumn) (line : Nat) : List (List Char) :=
  numberedRow source tabWidth width line ::
    if first.line ≤ line ∧ line ≤ last.line then
      [marksRow source tabWidth width first last line]
    else []

theorem mem_gutter {c : Char} (member : c ∈ gutter width line) :
    c = ' ' ∨ c = '|' ∨ c.isDigit = true := by
  simp only [gutter, List.mem_append, List.mem_replicate] at member
  rcases member with (⟨_, rfl⟩ | digit) | bar
  · exact .inl rfl
  · rw [toList_toString_nat] at digit
    exact .inr (.inr (Nat.isDigit_of_mem_toDigits (by decide) (by decide)
      digit))
  · have oneOf : c ∈ [' ', '|', ' '] := bar
    simp only [List.mem_cons, List.not_mem_nil, or_false] at oneOf
    rcases oneOf with rfl | rfl | rfl
    · exact .inl rfl
    · exact .inr (.inl rfl)
    · exact .inl rfl

theorem shown_gutter : Text.shown (gutter width line) = gutter width line := by
  apply Text.shown_eq_self
  intro c member
  rcases mem_gutter member with rfl | rfl | digit
  · decide
  · decide
  · exact isDropped_of_isDigit digit

theorem mem_caretsBetween {lead reach : Nat} {c : Char}
    (member : c ∈ caretsBetween lead reach) : c = ' ' ∨ c = '^' := by
  simp only [caretsBetween, List.mem_append, List.mem_replicate] at member
  exact member.imp And.right And.right

theorem shown_caretsBetween (lead reach : Nat) :
    Text.shown (caretsBetween lead reach) = caretsBetween lead reach := by
  apply Text.shown_eq_self
  intro c member
  rcases mem_caretsBetween member with rfl | rfl <;> decide

/-- No row holds a line feed, so that rows can be told apart. -/
theorem lineFeed_not_mem_rowsOf {tabWidth : Int} {row : List Char}
    (member : row ∈ rowsOf source tabWidth width first last line) :
    '\n' ∉ row := by
  have plain : '\n' ∉ numberedRow source tabWidth width line := by
    intro feed
    rcases List.mem_append.mp feed with inGutter | inLine
    · rcases mem_gutter inGutter with space | bar | digit
      · exact absurd space (by decide)
      · exact absurd bar (by decide)
      · exact absurd digit (by decide)
    · rcases Text.mem_of_mem_expandFrom (List.mem_filter.mp inLine).1 with
        space | inText
      · exact absurd space (by decide)
      · have noBreak := Text.not_isLineBreak_of_mem_firstLine inText
        exact absurd noBreak (by decide)
  have marks : '\n' ∉ marksRow source tabWidth width first last line := by
    intro feed
    rcases List.mem_append.mp feed with inGutter | inCarets
    · exact absurd (List.mem_replicate.mp inGutter).2 (by decide)
    · rcases mem_caretsBetween inCarets with space | caret
      · exact absurd space (by decide)
      · exact absurd caret (by decide)
  rw [rowsOf] at member
  split at member
  · simp only [List.mem_cons, List.not_mem_nil, or_false] at member
    rcases member with rfl | rfl
    · exact plain
    · exact marks
  · rw [List.mem_singleton.mp member]
    exact plain

theorem exists_lineRows (source : Source) (width : Nat)
    (first last : LineColumn) (counted : isTabWidth style.tabWidth = true)
    (line : Nat) :
    ∃ pieces, lineRows source style width first last line = .ok pieces ∧
      (pieces.flatMap fun piece => Text.shown piece.1) =
        ['\n'].intercalate
          (rowsOf source style.tabWidth width first last line) := by
  have row : caretRow (source.lineTextAt line) line first last style.tabWidth =
      .ok (lineCarets (source.lineTextAt line) style.tabWidth first last
        line) :=
    carets_of_counted counted _ _ _
  rw [lineRows, expanded_of_counted counted, caretPieces, rowsOf, row]
  by_cases marked : first.line ≤ line ∧ line ≤ last.line
  · rw [if_pos marked, if_pos marked]
    refine ⟨_, rfl, ?_⟩
    have blanks : Text.shown ('\n' :: List.replicate (width + 3) ' ') =
        '\n' :: List.replicate (width + 3) ' ' := by
      apply Text.shown_eq_self
      intro c member
      rcases List.mem_cons.mp member with rfl | space
      · decide
      · rw [(List.mem_replicate.mp space).2]
        decide
    simp [shown_gutter, blanks, lineCarets, shown_caretsBetween,
      numberedRow, marksRow]
  · rw [if_neg marked, if_neg marked]
    refine ⟨_, rfl, ?_⟩
    simp [shown_gutter, numberedRow]

/-! ### Rows of the frame -/

theorem exists_frameBody (source : Source) (first last : LineColumn)
    (counted : isTabWidth style.tabWidth = true) :
    ∃ body, frameBody source style first last = .ok body ∧
      body.chars = ['\n'].intercalate
        ((window source first.line last.line style.contextLines).flatMap
          (rowsOf source style.tabWidth
            (gutterWidth source last.line style.contextLines) first last)) := by
  obtain ⟨blocks, made, shown⟩ := exists_mapM
    (exists_lineRows source
      (gutterWidth source last.line style.contextLines) first last counted)
    (window source first.line last.line style.contextLines)
  refine ⟨_, by rw [frameBody, made]; rfl, ?_⟩
  have feed : ([(['\n'], "")] : Pieces).flatMap
      (fun piece => Text.shown piece.1) = ['\n'] := by decide
  rw [Text.Styled.chars_ofPieces, flatMap_intercalate, feed, shown,
    ← Function.comp_def, ← List.map_map, intercalate_map_intercalate,
    List.flatMap_def]
  intro rows member
  obtain ⟨line, _, rfl⟩ := List.mem_map.mp member
  exact List.cons_ne_nil _ _

theorem rows_of_frameBody {body : Text.Styled}
    (made : frameBody source style first last = .ok body)
    (counted : isTabWidth style.tabWidth = true)
    (someLine : line ∈
      window source first.line last.line style.contextLines) :
    body.rows =
      (window source first.line last.line style.contextLines).flatMap
        (rowsOf source style.tabWidth
          (gutterWidth source last.line style.contextLines) first last) := by
  obtain ⟨body', made', chars⟩ := exists_frameBody source first last counted
  obtain rfl : body' = body := by simpa [made'] using made
  rw [Text.Styled.rows, chars]
  apply List.splitOn_intercalate
  · intro row member
    obtain ⟨line, _, inRows⟩ := List.mem_flatMap.mp member
    exact lineFeed_not_mem_rowsOf inRows
  · apply List.ne_nil_of_mem
    exact List.mem_flatMap.mpr ⟨line, someLine, List.mem_cons_self⟩

end Diagnostic

end TemplateSyntax
