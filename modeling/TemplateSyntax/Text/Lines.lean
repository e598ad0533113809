import TemplateSyntax.Unicode.CodeRange

/-!
# Lines of a text

A text falls into lines, each holding its own line break; only the last line
may have none.  A carriage return followed by a line feed is one break.
`flatten_splitLines` says that nothing is lost and nothing is moved.
-/

namespace TemplateSyntax.Text

/-- The ten characters that end a line. -/
def isLineBreak (c : Char) : Bool :=
  Unicode.CodeRange.covers [
    ⟨0x000A, 0x000D, 1⟩, ⟨0x001C, 0x001E, 1⟩, ⟨0x0085, 0x0085, 1⟩,
    ⟨0x2028, 0x2029, 1⟩] c.toNat

/-- Cut a text after every line break. -/
def splitLines : List Char → List (List Char)
  | [] => []
  | '\r' :: '\n' :: rest => ['\r', '\n'] :: splitLines rest
  | c :: rest =>
      if isLineBreak c then
        [c] :: splitLines rest
      else
        match splitLines rest with
        | [] => [[c]]
        | line :: lines => (c :: line) :: lines

/-- The part of a text before its first line break. -/
def firstLine (text : List Char) : List Char :=
  text.takeWhile fun c => !isLineBreak c

def endsInBreak (text : List Char) : Bool :=
  text.getLast?.any isLineBreak

theorem flatten_splitLines (text : List Char) :
    (splitLines text).flatten = text := by
  fun_induction splitLines text with
  | case1 => rfl
  | case2 rest ih => simp [ih]
  | case3 c rest _ _ ih => simp [ih]
  | case4 c rest _ _ noLines ih =>
      rw [noLines] at ih
      simpa using ih
  | case5 c rest _ _ line lines split ih =>
      rw [split] at ih
      simpa using ih

theorem ne_nil_of_mem_splitLines {text line : List Char}
    (member : line ∈ splitLines text) : line ≠ [] := by
  fun_induction splitLines text with
  | case1 => simp at member
  | case2 rest ih =>
      rcases List.mem_cons.mp member with rfl | later
      · simp
      · exact ih later
  | case3 c rest _ _ ih =>
      rcases List.mem_cons.mp member with rfl | later
      · simp
      · exact ih later
  | case4 c rest _ _ noLines ih =>
      rw [List.mem_singleton] at member
      simp [member]
  | case5 c rest _ _ head lines split ih =>
      rcases List.mem_cons.mp member with rfl | later
      · simp
      · exact ih (by rw [split]; exact List.mem_cons_of_mem _ later)

theorem not_isLineBreak_of_mem_firstLine {text : List Char} {c : Char}
    (member : c ∈ firstLine text) : isLineBreak c = false := by
  have passes : (firstLine text).all (fun c => !isLineBreak c) = true :=
    List.all_takeWhile
  simpa using List.all_eq_true.mp passes c member

end TemplateSyntax.Text
