import TemplateSyntax.Unicode.CodeRange

/-!
# Blank characters

Two sets of blanks.  `isBlank` is the white space that may surround the parts
of a directive; `isSpacing` adds the four information separators, which also
count as white space where a single character or a name is judged on its own.
-/

namespace TemplateSyntax.Unicode

/-- Code points of white space, in ascending order. -/
def blankRanges : List CodeRange := [
  ⟨0x0009, 0x000D, 1⟩, ⟨0x0020, 0x0020, 1⟩, ⟨0x0085, 0x0085, 1⟩,
  ⟨0x00A0, 0x00A0, 1⟩, ⟨0x1680, 0x1680, 1⟩, ⟨0x2000, 0x200A, 1⟩,
  ⟨0x2028, 0x2029, 1⟩, ⟨0x202F, 0x202F, 1⟩, ⟨0x205F, 0x205F, 1⟩,
  ⟨0x3000, 0x3000, 1⟩]

/-- White space between the parts of a directive. -/
def isBlank (c : Char) : Bool :=
  CodeRange.covers blankRanges c.toNat

/-- White space or an information separator (U+001C to U+001F). -/
def isSpacing (c : Char) : Bool :=
  isBlank c || CodeRange.has ⟨0x001C, 0x001F, 1⟩ c.toNat

end TemplateSyntax.Unicode
