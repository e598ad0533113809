import TemplateSyntax.Proofs.Expr.Printed

/-!
# Blanks inside directives

Between the braces of a directive, blanks may stand wherever its parts meet.  The
opening takes those behind it, a keyword those in front of its payload, an arrow
those on both sides of it, and the closing those in front of it.
-/

namespace TemplateSyntax.Item

open Scan
open TemplateSyntax.Expr (BeginsVisibly)

/-- Only blanks, of any kind. -/
def Blank (gap : List Char) : Prop :=
  ∀ c ∈ gap, Unicode.isBlank c = true

theorem Blank.nil : Blank [] :=
  List.forall_mem_nil _

theorem Blank.append {left right : List Char} (first : Blank left)
    (second : Blank right) : Blank (left ++ right) :=
  List.forall_mem_append.mpr ⟨first, second⟩

theorem Blank.space : Blank [' '] :=
  List.forall_mem_singleton.mpr rfl

section Scan

variable {triggers : Triggers} {gap text rest : List Char}

theorem many_blank (blank : Blank gap) (visible : BeginsVisibly text) :
    many Unicode.isBlank (gap ++ text) = some (gap, text) := by
  obtain ⟨first, others, rfl, shown⟩ := visible
  exact many_of_stop blank (by simp [notAhead, shown])

theorem scan_controlOpen (blank : Blank gap) (visible : BeginsVisibly text) :
    Terminal.controlOpen.scan triggers
        (triggers.control :: '{' :: (gap ++ text)) =
      some (triggers.control :: '{' :: gap, text) :=
  andThen_eq_some_iff.mpr ⟨[triggers.control, '{'], gap ++ text, gap,
    word_eq_some_iff.mpr ⟨rfl, rfl⟩, many_blank blank visible, rfl⟩

theorem beginsVisibly_brace (rest : List Char) : BeginsVisibly ('}' :: rest) :=
  .of_mark (by decide)

/-- A closing brace takes the line end behind it. -/
theorem scan_controlClose {ending : List Char} (blank : Blank gap)
    (ends : lineEnd.optional (ending ++ rest) = some (ending, rest)) :
    Terminal.controlClose.scan triggers (gap ++ '}' :: (ending ++ rest)) =
      some (gap ++ '}' :: ending, rest) := by
  have brace : blanksThen Unicode.isBlank (char '}')
      (gap ++ '}' :: (ending ++ rest)) = some (gap ++ ['}'], ending ++ rest) :=
    andThen_eq_some_iff.mpr ⟨gap, _, ['}'],
      many_blank blank (beginsVisibly_brace _), read_char _ _, rfl⟩
  exact andThen_eq_some_iff.mpr ⟨gap ++ ['}'], ending ++ rest, ending, brace,
    ends, List.append_cons _ _ _⟩

theorem notAhead_isNameChar (blank : Blank gap) (proper : gap ≠ []) :
    notAhead isNameChar (gap ++ text) = true := by
  obtain ⟨first, others, rfl⟩ := List.exists_cons_of_ne_nil proper
  have other := isNameChar_of_isBlank (blank first List.mem_cons_self)
  simp [notAhead, other]

theorem scan_keyword_payload {keyword : Keyword}
    (opens : keyword.opensPayload = true) (blank : Blank gap)
    (proper : gap ≠ []) (visible : BeginsVisibly text) :
    (Terminal.keyword keyword).scan triggers
        (keyword.spelling.toList ++ (gap ++ text)) =
      some (keyword.spelling.toList ++ gap, text) := by
  have named : (Scan.word keyword.spelling.toList).before
      (notAhead isNameChar) (keyword.spelling.toList ++ (gap ++ text)) =
      some (keyword.spelling.toList, gap ++ text) :=
    before_eq_some_iff.mpr ⟨word_eq_some_iff.mpr ⟨rfl, rfl⟩,
      notAhead_isNameChar blank proper⟩
  rw [Terminal.scan, Scan.keyword, if_pos opens]
  exact andThen_eq_some_iff.mpr
    ⟨_, _, gap, named, many_blank blank visible, rfl⟩

theorem scan_keyword_bare {keyword : Keyword}
    (closes : keyword.opensPayload = false) (blank : Blank gap) :
    (Terminal.keyword keyword).scan triggers
        (keyword.spelling.toList ++ (gap ++ '}' :: rest)) =
      some (keyword.spelling.toList, gap ++ '}' :: rest) := by
  rw [Terminal.scan, Scan.keyword, closes, if_neg Bool.false_ne_true]
  refine before_eq_some_iff.mpr ⟨word_eq_some_iff.mpr ⟨rfl, rfl⟩, ?_⟩
  by_cases empty : gap = []
  · subst empty
    have other : isNameChar '}' = false := by decide
    simp [notAhead, other]
  · exact notAhead_isNameChar blank empty

theorem scan_arrow {before after : List Char} (blank : Blank before)
    (blankAfter : Blank after) (visible : BeginsVisibly text) :
    Terminal.arrow.scan triggers (before ++ '<' :: '-' :: (after ++ text)) =
      some (before ++ '<' :: '-' :: after, text) := by
  have sign : (word ['<', '-']).andThen (many Unicode.isBlank)
      ('<' :: '-' :: (after ++ text)) = some ('<' :: '-' :: after, text) :=
    andThen_eq_some_iff.mpr ⟨['<', '-'], after ++ text, after,
      word_eq_some_iff.mpr ⟨rfl, rfl⟩, many_blank blankAfter visible, rfl⟩
  exact andThen_eq_some_iff.mpr ⟨before, _, '<' :: '-' :: after,
    many_blank blank (.of_mark (by decide)), sign, rfl⟩

theorem beginsVisibly_spelling (keyword : Keyword) :
    BeginsVisibly keyword.spelling.toList := by
  cases keyword <;> exact .of_mark (by decide)

theorem laid_directive {keyword : Keyword} {before after ending : List Char}
    {tokens : List Token} (opens : keyword.opensPayload = true)
    (blankBefore : Blank before) (blank : Blank gap) (proper : gap ≠ [])
    (blankAfter : Blank after) (visible : BeginsVisibly text)
    (inside : Laid triggers text tokens (after ++ '}' :: (ending ++ rest)))
    (ends : lineEnd.optional (ending ++ rest) = some (ending, rest)) :
    Laid triggers
      (triggers.control :: '{' ::
        (before ++ (keyword.spelling.toList ++ (gap ++ text))))
      (⟨.controlOpen, triggers.control :: '{' :: before⟩ ::
        ⟨.keyword keyword, keyword.spelling.toList ++ gap⟩ :: tokens ++
          [⟨.controlClose, after ++ '}' :: ending⟩]) rest := by
  have close : Laid triggers (after ++ '}' :: (ending ++ rest))
      [⟨.controlClose, after ++ '}' :: ending⟩] rest :=
    .cons (scan_controlClose blankAfter ends) (.nil rest)
  exact .cons
    (scan_controlOpen blankBefore ((beginsVisibly_spelling keyword).append _))
    (.cons (scan_keyword_payload opens blank proper visible)
      (inside.append close))

theorem laid_bareDirective {keyword : Keyword} {before ending : List Char}
    (closes : keyword.opensPayload = false) (blankBefore : Blank before)
    (blank : Blank gap)
    (ends : lineEnd.optional (ending ++ rest) = some (ending, rest)) :
    Laid triggers
      (triggers.control :: '{' :: (before ++
        (keyword.spelling.toList ++ (gap ++ '}' :: (ending ++ rest)))))
      [⟨.controlOpen, triggers.control :: '{' :: before⟩,
        ⟨.keyword keyword, keyword.spelling.toList⟩,
        ⟨.controlClose, gap ++ '}' :: ending⟩] rest :=
  .cons
    (scan_controlOpen blankBefore ((beginsVisibly_spelling keyword).append _))
    (.cons (scan_keyword_bare closes blank)
      (.cons (scan_controlClose blank ends) (.nil rest)))

end Scan

end TemplateSyntax.Item
