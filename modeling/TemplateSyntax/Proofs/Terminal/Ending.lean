import TemplateSyntax.Proofs.Terminal.Spelled

/-!
# How lexemes end

The terminals an expression may end in (`Terminal.endsExpr`) take the blanks in
front of them, not those behind them, so that what they read does not end in a
space or a tab (`Terminal.endsVisibly_scan`).
-/

namespace TemplateSyntax

namespace Scan

/-- What the rule reads does not end in a space or a tab. -/
def EndsVisibly (scan : Scan) : Prop :=
  ∀ ⦃text lexeme rest : List Char⦄, scan text = some (lexeme, rest) →
    ∀ c, lexeme.getLast? = some c → isSpaceOrTab c = false

theorem isSpaceOrTab_of_not_mem_marks {c : Char} (plain : c ∉ marks) :
    isSpaceOrTab c = false := by
  rw [Bool.eq_false_iff]
  intro blank
  simp only [isSpaceOrTab, Bool.or_eq_true, decide_eq_true_eq] at blank
  rcases blank with rfl | rfl <;> exact plain (by decide)

theorem exists_of_stringTail {text lexeme rest : List Char}
    (read : stringTail text = some (lexeme, rest)) :
    ∃ inner, lexeme = inner ++ ['"'] := by
  fun_induction Scan.stringTail text generalizing lexeme rest with
  | case1 => cases read
  | case2 =>
      cases read
      exact ⟨[], rfl⟩
  | case3 => cases read
  | case4 escaped tail known lexeme' left inner ih =>
      cases read
      obtain ⟨front, rfl⟩ := ih inner
      exact ⟨'\\' :: escaped :: front, rfl⟩
  | case5 => cases read
  | case6 => cases read
  | case7 => cases read
  | case8 c tail _ _ _ lexeme' left inner ih =>
      cases read
      obtain ⟨front, rfl⟩ := ih inner
      exact ⟨c :: front, rfl⟩

theorem not_mem_marks_of_isFieldStart {c : Char}
    (start : isFieldStart c = true) : c ∉ marks := by
  have checked : marks.all (fun mark => !isFieldStart mark) = true := by
    decide +kernel
  intro mark
  have refused := List.all_eq_true.mp checked c mark
  rw [start] at refused
  cases refused

namespace EndsVisibly

variable {accepts : Char → Bool} {first second scan : Scan}

theorem one (visible : ∀ c, accepts c = true → isSpaceOrTab c = false) :
    (one accepts).EndsVisibly := by
  intro text lexeme rest read c last
  obtain ⟨d, accepted, rfl, _⟩ := one_eq_some_iff.mp read
  cases last
  exact visible _ accepted

theorem char {expected : Char} (visible : isSpaceOrTab expected = false) :
    (char expected).EndsVisibly := by
  apply one
  intro c same
  rw [beq_iff_eq.mp same]
  exact visible

theorem many (visible : ∀ c, accepts c = true → isSpaceOrTab c = false) :
    (many accepts).EndsVisibly := by
  intro text lexeme rest read c last
  obtain ⟨rfl, _⟩ := many_eq_some_iff.mp read
  exact visible c (List.all_eq_true.mp List.all_takeWhile c
    (List.mem_of_getLast? last))

/-- Only what is read last counts, if there is any. -/
theorem behind (first : Scan) (right : second.EndsVisibly)
    (productive : second.Productive) : (first.andThen second).EndsVisibly := by
  intro text lexeme rest read c last
  obtain ⟨front, middle, back, _, secondRead, rfl⟩ :=
    andThen_eq_some_iff.mp read
  rw [List.getLast?_append_of_ne_nil _ (productive secondRead)] at last
  exact right secondRead c last

theorem andThen (left : first.EndsVisibly) (right : second.EndsVisibly) :
    (first.andThen second).EndsVisibly := by
  intro text lexeme rest read c last
  obtain ⟨front, middle, back, firstRead, secondRead, rfl⟩ :=
    andThen_eq_some_iff.mp read
  by_cases empty : back = []
  · rw [empty, List.append_nil] at last
    exact left firstRead c last
  · rw [List.getLast?_append_of_ne_nil _ empty] at last
    exact right secondRead c last

theorem optional (visible : scan.EndsVisibly) :
    scan.optional.EndsVisibly := by
  intro text lexeme rest read c last
  rcases eq_or_eq_of_optional read with answer | ⟨rfl, _⟩
  · exact visible answer c last
  · cases last

theorem named {begins : Char → Bool}
    (plain : ∀ c, begins c = true → c ∉ marks) :
    ((Scan.one begins).andThen (Scan.many isNameChar)).EndsVisibly :=
  andThen (one fun c begun => isSpaceOrTab_of_not_mem_marks (plain c begun))
    (many fun _ name =>
      isSpaceOrTab_of_not_mem_marks (not_mem_marks_of_isNameChar name))

theorem digits : digits.EndsVisibly := by
  have visible : ∀ c, Unicode.isDecimal c = true → isSpaceOrTab c = false :=
    fun _ digit =>
      isSpaceOrTab_of_not_mem_marks (not_mem_marks_of_isDecimal digit)
  exact andThen (one visible) (many visible)

theorem plainName : plainName.EndsVisibly :=
  named fun c begun => not_mem_marks_of_isNameHead (by simp [isNameHead, begun])

theorem identifier : EndsVisibly identifier := by
  intro text lexeme rest read c last
  fun_induction Scan.identifier text generalizing lexeme rest with
  | case1 text unread => exact plainName read c last
  | case2 text step left stepRead unread _ => exact plainName read c last
  | case3 text step left stepRead name tail nameRead ih =>
      cases read
      rw [List.getLast?_append_of_ne_nil _
        (Productive.identifier nameRead)] at last
      exact ih nameRead last

theorem stringTail : stringTail.EndsVisibly := by
  intro text lexeme rest read c last
  obtain ⟨inner, rfl⟩ := exists_of_stringTail read
  rw [List.getLast?_concat] at last
  cases last
  decide

end EndsVisibly

end Scan

/-- The terminal can be the last of an expression. -/
def Terminal.endsExpr : Terminal → Bool
  | .identifier | .number | .string | .operatorName | .fieldAccess
  | .exprCloseParen | .exprCloseBracket => true
  | _ => false

theorem Terminal.endsVisibly_scan {terminal : Terminal}
    (ends : terminal.endsExpr = true) (triggers : Triggers) :
    (terminal.scan triggers).EndsVisibly := by
  have closing {accepts : Char → Bool} {c : Char}
      (visible : Scan.isSpaceOrTab c = false) :
      (Scan.blanksThen accepts (Scan.char c)).EndsVisibly :=
    .behind _ (.char visible) (Scan.Productive.char _)
  cases terminal with
  | identifier => exact .identifier
  | number =>
      exact .andThen (.optional (.char (by decide)))
        (.andThen .digits (.optional (.andThen (.char (by decide)) .digits)))
  | string => exact .andThen (.char (by decide)) .stringTail
  | operatorName =>
      refine .behind _ (.behind _ (.char (by decide)) (Scan.Productive.char _)) ?_
      exact Scan.Productive.andThen_right _ (Scan.Productive.char _)
  | fieldAccess =>
      exact .andThen (.char (by decide))
        (.named fun _ => Scan.not_mem_marks_of_isFieldStart)
  | exprCloseParen => exact closing (by decide)
  | exprCloseBracket => exact closing (by decide)
  | _ => cases ends

end TemplateSyntax
