import TemplateSyntax.Proofs.Agreement
import TemplateSyntax.Proofs.LiteralText
import TemplateSyntax.Proofs.Locality
import TemplateSyntax.Proofs.RoundTrip

/-!
# Line ends behind items

A directive takes the line end behind it, and so does a control trigger that opens
nothing; an interpolation takes none.  Whatever line stands in front and whatever
follows, just that line end is missing from the items (`parseLine_lineEnd`).
-/

namespace TemplateSyntax

open Item.Grammar (One Sequence)
open Scan

/-! ### Statement -/

/-- Neither text nor a value. -/
def Item.isDirective : Item → Bool
  | .literal _ | .value _ => false
  | _ => true

theorem Item.isLiteral_of_isDirective {item : Item}
    (isDirective : item.isDirective = true) : item.isLiteral = false := by
  cases item <;> first | rfl | cases isDirective

/-- A control trigger that opens nothing, or a whole directive with nothing behind
its closing brace. -/
inductive Item.Statement (triggers : Triggers) : String → Item → Prop where
  | bare :
      Statement triggers (String.ofList [triggers.control])
        (.literal (String.ofList [triggers.control]))
  | escaped :
      Statement triggers (String.ofList [triggers.control, '\\'])
        (.literal (String.ofList [triggers.control]))
  | directive {text : String} {item : Item} {label : Option String} :
      parseLine triggers text label = .ok [item] → item.isDirective = true →
      text.toList.getLast? = some '}' → Statement triggers text item

/-- The two line ends that can be taken. -/
def IsNewline (ending : List Char) : Prop :=
  ending = ['\n'] ∨ ending = ['\r', '\n']

/-! ### Line ends -/

theorem IsNewline.read {ending : List Char} (isNewline : IsNewline ending)
    (rest : List Char) :
    lineEnd.optional (ending ++ rest) = some (ending, rest) := by
  rcases isNewline with rfl | rfl <;> rfl

theorem Scan.absorbing_newline {scan : Scan}
    {text lexeme ending rest : List Char} (isNewline : IsNewline ending)
    (read : scan text = some (lexeme, ending ++ rest)) :
    scan.absorbing text = some (lexeme ++ ending, rest) :=
  andThen_eq_some_iff.mpr
    ⟨lexeme, ending ++ rest, ending, read, isNewline.read rest, rfl⟩

theorem Scan.lineEnd_eq_nil_or_getLast? {text lexeme rest : List Char}
    (read : lineEnd.optional text = some (lexeme, rest)) :
    lexeme = [] ∨ lexeme.getLast? = some '\n' := by
  rw [Scan.optional, orElse] at read
  split at read
  · exact .inl (word_eq_some_iff.mp read).1
  · rw [lineEnd, orElse] at read
    split at read
    · obtain ⟨rfl, _⟩ := char_eq_some_iff.mp read
      exact .inr rfl
    · obtain ⟨rfl, _⟩ := word_eq_some_iff.mp read
      exact .inr rfl

namespace Item

variable {triggers : Triggers} {text more : List Char} {tokens : List Token}
  {item : Item}

/-! ### Readings put together -/

theorem Reading.of_parseLine {text : String} {items : List Item}
    {label : Option String} (answer : parseLine triggers text label = .ok items) :
    Reading triggers text.toList items True := by
  obtain ⟨_, tokens, laid, ⟨parts, sequence, rfl⟩, faultless⟩ :=
    TemplateSyntax.parseLine_eq_ok_iff.mp answer
  exact ⟨tokens, parts, laid, sequence, rfl, iff_of_true faultless trivial⟩

theorem Reading.append {items items' : List Item}
    (reading : Reading triggers text items True)
    (reading' : Reading triggers more items' True)
    (seam : Seam triggers text more) :
    Reading triggers (text ++ more) (merge (items ++ items')) True := by
  obtain ⟨tokens, parts, laid, sequence, rfl, faultless⟩ := reading
  obtain ⟨tokens', parts', laid', sequence', rfl, faultless'⟩ := reading'
  obtain ⟨joined, whole, joinedLaid, joinedSequence, merged, noFault⟩ :=
    exists_sequence_append sequence laid sequence' laid' seam
  refine ⟨joined, whole, joinedLaid, joinedSequence, ?_,
    iff_of_true (noFault (faultless.mpr trivial) (faultless'.mpr trivial))
      trivial⟩
  rw [merge_merge_append, merge_append_merge, merged]

/-- Behind a line that does not end in the value trigger, a text that begins with
a trigger is read as alone. -/
theorem Reading.parseLine_behind {front back : String} {items items' : List Item}
    {label : Option String}
    (accepted : parseLine triggers front label = .ok items)
    (ending : front.toList.getLast? ≠ some triggers.value)
    (opening : back.toList.head? = some triggers.control ∨
      back.toList.head? = some triggers.value)
    (reading : Reading triggers back.toList items' True)
    (label' : Option String) :
    parseLine triggers (front ++ back) label' =
      .ok (merge (items ++ items')) := by
  have whole := (Reading.of_parseLine accepted).append reading
    (Seam.of_trigger ending opening)
  rw [← String.toList_append] at whole
  exact (whole.parseLine_eq_ok_iff label').mpr
    ⟨(TemplateSyntax.parseLine_eq_ok_iff.mp accepted).1, trivial⟩

theorem merge_singleton (item : Item) : merge [item] = [item] := by
  cases item <;> rfl

theorem Reading.merge_eq {items : List Item} {condition : Prop}
    (reading : Reading triggers text items condition) : merge items = items := by
  obtain ⟨_, parts, _, _, rfl, _⟩ := reading
  exact merge_merge parts

theorem Reading.newline {ending : List Char} {items : List Item}
    (isNewline : IsNewline ending)
    (reading : Reading triggers text items True) :
    Reading triggers (ending ++ text)
      (merge (.literal (String.ofList ending) :: items)) True := by
  rw [merge, reading.merge_eq]
  have plain {c : Char} (refused : canTrigger c = false) :
      ¬(c = triggers.control ∨ c = triggers.value) := by
    rintro (rfl | rfl)
    · exact Bool.noConfusion (refused.symm.trans triggers.control_ok)
    · exact Bool.noConfusion (refused.symm.trans triggers.value_ok)
  have feed := reading.plain (plain (by decide : canTrigger '\n' = false))
  rcases isNewline with rfl | rfl
  · exact feed
  · have whole := feed.plain (plain (by decide : canTrigger '\r' = false))
    rwa [prepend_literals, ← String.ofList_append] at whole

/-! ### Items in front of a line end -/

/-- The text begins with the item, and the rest follows it. -/
def Leaves (triggers : Triggers) (text : List Char) (item : Item)
    (rest : List Char) : Prop :=
  ∃ tokens, One tokens item ∧ Laid triggers text tokens rest ∧
    language.fault? language.start tokens = none

theorem Leaves.reading {rest : List Char} {items : List Item}
    (leaves : Leaves triggers text item rest)
    (reading : Reading triggers rest items True) :
    Reading triggers text (merge (item :: items)) True := by
  obtain ⟨tokens, one, laid, faultless⟩ := leaves
  have whole := reading.cons one laid (iff_of_true faultless trivial)
  rwa [and_true, ← reading.merge_eq] at whole

theorem leaves_of_readsLiteral {shown rest : List Char}
    (reads : ReadsLiteral triggers text shown rest) :
    Leaves triggers text (.literal (String.ofList shown)) rest := by
  obtain ⟨_, one, read⟩ := reads
  exact ⟨_, one, .cons read (.nil rest), fault?_literal one⟩

/-- A text that is read as one item is that item, unless it is literal text. -/
theorem leaves_of_parseLine {text : String} {label : Option String}
    (answer : parseLine triggers text label = .ok [item])
    (other : item.isLiteral = false) :
    Leaves triggers text.toList item [] := by
  obtain ⟨_, tokens, laid, ⟨parts, sequence, merged⟩, faultless⟩ :=
    parseLine_eq_ok_iff.mp answer
  obtain rfl := eq_singleton_of_merge other merged.symm
  cases sequence with
  | cons one rest =>
      cases rest
      rw [List.append_nil] at laid faultless
      exact ⟨_, one, laid, faultless⟩

theorem Leaves.head? {rest : List Char} (leaves : Leaves triggers text item rest)
    (other : item.isLiteral = false) :
    text.head? = some triggers.control ∨ text.head? = some triggers.value := by
  obtain ⟨tokens, one, laid, _⟩ := leaves
  cases text with
  | nil =>
      cases laid with
      | nil => cases one
      | cons read _ => exact absurd (Terminal.length_lt_of_scan read) (by simp)
  | cons c text =>
      by_contra plain
      obtain ⟨_, rfl, rfl⟩ := one.exists_literal laid (by simpa using plain)
      cases other

/-- Whatever its closing brace takes, a directive has the same faults. -/
theorem Grammar.Directive.fault?_eq_none (directive : Directive tokens item)
    {opening closing : List Char} (closing' : List Char)
    (faultless : language.fault? language.start
      (⟨.controlOpen, opening⟩ :: tokens ++ [⟨.controlClose, closing⟩]) = none) :
    language.fault? language.start
      (⟨.controlOpen, opening⟩ :: tokens ++ [⟨.controlClose, closing'⟩]) =
      none := by
  cases directive with
  | expr word expression known =>
      obtain ⟨_, measures⟩ := Expr.language_recognises.exists_measures expression
      exact (fault?_exprDirective_iff measures known _ word _).mpr
        ((fault?_exprDirective_iff measures known _ word _).mp faultless)
  | bare word known => exact fault?_bare known opening word closing'
  | forallStart word arrow whole expression =>
      obtain ⟨_, front⟩ := Pattern.language_recognises.exists_measures whole
      obtain ⟨_, back⟩ := Expr.language_recognises.exists_measures expression
      exact (fault?_forallStart_iff back front _ word arrow _).mpr
        ((fault?_forallStart_iff back front _ word arrow _).mp faultless)
  | caseOf word whole =>
      obtain ⟨_, measures⟩ := Pattern.language_recognises.exists_measures whole
      exact (fault?_caseOf_iff measures _ word _).mpr
        ((fault?_caseOf_iff measures _ word _).mp faultless)

theorem controlClose_newline {closing ending : List Char}
    (isNewline : IsNewline ending) (rest : List Char)
    (read : Terminal.controlClose.scan triggers text = some (closing, []))
    (last : text.getLast? = some '}') :
    '}' ∈ text ∧ Terminal.controlClose.scan triggers (text ++ (ending ++ rest)) =
      some (closing ++ ending, rest) := by
  obtain ⟨body, left, taken, brace, ends, rfl⟩ := andThen_eq_some_iff.mp read
  have split : text = body ++ left :=
    Faithful.blanksThen _ (Faithful.char _) brace
  have behind : left = taken ++ [] :=
    Faithful.optional Faithful.lineEnd ends
  rw [List.append_nil] at behind
  subst behind
  -- a line end behind the brace would be the last of the text
  obtain rfl : left = [] := by
    refine (lineEnd_eq_nil_or_getLast? ends).resolve_right fun feed => ?_
    have proper : left ≠ [] := by
      rintro rfl
      cases feed
    rw [split, List.getLast?_append_of_ne_nil _ proper, feed] at last
    cases last
  have longer := (Extends.blanksThen_brace_append (ending ++ rest) brace).2
  rw [List.append_nil]
  exact ⟨mem_of_blanksThen_brace brace, absorbing_newline isNewline longer⟩

section Whole

variable {text : String} {label : Option String}

theorem leaves_directive {ending : List Char} (isNewline : IsNewline ending)
    (rest : List Char) (answer : parseLine triggers text label = .ok [item])
    (isDirective : item.isDirective = true)
    (last : text.toList.getLast? = some '}') :
    Leaves triggers (text.toList ++ (ending ++ rest)) item rest := by
  obtain ⟨tokens, one, laid, faultless⟩ :=
    leaves_of_parseLine answer (isLiteral_of_isDirective isDirective)
  cases one with
  | directive opening closing directive =>
      obtain ⟨middle, inside, close⟩ := laid.split
      cases close with
      | cons read ended =>
          cases ended
          have proper : middle ≠ [] := by
            rintro rfl
            exact absurd (Terminal.length_lt_of_scan read) (by simp)
          rw [inside.text_eq, List.getLast?_append_of_ne_nil _ proper] at last
          obtain ⟨brace, longer⟩ :=
            controlClose_newline isNewline rest read last
          exact ⟨_, .directive opening (closing ++ ending) directive,
            (inside.extend brace _).append (.cons longer (.nil rest)),
            directive.fault?_eq_none _ faultless⟩
  | _ => cases isDirective

theorem leaves_value {expr : Expr}
    (answer : parseLine triggers text label = .ok [.value expr])
    (rest : List Char) :
    Leaves triggers (text.toList ++ rest) (.value expr) rest := by
  obtain ⟨tokens, one, laid, faultless⟩ := leaves_of_parseLine answer rfl
  refine ⟨tokens, one, ?_, faultless⟩
  cases one with
  | value opening closing expression =>
      exact laid_append_of_closer laid mem_of_blanksThen_brace
        fun _ => valueClose_append
  | directive opening closing directive =>
      cases directive with
      | expr _ _ known => cases known
      | bare _ known => cases known

namespace Statement

variable (statement : Statement triggers text item)
include statement

theorem leaves {ending : List Char} (isNewline : IsNewline ending)
    (rest : List Char) :
    Leaves triggers (text.toList ++ (ending ++ rest)) item rest := by
  cases statement with
  | bare =>
      rw [String.toList_ofList]
      rcases isNewline with rfl | rfl <;>
        exact leaves_of_readsLiteral (readsLiteral_control (by simp))
  | escaped =>
      rw [String.toList_ofList]
      rcases isNewline with rfl | rfl <;>
        exact leaves_of_readsLiteral (readsLiteral_control (by simp))
  | directive answer isDirective last =>
      exact leaves_directive isNewline rest answer isDirective last

theorem alone : Leaves triggers text.toList item [] := by
  cases statement with
  | bare =>
      rw [String.toList_ofList]
      exact leaves_of_readsLiteral (readsLiteral_control (by simp))
  | escaped =>
      rw [String.toList_ofList]
      exact leaves_of_readsLiteral (readsLiteral_control (by simp))
  | directive answer isDirective _ =>
      exact leaves_of_parseLine answer (isLiteral_of_isDirective isDirective)

theorem head? {ending : List Char} (isNewline : IsNewline ending)
    (rest : List Char) :
    (text.toList ++ (ending ++ rest)).head? = some triggers.control ∨
      (text.toList ++ (ending ++ rest)).head? = some triggers.value := by
  cases statement with
  | bare | escaped =>
      rw [String.toList_ofList]
      exact .inl rfl
  | directive answer isDirective last =>
      exact (leaves_directive isNewline rest answer isDirective last).head?
        (isLiteral_of_isDirective isDirective)

end Statement

end Whole

end Item

/-! ### Lines -/

/-- Behind a line that does not end in the value trigger, a statement takes the line
end that follows it, and an interpolation leaves it to the text. -/
theorem parseLine_lineEnd {triggers : Triggers} {front newline back : String}
    {items more : List Item} {label label' : Option String}
    (accepted : parseLine triggers front label = .ok items)
    (ending : front.toList.getLast? ≠ some triggers.value)
    (accepted' : parseLine triggers back label' = .ok more)
    (isNewline : IsNewline newline.toList) (label'' : Option String) :
    (∀ text item, Item.Statement triggers text item →
      parseLine triggers text label'' = .ok [item] ∧
      parseLine triggers (front ++ text ++ newline ++ back) label'' =
        .ok (Item.merge (items ++ [item] ++ more))) ∧
    ∀ text expr, parseLine triggers text label'' = .ok [.value expr] →
      parseLine triggers (front ++ text ++ newline ++ back) label'' =
        .ok (Item.merge
          (items ++ [.value expr] ++ [.literal newline] ++ more)) := by
  have readable := (parseLine_eq_ok_iff.mp accepted).1
  have behind := Item.Reading.of_parseLine accepted'
  have split (text : String) : (text ++ (newline ++ back)).toList =
      text.toList ++ (newline.toList ++ back.toList) := by
    rw [String.toList_append, String.toList_append]
  simp only [String.append_assoc]
  constructor
  · intro text item statement
    have alone := statement.alone.reading .nil
    have opening := statement.head? isNewline back.toList
    have whole := (statement.leaves isNewline back.toList).reading behind
    rw [Item.merge_singleton] at alone
    rw [← split] at opening whole
    refine ⟨(alone.parseLine_eq_ok_iff label'').mpr ⟨readable, trivial⟩, ?_⟩
    rw [whole.parseLine_behind accepted ending opening, Item.merge_append_merge,
      List.append_assoc, List.singleton_append]
  · intro text expr answer
    have leaves := Item.leaves_value answer (newline.toList ++ back.toList)
    have opening := leaves.head? rfl
    have whole := leaves.reading (behind.newline isNewline)
    rw [← split] at opening whole
    rw [whole.parseLine_behind accepted ending opening, Item.merge_append_merge,
      List.append_cons, Item.merge_append_merge, String.ofList_toList,
      List.append_cons (items ++ _)]

/-- A line end behind a directive is taken, but not the next, and none behind an
interpolation. -/
theorem parseLine_lineEnd_otherwise :
    parseLine Triggers.standard "a%\x7belse\x7d\r\n\nb" none =
        .ok [.literal "a", .otherwise, .literal "\nb"] ∧
      parseLine Triggers.standard "a#\x7b1\x7d\r\n\nb" none =
        .ok [.literal "a", .value (.integer 1), .literal "\r\n\nb"] := by
  have front : parseLine Triggers.standard "a" none = .ok [.literal "a"] :=
    parseLine_of_plain (by decide) (by decide)
      (List.all_iff_forall_prop.mp (by decide)) none
  have back : parseLine Triggers.standard "\nb" none =
      .ok [.literal "\nb"] :=
    parseLine_of_plain (by decide) (by decide)
      (List.all_iff_forall_prop.mp (by decide)) none
  have directive : parseLine Triggers.standard "%\x7belse\x7d" none =
      .ok [.otherwise] :=
    parseLine_bare (by decide) .otherwise .nil .nil (.inl rfl) none
  have value : parseLine Triggers.standard "#\x7b1\x7d" none =
      .ok [.value (.integer 1)] := by
    have limit : Expr.InDigitLimit (.integer 1) := by
      rw [Expr.InDigitLimit]
      decide +kernel
    have source : Expr.HasSource (.integer 1) :=
      ⟨_, none, (Expr.parseExpr_print (.integer 1) none).mpr
        ⟨by decide, limit⟩⟩
    have canonical : Item.Canonical [.value (.integer 1)] :=
      ⟨.singleton _, List.forall_mem_singleton.mpr source⟩
    exact (Item.parseLine_printLine canonical none).mpr ⟨by decide,
      List.forall_mem_singleton.mpr ⟨by decide, limit⟩⟩
  have whole := parseLine_lineEnd front (by decide) back
    (.inr (by decide) : IsNewline "\r\n".toList) none
  exact ⟨(whole.1 _ _ (.directive directive rfl (by decide))).2,
    whole.2 _ _ value⟩

end TemplateSyntax
