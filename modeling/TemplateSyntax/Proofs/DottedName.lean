import Mathlib.Order.Bounds.Basic
import TemplateSyntax.Proofs.Expr.Composition
import TemplateSyntax.Proofs.Naming
import TemplateSyntax.Proofs.Reading.Furthest
import TemplateSyntax.Proofs.Terminal.Hint

/-!
# Names with dots

Words with dots between them are read as a name behind the modules of its path,
with a field access for every word that is left.  The path takes as many words
as it can, and the words behind the name must begin like fields; the dot in
front of the first that does not is refused (`parseExpr_dottedName`).
-/

namespace TemplateSyntax

open Scan

/-! ### Statement -/

/-- The diagnostic refuses a dot at a place of the source where a field access or
the end of an operand could follow. -/
structure Diagnostic.RefusesDot (diagnostic : Diagnostic) (source : Source)
    (position : Nat) : Prop where
  source_eq : diagnostic.source = source
  span_eq : diagnostic.span = .single position
  message_eq : diagnostic.message = "unexpected character '.'"
  hint_eq : diagnostic.hint =
    some "expected one of: field access, operator name, string literal, `(`, `$`, space"
  code_eq : diagnostic.code = some "syntax"
  notes_eq : diagnostic.notes = []

theorem Failure.refusesDot {expected : List Terminal} {operand : Expr}
    (behind : ∀ terminal, terminal ∈ expected ↔
      terminal ∈ Expr.language.expected ⟨.after operand, .empty, []⟩)
    (position : Nat) (source : Source) :
    ((Failure.unexpected position (some '.') expected).diagnostic
      source).RefusesDot source position where
  source_eq := rfl
  span_eq := rfl
  message_eq := by
    have shown : "unexpected character " ++ Text.quoted '.'.toString =
        "unexpected character '.'" := by decide +kernel
    exact shown
  hint_eq := by
    have moves : Expr.language.expected ⟨.after operand, .empty, []⟩ =
        [.fieldAccess, .spaces, .exprOpenParen, .operatorName, .string,
          .dollar] := rfl
    have shown : Terminal.hint [.fieldAccess, .spaces, .exprOpenParen,
        .operatorName, .string, .dollar] =
          some "expected one of: field access, operator name, string literal, `(`, `$`, space" := by
      decide +kernel
    exact (Terminal.hint_congr behind).trans (moves ▸ shown)
  code_eq := rfl
  notes_eq := rfl

/-! ### The path and the name -/

/-- The words up to the name and the words behind it, where as many words as
possible are modules of a path. -/
structure SplitsAtName (segments modules : List String) (name : String)
    (fields : List String) : Prop where
  whole : segments = modules ++ name :: fields
  each : ∀ step ∈ modules, IsModule step.toList
  last : IsModule name.toList → fields = []

theorem exists_splitsAtName {segments : List String} (proper : segments ≠ []) :
    ∃ modules name fields, SplitsAtName segments modules name fields := by
  induction segments with
  | nil => exact absurd rfl proper
  | cons first segments ih =>
      by_cases here : segments = [] ∨ ¬IsModule first.toList
      · refine ⟨[], first, segments, rfl, List.forall_mem_nil _, ?_⟩
        exact fun isModule => here.resolve_right (not_not_intro isModule)
      · rw [not_or, not_not] at here
        obtain ⟨modules, name, fields, rfl, each, last⟩ := ih here.1
        exact ⟨first :: modules, name, fields, rfl,
          List.forall_mem_cons.mpr ⟨here.2, each⟩, last⟩

theorem SplitsAtName.isGreatest {segments modules fields : List String}
    {name : String} (splits : SplitsAtName segments modules name fields) :
    IsGreatest {k | k < segments.length ∧
      ∀ step ∈ segments.take k, IsModule step.toList} modules.length := by
  obtain ⟨rfl, each, last⟩ := splits
  refine ⟨⟨by simp, ?_⟩, ?_⟩
  · rw [List.take_left]
    exact each
  · rintro k ⟨inside, modular⟩
    by_contra further
    -- then the name is a module, so that no words are left behind it
    have member : name ∈ (modules ++ name :: fields).take k := by
      rw [List.take_append, List.mem_append]
      obtain ⟨more, moreEq⟩ : ∃ more, k - modules.length = more + 1 :=
        ⟨k - modules.length - 1, by omega⟩
      rw [moreEq, List.take_succ_cons]
      exact .inr List.mem_cons_self
    obtain rfl := last (modular name member)
    simp only [List.length_append, List.length_cons, List.length_nil] at inside
    omega

theorem isField_iff_of_isWord {word : String} (isWord : IsWord word.toList) :
    IsField word.toList ↔ begins isFieldStart word = true := by
  obtain ⟨first, others, split, _, inside⟩ := isWord
  rw [begins_of_cons split, split]
  constructor
  · rintro ⟨_, _, again, begun, _⟩
    cases again
    exact begun
  · intro begun
    exact ⟨first, others, rfl, begun, inside⟩

namespace Expr

open Grammar

variable {triggers : Triggers} {modules fields : List String} {name : String}

/-- The text of the name behind its path. -/
def pathText (modules : List String) (name : String) : List Char :=
  ['.'].intercalate (modules.map String.toList ++ [name.toList])

theorem toList_intercalate_dot (modules : List String) (name : String)
    (fields : List String) :
    (".".intercalate (modules ++ name :: fields)).toList =
      pathText modules name ++ (dotted fields).flatten := by
  have fieldText : (fields.map String.toList).flatMap ('.' :: ·) =
      (dotted fields).flatten := by
    rw [List.flatMap_map, dotted, List.flatMap_def]
  rw [String.toList_intercalate, List.map_append, List.map_cons, pathText,
    ← fieldText]
  exact intercalate_dot_append _ _ _

theorem dotted_append (front back : List String) :
    (dotted (front ++ back)).flatten =
      (dotted front).flatten ++ (dotted back).flatten := by
  rw [dotted, List.map_append, List.flatten_append, dotted, dotted]

theorem ofIdentifier_pathText
    (each : ∀ step ∈ modules, IsModule step.toList)
    (isWord : IsWord name.toList) :
    ofIdentifier (pathText modules name) =
      QualifiedName.toExpr ⟨modules, name⟩ := by
  have steps : ∀ step ∈ modules.map String.toList, IsModule step :=
    List.forall_mem_map.mpr each
  rw [pathText, ofIdentifier_intercalate steps isWord, QualifiedName.toExpr,
    List.map_map, String.ofList_comp_toList, List.map_id, String.ofList_toList]
  simp

/-! ### Reading the name -/

theorem scan_pathText (each : ∀ step ∈ modules, IsModule step.toList)
    (isWord : IsWord name.toList)
    (last : IsModule name.toList → fields = []) (triggers : Triggers) :
    Terminal.identifier.scan triggers
        (pathText modules name ++ (dotted fields).flatten) =
      some (pathText modules name, (dotted fields).flatten) := by
  refine identifier_of_spelled (List.forall_mem_map.mpr each) isWord
    (notAhead_dotted fields) ?_
  intro isModule
  rw [last isModule]
  exact nofun

theorem identifier_mem_moves :
    (Terminal.identifier, fun lexeme =>
        State.mk (.after (ofIdentifier lexeme)) .empty []) ∈
      language.moves language.start := by
  simp [language, State.moves, State.start, State.operands]

/-- Where a name begins, nothing but the name can be read. -/
theorem eq_identifier {clause : Clause} {frames : List Frame}
    {terminal : Terminal} {next : List Char → State} {first : Char}
    {others lexeme rest : List Char} (head : isNameHead first = true)
    (member : (terminal, next) ∈
      State.leadingBlanks clause frames ++ State.operands clause frames)
    (read : terminal.scan triggers (first :: others) = some (lexeme, rest)) :
    terminal = .identifier := by
  have plain : first ≠ '(' ∧ first ≠ '"' ∧ first ≠ '[' ∧ first ≠ '-' := by
    refine ⟨?_, ?_, ?_, ?_⟩ <;> rintro rfl <;>
      exact not_mem_marks_of_isNameHead head (by decide)
  rcases List.mem_append.mp member with blanks | operand
  · cases List.mem_singleton.mp blanks
    obtain ⟨_, _, textEq, space, _, _⟩ := some1_eq_some_iff.mp read
    cases textEq
    rw [isNameHead_of_isBlank (isBlank_of_isSpaceOrTab _ space)] at head
    cases head
  · have ahead := OperandAhead.of_scan operand read
    rw [ahead.terminal_eq, operandAhead, if_neg plain.1, if_neg plain.2.1,
      if_neg plain.2.2.1, if_neg (by simp [plain, isDecimal_of_isNameHead head])]
    intro named
    obtain ⟨⟨_, _⟩, found⟩ := Option.isSome_iff_exists.mp named
    obtain ⟨_, _, textEq, _⟩ := exists_of_parenthesisedOperator found
    cases textEq
    exact absurd rfl plain.1

/-! ### Reading the fields -/

/-- In front of a dot or the end, only a field access can be read behind an
operand. -/
theorem eq_fieldAccess {operand : Expr} {terminal : Terminal}
    {next : List Char → State} {text lexeme rest : List Char}
    (member : (terminal, next) ∈ language.moves ⟨.after operand, .empty, []⟩)
    (read : terminal.scan triggers ('.' :: text) = some (lexeme, rest)) :
    terminal = .fieldAccess ∧
      next = fun lexeme => ⟨.after (operand.access lexeme), .empty, []⟩ := by
  have noSpace {lexeme rest : List Char}
      (spaces : some1 isSpace ('.' :: text) = some (lexeme, rest)) : False := by
    obtain ⟨_, _, textEq, space, _, _⟩ := some1_eq_some_iff.mp spaces
    cases textEq
    cases space
  have moves : (terminal, next) ∈
      [(Terminal.fieldAccess, fun lexeme =>
          State.mk (.after (operand.access lexeme)) .empty []),
        (.spaces, fun _ => ⟨.argument (Clause.empty.call operand), .empty, []⟩)] ++
        State.tightOperands (Clause.empty.applying (Clause.empty.call operand)) [] ++
        State.dollars operand .empty [] := by
    simpa [language, State.moves, State.itemEnds] using member
  rcases List.mem_append.mp moves with front | dollar
  · rcases List.mem_append.mp front with here | tight
    · simp only [List.mem_cons, Prod.mk.injEq, List.not_mem_nil,
        or_false] at here
      rcases here with ⟨rfl, rfl⟩ | ⟨rfl, _⟩
      · exact ⟨rfl, rfl⟩
      · exact (noSpace read).elim
    · have ahead := OperandAhead.of_scan (List.mem_append_left _ tight) read
      obtain ⟨_, _, textEq, head⟩ := ahead.head
      cases textEq
      exact absurd head (by decide)
  · cases List.mem_singleton.mp dollar
    have sign : (some1 isSpace).andThen (char '$') ('.' :: text) =
        some (lexeme, rest) := read
    obtain ⟨_, _, _, spaces, _, _⟩ := andThen_eq_some_iff.mp sign
    exact (noSpace spaces).elim

theorem isField_of_fieldAccess {word : String} (isWord : IsWord word.toList)
    {text lexeme rest : List Char}
    (read : fieldAccess ('.' :: word.toList ++ text) = some (lexeme, rest)) :
    IsField word.toList := by
  obtain ⟨_, _, _, point, behind, _⟩ := andThen_eq_some_iff.mp read
  obtain ⟨_, textEq⟩ := char_eq_some_iff.mp point
  obtain ⟨first, others, split, _, inside⟩ := isWord
  rw [split] at textEq ⊢
  cases textEq
  obtain ⟨_, _, start⟩ := exists_of_andThen behind
  obtain ⟨_, begun, _, textEq⟩ := one_eq_some_iff.mp start
  cases textEq
  exact ⟨first, others, rfl, begun, inside⟩

/-- Behind an operand, every path over words behind dots takes some of them from
the front, and they are fields. -/
theorem exists_of_path {names : List String}
    (each : ∀ word ∈ names, IsWord word.toList) {operand : Expr}
    {tokens : List Token} {final : State} {rest : List Char}
    (path : language.Path ⟨.after operand, .empty, []⟩ tokens final)
    (laid : Laid triggers (dotted names).flatten tokens rest) :
    ∃ front back, names = front ++ back ∧
      (∀ word ∈ front, IsField word.toList) ∧
      rest = (dotted back).flatten ∧
      final = ⟨.after (front.foldl .field operand), .empty, []⟩ := by
  induction names generalizing operand tokens with
  | nil =>
      cases laid with
      | nil =>
          cases path
          exact ⟨[], [], rfl, List.forall_mem_nil _, rfl, rfl⟩
      | cons read _ =>
          exact absurd (Terminal.length_lt_of_scan read) (Nat.not_lt_zero _)
  | cons word names ih =>
      obtain ⟨isWord, others⟩ := List.forall_mem_cons.mp each
      cases laid with
      | nil =>
          cases path
          exact ⟨[], word :: names, rfl, List.forall_mem_nil _, rfl, rfl⟩
      | cons read behind =>
          cases path with
          | cons lexeme member later =>
              obtain ⟨rfl, rfl⟩ := eq_fieldAccess member read
              have isField := isField_of_fieldAccess isWord read
              have whole :=
                fieldAccess_of_spelled isField (notAhead_dotted names)
              cases Option.some.inj (read.symm.trans whole)
              obtain ⟨front, back, rfl, fields, rfl, rfl⟩ :=
                ih others later behind
              refine ⟨word :: front, back, rfl,
                List.forall_mem_cons.mpr ⟨isField, fields⟩, rfl, ?_⟩
              simp only [access, List.tail_cons, String.ofList_toList,
                List.foldl_cons]

/-- No path takes the word that is no field. -/
theorem exists_back {good more front back : List String} {bad : String}
    (same : good ++ bad :: more = front ++ back)
    (taken : ∀ word ∈ front, IsField word.toList)
    (noField : ¬IsField bad.toList) :
    ∃ mid, good = front ++ mid ∧ back = mid ++ bad :: more := by
  rcases List.append_eq_append_iff.mp same with
    ⟨mid, rfl, behind⟩ | ⟨mid, rfl, behind⟩
  · cases mid with
    | nil => exact ⟨[], by simp, behind.symm⟩
    | cons word mid =>
        cases behind
        exact absurd (taken bad (by simp)) noField
  · exact ⟨mid, rfl, behind⟩

theorem exists_first {accepts : String → Bool} {words : List String}
    (other : ¬∀ word ∈ words, accepts word = true) :
    ∃ good bad more, words = good ++ bad :: more ∧
      (∀ word ∈ good, accepts word = true) ∧ accepts bad = false := by
  cases found : words.find? (!accepts ·) with
  | none =>
      rw [List.find?_eq_none] at found
      exact absurd (fun word member => by simpa using found word member) other
  | some bad =>
      obtain ⟨refused, good, more, split, before⟩ :=
        List.find?_eq_some_iff_append.mp found
      exact ⟨good, bad, more, split,
        fun word member => by simpa using before word member,
        by simpa using refused⟩

/-! ### Reading the whole text -/

section Whole

variable {segments : List String}
  (splits : SplitsAtName segments modules name fields)
  (each : ∀ word ∈ segments, IsWord word.toList)

include each in
theorem not_mem_dottedName {c : Char} (begun : isNameStart c = false)
    (goneOn : isNameChar c = false) (other : c ≠ '.') :
    c ∉ (".".intercalate segments).toList := by
  rw [String.toList_intercalate]
  cases segments with
  | nil => simp
  | cons first segments =>
      obtain ⟨isWord, others⟩ := List.forall_mem_cons.mp each
      rw [List.map_cons]
      intro member
      have split := intercalate_dot_flatMap first.toList
        (segments.map String.toList)
      rw [show ".".toList = ['.'] from rfl, split, List.mem_append,
        List.mem_flatMap] at member
      rcases member with inFirst | ⟨_, listed, behind⟩
      · exact isWord.not_mem begun goneOn inFirst
      · obtain ⟨word, inSegments, rfl⟩ := List.mem_map.mp listed
        rcases List.mem_cons.mp behind with dot | inside
        · exact other dot
        · exact (others word inSegments).not_mem begun goneOn inside

include each in
theorem trimEnd_dottedName :
    trimEnd (".".intercalate segments) = ".".intercalate segments :=
  trimEnd_of_not_mem
    (not_mem_dottedName each (by decide) (by decide) (by decide))
    (not_mem_dottedName each (by decide) (by decide) (by decide))

include splits

theorem text_eq : (".".intercalate segments).toList =
    pathText modules name ++ (dotted fields).flatten := by
  rw [splits.whole, toList_intercalate_dot]

include each

theorem parseExpr_of_fields
    (begun : ∀ field ∈ fields, begins isFieldStart field = true)
    (label : Option String) :
    parseExpr (".".intercalate segments) label =
      .ok (fields.foldl .field (QualifiedName.toExpr ⟨modules, name⟩)) := by
  have text := text_eq splits
  obtain ⟨rfl, steps, last⟩ := splits
  have isWord := each name (by simp)
  have isField : ∀ field ∈ fields, IsField field.toList :=
    fun field member => (isField_iff_of_isWord (each field (by simp [member]))).mpr
      (begun field member)
  have accessed := laid_dotted isField []
  rw [List.append_nil] at accessed
  have laid : Laid Triggers.standard
      (pathText modules name ++ (dotted fields).flatten)
      (⟨.identifier, pathText modules name⟩ :: accesses (dotted fields)) [] :=
    .cons (scan_pathText steps isWord last _) accessed
  have operand := Operand.fields (dotted fields)
    (.identifier (pathText modules name))
  rw [foldl_dotted, ofIdentifier_pathText steps isWord] at operand
  have expression : Expression
      (⟨.identifier, pathText modules name⟩ :: accesses (dotted fields))
      (fields.foldl .field (QualifiedName.toExpr ⟨modules, name⟩)) :=
    .plain (.application (.operand operand))
  rw [parseExpr_eq_ok_iff, trimEnd_dottedName each, text]
  refine ⟨_, laid, expression, fault?_of_flat expression ?_ ?_⟩
  · exact List.forall_mem_cons.mpr ⟨rfl, flat_accesses _⟩
  · exact List.forall_mem_cons.mpr ⟨rfl, valued_accesses _⟩

/-- Every path over the text stays at its beginning, or takes the name and some of
the fields behind it. -/
theorem exists_of_start {tokens : List Token} {final : State}
    {rest : List Char} (path : language.Path language.start tokens final)
    (laid : Laid triggers (".".intercalate segments).toList tokens rest) :
    (rest = (".".intercalate segments).toList ∧ final = language.start) ∨
      ∃ front back, fields = front ++ back ∧
        (∀ word ∈ front, IsField word.toList) ∧
        rest = (dotted back).flatten ∧
        final = ⟨.after (front.foldl .field
          (QualifiedName.toExpr ⟨modules, name⟩)), .empty, []⟩ := by
  rw [text_eq splits] at laid ⊢
  obtain ⟨rfl, steps, last⟩ := splits
  have isWord := each name (by simp)
  cases path with
  | nil =>
      cases laid
      exact .inl ⟨rfl, rfl⟩
  | @cons terminal _ _ _ _ lexeme member later =>
      cases laid with
      | cons read behind =>
          have whole := scan_pathText steps isWord last triggers
          obtain ⟨first, others, shape, head⟩ := exists_head_of_identifier
            (List.forall_mem_map.mpr steps) isWord
          obtain rfl : terminal = .identifier := by
            rw [pathText, shape] at read
            exact eq_identifier head member read
          obtain rfl := language_distinct.next_eq member identifier_mem_moves
          cases Option.some.inj (read.symm.trans whole)
          dsimp only at later
          rw [ofIdentifier_pathText steps isWord] at later
          exact .inr (exists_of_path
            (fun word inFields => each word (by simp [inFields])) later behind)

/-! ### The refused dot -/

variable {good more : List String} {bad : String}
  (behind : fields = good ++ bad :: more) (noField : ¬IsField bad.toList)
include behind

omit each in
theorem text_eq_refused : (".".intercalate segments).toList =
    (".".intercalate (modules ++ name :: good)).toList ++
      (dotted (bad :: more)).flatten := by
  rw [text_eq splits, behind, dotted_append, toList_intercalate_dot,
    List.append_assoc]

include noField

/-- What is left at a place that is reached, and what could follow there. -/
theorem stop_cases {stop : Stop}
    (member : stop ∈ language.stops triggers language.start
      (".".intercalate segments).toList) :
    stop.left = (".".intercalate segments).toList.length ∨
      ∃ mid operand, stop =
        ⟨(dotted (mid ++ bad :: more)).flatten.length,
          language.expected ⟨.after operand, .empty, []⟩⟩ := by
  obtain ⟨tokens, rest, final, laid, path, rfl⟩ :=
    Language.mem_stops_iff.mp member
  rcases exists_of_start splits each path laid with
    ⟨rfl, _⟩ | ⟨front, back, same, inFront, rfl, rfl⟩
  · exact .inl rfl
  · obtain ⟨mid, _, rfl⟩ := exists_back (behind.symm.trans same) inFront noField
    exact .inr ⟨mid, _, rfl⟩

theorem not_derivable_of_refused :
    ¬∃ expr, Derivable Expression triggers (".".intercalate segments).toList
      expr := by
  rintro ⟨expr, tokens, laid, expression⟩
  obtain ⟨final, path, finished⟩ := (language_recognises tokens expr).mp expression
  rcases exists_of_start splits each path laid with
    ⟨_, rfl⟩ | ⟨front, back, same, inFront, ended, _⟩
  · cases finished
  · obtain ⟨mid, _, rfl⟩ := exists_back (behind.symm.trans same) inFront noField
    rw [dotted_append] at ended
    cases (List.append_eq_nil_iff.mp ended.symm).2

variable (taken : ∀ field ∈ good, IsField field.toList)
include taken

omit noField in
/-- Behind the last of the words that are fields a place is reached. -/
theorem mem_stops_refused :
    ∃ operand, ⟨(dotted (bad :: more)).flatten.length,
        language.expected ⟨.after operand, .empty, []⟩⟩ ∈
      language.stops Triggers.standard language.start
        (".".intercalate segments).toList := by
  have text := text_eq splits
  obtain ⟨rfl, steps, last⟩ := splits
  have isWord := each name (by simp)
  have read := scan_pathText steps isWord last Triggers.standard
  subst behind
  refine ⟨_, Language.mem_stops_iff.mpr ⟨_, _, _, ?_,
    .cons (pathText modules name) identifier_mem_moves
      (path_accesses (dotted good) _ _ _), rfl⟩⟩
  rw [text]
  exact .cons read (laid_dotted taken _)

theorem leastLeft_of_refused :
    Stop.leastLeft (language.stops Triggers.standard language.start
      (".".intercalate segments).toList) =
        (dotted (bad :: more)).flatten.length := by
  obtain ⟨operand, reached⟩ := mem_stops_refused splits each behind taken
  refine Stop.leastLeft_eq reached ?_
  intro stop member
  rcases stop_cases splits each behind noField member with
    whole | ⟨mid, operand, rfl⟩
  · rw [whole, text_eq_refused splits behind, List.length_append]
    exact Nat.le_add_left _ _
  · rw [dotted_append, List.length_append]
    exact Nat.le_add_left _ _

theorem mem_expected_of_refused (operand : Expr) {terminal : Terminal} :
    terminal ∈ (Stop.furthest (language.stops Triggers.standard language.start
        (".".intercalate segments).toList)).expected ↔
      terminal ∈ language.expected ⟨.after operand, .empty, []⟩ := by
  rw [Stop.mem_expected_furthest,
    leastLeft_of_refused splits each behind noField taken]
  constructor
  · rintro ⟨stop, member, left, expected⟩
    rcases stop_cases splits each behind noField member with
      whole | ⟨_, _, rfl⟩
    · -- in front of the name, more text is left
      have longer : 0 < (pathText modules name).length := by
        obtain ⟨whole, steps, _⟩ := splits
        obtain ⟨first, others, shape, _⟩ := exists_head_of_identifier
          (List.forall_mem_map.mpr steps) (each name (by simp [whole]))
        rw [pathText, shape]
        exact Nat.succ_pos _
      rw [whole, text_eq_refused splits behind, List.length_append,
        toList_intercalate_dot, List.length_append] at left
      omega
    · exact expected
  · intro expected
    obtain ⟨_, reached⟩ := mem_stops_refused splits each behind taken
    exact ⟨_, reached, rfl, expected⟩

theorem exists_refusal (label : Option String) :
    ∃ diagnostic : Diagnostic,
      parseExpr (".".intercalate segments) label =
        .error (.atPlace diagnostic) ∧
      diagnostic.RefusesDot ⟨".".intercalate segments, label⟩
        (".".intercalate (modules ++ name :: good)).length := by
  have underivable : ¬∃ expr, Derivable Expression Triggers.standard
      (Source.mk (".".intercalate segments) label).chars expr :=
    not_derivable_of_refused splits each behind noField
  have text := text_eq_refused splits behind
  have position : (".".intercalate segments).toList.length -
      (dotted (bad :: more)).flatten.length =
        (".".intercalate (modules ++ name :: good)).length := by
    rw [text, List.length_append, Nat.add_sub_cancel, String.length_toList]
  have found : (".".intercalate segments).toList[
      (".".intercalate (modules ++ name :: good)).length]? = some '.' := by
    rw [text, ← String.length_toList,
      List.getElem?_append_right (Nat.le_refl _), Nat.sub_self]
    rfl
  rw [parseExpr, trimEnd_dottedName each,
    language_recognises.parse_of_not_derivable underivable]
  refine ⟨_, rfl, ?_⟩
  rw [Language.unexpected, Stop.furthest_left, Source.chars,
    leastLeft_of_refused splits each behind noField taken, position, found]
  exact Failure.refusesDot
    (fun terminal => mem_expected_of_refused splits each behind noField taken
      (QualifiedName.toExpr ⟨modules, name⟩)) _ _

end Whole

end Expr

/-- Of words with dots between them, as many as possible from the front are the
modules of a path, the next is the name behind them, and the others are fields
of it, one of the other, if all of them begin like fields.  Otherwise the dot in
front of the first that does not is refused. -/
theorem parseExpr_dottedName {segments : List String} (proper : segments ≠ [])
    (each : ∀ word ∈ segments, IsWord word.toList) (label : Option String) :
    ∃ modules name fields, segments = modules ++ name :: fields ∧
      IsGreatest {k | k < segments.length ∧
        ∀ step ∈ segments.take k, IsModule step.toList} modules.length ∧
      ((∃ expr, parseExpr (".".intercalate segments) label = .ok expr) ↔
        ∀ field ∈ fields, begins isFieldStart field = true) ∧
      ((∀ field ∈ fields, begins isFieldStart field = true) →
        parseExpr (".".intercalate segments) label =
          .ok (fields.foldl .field (QualifiedName.toExpr ⟨modules, name⟩))) ∧
      ∀ good bad more, fields = good ++ bad :: more →
        (∀ field ∈ good, begins isFieldStart field = true) →
        begins isFieldStart bad = false →
        ∃ diagnostic : Diagnostic,
          parseExpr (".".intercalate segments) label =
            .error (.atPlace diagnostic) ∧
          diagnostic.RefusesDot ⟨".".intercalate segments, label⟩
            (".".intercalate (modules ++ name :: good)).length := by
  obtain ⟨modules, name, fields, splits⟩ := exists_splitsAtName proper
  have accepted := Expr.parseExpr_of_fields splits each
  have isWord : ∀ field ∈ fields, IsWord field.toList :=
    fun field member => each field (by simp [splits.whole, member])
  have refused : ∀ good bad more, fields = good ++ bad :: more →
      (∀ field ∈ good, begins isFieldStart field = true) →
      begins isFieldStart bad = false →
      ∃ diagnostic : Diagnostic,
        parseExpr (".".intercalate segments) label =
          .error (.atPlace diagnostic) ∧
        diagnostic.RefusesDot ⟨".".intercalate segments, label⟩
          (".".intercalate (modules ++ name :: good)).length := by
    intro good bad more behind begun other
    subst behind
    refine Expr.exists_refusal splits each rfl ?_ ?_ label
    · rw [isField_iff_of_isWord (isWord bad (by simp)), other]
      exact Bool.false_ne_true
    · intro field member
      exact (isField_iff_of_isWord (isWord field (by simp [member]))).mpr
        (begun field member)
  refine ⟨modules, name, fields, splits.whole, splits.isGreatest, ?_,
    fun begun => accepted begun label, refused⟩
  constructor
  · rintro ⟨expr, answer⟩
    by_contra other
    obtain ⟨good, bad, more, behind, begun, noStart⟩ := Expr.exists_first other
    obtain ⟨_, refusal, _⟩ := refused good bad more behind begun noStart
    rw [refusal] at answer
    cases answer
  · exact fun begun => ⟨_, accepted begun label⟩

/-- A prime ends the path, and a capital word is no field. -/
theorem parseExpr_dottedName_prime :
    parseExpr "B.Foo'.bar" none =
        .ok (.field (.qualified ["B"] "Foo'") "bar") ∧
      ∃ diagnostic : Diagnostic,
        parseExpr "x.y.Foo" none = .error (.atPlace diagnostic) ∧
        diagnostic.RefusesDot ⟨"x.y.Foo", none⟩ 3 := by
  constructor
  · obtain ⟨modules, name, fields, whole, greatest, _, answer, _⟩ :=
      @parseExpr_dottedName ["B", "Foo'", "bar"] (by decide) (by decide) none
    have splits : SplitsAtName ["B", "Foo'", "bar"] ["B"] "Foo'" ["bar"] :=
      ⟨rfl, by decide, by decide⟩
    obtain ⟨rfl, rest⟩ := List.append_inj (splits.whole.symm.trans whole)
      (splits.isGreatest.unique greatest)
    cases rest
    exact answer (by decide)
  · obtain ⟨modules, name, fields, whole, greatest, _, _, refused⟩ :=
      @parseExpr_dottedName ["x", "y", "Foo"] (by decide) (by decide) none
    have splits : SplitsAtName ["x", "y", "Foo"] [] "x" ["y", "Foo"] :=
      ⟨rfl, by decide, by decide⟩
    obtain ⟨rfl, rest⟩ := List.append_inj (splits.whole.symm.trans whole)
      (splits.isGreatest.unique greatest)
    cases rest
    exact refused ["y"] "Foo" [] rfl (by decide) (by decide)

end TemplateSyntax
