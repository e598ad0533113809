import TemplateSyntax.Pattern.Grammar
import TemplateSyntax.Pattern.Reading
import TemplateSyntax.Proofs.Reading.Recognition

/-!
# What a pattern reader has read

Each state of the pattern reader stands for the part of a derivation that lies
to the left of the place.  `Justified` says which tokens may have led to a
state: the open brackets and records with the items and fields in them, and in
the innermost one the constructor being applied and the aliases in front of the
place.  Every move keeps it (`Justified.step`), and where a pattern may end it
is a derivation (`whole_of_path`).
-/

namespace TemplateSyntax.Pattern

open Grammar

namespace Grammar

/-- Arguments side by side, latest first. -/
inductive Passed : List Token → List Pattern → Prop where
  | nil : Passed [] []
  | cons {before tokens : List Token} {arguments : List Pattern}
      {argument : Pattern} :
      Passed before arguments → Part tokens argument →
      Passed (before ++ tokens) (argument :: arguments)

/-- The constructor being applied with its arguments so far, if there is one. -/
inductive Head : List Token → Option (QualifiedName × List Pattern) → Prop where
  | none : Head [] none
  | applied {first rest : List Token} {head : QualifiedName}
      {arguments : List Pattern} :
      Constructor first head → Passed rest arguments →
      Head (first ++ rest) (some (head, arguments))

/-- Aliases with their signs, latest first. -/
inductive Aliases : List Token → List String → Prop where
  | nil : Aliases [] []
  | cons (lexeme sign : List Char) {before : List Token}
      {names : List String} :
      Aliases before names →
      Aliases (before ++ [⟨.variableWord, lexeme⟩, ⟨.asSign, sign⟩])
        (wordName lexeme :: names)

/-- Items with a comma behind each, latest first. -/
inductive Listed : List Token → List Pattern → Prop where
  | nil : Listed [] []
  | cons (comma : List Char) {before tokens : List Token} {item : Pattern}
      {items : List Pattern} :
      Listed before items → Whole tokens item →
      Listed (before ++ tokens ++ [⟨.patternComma, comma⟩]) (item :: items)

/-- Fields with a comma behind each, latest first. -/
inductive FieldsListed : List Token → List (String × Pattern) → Prop where
  | nil : FieldsListed [] []
  | cons (comma : List Char) {before tokens : List Token}
      {field : String × Pattern} {fields : List (String × Pattern)} :
      FieldsListed before fields → Field tokens field →
      FieldsListed (before ++ tokens ++ [⟨.patternComma, comma⟩])
        (field :: fields)

theorem Pieces.snoc {tokens : List Token} {names : List String}
    (pieces : Pieces tokens names) (dot : List Char) {token : Token}
    {name : String} (piece : Piece token name) :
    Pieces (tokens ++ [⟨.dot, dot⟩, token]) (names ++ [name]) := by
  induction pieces with
  | one first => exact .more dot first (.one piece)
  | more sign first _ ih => exact .more sign first ih

theorem Passed.arguments {before : List Token} {arguments : List Pattern}
    (passed : Passed before arguments) :
    ∀ {rest : List Token} {values : List Pattern}, Arguments rest values →
      Arguments (before ++ rest) (arguments.reverse ++ values) := by
  induction passed with
  | nil =>
      intro rest values later
      exact later
  | cons _ argument ih =>
      intro rest values later
      simpa using ih (Arguments.more argument later)

theorem Head.whole {before tokens : List Token}
    {head : Option (QualifiedName × List Pattern)} {part : Pattern}
    (front : Head before head) (last : Part tokens part) :
    Whole (before ++ tokens)
      (head.elim part fun (name, arguments) =>
        .construct name (arguments.reverse ++ [part])) := by
  cases front with
  | none => exact .part last
  | applied constructor passed =>
      simpa using Whole.application constructor (passed.arguments (.one last))

theorem Aliases.part {before : List Token} {names : List String}
    (aliases : Aliases before names) :
    ∀ {rest : List Token} {value : Pattern}, Part rest value →
      Part (before ++ rest)
        (names.foldl (fun pattern name => .named name pattern) value) := by
  induction aliases with
  | nil =>
      intro rest value part
      exact part
  | cons lexeme sign _ ih =>
      intro rest value part
      simpa using ih (Part.named lexeme sign part)

theorem Listed.items {before : List Token} {items : List Pattern}
    (listed : Listed before items) :
    ∀ {rest : List Token} {values : List Pattern}, Items rest values →
      Items (before ++ rest) (items.reverse ++ values) := by
  induction listed with
  | nil =>
      intro rest values later
      exact later
  | cons comma _ item ih =>
      intro rest values later
      simpa using ih (Items.more comma item later)

theorem Items.tuplePart {tokens : List Token} {values : List Pattern}
    (items : Items tokens values) (several : 2 ≤ values.length)
    (opening closing : List Char) :
    Part
      (⟨.patternOpenParen, opening⟩ :: tokens ++
        [⟨.patternCloseParen, closing⟩])
      (.tuple values) := by
  cases items with
  | one => simp at several
  | more comma first rest =>
      simpa using Part.tuple opening comma closing first rest

theorem Listed.tuplePart {before tokens : List Token} {items : List Pattern}
    {last : Pattern} (listed : Listed before items) (whole : Whole tokens last)
    (opening closing : List Char) :
    Part
      (⟨.patternOpenParen, opening⟩ :: (before ++ tokens) ++
        [⟨.patternCloseParen, closing⟩])
      (closeTuple items last) := by
  have all := listed.items (Items.one whole)
  cases listed with
  | nil => exact .group opening closing whole
  | cons => exact all.tuplePart (by simp) opening closing

theorem Listed.listPart {before tokens : List Token} {items : List Pattern}
    {last : Pattern} (listed : Listed before items) (whole : Whole tokens last)
    (opening closing : List Char) :
    Part
      (⟨.patternOpenBracket, opening⟩ :: (before ++ tokens) ++
        [⟨.patternCloseBracket, closing⟩])
      (.list (items.reverse ++ [last])) :=
  .list opening closing (listed.items (Items.one whole))

theorem FieldsListed.fields {before : List Token}
    {fields : List (String × Pattern)}
    (listed : FieldsListed before fields) :
    ∀ {rest : List Token} {values : List (String × Pattern)}
      {wildcard : Bool}, Fields rest values wildcard →
      Fields (before ++ rest) (fields.reverse ++ values) wildcard := by
  induction listed with
  | nil =>
      intro rest values wildcard later
      exact later
  | cons comma _ field ih =>
      intro rest values wildcard later
      simpa using ih (Fields.more comma field later)

theorem FieldsListed.record {constructor before tokens : List Token}
    {head : QualifiedName} {fields : List (String × Pattern)}
    {field : String × Pattern} (name : Constructor constructor head)
    (listed : FieldsListed before fields) (last : Field tokens field)
    (opening closing : List Char) :
    Part
      (constructor ++ ⟨.openBrace, opening⟩ :: (before ++ tokens) ++
        [⟨.closeBrace, closing⟩])
      (.record head (fields.reverse ++ [field]) false) :=
  .record opening closing name (listed.fields (.one last))

theorem FieldsListed.openRecord {constructor before : List Token}
    {head : QualifiedName} {fields : List (String × Pattern)}
    (name : Constructor constructor head) (listed : FieldsListed before fields)
    (opening dots closing : List Char) :
    Part
      (constructor ++ ⟨.openBrace, opening⟩ :: (before ++
        [⟨.wildcard, dots⟩]) ++ [⟨.closeBrace, closing⟩])
      (.record head fields.reverse true) := by
  cases listed with
  | nil => simpa using Part.openRecord opening dots closing name
  | cons comma listed field =>
      simpa using Part.record opening closing name
        (listed.fields (.oneOpen comma dots field))

end Grammar

/-- What stands between the innermost open bracket and the part being read. -/
inductive Lead : List Token → Clause → Prop where
  | mk {head aliases : List Token} {clause : Clause} :
      Head head clause.head → Aliases aliases clause.aliases →
      Lead (head ++ aliases) clause

/-- A record being read, up to a place where a field may begin. -/
inductive Recording : List Token → OpenRecord → Prop where
  | mk (opening : List Char) {lead constructor before : List Token}
      {current : OpenRecord} :
      Lead lead current.outer → Constructor constructor current.head →
      FieldsListed before current.fields →
      Recording (lead ++ constructor ++ ⟨.openBrace, opening⟩ :: before) current

/-- The open brackets with what stands to the left of each and what has been
read in it. -/
inductive Opened : List Token → List Frame → Prop where
  | nil : Opened [] []
  | tuple (opening : List Char) {outer lead before : List Token}
      {items : List Pattern} {clause : Clause} {frames : List Frame} :
      Opened outer frames → Lead lead clause → Listed before items →
      Opened (outer ++ lead ++ ⟨.patternOpenParen, opening⟩ :: before)
        (.tuple items clause :: frames)
  | list (opening : List Char) {outer lead before : List Token}
      {items : List Pattern} {clause : Clause} {frames : List Frame} :
      Opened outer frames → Lead lead clause → Listed before items →
      Opened (outer ++ lead ++ ⟨.patternOpenBracket, opening⟩ :: before)
        (.list items clause :: frames)
  | field (sign : List Char) {outer record : List Token}
      {current : OpenRecord} {token : Token} {name : String}
      {frames : List Frame} :
      Opened outer frames → Recording record current → FieldName token name →
      Opened (outer ++ record ++ [token, ⟨.equals, sign⟩])
        (.field current name :: frames)

/-- The tokens that may have led to a state. -/
inductive Justified : List Token → State → Prop where
  | start {outer lead : List Token} {clause : Clause} {frames : List Frame} :
      Opened outer frames → Lead lead clause →
      Justified (outer ++ lead) (.pattern .start clause frames)
  | opened {outer : List Token} {frames : List Frame} :
      Opened outer frames → Justified outer (.pattern .opened .empty frames)
  | var (lexeme : List Char) {outer lead : List Token} {clause : Clause}
      {frames : List Frame} :
      Opened outer frames → Lead lead clause →
      Justified (outer ++ lead ++ [⟨.variableWord, lexeme⟩])
        (.pattern (.var (wordName lexeme)) clause frames)
  | pieces {outer lead tokens : List Token} {names : List String}
      {clause : Clause} {frames : List Frame} :
      Opened outer frames → Lead lead clause → Pieces tokens names.reverse →
      Justified (outer ++ lead ++ tokens)
        (.pattern (.pieces names) clause frames)
  | piece (dot : List Char) {outer lead tokens : List Token}
      {names : List String} {clause : Clause} {frames : List Frame} :
      Opened outer frames → Lead lead clause → Pieces tokens names.reverse →
      Justified (outer ++ lead ++ tokens ++ [⟨.dot, dot⟩])
        (.pattern (.piece names) clause frames)
  | after {outer lead tokens : List Token} {part : Pattern} {clause : Clause}
      {frames : List Frame} :
      Opened outer frames → Lead lead clause → Part tokens part →
      Justified (outer ++ lead ++ tokens) (.pattern (.after part) clause frames)
  | firstField {outer record : List Token} {current : OpenRecord}
      {frames : List Frame} :
      Opened outer frames → Recording record current → current.fields = [] →
      Justified (outer ++ record) (.record .opened current frames)
  | nextField {outer record : List Token} {current : OpenRecord}
      {frames : List Frame} :
      Opened outer frames → Recording record current →
      Justified (outer ++ record) (.record .start current frames)
  | named {outer record : List Token} {current : OpenRecord} {token : Token}
      {name : String} {frames : List Frame} :
      Opened outer frames → Recording record current → FieldName token name →
      Justified (outer ++ record ++ [token])
        (.record (.named name) current frames)
  | wildcard (dots : List Char) {outer record : List Token}
      {current : OpenRecord} {frames : List Frame} :
      Opened outer frames → Recording record current →
      Justified (outer ++ record ++ [⟨.wildcard, dots⟩])
        (.record .wildcard current frames)

theorem Lead.empty : Lead [] .empty := by
  have front : Lead ([] ++ []) .empty := .mk .none .nil
  exact front

theorem Lead.under {lead : List Token} {clause : Clause}
    (front : Lead lead clause) (lexeme sign : List Char) :
    Lead (lead ++ [⟨.variableWord, lexeme⟩, ⟨.asSign, sign⟩])
      (clause.under (wordName lexeme)) := by
  cases front with
  | mk head aliases =>
      rw [List.append_assoc]
      exact .mk head (.cons lexeme sign aliases)

theorem Lead.headed {tokens : List Token} {head : QualifiedName}
    (constructor : Constructor tokens head) : Lead tokens (.headed head) := by
  have front : Lead (tokens ++ [] ++ []) (.headed head) :=
    .mk (.applied constructor .nil) .nil
  simpa using front

theorem Lead.part {lead tokens : List Token} {clause : Clause} {part : Pattern}
    (front : Lead lead clause) (last : Part tokens part) :
    ∃ head aliases, lead = head ++ aliases ∧ Head head clause.head ∧
      Part (aliases ++ tokens) (clause.named part) := by
  cases front with
  | mk head aliases => exact ⟨_, _, rfl, head, aliases.part last⟩

theorem Lead.push {lead tokens : List Token} {clause : Clause} {part : Pattern}
    {applied : QualifiedName × List Pattern} (front : Lead lead clause)
    (last : Part tokens part) (isApplied : clause.head = some applied) :
    Lead (lead ++ tokens) (clause.push part) := by
  obtain ⟨head, aliases, rfl, before, argument⟩ := front.part last
  rw [isApplied] at before
  cases before with
  | @applied first rest _ _ constructor passed =>
      have next : Head (first ++ (rest ++ (aliases ++ tokens)))
          (clause.push part).head := by
        rw [Clause.push, isApplied]
        exact .applied constructor (.cons passed argument)
      have result : Lead _ (clause.push part) := .mk next .nil
      simpa using result

theorem Lead.close {lead tokens : List Token} {clause : Clause} {part : Pattern}
    (front : Lead lead clause) (last : Part tokens part) :
    Whole (lead ++ tokens) (clause.close part) := by
  obtain ⟨head, aliases, rfl, before, argument⟩ := front.part last
  have whole := before.whole argument
  rw [List.append_assoc]
  unfold Clause.close
  cases headEq : clause.head <;> simpa [headEq] using whole

theorem constructor_of_pieces {tokens : List Token} {names : List String}
    (pieces : Pieces tokens names.reverse) :
    Constructor tokens (constructorName names) := by
  simpa using Constructor.pieces pieces

namespace Justified

variable {outer lead record tokens : List Token} {clause : Clause}
  {frames : List Frame} {part : Pattern} {current : OpenRecord}
  {terminal : Terminal} {next : List Char → State}

theorem of_part (brackets : Opened outer frames) (front : Lead lead clause)
    (member : (terminal, next) ∈ State.parts clause frames)
    (lexeme : List Char) :
    Justified (outer ++ lead ++ [⟨terminal, lexeme⟩]) (next lexeme) := by
  simp only [State.parts, List.mem_cons, Prod.mk.injEq, List.not_mem_nil,
    or_false] at member
  rcases member with
    ⟨rfl, rfl⟩ | ⟨rfl, rfl⟩ | ⟨rfl, rfl⟩ | ⟨rfl, rfl⟩ | ⟨rfl, rfl⟩
  · exact .var lexeme brackets front
  · exact .pieces brackets front (.one (.word lexeme))
  · exact .pieces brackets front (.one (.operator lexeme))
  · exact .opened (.tuple lexeme brackets front .nil)
  · exact .opened (.list lexeme brackets front .nil)

theorem of_emptyEnd (brackets : Opened outer frames)
    (member : (terminal, next) ∈ State.emptyEnd frames) (lexeme : List Char) :
    Justified (outer ++ [⟨terminal, lexeme⟩]) (next lexeme) := by
  cases brackets with
  | nil => simp [State.emptyEnd] at member
  | tuple opening brackets front listed =>
      cases listed with
      | nil =>
          simp only [State.emptyEnd, List.mem_singleton,
            Prod.mk.injEq] at member
          obtain ⟨rfl, rfl⟩ := member
          simpa using Justified.after brackets front
            (.emptyTuple opening lexeme)
      | cons => simp [State.emptyEnd] at member
  | list opening brackets front listed =>
      cases listed with
      | nil =>
          simp only [State.emptyEnd, List.mem_singleton,
            Prod.mk.injEq] at member
          obtain ⟨rfl, rfl⟩ := member
          simpa using Justified.after brackets front
            (.emptyList opening lexeme)
      | cons => simp [State.emptyEnd] at member
  | field => simp [State.emptyEnd] at member

theorem of_fieldComma {field : String × Pattern}
    (brackets : Opened outer frames) (recording : Recording record current)
    (last : Field tokens field) (lexeme : List Char) :
    Justified (outer ++ record ++ tokens ++ [⟨.patternComma, lexeme⟩])
      (.record .start (current.push field.1 field.2) frames) := by
  cases recording with
  | mk opening front constructor listed =>
      have pushed : Recording _ (current.push field.1 field.2) :=
        .mk opening front constructor (.cons lexeme listed last)
      simpa using Justified.nextField brackets pushed

theorem of_fieldEnd {field : String × Pattern}
    (brackets : Opened outer frames) (recording : Recording record current)
    (last : Field tokens field) (lexeme : List Char) :
    Justified (outer ++ record ++ tokens ++ [⟨.closeBrace, lexeme⟩])
      (.pattern (.after ((current.push field.1 field.2).close false))
        current.outer frames) := by
  cases recording with
  | mk opening front constructor listed =>
      simpa [OpenRecord.close, OpenRecord.push] using
        Justified.after brackets front
          (listed.record constructor last opening lexeme)

theorem of_itemEnd {item : Pattern} (brackets : Opened outer frames)
    (whole : Whole tokens item)
    (member : (terminal, next) ∈ State.itemEnds item frames)
    (lexeme : List Char) :
    Justified (outer ++ tokens ++ [⟨terminal, lexeme⟩]) (next lexeme) := by
  cases brackets with
  | nil => simp [State.itemEnds] at member
  | tuple opening brackets front listed =>
      simp only [State.itemEnds, List.mem_cons, Prod.mk.injEq,
        List.not_mem_nil, or_false] at member
      rcases member with ⟨rfl, rfl⟩ | ⟨rfl, rfl⟩
      · simpa using Justified.start
          (.tuple opening brackets front (.cons lexeme listed whole)) .empty
      · simpa using Justified.after brackets front
          (listed.tuplePart whole opening lexeme)
  | list opening brackets front listed =>
      simp only [State.itemEnds, List.mem_cons, Prod.mk.injEq,
        List.not_mem_nil, or_false] at member
      rcases member with ⟨rfl, rfl⟩ | ⟨rfl, rfl⟩
      · simpa using Justified.start
          (.list opening brackets front (.cons lexeme listed whole)) .empty
      · simpa using Justified.after brackets front
          (listed.listPart whole opening lexeme)
  | field sign brackets recording name =>
      simp only [State.itemEnds, List.mem_cons, Prod.mk.injEq,
        List.not_mem_nil, or_false] at member
      rcases member with ⟨rfl, rfl⟩ | ⟨rfl, rfl⟩
      · simpa using of_fieldComma brackets recording
          (.bound sign name whole) lexeme
      · simpa using of_fieldEnd brackets recording
          (.bound sign name whole) lexeme

theorem of_continuation (brackets : Opened outer frames)
    (front : Lead lead clause) (last : Part tokens part)
    (member : (terminal, next) ∈ State.continuations part clause frames)
    (lexeme : List Char) :
    Justified (outer ++ lead ++ tokens ++ [⟨terminal, lexeme⟩])
      (next lexeme) := by
  rcases List.mem_append.mp member with argument | ending
  · cases headEq : clause.head with
    | none => simp [State.arguments, headEq] at argument
    | some applied =>
        simp only [State.arguments, headEq] at argument
        simpa using of_part brackets (front.push last headEq) argument lexeme
  · simpa using of_itemEnd brackets (front.close last) ending lexeme

theorem of_firstArgument {head : QualifiedName} (brackets : Opened outer frames)
    (front : Lead lead clause) (constructor : Constructor tokens head)
    (member : (terminal, next) ∈ State.firstArguments head clause frames)
    (lexeme : List Char) :
    Justified (outer ++ lead ++ tokens ++ [⟨terminal, lexeme⟩])
      (next lexeme) := by
  unfold State.firstArguments at member
  split at member
  · cases front with
    | mk before aliases =>
        cases before with
        | none =>
            cases aliases with
            | nil =>
                simpa using of_part brackets (.headed constructor) member
                  lexeme
  · simp at member

theorem of_fieldName (brackets : Opened outer frames)
    (recording : Recording record current)
    (member : (terminal, next) ∈ State.fieldNames current frames)
    (lexeme : List Char) :
    Justified (outer ++ record ++ [⟨terminal, lexeme⟩]) (next lexeme) := by
  simp only [State.fieldNames, List.mem_cons, Prod.mk.injEq,
    List.not_mem_nil, or_false] at member
  rcases member with ⟨rfl, rfl⟩ | ⟨rfl, rfl⟩ | ⟨rfl, rfl⟩ | ⟨rfl, rfl⟩
  · exact .named brackets recording (.variableWord lexeme)
  · exact .named brackets recording (.piece (.word lexeme))
  · exact .named brackets recording (.piece (.operator lexeme))
  · exact .wildcard lexeme brackets recording

theorem of_pieces {names : List String} (brackets : Opened outer frames)
    (front : Lead lead clause) (pieces : Pieces tokens names.reverse)
    (member : (terminal, next) ∈
      State.moves (.pattern (.pieces names) clause frames))
    (lexeme : List Char) :
    Justified (outer ++ lead ++ tokens ++ [⟨terminal, lexeme⟩])
      (next lexeme) := by
  have constructor := constructor_of_pieces pieces
  simp only [State.moves, List.mem_cons, List.mem_append,
    Prod.mk.injEq] at member
  rcases member with ⟨rfl, rfl⟩ | ⟨rfl, rfl⟩ | argument | continuation
  · exact .piece lexeme brackets front pieces
  · have recording : Recording _ ⟨constructorName names, [], clause⟩ :=
      .mk lexeme front constructor .nil
    simpa using Justified.firstField brackets recording rfl
  · exact of_firstArgument brackets front constructor argument lexeme
  · exact of_continuation brackets front (.bare constructor) continuation
      lexeme

theorem of_named {token : Token} {name : String}
    (brackets : Opened outer frames) (recording : Recording record current)
    (isName : FieldName token name)
    (member : (terminal, next) ∈
      State.moves (.record (.named name) current frames))
    (lexeme : List Char) :
    Justified (outer ++ record ++ [token] ++ [⟨terminal, lexeme⟩])
      (next lexeme) := by
  simp only [State.moves, State.recordEnd, List.mem_cons, Prod.mk.injEq,
    List.not_mem_nil, or_false] at member
  rcases member with ⟨rfl, rfl⟩ | ⟨rfl, rfl⟩ | ⟨rfl, rfl⟩
  · simpa using Justified.start (.field lexeme brackets recording isName)
      .empty
  · exact of_fieldComma brackets recording (.punned isName) lexeme
  · exact of_fieldEnd brackets recording (.punned isName) lexeme

/-- Every move keeps the tokens and the state in step. -/
theorem step {read : List Token} {state : State}
    (justified : Justified read state)
    (member : (terminal, next) ∈ state.moves) (lexeme : List Char) :
    Justified (read ++ [⟨terminal, lexeme⟩]) (next lexeme) := by
  cases justified with
  | start brackets front => exact of_part brackets front member lexeme
  | opened brackets =>
      rcases List.mem_append.mp member with part | ending
      · simpa using of_part brackets .empty part lexeme
      · exact of_emptyEnd brackets ending lexeme
  | var word brackets front =>
      rcases List.mem_cons.mp member with sign | continuation
      · cases sign
        simpa using Justified.start brackets (front.under word lexeme)
      · exact of_continuation brackets front (.var word) continuation lexeme
  | pieces brackets front pieces =>
      exact of_pieces brackets front pieces member lexeme
  | piece dot brackets front pieces =>
      simp only [State.moves, List.mem_cons, Prod.mk.injEq,
        List.not_mem_nil, or_false] at member
      rcases member with ⟨rfl, rfl⟩ | ⟨rfl, rfl⟩
      · have longer := pieces.snoc dot (.word lexeme)
        rw [← List.reverse_cons] at longer
        simpa using Justified.pieces brackets front longer
      · have longer := pieces.snoc dot (.operator lexeme)
        rw [← List.reverse_cons] at longer
        simpa using Justified.pieces brackets front longer
  | after brackets front last =>
      exact of_continuation brackets front last member lexeme
  | firstField brackets recording none =>
      rcases List.mem_append.mp member with name | ending
      · exact of_fieldName brackets recording name lexeme
      · simp only [State.recordEnd, List.mem_singleton,
          Prod.mk.injEq] at ending
        obtain ⟨rfl, rfl⟩ := ending
        cases recording with
        | mk opening front constructor listed =>
            rw [none] at listed
            cases listed with
            | nil =>
                simpa [OpenRecord.close, none] using
                  Justified.after brackets front
                    (.emptyRecord opening lexeme constructor)
  | nextField brackets recording =>
      exact of_fieldName brackets recording member lexeme
  | named brackets recording isName =>
      exact of_named brackets recording isName member lexeme
  | wildcard dots brackets recording =>
      simp only [State.moves, State.recordEnd, List.mem_singleton,
        Prod.mk.injEq] at member
      obtain ⟨rfl, rfl⟩ := member
      cases recording with
      | mk opening front constructor listed =>
          simpa [OpenRecord.close] using Justified.after brackets front
            (listed.openRecord constructor opening dots lexeme)

end Justified

/-- Where a path from the start may end, its tokens are a pattern. -/
theorem whole_of_path {tokens : List Token} {final : State} {value : Pattern}
    (path : language.Path language.start tokens final)
    (finished : language.value? final = some value) : Whole tokens value := by
  have initial : Justified [] language.start := .start .nil .empty
  have justified := path.preserves Justified
    (fun _ _ _ _ lexeme held member => Justified.step held member lexeme)
    [] initial
  rw [List.nil_append] at justified
  cases justified with
  | var lexeme brackets front =>
      cases brackets <;> cases finished
      exact front.close (.var lexeme)
  | pieces brackets front pieces =>
      cases brackets <;> cases finished
      exact front.close (.bare (constructor_of_pieces pieces))
  | after brackets front last =>
      cases brackets <;> cases finished
      exact front.close last
  | start => cases finished
  | opened => cases finished
  | piece => cases finished
  | firstField => cases finished
  | nextField => cases finished
  | named => cases finished
  | wildcard => cases finished

end TemplateSyntax.Pattern
