import TemplateSyntax.Proofs.Pattern.Soundness
import TemplateSyntax.Proofs.Reading.Height

/-!
# Every pattern can be read

A derivation of the pattern grammar is a recipe for a path, as for expressions,
and it tells how deep the path goes.  A part may end in several states, because
a variable may turn out to be an alias and a constructor may go on; `Behind`
says what these states have in common.  With `whole_of_path` the reader
recognises the grammar (`language_recognises`).
-/

namespace TemplateSyntax.Pattern

open Grammar

abbrev Path : State → List Token → State → Prop :=
  Language.Path language

/-- All the moves may be made in the state. -/
abbrev Offers : State → Moves State → Prop :=
  Language.Offers language

/-- The tokens lead from one state to another, and the deepest of all places
along them, the last included, lies that deep. -/
def Climbs (state : State) (tokens : List Token) (final : State)
    (height : Nat) : Prop :=
  language.Climbs state tokens final (height + 1)

namespace Climbs

variable {state middle final : State} {tokens front back : List Token}
  {height height' total : Nat}

theorem path (climbs : Climbs state tokens final height) :
    Path state tokens final :=
  Language.Climbs.path climbs

theorem nil (state : State) : Climbs state [] state state.depth :=
  Language.Climbs.nil state

theorem last_le (climbs : Climbs state tokens final height) :
    final.depth ≤ height :=
  Nat.le_of_succ_le_succ (Language.Climbs.last_le climbs)

theorem take {terminal : Terminal} {next : List Char → State}
    {offered : Moves State} (offers : Offers state offered)
    (lexeme : List Char) (member : (terminal, next) ∈ offered)
    (later : Climbs (next lexeme) tokens final height)
    (bound : max state.depth height = total) :
    Climbs state (⟨terminal, lexeme⟩ :: tokens) final total := by
  have whole := Language.Climbs.cons lexeme (offers _ member) later
  have depth : max (language.depth state []) (height + 1) = total + 1 := by
    rw [← bound]
    exact Nat.add_max_add_right _ _ _
  rwa [depth] at whole

theorem append (first : Climbs state front middle height)
    (second : Climbs middle back final height')
    (bound : max height height' = total) :
    Climbs state (front ++ back) final total := by
  have whole := Language.Climbs.append first second
  rwa [Nat.add_max_add_right, bound] at whole

theorem andTake {terminal : Terminal} {next : List Char → State}
    {offered : Moves State} (first : Climbs state front middle height)
    (offers : Offers middle offered) (lexeme : List Char)
    (member : (terminal, next) ∈ offered)
    (later : Climbs (next lexeme) back final height')
    (bound : max height height' = total) :
    Climbs state (front ++ ⟨terminal, lexeme⟩ :: back) final total := by
  have last := first.last_le
  refine first.append (later.take offers lexeme member rfl) ?_
  omega

end Climbs

/-! ### The depth of places -/

/-- How deep the clause of a place lies. -/
def clauseDepth (clause : Clause) (frames : List Frame) : Nat :=
  State.framesDepth frames + clause.depth

/-- How deep the places between the fields of a record lie. -/
def fieldDepth (current : OpenRecord) (frames : List Frame) : Nat :=
  State.framesDepth frames + current.outer.depth + 2

theorem clauseDepth_under (clause : Clause) (name : String)
    (frames : List Frame) :
    clauseDepth (clause.under name) frames = clauseDepth clause frames + 1 := by
  simp only [clauseDepth, Clause.under, Clause.depth, List.length_cons]
  omega

theorem framesDepth_tuple (items : List Pattern) (clause : Clause)
    (frames : List Frame) :
    State.framesDepth (.tuple items clause :: frames) =
      clauseDepth clause frames + 1 := by
  simp only [State.framesDepth, State.frameDepth, List.foldr_cons, clauseDepth]
  omega

theorem framesDepth_list (items : List Pattern) (clause : Clause)
    (frames : List Frame) :
    State.framesDepth (.list items clause :: frames) =
      clauseDepth clause frames + 1 := by
  simp only [State.framesDepth, State.frameDepth, List.foldr_cons, clauseDepth]
  omega

theorem framesDepth_field (current : OpenRecord) (name : String)
    (frames : List Frame) :
    State.framesDepth (.field current name :: frames) =
      fieldDepth current frames := by
  simp only [State.framesDepth, State.frameDepth, List.foldr_cons, fieldDepth]
  omega

/-- A pattern has been read: the bracket around it may go on or close. -/
structure Ended (value : Pattern) (frames : List Frame) (final : State) :
    Prop where
  offers : Offers final (State.itemEnds value frames)
  value : frames = [] → final.value? = some value

/-- A part has been read: what may follow it is on offer. -/
structure Behind (part : Pattern) (clause : Clause) (frames : List Frame)
    (final : State) : Prop where
  offers : Offers final (State.continuations part clause frames)
  value : frames = [] → final.value? = some (clause.close part)

/-- A field has been read: another may follow, or the record ends. -/
structure FieldEnded (current : OpenRecord) (frames : List Frame)
    (final : State) : Prop where
  comma : Offers final
    [(.patternComma, fun _ => .record .start current frames)]
  close : Offers final (State.recordEnd current false frames)

/-- Tokens that are read as a part wherever parts are offered, with so many more
nodes of the syntax tree in one another. -/
def ReadsPart (tokens : List Token) (value : Pattern) (height : Nat) : Prop :=
  ∀ (state : State) (clause : Clause) (frames : List Frame),
    Offers state (State.parts clause frames) →
    ∃ final, Climbs state tokens final
        (max state.depth (clauseDepth clause frames + height + 1)) ∧
      Behind value clause frames final

/-- Tokens that are read as a pattern of their own. -/
def ReadsWhole (tokens : List Token) (value : Pattern) (height : Nat) : Prop :=
  ∀ (state : State) (frames : List Frame),
    Offers state (State.parts .empty frames) →
    ∃ final, Climbs state tokens final
        (max state.depth (State.framesDepth frames + height + 1)) ∧
      Ended value frames final

/-- Tokens that are read as further arguments of a constructor. -/
def ReadsArguments (tokens : List Token) (values : List Pattern)
    (height : Nat) : Prop :=
  ∀ (state : State) (head : QualifiedName) (before : List Pattern)
    (frames : List Frame),
    Offers state (State.parts ⟨some (head, before), []⟩ frames) →
    ∃ final, Climbs state tokens final
        (max state.depth (State.framesDepth frames + 1 + height + 1)) ∧
      Ended (.construct head (before.reverse ++ values)) frames final

/-- Tokens that are read as items of a bracket, behind the items it has; the
last item is left unfinished. -/
def ReadsItems (tokens : List Token) (values : List Pattern) (height : Nat) :
    Prop :=
  ∀ (frame : List Pattern → Frame) (state : State) (before : List Pattern)
    (frames : List Frame) (depth : Nat),
    (∀ item items, (Terminal.patternComma, fun _ =>
        State.pattern .start .empty (frame (item :: items) :: frames)) ∈
      State.itemEnds item (frame items :: frames)) →
    (∀ items, State.framesDepth (frame items :: frames) = depth) →
    Offers state (State.parts .empty (frame before :: frames)) →
    ∃ last items final,
      Climbs state tokens final (max state.depth (depth + height + 1)) ∧
      Ended last (frame (items ++ before) :: frames) final ∧
      items.reverse ++ [last] = values

def ReadsField (tokens : List Token) (field : String × Pattern)
    (height : Nat) : Prop :=
  ∀ (state : State) (current : OpenRecord) (frames : List Frame),
    Offers state (State.fieldNames current frames) →
    ∃ final, Climbs state tokens final
        (max state.depth (fieldDepth current frames + height)) ∧
      FieldEnded (current.push field.1 field.2) frames final

/-- Tokens that are read as the remaining fields of a record. -/
def ReadsFields (tokens : List Token) (fields : List (String × Pattern))
    (wildcard : Bool) (height : Nat) : Prop :=
  ∀ (state : State) (current : OpenRecord) (frames : List Frame),
    Offers state (State.fieldNames current frames) →
    ∃ final, Climbs state tokens final
        (max state.depth (fieldDepth current frames + height)) ∧
      Offers final (State.recordEnd
        { current with fields := fields.reverse ++ current.fields } wildcard
        frames)

theorem behind_after (part : Pattern) (clause : Clause)
    (frames : List Frame) :
    Behind part clause frames (.pattern (.after part) clause frames) where
  offers := .refl _
  value := by
    rintro rfl
    rfl

/-! ### Names of constructors -/

/-- Every piece of a constructor's name may be read, behind the pieces that
were read before it. -/
def OffersPieces (state : State) (before : List String) (clause : Clause)
    (frames : List Frame) : Prop :=
  ∀ token name, Piece token name →
    ∃ next, (token.terminal, next) ∈ state.moves ∧
      next token.lexeme = .pattern (.pieces (name :: before)) clause frames

theorem offersPieces_of_parts {state : State} {clause : Clause}
    {frames : List Frame} (offers : Offers state (State.parts clause frames)) :
    OffersPieces state [] clause frames := by
  rintro token name (lexeme | lexeme)
  · exact ⟨_, offers _ (List.mem_cons_of_mem _ List.mem_cons_self), rfl⟩
  · exact ⟨_, offers _ (List.mem_cons_of_mem _
      (List.mem_cons_of_mem _ List.mem_cons_self)), rfl⟩

theorem offersPieces_piece (before : List String) (clause : Clause)
    (frames : List Frame) :
    OffersPieces (.pattern (.piece before) clause frames) before clause
      frames := by
  rintro token name (lexeme | lexeme)
  · exact ⟨_, List.mem_cons_self, rfl⟩
  · exact ⟨_, List.mem_cons_of_mem _ List.mem_cons_self, rfl⟩

theorem climbs_of_pieces {tokens : List Token} {names : List String}
    (pieces : Pieces tokens names) {state : State} {before : List String}
    {clause : Clause} {frames : List Frame}
    (offers : OffersPieces state before clause frames) :
    Climbs state tokens
      (.pattern (.pieces (names.reverse ++ before)) clause frames)
      (max state.depth (clauseDepth clause frames + 2)) := by
  induction pieces generalizing state before with
  | @one token name first =>
      obtain ⟨next, member, reached⟩ := offers _ _ first
      have ended := Climbs.nil (next token.lexeme)
      have depth : (next token.lexeme).depth =
          clauseDepth clause frames + 2 := by
        rw [reached]
        rfl
      rw [depth, reached] at ended
      rw [← reached] at ended
      have climbs := ended.take (.refl _) token.lexeme member rfl
      rwa [reached] at climbs
  | @more dot token name tokens names first _ ih =>
      obtain ⟨next, member, reached⟩ := offers _ _ first
      have later := ih (offersPieces_piece (name :: before) clause frames)
      have there : (State.pattern (.piece (name :: before)) clause
          frames).depth = clauseDepth clause frames + 2 := rfl
      have here : (next token.lexeme).depth =
          clauseDepth clause frames + 2 := by
        rw [reached]
        rfl
      have climbs : Climbs (next token.lexeme) (⟨.dot, dot⟩ :: tokens)
          (.pattern (.pieces (names.reverse ++ name :: before)) clause
            frames) (clauseDepth clause frames + 2) := by
        rw [there, Nat.max_self] at later
        rw [reached] at here ⊢
        exact later.take (.refl _) dot List.mem_cons_self (by omega)
      have whole := climbs.take (.refl _) token.lexeme member rfl
      simpa using whole

theorem climbs_of_constructor {tokens : List Token} {head : QualifiedName}
    (constructor : Constructor tokens head) {state : State} {clause : Clause}
    {frames : List Frame} (offers : Offers state (State.parts clause frames)) :
    ∃ names, constructorName names = head ∧
      Climbs state tokens (.pattern (.pieces names) clause frames)
        (max state.depth (clauseDepth clause frames + 2)) := by
  cases constructor with
  | @pieces names pieces =>
      have climbs := climbs_of_pieces pieces (offersPieces_of_parts offers)
      rw [List.append_nil] at climbs
      exact ⟨names.reverse, rfl, climbs⟩

/-! ### Parts -/

theorem ReadsPart.var (lexeme : List Char) :
    ReadsPart [⟨.variableWord, lexeme⟩] (.var (wordName lexeme)) 0 := by
  intro state clause frames offers
  refine ⟨.pattern (.var (wordName lexeme)) clause frames,
    (Climbs.nil _).take offers lexeme List.mem_cons_self rfl, ?_, ?_⟩
  · intro move member
    exact List.mem_cons_of_mem _ member
  · rintro rfl
    rfl

theorem ReadsPart.named (lexeme sign : List Char) {tokens : List Token}
    {value : Pattern} {height : Nat} (reads : ReadsPart tokens value height) :
    ReadsPart (⟨.variableWord, lexeme⟩ :: ⟨.asSign, sign⟩ :: tokens)
      (.named (wordName lexeme) value) (height + 1) := by
  intro state clause frames offers
  obtain ⟨final, inside, behind⟩ :=
    reads (.pattern .start (clause.under (wordName lexeme)) frames)
      (clause.under (wordName lexeme)) frames (.refl _)
  have start : (State.pattern .start (clause.under (wordName lexeme))
      frames).depth = clauseDepth (clause.under (wordName lexeme)) frames + 1 :=
    rfl
  have word : (State.pattern (.var (wordName lexeme)) clause frames).depth =
      clauseDepth clause frames + 1 := rfl
  have under := clauseDepth_under clause (wordName lexeme) frames
  have signed : Climbs (.pattern (.var (wordName lexeme)) clause frames)
      (⟨.asSign, sign⟩ :: tokens) _ _ :=
    inside.take (.refl _) sign List.mem_cons_self rfl
  have whole : Climbs state _ _
      (max state.depth (clauseDepth clause frames + (height + 1) + 1)) :=
    signed.take offers lexeme List.mem_cons_self (by omega)
  -- the alias is part of the clause before, and of the part afterwards
  exact ⟨final, whole, ⟨behind.offers, behind.value⟩⟩

theorem ReadsPart.bare {tokens : List Token} {head : QualifiedName}
    (constructor : Constructor tokens head) :
    ReadsPart tokens (.construct head []) 1 := by
  intro state clause frames offers
  obtain ⟨names, rfl, climbs⟩ := climbs_of_constructor constructor offers
  refine ⟨_, climbs, ?_, ?_⟩
  · intro move member
    exact List.mem_cons_of_mem _ (List.mem_cons_of_mem _
      (List.mem_append_right _ member))
  · rintro rfl
    rfl

/-- A part between brackets goes as deep as what stands between them. -/
theorem climbs_of_bracket {state final : State} {clause : Clause}
    {frames : List Frame} {frame : Frame} {opening closing : Terminal}
    {inside : List Token} {part : Pattern} {total : Nat} (height : Nat)
    (offers : Offers state (State.parts clause frames))
    (opens : (opening, fun _ =>
      State.pattern .opened .empty (frame :: frames)) ∈
      State.parts clause frames)
    (climbs : Climbs (.pattern .opened .empty (frame :: frames)) inside final
      total)
    (bound : total = clauseDepth clause frames + height + 1)
    (closes : (closing, fun _ =>
      State.pattern (.after part) clause frames) ∈ language.moves final)
    (lexeme lexeme' : List Char) :
    Climbs state (⟨opening, lexeme⟩ :: inside ++ [⟨closing, lexeme'⟩])
      (.pattern (.after part) clause frames)
      (max state.depth (clauseDepth clause frames + height + 1)) := by
  have after : (State.pattern (.after part) clause frames).depth =
      clauseDepth clause frames + 1 := rfl
  have closed : Climbs _ _ _ total :=
    climbs.andTake (.refl _) lexeme' closes (Climbs.nil _) (by omega)
  exact closed.take offers lexeme opens (by omega)

theorem depth_opened (frames : List Frame) :
    (State.pattern .opened .empty frames).depth = State.framesDepth frames :=
  rfl

theorem ReadsPart.emptyTuple (opening closing : List Char) :
    ReadsPart [⟨.patternOpenParen, opening⟩, ⟨.patternCloseParen, closing⟩]
      (.tuple []) 0 := by
  intro state clause frames offers
  have opened : (Terminal.patternOpenParen, fun _ =>
      State.pattern .opened .empty (.tuple [] clause :: frames)) ∈
      State.parts clause frames := by simp [State.parts]
  have close : (Terminal.patternCloseParen, fun _ =>
      State.pattern (.after (.tuple [])) clause frames) ∈
      State.moves (.pattern .opened .empty (.tuple [] clause :: frames)) := by
    simp [State.moves, State.emptyEnd]
  exact ⟨_, climbs_of_bracket 0 offers opened (Climbs.nil _)
    (framesDepth_tuple _ _ _) close opening closing, behind_after _ _ _⟩

theorem ReadsPart.emptyList (opening closing : List Char) :
    ReadsPart
      [⟨.patternOpenBracket, opening⟩, ⟨.patternCloseBracket, closing⟩]
      (.list []) 0 := by
  intro state clause frames offers
  have opened : (Terminal.patternOpenBracket, fun _ =>
      State.pattern .opened .empty (.list [] clause :: frames)) ∈
      State.parts clause frames := by simp [State.parts]
  have close : (Terminal.patternCloseBracket, fun _ =>
      State.pattern (.after (.list [])) clause frames) ∈
      State.moves (.pattern .opened .empty (.list [] clause :: frames)) := by
    simp [State.moves, State.emptyEnd]
  exact ⟨_, climbs_of_bracket 0 offers opened (Climbs.nil _)
    (framesDepth_list _ _ _) close opening closing, behind_after _ _ _⟩

theorem ReadsPart.group (opening closing : List Char) {tokens : List Token}
    {value : Pattern} {height : Nat} (reads : ReadsWhole tokens value height) :
    ReadsPart
      (⟨.patternOpenParen, opening⟩ :: tokens ++
        [⟨.patternCloseParen, closing⟩])
      value (height + 1) := by
  intro state clause frames offers
  obtain ⟨final, inside, ended⟩ :=
    reads (.pattern .opened .empty (.tuple [] clause :: frames))
      (.tuple [] clause :: frames) (Language.Offers.refl _).left
  have opened : (Terminal.patternOpenParen, fun _ =>
      State.pattern .opened .empty (.tuple [] clause :: frames)) ∈
      State.parts clause frames := by simp [State.parts]
  have close : (Terminal.patternCloseParen, fun _ =>
      State.pattern (.after value) clause frames) ∈
      State.itemEnds value (.tuple [] clause :: frames) := by
    simp [State.itemEnds, closeTuple]
  have depth := depth_opened (.tuple [] clause :: frames)
  have around := framesDepth_tuple [] clause frames
  exact ⟨_, climbs_of_bracket (height + 1) offers opened inside (by omega)
    (ended.offers _ close) opening closing, behind_after _ _ _⟩

theorem ReadsPart.tuple (opening comma closing : List Char)
    {first rest : List Token} {head : Pattern} {tail : List Pattern}
    {height height' : Nat} (reads : ReadsWhole first head height)
    (later : ReadsItems rest tail height') :
    ReadsPart
      (⟨.patternOpenParen, opening⟩ :: first ++ ⟨.patternComma, comma⟩ ::
        rest ++ [⟨.patternCloseParen, closing⟩])
      (.tuple (head :: tail)) (max height height' + 1) := by
  intro state clause frames offers
  obtain ⟨middle, front, ended⟩ :=
    reads (.pattern .opened .empty (.tuple [] clause :: frames))
      (.tuple [] clause :: frames) (Language.Offers.refl _).left
  obtain ⟨last, items, final, back, finished, rfl⟩ :=
    later (.tuple · clause)
      (.pattern .start .empty (.tuple [head] clause :: frames)) [head] frames
      (clauseDepth clause frames + 1) (by simp [State.itemEnds])
      (fun _ => framesDepth_tuple _ _ _) (.refl _)
  have opened : (Terminal.patternOpenParen, fun _ =>
      State.pattern .opened .empty (.tuple [] clause :: frames)) ∈
      State.parts clause frames := by simp [State.parts]
  have separator : (Terminal.patternComma, fun _ =>
      State.pattern .start .empty (.tuple [head] clause :: frames)) ∈
      State.itemEnds head (.tuple [] clause :: frames) := List.mem_cons_self
  have close : (Terminal.patternCloseParen, fun _ =>
      State.pattern (.after (.tuple (head :: (items.reverse ++ [last]))))
        clause frames) ∈
      State.itemEnds last (.tuple (items ++ [head]) clause :: frames) := by
    cases items <;> simp [State.itemEnds, closeTuple]
  have depth := depth_opened (.tuple [] clause :: frames)
  have start : (State.pattern .start .empty
      (.tuple [head] clause :: frames)).depth =
      State.framesDepth (.tuple [head] clause :: frames) + 1 := rfl
  rw [framesDepth_tuple] at front depth start
  have inside := front.andTake ended.offers comma separator back rfl
  have whole : Climbs state _ _ (max state.depth
      (clauseDepth clause frames + (max height height' + 1) + 1)) :=
    climbs_of_bracket _ offers opened inside (by omega)
      (finished.offers _ close) opening closing
  exact ⟨_, by simpa using whole, behind_after _ _ _⟩

theorem ReadsPart.list (opening closing : List Char) {tokens : List Token}
    {values : List Pattern} {height : Nat}
    (reads : ReadsItems tokens values height) :
    ReadsPart
      (⟨.patternOpenBracket, opening⟩ :: tokens ++
        [⟨.patternCloseBracket, closing⟩])
      (.list values) (height + 1) := by
  intro state clause frames offers
  obtain ⟨last, items, final, inside, ended, rfl⟩ :=
    reads (.list · clause)
      (.pattern .opened .empty (.list [] clause :: frames)) [] frames
      (clauseDepth clause frames + 1) (by simp [State.itemEnds])
      (fun _ => framesDepth_list _ _ _) (Language.Offers.refl _).left
  rw [List.append_nil] at ended
  have opened : (Terminal.patternOpenBracket, fun _ =>
      State.pattern .opened .empty (.list [] clause :: frames)) ∈
      State.parts clause frames := by simp [State.parts]
  have close : (Terminal.patternCloseBracket, fun _ =>
      State.pattern (.after (.list (items.reverse ++ [last]))) clause
        frames) ∈
      State.itemEnds last (.list items clause :: frames) := by
    simp [State.itemEnds]
  have depth := depth_opened (.list [] clause :: frames)
  have around := framesDepth_list [] clause frames
  exact ⟨_, climbs_of_bracket (height + 1) offers opened inside (by omega)
    (ended.offers _ close) opening closing, behind_after _ _ _⟩

/-! ### Records -/

theorem climbs_of_openBrace {tokens : List Token} {head : QualifiedName}
    (constructor : Constructor tokens head) (opening : List Char)
    {state : State} {clause : Clause} {frames : List Frame}
    (offers : Offers state (State.parts clause frames)) :
    Climbs state (tokens ++ [⟨.openBrace, opening⟩])
      (.record .opened ⟨head, [], clause⟩ frames)
      (max state.depth (clauseDepth clause frames + 2)) := by
  obtain ⟨names, rfl, climbs⟩ := climbs_of_constructor constructor offers
  have brace : (Terminal.openBrace, fun _ =>
      State.record .opened ⟨constructorName names, [], clause⟩ frames) ∈
      language.moves (.pattern (.pieces names) clause frames) :=
    List.mem_cons_of_mem _ List.mem_cons_self
  have opened : (State.record .opened ⟨constructorName names, [], clause⟩
      frames).depth = clauseDepth clause frames + 2 := rfl
  exact climbs.andTake (.refl _) opening brace (Climbs.nil _) (by omega)

theorem ReadsPart.emptyRecord (opening closing : List Char)
    {tokens : List Token} {head : QualifiedName}
    (constructor : Constructor tokens head) :
    ReadsPart
      (tokens ++ [⟨.openBrace, opening⟩, ⟨.closeBrace, closing⟩])
      (.record head [] false) 1 := by
  intro state clause frames offers
  have front := climbs_of_openBrace constructor opening offers
  have opened : (State.record .opened ⟨head, [], clause⟩ frames).depth =
      clauseDepth clause frames + 2 := rfl
  have after : (State.pattern (.after (.record head [] false)) clause
      frames).depth = clauseDepth clause frames + 1 := rfl
  have back : Climbs (.record .opened ⟨head, [], clause⟩ frames)
      [⟨.closeBrace, closing⟩]
      (.pattern (.after (.record head [] false)) clause frames)
      (clauseDepth clause frames + 2) :=
    (Climbs.nil (.pattern (.after (.record head [] false)) clause
      frames)).take (Language.Offers.refl _).right closing
      (List.mem_singleton_self _) (by omega)
  have whole : Climbs state _ _
      (max state.depth (clauseDepth clause frames + 1 + 1)) :=
    front.append back (by omega)
  exact ⟨_, by simpa using whole, behind_after _ _ _⟩

theorem ReadsPart.openRecord (opening dots closing : List Char)
    {tokens : List Token} {head : QualifiedName}
    (constructor : Constructor tokens head) :
    ReadsPart
      (tokens ++ [⟨.openBrace, opening⟩, ⟨.wildcard, dots⟩,
        ⟨.closeBrace, closing⟩])
      (.record head [] true) 1 := by
  intro state clause frames offers
  let current : OpenRecord := ⟨head, [], clause⟩
  have front := climbs_of_openBrace constructor opening offers
  have dot : (Terminal.wildcard, fun _ =>
      State.record .wildcard current frames) ∈
      State.moves (.record .opened current frames) := by
    simp [State.moves, State.fieldNames]
  have wild : (State.record .wildcard current frames).depth =
      clauseDepth clause frames + 2 := rfl
  have after : (State.pattern (.after (.record head [] true)) clause
      frames).depth = clauseDepth clause frames + 1 := rfl
  have back := Climbs.nil
    (.pattern (.after (.record head [] true)) clause frames)
  have closed : Climbs (.record .wildcard current frames)
      [⟨.closeBrace, closing⟩] _ _ :=
    back.take (.refl _) closing (List.mem_singleton_self _) rfl
  have whole : Climbs state _ _
      (max state.depth (clauseDepth clause frames + 1 + 1)) :=
    front.andTake (.refl _) dots dot closed (by omega)
  exact ⟨_, by simpa using whole, behind_after _ _ _⟩

theorem ReadsPart.record (opening closing : List Char)
    {first rest : List Token} {head : QualifiedName}
    {fields : List (String × Pattern)} {wildcard : Bool} {height : Nat}
    (constructor : Constructor first head)
    (reads : ReadsFields rest fields wildcard height) :
    ReadsPart
      (first ++ ⟨.openBrace, opening⟩ :: rest ++ [⟨.closeBrace, closing⟩])
      (.record head fields wildcard) (height + 1) := by
  intro state clause frames offers
  obtain ⟨final, inside, close⟩ :=
    reads (.record .opened ⟨head, [], clause⟩ frames) ⟨head, [], clause⟩ frames
      (Language.Offers.refl _).left
  have front := climbs_of_openBrace constructor opening offers
  have value : OpenRecord.close ⟨head, fields.reverse ++ [], clause⟩ wildcard =
      .record head fields wildcard := by
    simp [OpenRecord.close]
  rw [State.recordEnd, value] at close
  have opened : (State.record .opened ⟨head, [], clause⟩ frames).depth =
      clauseDepth clause frames + 2 := rfl
  have around : fieldDepth ⟨head, [], clause⟩ frames =
      clauseDepth clause frames + 2 := rfl
  have after : (State.pattern (.after (.record head fields wildcard)) clause
      frames).depth = clauseDepth clause frames + 1 := rfl
  have back := Climbs.nil
    (.pattern (.after (.record head fields wildcard)) clause frames)
  have closed : Climbs _ _ _ (clauseDepth clause frames + 2 + height) :=
    inside.andTake close closing (List.mem_singleton_self _) back (by omega)
  have whole : Climbs state _ _
      (max state.depth (clauseDepth clause frames + (height + 1) + 1)) :=
    front.append closed (by omega)
  exact ⟨_, by simpa using whole, behind_after _ _ _⟩

theorem mem_fieldNames {token : Token} {name : String}
    (isName : FieldName token name) (current : OpenRecord)
    (frames : List Frame) :
    ∃ next, (token.terminal, next) ∈ State.fieldNames current frames ∧
      next token.lexeme = .record (.named name) current frames := by
  rcases isName with lexeme | (lexeme | lexeme)
  · exact ⟨_, List.mem_cons_self, rfl⟩
  · exact ⟨_, List.mem_cons_of_mem _ List.mem_cons_self, rfl⟩
  · exact ⟨_, List.mem_cons_of_mem _ (List.mem_cons_of_mem _
      List.mem_cons_self), rfl⟩

theorem ReadsField.punned {token : Token} {name : String}
    (isName : FieldName token name) :
    ReadsField [token] (name, .var name) 0 := by
  intro state current frames offers
  obtain ⟨next, member, reached⟩ := mem_fieldNames isName current frames
  have named : (next token.lexeme).depth = fieldDepth current frames := by
    rw [reached]
    rfl
  refine ⟨_, (Climbs.nil _).take offers token.lexeme member (by omega), ?_⟩
  rw [reached]
  refine ⟨?_, (Language.Offers.refl _).tail.tail⟩
  intro move comma
  cases List.mem_singleton.mp comma
  exact List.mem_cons_of_mem _ List.mem_cons_self

theorem ReadsField.bound (sign : List Char) {token : Token}
    {tokens : List Token} {name : String} {value : Pattern} {height : Nat}
    (isName : FieldName token name) (reads : ReadsWhole tokens value height) :
    ReadsField (token :: ⟨.equals, sign⟩ :: tokens) (name, value)
      (height + 1) := by
  intro state current frames offers
  obtain ⟨next, member, reached⟩ := mem_fieldNames isName current frames
  obtain ⟨final, inside, ended⟩ :=
    reads (.pattern .start .empty (.field current name :: frames))
      (.field current name :: frames) (.refl _)
  have around := framesDepth_field current name frames
  have start : (State.pattern .start .empty
      (.field current name :: frames)).depth =
      State.framesDepth (.field current name :: frames) + 1 := rfl
  have named : (State.record (.named name) current frames).depth =
      fieldDepth current frames := rfl
  have equals : Climbs (next token.lexeme) (⟨.equals, sign⟩ :: tokens) final
      (fieldDepth current frames + (height + 1)) := by
    rw [reached]
    exact inside.take (.refl _) sign List.mem_cons_self (by omega)
  refine ⟨final, equals.take offers token.lexeme member rfl, ?_,
    ended.offers.tail⟩
  intro move comma
  cases List.mem_singleton.mp comma
  exact ended.offers _ List.mem_cons_self

theorem ReadsFields.one {tokens : List Token} {field : String × Pattern}
    {height : Nat} (reads : ReadsField tokens field height) :
    ReadsFields tokens [field] false height := by
  intro state current frames offers
  obtain ⟨final, climbs, ended⟩ := reads state current frames offers
  exact ⟨final, climbs, ended.close⟩

theorem ReadsFields.oneOpen (comma dots : List Char) {tokens : List Token}
    {field : String × Pattern} {height : Nat}
    (reads : ReadsField tokens field height) :
    ReadsFields (tokens ++ [⟨.patternComma, comma⟩, ⟨.wildcard, dots⟩]) [field]
      true height := by
  intro state current frames offers
  obtain ⟨final, climbs, ended⟩ := reads state current frames offers
  let longer := current.push field.1 field.2
  have dot : (Terminal.wildcard, fun _ =>
      State.record .wildcard longer frames) ∈
      language.moves (.record .start longer frames) := by
    simp [language, State.moves, State.fieldNames]
  have start : (State.record .start longer frames).depth =
      fieldDepth current frames := rfl
  have wild : (State.record .wildcard longer frames).depth =
      fieldDepth current frames := rfl
  have open_ : Climbs (.record .start longer frames) [⟨.wildcard, dots⟩]
      (.record .wildcard longer frames) _ :=
    (Climbs.nil _).take (.refl _) dots dot rfl
  exact ⟨.record .wildcard longer frames,
    climbs.andTake ended.comma comma (List.mem_singleton_self _) open_
      (by omega), .refl _⟩

theorem ReadsFields.more (comma : List Char) {first rest : List Token}
    {field : String × Pattern} {fields : List (String × Pattern)}
    {wildcard : Bool} {height height' : Nat}
    (reads : ReadsField first field height)
    (later : ReadsFields rest fields wildcard height') :
    ReadsFields (first ++ ⟨.patternComma, comma⟩ :: rest) (field :: fields)
      wildcard (max height height') := by
  intro state current frames offers
  obtain ⟨middle, front, ended⟩ := reads state current frames offers
  obtain ⟨final, back, close⟩ :=
    later (.record .start (current.push field.1 field.2) frames)
      (current.push field.1 field.2) frames (.refl _)
  have start : (State.record .start (current.push field.1 field.2)
      frames).depth = fieldDepth current frames := rfl
  have same : fieldDepth (current.push field.1 field.2) frames =
      fieldDepth current frames := rfl
  refine ⟨final, front.andTake ended.comma comma
    (List.mem_singleton_self _) back (by omega), ?_⟩
  simpa [OpenRecord.push] using close

/-! ### Patterns and items -/

theorem ReadsArguments.one {tokens : List Token} {value : Pattern}
    {height : Nat} (reads : ReadsPart tokens value height) :
    ReadsArguments tokens [value] height := by
  intro state head before frames offers
  obtain ⟨final, climbs, behind⟩ :=
    reads state ⟨some (head, before), []⟩ frames offers
  exact ⟨final, climbs, behind.offers.right, behind.value⟩

theorem ReadsArguments.more {first rest : List Token} {value : Pattern}
    {values : List Pattern} {height height' : Nat}
    (reads : ReadsPart first value height)
    (later : ReadsArguments rest values height') :
    ReadsArguments (first ++ rest) (value :: values) (max height height') := by
  intro state head before frames offers
  obtain ⟨middle, front, behind⟩ :=
    reads state ⟨some (head, before), []⟩ frames offers
  obtain ⟨final, back, ended⟩ :=
    later middle head (value :: before) frames behind.offers.left
  rw [List.reverse_cons, List.append_assoc] at ended
  have around : clauseDepth ⟨some (head, before), []⟩ frames =
      State.framesDepth frames + 1 := rfl
  have last := front.last_le
  exact ⟨final, front.append back (by omega), ended⟩

theorem ReadsWhole.part {tokens : List Token} {value : Pattern}
    {height : Nat} (reads : ReadsPart tokens value height) :
    ReadsWhole tokens value height := by
  intro state frames offers
  obtain ⟨final, climbs, behind⟩ := reads state .empty frames offers
  exact ⟨final, climbs, behind.offers.right, behind.value⟩

theorem ReadsWhole.application {first rest : List Token} {head : QualifiedName}
    {values : List Pattern} {height : Nat}
    (constructor : Constructor first head)
    (reads : ReadsArguments rest values height) :
    ReadsWhole (first ++ rest) (.construct head values) (height + 1) := by
  intro state frames offers
  obtain ⟨names, rfl, front⟩ := climbs_of_constructor constructor offers
  have arguments : Offers (.pattern (.pieces names) .empty frames)
      (State.parts (.headed (constructorName names)) frames) :=
    (Language.Offers.refl _).tail.tail.left
  obtain ⟨final, back, ended⟩ := reads _ _ _ _ arguments
  have named : (State.pattern (.pieces names) .empty frames).depth =
      State.framesDepth frames + 2 := rfl
  have around : clauseDepth .empty frames = State.framesDepth frames := rfl
  exact ⟨final, front.append back (by omega), ended⟩

theorem ReadsItems.one {tokens : List Token} {value : Pattern} {height : Nat}
    (reads : ReadsWhole tokens value height) :
    ReadsItems tokens [value] height := by
  intro frame state before frames depth _ around offers
  obtain ⟨final, climbs, ended⟩ := reads state _ offers
  rw [around] at climbs
  exact ⟨value, [], final, climbs, ended, rfl⟩

theorem ReadsItems.more (comma : List Char) {first rest : List Token}
    {value : Pattern} {values : List Pattern} {height height' : Nat}
    (reads : ReadsWhole first value height)
    (later : ReadsItems rest values height') :
    ReadsItems (first ++ ⟨.patternComma, comma⟩ :: rest)
      (value :: values) (max height height') := by
  intro frame state before frames depth separates around offers
  obtain ⟨middle, front, ended⟩ := reads state _ offers
  obtain ⟨last, items, final, back, finished, rfl⟩ :=
    later frame (.pattern .start .empty (frame (value :: before) :: frames))
      (value :: before) frames depth separates around (.refl _)
  have start : (State.pattern .start .empty
      (frame (value :: before) :: frames)).depth =
      State.framesDepth (frame (value :: before) :: frames) + 1 := rfl
  rw [around] at front start
  refine ⟨last, items ++ [value], final, front.andTake ended.offers comma
    (separates value before) back (by omega), ?_, by simp⟩
  rw [List.append_assoc]
  exact finished

/-! ### Derivations -/

/-- By induction over the derivation, with one lemma for each production. -/
theorem readsWhole_of_whole {tokens : List Token} {value : Pattern}
    (whole : Whole tokens value) :
    ∃ height, ReadsWhole tokens value height := by
  refine @Whole.rec
    (fun tokens value _ => ∃ height, ReadsWhole tokens value height)
    (fun tokens values _ => ∃ height, ReadsArguments tokens values height)
    (fun tokens value _ => ∃ height, ReadsPart tokens value height)
    (fun tokens fields wildcard _ =>
      ∃ height, ReadsFields tokens fields wildcard height)
    (fun tokens field _ => ∃ height, ReadsField tokens field height)
    (fun tokens values _ => ∃ height, ReadsItems tokens values height)
    ?part ?application ?oneArgument ?moreArguments ?var ?named ?bare
    ?emptyRecord ?openRecord ?record ?emptyTuple ?group ?tuple ?emptyList
    ?list ?oneField ?oneFieldOpen ?moreFields ?punned ?bound ?oneItem
    ?moreItems
    tokens value whole
  -- patterns and arguments
  case part => exact fun _ ⟨_, part⟩ => ⟨_, .part part⟩
  case application =>
    exact fun constructor _ ⟨_, arguments⟩ =>
      ⟨_, .application constructor arguments⟩
  case oneArgument => exact fun _ ⟨_, part⟩ => ⟨_, .one part⟩
  case moreArguments =>
    exact fun _ _ ⟨_, part⟩ ⟨_, arguments⟩ => ⟨_, .more part arguments⟩
  -- parts
  case var => exact fun lexeme => ⟨_, .var lexeme⟩
  case named =>
    exact fun lexeme sign _ _ _ ⟨_, part⟩ => ⟨_, .named lexeme sign part⟩
  case bare => exact fun constructor => ⟨_, .bare constructor⟩
  case emptyRecord =>
    exact fun opening closing _ _ constructor =>
      ⟨_, .emptyRecord opening closing constructor⟩
  case openRecord =>
    exact fun opening dots closing _ _ constructor =>
      ⟨_, .openRecord opening dots closing constructor⟩
  case record =>
    exact fun opening closing _ _ _ _ _ constructor _ ⟨_, fields⟩ =>
      ⟨_, .record opening closing constructor fields⟩
  case emptyTuple =>
    exact fun opening closing => ⟨_, .emptyTuple opening closing⟩
  case group =>
    exact fun opening closing _ _ _ ⟨_, inner⟩ =>
      ⟨_, .group opening closing inner⟩
  case tuple =>
    exact fun opening comma closing _ _ _ _ _ _ ⟨_, first⟩ ⟨_, rest⟩ =>
      ⟨_, .tuple opening comma closing first rest⟩
  case emptyList =>
    exact fun opening closing => ⟨_, .emptyList opening closing⟩
  case list =>
    exact fun opening closing _ _ _ ⟨_, items⟩ =>
      ⟨_, .list opening closing items⟩
  -- fields and items
  case oneField => exact fun _ ⟨_, field⟩ => ⟨_, .one field⟩
  case oneFieldOpen =>
    exact fun comma dots _ _ _ ⟨_, field⟩ => ⟨_, .oneOpen comma dots field⟩
  case moreFields =>
    exact fun comma _ _ _ _ _ _ _ ⟨_, field⟩ ⟨_, fields⟩ =>
      ⟨_, .more comma field fields⟩
  case punned => exact fun isName => ⟨_, .punned isName⟩
  case bound =>
    exact fun sign _ _ _ _ isName _ ⟨_, value⟩ =>
      ⟨_, .bound sign isName value⟩
  case oneItem => exact fun _ ⟨_, item⟩ => ⟨_, .one item⟩
  case moreItems =>
    exact fun comma _ _ _ _ _ _ ⟨_, first⟩ ⟨_, rest⟩ =>
      ⟨_, .more comma first rest⟩

theorem language_recognises : language.Recognises Whole := by
  intro tokens value
  constructor
  · intro whole
    obtain ⟨_, reads⟩ := readsWhole_of_whole whole
    obtain ⟨final, climbs, ended⟩ := reads .start [] (.refl _)
    exact ⟨final, climbs.path, ended.value rfl⟩
  · rintro ⟨final, path, finished⟩
    exact whole_of_path path finished

end TemplateSyntax.Pattern
