import TemplateSyntax.Proofs.Pattern.Completeness
import TemplateSyntax.Proofs.Reading.Viable

/-!
# Beginnings of patterns

Every place inside a pattern can be completed, by an empty list where a part is
missing, by closing the record it lies in, and then by what closes the brackets
that are still open.  What may follow a place depends on its phase, on the
constructor and the aliases in front of it being there, and on the kinds of the
open brackets (`State.shape`).
-/

namespace TemplateSyntax.Pattern

/-! ### Every place can be completed -/

/-- What stands in for what is missing at a place: a part, the rest of a
constructor's name, or the rest of a record. -/
def State.filler : State → List Token
  | .pattern .start _ _ | .pattern .opened _ _ =>
      [⟨.patternOpenBracket, ['[']⟩, ⟨.patternCloseBracket, [']']⟩]
  | .pattern (.piece _) _ _ => [⟨.operatorConstructor, ['(', '+', ')']⟩]
  | .pattern (.var _) _ _ | .pattern (.pieces _) _ _
  | .pattern (.after _) _ _ => []
  | .record .start _ _ =>
      [⟨.operatorConstructor, ['(', '+', ')']⟩, ⟨.closeBrace, ['}']⟩]
  | .record .opened _ _ | .record (.named _) _ _ | .record .wildcard _ _ =>
      [⟨.closeBrace, ['}']⟩]

def Frame.closer : Frame → Token
  | .tuple _ _ => ⟨.patternCloseParen, [')']⟩
  | .list _ _ => ⟨.patternCloseBracket, [']']⟩
  | .field _ _ => ⟨.closeBrace, ['}']⟩

def State.frames : State → List Frame
  | .pattern _ _ frames | .record _ _ frames => frames

/-- What completes a place. -/
def State.completion (state : State) : List Token :=
  state.filler ++ state.frames.map Frame.closer

theorem Behind.ended {part : Pattern} {clause : Clause} {frames : List Frame}
    {state : State} (behind : Behind part clause frames state) :
    Ended (clause.close part) frames state :=
  ⟨behind.offers.right, behind.value⟩

theorem behind_var (name : String) (clause : Clause) (frames : List Frame) :
    Behind (.var name) clause frames (.pattern (.var name) clause frames) where
  offers := (Language.Offers.refl _).tail
  value := by
    rintro rfl
    rfl

theorem behind_pieces (names : List String) (clause : Clause)
    (frames : List Frame) :
    Behind (.construct (constructorName names) []) clause frames
      (.pattern (.pieces names) clause frames) where
  offers := (Language.Offers.refl _).tail.tail.right
  value := by
    rintro rfl
    rfl

/-- The closing bracket stands behind the comma among the moves. -/
theorem path_closer {frame : Frame} {frames : List Frame} {item : Pattern}
    {state : State} (ended : Ended item (frame :: frames) state) :
    ∃ part clause, Path state [frame.closer]
      (.pattern (.after part) clause frames) := by
  have offers := ended.offers
  cases frame with
  | tuple items outer =>
      exact ⟨_, outer, .take offers.tail [')'] List.mem_cons_self (.nil _)⟩
  | list items outer =>
      exact ⟨_, outer, .take offers.tail [']'] List.mem_cons_self (.nil _)⟩
  | field current name =>
      exact ⟨_, current.outer,
        .take offers.tail ['}'] List.mem_cons_self (.nil _)⟩

theorem path_closers {frames : List Frame} {item : Pattern} {state : State}
    (ended : Ended item frames state) :
    ∃ final value, Path state (frames.map Frame.closer) final ∧
      final.value? = some value := by
  induction frames generalizing item state with
  | nil => exact ⟨state, item, .nil state, ended.value rfl⟩
  | cons frame frames ih =>
      obtain ⟨part, clause, close⟩ := path_closer ended
      obtain ⟨final, value, path, finished⟩ :=
        ih (behind_after part clause frames).ended
      exact ⟨final, value, close.append path, finished⟩

theorem path_recordEnd {state : State} {current : OpenRecord} {wildcard : Bool}
    {frames : List Frame}
    (offers : Offers state (State.recordEnd current wildcard frames)) :
    ∃ final item, Path state [⟨.closeBrace, ['}']⟩] final ∧
      Ended item frames final :=
  ⟨_, _, .take offers ['}'] List.mem_cons_self (.nil _),
    (behind_after _ _ _).ended⟩

theorem offers_named (name : String) (current : OpenRecord)
    (frames : List Frame) :
    Offers (.record (.named name) current frames)
      (State.recordEnd (current.push name (.var name)) false frames) :=
  (Language.Offers.refl _).tail.tail

theorem path_emptyList {state : State} {clause : Clause} {frames : List Frame}
    (offers : Offers state (State.parts clause frames)) :
    ∃ final item,
      Path state
        [⟨.patternOpenBracket, ['[']⟩, ⟨.patternCloseBracket, [']']⟩] final ∧
      Ended item frames final := by
  obtain ⟨final, climbs, behind⟩ :=
    ReadsPart.emptyList ['['] [']'] state clause frames offers
  exact ⟨final, _, climbs.path, behind.ended⟩

theorem path_filler (state : State) :
    ∃ final item, Path state state.filler final ∧
      Ended item state.frames final := by
  cases state with
  | pattern phase clause frames =>
      cases phase with
      | start => exact path_emptyList (.refl _)
      | opened => exact path_emptyList (Language.Offers.refl _).left
      | var name => exact ⟨_, _, .nil _, (behind_var name clause frames).ended⟩
      | pieces names =>
          exact ⟨_, _, .nil _, (behind_pieces names clause frames).ended⟩
      | piece names =>
          exact ⟨_, _, .take (Language.Offers.refl _).tail ['(', '+', ')']
            List.mem_cons_self (.nil _), (behind_pieces _ clause frames).ended⟩
      | after part => exact ⟨_, _, .nil _, (behind_after part clause frames).ended⟩
  | record phase current frames =>
      cases phase with
      | opened => exact path_recordEnd (Language.Offers.refl _).right
      | start =>
          -- a field with any name will do
          have named : Path (.record .start current frames)
              [⟨.operatorConstructor, ['(', '+', ')']⟩]
              (.record (.named (operatorName ['(', '+', ')'])) current frames) :=
            .take (Language.Offers.refl _).tail.tail ['(', '+', ')']
              List.mem_cons_self (.nil _)
          obtain ⟨final, item, path, ended⟩ :=
            path_recordEnd (offers_named _ current frames)
          exact ⟨final, item, named.append path, ended⟩
      | named name => exact path_recordEnd (offers_named name current frames)
      | wildcard => exact path_recordEnd (.refl _)

theorem path_completion (state : State) :
    ∃ final value, Path state state.completion final ∧
      final.value? = some value := by
  obtain ⟨middle, item, path, ended⟩ := path_filler state
  obtain ⟨final, value, later, finished⟩ := path_closers ended
  exact ⟨final, value, path.append later, finished⟩

theorem language_completable : language.Completable :=
  fun state => ⟨state.completion, path_completion state⟩

/-! ### What may follow a place -/

/-- What may follow a clause: whether it has a constructor, and whether it has
no aliases. -/
def Clause.shape (clause : Clause) : Bool × Bool :=
  (clause.head.isSome, clause.aliases.isEmpty)

/-- What may follow an open bracket: what closes it, whether it is still empty,
and what stands to its left. -/
def Frame.shape : Frame → Terminal × Bool × Bool × Bool
  | .tuple items outer => (.patternCloseParen, items.isEmpty, outer.shape)
  | .list items outer => (.patternCloseBracket, items.isEmpty, outer.shape)
  | .field current _ => (.closeBrace, false, current.outer.shape)

/-- A phase without the values it holds. -/
def Phase.shape : Phase → Phase
  | .var _ => .var ""
  | .pieces _ => .pieces []
  | .piece _ => .piece []
  | .after _ => .after (.tuple [])
  | phase => phase

/-- A place between fields without the name it holds. -/
def FieldPhase.shape : FieldPhase → FieldPhase
  | .named _ => .named ""
  | phase => phase

/-- All that decides which terminals may follow. -/
def State.shape : State → (Phase ⊕ FieldPhase) × (Bool × Bool) ×
    List (Terminal × Bool × Bool × Bool)
  | .pattern phase clause frames =>
      (.inl phase.shape, clause.shape, frames.map Frame.shape)
  | .record phase current frames =>
      (.inr phase.shape, current.outer.shape, frames.map Frame.shape)

section Alike

variable {clause clause' : Clause} {frames frames' : List Frame}

theorem parts_alike (clauses : clause.shape = clause'.shape)
    (brackets : frames.map Frame.shape = frames'.map Frame.shape) :
    (State.parts clause frames).Alike State.shape
      (State.parts clause' frames') := by
  simp [Moves.Alike, State.parts, State.shape, Frame.shape, Phase.shape,
    clauses, brackets]

theorem emptyEnd_alike
    (brackets : frames.map Frame.shape = frames'.map Frame.shape) :
    (State.emptyEnd frames).Alike State.shape (State.emptyEnd frames') := by
  cases frames with
  | nil =>
      obtain rfl : frames' = [] := by simpa using brackets.symm
      exact .nil
  | cons frame frames =>
      obtain ⟨frame', frames', rfl, same, later⟩ :=
        List.map_eq_cons_iff.mp brackets.symm
      rcases frame with ⟨items, outer⟩ | ⟨items, outer⟩ | _ <;>
        rcases frame' with ⟨items', outer'⟩ | ⟨items', outer'⟩ | _ <;>
        simp only [Frame.shape, Prod.mk.injEq, reduceCtorEq, false_and] at same
      · obtain ⟨_, empty, outers⟩ := same
        cases items <;> cases items' <;>
          simp_all [Moves.Alike, State.emptyEnd, State.shape, Phase.shape]
      · obtain ⟨_, empty, outers⟩ := same
        cases items <;> cases items' <;>
          simp_all [Moves.Alike, State.emptyEnd, State.shape, Phase.shape]
      · exact .nil

theorem itemEnds_alike (item item' : Pattern)
    (brackets : frames.map Frame.shape = frames'.map Frame.shape) :
    (State.itemEnds item frames).Alike State.shape
      (State.itemEnds item' frames') := by
  cases frames with
  | nil =>
      obtain rfl : frames' = [] := by simpa using brackets.symm
      exact .nil
  | cons frame frames =>
      obtain ⟨frame', frames', rfl, same, later⟩ :=
        List.map_eq_cons_iff.mp brackets.symm
      rcases frame with ⟨items, outer⟩ | ⟨items, outer⟩ | _ <;>
        rcases frame' with ⟨items', outer'⟩ | ⟨items', outer'⟩ | _ <;>
        simp only [Frame.shape, Prod.mk.injEq, reduceCtorEq, false_and] at same
      · obtain ⟨_, _, outers⟩ := same
        simp [Moves.Alike, State.itemEnds, State.shape, Frame.shape,
          Phase.shape, outers, later]
      · obtain ⟨_, _, outers⟩ := same
        simp [Moves.Alike, State.itemEnds, State.shape, Frame.shape,
          Phase.shape, outers, later]
      · obtain ⟨_, _, outers⟩ := same
        simp [Moves.Alike, State.itemEnds, State.shape, OpenRecord.push,
          Phase.shape, FieldPhase.shape, outers, later]

theorem continuations_alike (part part' : Pattern)
    (clauses : clause.shape = clause'.shape)
    (brackets : frames.map Frame.shape = frames'.map Frame.shape) :
    (State.continuations part clause frames).Alike State.shape
      (State.continuations part' clause' frames') := by
  refine Moves.Alike.append ?_ (itemEnds_alike _ _ brackets)
  obtain ⟨head, aliases⟩ := clause
  obtain ⟨head', aliases'⟩ := clause'
  simp only [Clause.shape, Prod.mk.injEq] at clauses
  cases head <;> cases head' <;> simp at clauses
  · exact .nil
  · exact parts_alike rfl brackets

theorem firstArguments_alike (head head' : QualifiedName)
    (clauses : clause.shape = clause'.shape)
    (brackets : frames.map Frame.shape = frames'.map Frame.shape) :
    (State.firstArguments head clause frames).Alike State.shape
      (State.firstArguments head' clause' frames') := by
  obtain ⟨function, aliases⟩ := clause
  obtain ⟨function', aliases'⟩ := clause'
  simp only [Clause.shape, Prod.mk.injEq] at clauses
  cases function <;> cases function' <;> cases aliases <;> cases aliases' <;>
    simp at clauses
  · exact parts_alike rfl brackets
  · exact .nil
  · exact .nil
  · exact .nil

theorem fieldNames_alike {current current' : OpenRecord}
    (outers : current.outer.shape = current'.outer.shape)
    (brackets : frames.map Frame.shape = frames'.map Frame.shape) :
    (State.fieldNames current frames).Alike State.shape
      (State.fieldNames current' frames') := by
  simp [Moves.Alike, State.fieldNames, State.shape, FieldPhase.shape, outers,
    brackets]

theorem recordEnd_alike {current current' : OpenRecord}
    (wildcard wildcard' : Bool)
    (outers : current.outer.shape = current'.outer.shape)
    (brackets : frames.map Frame.shape = frames'.map Frame.shape) :
    (State.recordEnd current wildcard frames).Alike State.shape
      (State.recordEnd current' wildcard' frames') := by
  simp [Moves.Alike, State.recordEnd, State.shape, Phase.shape, outers,
    brackets]

end Alike

theorem language_shaped : language.Shaped State.shape := by
  intro state state' same
  rcases state with ⟨phase, clause, frames⟩ | ⟨phase, current, frames⟩ <;>
    rcases state' with ⟨phase', clause', frames'⟩ | ⟨phase', current', frames'⟩ <;>
    simp only [State.shape, Prod.mk.injEq, reduceCtorEq, false_and,
      Sum.inl.injEq, Sum.inr.injEq] at same
  · obtain ⟨phases, clauses, brackets⟩ := same
    have parts := parts_alike clauses brackets
    cases phase <;> cases phase' <;> cases phases
    · exact parts
    · exact parts.append (emptyEnd_alike brackets)
    · refine .cons ⟨rfl, fun _ _ => ?_⟩
        (continuations_alike _ _ clauses brackets)
      simp only [Clause.shape, Prod.mk.injEq] at clauses
      simp [State.shape, Clause.shape, Clause.under, Phase.shape, clauses,
        brackets]
    · refine .cons ⟨rfl, fun _ _ => ?_⟩ (.cons ⟨rfl, fun _ _ => ?_⟩
        ((firstArguments_alike _ _ clauses brackets).append
          (continuations_alike _ _ clauses brackets))) <;>
        simp [State.shape, Phase.shape, FieldPhase.shape, clauses, brackets]
    · simp [Moves.Alike, language, State.moves, State.shape, Phase.shape,
        clauses, brackets]
    · exact continuations_alike _ _ clauses brackets
  · obtain ⟨phases, outers, brackets⟩ := same
    have names := fieldNames_alike outers brackets
    cases phase <;> cases phase' <;> cases phases
    · exact names.append (recordEnd_alike _ _ outers brackets)
    · exact names
    · refine .cons ⟨rfl, fun _ _ => ?_⟩ (.cons ⟨rfl, fun _ _ => ?_⟩
        (recordEnd_alike _ _ outers brackets)) <;>
        simp [State.shape, Frame.shape, Phase.shape, FieldPhase.shape,
          OpenRecord.push, outers, brackets]
    · exact recordEnd_alike _ _ outers brackets

theorem value?_isSome_of_shape {state state' : State}
    (same : state.shape = state'.shape) :
    state.value?.isSome = state'.value?.isSome := by
  rcases state with ⟨phase, clause, frames⟩ | _ <;>
    rcases state' with ⟨phase', clause', frames'⟩ | _ <;>
    simp only [State.shape, Prod.mk.injEq, reduceCtorEq, false_and,
      Sum.inl.injEq, Sum.inr.injEq] at same
  · obtain ⟨phases, _, brackets⟩ := same
    cases phase <;> cases phase' <;> cases phases <;> try rfl
    all_goals cases frames <;> cases frames' <;> simp_all [State.value?]
  · rfl

end TemplateSyntax.Pattern
