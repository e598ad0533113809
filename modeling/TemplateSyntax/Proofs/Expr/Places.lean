import TemplateSyntax.Expr.Reading

/-!
# Places in expressions

How deep a place lies can be followed along the tokens alone: a bracket leads
four nodes down, a dollar two and an operator one (`Place.Leads`).  Every move of
the reader leads to the place its terminal leads to (`State.follows_of_move`).
-/

namespace TemplateSyntax.Expr

open State (sidesAhead endsClause)

/-! ### Places along tokens -/

/-- What a terminal does to the place. -/
inductive Turn where
  | opens
  | closes
  | separates
  /-- The clause goes on that many nodes deeper. -/
  | deepens (more : Nat)
  | stays
  /-- No expression goes on behind it. -/
  | leaves

def turn : Terminal → Turn
  | .exprOpenParen | .exprOpenBracket => .opens
  | .exprCloseParen | .exprCloseBracket => .closes
  | .exprComma => .separates
  | .dollar => .deepens 2
  | .operator => .deepens 1
  | .valueClose | .controlClose => .leaves
  | _ => .stays

theorem endsClause_cons (token : Token) (rest : List Token) :
    endsClause (token :: rest) =
      match turn token.terminal with
      | .closes | .separates | .leaves => true
      | _ => false := by
  obtain ⟨terminal, lexeme⟩ := token
  cases terminal <;> rfl

/-- How many nodes lie around the clause of a place on account of what has been
read, and around those in front of the brackets that are still open, innermost
first. -/
structure Place where
  here : Nat
  outer : List Nat

theorem sidesAhead_cons (inner : Nat) (settled : Bool) (token : Token)
    (rest : List Token) :
    sidesAhead inner settled (token :: rest) =
      match turn token.terminal, inner with
      | .opens, inner => sidesAhead (inner + 1) settled rest
      | .closes, 0 => sidesAhead 0 false rest
      | .closes, inner + 1 => sidesAhead inner settled rest
      | .separates, 0 => sidesAhead 0 true rest
      | .deepens _, 0 => sidesAhead 0 true rest + if settled then 0 else 1
      | .leaves, _ => 0
      | _, inner => sidesAhead inner settled rest := by
  obtain ⟨terminal, lexeme⟩ := token
  cases terminal <;> cases inner <;> rfl

namespace Place

/-- Where nothing has been read. -/
def top : Place := ⟨0, []⟩

/-- How many nodes lie around the place in front of the tokens, as far as what has
been read shows. -/
def around (place : Place) (ahead : List Token) : Nat :=
  place.here + if endsClause ahead then 0 else 3

theorem here_le_around (place : Place) (ahead : List Token) :
    place.here ≤ place.around ahead :=
  Nat.le_add_right _ _

theorem around_le (place : Place) (ahead : List Token) :
    place.around ahead ≤ place.here + 3 := by
  rw [around]
  split <;> omega

inductive Leads : Place → Turn → Place → Prop where
  | opens (here : Nat) (outer : List Nat) :
      Leads ⟨here, outer⟩ .opens ⟨here + 4, here :: outer⟩
  | closes (inside here : Nat) (outer : List Nat) :
      Leads ⟨inside, here :: outer⟩ .closes ⟨here, outer⟩
  | separates (inside here : Nat) (outer : List Nat) :
      Leads ⟨inside, here :: outer⟩ .separates ⟨here + 4, here :: outer⟩
  | deepens (here more : Nat) (outer : List Nat) :
      Leads ⟨here, outer⟩ (.deepens more) ⟨here + more, outer⟩
  | stays (place : Place) : Leads place .stays place

theorem Leads.unique {place next next' : Place} {turn : Turn}
    (leads : place.Leads turn next) (leads' : place.Leads turn next') :
    next = next' := by
  cases leads <;> cases leads' <;> rfl

/-- Outside of all brackets no item can end, so that an operand stands ahead. -/
theorem Leads.around_eq {place next : Place} {terminal : Terminal}
    (leads : place.Leads (turn terminal) next) (outside : place.outer = [])
    (lexeme : List Char) (rest : List Token) :
    place.around (⟨terminal, lexeme⟩ :: rest) = place.here + 3 := by
  rw [around, endsClause_cons]
  generalize turn terminal = turned at leads
  cases leads with
  | closes => cases outside
  | separates => cases outside
  | _ => rfl

end Place

/-! ### Places of the reader -/

namespace State

/-- How many nodes lie around the places in front of the brackets. -/
def outerDepths : List Frame → List Nat
  | [] => []
  | frame :: frames =>
      (framesDepth frames + frame.outer.depth) :: outerDepths frames

/-- The place behind a clause inside brackets. -/
def placeOf (clause : Clause) (frames : List Frame) : Place :=
  ⟨framesDepth frames + clause.depth, outerDepths frames⟩

def place (state : State) : Place :=
  placeOf state.clause state.frames

theorem depth_eq (state : State) (ahead : List Token) :
    state.depth ahead = state.place.around ahead + sidesAhead 0 false ahead :=
  rfl

/-- The move leads to the place its terminal leads to. -/
def Follows (place : Place) (terminal : Terminal) (next : List Char → State) :
    Prop :=
  ∀ lexeme, place.Leads (turn terminal) (next lexeme).place

section Move

variable {clause : Clause} {frames : List Frame} {terminal : Terminal}
  {next : List Char → State}

theorem leads_opening (bracket : Bracket) (phase : Phase) (clause : Clause)
    (frames : List Frame) :
    (placeOf clause frames).Leads .opens
      (opening bracket phase clause frames).place :=
  .opens _ _

theorem follows_tightOperands
    (member : (terminal, next) ∈ tightOperands clause frames) :
    Follows (placeOf clause frames) terminal next := by
  simp only [tightOperands, List.mem_cons, Prod.mk.injEq, List.not_mem_nil,
    or_false] at member
  intro lexeme
  rcases member with ⟨rfl, rfl⟩ | ⟨rfl, rfl⟩ | ⟨rfl, rfl⟩
  · exact leads_opening _ _ _ _
  · exact .stays _
  · exact .stays _

theorem follows_operands (member : (terminal, next) ∈ operands clause frames) :
    Follows (placeOf clause frames) terminal next := by
  rcases List.mem_append.mp member with tight | other
  · exact follows_tightOperands tight
  · simp only [List.mem_cons, Prod.mk.injEq, List.not_mem_nil,
      or_false] at other
    intro lexeme
    rcases other with ⟨rfl, rfl⟩ | ⟨rfl, rfl⟩ | ⟨rfl, rfl⟩
    · exact leads_opening _ _ _ _
    · exact .stays _
    · exact .stays _

theorem follows_leadingBlanks
    (member : (terminal, next) ∈ leadingBlanks clause frames) :
    Follows (placeOf clause frames) terminal next := by
  cases List.mem_singleton.mp member
  exact fun _ => .stays _

theorem follows_emptyListEnd
    (member : (terminal, next) ∈ emptyListEnd frames) :
    Follows (placeOf clause frames) terminal next := by
  intro lexeme
  rw [emptyListEnd.eq_def] at member
  split at member
  · cases List.mem_singleton.mp member
    exact .closes _ _ _
  · cases member

theorem follows_itemEnds {item : Expr}
    (member : (terminal, next) ∈ itemEnds item frames) :
    Follows (placeOf clause frames) terminal next := by
  intro lexeme
  cases frames with
  | nil => cases member
  | cons frame frames =>
      simp only [itemEnds, List.mem_cons, Prod.mk.injEq, List.not_mem_nil,
        or_false] at member
      rcases member with ⟨rfl, rfl⟩ | ⟨closing, rfl⟩
      · exact .separates _ _ _
      · have closes : turn terminal = .closes := by
          rw [closing]
          cases frame.bracket <;> rfl
        rw [closes]
        exact .closes _ _ _

theorem follows_operators {function : Expr}
    (member : (terminal, next) ∈ operators function clause frames) :
    Follows (placeOf clause frames) terminal next := by
  intro lexeme
  obtain ⟨functions, side, function⟩ := clause
  cases side with
  | some side => cases member
  | none =>
      cases List.mem_singleton.mp member
      exact .deepens _ 1 _

theorem follows_dollars {operand : Expr}
    (member : (terminal, next) ∈ dollars operand clause frames) :
    Follows (placeOf clause frames) terminal next := by
  intro lexeme
  obtain ⟨functions, side, function⟩ := clause
  cases side with
  | some side => cases member
  | none =>
      cases List.mem_singleton.mp member
      exact .deepens _ 2 _

end Move

theorem follows_of_move {state : State} {terminal : Terminal}
    {next : List Char → State} (member : (terminal, next) ∈ state.moves) :
    Follows state.place terminal next := by
  obtain ⟨phase, clause, frames⟩ := state
  cases phase with
  | start =>
      rcases List.mem_append.mp member with blanks | operand
      · exact follows_leadingBlanks blanks
      · exact follows_operands operand
  | opened =>
      rcases List.mem_append.mp member with front | ending
      · rcases List.mem_append.mp front with blanks | operand
        · exact follows_leadingBlanks blanks
        · exact follows_operands operand
      · exact follows_emptyListEnd ending
  | operand => exact follows_operands member
  | argument function =>
      rcases List.mem_append.mp member with operand | operator
      · have applying : placeOf (clause.applying function) frames =
            placeOf clause frames := rfl
        rw [place, ← applying]
        exact follows_operands operand
      · exact follows_operators operator
  | spaced =>
      cases List.mem_singleton.mp member
      exact fun _ => .stays _
  | after operand =>
      rcases List.mem_append.mp member with front | ending
      · rcases List.mem_append.mp front with front | dollar
        · rcases List.mem_append.mp front with here | tight
          · simp only [List.mem_cons, Prod.mk.injEq, List.not_mem_nil,
              or_false] at here
            rcases here with ⟨rfl, rfl⟩ | ⟨rfl, rfl⟩ <;> exact fun _ => .stays _
          · have applying :
                placeOf (clause.applying (clause.call operand)) frames =
                  placeOf clause frames := rfl
            rw [place, ← applying]
            exact follows_tightOperands tight
        · exact follows_dollars dollar
      · exact follows_itemEnds ending

end State

end TemplateSyntax.Expr
