import TemplateSyntax.Proofs.Alone
import TemplateSyntax.Proofs.Expr.Height

/-!
# How deep expressions lie in larger ones

The tokens of an expression come as deep inside a larger one as they do alone,
and deeper by what lies around them and by the sides that stand behind them
(`Reaches.append_raised`).  So brackets around expressions that lie side by side
need no more room than the deepest of them (`Listed.bracketed`).
-/

namespace TemplateSyntax.Expr

open State (sidesAhead endsClause)

/-! ### Places further down -/

namespace Place

/-- The place with more nodes around it, inside other brackets. -/
def raised (place : Place) (shift : Nat) (around : List Nat) : Place :=
  ⟨shift + place.here, place.outer.map (shift + ·) ++ around⟩

theorem Leads.raised {place next : Place} {turn : Turn}
    (leads : place.Leads turn next) (shift : Nat) (around : List Nat) :
    (place.raised shift around).Leads turn (next.raised shift around) := by
  cases leads with
  | opens here outer => exact .opens _ _
  | closes inside here outer => exact .closes _ _ _
  | separates inside here outer => exact .separates _ _ _
  | deepens here more outer =>
      have deeper := Leads.deepens (shift + here) more
        (outer.map (shift + ·) ++ around)
      rwa [Nat.add_assoc] at deeper
  | stays => exact .stays _

theorem around_raised_cons (place : Place) (shift : Nat) (outer : List Nat)
    (token : Token) (rest rest' : List Token) :
    (place.raised shift outer).around (token :: rest) =
      shift + place.around (token :: rest') :=
  Nat.add_assoc _ _ _

end Place

/-- The tokens lead from one place to another, and the deepest of all places along
them, the last included, lies that deep. -/
inductive Reaches : Place → List Token → Place → Nat → Prop where
  | nil (place : Place) : Reaches place [] place place.here
  | cons {terminal : Terminal} {tokens : List Token} {place middle final : Place}
      {height : Nat} (lexeme : List Char) :
      place.Leads (turn terminal) middle → Reaches middle tokens final height →
      Reaches place (⟨terminal, lexeme⟩ :: tokens) final
        (max (place.around (⟨terminal, lexeme⟩ :: tokens) +
          sidesAhead 0 false (⟨terminal, lexeme⟩ :: tokens)) height)

namespace Reaches

variable {place middle final : Place} {tokens back : List Token}
  {height height' : Nat}

theorem unique {final' : Place} (reaches : Reaches place tokens final height)
    (reaches' : Reaches place tokens final' height') :
    final = final' ∧ height = height' := by
  induction reaches generalizing height' with
  | nil =>
      cases reaches'
      exact ⟨rfl, rfl⟩
  | cons lexeme leads _ ih =>
      cases reaches' with
      | cons _ leads' later =>
          obtain rfl := leads.unique leads'
          obtain ⟨rfl, rfl⟩ := ih later
          exact ⟨rfl, rfl⟩

theorem first_le (reaches : Reaches place tokens final height) :
    place.around tokens + sidesAhead 0 false tokens ≤ height := by
  cases reaches with
  | nil => exact Nat.le_refl _
  | cons => exact Nat.le_max_left _ _

theorem last_le (reaches : Reaches place tokens final height) :
    final.here ≤ height := by
  induction reaches with
  | nil => exact Nat.le_refl _
  | cons _ _ _ ih => exact Nat.le_trans ih (Nat.le_max_right _ _)

/-- Behind tokens that close all their brackets, what follows adds the same to the
count of every place along them. -/
theorem sidesAhead_append (reaches : Reaches place tokens final height)
    (outside : final.outer = []) {extra : Nat}
    (later : ∀ settled, sidesAhead 0 settled back = extra) {inner : Nat}
    (inside : inner ≤ place.outer.length) (settled : Bool) :
    sidesAhead inner settled (tokens ++ back) =
      sidesAhead inner settled tokens + extra := by
  induction reaches generalizing inner settled with
  | nil place =>
      rw [outside] at inside
      obtain rfl := Nat.le_zero.mp inside
      rw [List.nil_append, later, sidesAhead, Nat.zero_add]
  | @cons terminal tokens place middle final height lexeme leads _ ih =>
      simp only [List.cons_append, sidesAhead_cons]
      generalize turn terminal = turned at leads
      cases leads with
      | opens => exact ih outside (Nat.succ_le_succ inside) settled
      | closes =>
          cases inner with
          | zero => exact ih outside (Nat.zero_le _) false
          | succ inner => exact ih outside (Nat.le_of_succ_le_succ inside) settled
      | separates =>
          cases inner with
          | zero => exact ih outside (Nat.zero_le _) true
          | succ inner => exact ih outside inside settled
      | deepens =>
          cases inner with
          | zero =>
              rw [ih outside (Nat.zero_le _) true]
              exact Nat.add_right_comm _ _ _
          | succ inner => exact ih outside inside settled
      | stays => exact ih outside inside settled

/-- Tokens that close all their brackets do not count for the brackets around
them, nor for a clause that is settled. -/
theorem sidesAhead_skip (reaches : Reaches place tokens final height)
    (outside : final.outer = []) {base : Nat} {settled : Bool}
    (apart : 1 ≤ base ∨ settled = true) (back : List Token) :
    sidesAhead (base + place.outer.length) settled (tokens ++ back) =
      sidesAhead base settled back := by
  induction reaches with
  | nil place =>
      rw [outside]
      rfl
  | @cons terminal tokens place middle final height lexeme leads _ ih =>
      simp only [List.cons_append, sidesAhead_cons]
      generalize turn terminal = turned at leads
      cases leads with
      | opens => exact ih outside
      | closes => exact ih outside
      | separates => exact ih outside
      | deepens here more outer =>
          cases outer with
          | nil =>
              cases base with
              | zero =>
                  obtain rfl := apart.resolve_left (Nat.not_succ_le_zero 0)
                  exact ih outside
              | succ => exact ih outside
          | cons => exact ih outside
      | stays => exact ih outside

theorem append_raised (reaches : Reaches place tokens middle height)
    (outside : middle.outer = []) {extra shift : Nat} {around : List Nat}
    (later : ∀ settled, sidesAhead 0 settled back = extra)
    (behind : Reaches (middle.raised shift around) back final height') :
    Reaches (place.raised shift around) (tokens ++ back) final
      (max (shift + extra + height) height') := by
  induction reaches with
  | nil place =>
      have first := behind.first_le
      have above := (place.raised shift around).here_le_around back
      have here : (place.raised shift around).here = shift + place.here := rfl
      rw [later] at first
      have absorbed : max (shift + extra + place.here) height' = height' := by
        omega
      rw [absorbed]
      exact behind
  | @cons terminal tokens place middle final height lexeme leads reaches ih =>
      have whole := Reaches.cons lexeme (leads.raised shift around)
        (ih outside behind)
      have ahead := (Reaches.cons lexeme leads reaches).sidesAhead_append outside
        later (Nat.zero_le _) false
      have higher := place.around_raised_cons shift around ⟨terminal, lexeme⟩
        (tokens ++ back) tokens
      rw [List.cons_append] at ahead ⊢
      rw [ahead, higher, ← Nat.max_assoc] at whole
      have same : max (shift + extra +
            max (place.around (⟨terminal, lexeme⟩ :: tokens) +
              sidesAhead 0 false (⟨terminal, lexeme⟩ :: tokens)) height) height' =
          max (max (shift + place.around (⟨terminal, lexeme⟩ :: tokens) +
            (sidesAhead 0 false (⟨terminal, lexeme⟩ :: tokens) + extra))
            (shift + extra + height)) height' := by
        omega
      rw [same]
      exact whole

end Reaches

/-! ### Tokens that lead nowhere -/

/-- None of the tokens does anything to the place. -/
def Flat (tokens : List Token) : Prop :=
  ∀ token ∈ tokens, turn token.terminal = .stays

theorem sidesAhead_flat {tokens : List Token} (flat : Flat tokens)
    (inner : Nat) (settled : Bool) (back : List Token) :
    sidesAhead inner settled (tokens ++ back) = sidesAhead inner settled back := by
  induction tokens with
  | nil => rfl
  | cons token tokens ih =>
      obtain ⟨stays, others⟩ := List.forall_mem_cons.mp flat
      rw [List.cons_append, sidesAhead_cons]
      simp only [stays]
      exact ih others

/-- Such tokens may add an operand, but nothing deeper. -/
theorem Reaches.behind_flat {place final : Place} {tokens back : List Token}
    {height : Nat} (flat : Flat tokens)
    (behind : Reaches place back final height) :
    ∃ height', Reaches place (tokens ++ back) final height' ∧
      height ≤ height' ∧
      height' ≤ max (place.here + 3 + sidesAhead 0 false back) height := by
  induction tokens with
  | nil => exact ⟨height, behind, Nat.le_refl _, Nat.le_max_right _ _⟩
  | cons token tokens ih =>
      obtain ⟨terminal, lexeme⟩ := token
      have ⟨stays, others⟩ := List.forall_mem_cons.mp flat
      obtain ⟨height', inside, above, below⟩ := ih others
      have leads := Place.Leads.stays place
      rw [← stays] at leads
      have around := place.around_le (⟨terminal, lexeme⟩ :: (tokens ++ back))
      have ahead := sidesAhead_flat flat 0 false back
      rw [List.cons_append] at ahead ⊢
      refine ⟨_, .cons lexeme leads inside, ?_, ?_⟩
      · exact Nat.le_trans above (Nat.le_max_right _ _)
      · rw [ahead]
        omega

/-! ### Whole expressions -/

theorem reaches_of_path {state final : State} {tokens : List Token}
    (path : Path state tokens final) :
    Reaches state.place tokens final.place (language.peak state tokens) := by
  induction path with
  | nil state => exact .nil _
  | cons lexeme member _ ih =>
      rw [language_distinct.peak_cons member]
      exact .cons lexeme (State.follows_of_move member lexeme) ih

theorem State.outer_of_value {state : State} {value : Expr}
    (finished : state.value? = some value) : state.place.outer = [] := by
  obtain ⟨phase, clause, frames⟩ := state
  cases phase with
  | after operand =>
      cases frames with
      | nil => rfl
      | cons => cases finished
  | _ => cases finished

/-- The tokens close all their brackets, and alone they come that deep. -/
def Complete (tokens : List Token) (height : Nat) : Prop :=
  ∃ here, Reaches .top tokens ⟨here, []⟩ height

section Measure

variable {tokens : List Token} {value : Expr} {height height' : Nat}

theorem complete_of_measures (measures : language.Measures tokens value height) :
    Complete tokens height := by
  obtain ⟨final, path, finished, rfl⟩ := measures
  have reaches := reaches_of_path path
  have closed : final.place = ⟨final.place.here, []⟩ := by
    rw [← State.outer_of_value finished]
  rw [closed] at reaches
  exact ⟨_, reaches⟩

theorem first_le_of_measures (measures : language.Measures tokens value height) :
    3 + sidesAhead 0 false tokens ≤ height := by
  obtain ⟨final, path, finished, rfl⟩ := measures
  have first : State.start.place.around tokens + _ ≤ _ :=
    (reaches_of_path path).first_le
  have operand : State.start.place.around tokens = 3 := by
    cases path with
    | nil => cases finished
    | @cons terminal next _ _ _ lexeme member _ =>
        have opened : (terminal, next) ∈ State.start.moves := member
        exact (State.follows_of_move opened lexeme).around_eq rfl lexeme _
  rwa [operand] at first

theorem Complete.height_eq (complete : Complete tokens height)
    (measures : language.Measures tokens value height') : height' = height := by
  obtain ⟨_, reaches⟩ := complete
  obtain ⟨_, reaches'⟩ := complete_of_measures measures
  exact (reaches'.unique reaches).2

theorem fault?_of_flat (expression : Grammar.Expression tokens value)
    (flat : Flat tokens) (valued : ∀ token ∈ tokens, token.error? = none) :
    language.fault? language.start tokens = none := by
  obtain ⟨height', reaches, _, shallow⟩ := Reaches.behind_flat flat (.nil .top)
  rw [List.append_nil] at reaches
  have complete : Complete tokens height' := ⟨_, reaches⟩
  obtain ⟨height, measures⟩ := language_recognises.exists_measures expression
  obtain rfl := complete.height_eq measures
  have limit : max (Place.top.here + 3 + sidesAhead 0 false []) Place.top.here ≤
      nestingLimit := by
    decide
  exact (language_distinct.fault?_iff_of_measures measures).mpr
    ⟨Nat.le_trans shallow limit, valued⟩

/-- Inside a bracket, up to the comma or the closing bracket and on from there. -/
theorem Complete.inside (complete : Complete tokens height)
    {terminal : Terminal} {lexeme : List Char} {back : List Token}
    {here extra : Nat} {outer : List Nat} {next final : Place}
    (later : ∀ settled,
      sidesAhead 0 settled (⟨terminal, lexeme⟩ :: back) = extra)
    (ends : endsClause (⟨terminal, lexeme⟩ :: back) = true)
    (leads : ∀ last, Place.Leads ⟨last, here :: outer⟩ (turn terminal) next)
    (behind : Reaches next back final height') :
    Reaches ⟨here + 4, here :: outer⟩ (tokens ++ ⟨terminal, lexeme⟩ :: back) final
      (max (here + 4 + extra + height) height') := by
  obtain ⟨last, reaches⟩ := complete
  have whole : Reaches (Place.top.raised (here + 4) (here :: outer)) _ final _ :=
    reaches.append_raised rfl later (.cons lexeme (leads _) behind)
  have lastDepth : (Place.raised ⟨last, []⟩ (here + 4) (here :: outer)).around
      (⟨terminal, lexeme⟩ :: back) = here + 4 + last := by
    rw [Place.around, if_pos ends]
    rfl
  have shallow : last ≤ height := reaches.last_le
  -- the last place of the expression lies no deeper than its deepest
  have absorbed : max (here + 4 + extra + height)
      (max (here + 4 + last + extra) height') =
        max (here + 4 + extra + height) height' := by
    omega
  rw [lastDepth, later, absorbed] at whole
  exact whole

theorem Complete.settled (complete : Complete tokens height) :
    sidesAhead 0 true tokens = 0 := by
  obtain ⟨_, reaches⟩ := complete
  have skipped : sidesAhead 0 true (tokens ++ []) = sidesAhead 0 true [] :=
    reaches.sidesAhead_skip rfl (.inr rfl) []
  rwa [List.append_nil, sidesAhead] at skipped

theorem Complete.raised (complete : Complete tokens height) (shift : Nat) :
    ∃ last, Reaches ⟨shift, []⟩ tokens ⟨last, []⟩ (shift + height) := by
  obtain ⟨last, reaches⟩ := complete
  have whole := reaches.append_raised rfl (fun _ => rfl)
    (.nil (Place.raised ⟨last, []⟩ shift []))
  have bound : last ≤ height := reaches.last_le
  have deepest : max (shift + 0 + height) (shift + last) = shift + height := by
    omega
  have lastDepth : (Place.raised ⟨last, []⟩ shift []).here = shift + last := rfl
  rw [List.append_nil, lastDepth, deepest] at whole
  exact ⟨_, whole⟩

end Measure

/-- Whole expressions with commas between them, and how deep the deepest of them
comes alone. -/
inductive Listed : List Token → Nat → Prop where
  | one {tokens : List Token} {height : Nat} :
      Complete tokens height → Listed tokens height
  | more (comma : List Char) {first rest : List Token} {height height' : Nat} :
      Complete first height → Listed rest height' →
      Listed (first ++ ⟨.exprComma, comma⟩ :: rest) (max height height')

namespace Listed

variable {tokens back : List Token} {height height' : Nat}

theorem sidesAhead_skip (listed : Listed tokens height) {base : Nat}
    {settled : Bool} (apart : 1 ≤ base ∨ settled = true) (back : List Token) :
    sidesAhead base settled (tokens ++ back) = sidesAhead base settled back := by
  induction listed with
  | one complete =>
      obtain ⟨_, reaches⟩ := complete
      exact reaches.sidesAhead_skip rfl apart back
  | more comma complete _ ih =>
      obtain ⟨_, reaches⟩ := complete
      rw [List.append_assoc]
      refine (reaches.sidesAhead_skip rfl apart _).trans ?_
      cases base with
      | zero =>
          obtain rfl := apart.resolve_left (Nat.not_succ_le_zero 0)
          exact ih
      | succ => exact ih

variable {opening closing : Terminal} {here : Nat} {outer : List Nat}
  {final : Place}

/-- Up to the closing bracket and on from there. -/
theorem closed (listed : Listed tokens height) (closes : turn closing = .closes)
    (lexeme : List Char) (behind : Reaches ⟨here, outer⟩ back final height') :
    Reaches ⟨here + 4, here :: outer⟩ (tokens ++ ⟨closing, lexeme⟩ :: back) final
      (max (here + 4 + sidesAhead 0 false back + height) height') := by
  have ends : endsClause (⟨closing, lexeme⟩ :: back) = true := by
    rw [endsClause_cons, closes]
  have closer : ∀ settled, sidesAhead 0 settled (⟨closing, lexeme⟩ :: back) =
      sidesAhead 0 false back := by
    intro settled
    simp only [sidesAhead_cons, closes]
  induction listed with
  | one complete =>
      refine complete.inside closer ends (fun last => ?_) behind
      rw [closes]
      exact .closes last here outer
  | more comma complete listed ih =>
      have later : ∀ settled, sidesAhead 0 settled
          (⟨.exprComma, comma⟩ :: (_ ++ ⟨closing, lexeme⟩ :: back)) =
            sidesAhead 0 false back :=
        fun _ => (listed.sidesAhead_skip (.inr rfl) _).trans (closer true)
      have whole := complete.inside later rfl
        (fun last => .separates last here outer) ih
      rw [List.append_assoc, ← Nat.add_max_add_left, Nat.max_assoc]
      exact whole

/-- Brackets count for nothing that lies around them. -/
theorem sidesAhead_bracketed (listed : Listed tokens height)
    (opens : turn opening = .opens) (closes : turn closing = .closes)
    (lexeme lexeme' : List Char) (settled : Bool) (back : List Token) :
    sidesAhead 0 settled
        (⟨opening, lexeme⟩ :: tokens ++ [⟨closing, lexeme'⟩] ++ back) =
      sidesAhead 0 settled back := by
  have inside : sidesAhead 1 settled (tokens ++ ⟨closing, lexeme'⟩ :: back) = _ :=
    listed.sidesAhead_skip (.inl (Nat.le_refl 1)) _
  rw [List.append_assoc, List.cons_append, sidesAhead_cons]
  simp only [opens]
  refine inside.trans ?_
  simp only [sidesAhead_cons, closes]

theorem bracketed (listed : Listed tokens height) (opens : turn opening = .opens)
    (closes : turn closing = .closes) (lexeme lexeme' : List Char)
    (behind : Reaches ⟨here, outer⟩ back final height') :
    Reaches ⟨here, outer⟩
      (⟨opening, lexeme⟩ :: tokens ++ [⟨closing, lexeme'⟩] ++ back) final
      (max (here + 4 + sidesAhead 0 false back + height) height') := by
  have inside := listed.closed closes lexeme' behind
  have leads := Place.Leads.opens here outer
  rw [← opens] at leads
  have whole := Reaches.cons lexeme leads inside
  have first := listed.sidesAhead_bracketed opens closes lexeme lexeme' false back
  rw [List.append_assoc, List.cons_append] at first
  rw [List.singleton_append] at first
  rw [first] at whole
  have front := (Place.mk here outer).around_le
    (⟨opening, lexeme⟩ :: (tokens ++ ⟨closing, lexeme'⟩ :: back))
  have shallow : (Place.mk here outer).here = here := rfl
  rw [Nat.max_eq_right (by omega)] at whole
  simpa using whole

end Listed

end TemplateSyntax.Expr
