import TemplateSyntax.Proofs.Expr.Height
import TemplateSyntax.Proofs.Expr.Number

/-!
# The limits of expressions

How deep the printed text of an expression goes, and whether its numbers are too
long, can be told from the expression: `levels` counts the nodes that lie in one
another, and `InDigitLimit` bounds the numbers.  `Weighs` says the same of tokens.
-/

namespace TemplateSyntax.Expr

open State (endsClause)

mutual

/-- How many nodes of the syntax tree lie in one another where the printed text
goes deepest.  An operand lies in an expression and an application, and a pair of
brackets is one node inside an operand of its own. -/
def levels : Expr → Nat
  | .apply function argument => max (levels function) (levels argument) + 4
  | .list items => levelsOf items + 4
  | .tuple items => levelsOf items + 4
  | .field record _ => levels record + 4
  | .name _ | .qualified _ _ | .integer _ | .rational _ | .string _ => 3

/-- The same for expressions side by side. -/
def levelsOf : List Expr → Nat
  | [] => 0
  | item :: items => max (levels item) (levelsOf items)

end

theorem three_le_levels (expr : Expr) : 3 ≤ expr.levels := by
  cases expr <;> rw [levels] <;> omega

mutual

/-- No run of digits in the printed text is too long: integers are small enough,
and rationals have a small whole part and few places. -/
def InDigitLimit : Expr → Prop
  | .integer value => value.natAbs < 10 ^ digitLimit
  | .rational value =>
      value.num.natAbs / value.den < 10 ^ digitLimit ∧
        value.den ∣ 10 ^ digitLimit
  | .apply function argument =>
      InDigitLimit function ∧ InDigitLimit argument
  | .list items => AllInDigitLimit items
  | .tuple items => AllInDigitLimit items
  | .field record _ => InDigitLimit record
  | .name _ | .qualified _ _ | .string _ => True

def AllInDigitLimit : List Expr → Prop
  | [] => True
  | item :: items => InDigitLimit item ∧ AllInDigitLimit items

end

/-! ### Tokens and their limits -/

/-- What the tokens of a printed expression come to: how deep they go, and
whether the numbers have a value. -/
structure Weighs (tokens : List Token) (height : Nat) (valued : Prop) :
    Prop where
  plain : ∀ token ∈ tokens, PlainToken token
  deepest : ∀ depth back,
    deepest depth (tokens ++ back) =
      max (depth + height) (deepest depth back)
  valued : (∀ token ∈ tokens, token.error? = none) ↔ valued

namespace Weighs

variable {tokens left right : List Token} {height height' : Nat}
  {valued valued' : Prop}

theorem nil : Weighs [] 0 True where
  plain := List.forall_mem_nil _
  deepest depth back := (Nat.max_eq_right (le_deepest depth back)).symm
  valued := iff_of_true (List.forall_mem_nil _) trivial

theorem single {token : Token} (plain : PlainToken token)
    (flat : ∀ depth, depthBehind depth token.terminal = depth) :
    Weighs [token] (if endsClause [token] then 0 else 3)
      (token.error? = none) := by
  refine ⟨List.forall_mem_singleton.mpr plain, ?_, List.forall_mem_singleton⟩
  intro depth back
  rw [List.singleton_append, Expr.deepest, flat]
  rfl

theorem single_of_ne_number {token : Token} (plain : PlainToken token)
    (flat : ∀ depth, depthBehind depth token.terminal = depth)
    (other : token.terminal ≠ .number) :
    Weighs [token] (if endsClause [token] then 0 else 3) True := by
  have weighs := single plain flat
  rwa [Token.error?, if_neg other, eq_self] at weighs

theorem append (first : Weighs left height valued)
    (second : Weighs right height' valued') :
    Weighs (left ++ right) (max height height') (valued ∧ valued') := by
  refine ⟨List.forall_mem_append.mpr ⟨first.plain, second.plain⟩, ?_, ?_⟩
  · intro depth back
    rw [List.append_assoc, first.deepest, second.deepest]
    omega
  · rw [List.forall_mem_append, first.valued, second.valued]

theorem congr (weighs : Weighs tokens height valued)
    (sameHeight : height = height') (sameValued : valued ↔ valued') :
    Weighs tokens height' valued' := by
  rw [← sameHeight]
  exact ⟨weighs.plain, weighs.deepest, weighs.valued.trans sameValued⟩

theorem bracketed {opening closing : Terminal} {lexeme lexeme' : List Char}
    (opens : opening = .exprOpenParen ∨ opening = .exprOpenBracket)
    (closes : closing = .exprCloseParen ∨ closing = .exprCloseBracket)
    (inside : Weighs tokens height valued) :
    Weighs (⟨opening, lexeme⟩ :: tokens ++ [⟨closing, lexeme'⟩])
      (height + 4) valued := by
  have openPlain : PlainToken ⟨opening, lexeme⟩ := by
    rcases opens with rfl | rfl <;> simp [PlainToken]
  have closePlain : PlainToken ⟨closing, lexeme'⟩ := by
    rcases closes with rfl | rfl <;> simp [PlainToken]
  have openSound : Token.error? ⟨opening, lexeme⟩ = none := by
    rcases opens with rfl | rfl <;> rfl
  have closeSound : Token.error? ⟨closing, lexeme'⟩ = none := by
    rcases closes with rfl | rfl <;> rfl
  refine ⟨?_, ?_, ?_⟩
  · rw [List.cons_append, List.forall_mem_cons, List.forall_mem_append,
      List.forall_mem_singleton]
    exact ⟨openPlain, inside.plain, closePlain⟩
  · intro depth back
    have down : Expr.deepest depth
        (⟨opening, lexeme⟩ :: (tokens ++ ⟨closing, lexeme'⟩ :: back)) =
        max (depth + 3)
          (Expr.deepest (depth + 4) (tokens ++ ⟨closing, lexeme'⟩ :: back)) := by
      rcases opens with rfl | rfl <;> rfl
    have up : Expr.deepest (depth + 4) (⟨closing, lexeme'⟩ :: back) =
        max (depth + 4) (Expr.deepest depth back) := by
      rcases closes with rfl | rfl <;> rfl
    rw [List.append_assoc, List.cons_append, List.singleton_append, down,
      inside.deepest, up]
    omega
  · rw [List.cons_append, List.forall_mem_cons, List.forall_mem_append,
      List.forall_mem_singleton, and_iff_right openSound,
      and_iff_left closeSound, inside.valued]

end Weighs

end TemplateSyntax.Expr
