import Mathlib.Data.List.Forall2
import TemplateSyntax.Proofs.Item.Canonical

/-!
# Merged lines

Merging is a normal form.  It leaves no two literals side by side, and it keeps
the other items in order with the same text between them; no other list of items
does this for the same line (`mergedForm_iff`).  So it does not matter what has
been merged before, nor whether the items come all at once or one by one, each
put behind those that are merged already (`merge_normalForm`).
-/

namespace TemplateSyntax.Item

/-! ### Runs of literals -/

/-- The text of a literal; other items have none. -/
def literalPart : Item → String
  | .literal text => text
  | _ => ""

def joinedText (items : List Item) : String :=
  String.join (items.map literalPart)

@[simp]
theorem joinedText_nil : joinedText [] = "" := rfl

@[simp]
theorem joinedText_cons (item : Item) (items : List Item) :
    joinedText (item :: items) = item.literalPart ++ joinedText items :=
  String.join_cons

/-- The items that are not literals. -/
def others (items : List Item) : List Item :=
  items.filter fun item => !item.isLiteral

/-- The literals of a line, run by run: in front of its first other item, between
every two that follow each other, and behind the last. -/
def literalRuns (items : List Item) : List (List Item) :=
  items.splitOnP fun item => !item.isLiteral

theorem literalRuns_literal (text : String) (items : List Item) :
    literalRuns (.literal text :: items) =
      (literalRuns items).modifyHead (.literal text :: ·) :=
  List.splitOnP_cons_eq_if_modifyHead ..

theorem literalRuns_other {item : Item} (other : item.isLiteral = false)
    (items : List Item) :
    literalRuns (item :: items) = [] :: literalRuns items := by
  rw [literalRuns, List.splitOnP_cons_eq_if_modifyHead, other]
  rfl

/-- A line is made up of its runs and its other items in turn. -/
theorem eq_of_literalRuns {items items' : List Item}
    (sameRuns : literalRuns items = literalRuns items')
    (sameOthers : others items = others items') : items = items' := by
  have first := List.splitOnP_spec (p := fun item => !item.isLiteral) items
  have second := List.splitOnP_spec (p := fun item => !item.isLiteral) items'
  rw [literalRuns, literalRuns] at sameRuns
  rw [others, others] at sameOthers
  rw [← first, sameRuns, sameOthers, second]

/-! ### Merging run by run -/

/-- A run of literals as a single literal; none where there is none. -/
def joinRun (run : List Item) : List Item :=
  if run.isEmpty then [] else [.literal (joinedText run)]

theorem prepend_joinRun (text : String) (run : List Item) :
    prepend (.literal text) (joinRun run) = joinRun (.literal text :: run) := by
  cases run <;> simp [joinRun, prepend, literalPart]

theorem literalRuns_prepend (text : String) (items : List Item) :
    literalRuns (prepend (.literal text) items) =
      (literalRuns items).modifyHead (prepend (.literal text)) := by
  cases items with
  | nil => rfl
  | cons item items =>
      rcases item.literal_or_other with ⟨right, rfl⟩ | other
      · rw [prepend, literalRuns_literal, literalRuns_literal,
          List.modifyHead_modifyHead]
        rfl
      · rw [prepend_before_other _ other, literalRuns_literal,
          literalRuns_other other]
        rfl

theorem literalRuns_merge (items : List Item) :
    literalRuns (merge items) = (literalRuns items).map joinRun := by
  induction items with
  | nil => rfl
  | cons item items ih =>
      rw [merge]
      rcases item.literal_or_other with ⟨text, rfl⟩ | other
      · rw [literalRuns_prepend, ih, literalRuns_literal]
        cases literalRuns items with
        | nil => rfl
        | cons run runs =>
            rw [List.map_cons, List.modifyHead_cons, prepend_joinRun]
            rfl
      · rw [prepend_other other, literalRuns_other other, ih,
          literalRuns_other other]
        rfl

theorem others_prepend (item : Item) (items : List Item) :
    others (prepend item items) = others (item :: items) := by
  rcases item.literal_or_other with ⟨text, rfl⟩ | other
  · cases items with
    | nil => rfl
    | cons next rest => cases next <;> rfl
  · rw [prepend_other other]

theorem others_merge (items : List Item) :
    others (merge items) = others items := by
  induction items with
  | nil => rfl
  | cons item items ih =>
      rw [merge, others_prepend]
      cases literal : item.isLiteral <;> simpa [others, literal] using ih

theorem keptApart_merge (items : List Item) :
    (merge items).IsChain KeptApart := by
  induction items with
  | nil => exact .nil
  | cons item items ih =>
      exact isChain_prepend ih (fun _ _ _ apart => apart) fun _ _ apart => apart

theorem merge_of_keptApart {items : List Item}
    (apart : items.IsChain KeptApart) : merge items = items := by
  induction items with
  | nil => rfl
  | cons item items ih =>
      rw [merge, ih apart.tail]
      exact prepend_of_keptApart fun next head => apart.rel_head? head

/-! ### The merged form -/

/-- What stands for a run of literals has the text of the run, and nothing stands
there just if the run is empty: an empty literal does not vanish. -/
structure StandsForRun (run part : List Item) : Prop where
  text : joinedText part = joinedText run
  present : part = [] ↔ run = []

/-- The form has no two literals side by side.  It has the other items of the line
in order and, between every two of them and at both ends, the same text. -/
structure MergedForm (items form : List Item) : Prop where
  apart : form.IsChain KeptApart
  others : others form = others items
  runs : List.Forall₂ StandsForRun (literalRuns items) (literalRuns form)

theorem standsForRun_joinRun (run : List Item) :
    StandsForRun run (joinRun run) := by
  cases run with
  | nil => exact ⟨rfl, Iff.rfl⟩
  | cons item run => constructor <;> simp [joinRun, literalPart]

theorem StandsForRun.joinRun_eq {run part : List Item}
    (stands : StandsForRun run part) : joinRun run = joinRun part := by
  rw [joinRun, joinRun, stands.text]
  simp [stands.present]

/-- Merging gives the merged form, which is the only one. -/
theorem mergedForm_iff {items form : List Item} :
    MergedForm items form ↔ form = merge items := by
  constructor
  · intro merged
    have sameRuns :
        (literalRuns items).map joinRun = (literalRuns form).map joinRun := by
      rw [← List.forall₂_eq_eq_eq, List.forall₂_map_left_iff,
        List.forall₂_map_right_iff]
      exact merged.runs.imp fun _ _ stands => stands.joinRun_eq
    apply eq_of_literalRuns
    · rw [literalRuns_merge, sameRuns, ← literalRuns_merge,
        merge_of_keptApart merged.apart]
    · rw [others_merge, merged.others]
  · rintro rfl
    refine ⟨keptApart_merge items, others_merge items, ?_⟩
    rw [literalRuns_merge, List.forall₂_map_right_iff, List.forall₂_same]
    exact fun run _ => standsForRun_joinRun run

/-! ### Merging item by item -/

/-- Put an item behind merged items: a literal is joined to a literal at the
end. -/
def putBehind (items : List Item) (item : Item) : List Item :=
  match items.getLast?, item with
  | some (.literal left), .literal right =>
      items.dropLast ++ [.literal (left ++ right)]
  | _, item => items ++ [item]

theorem putBehind_literal (front : List Item) (left right : String) :
    putBehind (front ++ [.literal left]) (.literal right) =
      front ++ [.literal (left ++ right)] := by
  simp [putBehind]

theorem putBehind_of_keptApart {items : List Item} {item : Item}
    (apart : ∀ last, items.getLast? = some last → KeptApart last item) :
    putBehind items item = items ++ [item] := by
  rw [putBehind]
  rintro left right ends rfl
  exact apart _ ends ⟨rfl, rfl⟩

theorem merge_concat {items : List Item} (apart : items.IsChain KeptApart)
    (item : Item) : merge (items ++ [item]) = putBehind items item := by
  have grown (single : ∀ last, items.getLast? = some last →
      KeptApart last item) : merge (items ++ [item]) = putBehind items item := by
    rw [putBehind_of_keptApart single]
    refine merge_of_keptApart (apart.append (.singleton item) ?_)
    rintro last ends next head
    cases head
    exact single last ends
  rcases item.literal_or_other with ⟨right, rfl⟩ | other
  · rcases List.eq_nil_or_concat' items with rfl | ⟨front, last, rfl⟩
    · rfl
    · rcases last.literal_or_other with ⟨left, rfl⟩ | other
      · rw [putBehind_literal, List.append_assoc, ← merge_append_merge]
        -- merged again, since the joined literal stands where the last one stood
        obtain ⟨first, _, meet⟩ := List.isChain_append.mp apart
        refine merge_of_keptApart (first.append (.singleton _) ?_)
        rintro before ends next head
        cases head
        exact meet before ends (.literal left) rfl
      · refine grown fun _ ends => ?_
        rw [List.getLast?_concat] at ends
        cases ends
        exact .of_left other
  · exact grown fun _ _ => .of_right other

/-- After each step, the form is the merged form of all items so far. -/
theorem MergedForm.putBehind {items form : List Item}
    (merged : MergedForm items form) (item : Item) :
    MergedForm (items ++ [item]) (putBehind form item) := by
  rw [mergedForm_iff, ← merge_concat merged.apart, mergedForm_iff.mp merged,
    merge_merge_append]

theorem mergedForm_foldl (items : List Item) :
    MergedForm items (items.foldl putBehind []) := by
  induction items using List.reverseRecOn with
  | nil => exact mergedForm_iff.mpr rfl
  | append_singleton items item ih =>
      rw [List.foldl_append]
      exact ih.putBehind item

/-- Merging gives the one merged form of a line, whether some of its parts have
been merged before or the items come one by one.  Merged items stay as they
are. -/
theorem merge_normalForm :
    (∀ items form : List Item, MergedForm items form ↔ form = merge items) ∧
    (∀ front back : List Item,
      merge (merge front ++ merge back) = merge (front ++ back)) ∧
    (∀ items : List Item, merge (merge items) = merge items) ∧
    ∀ items : List Item, items.foldl putBehind [] = merge items := by
  refine ⟨fun _ _ => mergedForm_iff, ?_, merge_merge, ?_⟩
  · intro front back
    rw [merge_merge_append, merge_append_merge]
  · intro items
    exact mergedForm_iff.mp (mergedForm_foldl items)

example : merge [.literal "a", .literal "b", .ifEnd, .literal "", .otherwise] =
    [.literal "ab", .ifEnd, .literal "", .otherwise] := by
  decide

end TemplateSyntax.Item
