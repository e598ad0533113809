import Mathlib.Data.String.Basic
import TemplateSyntax.Triggers.History

/-!
# Triggers over a history of choices

The pairs of texts that can be set are known in advance (`ValidTriggers`), and
the triggers reached by histories are just these pairs
(`Triggers.exists_after_iff`).  Setting triggers anew succeeds for known keys
and a valid pair only, and unknown keys are named in ascending order
(`Triggers.histories`).
-/

namespace TemplateSyntax

/-- The text is one character that is neither white space nor one of those that
carry meaning right after a trigger. -/
def IsTriggerText (text : String) : Prop :=
  ∃ c : Char, text = c.toString ∧ Unicode.isSpacing c = false ∧
    c ∉ ['\\', '{', '}']

/-- The two texts can be the triggers of one pair. -/
structure ValidTriggers (control value : String) : Prop where
  control_ok : IsTriggerText control
  value_ok : IsTriggerText value
  differ : control ≠ value

def triggerKeys : List String :=
  ["control_prefix", "variable_prefix"]

theorem canTrigger_iff {c : Char} :
    canTrigger c = true ↔
      Unicode.isSpacing c = false ∧ c ∉ ['\\', '{', '}'] := by
  simp [canTrigger, reservedTriggers]

theorem isTriggerText_iff {text : String} :
    IsTriggerText text ↔ ∃ c : Char, text = c.toString ∧
      canTrigger c = true := by
  simp only [IsTriggerText, canTrigger_iff]

theorem toString_injective {c d : Char} (same : c.toString = d.toString) :
    c = d := by
  have lists := congrArg String.toList same
  simpa [Char.toString] using lists

namespace Triggers

/-! ### Pairs made of two texts -/

theorem characterFor_eq_ok_iff {role : TriggerRole} {given : String}
    {trigger : { c : Char // canTrigger c = true }} :
    characterFor role given = .ok trigger ↔ given = trigger.val.toString := by
  obtain ⟨c, allowed⟩ := trigger
  constructor
  · intro answer
    rw [characterFor] at answer
    split at answer
    · rename_i d single
      split at answer
      · cases answer
        rw [← String.ofList_toList (s := given), single]
        rfl
      · cases answer
    · cases answer
  · rintro rfl
    simp [characterFor, Char.toString, allowed]

theorem ofStrings_eq_ok_iff {control value : String} {triggers : Triggers} :
    ofStrings control value = .ok triggers ↔
      control = triggers.control.toString ∧
        value = triggers.value.toString := by
  constructor
  · intro answer
    rw [ofStrings] at answer
    cases first : characterFor .control control with
    | error error => simp [first, bind, Except.bind] at answer
    | ok controlChar =>
        cases second : characterFor .value value with
        | error error => simp [first, second, bind, Except.bind] at answer
        | ok valueChar =>
            simp only [first, second, bind, Except.bind] at answer
            split at answer
            · cases answer
            · cases answer
              exact ⟨characterFor_eq_ok_iff.mp first,
                characterFor_eq_ok_iff.mp second⟩
  · rintro ⟨rfl, rfl⟩
    have first : characterFor .control triggers.control.toString =
        .ok ⟨triggers.control, triggers.control_ok⟩ :=
      characterFor_eq_ok_iff.mpr rfl
    have second : characterFor .value triggers.value.toString =
        .ok ⟨triggers.value, triggers.value_ok⟩ :=
      characterFor_eq_ok_iff.mpr rfl
    rw [ofStrings, first, second]
    simp only [bind, Except.bind, triggers.control_ne_value, dif_neg,
      not_false_eq_true]

/-- Two texts can be set together if and only if a pair is made of them. -/
theorem validTriggers_iff {control value : String} :
    ValidTriggers control value ↔
      ∃ triggers, ofStrings control value = .ok triggers := by
  simp only [ofStrings_eq_ok_iff]
  constructor
  · intro valid
    obtain ⟨c, rfl, controlOk⟩ := isTriggerText_iff.mp valid.control_ok
    obtain ⟨v, rfl, valueOk⟩ := isTriggerText_iff.mp valid.value_ok
    have differ : c ≠ v := by
      rintro rfl
      exact valid.differ rfl
    exact ⟨⟨c, v, controlOk, valueOk, differ⟩, rfl, rfl⟩
  · rintro ⟨triggers, rfl, rfl⟩
    refine ⟨?_, ?_, ?_⟩
    · exact isTriggerText_iff.mpr ⟨_, rfl, triggers.control_ok⟩
    · exact isTriggerText_iff.mpr ⟨_, rfl, triggers.value_ok⟩
    · intro same
      exact triggers.control_ne_value (toString_injective same)

/-! ### Triggers set anew -/

section Override

variable {current next : Triggers} {settings : List (String × String)}

theorem mem_unknownKeys_iff {key : String} :
    key ∈ unknownKeys settings ↔
      key ∈ settings.map Prod.fst ∧ key ∉ triggerKeys := by
  rw [unknownKeys, List.mem_mergeSort, List.mem_filter]
  simp [triggerKeys, TriggerRole.key]

theorem unknownKeys_perm (settings : List (String × String)) :
    (unknownKeys settings).Perm
      ((settings.map Prod.fst).filter fun key => key ∉ triggerKeys) := by
  have same : ∀ key : String,
      (key != TriggerRole.control.key && key != TriggerRole.value.key) =
        decide (key ∉ triggerKeys) := by
    intro key
    simp only [triggerKeys, TriggerRole.key, List.mem_cons, List.not_mem_nil,
      or_false, not_or, Bool.decide_and, bne, beq_eq_decide, decide_not]
  rw [unknownKeys, List.filter_congr fun key _ => same key]
  exact List.mergeSort_perm _ _

theorem unknownKeys_ascending (settings : List (String × String)) :
    (unknownKeys settings).Pairwise
      fun left right => left.toList ≤ right.toList := by
  have transitive : ∀ a b c : String, decide (a ≤ b) = true →
      decide (b ≤ c) = true → decide (a ≤ c) = true := by
    intro a b c first second
    exact decide_eq_true (String.le_trans (of_decide_eq_true first)
      (of_decide_eq_true second))
  have total : ∀ a b : String,
      (decide (a ≤ b) || decide (b ≤ a)) = true := by
    intro a b
    simpa using String.le_total a b
  have sorted := List.pairwise_mergeSort transitive total
    ((settings.map Prod.fst).filter fun key =>
      key != TriggerRole.control.key && key != TriggerRole.value.key)
  refine sorted.imp ?_
  intro left right before
  exact String.le_iff_toList_le.mp (of_decide_eq_true before)

theorem override_of_known
    (known : ∀ key ∈ settings.map Prod.fst, key ∈ triggerKeys) :
    current.override settings = current.change settings := by
  have free : receiverKey ∉ settings.map Prod.fst := by
    intro taken
    exact absurd (known _ taken) (by decide)
  have none : unknownKeys settings = [] := by
    rw [List.eq_nil_iff_forall_not_mem]
    intro key unknown
    obtain ⟨member, strange⟩ := mem_unknownKeys_iff.mp unknown
    exact strange (known key member)
  rw [override, if_neg free, none]

theorem override_of_unknown (free : receiverKey ∉ settings.map Prod.fst)
    {key : String} (member : key ∈ settings.map Prod.fst)
    (unknown : key ∉ triggerKeys) :
    current.override settings = .error (.unknownKeys (unknownKeys settings)) := by
  have there := mem_unknownKeys_iff.mpr ⟨member, unknown⟩
  rw [override, if_neg free]
  split
  · rename_i none
    rw [none] at there
    cases there
  · rfl

theorem override_of_receiver (taken : receiverKey ∈ settings.map Prod.fst) :
    current.override settings = .error .receiverSet :=
  if_pos taken

theorem known_of_override (answer : current.override settings = .ok next) :
    ∀ key ∈ settings.map Prod.fst, key ∈ triggerKeys := by
  intro key member
  by_contra unknown
  by_cases taken : receiverKey ∈ settings.map Prod.fst
  · rw [override_of_receiver taken] at answer
    cases answer
  · rw [override_of_unknown taken member unknown] at answer
    cases answer

end Override

/-- The settings are refused with all their unknown keys, in ascending order. -/
structure NamesUnknown (current : Triggers) (settings : List (String × String))
    (names : List String) : Prop where
  refused : current.override settings = .error (.unknownKeys names)
  message_eq : (TriggerError.unknownKeys names).message =
    "Unknown ParseOptions override keys: " ++ String.intercalate ", " names
  perm : names.Perm
    ((settings.map Prod.fst).filter fun key => key ∉ triggerKeys)
  ascending : names.Pairwise fun left right => left.toList ≤ right.toList

/-- What setting triggers of a pair anew amounts to: the texts under the two
keys take the place of the current triggers. -/
structure OverridesBy (current : Triggers) (settings : List (String × String))
    (control value : String) : Prop where
  /-- It succeeds for known keys and a valid pair, and for nothing else. -/
  succeeds_iff : (∃ next, current.override settings = .ok next) ↔
    (∀ key ∈ settings.map Prod.fst, key ∈ triggerKeys) ∧
      ValidTriggers control value
  /-- The result is the pair made of the two texts. -/
  result : ∀ next, current.override settings = .ok next →
    ofStrings control value = .ok next
  /-- Unknown keys are named, whatever the values, unless the key of the pair
  itself is among them. -/
  names_iff : (∃ key ∈ settings.map Prod.fst, key ∉ triggerKeys) →
    ((∃ names, current.NamesUnknown settings names) ↔
      receiverKey ∉ settings.map Prod.fst)
  /-- The key of the pair itself is refused before all others. -/
  receiver : receiverKey ∈ settings.map Prod.fst →
    current.override settings = .error .receiverSet

theorem overridesBy (current : Triggers) (settings : List (String × String)) :
    current.OverridesBy settings
      ((settings.lookup "control_prefix").getD current.control.toString)
      ((settings.lookup "variable_prefix").getD current.value.toString) where
  succeeds_iff := by
    constructor
    · rintro ⟨next, answer⟩
      have known := known_of_override answer
      rw [override_of_known known] at answer
      exact ⟨known, validTriggers_iff.mpr ⟨next, answer⟩⟩
    · rintro ⟨known, valid⟩
      rw [override_of_known known]
      exact validTriggers_iff.mp valid
  result := by
    intro next answer
    rwa [override_of_known (known_of_override answer)] at answer
  names_iff := by
    rintro ⟨key, member, strange⟩
    constructor
    · rintro ⟨names, named⟩ taken
      have refused := named.refused
      rw [override_of_receiver taken] at refused
      cases refused
    · intro free
      exact ⟨unknownKeys settings, {
        refused := override_of_unknown free member strange
        message_eq := rfl
        perm := unknownKeys_perm settings
        ascending := unknownKeys_ascending settings }⟩
  receiver := override_of_receiver

/-! ### Histories -/

theorem after_append (steps : List TriggerStep) (step : TriggerStep) :
    after (steps ++ [step]) = (after steps).next step := by
  rw [after, List.foldl_append]
  rfl

/-- The pairs reached by histories are just the valid ones. -/
theorem exists_after_iff {control value : String} :
    (∃ steps, (after steps).control.toString = control ∧
        (after steps).value.toString = value) ↔
      ValidTriggers control value := by
  constructor
  · rintro ⟨steps, rfl, rfl⟩
    exact validTriggers_iff.mpr ⟨_, ofStrings_eq_ok_iff.mpr ⟨rfl, rfl⟩⟩
  · intro valid
    obtain ⟨triggers, made⟩ := validTriggers_iff.mp valid
    obtain ⟨controlEq, valueEq⟩ := ofStrings_eq_ok_iff.mp made
    have reached : after [.make (some control) (some value)] = triggers := by
      simp only [after, List.foldl_cons, List.foldl_nil, next,
        TriggerStep.answer, Option.getD_some, made]
    exact ⟨_, reached ▸ controlEq.symm, reached ▸ valueEq.symm⟩

/-- Every history reaches a valid pair.  A further step reaches the pair it
answers, or stays where it fails, and setting triggers anew is exact there. -/
theorem histories (steps : List TriggerStep) :
    ValidTriggers (after steps).control.toString
      (after steps).value.toString ∧
    (∀ step, after (steps ++ [step]) =
      match step.answer (after steps) with
      | .ok chosen => chosen
      | .error _ => after steps) ∧
    ∀ settings, (after steps).OverridesBy settings
      ((settings.lookup "control_prefix").getD
        (after steps).control.toString)
      ((settings.lookup "variable_prefix").getD
        (after steps).value.toString) :=
  ⟨exists_after_iff.mp ⟨steps, rfl, rfl⟩, after_append steps,
    overridesBy (after steps)⟩

end Triggers

end TemplateSyntax
