import TemplateSyntax.Text.Quoted
import TemplateSyntax.Unicode.Blank

/-!
# Trigger characters

Two characters open everything that is not literal text: the control trigger
opens directives and the value trigger opens interpolations.  Neither may be
white space or one of the characters that carry meaning right after a trigger,
and the two must differ; `Triggers` holds only such pairs.
-/

namespace TemplateSyntax

/-- The two places a trigger character is asked for. -/
inductive TriggerRole where
  | control
  | value
  deriving DecidableEq, Repr

/-- The name under which a trigger is set. -/
def TriggerRole.key : TriggerRole → String
  | .control => "control_prefix"
  | .value => "variable_prefix"

/-- Characters that carry meaning right after a trigger. -/
def reservedTriggers : List Char := ['\\', '{', '}']

def canTrigger (c : Char) : Bool :=
  !Unicode.isSpacing c && !reservedTriggers.contains c

/-- Why a choice of triggers is refused. -/
inductive TriggerError where
  | notSingle (role : TriggerRole) (given : String)
  | notAllowed (role : TriggerRole) (given : Char)
  | same (given : Char)
  /-- The pair to be changed is among the settings itself. -/
  | receiverSet
  | unknownKeys (keys : List String)
  | unknownPreset (name : String)
  deriving DecidableEq, Repr

def TriggerError.message : TriggerError → String
  | .notSingle role given =>
      s!"{role.key} must be a single character (got {Text.quoted given})"
  | .notAllowed role given =>
      s!"{role.key} cannot be {Text.quoted given.toString}"
  | .same given =>
      let shown := Text.quoted given.toString
      s!"control_prefix and variable_prefix must differ (both are {shown})"
  | .receiverSet =>
      "ParseOptions.evolve() got multiple values for argument 'self'"
  | .unknownKeys keys =>
      "Unknown ParseOptions override keys: " ++ String.intercalate ", " keys
  | .unknownPreset name =>
      "Unknown options preset: " ++ Text.quoted name

/-- A pair of trigger characters that can be told apart from each other and
from the text around them.  Triggers and texts range over the Unicode scalar
values, so neither holds a lone surrogate. -/
structure Triggers where
  control : Char
  value : Char
  control_ok : canTrigger control = true
  value_ok : canTrigger value = true
  control_ne_value : control ≠ value
  deriving DecidableEq

namespace Triggers

/-- A text as the single allowed character of a trigger. -/
def characterFor (role : TriggerRole) (given : String) :
    Except TriggerError { c : Char // canTrigger c = true } :=
  match given.toList with
  | [c] =>
      if allowed : canTrigger c = true then .ok ⟨c, allowed⟩
      else .error (.notAllowed role c)
  | _ => .error (.notSingle role given)

/-- The triggers two texts stand for.  The control trigger is judged before
the value trigger, and each on its own before both together. -/
def ofStrings (control value : String) : Except TriggerError Triggers := do
  let ⟨control, control_ok⟩ ← characterFor .control control
  let ⟨value, value_ok⟩ ← characterFor .value value
  if same : control = value then
    .error (.same control)
  else
    .ok ⟨control, value, control_ok, value_ok, same⟩

/-- Per cent for directives and hash for interpolations. -/
def standard : Triggers :=
  ⟨'%', '#', by decide, by decide, by decide⟩

/-- Dollar for directives and at sign for interpolations. -/
def dollar : Triggers :=
  ⟨'$', '@', by decide, by decide, by decide⟩

/-- The named pairs, in the order of their names. -/
def presets : List (String × Triggers) :=
  [("default", standard), ("dollar", dollar)]

def presetNames : List String :=
  presets.map Prod.fst

/-- A preset name without surrounding white space and in lower case.  Folding
the ASCII letters is enough, because no other character folds to a letter of a
preset's name. -/
def foldName (name : String) : String :=
  let front := name.toList.dropWhile Unicode.isSpacing
  let inner := (front.reverse.dropWhile Unicode.isSpacing).reverse
  String.ofList (inner.map Char.toLower)

def preset (name : String) : Except TriggerError Triggers :=
  match presets.lookup (foldName name) with
  | some triggers => .ok triggers
  | none => .error (.unknownPreset name)

/-- The keys of a list of settings that set no trigger, in ascending order. -/
def unknownKeys (settings : List (String × String)) : List String :=
  ((settings.map Prod.fst).filter fun key =>
    key != TriggerRole.control.key && key != TriggerRole.value.key).mergeSort
      fun left right => left ≤ right

/-- The text set for a trigger, or the character it has now. -/
def setting (settings : List (String × String)) (role : TriggerRole)
    (current : Char) : String :=
  (settings.lookup role.key).getD current.toString

/-- The triggers with some of them set anew. -/
def change (triggers : Triggers) (settings : List (String × String)) :
    Except TriggerError Triggers :=
  ofStrings (setting settings .control triggers.control)
    (setting settings .value triggers.value)

/-- The key under which the pair to be changed is handed over. -/
def receiverKey : String :=
  "self"

/-- The triggers with some of them set anew by keys that may be unknown.
Unknown keys are reported before any value is judged.  A setting under the key
of the pair itself is refused before all others: that key is taken. -/
def override (triggers : Triggers) (settings : List (String × String)) :
    Except TriggerError Triggers :=
  if receiverKey ∈ settings.map Prod.fst then .error .receiverSet
  else
    match unknownKeys settings with
    | [] => triggers.change settings
    | unknown => .error (.unknownKeys unknown)

end Triggers

end TemplateSyntax
