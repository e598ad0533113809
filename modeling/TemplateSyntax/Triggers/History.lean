import TemplateSyntax.Triggers

/-!
# Histories of trigger choices

Triggers are chosen step by step, beginning with the standard pair.  A step
makes a pair of its own or changes the current one; a step that fails leaves the
current pair as it is.
-/

namespace TemplateSyntax

/-- One way to choose triggers. -/
inductive TriggerStep where
  /-- A new pair; a trigger that is not given is the standard one. -/
  | make (control value : Option String)
  /-- The current pair with some of its triggers set anew. -/
  | override (settings : List (String × String))
  /-- The named pair. -/
  | preset (name : String)
  /-- The standard pair. -/
  | standard
  deriving DecidableEq, Repr

/-- What a step answers. -/
def TriggerStep.answer (current : Triggers) :
    TriggerStep → Except TriggerError Triggers
  | .make control value =>
      Triggers.ofStrings
        (control.getD Triggers.standard.control.toString)
        (value.getD Triggers.standard.value.toString)
  | .override settings => current.override settings
  | .preset name => Triggers.preset name
  | .standard => .ok Triggers.standard

namespace Triggers

/-- The pair after a step. -/
def next (current : Triggers) (step : TriggerStep) : Triggers :=
  match step.answer current with
  | .ok chosen => chosen
  | .error _ => current

/-- The pair after a history of steps. -/
def after (steps : List TriggerStep) : Triggers :=
  steps.foldl next standard

end Triggers

end TemplateSyntax
