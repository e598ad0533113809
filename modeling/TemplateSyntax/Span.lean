/-!
# Spans

A span is a half-open range of character positions in a text.  Its ends are in
order by construction; an empty span marks a point, such as the end of input.
Spans are ordered by their start and then by their end.
-/

namespace TemplateSyntax

/-- The positions from `start` up to, and without, `stop`. -/
@[ext] structure Span where
  start : Nat
  stop : Nat
  start_le_stop : start ≤ stop
  deriving DecidableEq

/-- Why two numbers are no span. -/
inductive SpanError where
  | negativeStart (start : Int)
  | reversed (start stop : Int)
  deriving DecidableEq, Repr

def SpanError.message : SpanError → String
  | .negativeStart start =>
      s!"SourceSpan.start cannot be negative (got {start})"
  | .reversed start stop => s!"SourceSpan.end ({stop}) < start ({start})"

namespace Span

/-- The empty span at a position. -/
def point (position : Nat) : Span :=
  ⟨position, position, Nat.le_refl position⟩

def single (position : Nat) : Span :=
  ⟨position, position + 1, Nat.le_succ position⟩

/-- The span between two numbers; a negative start is reported before ends in
the wrong order. -/
def ofInts (start stop : Int) : Except SpanError Span :=
  if negative : start < 0 then .error (.negativeStart start)
  else if reversed : stop < start then .error (.reversed start stop)
  else .ok ⟨start.toNat, stop.toNat, by omega⟩

def length (span : Span) : Nat :=
  span.stop - span.start

/-- The span moved towards the end of the text. -/
def advance (span : Span) (distance : Nat) : Span :=
  ⟨span.start + distance, span.stop + distance,
    Nat.add_le_add_right span.start_le_stop distance⟩

/-- The span moved by a distance that may be negative. -/
def shift (span : Span) (distance : Int) : Except SpanError Span :=
  ofInts (span.start + distance) (span.stop + distance)

/-- Order by start, then by end. -/
def compare (left right : Span) : Ordering :=
  (Ord.compare left.start right.start).then
    (Ord.compare left.stop right.stop)

theorem shift_natCast (span : Span) (distance : Nat) :
    span.shift distance = .ok (span.advance distance) := by
  have ordered := span.start_le_stop
  have notNegative : ¬ ((span.start : Int) + distance < 0) := by omega
  have notReversed :
      ¬ ((span.stop : Int) + distance < span.start + distance) := by omega
  rw [shift, ofInts, dif_neg notNegative, dif_neg notReversed]
  congr 1

end Span

end TemplateSyntax
