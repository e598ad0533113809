import TemplateSyntax.Pattern
import TemplateSyntax.Reading.Language

/-!
# Reading patterns

The states of a pattern reader.  Inside a pattern a state holds the constructor
whose arguments are being read and the aliases in front of the part being read
(`Clause`), and the brackets still open around it; between the fields of a
record it holds the record so far.  Only the first constructor of a pattern
takes arguments, and a record never does.
-/

namespace TemplateSyntax.Pattern

/-- What stands to the left of the part being read, inside the innermost open
bracket. -/
structure Clause where
  /-- The constructor being applied and its arguments so far, latest first. -/
  head : Option (QualifiedName × List Pattern)
  /-- The aliases directly in front, latest first. -/
  aliases : List String

namespace Clause

/-- Nothing stands to the left. -/
def empty : Clause := ⟨none, []⟩

/-- A part with the aliases in front of it. -/
def named (clause : Clause) (part : Pattern) : Pattern :=
  clause.aliases.foldl (fun pattern name => .named name pattern) part

/-- The pattern that ends in a part. -/
def close (clause : Clause) (part : Pattern) : Pattern :=
  match clause.head with
  | none => clause.named part
  | some (head, arguments) =>
      .construct head (arguments.reverse ++ [clause.named part])

/-- The clause in front of the next argument, behind a part. -/
def push (clause : Clause) (part : Pattern) : Clause :=
  ⟨clause.head.map fun (head, arguments) =>
    (head, clause.named part :: arguments), []⟩

/-- The clause in front of the first argument of a constructor. -/
def headed (head : QualifiedName) : Clause :=
  ⟨some (head, []), []⟩

/-- The clause behind one more alias. -/
def under (clause : Clause) (name : String) : Clause :=
  { clause with aliases := name :: clause.aliases }

/-- How many nodes of the syntax tree a clause lies around a part: one for every
alias, and one for an application. -/
def depth (clause : Clause) : Nat :=
  clause.aliases.length + clause.head.toList.length

end Clause

/-- A record being read: its fields so far, latest first, and what stands to the
left of it. -/
structure OpenRecord where
  head : QualifiedName
  fields : List (String × Pattern)
  outer : Clause

def OpenRecord.push (record : OpenRecord) (name : String)
    (value : Pattern) : OpenRecord :=
  { record with fields := (name, value) :: record.fields }

def OpenRecord.close (record : OpenRecord) (wildcard : Bool) : Pattern :=
  .record record.head record.fields.reverse wildcard

/-- An open bracket around the part being read. -/
inductive Frame where
  /-- A tuple, its items so far, latest first, and what stands to its left. -/
  | tuple (items : List Pattern) (outer : Clause)
  | list (items : List Pattern) (outer : Clause)
  /-- The value of a named field of a record. -/
  | field (record : OpenRecord) (name : String)

/-- The tuple that ends in an item; parentheses around one item only group. -/
def closeTuple (items : List Pattern) (last : Pattern) : Pattern :=
  match items with
  | [] => last
  | items => .tuple (items.reverse ++ [last])

inductive Phase where
  /-- A pattern or the part behind an alias begins here. -/
  | start
  /-- The first item of a tuple or list begins here, or the bracket closes. -/
  | opened
  /-- A variable has been read, which may turn out to be an alias. -/
  | var (name : String)
  /-- Pieces of a constructor's name have been read, latest first. -/
  | pieces (names : List String)
  /-- A dot behind such pieces: one more piece must follow. -/
  | piece (names : List String)
  /-- A part has been read. -/
  | after (part : Pattern)

/-- The place between the fields of a record. -/
inductive FieldPhase where
  /-- The first field begins here, or the record closes. -/
  | opened
  /-- A field or the wildcard begins here. -/
  | start
  /-- A field's name has been read. -/
  | named (name : String)
  /-- The wildcard has been read. -/
  | wildcard

inductive State where
  | pattern (phase : Phase) (clause : Clause) (frames : List Frame)
  | record (phase : FieldPhase) (record : OpenRecord) (frames : List Frame)

namespace State

def start : State := .pattern .start .empty []

def parts (clause : Clause) (frames : List Frame) : Moves State :=
  [(.variableWord, fun lexeme =>
      .pattern (.var (wordName lexeme)) clause frames),
    (.capitalWord, fun lexeme =>
      .pattern (.pieces [wordName lexeme]) clause frames),
    (.operatorConstructor, fun lexeme =>
      .pattern (.pieces [operatorName lexeme]) clause frames),
    (.patternOpenParen, fun _ =>
      .pattern .opened .empty (.tuple [] clause :: frames)),
    (.patternOpenBracket, fun _ =>
      .pattern .opened .empty (.list [] clause :: frames))]

def emptyEnd : List Frame → Moves State
  | .tuple [] outer :: frames =>
      [(.patternCloseParen, fun _ =>
        .pattern (.after (.tuple [])) outer frames)]
  | .list [] outer :: frames =>
      [(.patternCloseBracket, fun _ =>
        .pattern (.after (.list [])) outer frames)]
  | _ => []

/-- A comma or the closing bracket behind an item of the innermost bracket. -/
def itemEnds (item : Pattern) : List Frame → Moves State
  | [] => []
  | .tuple items outer :: frames =>
      [(.patternComma, fun _ =>
          .pattern .start .empty (.tuple (item :: items) outer :: frames)),
        (.patternCloseParen, fun _ =>
          .pattern (.after (closeTuple items item)) outer frames)]
  | .list items outer :: frames =>
      [(.patternComma, fun _ =>
          .pattern .start .empty (.list (item :: items) outer :: frames)),
        (.patternCloseBracket, fun _ =>
          .pattern (.after (.list (items.reverse ++ [item]))) outer frames)]
  | .field current name :: frames =>
      [(.patternComma, fun _ =>
          .record .start (current.push name item) frames),
        (.closeBrace, fun _ =>
          .pattern (.after ((current.push name item).close false)) current.outer
            frames)]

/-- The arguments that may follow a part of an application. -/
def arguments (part : Pattern) (clause : Clause) (frames : List Frame) :
    Moves State :=
  match clause.head with
  | none => []
  | some _ => parts (clause.push part) frames

/-- What may follow a finished part. -/
def continuations (part : Pattern) (clause : Clause) (frames : List Frame) :
    Moves State :=
  arguments part clause frames ++ itemEnds (clause.close part) frames

/-- The first arguments that may follow a constructor; there are none inside an
application or behind an alias. -/
def firstArguments (head : QualifiedName) (clause : Clause)
    (frames : List Frame) : Moves State :=
  match clause with
  | ⟨none, []⟩ => parts (.headed head) frames
  | _ => []

def fieldNames (current : OpenRecord) (frames : List Frame) : Moves State :=
  [(.variableWord, fun lexeme =>
      .record (.named (wordName lexeme)) current frames),
    (.capitalWord, fun lexeme =>
      .record (.named (wordName lexeme)) current frames),
    (.operatorConstructor, fun lexeme =>
      .record (.named (operatorName lexeme)) current frames),
    (.wildcard, fun _ => .record .wildcard current frames)]

def recordEnd (current : OpenRecord) (wildcard : Bool)
    (frames : List Frame) : Moves State :=
  [(.closeBrace, fun _ =>
    .pattern (.after (current.close wildcard)) current.outer frames)]

def moves : State → Moves State
  | .pattern .start clause frames => parts clause frames
  | .pattern .opened clause frames =>
      parts clause frames ++ emptyEnd frames
  | .pattern (.var name) clause frames =>
      (.asSign, fun _ => .pattern .start (clause.under name) frames) ::
        continuations (.var name) clause frames
  | .pattern (.pieces names) clause frames =>
      let head := constructorName names
      (.dot, fun _ => .pattern (.piece names) clause frames) ::
        (.openBrace, fun _ => .record .opened ⟨head, [], clause⟩ frames) ::
        (firstArguments head clause frames ++
          continuations (.construct head []) clause frames)
  | .pattern (.piece names) clause frames =>
      [(.capitalWord, fun lexeme =>
          .pattern (.pieces (wordName lexeme :: names)) clause frames),
        (.operatorConstructor, fun lexeme =>
          .pattern (.pieces (operatorName lexeme :: names)) clause frames)]
  | .pattern (.after part) clause frames => continuations part clause frames
  | .record .opened current frames =>
      fieldNames current frames ++ recordEnd current false frames
  | .record .start current frames => fieldNames current frames
  | .record (.named name) current frames =>
      let finished := current.push name (.var name)
      (.equals, fun _ =>
          .pattern .start .empty (.field current name :: frames)) ::
        (.patternComma, fun _ => .record .start finished frames) ::
        recordEnd finished false frames
  | .record .wildcard current frames => recordEnd current true frames

/-- The pattern that has been read, if it may end here. -/
def value? : State → Option Pattern
  | .pattern (.var name) clause [] => some (clause.close (.var name))
  | .pattern (.pieces names) clause [] =>
      some (clause.close (.construct (constructorName names) []))
  | .pattern (.after part) clause [] => some (clause.close part)
  | _ => none

/-- How many nodes of the syntax tree an open bracket stands for; a record has
one of its own and one for the field. -/
def frameDepth : Frame → Nat
  | .tuple _ outer => outer.depth + 1
  | .list _ outer => outer.depth + 1
  | .field current _ => current.outer.depth + 2

/-- How many nodes of the syntax tree the open brackets stand for. -/
def framesDepth (frames : List Frame) : Nat :=
  frames.foldr (fun frame inner => frameDepth frame + inner) 0

/-- How many nodes of the syntax tree a part stands for by itself; the name of a
constructor is a node of its own.  Behind an opening bracket there need not be a
part, and if there is one, the places behind its first token count it. -/
def partDepth : Phase → Nat
  | .opened => 0
  | .pieces _ | .piece _ => 2
  | .start | .var _ | .after _ => 1

/-- How many nodes of the syntax tree lie around the place. -/
def depth : State → Nat
  | .pattern phase clause frames =>
      framesDepth frames + clause.depth + partDepth phase
  | .record _ current frames =>
      framesDepth frames + current.outer.depth + 2

end State

def language : Language State Pattern where
  start := State.start
  moves := State.moves
  value? := State.value?
  depth := fun state _ => state.depth + 1

end TemplateSyntax.Pattern
