import TemplateSyntax.Reading.Failure
import TemplateSyntax.Terminal.Number
import TemplateSyntax.Terminal.Rules

/-!
# Reading a language

A language is given by the states a reader of it can be in: which terminals may
come next and where each leads, what has been read when the text may end, and how
deep in the syntax tree the place lies, which may depend on the tokens behind
it.  Several terminals can match at one place, so all
readings are followed.  `readings` lists the complete ones; `stops` lists the
places that any reading reaches, whether it goes on or not, and the furthest of
them is where a text without a complete reading fails.
-/

namespace TemplateSyntax

/-- A terminal and the characters it was read from. -/
structure Token where
  terminal : Terminal
  lexeme : List Char
  deriving DecidableEq, Repr

/-- The terminals that may come next, and where each of them leads. -/
abbrev Moves (σ : Type) : Type :=
  List (Terminal × (List Char → σ))

/-- A language with values in `α`, by the states `σ` of its reader. -/
structure Language (σ α : Type) where
  start : σ
  moves : σ → Moves σ
  value? : σ → Option α
  depth : σ → List Token → Nat

/-- A place some reading reaches: how much of the text is left there, and what
could follow. -/
structure Stop where
  left : Nat
  expected : List Terminal
  deriving DecidableEq, Repr

/-- The least text left at any of the places. -/
def Stop.leastLeft (stops : List Stop) : Nat :=
  (stops.map Stop.left).min?.getD 0

/-- The furthest of the places; where several are, everything that could follow
at one of them. -/
def Stop.furthest (stops : List Stop) : Stop where
  left := leastLeft stops
  expected :=
    (stops.filter fun stop => stop.left = leastLeft stops).flatMap
      Stop.expected

namespace Language

variable {σ α : Type}

/-- The terminals that may come next. -/
def expected (language : Language σ α) (state : σ) : List Terminal :=
  (language.moves state).map Prod.fst

/-- Where a token leads, if it may come next. -/
def step? (language : Language σ α) (state : σ) (token : Token) : Option σ :=
  ((language.moves state).lookup token.terminal).map (· token.lexeme)

/-- All readings of a whole text from a state on, each with its tokens. -/
def readings (language : Language σ α) (triggers : Triggers) (state : σ)
    (text : List Char) : List (List Token × α) :=
  (if text.isEmpty then
      (language.value? state).toList.map fun value => ([], value)
    else []) ++
  (language.moves state).flatMap fun move =>
    match _read : move.1.scan triggers text with
    | none => []
    | some (lexeme, rest) =>
        (readings language triggers (move.2 lexeme) rest).map
          fun (tokens, value) => (⟨move.1, lexeme⟩ :: tokens, value)
termination_by text.length
decreasing_by exact Terminal.length_lt_of_scan _read

/-- All places that readings from a state on reach, whether they go on from
there or not. -/
def stops (language : Language σ α) (triggers : Triggers) (state : σ)
    (text : List Char) : List Stop :=
  ⟨text.length, language.expected state⟩ ::
  (language.moves state).flatMap fun move =>
    match _read : move.1.scan triggers text with
    | none => []
    | some (lexeme, rest) => stops language triggers (move.2 lexeme) rest
termination_by text.length
decreasing_by exact Terminal.length_lt_of_scan _read

end Language

/-- How many nodes of the syntax tree may lie in one another.  The number is an
idealisation: the bound is on the call stack, and every node is taken to need the
same room on it. -/
def nestingLimit : Nat := 492

/-- Why a token has no value, if it has none; only numbers may lack one. -/
def Token.error? (token : Token) : Option NumberError :=
  if token.terminal = .number then
    (NumberLiteral.ofLexeme token.lexeme).error?
  else none

namespace Language

variable {σ α : Type}

/-- The first fault along a sequence of tokens: a place that is nested too
deeply, the last one included, or a number without a value. -/
def fault? (language : Language σ α) (state : σ) : List Token → Option Failure
  | [] =>
      if nestingLimit < language.depth state [] then some .nestedTooDeeply
      else none
  | token :: tokens =>
      if nestingLimit < language.depth state (token :: tokens) then
        some .nestedTooDeeply
      else (token.error?.map .number).or <|
        (language.step? state token).bind (language.fault? · tokens)

/-- Why a text without any complete reading fails. -/
def unexpected (language : Language σ α) (triggers : Triggers)
    (text : List Char) : Failure :=
  let stop := Stop.furthest (language.stops triggers language.start text)
  let position := text.length - stop.left
  .unexpected position text[position]? stop.expected

/-- Read a whole text.  The syntax comes first; of the faults of a text that has
a reading, the leftmost counts. -/
def read (language : Language σ α) (triggers : Triggers)
    (text : List Char) : Except Failure α :=
  match language.readings triggers language.start text with
  | [] => .error (language.unexpected triggers text)
  | (tokens, value) :: _ =>
      match language.fault? language.start tokens with
      | some fault => .error fault
      | none => .ok value

end Language

end TemplateSyntax
