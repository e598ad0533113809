import TemplateSyntax.Text.Quoted
import TemplateSyntax.Unicode.Letter
import TemplateSyntax.Unicode.Word

/-!
# Names

A name is a non-empty text.  Its first character decides what it stands for:
names that begin with a capital, and operators, name constructors; names that
do not begin with a capital name variables.  A qualified name puts a module
path in front.
-/

namespace TemplateSyntax

/-- Why a text is no name. -/
inductive NameError where
  /-- A name was to be built from the empty text. -/
  | emptyName
  /-- The empty text was to be judged by its first character. -/
  | nothingToClassify
  /-- A qualified name was to be built without a module path. -/
  | noModules
  /-- A qualified name was to be built from no pieces at all. -/
  | noPieces
  deriving DecidableEq, Repr

def NameError.message : NameError → String
  | .emptyName => "Ident cannot be empty"
  | .nothingToClassify => "bad identifier: empty name"
  | .noModules => "Qualified name needs at least one module segment"
  | .noPieces => "qualified_name needs at least one piece"

/-- The characters operators are made of. -/
def operatorChars : List Char := "!#$%&*+./<=>?@\\^|-~:".toList

def isOperatorChar (c : Char) : Bool :=
  operatorChars.contains c

/-- A character that can continue a name: a word character or a prime. -/
def isNameChar (c : Char) : Bool :=
  Unicode.isWord c || c = '\''

/-- The first character of a constructor's word: a capital by property, or a
title-case letter. -/
def isCapital (c : Char) : Bool :=
  Unicode.isUppercase c || Unicode.isTitlecaseLetter c

/-- The text does not begin with a capital; the empty text has no answer. -/
def isVariable (name : String) : Except NameError Bool :=
  match name.toList with
  | [] => .error .nothingToClassify
  | first :: _ => .ok (!isCapital first)

/-- The text begins with a capital or with an operator character; the empty text
has no answer. -/
def isConstructor (name : String) : Except NameError Bool :=
  match name.toList with
  | [] => .error .nothingToClassify
  | first :: _ => .ok (isCapital first || isOperatorChar first)

/-- A name that is not empty. -/
structure Ident where
  text : String
  ne_empty : text ≠ ""
  deriving DecidableEq

/-- The text as a name, if there is any. -/
def Ident.ofString (text : String) : Except NameError Ident :=
  if nonempty : text ≠ "" then .ok ⟨text, nonempty⟩ else .error .emptyName

/-- The name as messages show it. -/
def Ident.shown (ident : Ident) : String :=
  s!"Ident({Text.quoted ident.text})"

/-- A name behind a module path; without a path the name is unqualified. -/
structure QualifiedName where
  modules : List String
  name : String
  deriving DecidableEq, Repr

namespace QualifiedName

/-- The path and the name joined by dots. -/
def toString (qualified : QualifiedName) : String :=
  String.intercalate "." (qualified.modules ++ [qualified.name])

/-- A name behind a path that has at least one module. -/
def ofModules (modules : List String) (name : String) :
    Except NameError QualifiedName := do
  let ident ← Ident.ofString name
  if modules.isEmpty then
    .error .noModules
  else
    .ok ⟨modules, ident.text⟩

/-- All pieces but the last form the module path. -/
def ofPieces (pieces : List String) : Except NameError QualifiedName :=
  match pieces.getLast? with
  | none => .error .noPieces
  | some name => do
      let ident ← Ident.ofString name
      .ok ⟨pieces.dropLast, ident.text⟩

end QualifiedName

end TemplateSyntax
