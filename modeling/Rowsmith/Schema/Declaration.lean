import Rowsmith.Text.Word
import Rowsmith.Text.Replace

/-!
# Declarations

A class is declared by its name, its visibility, annotations and properties. Names of annotations
compare by their words, whatever the style they are written in.
-/

namespace Rowsmith.Schema
open Rowsmith.Text

/-- An argument of an annotation. -/
inductive Argument
  | text (value : String)
  | integer (digits : String)
  | nameOf (name : String)
  | expression (source : String)
  deriving DecidableEq, Repr

/-- The text of an argument. -/
def Argument.asText : Argument → String
  | text s | integer s | nameOf s | expression s => s

/-- The characters behind the last pair of colons, or `whole` if there is none. -/
def lastSegmentFrom (whole : List Char) : List Char → List Char
  | [] | [_] => whole
  | c :: d :: rest =>
    lastSegmentFrom (if c = ':' ∧ d = ':' then rest else whole) (d :: rest)

/-- The last segment of a path. -/
def lastSegment (path : String) : String :=
  String.ofList (lastSegmentFrom path.toList path.toList)

/-- The form in which names of annotations compare: the words of the last segment in snake case,
without a last word `attribute` behind others. -/
def canonicalName (name : String) : String :=
  let snake := snakeCase (lastSegment name)
  match dropEnd? "_attribute".toList snake.toList with
  | some (c :: rest) => String.ofList (c :: rest)
  | _ => snake

/-- An annotation with its arguments. -/
structure Annotation where
  name : String
  positional : List Argument := []
  named : List (String × Argument) := []
  deriving DecidableEq, Repr

namespace Annotation

/-- Whether an annotation goes by a name. -/
def is (a : Annotation) (name : String) : Bool :=
  canonicalName a.name == canonicalName name

/-- The first argument given by a name. -/
def named? (a : Annotation) (name : String) : Option Argument :=
  (a.named.find? fun (n, _) => canonicalName n == canonicalName name).map Prod.snd

/-- The argument given by a name, or else the one at a position. -/
def argument? (a : Annotation) (name : String) (index : Nat) : Option Argument :=
  a.named? name <|> a.positional[index]?

/-- Adds a positional argument. -/
def addPositional (a : Annotation) (argument : Argument) : Annotation :=
  { a with positional := a.positional ++ [argument] }

/-- Adds a named argument. -/
def addNamed (a : Annotation) (name : String) (argument : Argument) : Annotation :=
  { a with named := a.named ++ [(name, argument)] }

end Annotation

/-- How a property may be reached. -/
structure Access where
  get : Bool
  set : Bool
  init : Bool
  deriving DecidableEq, Repr

namespace Access

/-- Read and written. -/
def readWrite : Access := { get := true, set := true, init := false }

/-- Read only. -/
def readOnly : Access := { get := true, set := false, init := false }

/-- Whether a property is held in a column: it is read, and written at some time. -/
def isColumn (a : Access) : Bool := a.get && (a.set || a.init)

end Access

/-- A property of a class. -/
structure Property where
  name : String
  type : String
  nullable : Bool := false
  access : Access := .readWrite
  annotations : List Annotation := []
  deriving DecidableEq, Repr

namespace Property

/-- The first annotation that goes by a name. -/
def findAnnotation? (p : Property) (name : String) : Option Annotation :=
  p.annotations.find? (·.is name)

/-- Whether an annotation goes by a name. -/
def hasAnnotation (p : Property) (name : String) : Bool :=
  (p.findAnnotation? name).isSome

/-- Whether the property is held in a column. -/
def isColumn (p : Property) : Bool := p.access.isColumn

end Property

/-- The declaration of a class. -/
structure Declaration where
  name : String
  visibility : String := "pub"
  annotations : List Annotation := []
  properties : List Property := []
  deriving DecidableEq, Repr

/-- The annotations of a class that go by a name. -/
def Declaration.annotationsNamed (d : Declaration) (name : String) : List Annotation :=
  d.annotations.filter (·.is name)

end Rowsmith.Schema
