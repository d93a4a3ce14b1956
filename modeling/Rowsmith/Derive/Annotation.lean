import Rowsmith.Derive.Fault
import Rowsmith.Schema.Declaration
import Rowsmith.Source.Item

/-!
# Attributes as annotations

An attribute becomes an annotation. Literals keep their value, a plain name or `nameof(x)` refers
to a name, and any other expression is kept as text.
-/

namespace Rowsmith.Derive
open Rowsmith.Schema Rowsmith.Source

/-- The text of an expression as an argument. -/
def expressionArgument (e : Expression) : Argument := .expression (Token.textAll e.tokens)

/-- The argument that an expression is. -/
def argumentOf (e : Expression) : Argument :=
  match e with
  | .literal (.text value) _ => .text value
  | .literal (.integer digits) _ => .integer digits
  | .path (some name) _ => .nameOf name
  | .call (some "nameof") [some name] _ => .nameOf name
  | other => expressionArgument other

/-- Adds one argument of an attribute to an annotation. -/
def addArgument (a : Annotation) : Expression → Except Fault Annotation
  | .assignment (some name) value _ => .ok (a.addNamed name (argumentOf value))
  | .assignment none _ _ => .error .argumentName
  | e => .ok (a.addPositional (argumentOf e))

/-- The annotation that an attribute is. -/
def annotationOf (a : Attribute) : Except Fault Annotation :=
  let plain : Annotation := { name := a.name }
  match a.content with
  | .empty => .ok plain
  | .value e => .ok (plain.addPositional (argumentOf e))
  | .arguments _ tokens =>
    match Phrase.whole Phrase.argumentList tokens with
    | .ok expressions => expressions.foldlM addArgument plain
    | .error fault => .error (.arguments fault)

/-- Whether an attribute has one of the given plain names. -/
def isNamed (names : List String) (a : Attribute) : Bool :=
  match a.path with
  | [.word w] => names.contains w
  | _ => false

/-- The attributes of a struct that are annotations. -/
def classAttributes : List String := ["table", "table_unique"]

/-- The attributes of a field that are annotations. -/
def fieldAttributes : List String :=
  ["primary_key", "unique", "column_name", "varchar", "foreign_key", "enumeration", "skip"]

end Rowsmith.Derive
