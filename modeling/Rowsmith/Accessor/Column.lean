import Rowsmith.Failure
import Rowsmith.Schema.BridgeName
import Rowsmith.Source.Visibility
import Rowsmith.Sql.Operation

/-!
# Columns in accessors

An accessor binds a column by taking a value to it and reads a column by taking a value back. Both
go by the form of the column: an enumeration, a bridged type, or a type that the column holds as it
is.
-/

namespace Rowsmith.Accessor
open Rowsmith.Schema Rowsmith.Source Rowsmith.Sql

/-- The result of making a part of an accessor. -/
abbrev Make := Except Stop

/-- How a value is taken to its column. -/
inductive BindingForm
  | plain
  | discriminant (type : String)
  | bridge (method : String)
  deriving DecidableEq, Repr

/-- The binding of a column: the name of its parameter, how its value is taken, and whether the
value is optional. -/
structure Binding where
  parameter : String
  form : BindingForm
  isOptional : Bool
  deriving DecidableEq, Repr

/-- How a value is taken from its column. -/
inductive ReadingForm
  /-- From a discriminant, into a type, with the name of the type. -/
  | discriminant (integer : String) (type : List Token) (name : String)
  | bridge (method : String)
  /-- By narrowing into a type, with the name of the type; the flag takes a local time for an
  instant. -/
  | narrowing (type : List Token) (name : String) (isInstant : Bool)
  deriving Repr

/-- The reading of a column into a property. A column that may be null is looked at first, and a
value of an optional property is wrapped. -/
structure Reading where
  property : String
  ordinal : Nat
  getter : Getter
  form : ReadingForm
  isNullable : Bool
  isOptional : Bool
  deriving Repr

/-- The identifier that a text is. -/
def identifierOf (className text : String) : Make String :=
  match Phrase.ofText Phrase.identifier text with
  | .ok name => .ok name
  | .error _ =>
    .error (.error (.unreadable className ("`" ++ text ++ "` is not a Rust identifier")))

/-- The type that a text is. -/
def typeOf (className text : String) : Make (List Token) :=
  match Phrase.ofText Phrase.wholeType text with
  | .ok tokens => .ok tokens
  | .error _ => .error (.error (.unreadable className ("`" ++ text ++ "` is not a Rust type")))

/-- The method that a name is. -/
def methodOf (name : String) : Make String :=
  if isMethodName name then .ok name else .error (.unnameable name)

/-- Whether a property of a time column holds an instant. -/
def holdsInstant (c : Column) : Bool :=
  let base := (normalize c.baseType).toList
  "datetime<".toList.isPrefixOf base || "chrono::datetime<".toList.isPrefixOf base

/-- The binding of a column. -/
def bindingOf (c : Column) : Make Binding := do
  let form ←
    if c.isEnum then pure (BindingForm.discriminant (Width.discriminantType c.enumWidth))
    else if c.needsBridge then BindingForm.bridge <$> methodOf c.bridgeTo
    else pure .plain
  return { parameter := parameterName c.name, form, isOptional := c.isOptional }

/-- How a value is taken from a column. -/
def readingForm (className : String) (c : Column) : Make ReadingForm := do
  if c.isEnum then
    let type ← typeOf className c.baseType
    return .discriminant (Width.discriminantType c.enumWidth) type c.baseType
  else if c.needsBridge then return .bridge (← methodOf c.bridgeFrom)
  else
    let type ← typeOf className c.baseType
    return .narrowing type c.baseType (c.columnType = .timestamp && holdsInstant c)

/-- The reading of the column at an ordinal. -/
def readingOf (className : String) (ordinal : Nat) (c : Column) : Make Reading := do
  let property ← identifierOf className c.propertyName
  let form ← readingForm className c
  return { property, ordinal, getter := c.columnType.getter, form, isNullable := c.isNullable,
           isOptional := c.isOptional }

/-- The bindings of a row: properties with their bindings, in order. -/
def rowBindings (t : Table) : Make (List (String × Binding)) :=
  t.columns.mapM fun c => do
    return (← identifierOf t.className c.propertyName, ← bindingOf c)

/-- The binding of the key. -/
def keyBinding (t : Table) : Make Binding := bindingOf t.key

/-- The readings from an ordinal on. -/
def readingsFrom (className : String) (ordinal : Nat) : List Column → Make (List Reading)
  | [] => return []
  | c :: rest => do
    let first ← readingOf className ordinal c
    return first :: (← readingsFrom className (ordinal + 1) rest)

/-- The readings of a row, in order. -/
def rowReadings (t : Table) : Make (List Reading) :=
  readingsFrom t.className 0 t.columns

end Rowsmith.Accessor
