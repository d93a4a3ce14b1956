import Rowsmith.Schema.ColumnType
import Rowsmith.Text.Escape
import Rowsmith.Text.IntegerText
import Rowsmith.Value.DatabaseError
import Rowsmith.Value.HostType

/-!
# Reading a row

Getters read a column of a row by its ordinal. Integers are read across widths, floating point
numbers across formats, and dates and times as both together.
-/

namespace Rowsmith.Value
open Rowsmith.Schema Rowsmith.Text

/-- A row of values. -/
abbrev Row := List SqlValue

/-- The result of reading. -/
abbrev Read := Except DatabaseError

/-- The value at an ordinal. -/
def Row.value (row : Row) (ordinal : Nat) : Read SqlValue :=
  match row[ordinal]? with
  | some v => .ok v
  | none => .error (.ordinalOutOfRange ordinal)

/-- Whether the value at an ordinal is null. -/
def Row.isNull (row : Row) (ordinal : Nat) : Read Bool := do
  return (← row.value ordinal).isNull

/-- The host type that a getter gives. -/
@[reducible] def getterType : Getter → HostType
  | .i16 => .i16
  | .i32 => .i32
  | .i64 => .i64
  | .f32 => .f32
  | .f64 => .f64
  | .decimal => .decimal
  | .char => .char
  | .string => .string
  | .datetime => .dateTime
  | .bool => .bool
  | .bytes => .bytes

/-- The type that a getter looks for. -/
def getterKind : Getter → String
  | .i16 => "SMALLINT"
  | .i32 => "INTEGER"
  | .i64 => "BIGINT"
  | .f32 => "REAL"
  | .f64 => "DOUBLE PRECISION"
  | .decimal => "DECIMAL"
  | .char => "CHAR"
  | .string => "TEXT"
  | .datetime => "TIMESTAMP"
  | .bool => "BOOLEAN"
  | .bytes => "BLOB"

/-- The integer that a value holds. -/
def SqlValue.integer? : SqlValue → Option Int
  | .smallInt v => some v.toInt
  | .integer v => some v.toInt
  | .bigInt v => some v.toInt
  | _ => none

/-- An integer of a range. -/
def bounded (range : IntegerRange) (n : Int) : Read Int :=
  match range.check n with
  | .ok n => .ok n
  | .error fault => .error (.conversion fault.message)

/-- The decimal that a text writes. -/
def readDecimal (cs : List Char) : Read Decimal :=
  match Decimal.ofText cs with
  | .ok d => .ok d
  | .error fault => .error (.conversion fault.message)

/-- The character that a text consists of. -/
def readChar (text : String) : Read Char :=
  match text.toList with
  | [c] => .ok c
  | _ => .error (.conversion ("expected a single character, found " ++ quote text))

/-- What a getter gives for a value at an ordinal. -/
def readAs (g : Getter) (ordinal : Nat) (v : SqlValue) : Read (getterType g).Carrier :=
  let mismatch {α : Type} : Read α :=
    .error (.typeMismatch ordinal (getterKind g) v.kind)
  match g with
  | .i16 =>
    match v.integer? with
    | some n => Int16.ofInt <$> bounded .int16 n
    | none => mismatch
  | .i32 =>
    match v.integer? with
    | some n => Int32.ofInt <$> bounded .int32 n
    | none => mismatch
  | .i64 =>
    match v.integer? with
    | some n => .ok (Int64.ofInt n)
    | none => mismatch
  | .f32 =>
    match v with
    | .real x => .ok x
    | .double x => .ok x.toBinary32
    | _ => mismatch
  | .f64 =>
    match v with
    | .double x => .ok x
    | .real x => .ok x.toBinary64
    | _ => mismatch
  | .decimal =>
    match v with
    | .decimal d => .ok d
    | .text t => readDecimal t.toList
    | _ => mismatch
  | .char =>
    match v with
    | .char c => .ok c
    | .text t => readChar t
    | _ => mismatch
  | .string =>
    match v with
    | .text t => .ok t
    | .char c => .ok (String.singleton c)
    | _ => mismatch
  | .datetime =>
    match v with
    | .timestamp t | .instant t => .ok t
    | .date d => .ok { date := d, time := midnight }
    | .time t => .ok { date := epochDate, time := t }
    | _ => mismatch
  | .bool =>
    match v with
    | .boolean b => .ok b
    | .smallInt n => .ok (n != 0)
    | .integer n => .ok (n != 0)
    | .bigInt n => .ok (n != 0)
    | _ => mismatch
  | .bytes =>
    match v with
    | .blob b => .ok b
    | _ => mismatch

/-- What a getter gives for the column at an ordinal. -/
def Row.get (row : Row) (g : Getter) (ordinal : Nat) : Read (getterType g).Carrier := do
  readAs g ordinal (← row.value ordinal)

end Rowsmith.Value
