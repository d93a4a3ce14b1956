import Rowsmith.Schema.TypeText

/-!
# Column types

The types of columns, their names, the host type each is bridged through and the getter it is read
with, and the host types that need no bridge.
-/

namespace Rowsmith.Schema

/-- The types of columns. -/
inductive ColumnType
  | smallInt | integer | bigInt | real | doublePrecision | decimal | char | varchar | text | date
  | time | timestamp | boolean | blob
  deriving DecidableEq, Repr

/-- The ways to read a column, each by the type it gives. -/
inductive Getter
  | i16 | i32 | i64 | f32 | f64 | decimal | char | string | datetime | bool | bytes
  deriving DecidableEq, Repr

namespace Getter

/-- All getters. -/
def all : List Getter :=
  [i16, i32, i64, f32, f64, decimal, char, string, datetime, bool, bytes]

/-- The method that a getter is. -/
def name : Getter → String
  | i16 => "get_i16"
  | i32 => "get_i32"
  | i64 => "get_i64"
  | f32 => "get_f32"
  | f64 => "get_f64"
  | decimal => "get_decimal"
  | char => "get_char"
  | string => "get_string"
  | datetime => "get_datetime"
  | bool => "get_bool"
  | bytes => "get_bytes"

/-- The getter of a method. -/
def ofName? (name : String) : Option Getter :=
  all.find? (·.name == name)

end Getter

namespace ColumnType

/-- All column types. -/
def all : List ColumnType :=
  [smallInt, integer, bigInt, real, doublePrecision, decimal, char, varchar, text, date, time,
    timestamp, boolean, blob]

/-- The name of a column type, one word. -/
def name : ColumnType → String
  | smallInt => "SMALLINT"
  | integer => "INTEGER"
  | bigInt => "BIGINT"
  | real => "REAL"
  | doublePrecision => "DOUBLE_PRECISION"
  | decimal => "DECIMAL"
  | char => "CHAR"
  | varchar => "VARCHAR"
  | text => "TEXT"
  | date => "DATE"
  | time => "TIME"
  | timestamp => "TIMESTAMP"
  | boolean => "BOOLEAN"
  | blob => "BLOB"

/-- The name of a column type in a statement. -/
def sqlName (t : ColumnType) : String :=
  String.ofList (t.name.toList.map fun c => if c = '_' then ' ' else c)

/-- The column type of a name. -/
def ofName? (name : String) : Option ColumnType :=
  all.find? (·.name == name)

/-- The host type on the column's side of a bridge. -/
def hostType : ColumnType → String
  | smallInt => "i16"
  | integer => "i32"
  | bigInt => "i64"
  | real => "f32"
  | doublePrecision => "f64"
  | decimal => "Decimal"
  | char => "char"
  | varchar | text => "String"
  | date => "NaiveDate"
  | time => "NaiveTime"
  | timestamp => "DateTime<Utc>"
  | boolean => "bool"
  | blob => "Vec<u8>"

/-- The getter that reads a column of the type. -/
def getter : ColumnType → Getter
  | smallInt => .i16
  | integer => .i32
  | bigInt => .i64
  | real => .f32
  | doublePrecision => .f64
  | decimal => .decimal
  | char => .char
  | varchar | text => .string
  | date | time | timestamp => .datetime
  | boolean => .bool
  | blob => .bytes

theorem ofName?_name (t : ColumnType) : ofName? t.name = some t := by
  cases t <;> rfl

end ColumnType

/-- The folded texts of the host types that a column holds as they are. -/
def nativeTypes : List (String × ColumnType) := [
  ("i8", .smallInt), ("u8", .smallInt), ("i16", .smallInt), ("u16", .smallInt),
  ("i32", .integer), ("u32", .integer),
  ("i64", .bigInt), ("u64", .bigInt), ("isize", .bigInt), ("usize", .bigInt),
  ("f32", .real), ("f64", .doublePrecision),
  ("decimal", .decimal), ("rust_decimal::decimal", .decimal),
  ("string", .text), ("std::string::string", .text), ("alloc::string::string", .text),
  ("box<str>", .text),
  ("char", .char), ("bool", .boolean),
  ("naivedate", .date), ("chrono::naivedate", .date),
  ("naivetime", .time), ("chrono::naivetime", .time),
  ("datetime<utc>", .timestamp), ("datetime<fixedoffset>", .timestamp),
  ("datetime<chrono::utc>", .timestamp), ("datetime<chrono::fixedoffset>", .timestamp),
  ("chrono::datetime<utc>", .timestamp), ("chrono::datetime<fixedoffset>", .timestamp),
  ("chrono::datetime<chrono::utc>", .timestamp),
  ("chrono::datetime<chrono::fixedoffset>", .timestamp),
  ("naivedatetime", .timestamp), ("chrono::naivedatetime", .timestamp),
  ("vec<u8>", .blob), ("std::vec::vec<u8>", .blob), ("alloc::vec::vec<u8>", .blob),
  ("box<[u8]>", .blob)]

/-- What is looked up in a table stands in it. -/
theorem mem_of_lookup {α β : Type} [BEq α] [LawfulBEq α] {table : List (α × β)} {key : α}
    {value : β} (h : table.lookup key = some value) : (key, value) ∈ table := by
  obtain ⟨before, after, rfl, -⟩ := List.lookup_eq_some_iff.mp h
  simp

/-- The column type that holds a host type as it is. -/
def nativeType? (text : String) : Option ColumnType :=
  nativeTypes.lookup (normalize text)

/-- How a host type is held in a column. -/
structure Mapping where
  columnType : ColumnType
  needsBridge : Bool
  deriving DecidableEq, Repr

/-- How a host type is held: as it is, or bridged through text. -/
def mapHostType (text : String) : Mapping :=
  match nativeType? text with
  | some columnType => { columnType, needsBridge := false }
  | none => { columnType := .text, needsBridge := true }

end Rowsmith.Schema
