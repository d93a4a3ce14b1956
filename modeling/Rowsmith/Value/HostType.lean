import Rowsmith.Schema.TypeText
import Rowsmith.Value.SqlValue

/-!
# Host types

The types of properties that a column holds as they are, the values they carry, and the value of a
column that each of these is bound as. Unsigned integers take the signed width of the same size;
offsets of clocks are dropped.
-/

namespace Rowsmith.Value

/-- The types of properties that a column holds as they are. Integers of pointer size have 64
bits. -/
inductive HostType
  | i8 | u8 | i16 | u16 | i32 | u32 | i64 | u64 | isize | usize | f32 | f64 | decimal | char | bool
  | string | boxedText | date | time | dateTime | utc | offset | bytes | boxedBytes
  deriving DecidableEq, Repr

namespace HostType

/-- The values of a host type. -/
@[reducible] def Carrier : HostType → Type
  | i8 => Int8
  | u8 => UInt8
  | i16 => Int16
  | u16 => UInt16
  | i32 => Int32
  | u32 => UInt32
  | i64 | isize => Int64
  | u64 | usize => UInt64
  | f32 => Binary32
  | f64 => Binary64
  | decimal => Decimal
  | char => Char
  | bool => Bool
  | string | boxedText => String
  | date => Date
  | time => Time
  | dateTime | utc => DateTime
  | offset => OffsetDateTime
  | bytes | boxedBytes => List UInt8

/-- The names of host types, borrowed forms included. -/
def names : List (String × HostType) := [
  ("i8", i8), ("u8", u8), ("i16", i16), ("u16", u16), ("i32", i32), ("u32", u32), ("i64", i64),
  ("u64", u64), ("isize", isize), ("usize", usize), ("f32", f32), ("f64", f64),
  ("Decimal", decimal), ("char", char), ("bool", bool), ("String", string), ("str", string),
  ("Box<str>", boxedText), ("NaiveDate", date), ("NaiveTime", time), ("NaiveDateTime", dateTime),
  ("DateTime<Utc>", utc), ("DateTime<FixedOffset>", offset), ("Vec<u8>", bytes), ("[u8]", bytes),
  ("Box<[u8]>", boxedBytes)]

/-- The folded type texts of host types. -/
def typeTexts : List (String × HostType) := [
  ("i8", i8), ("u8", u8), ("i16", i16), ("u16", u16), ("i32", i32), ("u32", u32), ("i64", i64),
  ("u64", u64), ("isize", isize), ("usize", usize), ("f32", f32), ("f64", f64),
  ("decimal", decimal), ("rust_decimal::decimal", decimal), ("char", char), ("bool", bool),
  ("string", string), ("std::string::string", string), ("alloc::string::string", string),
  ("box<str>", boxedText), ("naivedate", date), ("chrono::naivedate", date), ("naivetime", time),
  ("chrono::naivetime", time), ("naivedatetime", dateTime), ("chrono::naivedatetime", dateTime),
  ("datetime<utc>", utc), ("datetime<chrono::utc>", utc), ("chrono::datetime<utc>", utc),
  ("chrono::datetime<chrono::utc>", utc), ("datetime<fixedoffset>", offset),
  ("datetime<chrono::fixedoffset>", offset), ("chrono::datetime<fixedoffset>", offset),
  ("chrono::datetime<chrono::fixedoffset>", offset), ("vec<u8>", bytes),
  ("std::vec::vec<u8>", bytes), ("alloc::vec::vec<u8>", bytes), ("box<[u8]>", boxedBytes)]

/-- The host type that a type text names. -/
def ofTypeText? (text : String) : Option HostType := typeTexts.lookup (Schema.normalize text)

/-- The host type of a name. -/
def ofName? (name : String) : Option HostType := names.lookup name

/-- The value of a column that a value is bound as. -/
def toSql : (t : HostType) → t.Carrier → SqlValue
  | i8, v => .smallInt v.toInt16
  | u8, v => .smallInt v.toUInt16.toInt16
  | i16, v => .smallInt v
  | u16, v => .smallInt v.toInt16
  | i32, v => .integer v
  | u32, v => .integer v.toInt32
  | i64, v | isize, v => .bigInt v
  | u64, v | usize, v => .bigInt v.toInt64
  | f32, v => .real v
  | f64, v => .double v
  | decimal, v => .decimal v
  | char, v => .char v
  | bool, v => .boolean v
  | string, v | boxedText, v => .text v
  | date, v => .date v
  | time, v => .time v
  | dateTime, v => .timestamp v
  | utc, v => .instant v
  | offset, v => .instant v.utc
  | bytes, v | boxedBytes, v => .blob v

end HostType

/-- A value of some host type. -/
structure HostValue where
  type : HostType
  value : type.Carrier

/-- The value of a column that a value is bound as. -/
def HostValue.toSql (v : HostValue) : SqlValue := v.type.toSql v.value

/-- The value of a column that an optional value is bound as. -/
def optionToSql : Option HostValue → SqlValue
  | some v => v.toSql
  | none => .null

end Rowsmith.Value
