import Rowsmith.Text.Blank
import Rowsmith.Value.BinaryText
import Rowsmith.Value.Reading

/-!
# Narrowing

What a getter gives is narrowed to the type of the property. Narrowing undoes the widening of bound
values: unsigned integers take back their bits, small ones are checked, and values that were forced
into text are parsed, blanks around them aside.
-/

namespace Rowsmith.Value
open Rowsmith.Text

/-- The integer of a range that a text writes, as a value. -/
def parseInteger {α : Type} (range : IntegerRange) (ofInt : Int → α) (text : String) : Read α :=
  match integerOf range (trimBlanks text.toList) with
  | .ok n => .ok (ofInt n)
  | .error fault => .error (.conversion fault.message)

/-- The floating point number that a text writes, as a value. -/
def parseBinary {α : Type} (format : BinaryFormat) (ofNat : Nat → α)
    (text : String) : Read α :=
  match format.ofText (trimBlanks text.toList) with
  | .ok n => .ok (ofNat n)
  | .error fault => .error (.conversion fault.message)

/-- The truth value that a text writes. -/
def parseBool (text : String) : Read Bool :=
  let cs := trimBlanks text.toList
  if cs = "true".toList then .ok true
  else if cs = "false".toList then .ok false
  else .error (.conversion "provided string was not `true` or `false`")

/-- The character that a text writes. -/
def parseChar (text : String) : Read Char :=
  match trimBlanks text.toList with
  | [] => .error (.conversion "cannot parse char from empty string")
  | [c] => .ok c
  | _ => .error (.conversion "too many characters in string")

/-- The function that narrows values of a source type to a target type, where there is one. -/
def narrow : (target source : HostType) → Option (source.Carrier → Read target.Carrier)
  | .u16, .i16 => some fun v => .ok v.toUInt16
  | .u32, .i32 => some fun v => .ok v.toUInt32
  | .u64, .i64 => some fun v => .ok v.toUInt64
  | .usize, .i64 => some fun v => .ok v.toUInt64
  | .i8, .i16 => some fun v => Int8.ofInt <$> bounded .int8 v.toInt
  | .u8, .i16 => some fun v => UInt8.ofInt <$> bounded .word8 v.toInt
  | .isize, .i64 => some fun v => .ok v
  | .i8, .string => some (parseInteger .int8 Int8.ofInt)
  | .u8, .string => some (parseInteger .word8 UInt8.ofInt)
  | .i16, .string => some (parseInteger .int16 Int16.ofInt)
  | .u16, .string => some (parseInteger .word16 UInt16.ofInt)
  | .i32, .string => some (parseInteger .int32 Int32.ofInt)
  | .u32, .string => some (parseInteger .word32 UInt32.ofInt)
  | .i64, .string => some (parseInteger .int64 Int64.ofInt)
  | .u64, .string => some (parseInteger .word64 UInt64.ofInt)
  | .isize, .string => some (parseInteger .int64 Int64.ofInt)
  | .usize, .string => some (parseInteger .word64 UInt64.ofInt)
  | .f32, .string => some (parseBinary .single fun n => ⟨UInt32.ofNat n⟩)
  | .f64, .string => some (parseBinary .double fun n => ⟨UInt64.ofNat n⟩)
  | .bool, .string => some parseBool
  | .char, .string => some parseChar
  | .decimal, .string => some fun text => readDecimal (trimBlanks text.toList)
  | .boxedText, .string => some fun v => .ok v
  | .boxedBytes, .bytes => some fun v => .ok v
  | .date, .dateTime => some fun v => .ok v.date
  | .time, .dateTime => some fun v => .ok v.time
  | .offset, .utc => some fun v => .ok { utc := v, offset := 0 }
  | target, source => if h : source = target then some fun v => .ok (h ▸ v) else none

end Rowsmith.Value
