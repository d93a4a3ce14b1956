import Rowsmith.Value.Binary
import Rowsmith.Value.Calendar
import Rowsmith.Value.Decimal

/-!
# Values of columns

A value of a column, and a parameter of a statement that carries one.
-/

namespace Rowsmith.Value

/-- A value of a column. Instants are told apart from local times. -/
inductive SqlValue
  | null
  | smallInt (value : Int16)
  | integer (value : Int32)
  | bigInt (value : Int64)
  | real (value : Binary32)
  | double (value : Binary64)
  | decimal (value : Decimal)
  | char (value : Char)
  | text (value : String)
  | date (value : Date)
  | time (value : Time)
  | timestamp (value : DateTime)
  | instant (value : DateTime)
  | boolean (value : Bool)
  | blob (value : List UInt8)
  deriving DecidableEq

namespace SqlValue

/-- Whether the value is null. -/
def isNull : SqlValue → Bool
  | null => true
  | _ => false

/-- The name of the type that the value has. -/
def kind : SqlValue → String
  | null => "NULL"
  | smallInt _ => "SMALLINT"
  | integer _ => "INTEGER"
  | bigInt _ => "BIGINT"
  | real _ => "REAL"
  | double _ => "DOUBLE PRECISION"
  | decimal _ => "DECIMAL"
  | char _ => "CHAR"
  | text _ => "TEXT"
  | date _ => "DATE"
  | time _ => "TIME"
  | timestamp _ | instant _ => "TIMESTAMP"
  | boolean _ => "BOOLEAN"
  | blob _ => "BLOB"

end SqlValue

/-- A named value for a statement. -/
structure Parameter where
  name : String := ""
  value : SqlValue := .null
  deriving DecidableEq

end Rowsmith.Value
