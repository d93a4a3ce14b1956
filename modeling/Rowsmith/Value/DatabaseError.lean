/-!
# Errors of a database

What goes wrong when a statement is run or a row is read.
-/

namespace Rowsmith.Value

/-- What goes wrong when a statement is run or a row is read. -/
inductive DatabaseError
  | driver (source : String)
  | conversion (reason : String)
  | invalidEnum (type : String) (value : Int)
  | typeMismatch (ordinal : Nat) (expected found : String)
  | ordinalOutOfRange (ordinal : Nat)
  deriving DecidableEq, Repr

namespace DatabaseError

/-- The text of an error. -/
def message : DatabaseError → String
  | driver source => "driver error: " ++ source
  | conversion reason => "cannot convert column value: " ++ reason
  | invalidEnum type value =>
    "invalid discriminant " ++ toString value ++ " for enum `" ++ type ++ "`"
  | typeMismatch ordinal expected found =>
    "column " ++ toString ordinal ++ " does not hold " ++ expected ++ " (found " ++ found ++ ")"
  | ordinalOutOfRange ordinal =>
    "column ordinal " ++ toString ordinal ++ " is out of range"

/-- The text of the error behind an error of the driver. -/
def source? : DatabaseError → Option String
  | driver source => some source
  | _ => none

end DatabaseError

end Rowsmith.Value
