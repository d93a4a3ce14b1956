/-!
# Dates and times

Dates, times of day, and both together. A time of day may lie in a leap second, with more than
10^9 - 1 nanoseconds. An instant is held in UTC.
-/

namespace Rowsmith.Value

/-- A date. -/
structure Date where
  year : Int
  month : Nat
  day : Nat
  deriving DecidableEq, Repr

/-- A time of day. -/
structure Time where
  hour : Nat
  minute : Nat
  second : Nat
  nanosecond : Nat
  deriving DecidableEq, Repr

/-- A date and a time of day. -/
structure DateTime where
  date : Date
  time : Time
  deriving DecidableEq, Repr

/-- An instant with the offset of its clock in seconds east. -/
structure OffsetDateTime where
  utc : DateTime
  offset : Int
  deriving DecidableEq, Repr

/-- The date that a time of day alone is read with. -/
def epochDate : Date := { year := 1970, month := 1, day := 1 }

/-- The time of day that a date alone is read with. -/
def midnight : Time := { hour := 0, minute := 0, second := 0, nanosecond := 0 }

end Rowsmith.Value
