import Rowsmith.Schema.Width

/-!
# Tables

A table has a name, the class whose rows it holds, a key column and columns in order. A column
keeps what its property tells.
-/

namespace Rowsmith.Schema

/-- A column. -/
structure Column where
  name : String
  propertyName : String
  propertyType : String
  columnType : ColumnType
  isUnique : Bool := false
  isPrimaryKey : Bool := false
  isForeignKey : Bool := false
  isNullable : Bool := false
  isEnum : Bool := false
  enumWidth : Option Width := none
  needsBridge : Bool := false
  referenceTable : Option String := none
  referenceField : Option String := none
  length : Option Nat := none
  deriving DecidableEq, Repr

namespace Column

/-- The type text without its nullable marker. -/
def baseType (c : Column) : String := (stripNullable c.propertyType).1

/-- Whether the type text has a nullable marker. -/
def isOptional (c : Column) : Bool := (stripNullable c.propertyType).2

/-- The column that a foreign key refers to. -/
def references (c : Column) : Option (String × String) :=
  match c.referenceTable, c.referenceField with
  | some table, some field => if c.isForeignKey then some (table, field) else none
  | _, _ => none

end Column

/-- A table. -/
structure Table where
  name : String
  className : String
  key : Column
  columns : List Column
  uniques : List (List String) := []
  skipped : List String := []
  deriving DecidableEq, Repr

namespace Table

/-- The columns that are not marked as the key. -/
def otherColumns (t : Table) : List Column :=
  t.columns.filter (!·.isPrimaryKey)

/-- The first columns of each type text, markers aside, given the types seen before. -/
def firstOfEachType (seen : List String) : List Column → List Column
  | [] => []
  | c :: rest =>
    if seen.contains c.baseType then firstOfEachType seen rest
    else c :: firstOfEachType (c.baseType :: seen) rest

/-- The bridged columns, the first one of each type. -/
def bridgedColumns (t : Table) : List Column :=
  firstOfEachType [] (t.columns.filter (·.needsBridge))

end Table

end Rowsmith.Schema
