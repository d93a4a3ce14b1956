import Rowsmith.Schema.Table

/-!
# Statements

The statements that create a table and write, delete and find its rows, and their text. A parameter
has the name of its column behind an at sign.
-/

namespace Rowsmith.Sql
open Rowsmith.Schema

/-- The definition of a column. -/
structure ColumnDefinition where
  name : String
  type : ColumnType
  isPrimaryKey : Bool
  isUnique : Bool
  isRequired : Bool
  references : Option (String × String)
  deriving DecidableEq, Repr

/-- What to do when an inserted key is there already: overwrite the given columns. -/
structure Conflict where
  key : String
  overwritten : List String
  deriving DecidableEq, Repr

/-- A statement. Rows are written, deleted and found by the value of the key column. -/
inductive Statement
  | create (ifAbsent : Bool) (table : String) (columns : List ColumnDefinition)
      (uniques : List (List String))
  | insert (table : String) (columns : List String) (conflict : Option Conflict)
  | update (table : String) (assigned : List String) (key : String)
  | delete (table key : String)
  | find (table key : String)
  deriving DecidableEq, Repr

/-- The name of the parameter of a column. -/
def parameterName (column : String) : String := "@" ++ column

/-- Names parted by commas. -/
def commaSeparated (names : List String) : String := ", ".intercalate names

/-- A column takes the value of its parameter. -/
def assignment (column : String) : String := column ++ " = " ++ parameterName column

namespace ColumnDefinition

/-- The clauses behind the name of a column, in order. -/
def clauses (c : ColumnDefinition) : List String :=
  [c.type.sqlName] ++ (if c.isPrimaryKey then ["PRIMARY KEY"] else [])
    ++ (if c.isUnique then ["UNIQUE"] else [])
    ++ (if c.isRequired then ["NOT NULL"] else [])
    ++ match c.references with
      | some (table, column) => ["REFERENCES " ++ table ++ "(" ++ column ++ ")"]
      | none => []

/-- The text of a column definition, without its indentation. -/
def text (c : ColumnDefinition) : String := " ".intercalate (c.name :: c.clauses)

end ColumnDefinition

/-- The text of a list of columns that are unique together. -/
def uniqueText (columns : List String) : String := "UNIQUE (" ++ commaSeparated columns ++ ")"

/-- The text of an insertion without what follows on a conflict. -/
def insertClause (table : String) (columns : List String) : String :=
  "INSERT INTO " ++ table ++ " (" ++ commaSeparated columns ++ ") VALUES ("
    ++ commaSeparated (columns.map parameterName) ++ ")"

/-- The text of what happens on a conflict. -/
def Conflict.text (c : Conflict) : String :=
  " ON CONFLICT(" ++ c.key ++ ") "
    ++ if c.overwritten.isEmpty then "DO NOTHING"
      else "DO UPDATE SET "
        ++ commaSeparated (c.overwritten.map fun column => column ++ " = excluded." ++ column)

/-- The text of a statement. -/
def Statement.text : Statement → String
  | create ifAbsent table columns uniques =>
    let lines := columns.map ColumnDefinition.text ++ uniques.map uniqueText
    "CREATE TABLE " ++ (if ifAbsent then "IF NOT EXISTS " else "") ++ table ++ " (\n"
      ++ ",\n".intercalate (lines.map ("    " ++ ·)) ++ "\n);"
  | insert table columns conflict =>
    insertClause table columns ++ (conflict.map Conflict.text).getD "" ++ ";"
  | update table assigned key =>
    "UPDATE " ++ table ++ " SET " ++ commaSeparated (assigned.map assignment) ++ " WHERE "
      ++ assignment key ++ ";"
  | delete table key => "DELETE FROM " ++ table ++ " WHERE " ++ assignment key ++ ";"
  | find table key => "SELECT * FROM " ++ table ++ " WHERE " ++ assignment key ++ ";"

end Rowsmith.Sql
