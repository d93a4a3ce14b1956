import Rowsmith.Sql.Statement

/-!
# Operations

The seven operations of a table, the statement of each, and the placeholder that stands for the
text of a statement until a unit is written out.
-/

namespace Rowsmith.Sql
open Rowsmith.Schema

/-- The operations of a table. -/
inductive Operation
  | createTable | createTableIfNotExists | insert | upsert | update | delete | find
  deriving DecidableEq, Repr

namespace Operation

/-- All operations in order. -/
def all : List Operation :=
  [createTable, createTableIfNotExists, insert, upsert, update, delete, find]

/-- The method of an operation. -/
def methodName : Operation → String
  | createTable => "create_table"
  | createTableIfNotExists => "create_table_if_not_exists"
  | insert => "insert"
  | upsert => "upsert"
  | update => "update"
  | delete => "delete"
  | find => "find"

/-- The operation of a method. -/
def ofMethodName? (name : String) : Option Operation :=
  all.find? (·.methodName == name)

/-- The word of an operation in its placeholder. -/
def tag : Operation → String
  | createTable => "CREATE"
  | createTableIfNotExists => "CREATE_IF_NOT_EXISTS"
  | insert => "INSERT"
  | upsert => "UPSERT"
  | update => "UPDATE"
  | delete => "DELETE"
  | find => "FIND"

/-- The text that stands for the statement of an operation on a class. -/
def placeholder (o : Operation) (className : String) : String :=
  "__SQL_" ++ o.tag ++ "_" ++ className ++ "__"

theorem mem_all (o : Operation) : o ∈ all := by
  cases o <;> decide

theorem ofMethodName?_methodName (o : Operation) : ofMethodName? o.methodName = some o := by
  cases o <;> rfl

end Operation

end Rowsmith.Sql

namespace Rowsmith.Schema
open Rowsmith.Sql

/-- The definition of a column in its table. -/
def Column.definition (c : Column) : ColumnDefinition :=
  { name := c.name
    type := c.columnType
    isPrimaryKey := c.isPrimaryKey
    isUnique := c.isUnique
    isRequired := !c.isPrimaryKey && !c.isNullable
    references := c.references }

namespace Table

/-- The names of the columns in order. -/
def columnNames (t : Table) : List String := t.columns.map (·.name)

/-- The names of the columns that are not the key, in order. -/
def otherNames (t : Table) : List String := t.otherColumns.map (·.name)

/-- Creates the table. -/
def createStatement (t : Table) (ifAbsent : Bool) : Statement :=
  .create ifAbsent t.name (t.columns.map Column.definition) t.uniques

/-- Inserts a row. -/
def insertStatement (t : Table) : Statement := .insert t.name t.columnNames none

/-- Inserts a row, or overwrites all but the key of the row that is there. -/
def upsertStatement (t : Table) : Statement :=
  .insert t.name t.columnNames (some { key := t.key.name, overwritten := t.otherNames })

/-- Overwrites a row. A table of nothing but its key assigns the key to itself. -/
def updateStatement (t : Table) : Statement :=
  .update t.name (if t.otherNames.isEmpty then [t.key.name] else t.otherNames) t.key.name

/-- Deletes a row. -/
def deleteStatement (t : Table) : Statement := .delete t.name t.key.name

/-- Finds a row. -/
def findStatement (t : Table) : Statement := .find t.name t.key.name

/-- The statement that writes a row by an operation; all but two insert it. -/
def writeStatement (t : Table) : Operation → Statement
  | .upsert => t.upsertStatement
  | .update => t.updateStatement
  | _ => t.insertStatement

/-- The statement of an operation. -/
def statement (t : Table) : Operation → Statement
  | .createTable => t.createStatement false
  | .createTableIfNotExists => t.createStatement true
  | .insert => t.insertStatement
  | .upsert => t.upsertStatement
  | .update => t.updateStatement
  | .delete => t.deleteStatement
  | .find => t.findStatement

end Table

end Rowsmith.Schema
