import Rowsmith.Accessor.Column

/-!
# Methods

Each operation of a table becomes a method: it binds parameters, runs one statement, and reads at
most one row.
-/

namespace Rowsmith.Accessor
open Rowsmith.Schema Rowsmith.Source Rowsmith.Sql

/-- What a method takes and binds, and what it gives back. -/
inductive MethodBody
  /-- Takes nothing. -/
  | create
  /-- Takes a row and binds its properties. -/
  | write (bindings : List (String × Binding))
  /-- Takes a key of a type and binds it. -/
  | delete (keyType : List Token) (binding : Binding)
  /-- Takes a key of a type, binds it and reads a row; the properties without a column take their
  default. -/
  | find (keyType : List Token) (binding : Binding) (readings : List Reading)
      (skipped : List String)
  deriving Repr

/-- The method of an operation with the statement it runs. -/
structure Method where
  operation : Operation
  documentation : String
  body : MethodBody
  statement : Statement
  placeholder : String
  deriving Repr

/-- The text of the statement of a method. -/
def Method.sql (m : Method) : String := m.statement.text

variable (t : Table)

/-- Creates the table. -/
def createMethod (ifAbsent : Bool) : Method :=
  let operation := if ifAbsent then Operation.createTableIfNotExists else .createTable
  { operation
    documentation := "Create the `" ++ t.name ++ "` table."
    body := .create
    statement := t.createStatement ifAbsent
    placeholder := operation.placeholder t.className }

/-- The verb of the documentation of a writing method. -/
def writeVerb : Operation → String
  | .upsert => "Insert or update"
  | .update => "Update"
  | _ => "Insert"

/-- Writes a row by an operation. -/
def writeMethod (operation : Operation) : Make Method := do
  let bindings ← rowBindings t
  return {
    operation
    documentation := writeVerb operation ++ " one `" ++ t.name ++ "` row."
    body := .write bindings
    statement := t.writeStatement operation
    placeholder := operation.placeholder t.className }

/-- Deletes a row. -/
def deleteMethod : Make Method := do
  let keyType ← typeOf t.className t.key.propertyType
  let binding ← keyBinding t
  return {
    operation := .delete
    documentation := "Delete the `" ++ t.name ++ "` row with the given key."
    body := .delete keyType binding
    statement := t.deleteStatement
    placeholder := Operation.delete.placeholder t.className }

/-- Finds a row. -/
def findMethod : Make Method := do
  let keyType ← typeOf t.className t.key.propertyType
  let binding ← keyBinding t
  let readings ← rowReadings t
  return {
    operation := .find
    documentation :=
      "Find the `" ++ t.name ++ "` row with the given key, `None` when absent."
    body := .find keyType binding readings t.skipped
    statement := t.findStatement
    placeholder := Operation.find.placeholder t.className }

/-- The methods of a table, one for each operation in order. -/
def methods : Make (List Method) := do
  let insert ← writeMethod t .insert
  let upsert ← writeMethod t .upsert
  let update ← writeMethod t .update
  let delete ← deleteMethod t
  let find ← findMethod t
  return [createMethod t false, createMethod t true, insert, upsert, update, delete, find]

end Rowsmith.Accessor
