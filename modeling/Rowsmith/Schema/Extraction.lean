import Rowsmith.Failure
import Rowsmith.Schema.Declaration
import Rowsmith.Schema.Table
import Rowsmith.Text.IntegerText

/-!
# Extraction

A declaration is turned into a table. Properties that are read and written become columns; exactly
one of them is marked as the key.
-/

namespace Rowsmith.Schema
open Rowsmith.Text

/-- What the annotations of a property say of its column. -/
structure Marks where
  name : String
  isUnique : Bool := false
  isPrimaryKey : Bool := false
  isForeignKey : Bool := false
  reference : Option (String × String) := none
  length : Option Nat := none
  deriving DecidableEq, Repr

/-- The name of a property without its raw prefix. -/
def defaultColumnName (property : String) : String := withoutStart "r#" property

/-- The length that a text or an integer writes, from 0 to 255. -/
def lengthOf? : Argument → Option Nat
  | .text s | .integer s =>
    match integerOf .word8 (trimBlanks s.toList) with
    | .ok n => some n.toNat
    | .error _ => none
  | .nameOf _ | .expression _ => none

/-- The effect of one annotation of a property. -/
def Marks.annotate (property : String) (m : Marks) (a : Annotation) :
    Except GenerationError Marks :=
  if a.is "column_name" then
    match a.argument? "name" 0 with
    | some argument => .ok { m with name := argument.asText }
    | none => .ok m
  else if a.is "unique" || a.is "column_unique" then .ok { m with isUnique := true }
  else if a.is "primary_key" then .ok { m with isPrimaryKey := true }
  else if a.is "varchar" then
    match a.argument? "length" 0 with
    | some argument =>
      match lengthOf? argument with
      | some n => .ok { m with length := some n }
      | none => .error (.invalidLength property argument.asText)
    | none => .ok m
  else if a.is "foreign_key" then
    match a.argument? "table" 0, a.argument? "field" 1 with
    | some table, some field =>
      .ok { m with isForeignKey := true, reference := some (table.asText, field.asText) }
    | _, _ => .ok { m with isForeignKey := true }
  else .ok m

/-- What the annotations of a property say, in order. -/
def marksOf (p : Property) : Except GenerationError Marks :=
  p.annotations.foldlM (Marks.annotate p.name) { name := defaultColumnName p.name }

/-- The column of a property, given what its annotations say. -/
def columnWith (resolver : Resolver) (p : Property) (m : Marks) : Column :=
  let (base, marked) := stripNullable p.type
  let resolution := resolver base
  let mapping := mapHostType base
  let width := resolution.enumWidth?
  { name := m.name
    propertyName := p.name
    propertyType := p.type
    columnType := match width with
      | some w => Width.columnType w
      | none => if m.length.isSome then .varchar else mapping.columnType
    isUnique := m.isUnique
    isPrimaryKey := m.isPrimaryKey
    isForeignKey := m.isForeignKey
    isNullable := p.nullable || marked || resolution.isNullable
    isEnum := width.isSome
    enumWidth := width.join
    needsBridge := width.isNone && mapping.needsBridge
    referenceTable := m.reference.map Prod.fst
    referenceField := m.reference.map Prod.snd
    length := m.length }

/-- The column of a property. -/
def columnOf (resolver : Resolver) (p : Property) : Except GenerationError Column := do
  return columnWith resolver p (← marksOf p)

/-- The name of the table of a class. -/
def tableName (d : Declaration) : String :=
  match (d.annotationsNamed "table").findSome? (·.argument? "name" 0) with
  | some argument => argument.asText
  | none => d.name

/-- The lists of columns that are unique together. -/
def tableUniques (d : Declaration) : List (List String) :=
  ((d.annotationsNamed "table_unique").map fun a => a.positional.map Argument.asText).filter
    (!·.isEmpty)

/-- The one column that is marked as the key. -/
def keyOf (className : String) (columns : List Column) : Except GenerationError Column :=
  match columns.filter (·.isPrimaryKey) with
  | [] => .error (.missingKey className)
  | [key] => .ok key
  | keys => .error (.severalKeys className (keys.map (·.name)))

/-- The table of a declaration. -/
def extract (resolver : Resolver) (d : Declaration) : Except GenerationError Table := do
  let columns ← (d.properties.filter (·.isColumn)).mapM (columnOf resolver)
  let key ← keyOf d.name columns
  return {
    name := tableName d
    className := d.name
    key
    columns
    uniques := tableUniques d
    skipped := (d.properties.filter (!·.isColumn)).map (·.name) }

end Rowsmith.Schema
