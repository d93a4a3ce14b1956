import Rowsmith.Schema.Table
import Rowsmith.Text.Alphanumeric
import Rowsmith.Text.IdentifierChar
import Rowsmith.Text.Word

/-!
# Names of bridges

A type without a column of its own travels through a pair of bridges, named after both sides. A
type text is folded into one word: brackets and other marks become words, the rest is dropped.
-/

namespace Rowsmith.Schema
open Rowsmith.Text

/-- A segment with its first letter in upper case. -/
def capitalize : List Char → List Char
  | [] => []
  | c :: rest => upperForms c ++ rest

/-- The word that a mark of a type text becomes. -/
def markWord (c : Char) : List Char :=
  match c with
  | '<' => ['O', 'f']
  | ',' => ['A', 'n', 'd']
  | ':' => ['P', 'a', 't', 'h']
  | '&' => ['R', 'e', 'f']
  | '(' => ['T', 'u', 'p', 'l', 'e']
  | _ => []

/-- The word of a type text, given the open segment. -/
def foldFrom (segment : List Char) : List Char → List Char
  | [] => capitalize segment
  | c :: rest =>
    if isAlphanumeric c then foldFrom (segment ++ [c]) rest
    else capitalize segment ++ markWord c ++ foldFrom [] rest

/-- The word of a type text, its nullable marker aside. -/
def foldType (type : String) : String :=
  let base := replace (replace (stripNullable type).1 "[]" "Array") "::" ":"
  String.ofList (foldFrom [] base.toList)

/-- The names of the two bridges between a property type and a column. -/
structure BridgeNames where
  /-- The bridge to the column. -/
  toColumn : String
  /-- The bridge from the column. -/
  fromColumn : String
  deriving DecidableEq, Repr

namespace BridgeNames

/-- The names of the bridges between a property type and a host type. -/
def between (propertyType hostType : String) : BridgeNames :=
  let property := foldType propertyType
  let host := foldType hostType
  { toColumn := property ++ "To" ++ host ++ "Converter"
    fromColumn := host ++ "To" ++ property ++ "Converter" }

end BridgeNames

/-- Whether a text may name a method. -/
def isMethodName (name : String) : Bool := isIdentifierWord name.toList

/-- The names of the bridges of a column. -/
def Column.bridgeNames (c : Column) : BridgeNames :=
  .between c.propertyType c.columnType.hostType

/-- The method that takes a value of the column's property to the column. -/
def Column.bridgeTo (c : Column) : String := snakeCase c.bridgeNames.toColumn

/-- The method that takes a value of the column back. -/
def Column.bridgeFrom (c : Column) : String := snakeCase c.bridgeNames.fromColumn

end Rowsmith.Schema
