import Rowsmith.Accessor.Column

/-!
# Bridges

For every type without a column of its own, a pair of methods that the user supplies takes its
values to the column and back. No two methods of the pairs share a name.
-/

namespace Rowsmith.Accessor
open Rowsmith.Schema Rowsmith.Source

/-- A pair of methods between a type and the host type of its column. -/
structure Bridge where
  toColumn : String
  fromColumn : String
  /-- The text of the property's type. -/
  name : String
  type : List Token
  host : List Token
  deriving Repr

/-- A class whose rows are accessed, and the path of the library that its accessors use. -/
structure Context where
  table : Table
  runtime : List Token
  /-- The identifier of the class. -/
  className : String

/-- The context of a table. -/
def contextOf (table : Table) (runtime : List Token) : Make Context := do
  return { table, runtime, className := ← identifierOf table.className table.className }

/-- Whether a character belongs to a word of a host type. -/
def isHostWordChar (c : Char) : Bool := Rowsmith.Text.isAlphanumeric c || c = '_'

/-- The text of a host type with a module before each of its words, given the open word. -/
def qualifyFrom (module word : List Char) : List Char → List Char
  | [] => if word.isEmpty then [] else module ++ word
  | c :: rest =>
    if isHostWordChar c then qualifyFrom module (word ++ [c]) rest
    else (if word.isEmpty then [] else module ++ word) ++ c :: qualifyFrom module [] rest

/-- The host type of a column, with its names taken from the library. -/
def hostTypeOf (className : String) (runtime : List Token) (type : ColumnType) :
    Make (List Token) :=
  let module := Token.textAll runtime ++ "::types::"
  let text := String.ofList (qualifyFrom module.toList [] type.hostType.toList)
  match Phrase.ofText Phrase.wholeType text with
  | .ok tokens => .ok tokens
  | .error fault =>
    .error (.error (.unreadable className ("`" ++ text ++ "`: " ++ fault.message)))

/-- The two method names of a column with its type, if both are names of methods. -/
def claimsOf (c : Column) : Make (List (String × String)) := do
  return [(← methodOf c.bridgeTo, c.baseType), (← methodOf c.bridgeFrom, c.baseType)]

/-- Adds claims on method names to those that stand, or tells which name is claimed twice. -/
def addClaims (className : String) (standing : List (String × String)) :
    List (String × String) → Make (List (String × String))
  | [] => return standing
  | (name, type) :: rest =>
    match standing.lookup name with
    | some first => .error (.error (.sharedBridge className name first type))
    | none => addClaims className (standing ++ [(name, type)]) rest

/-- The claims of columns on method names, in order. -/
def claimNames (className : String) (standing : List (String × String)) :
    List Column → Make (List (String × String))
  | [] => return standing
  | c :: rest => do
    let claims ← claimsOf c
    claimNames className (← addClaims className standing claims) rest

/-- The bridge of a column. -/
def bridgeOf (className : String) (runtime : List Token) (c : Column) : Make Bridge := do
  let toColumn ← methodOf c.bridgeTo
  let fromColumn ← methodOf c.bridgeFrom
  let type ← typeOf className c.baseType
  let host ← hostTypeOf className runtime c.columnType
  return { toColumn, fromColumn, name := c.baseType, type, host }

/-- The bridges of a table. -/
def bridges (t : Table) (runtime : List Token) : Make (List Bridge) := do
  let _ ← claimNames t.className [] t.bridgedColumns
  t.bridgedColumns.mapM (bridgeOf t.className runtime)

end Rowsmith.Accessor
