import Rowsmith.Accessor.Rendering
import Rowsmith.Schema.Extraction
import Rowsmith.Unit.Substitution

/-!
# Units

A unit holds all that is generated for one class: a trait with the bridges, the parameter helper
and the seven methods. It is written out with the texts of its statements in place.
-/

namespace Rowsmith
open Rowsmith.Accessor Rowsmith.Schema Rowsmith.Source Rowsmith.Sql Rowsmith.Text Rowsmith.Unit

/-- All that is generated for one class. -/
structure GeneratedUnit where
  context : Context
  visibility : List Token
  bridges : List Bridge
  methods : List Method

/-- The visibility that a text is. -/
def visibilityOf (className text : String) : Make (List Token) :=
  match Phrase.ofText Phrase.visibility text with
  | .ok tokens => .ok tokens
  | .error fault =>
    .error (.error (.unreadable className
      ("invalid visibility `" ++ text ++ "`: " ++ fault.message)))

namespace GeneratedUnit

/-- The unit of a table. -/
def ofTable (table : Table) (visibility : String) (runtime : List Token) : Make GeneratedUnit := do
  let context ← contextOf table runtime
  let methods ← Accessor.methods table
  let bridges ← Accessor.bridges table runtime
  let visibility ← visibilityOf table.className visibility
  return { context, visibility, bridges, methods }

variable (u : GeneratedUnit)

/-- The name of the class as it was declared. -/
def className : String := u.context.table.className

/-- The name of the trait. -/
def baseName : String := plainName u.context.className ++ "TableContextBase"

/-- The name of the file that the unit is written to. -/
def fileName : String := snakeCase u.baseName ++ ".rs"

/-- The documentation of the trait. -/
def documentationText : String :=
  "Data access for `" ++ u.className ++ "` rows stored in the `" ++ u.context.table.name
    ++ "` table.\n\nImplement `new` and `connection`"
    ++ (if u.bridges.isEmpty then "" else " plus the conversion bridges")
    ++ "; every accessor is provided."

/-- The members of the trait. -/
def members : List Token :=
  let runtime := u.context.runtime
  let connectionText := "Connection the accessors open commands on."
  fixedDocumentation connectionText ++ code "type Connection :" ++ runtime
    ++ code ":: DbConnection ;"
    ++ fixedDocumentation "Wrap a connection." ++ code "fn new"
    ++ parens (code "connection : Self :: Connection")
    ++ code "-> Self where Self : :: core :: marker :: Sized ;"
    ++ fixedDocumentation connectionText ++ code "fn connection" ++ parens (code "& self")
    ++ code "-> & Self :: Connection ;"
    ++ u.bridges.flatMap Bridge.tokens ++ parameterHelper runtime
    ++ u.methods.flatMap (·.tokens u.context)

/-- The tokens of the unit, with placeholders for the texts of statements. -/
def tokens : List Token :=
  documentation u.documentationText
    ++ code "#" ++ brackets (u.context.runtime ++ code ":: async_trait")
    ++ u.visibility ++ code "trait" ++ word u.baseName
    ++ code ": :: core :: marker :: Send + :: core :: marker :: Sync" ++ braces u.members

/-- The texts of the statements and their placeholders. -/
def insertions : List Insertion :=
  u.methods.map fun m => { placeholder := m.placeholder, sql := m.sql }

/-- The source of the unit. -/
def render : String := substitute (Token.textAll u.tokens) u.insertions

/-- The tokens of the source, if it can be read again. -/
def reread : Make (List Token) :=
  match tokenize u.render with
  | some tokens => .ok tokens
  | none => .error (.error (.unreadable u.className SyntaxFault.noTokens.message))

end GeneratedUnit

end Rowsmith
