import Rowsmith.Accessor.Bridge
import Rowsmith.Accessor.Method

/-!
# Source of accessors

The tokens of bindings, readings, methods and bridges. Names of the library are taken from its path,
all other names are rooted, so that they mean the same wherever the source is placed.
-/

namespace Rowsmith.Accessor
open Rowsmith.Schema Rowsmith.Source Rowsmith.Sql

/-- A call without arguments. -/
def callEmpty : List Token := parens []

/-- The traits of the library whose methods the accessors call. -/
def libraryTraits : List String :=
  ["DbConnection", "DbCommand", "DbDataReader", "FromColumn", "ToParameter"]

/-- The paths of the traits that the accessors call. -/
def imports (runtime : List Token) : List (List Token) :=
  libraryTraits.map fun name => runtime ++ code "::" ++ word name

/-- What every method begins with: imports, a trace event, and a command that carries a text. -/
def prologue (runtime : List Token) (tableName methodName text : String) : List Token :=
  ((imports runtime).flatMap fun path =>
      code "#" ++ brackets (code "allow" ++ parens (code "unused_imports")) ++ code "use" ++ path
        ++ code "as _ ;")
    ++ runtime ++ code ":: tracing :: debug !"
    ++ parens (code "table =" ++ textLiteral tableName ++ code ", operation ="
      ++ textLiteral methodName ++ code "," ++ textLiteral "executing statement")
    ++ code "; let mut command = self . connection" ++ callEmpty ++ code ". create_command"
    ++ callEmpty ++ code "; command . set_command_text" ++ parens (textLiteral text) ++ code ";"

namespace Binding

/-- The value that is bound, taken from a place. -/
def valueTokens (b : Binding) (place : List Token) : List Token :=
  let mapped (body : List Token) : List Token :=
    place ++ code ". as_ref" ++ callEmpty ++ code ". map" ++ parens (code "| value |" ++ body)
  match b.form with
  | .plain => place
  | .discriminant type =>
    let cast (argument : List Token) : List Token :=
      code ":: core :: clone :: Clone :: clone" ++ parens argument ++ code "as" ++ word type
    if b.isOptional then mapped (cast (word "value")) else parens (cast (code "&" ++ place))
  | .bridge method =>
    let call (argument : List Token) : List Token :=
      code "self ." ++ word method ++ parens argument
    if b.isOptional then mapped (call (word "value")) else call (code "&" ++ place)

/-- The statements that bind a value taken from a place. -/
def tokens (b : Binding) (runtime place : List Token) : List Token :=
  code "let parameter = self . create_parameter"
    ++ parens (code "& * command ," ++ textLiteral b.parameter ++ code "," ++ runtime
      ++ code ":: ToParameter :: to_parameter" ++ parens (code "&" ++ b.valueTokens place))
    ++ code "; command . add_parameter" ++ parens (word "parameter") ++ code ";"

end Binding

/-- The place of a property of the row that a method takes. -/
def rowPlace (property : String) : List Token := code "dbo ." ++ word property

/-- The place of the key that a method takes. -/
def keyPlace : List Token := word "primary_key"

namespace Reading

/-- The value that the getter gives. -/
def rawTokens (r : Reading) : List Token :=
  code "reader ." ++ word r.getter.name ++ parens (ordinalLiteral r.ordinal) ++ code "?"

/-- The value of the property, given that the column is not null. -/
def valueTokens (r : Reading) (runtime : List Token) : List Token :=
  match r.form with
  | .discriminant integer type name =>
    braces (code "let value :" ++ word integer ++ code "=" ++ r.rawTokens ++ code "; <" ++ type
      ++ code "as :: core :: convert :: TryFrom <" ++ word integer ++ code ">> :: try_from"
      ++ parens (word "value") ++ code ". map_err"
      ++ parens (code "| _ |" ++ runtime ++ code ":: DbError :: invalid_enum"
        ++ parens (textLiteral name ++ code ", value"))
      ++ code "?")
  | .bridge method => code "self ." ++ word method ++ parens r.rawTokens
  | .narrowing type _ isInstant =>
    code "<" ++ type ++ code "as" ++ runtime ++ code ":: FromColumn < _ >> :: from_column"
      ++ parens (r.rawTokens ++ if isInstant then code ". and_utc" ++ callEmpty else [])
      ++ code "?"

/-- The value of a property that is left out. -/
def defaultTokens : List Token :=
  code ":: core :: default :: Default :: default" ++ callEmpty

/-- The value of the property. -/
def guardedTokens (r : Reading) (runtime : List Token) : List Token :=
  let value := r.valueTokens runtime
  if r.isNullable then
    let wrapped :=
      if r.isOptional then code ":: core :: option :: Option :: Some" ++ parens value else value
    code "if reader . is_null" ++ parens (ordinalLiteral r.ordinal) ++ code "?"
      ++ braces defaultTokens ++ code "else" ++ braces wrapped
  else value

/-- The initializer of the property. -/
def tokens (r : Reading) (runtime : List Token) : List Token :=
  word r.property ++ code ":" ++ r.guardedTokens runtime

end Reading

/-- The type of a result, with the error type of the library. -/
def resultType (runtime value : List Token) : List Token :=
  code ":: core :: result :: Result <" ++ value ++ code "," ++ runtime ++ code ":: DbError >"

/-- A result that holds a value. -/
def okTokens (value : List Token) : List Token :=
  code ":: core :: result :: Result :: Ok" ++ parens value

/-- Runs the command without reading rows. -/
def executeTokens : List Token :=
  code "command . execute_non_query" ++ callEmpty ++ code ". await ? ;" ++ okTokens callEmpty

/-- Reads one row into a class. -/
def readRowTokens (c : Context) (readings : List Reading) (hasRest : Bool) : List Token :=
  let initializers := readings.flatMap fun r => r.tokens c.runtime ++ code ","
  let rest := if hasRest then code ".." ++ Reading.defaultTokens else []
  code "let mut reader = command . execute_reader" ++ callEmpty
    ++ code ". await ? ; if ! reader . read" ++ callEmpty ++ code ". await ?"
    ++ braces (code "return" ++ okTokens (code ":: core :: option :: Option :: None") ++ code ";")
    ++ okTokens (code ":: core :: option :: Option :: Some"
      ++ parens (word c.className ++ braces (initializers ++ rest)))

/-- The declaration of an accessor, with the arguments behind the receiver. -/
def accessorTokens (runtime : List Token) (documentationText name : String)
    (arguments value body : List Token) : List Token :=
  documentation documentationText ++ code "async fn" ++ word name
    ++ parens (code "& self" ++ arguments) ++ code "->" ++ resultType runtime value ++ braces body

namespace Method

/-- The tokens of a method. -/
def tokens (m : Method) (c : Context) : List Token :=
  let start := prologue c.runtime c.table.name m.operation.methodName m.placeholder
  let accessor := accessorTokens c.runtime m.documentation m.operation.methodName
  match m.body with
  | .create => accessor [] callEmpty (start ++ executeTokens)
  | .write bindings =>
    accessor (code ", dbo : &" ++ word c.className) callEmpty
      (start ++ (bindings.flatMap fun (property, b) => b.tokens c.runtime (rowPlace property))
        ++ executeTokens)
  | .delete keyType binding =>
    accessor (code ", primary_key :" ++ keyType) callEmpty
      (start ++ binding.tokens c.runtime keyPlace ++ executeTokens)
  | .find keyType binding readings skipped =>
    accessor (code ", primary_key :" ++ keyType)
      (code ":: core :: option :: Option <" ++ word c.className ++ code ">")
      (start ++ binding.tokens c.runtime keyPlace ++ readRowTokens c readings (!skipped.isEmpty))

end Method

namespace Bridge

/-- The declarations of a pair of methods. -/
def tokens (b : Bridge) : List Token :=
  documentation ("Convert a `" ++ b.name ++ "` into its column value.") ++ code "fn"
    ++ word b.toColumn ++ parens (code "& self , value : &" ++ b.type)
    ++ code "->" ++ b.host ++ code ";"
    ++ documentation ("Convert a column value back into a `" ++ b.name ++ "`.") ++ code "fn"
    ++ word b.fromColumn ++ parens (code "& self , value :" ++ b.host)
    ++ code "->" ++ b.type ++ code ";"

end Bridge

/-- The method that makes a parameter with a name and a value. -/
def parameterHelper (runtime : List Token) : List Token :=
  fixedDocumentation "Create a parameter on `command` carrying `name` and `value`."
    ++ code "fn create_parameter"
    ++ parens (code "& self , command : & dyn" ++ runtime
      ++ code ":: DbCommand , name : & str , value :" ++ runtime ++ code ":: DbValue")
    ++ code "->" ++ runtime ++ code ":: DbParameter"
    ++ braces (code "let mut parameter = command . create_parameter" ++ callEmpty
      ++ code "; parameter . set_name" ++ parens (word "name")
      ++ code "; parameter . set_value" ++ parens (word "value") ++ code "; parameter")

end Rowsmith.Accessor
