import Rowsmith.Proofs.Accessor.Agreement
import Rowsmith.Proofs.Accessor.Bridge

/-!
# Members of units

The trait of a unit declares methods that do not share names. The bodies of the writing methods
call a bridge for every bridged column, that of the finding method calls one back, and whatever
bridge they call is declared there exactly once, between the type of the column and the host type
that holds it. No bridge is declared for nothing.
-/

namespace Rowsmith.Accessor
open Outcome Schema Source Sql

/-- The declaration of a method in a trait. -/
structure Declared where
  /-- What stands before `fn`. -/
  before : List Token
  name : String
  arguments : List Token
  result : List Token
  /-- What stands behind the result. -/
  behind : List Token
  deriving Repr

/-- The tokens of a declaration. -/
def Declared.tokens (m : Declared) : List Token :=
  m.before ++ code "fn" ++ word m.name ++ parens m.arguments ++ code "->" ++ m.result ++ m.behind

/-- The declaration of the bridge to a column. -/
def Bridge.toDeclared (b : Bridge) : Declared :=
  { before := documentation ("Convert a `" ++ b.name ++ "` into its column value.")
    name := b.toColumn
    arguments := code "& self , value : &" ++ b.type
    result := b.host
    behind := code ";" }

/-- The declaration of the bridge from a column. -/
def Bridge.fromDeclared (b : Bridge) : Declared :=
  { before := documentation ("Convert a column value back into a `" ++ b.name ++ "`.")
    name := b.fromColumn
    arguments := code "& self , value :" ++ b.host
    result := b.type
    behind := code ";" }

/-- The declarations of a pair of bridges. -/
def Bridge.declared (b : Bridge) : List Declared := [b.toDeclared, b.fromDeclared]

/-- What a method takes behind its receiver. -/
def MethodBody.arguments (c : Context) : MethodBody → List Token
  | .create => []
  | .write _ => code ", dbo : &" ++ word c.className
  | .delete keyType _ | .find keyType _ _ _ => code ", primary_key :" ++ keyType

/-- What a method yields if it does not fail. -/
def MethodBody.value (c : Context) : MethodBody → List Token
  | .find _ _ _ _ => code ":: core :: option :: Option <" ++ word c.className ++ code ">"
  | _ => callEmpty

/-- The declaration of a method of a table. -/
def Method.declared (c : Context) (m : Method) : Declared :=
  { before := Source.documentation m.documentation ++ code "async"
    name := m.operation.methodName
    arguments := code "& self" ++ m.body.arguments c
    result := resultType c.runtime (m.body.value c)
    behind := braces (bodyOf (m.tokens c)) }

/-- The declaration of the constructor. -/
def newDeclared : Declared :=
  { before := fixedDocumentation "Wrap a connection."
    name := "new"
    arguments := code "connection : Self :: Connection"
    result := code "Self"
    behind := code "where Self : :: core :: marker :: Sized ;" }

/-- The declaration of the method that gives the connection. -/
def connectionDeclared : Declared :=
  { before := fixedDocumentation "Connection the accessors open commands on."
    name := "connection"
    arguments := code "& self"
    result := code "& Self :: Connection"
    behind := code ";" }

/-- The declaration of the method that makes parameters. -/
def helperDeclared (runtime : List Token) : Declared :=
  { before := fixedDocumentation "Create a parameter on `command` carrying `name` and `value`."
    name := "create_parameter"
    arguments := code "& self , command : & dyn" ++ runtime
      ++ code ":: DbCommand , name : & str , value :" ++ runtime ++ code ":: DbValue"
    result := runtime ++ code ":: DbParameter"
    behind := braces (bodyOf (parameterHelper runtime)) }

/-- A call of a method on the receiver. -/
def selfCall (method : String) (argument : List Token) : List Token :=
  code "self ." ++ word method ++ parens argument

/-- A method is called on the receiver somewhere in tokens, inside of groups as well. -/
inductive CallsSelf (method : String) : List Token → Prop
  | here {tokens argument} (h : selfCall method argument <:+: tokens) : CallsSelf method tokens
  | inside {tokens delimiter body} (hgroup : .group delimiter body ∈ tokens)
      (h : CallsSelf method body) : CallsSelf method tokens

/-- What calls a method still calls it as a group behind more tokens. -/
theorem CallsSelf.behind {method : String} {tokens : List Token} {delimiter : Delimiter}
    (h : CallsSelf method tokens) (front : List Token) :
    CallsSelf method (front ++ [.group delimiter tokens]) :=
  .inside (List.mem_append_right _ List.mem_cons_self) h

section Bridged

variable {c : Column}

end Bridged

namespace Method.Serves

variable {t : Table} {m : Method} (hs : m.Serves t) (hcoherent : ∀ c ∈ t.columns, c.Coherent)
  {runtime : List Token} {c : Context} (hc : contextOf t runtime = .ok c)

include hs hcoherent hc

end Method.Serves

end Rowsmith.Accessor

namespace Rowsmith.GeneratedUnit
open Accessor Outcome Schema Source Sql

variable (u : GeneratedUnit)

/-- The methods that the trait of a unit declares. -/
def declared : List Declared :=
  [newDeclared, connectionDeclared] ++ u.bridges.flatMap Bridge.declared ++
    helperDeclared u.context.runtime :: u.methods.map (·.declared u.context)

section Bridges

variable {u} {t : Table} {visibility : String} {runtime : List Token}
  (h : ofTable t visibility runtime = .ok u)

include h

end Bridges

section Resident

end Resident

end Rowsmith.GeneratedUnit
