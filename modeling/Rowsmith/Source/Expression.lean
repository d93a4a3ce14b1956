import Rowsmith.Source.Literal
import Rowsmith.Source.Token

/-!
# Expressions

An expression is held by its tokens. Only the forms that annotations tell apart are opened further:
literals, names, calls and assignments.
-/

namespace Rowsmith.Source

/-- An expression. Targets, functions and arguments of calls are held by the name they are, if they
are a plain name. -/
inductive Expression
  | literal (value : LiteralValue) (tokens : List Token)
  | path (name : Option String) (tokens : List Token)
  | call (function : Option String) (arguments : List (Option String)) (tokens : List Token)
  | assignment (target : Option String) (value : Expression) (tokens : List Token)
  | range (tokens : List Token)
  | comparison (tokens : List Token)
  | block (tokens : List Token)
  | bracedCall (tokens : List Token)
  | other (tokens : List Token)
  deriving Repr

namespace Expression

/-- The tokens of an expression in canonical spacing. -/
def tokens : Expression → List Token
  | literal _ t | path _ t | call _ _ t | assignment _ _ t | range t | comparison t | block t
  | bracedCall t | other t => t

/-- The plain name that an expression is. -/
def name? : Expression → Option String
  | path n _ => n
  | _ => none

/-- Whether the expression is a range, which takes no operator after it. -/
def isRange : Expression → Bool
  | range _ => true
  | _ => false

/-- Whether the expression is a comparison, which is not compared again. -/
def isComparison : Expression → Bool
  | comparison _ => true
  | _ => false

/-- Whether the expression ends a statement by its closing brace. -/
def isBlock : Expression → Bool
  | block _ => true
  | _ => false

/-- Whether the expression is a statement without a semicolon. -/
def isStatement : Expression → Bool
  | block _ | bracedCall _ => true
  | _ => false

/-- The expression behind attributes. Literals, names and calls keep their form. -/
def withAttributes (attributes : List Token) : Expression → Expression
  | literal v t => literal v (attributes ++ t)
  | path n t => path n (attributes ++ t)
  | call f a t => call f a (attributes ++ t)
  | assignment n v t => assignment n v (attributes ++ t)
  | range t => range (attributes ++ t)
  | comparison t => comparison (attributes ++ t)
  | block t => block (attributes ++ t)
  | bracedCall t => bracedCall (attributes ++ t)
  | other t => other (attributes ++ t)

end Expression

/-- The text of an identifier without its raw prefix. -/
def plainName (identifier : String) : String :=
  match identifier.toList with
  | 'r' :: '#' :: rest => String.ofList rest
  | _ => identifier

end Rowsmith.Source
