import Rowsmith.Source.Expression
import Rowsmith.Source.Grammar

/-!
# Paths and generic arguments

Paths of segments with optional generic arguments, trait bounds, and the paths qualified by a type.
The phrases nested in them are taken from a record, which is tied to the whole grammar elsewhere.
-/

namespace Rowsmith.Source

/-- How far a type can be taken for something else. -/
inductive TypeForm
  /-- One segment, which a binding of an associated type may begin with. -/
  | segment
  /-- Another path without a qualifying type. -/
  | path
  /-- One trait bound without `dyn`. -/
  | bound
  | other
  deriving DecidableEq, Repr

/-- A type: its tokens in canonical spacing and its form. -/
structure TypePhrase where
  tokens : List Token
  form : TypeForm

/-- The phrases of the grammar that nest in each other. -/
structure Nested where
  /-- A type; the flag allows bounds joined by `+`. -/
  type : Bool → Phrase TypePhrase
  /-- An expression; the flag allows the braces of a struct behind a path. -/
  expression : Bool → Phrase Expression
  /-- A pattern; the flag allows alternatives. -/
  pattern : Bool → Phrase (List Token)
  /-- The statements of a block with their braces. -/
  block : Phrase (List Token)

/-- A path: its tokens, whether it has a single segment, whether it begins with `::`, whether no
segment has arguments, and whether the last one has. -/
structure PathPhrase where
  tokens : List Token
  single : Bool
  rooted : Bool
  plain : Bool
  closed : Bool

namespace PathPhrase

/-- The identifier that a path is. -/
def identifier? (p : PathPhrase) : Option String :=
  match p.tokens with
  | [.word w] => some w
  | _ => none

end PathPhrase

namespace Phrase

variable (n : Nested)

/-- Reads a literal, a truth value or a negative number. -/
def literal : Phrase (List Token × LiteralValue) := do
  match ← rest with
  | .literal l :: tokens => set tokens; return ([.literal l], literalValue l)
  | .word w :: tokens =>
    if w = "true" || w = "false" then set tokens; return (word w, .other)
    else expected "literal"
  | .mark '-' _ :: .literal l :: tokens =>
    if Token.isNumber l then
      set tokens
      let value := match literalValue l with
        | .integer digits => .integer ("-" ++ digits)
        | value => value
      return (operatorMarks ['-'] ++ [.literal l], value)
    else expected "literal"
  | _ => expected "literal"

/-- Reads a constant in generic arguments: a literal or a block. -/
def constantArgument : Phrase (List Token) := do
  if ← peek Token.startsLiteral then return (← literal).1
  else if ← peekGroup .brace then n.block
  else throw (.refused "unexpected token")

/-- Whether an argument list in angle brackets comes next, given the place of the path. -/
def peekArguments (inExpression : Bool) : Phrase Bool :=
  peek fun tokens =>
    (!inExpression && Token.startsOperator ['<'] tokens
        && !Token.startsOperator ['<', '='] tokens && !Token.startsOperator ['<', '<', '='] tokens)
      || (Token.startsOperator [':', ':'] tokens && Token.startsOperator ['<'] (tokens.drop 2))

/-- Whether the parenthesised arguments of a function trait come next. -/
def peekTraitArguments : Phrase Bool :=
  peek fun tokens =>
    Token.startsGroup .parenthesis tokens
      || (Token.startsOperator [':', ':'] tokens && Token.startsGroup .parenthesis (tokens.drop 2))

/-- Whether another segment comes next. -/
def peekSegment : Phrase Bool :=
  peek fun tokens =>
    Token.startsOperator [':', ':'] tokens && !Token.startsGroup .parenthesis (tokens.drop 2)

/-- The tokens of generic arguments, lifetimes before all others. -/
def orderedArguments (items : List ((Bool × List Token) × List Token)) : List Token :=
  let tokensOf (part : List ((Bool × List Token) × List Token)) : List Token :=
    part.flatMap fun ((_, item), separator) => item ++ separator
  let lifetimes := items.filter (·.1.1)
  let others := items.filter (!·.1.1)
  let unclosed := lifetimes.getLast?.any (·.2.isEmpty) && !others.isEmpty
  tokensOf lifetimes ++ (if unclosed then operatorMarks [','] else []) ++ tokensOf others

/-- Reads the lifetimes that `for` introduces, if it comes next. -/
def boundLifetimes? : Phrase (List Token) := do
  if ← peekWord "for" then
    let head ← keyword "for"
    let left ← operator "<"
    let items ← commaList (Token.startsOperator ['>']) lifetime
    let right ← operator ">"
    return head ++ left ++ listTokens items ++ right
  else return []

/-- Reads the result type of a function, if an arrow comes next. -/
def result? : Phrase (List Token) := do
  if ← peekOperator "->" then
    let arrow ← operator "->"
    return arrow ++ (← n.type false).tokens
  else return []

/-- Reads the arguments and the result of a function trait. The colons before them are dropped. -/
def traitArguments : Phrase (List Token) := do
  let _ ← operator? "::"
  let items ← inside .parenthesis (commaList List.isEmpty (TypePhrase.tokens <$> n.type true))
  return parens (listTokens items) ++ (← result? n)

/-- Reads one segment. -/
def segment (arguments : Phrase (List Token)) (inExpression : Bool) : Phrase PathPhrase := do
  let special ← peek fun tokens =>
    ["super", "self", "crate", "try"].any (Token.startsWord · tokens)
  if special then
    return { tokens := ← anyWord, single := true, rooted := false, plain := true, closed := false }
  let head ← if ← peekWord "Self" then anyWord else word <$> identifier
  if ← peekArguments inExpression then
    return { tokens := head ++ (← arguments), single := true, rooted := false, plain := false,
             closed := true }
  else return { tokens := head, single := true, rooted := false, plain := true, closed := false }

/-- Reads the segments after the first one, in at most `fuel` steps. -/
def segmentsAfter (arguments : Phrase (List Token)) (inExpression : Bool) (path : PathPhrase) :
    Nat → Phrase PathPhrase
  | 0 => return path
  | fuel + 1 => do
    if ← peekSegment then
      let colons ← operator "::"
      let next ← segment arguments inExpression
      segmentsAfter arguments inExpression
        { tokens := path.tokens ++ colons ++ next.tokens, single := false, rooted := path.rooted,
          plain := path.plain && next.plain, closed := next.closed } fuel
    else return path

/-- Reads a path, given the phrase of its generic arguments. -/
def pathOf (arguments : Phrase (List Token)) (inExpression : Bool) : Phrase PathPhrase := do
  let root ← operator? "::"
  let first ← segment arguments inExpression
  segmentsAfter arguments inExpression
    { first with tokens := root ++ first.tokens, rooted := !root.isEmpty } (← rest).length

/-- Reads a trait bound without parentheses around it. -/
def traitBound (arguments : Phrase (List Token)) : Phrase (List Token) := do
  let lifetimes ← boundLifetimes?
  let maybe ← operator? "?"
  let inner ← if lifetimes.isEmpty && !maybe.isEmpty then boundLifetimes? else pure []
  let path ← pathOf arguments false
  let tail ← if !path.closed && (← peekTraitArguments) then traitArguments n else pure []
  if !lifetimes.isEmpty && !maybe.isEmpty then
    throw (.refused "`for<...>` binder not allowed with `?` trait polarity modifier")
  return lifetimes ++ maybe ++ inner ++ path.tokens ++ tail

/-- Reads a bound: a lifetime or a trait. The flag says that it is a trait. -/
def bound (arguments : Phrase (List Token)) : Phrase (List Token × Bool) := do
  if ← peek Token.startsLifetime then return (← lifetime, false)
  else if ← peekWord "use" then
    throw (.refused "`use<...>` precise capturing syntax is not allowed here")
  else if ← peekGroup .parenthesis then
    return (parens (← inside .parenthesis (traitBound n arguments)), true)
  else return (← traitBound n arguments, true)

/-- Whether another bound may follow a `+`. -/
def startsBound (tokens : List Token) : Bool :=
  Token.startsAnyWord tokens || Token.startsOperator [':', ':'] tokens
    || Token.startsOperator ['?'] tokens || Token.startsLifetime tokens
    || Token.startsGroup .parenthesis tokens

/-- Reads bounds joined by `+`, in at most `fuel` steps. A last `+` may stand alone. -/
def boundsFrom (arguments : Phrase (List Token)) (plus : Bool) : Nat → Phrase (List Token × Bool)
  | 0 => return ([], false)
  | fuel + 1 => do
    let (first, isTrait) ← bound n arguments
    if plus && (← peekOperator "+") then
      let mark ← operator "+"
      if ← peek startsBound then
        let (more, anyTrait) ← boundsFrom arguments plus fuel
        return (first ++ mark ++ more, isTrait || anyTrait)
      else return (first ++ mark, isTrait)
    else return (first, isTrait)

/-- Reads bounds joined by `+`; the flag says that a trait is among them. -/
def bounds (arguments : Phrase (List Token)) (plus : Bool) : Phrase (List Token × Bool) := do
  boundsFrom n arguments plus ((← rest).length + 1)

/-- Reads bounds until a token that cannot belong to them. -/
def boundsUntil (arguments : Phrase (List Token)) (stop : List Token → Bool) :
    Nat → Phrase (List Token)
  | 0 => return []
  | fuel + 1 => do
    if ← peek stop then return []
    let (first, _) ← bound n arguments
    if ← peekOperator "+" then
      let mark ← operator "+"
      return first ++ mark ++ (← boundsUntil arguments stop fuel)
    else return first

/-- Whether a lifetime stands alone at the front, and does not begin bounds. -/
def startsLoneLifetime (tokens : List Token) : Bool :=
  Token.startsLifetime tokens && !Token.startsOperator ['+'] (tokens.drop 2)

/-- Reads one generic argument, given the phrase of argument lists inside it. The flag says that it
is a lifetime. -/
def genericArgument (arguments : Phrase (List Token)) : Phrase (Bool × List Token) := do
  if ← peek startsLoneLifetime then return (true, ← lifetime)
  if (← peek Token.startsLiteral) || (← peekGroup .brace) then
    return (false, ← constantArgument n)
  let type ← n.type true
  if type.form = .segment && (← peekOperator "=") then
    let equals ← operator "="
    let value ←
      if (← peek Token.startsLiteral) || (← peekGroup .brace) then constantArgument n
      else TypePhrase.tokens <$> n.type true
    return (false, type.tokens ++ equals ++ value)
  else if type.form = .segment && (← peekOperator ":") then
    let colon ← operator ":"
    let stop (tokens : List Token) : Bool :=
      Token.startsOperator [','] tokens || Token.startsOperator ['>'] tokens
    return (false, type.tokens ++ colon ++ (← boundsUntil n arguments stop ((← rest).length + 1)))
  else return (false, type.tokens)

/-- Reads generic arguments in angle brackets, nested at most `depth` deep in bounds. -/
def genericArgumentsWithin : Nat → Phrase (List Token)
  | 0 => throw (.refused "arguments nested too deeply")
  | depth + 1 => do
    let colons ← operator? "::"
    let left ← operator "<"
    let items ← commaList (Token.startsOperator ['>'])
      (genericArgument n (genericArgumentsWithin depth))
    let right ← operator ">"
    return colons ++ left ++ orderedArguments items ++ right

/-- Reads generic arguments in angle brackets. -/
def genericArguments : Phrase (List Token) := do
  genericArgumentsWithin n ((← rest).length + 1)

/-- Reads a path. -/
def path (inExpression : Bool) : Phrase PathPhrase :=
  pathOf (genericArguments n) inExpression

/-- Reads a path without generic arguments, keywords of paths allowed. -/
def plainPathFrom : Nat → Phrase (List Token)
  | 0 => return []
  | fuel + 1 => do
    let starts ← peek fun tokens => Token.startsIdentifier tokens
      || ["super", "self", "Self", "crate"].any (Token.startsWord · tokens)
    if !starts then
      if ← atEnd then throw (.expected "path segment after `::`" true)
      else throw (.expected "path segment after `::`" false)
    let head ← anyWord
    if ← peekOperator "::" then
      let colons ← operator "::"
      return head ++ colons ++ (← plainPathFrom fuel)
    else return head

/-- Reads a path without generic arguments. -/
def plainPath : Phrase (List Token) := do
  let root ← operator? "::"
  let starts ← peek fun tokens => Token.startsIdentifier tokens
    || ["super", "self", "Self", "crate"].any (Token.startsWord · tokens)
  if !starts then
    let _ ← identifier
    return []
  else return root ++ (← plainPathFrom ((← rest).length + 1))

/-- Reads a path that a type may qualify. The flag says that one does. -/
def qualifiedPath (inExpression : Bool) : Phrase (PathPhrase × Bool) := do
  if ← peekOperator "<" then
    let left ← operator "<"
    let qualifier ← n.type true
    let target ← if ← peekWord "as" then
        pure ((← keyword "as") ++ (← path n false).tokens)
      else pure []
    let right ← operator ">"
    let colons ← operator "::"
    let first ← segment (genericArguments n) inExpression
    let head := left ++ qualifier.tokens ++ target ++ right ++ colons ++ first.tokens
    let whole ← segmentsAfter (genericArguments n) inExpression { first with tokens := head }
      (← rest).length
    return (whole, true)
  else return (← path n inExpression, false)

end Phrase

end Rowsmith.Source
