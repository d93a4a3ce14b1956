import Rowsmith.Source.Visibility

/-!
# Items

The declaration of a struct, enumeration or union. Of its fields only those with names are kept.
-/

namespace Rowsmith.Source

/-- A field with a name. -/
structure Field where
  attributes : List Attribute
  name : String
  type : List Token
  deriving Repr

/-- What a declaration declares. -/
inductive Shape
  | named (fields : List Field)
  | unnamed (count : Nat)
  | unit
  | enumeration
  | union
  deriving Repr

/-- The declaration of a type. -/
structure Item where
  attributes : List Attribute
  visibility : List Token
  name : String
  isGeneric : Bool
  shape : Shape
  deriving Repr

namespace Phrase

variable (n : Nested)

/-- Whether bounds of a generic parameter end here. -/
def endsParameterBounds (tokens : List Token) : Bool :=
  [[','], ['>'], ['=']].any (Token.startsOperator · tokens)

/-- Reads a generic parameter. -/
def genericParameter : Phrase Unit := do
  let _ ← attributes n
  if ← peek Token.startsLifetime then
    let _ ← lifetime
    if ← peekOperator ":" then
      let _ ← operator ":"
      let _ ← boundsUntil n (genericArguments n) endsParameterBounds ((← rest).length + 1)
  else if ← peekWord "const" then
    let _ ← anyWord
    let _ ← identifier
    let _ ← operator ":"
    let _ ← n.type true
    if ← peekOperator "=" then
      let _ ← operator "="
      if ← peek Token.startsIdentifier then
        let _ ← identifier
      else
        let _ ← constantArgument n
  else
    let _ ← if ← peekWord "_" then anyWord else word <$> identifier
    if ← peekOperator ":" then
      let _ ← operator ":"
      let _ ← boundsUntil n (genericArguments n) endsParameterBounds ((← rest).length + 1)
    if ← peekOperator "=" then
      let _ ← operator "="
      let _ ← n.type true

/-- Reads generic parameters and says whether there are any. -/
def genericParameters : Phrase Bool := do
  if ← peekOperator "<" then
    let _ ← operator "<"
    let items ← commaList (Token.startsOperator ['>']) (genericParameter n)
    let _ ← operator ">"
    return !items.isEmpty
  else return false

/-- Whether the conditions of a declaration end here. -/
def endsConditions (tokens : List Token) : Bool :=
  tokens.isEmpty || Token.startsGroup .brace tokens
    || [[','], [';'], ['=']].any (Token.startsOperator · tokens)
    || (Token.startsOperator [':'] tokens && !Token.startsOperator [':', ':'] tokens)

/-- Reads one condition on a type or lifetime. -/
def condition : Phrase Unit := do
  if (← peek Token.startsLifetime) && (← peek fun tokens =>
      Token.startsOperator [':'] (tokens.drop 2)) then
    let _ ← lifetime
  else
    let _ ← boundLifetimes?
    let _ ← n.type true
  let _ ← operator ":"
  let _ ← boundsUntil n (genericArguments n) endsConditions ((← rest).length + 1)

/-- Reads the conditions of a declaration, in at most `fuel` steps. -/
def conditionsFrom : Nat → Phrase Unit
  | 0 => return ()
  | fuel + 1 => do
    if !(← peek endsConditions) then
      condition n
      if ← peekOperator "," then
        let _ ← operator ","
        conditionsFrom fuel

/-- Reads the conditions of a declaration, if it has any. -/
def conditions? : Phrase Unit := do
  if ← peekWord "where" then
    let _ ← anyWord
    conditionsFrom n ((← rest).length + 1)

/-- Reads a field with a name. -/
def namedField : Phrase Field := do
  let attributes ← attributes n
  let _ ← visibility
  let name ← if ← peekWord "_" then (do let _ ← anyWord; pure "_") else identifier
  let _ ← operator ":"
  return { attributes, name, type := (← n.type true).tokens }

/-- Reads a field without a name. -/
def unnamedField : Phrase Unit := do
  let _ ← attributes n
  let _ ← visibility
  let _ ← n.type true

/-- Reads the fields of a struct in braces. -/
def namedFields : Phrase (List Field) := do
  return (← inside .brace (commaList List.isEmpty (namedField n))).map Prod.fst

/-- Reads the fields of a struct in parentheses and counts them. -/
def unnamedFields : Phrase Nat := do
  return (← inside .parenthesis (commaList List.isEmpty (unnamedField n))).length

/-- Reads what a struct declares. -/
def structShape : Phrase Shape := do
  let isUnnamed ← peekGroup .parenthesis
  if isUnnamed then
    let count ← unnamedFields n
    conditions? n
    let _ ← operator ";"
    return .unnamed count
  else
    conditions? n
    if ← peekGroup .brace then return .named (← namedFields n)
    else
      let _ ← operator ";"
      return .unit

/-- Reads a variant of an enumeration. -/
def variant : Phrase Unit := do
  let _ ← attributes n
  let _ ← visibility
  let _ ← identifier
  if ← peekGroup .brace then
    let _ ← namedFields n
  else if ← peekGroup .parenthesis then
    let _ ← unnamedFields n
  if ← peekOperator "=" then
    let _ ← operator "="
    let _ ← n.expression true

/-- Reads a declaration. -/
def itemWith : Phrase Item := do
  let attributes ← attributes n
  let visibility ← visibility
  if ← peekWord "struct" then
    let _ ← anyWord
    let name ← identifier
    let isGeneric ← genericParameters n
    return { attributes, visibility, name, isGeneric, shape := ← structShape n }
  else if ← peekWord "enum" then
    let _ ← anyWord
    let name ← identifier
    let isGeneric ← genericParameters n
    conditions? n
    let _ ← inside .brace (commaList List.isEmpty (variant n))
    return { attributes, visibility, name, isGeneric, shape := .enumeration }
  else if ← peekWord "union" then
    let _ ← anyWord
    let name ← identifier
    let isGeneric ← genericParameters n
    conditions? n
    let _ ← namedFields n
    return { attributes, visibility, name, isGeneric, shape := .union }
  else expected "one of: `struct`, `enum`, `union`"

/-- Reads a declaration. -/
def item : Phrase Item := withNested itemWith

end Phrase
end Rowsmith.Source
