import Rowsmith.Source.Phrase.Path

/-!
# Attributes

An attribute has a path and a content: nothing, a value behind `=`, or tokens in brackets that are
read later.
-/

namespace Rowsmith.Source

/-- What follows the path of an attribute. -/
inductive AttributeContent
  | empty
  | value (expression : Expression)
  | arguments (delimiter : Delimiter) (tokens : List Token)
  deriving Repr

/-- An attribute. -/
structure Attribute where
  path : List Token
  content : AttributeContent
  deriving Repr

namespace Attribute

/-- The tokens of an attribute. -/
def tokens (a : Attribute) : List Token :=
  let content := match a.content with
    | .empty => []
    | .value e => operatorMarks ['='] ++ e.tokens
    | .arguments d body => [Token.group d body]
  operatorMarks ['#'] ++ brackets (a.path ++ content)

/-- The text of the path without spaces. -/
def name (a : Attribute) : String :=
  String.ofList ((Token.textAll a.path).toList.filter (· != ' '))

end Attribute

namespace Phrase

variable (n : Nested)

/-- Reads the value of an attribute: a literal that is all there is, or an expression. -/
def attributeValue : Phrase Expression := do
  let alone ← peek fun tokens => Token.startsLiteral tokens &&
    match tokens with
    | [_] | [.mark _ _, _] => true
    | _ => false
  if alone then
    let (tokens, value) ← literal
    return .literal value tokens
  else if ← peek (fun tokens => Token.startsOperator ['#'] tokens
      && Token.startsGroup .bracket (tokens.drop 1)) then
    throw (.refused "unexpected attribute inside of attribute")
  else n.expression true

/-- Reads the path and the content of an attribute. -/
def attributeBody : Phrase Attribute := do
  let path ← if ← peekWord "unsafe" then keyword "unsafe" else plainPath
  let isValue ← peek fun tokens => Token.startsOperator ['='] tokens
    && !Token.startsOperator ['=', '='] tokens && !Token.startsOperator ['=', '>'] tokens
  if isValue then
    let _ ← operator "="
    return { path, content := .value (← attributeValue n) }
  else if (← peekGroup .parenthesis) || (← peekGroup .bracket) || (← peekGroup .brace) then
    let (delimiter, tokens) ← anyGroup
    return { path, content := .arguments delimiter tokens }
  else return { path, content := .empty }

/-- Reads the attributes in front of a construct, in at most `fuel` steps. -/
def attributesFrom : Nat → Phrase (List Attribute)
  | 0 => return []
  | fuel + 1 => do
    if ← peekOperator "#" then
      let _ ← operator "#"
      let first ← inside .bracket (attributeBody n)
      return first :: (← attributesFrom fuel)
    else return []

/-- Reads the attributes in front of a construct. -/
def attributes : Phrase (List Attribute) := do
  attributesFrom n (← rest).length

/-- Reads the attributes in front of a construct and gives their tokens. -/
def attributeTokens : Phrase (List Token) := do
  return (← attributes n).flatMap Attribute.tokens

end Phrase

end Rowsmith.Source
