import Rowsmith.Source.Phrase.Type

/-!
# Patterns

The patterns of closures, matches and bindings.
-/

namespace Rowsmith.Source
namespace Phrase

variable (n : Nested)

/-- Reads `..` or `..=`. -/
def rangeOperator : Phrase (List Token) := do
  if ← peekOperator "..=" then operator "..="
  else if ← peekOperator "..." then expected "`..`"
  else operator ".."

/-- Reads a group of items parted by commas. -/
def groupOf (delimiter : Delimiter) (item : Phrase (List Token)) : Phrase (List Token) := do
  let items ← inside delimiter (commaList List.isEmpty item)
  return [.group delimiter (listTokens items)]

/-- Whether a range in a pattern ends here. -/
def endsPatternRange (tokens : List Token) : Bool :=
  tokens.isEmpty || [['|'], ['='], [','], [';']].any (Token.startsOperator · tokens)
    || (Token.startsOperator [':'] tokens && !Token.startsOperator [':', ':'] tokens)
    || Token.startsWord "if" tokens

/-- Reads a literal or a constant that bounds a range. -/
def rangeBound : Phrase (List Token) := do
  if ← peek Token.startsLiteral then return (← literal).1
  else if ← peekWord "const" then return (← anyWord) ++ (← n.block)
  else return (← qualifiedPath n true).1.tokens

/-- Reads the end of a range in a pattern, which may be open. -/
def patternRangeEnd : Phrase (List Token) := do
  let limits ← rangeOperator
  if ← peek endsPatternRange then return limits else return limits ++ (← rangeBound n)

/-- Reads one field of a struct pattern. -/
def fieldPattern : Phrase (List Token) := do
  let attributes ← attributeTokens n
  if ← peekOperator ".." then return attributes ++ (← operator "..")
  let isNumbered ← peek fun tokens => match tokens with
    | .literal _ :: _ => true
    | _ => false
  let isNamed ← peek fun tokens => Token.startsAnyWord tokens
    && Token.startsOperator [':'] (tokens.drop 1)
  if isNumbered then
    return attributes ++ (← literal).1 ++ (← operator ":") ++ (← n.pattern true)
  else if isNamed then
    return attributes ++ word (← identifier) ++ (← operator ":") ++ (← n.pattern true)
  else
    let byReference ← keyword? "ref"
    let access ← keyword? "mut"
    return attributes ++ byReference ++ access ++ word (← identifier)

/-- Reads a pattern that begins with a path. -/
def pathPattern : Phrase (List Token) := do
  let (path, isQualified) ← qualifiedPath n true
  if !isQualified && path.plain && (← peekOperator "!") then
    let bang ← operator "!"
    let (delimiter, body) ← anyGroup
    return path.tokens ++ bang ++ [.group delimiter body]
  else if ← peekGroup .brace then return path.tokens ++ (← groupOf .brace (fieldPattern n))
  else if ← peekGroup .parenthesis then
    return path.tokens ++ (← groupOf .parenthesis (n.pattern true))
  else if ← peekOperator ".." then return path.tokens ++ (← patternRangeEnd n)
  else return path.tokens

/-- Reads a binding. -/
def bindingPattern : Phrase (List Token) := do
  let byReference ← keyword? "ref"
  let access ← keyword? "mut"
  let name ← if ← peekWord "self" then anyWord else word <$> identifier
  let inner ← if ← peekOperator "@" then pure ((← operator "@") ++ (← n.pattern false))
    else pure []
  return byReference ++ access ++ name ++ inner

/-- Whether a pattern begins with a path and is more than a binding. -/
def startsPathPattern (tokens : List Token) : Bool :=
  let behind := tokens.drop 1
  (Token.startsIdentifier tokens
      && (Token.startsOperator [':', ':'] behind || Token.startsOperator ['!'] behind
        || Token.startsOperator ['.', '.'] behind || Token.startsGroup .brace behind
        || Token.startsGroup .parenthesis behind))
    || (Token.startsWord "self" tokens && Token.startsOperator [':', ':'] behind)
    || Token.startsOperator [':', ':'] tokens || Token.startsOperator ['<'] tokens
    || ["Self", "super", "crate"].any (Token.startsWord · tokens)

/-- Reads a pattern without alternatives. -/
def singlePattern : Phrase (List Token) := do
  if ← peek startsPathPattern then pathPattern n
  else if ← peekWord "_" then anyWord
  else if (← peekOperator "-") || (← peek Token.startsLiteral) || (← peekWord "const") then
    let bound ← rangeBound n
    if ← peekOperator ".." then return bound ++ (← patternRangeEnd n) else return bound
  else if ← peek (fun tokens => Token.startsIdentifier tokens
      || ["ref", "mut", "self"].any (Token.startsWord · tokens)) then bindingPattern n
  else if ← peekOperator "&" then
    let mark ← operator "&"
    let access ← keyword? "mut"
    return mark ++ access ++ (← n.pattern false)
  else if ← peekGroup .parenthesis then groupOf .parenthesis (n.pattern true)
  else if ← peekGroup .bracket then groupOf .bracket (n.pattern true)
  else if ← peekOperator ".." then patternRangeEnd n
  else expected ("one of: identifier, `::`, `<`, `_`, literal, `const`, `ref`, `mut`, `&`, " ++
    "parentheses, square brackets, `..`")

/-- Reads the alternatives behind the first one, in at most `fuel` steps. -/
def alternativesFrom : Nat → Phrase (List Token)
  | 0 => return []
  | fuel + 1 => do
    let bars ← peek fun tokens => Token.startsOperator ['|'] tokens
      && !Token.startsOperator ['|', '|'] tokens && !Token.startsOperator ['|', '='] tokens
    if bars then
      let bar ← operator "|"
      let next ← singlePattern n
      return bar ++ next ++ (← alternativesFrom fuel)
    else return []

/-- Reads a pattern; the flag allows alternatives. -/
def pattern (alternatives : Bool) : Phrase (List Token) := do
  if alternatives then
    let bar ← if ← peekOperator "||" then pure [] else operator? "|"
    let first ← singlePattern n
    return bar ++ first ++ (← alternativesFrom n (← rest).length)
  else singlePattern n

end Phrase
end Rowsmith.Source
