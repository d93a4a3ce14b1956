import Rowsmith.Source.Phrase.Attribute

/-!
# Types

The types of the language: paths, tuples, references, pointers, slices, arrays, functions, trait
objects and the like. A type in a place that allows it may be a sum of bounds.
-/

namespace Rowsmith.Source

namespace TypePhrase

/-- Whether the type can be taken for one bound of a trait object. -/
def isBound (t : TypePhrase) : Bool :=
  t.form != .other

end TypePhrase

namespace Phrase

variable (n : Nested)

/-- A type that cannot be taken for something else. -/
def plainType (tokens : List Token) : TypePhrase := { tokens, form := .other }

/-- Reads bounds of an object type, of which one is a trait. -/
def objectBounds (plus : Bool) (fault : String) : Phrase (List Token) := do
  let (tokens, isTrait) ← bounds n (genericArguments n) plus
  if isTrait then return tokens else throw (.refused fault)

/-- Reads more bounds, each behind a `+`, in at most `fuel` steps. -/
def boundsBehindPlus : Nat → Phrase (List Token)
  | 0 => return []
  | fuel + 1 => do
    if ← peekOperator "+" then
      let mark ← operator "+"
      let (next, _) ← bound n (genericArguments n)
      return mark ++ next ++ (← boundsBehindPlus fuel)
    else return []

/-- Reads the bounds behind a first one, where a last `+` may stand alone. -/
def laterBounds : Phrase (List Token) := do
  if ← peekOperator "+" then
    let mark ← operator "+"
    if ← peek startsBound then return mark ++ (← bounds n (genericArguments n) true).1
    else return mark
  else return []

/-- Whether a `+` comes next that joins bounds. -/
def peekPlus : Phrase Bool :=
  peek fun tokens => Token.startsOperator ['+'] tokens && !Token.startsOperator ['+', '='] tokens

/-- Reads what stands in the parentheses of a type. The flag says that it is a tuple. -/
def parenthesizedType : Phrase (TypePhrase × Bool) := do
  if ← atEnd then return (plainType [], true)
  if ← peek Token.startsLifetime then
    return (plainType (← objectBounds n true "at least one trait is required for an object type"),
      false)
  if ← peekOperator "?" then
    return ({ tokens := ← traitBound n (genericArguments n), form := .bound }, false)
  let first ← n.type true
  if ← peekOperator "," then
    let comma ← operator ","
    let items ← commaList List.isEmpty (TypePhrase.tokens <$> n.type true)
    return (plainType (first.tokens ++ comma ++ listTokens items), true)
  else return (first, false)

/-- Reads a type in parentheses or a tuple of types. -/
def parenType (plus : Bool) : Phrase TypePhrase := do
  let maybe ← peek fun tokens => match tokens with
    | .group .parenthesis body :: _ => Token.startsOperator ['?'] body
    | _ => false
  let (body, isTuple) ← inside .parenthesis (parenthesizedType n)
  if maybe then
    return { tokens := parens body.tokens ++ (← boundsBehindPlus n (← rest).length),
             form := .bound }
  else if !isTuple && plus && body.isBound && (← peekOperator "+") then
    return plainType (parens body.tokens ++ (← boundsBehindPlus n (← rest).length))
  else return plainType (parens body.tokens)

/-- Reads an argument of a function type. -/
def functionTypeArgument : Phrase (List Token) := do
  let attributes ← attributeTokens n
  let named ← peek fun tokens =>
    (Token.startsIdentifier tokens || Token.startsWord "_" tokens || Token.startsWord "self" tokens)
      && Token.startsOperator [':'] (tokens.drop 1)
      && !Token.startsOperator [':', ':'] (tokens.drop 1)
  let name ← if named then pure ((← anyWord) ++ (← operator ":")) else pure []
  if ← peekOperator "..." then return attributes ++ name ++ (← operator "...")
  else return attributes ++ name ++ (← n.type true).tokens

/-- Reads a function type behind its lifetimes. -/
def functionType : Phrase (List Token) := do
  let safety ← keyword? "unsafe"
  let linkage ← if ← peekWord "extern" then
      let word ← anyWord
      let name ← match ← rest with
        | .literal l :: tokens => set tokens; pure [Token.literal l]
        | _ => pure []
      pure (word ++ name)
    else pure []
  let head ← keyword "fn"
  let arguments ← inside .parenthesis (commaList List.isEmpty (functionTypeArgument n))
  return safety ++ linkage ++ head ++ parens (listTokens arguments) ++ (← result? n)

/-- The form of a type that is a path. -/
def pathForm (path : PathPhrase) : TypeForm :=
  if path.single && !path.rooted then .segment else .path

/-- Reads a type that begins with a path. -/
def pathType (lifetimes : List Token) (plus : Bool) : Phrase TypePhrase := do
  let (path, isQualified) ← qualifiedPath n false
  let isMacro ← peek fun tokens =>
    Token.startsOperator ['!'] tokens && !Token.startsOperator ['!', '='] tokens
  if isQualified then return plainType path.tokens
  else if isMacro && path.plain then
    let bang ← operator "!"
    let (delimiter, body) ← anyGroup
    return plainType (path.tokens ++ bang ++ [.group delimiter body])
  else if plus && (← peekPlus) then
    return plainType (lifetimes ++ path.tokens ++ (← laterBounds n))
  else if !lifetimes.isEmpty then return { tokens := lifetimes ++ path.tokens, form := .bound }
  else return { tokens := path.tokens, form := pathForm path }

/-- Reads a slice or an array type. -/
def bracketType : Phrase (List Token) := do
  brackets <$> inside .bracket do
    let item ← n.type true
    if ← peekOperator ";" then
      let mark ← operator ";"
      return item.tokens ++ mark ++ (← n.expression true).tokens
    else return item.tokens

/-- Reads a pointer type. -/
def pointerType : Phrase (List Token) := do
  let star ← operator "*"
  let access ← if ← peekWord "const" then anyWord
    else if ← peekWord "mut" then anyWord
    else expected "`const` or `mut`"
  return star ++ access ++ (← n.type false).tokens

/-- Reads a reference type. -/
def referenceType : Phrase (List Token) := do
  let mark ← operator "&"
  let lifetime ← lifetime?
  let access ← keyword? "mut"
  return mark ++ lifetime ++ access ++ (← n.type false).tokens

/-- What may begin a type. -/
def typeBeginnings : String :=
  "one of: `for`, parentheses, `fn`, `unsafe`, `extern`, identifier, `::`, `<`, `dyn`, " ++
    "square brackets, `*`, `&`, `!`, `impl`, `_`, lifetime"

/-- What may follow the lifetimes in front of a type. -/
def boundTypeBeginnings : String :=
  "one of: identifier, `fn`, `unsafe`, `extern`, `super`, `self`, `Self`, `crate`"

/-- Whether a function type comes next. -/
def peekFunctionType : Phrase Bool :=
  peek fun tokens => ["fn", "unsafe", "extern"].any (Token.startsWord · tokens)

/-- Whether a path that names a type comes next. -/
def startsTypePath (tokens : List Token) : Bool :=
  Token.startsIdentifier tokens
    || ["super", "self", "Self", "crate"].any (Token.startsWord · tokens)

/-- Reads a type; the flag allows bounds joined by `+`. -/
def type (plus : Bool) : Phrase TypePhrase := do
  if ← peekWord "for" then
    let lifetimes ← boundLifetimes?
    if ← peekFunctionType then return plainType (lifetimes ++ (← functionType n))
    else if ← peek startsTypePath then pathType n lifetimes plus
    else expected boundTypeBeginnings
  else if ← peekGroup .parenthesis then parenType n plus
  else if ← peekFunctionType then return plainType (← functionType n)
  else if ← peek (fun tokens => startsTypePath tokens || Token.startsOperator [':', ':'] tokens
      || Token.startsOperator ['<'] tokens) then pathType n [] plus
  else if ← peekWord "dyn" then
    let head ← keyword "dyn"
    let star ← operator? "*"
    let tokens ← objectBounds n plus "at least one trait is required for an object type"
    return plainType (head ++ star ++ tokens)
  else if ← peekGroup .bracket then return plainType (← bracketType n)
  else if ← peekOperator "*" then return plainType (← pointerType n)
  else if ← peekOperator "&" then return plainType (← referenceType n)
  else if ← peek (fun tokens => Token.startsOperator ['!'] tokens
      && !Token.startsOperator ['='] (tokens.drop 1)) then return plainType (← operator "!")
  else if ← peekWord "impl" then
    let head ← keyword "impl"
    return plainType (head ++ (← objectBounds n plus "at least one trait must be specified"))
  else if ← peekWord "_" then return plainType (← anyWord)
  else if ← peek Token.startsLifetime then
    return plainType (← objectBounds n true "at least one trait is required for an object type")
  else expected typeBeginnings

end Phrase

end Rowsmith.Source
