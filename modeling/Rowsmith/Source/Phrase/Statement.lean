import Rowsmith.Source.Phrase.Expression

/-!
# Statements and the whole grammar

Blocks hold bindings, calls of macros and expressions. The phrases that nest in each other are tied
together here, as deep as a token list can nest.
-/

namespace Rowsmith.Source
namespace Phrase

variable (n : Nested)

/-- Reads a binding. -/
def binding : Phrase (List Token) := do
  let head ← keyword "let"
  let name ← n.pattern false
  let type ← if ← peekOperator ":" then
      pure ((← operator ":") ++ (← n.type true).tokens)
    else pure []
  let value ← if ← peekOperator "=" then
      let equals ← operator "="
      let source ← n.expression true
      let other ← if ← peekWord "else" then pure ((← anyWord) ++ (← n.block)) else pure []
      pure (equals ++ source.tokens ++ other)
    else pure []
  return head ++ name ++ type ++ value ++ (← operator ";")

/-- Reads a statement. The flag says that a semicolon is missing if more follows. -/
def statement : Phrase (List Token × Bool) := do
  let attributes ← attributeTokens n
  if ← peekWord "let" then return (attributes ++ (← binding n), false)
  else
    let e ← statementExpression n (← stepBound)
    let mark ← operator? ";"
    return (attributes ++ e.tokens ++ mark, mark.isEmpty && !e.isStatement)

/-- Reads statements up to the end of a block, in at most `fuel` steps. -/
def statements : Nat → Phrase (List Token)
  | 0 => return []
  | fuel + 1 => do
    if ← atEnd then return []
    if ← peekOperator ";" then return (← operator ";") ++ (← statements fuel)
    let (first, unfinished) ← statement n
    if unfinished && !(← atEnd) then throw (.refused "unexpected token, expected `;`")
    return first ++ (← statements fuel)

/-- Reads a block. -/
def block : Phrase (List Token) := do
  braces <$> inside .brace (do statements n ((← rest).length + 1))

end Phrase

/-- The phrases of the grammar, nested in each other at most `depth` deep. -/
def nested : Nat → Nested
  | 0 =>
    { type := fun _ => throw (.refused "nested too deeply")
      expression := fun _ => throw (.refused "nested too deeply")
      pattern := fun _ => throw (.refused "nested too deeply")
      block := throw (.refused "nested too deeply") }
  | depth + 1 =>
    let inner := nested depth
    { type := Phrase.type inner
      expression := Phrase.expression inner
      pattern := Phrase.pattern inner
      block := Phrase.block inner }

namespace Phrase

/-- Reads with the phrases of the whole grammar, which nest no deeper than the rest has tokens. -/
def withNested {α : Type} (phrase : Nested → Phrase α) : Phrase α := do
  phrase (nested (Token.weightAll (← rest) + 1))

/-- Reads a type, bounds joined by `+` allowed. -/
def wholeType : Phrase (List Token) :=
  withNested fun n => TypePhrase.tokens <$> n.type true

/-- Reads a path as it stands in a type. -/
def wholePath : Phrase (List Token) :=
  withNested fun n => PathPhrase.tokens <$> path n false

/-- Reads the arguments of an annotation: expressions parted by commas. -/
def argumentList : Phrase (List Expression) :=
  withNested fun n => do return (← commaList List.isEmpty (n.expression true)).map Prod.fst

end Phrase

end Rowsmith.Source
