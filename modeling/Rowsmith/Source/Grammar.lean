import Rowsmith.Source.SyntaxFault
import Rowsmith.Source.Lexer

/-!
# Phrases of a grammar

A phrase reads tokens from the front and gives what it found. Phrases that print a construct give
its tokens in canonical spacing: an operator is joint inside and stands alone at its end.
-/

namespace Rowsmith.Source

/-- A reader of tokens that may fail. -/
abbrev Phrase (α : Type) := StateT (List Token) (Except SyntaxFault) α

/-- Words that are no identifiers. -/
def keywords : List String :=
  ["_", "abstract", "as", "async", "await", "become", "box", "break", "const", "continue", "crate",
    "do", "dyn", "else", "enum", "extern", "false", "final", "fn", "for", "if", "impl", "in", "let",
    "loop", "macro", "match", "mod", "move", "mut", "override", "priv", "pub", "ref", "return",
    "Self", "self", "static", "struct", "super", "trait", "true", "try", "type", "typeof", "unsafe",
    "unsized", "use", "virtual", "where", "while", "yield"]

/-- Whether a word may be used as an identifier. -/
def isIdentifier (word : String) : Bool := !keywords.contains word

namespace Token

/-- Whether an operator stands at the front. The last mark may be joint with one behind it. -/
def startsOperator : List Char → List Token → Bool
  | [], _ => true
  | [c], .mark d _ :: _ => c == d
  | c :: rest, .mark d .joint :: tokens => c == d && startsOperator rest tokens
  | _ :: _, _ => false

/-- Whether a given word stands at the front. -/
def startsWord (w : String) : List Token → Bool
  | .word v :: _ => v == w
  | _ => false

/-- Whether any word stands at the front. -/
def startsAnyWord : List Token → Bool
  | .word _ :: _ => true
  | _ => false

/-- Whether an identifier stands at the front. -/
def startsIdentifier : List Token → Bool
  | .word w :: _ => isIdentifier w
  | _ => false

/-- Whether a group stands at the front. -/
def startsGroup (delimiter : Delimiter) : List Token → Bool
  | .group d _ :: _ => d == delimiter
  | _ => false

/-- Whether a lifetime stands at the front. -/
def startsLifetime : List Token → Bool
  | .mark c .joint :: .word _ :: _ => c.toNat == 0x27
  | _ => false

/-- Whether a literal is a number. -/
def isNumber (literal : String) : Bool :=
  match literal.toList with
  | c :: _ => c.isDigit
  | [] => false

/-- Whether a literal, a truth value or a negative number stands at the front. -/
def startsLiteral : List Token → Bool
  | .literal _ :: _ => true
  | .word w :: _ => w == "true" || w == "false"
  | .mark '-' _ :: .literal l :: _ => isNumber l
  | _ => false

end Token

namespace Phrase

/-- The tokens that have not been read. -/
def rest : Phrase (List Token) := get

/-- Whether the rest satisfies a test. -/
def peek (test : List Token → Bool) : Phrase Bool := return test (← rest)

/-- Whether an operator comes next. -/
def peekOperator (operator : String) : Phrase Bool := peek (Token.startsOperator operator.toList)

/-- Whether a word comes next. -/
def peekWord (w : String) : Phrase Bool := peek (Token.startsWord w)

/-- Whether a group comes next. -/
def peekGroup (delimiter : Delimiter) : Phrase Bool := peek (Token.startsGroup delimiter)

/-- Whether nothing is left. -/
def atEnd : Phrase Bool := peek List.isEmpty

/-- Fails because another phrase was expected here. -/
def expected {α : Type} (phrase : String) : Phrase α := do
  throw (.expected phrase (← atEnd))

/-- Reads an operator. -/
def operator (op : String) : Phrase (List Token) := do
  if ← peekOperator op then
    modify (·.drop op.length)
    return operatorMarks op.toList
  else throw (.missing op)

/-- Reads an operator if it comes next. -/
def operator? (op : String) : Phrase (List Token) := do
  if ← peekOperator op then operator op else return []

/-- Reads any word, keywords included. -/
def anyWord : Phrase (List Token) := do
  match ← rest with
  | .word w :: tokens => set tokens; return word w
  | _ => expected "ident"

/-- Reads an identifier. -/
def identifier : Phrase String := do
  match ← rest with
  | .word w :: tokens =>
    if isIdentifier w then set tokens; return w
    else throw (.expected ("identifier, found keyword `" ++ w ++ "`") false)
  | _ => expected "identifier"

/-- Reads a keyword. -/
def keyword (w : String) : Phrase (List Token) := do
  if ← peekWord w then anyWord else expected ("`" ++ w ++ "`")

/-- Reads a keyword if it comes next. -/
def keyword? (w : String) : Phrase (List Token) := do
  if ← peekWord w then anyWord else return []

/-- Reads a lifetime. -/
def lifetime : Phrase (List Token) := do
  match ← rest with
  | .mark c .joint :: .word w :: tokens =>
    if c.toNat = 0x27 then set tokens; return [.mark c .joint, .word w]
    else expected "lifetime"
  | _ => expected "lifetime"

/-- Reads a lifetime if one comes next. -/
def lifetime? : Phrase (List Token) := do
  if ← peek Token.startsLifetime then lifetime else return []

/-- What a missing group is called. -/
def groupName : Delimiter → String
  | .parenthesis => "parentheses"
  | .bracket => "square brackets"
  | .brace => "curly braces"

/-- Reads a group whose body is exactly the given phrase. -/
def inside {α : Type} (delimiter : Delimiter) (body : Phrase α) : Phrase α := do
  match ← rest with
  | .group d tokens :: after =>
    if d = delimiter then
      let (found, left) ← body.run tokens
      if left.isEmpty then set after; return found
      else throw (.leftover (some delimiter))
    else expected (groupName delimiter)
  | _ => expected (groupName delimiter)

/-- Reads a group of any kind as it stands. -/
def anyGroup : Phrase (Delimiter × List Token) := do
  match ← rest with
  | .group d body :: after => set after; return (d, body)
  | _ => expected "one of: parentheses, square brackets, curly braces"

/-- Reads items parted by separators until a stop, in at most `fuel` items. Each item comes with
the separator read after it. -/
def listUntil {α : Type} (stop : List Token → Bool) (item : Phrase α)
    (separator : Phrase (List Token)) : Nat → Phrase (List (α × List Token))
  | 0 => return []
  | fuel + 1 => do
    if ← peek stop then return []
    let found ← item
    if ← peek stop then return [(found, [])]
    let mark ← separator
    return (found, mark) :: (← listUntil stop item separator fuel)

/-- Reads items parted by commas until a stop. -/
def commaList {α : Type} (stop : List Token → Bool) (item : Phrase α) :
    Phrase (List (α × List Token)) := do
  listUntil stop item (operator ",") ((← rest).length + 1)

/-- The tokens of a list of items and their separators. -/
def listTokens (items : List (List Token × List Token)) : List Token :=
  items.flatMap fun (item, separator) => item ++ separator

/-- Reads the whole of a token list as a phrase. -/
def whole {α : Type} (phrase : Phrase α) (tokens : List Token) : Except SyntaxFault α := do
  let (found, left) ← phrase.run tokens
  if left.isEmpty then return found else throw (.leftover none)

/-- Reads the whole of a text as a phrase. -/
def ofText {α : Type} (phrase : Phrase α) (text : String) : Except SyntaxFault α :=
  match tokenize text with
  | some tokens => whole phrase tokens
  | none => throw .noTokens

end Phrase

end Rowsmith.Source
