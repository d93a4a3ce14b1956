import Rowsmith.Source.Token

/-!
# Faults of source text

Why a text is not the phrase that was asked for.
-/

namespace Rowsmith.Source

/-- Why tokens are not the phrase that was asked for. -/
inductive SyntaxFault
  /-- The text has no tokens. -/
  | noTokens
  /-- Something else, or the end of the tokens, stands where a phrase should begin. -/
  | expected (phrase : String) (atEnd : Bool)
  /-- An operator is missing. -/
  | missing (operator : String)
  /-- Tokens are left over, inside the given group or at the end of the text. -/
  | leftover (inside : Option Delimiter)
  /-- A phrase is well formed but not allowed here. -/
  | refused (reason : String)
  deriving DecidableEq, Repr

namespace SyntaxFault

/-- The bracket that closes a group. -/
def closingBracket : Delimiter → String
  | .parenthesis => ")"
  | .bracket => "]"
  | .brace => "\x7d"

/-- The text of a fault. -/
def message : SyntaxFault → String
  | noTokens => "cannot parse string into token stream"
  | expected phrase false => "expected " ++ phrase
  | expected phrase true => "unexpected end of input, expected " ++ phrase
  | missing operator => "expected `" ++ operator ++ "`"
  | leftover none => "unexpected token"
  | leftover (some group) => "unexpected token, expected `" ++ closingBracket group ++ "`"
  | refused reason => reason

end SyntaxFault

end Rowsmith.Source
