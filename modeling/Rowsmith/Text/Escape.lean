import Rowsmith.Text.Extending
import Rowsmith.Text.Printable

/-!
# Escaped characters

The form a character has between double quotes. Marks and characters without a printed form are
written by code point; the single quote needs no escape.
-/

namespace Rowsmith.Text

/-- A code point in lower case hexadecimal between braces. -/
def codePointEscape (n : Nat) : List Char :=
  ['\\', 'u', '\x7b'] ++ Nat.toDigits 16 n ++ ['\x7d']

/-- The form of one character between double quotes. -/
def escapeChar (c : Char) : List Char :=
  if c.toNat = 0 then ['\\', '0']
  else if c = '\t' then ['\\', 't']
  else if c = '\r' then ['\\', 'r']
  else if c = '\n' then ['\\', 'n']
  else if c = '"' then ['\\', '"']
  else if c = '\\' then ['\\', '\\']
  else if isExtending c || !isPrintable c then codePointEscape c.toNat
  else [c]

/-- Whether the text goes on with an octal digit. -/
def startsWithOctal : List Char → Bool
  | c :: _ => '0' ≤ c && c ≤ '7'
  | [] => false

/-- The body of a string literal. A null before an octal digit is written in hexadecimal, so that
the digit is not read as part of it. -/
def literalBody : List Char → List Char
  | [] => []
  | c :: rest =>
    (if c.toNat = 0 ∧ startsWithOctal rest then ['\\', 'x', '0', '0'] else escapeChar c)
      ++ literalBody rest

/-- The string literal of a text. -/
def stringLiteral (text : String) : String :=
  String.ofList ('"' :: literalBody text.toList ++ ['"'])

/-- A text shown between double quotes. -/
def quote (text : String) : String :=
  String.ofList ('"' :: text.toList.flatMap escapeChar ++ ['"'])

end Rowsmith.Text
