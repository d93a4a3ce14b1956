import Rowsmith.Source.Quoted

/-!
# Number literals

Integers in four bases and floating point numbers, each with an optional suffix. As for quoted
literals, a scanner gives the characters after the literal.
-/

namespace Rowsmith.Source
open Rowsmith.Text

/-- Whether no identifier goes on at the front. -/
def atWordBreak : List Char → Bool
  | c :: _ => !isIdentifierContinue c
  | [] => true

/-- Digits and the low lines between them. -/
def isDigitOrLine (c : Char) : Bool := c.isDigit || c = '_'

/-- The characters after an exponent whose letter has been read: a sign and at least one digit. -/
def skipExponent (cs : List Char) : Option (List Char) :=
  let signed := match cs.dropWhile (· = '_') with
    | '+' :: rest | '-' :: rest => rest
    | rest => rest
  match signed.dropWhile (· = '_') with
  | c :: rest => if c.isDigit then some (rest.dropWhile isDigitOrLine) else none
  | [] => none

/-- The characters after the fraction whose point has been read, exponent included. No second point
and no identifier may follow the point at once. -/
def skipFraction (cs : List Char) : Option (List Char) :=
  let joined := match cs with
    | c :: _ => c = '.' || isIdentifierStart c
    | [] => false
  if joined then none
  else match cs.dropWhile isDigitOrLine with
    | 'e' :: rest => some ((skipExponent rest).getD ('e' :: rest))
    | 'E' :: rest => some ((skipExponent rest).getD ('E' :: rest))
    | rest => some rest

/-- The characters after the digits, point and exponent of a floating point number. -/
def skipFloatDigits (cs : List Char) : Option (List Char) :=
  match cs with
  | c :: _ =>
    if c.isDigit then
      match cs.dropWhile isDigitOrLine with
      | '.' :: rest => skipFraction rest
      | 'e' :: rest | 'E' :: rest => skipExponent rest
      | _ => none
    else none
  | [] => none

/-- The characters after the digits of an integer in a base. A decimal digit outside the base is
refused, a letter outside it ends the digits. -/
def skipBaseDigits (base : Nat) : Bool → List Char → Option (List Char)
  | started, c :: rest =>
    if c = '_' then
      if !started && base = 10 then none else skipBaseDigits base started rest
    else match hexValue c with
      | some d =>
        if d < base then skipBaseDigits base true rest
        else if c.isDigit || !started then none
        else some (c :: rest)
      | none => if started then some (c :: rest) else none
  | started, [] => if started then some [] else none

/-- The characters after the digits of an integer and the mark of its base. -/
def skipIntegerDigits : List Char → Option (List Char)
  | '0' :: 'x' :: rest => skipBaseDigits 16 false rest
  | '0' :: 'o' :: rest => skipBaseDigits 8 false rest
  | '0' :: 'b' :: rest => skipBaseDigits 2 false rest
  | cs => skipBaseDigits 10 false cs

/-- The characters after a number literal of any kind. -/
def skipNumber (cs : List Char) : Option (List Char) :=
  let finish (digits : Option (List Char)) : Option (List Char) := do
    let rest := skipSuffix (← digits)
    if atWordBreak rest then some rest else none
  finish (skipFloatDigits cs) <|> finish (skipIntegerDigits cs)

end Rowsmith.Source
