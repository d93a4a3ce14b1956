import Rowsmith.Source.Number

/-!
# Values of literals

The text that a string literal stands for and the digits of an integer literal in base ten. Other
literals are known by their source text alone.
-/

namespace Rowsmith.Source
open Rowsmith.Text

/-- What a literal stands for. -/
inductive LiteralValue
  | text (value : String)
  | integer (digits : String)
  | other
  deriving DecidableEq, Repr

/-- The character of a one letter escape. -/
def simpleEscape : Char → Option Char
  | 'n' => some '\n'
  | 'r' => some '\r'
  | 't' => some '\t'
  | '0' => some (Char.ofNat 0)
  | c => if c = '\\' || c = '"' || c.toNat = 0x27 then some c else none

/-- The blanks that a continued line drops. -/
def isContinuationBlank (c : Char) : Bool :=
  c = ' ' || c = '\t' || c = '\n' || c = '\r'

/-- The value of a quoted body whose opening quote has been read, in at most `fuel` steps. -/
def quotedValue : Nat → List Char → Option (List Char)
  | 0, _ | _, [] => none
  | _ + 1, '"' :: _ => some []
  | fuel + 1, '\r' :: '\n' :: rest => (quotedValue fuel rest).map ('\n' :: ·)
  | _ + 1, '\r' :: _ => none
  | fuel + 1, '\\' :: 'x' :: h :: l :: rest =>
    match hexValue h, hexValue l with
    | some high, some low =>
      if high < 8 then (quotedValue fuel rest).map (Char.ofNat (16 * high + low) :: ·) else none
    | _, _ => none
  | fuel + 1, '\\' :: 'u' :: rest =>
    match codePoint rest with
    | some (n, after) => (quotedValue fuel after).map (Char.ofNat n :: ·)
    | none => none
  | fuel + 1, '\\' :: c :: rest =>
    if c = '\n' || c = '\r' then quotedValue fuel (rest.dropWhile isContinuationBlank)
    else match simpleEscape c with
      | some e => (quotedValue fuel rest).map (e :: ·)
      | none => none
  | fuel + 1, c :: rest => (quotedValue fuel rest).map (c :: ·)

/-- The value of a raw literal whose marker has been read. -/
def rawValue (cs : List Char) : Option (List Char) :=
  let fence := (cs.takeWhile (· = '#')).length
  (rawBody fence ((cs.drop fence).drop 1)).map Prod.fst

/-- Whether a suffix is empty or an identifier. -/
def isSuffix (cs : List Char) : Bool :=
  cs.isEmpty || isIdentifierWord cs

/-- Whether the text after a decimal integer and an `e` makes it a floating point number. -/
def isExponent : Bool → List Char → Bool
  | hasDigit, [] => hasDigit
  | hasDigit, c :: rest =>
    if c = '_' then isExponent hasDigit rest
    else if c = '+' || c = '-' then true
    else if c.isDigit then isExponent true rest
    else hasDigit && isIdentifierWord (c :: rest)

/-- The value of the digits of an integer; none when the literal is no integer. -/
def integerFrom (base value : Nat) (hasDigit : Bool) : List Char → Option Nat
  | [] => if hasDigit then some value else none
  | c :: rest =>
    let finish := if hasDigit && isSuffix (c :: rest) then some value else none
    if c = '_' then integerFrom base value hasDigit rest
    else if base = 10 && c = '.' then none
    else if base = 10 && (c = 'e' || c = 'E') then
      if isExponent false rest then none else finish
    else match hexValue c with
      | some d =>
        if base ≤ 10 && !c.isDigit then finish
        else if d < base then integerFrom base (base * value + d) true rest
        else none
      | none => finish

/-- The value of an integer literal. -/
def integerValue : List Char → Option Nat
  | '0' :: 'x' :: rest => integerFrom 16 0 false rest
  | '0' :: 'o' :: rest => integerFrom 8 0 false rest
  | '0' :: 'b' :: rest => integerFrom 2 0 false rest
  | cs => integerFrom 10 0 false cs

/-- The value of a literal. -/
def literalValue (literal : String) : LiteralValue :=
  match literal.toList with
  | '"' :: rest =>
    match quotedValue (rest.length + 1) rest with
    | some value => .text (String.ofList value)
    | none => .other
  | 'r' :: rest =>
    match rawValue rest with
    | some value => .text (String.ofList value)
    | none => .other
  | c :: rest =>
    if c.isDigit then
      match integerValue (c :: rest) with
      | some n => .integer (toString n)
      | none => .other
    else .other
  | [] => .other

end Rowsmith.Source
