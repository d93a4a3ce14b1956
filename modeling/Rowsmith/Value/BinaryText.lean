import Rowsmith.Value.Binary

/-!
# Binary floating point as text

Decimal texts of floating point numbers: digits with an optional point and exponent, or a word for
infinity or for what is no number, behind an optional sign.
-/

namespace Rowsmith.Value

/-- Why a text is no floating point number. -/
inductive BinaryFault
  | empty | invalid
  deriving DecidableEq, Repr

/-- The text of a fault. -/
def BinaryFault.message : BinaryFault → String
  | empty => "cannot parse float from empty string"
  | invalid => "invalid float literal"

/-- The value of decimal digits. -/
def digitsValue (digits : List Char) : Nat :=
  digits.foldl (fun value c => 10 * value + (c.toNat - 48)) 0

/-- The exponent that the rest of a number writes; none when the rest is no exponent. -/
def exponentOf? : List Char → Option Int
  | [] => some 0
  | c :: rest =>
    if c = 'e' || c = 'E' then
      let (negative, digits) := match rest with
        | '-' :: digits => (true, digits)
        | '+' :: digits => (false, digits)
        | digits => (false, digits)
      if digits.isEmpty || !digits.all Char.isDigit then none
      else
        let magnitude : Int := digitsValue digits
        some (if negative then -magnitude else magnitude)
    else none

/-- The digits of a number as one integer, and the exponent of ten that it is taken with. -/
def decimalOf? (cs : List Char) : Option (Nat × Int) := do
  let whole := cs.takeWhile Char.isDigit
  let rest := cs.dropWhile Char.isDigit
  let (fraction, tail) := match rest with
    | '.' :: after => (after.takeWhile Char.isDigit, after.dropWhile Char.isDigit)
    | other => ([], other)
  if whole.isEmpty && fraction.isEmpty then none
  else
    let exponent ← exponentOf? tail
    return (digitsValue (whole ++ fraction), exponent - fraction.length)

/-- The magnitude nearest to an integer times a power of ten. Beyond 400 places on either side the
number is infinite or zero in both formats. -/
def BinaryFormat.nearestDecimal (f : BinaryFormat) (digits : Nat) (exponent : Int) : Nat :=
  if digits = 0 then 0
  else
    let places : Int := (Nat.toDigits 10 digits).length + exponent
    if 400 < places then f.infinity
    else if places < -400 then 0
    else f.nearest (digits * Nat.pow 10 exponent.toNat) (Nat.pow 10 (-exponent).toNat)

/-- The word that a text writes without its sign. -/
def BinaryFormat.magnitudeOf? (f : BinaryFormat) (cs : List Char) : Option Nat :=
  match decimalOf? cs with
  | some (digits, exponent) => some (f.nearestDecimal digits exponent)
  | none =>
    let lower := cs.map Char.toLower
    if lower = "inf".toList || lower = "infinity".toList then some f.infinity
    else if lower = "nan".toList then some f.notANumber
    else none

/-- The word that a text writes. -/
def BinaryFormat.ofText (f : BinaryFormat) (cs : List Char) : Except BinaryFault Nat :=
  if cs.isEmpty then .error .empty
  else
    let (negative, rest) := match cs with
      | '-' :: rest => (true, rest)
      | '+' :: rest => (false, rest)
      | rest => (false, rest)
    match f.magnitudeOf? rest with
    | some magnitude => .ok (f.signed negative magnitude)
    | none => .error .invalid

end Rowsmith.Value
