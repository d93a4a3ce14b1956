import Rowsmith.Text.IntegerText

/-!
# Decimals

A decimal is an integer of 96 bits and a sign with up to 28 places behind the point. Texts with
more places are rounded, a five upwards; low lines may stand behind a digit.
-/

namespace Rowsmith.Value
open Rowsmith.Text

/-- An integer with a number of places behind the point. -/
structure Decimal where
  mantissa : Int
  scale : Nat
  deriving DecidableEq, Repr

/-- Why a text is no decimal. -/
inductive DecimalFault
  | empty | unknownCharacter | noDigits | secondPoint | leadingLine | tooManyDigits
  | roundedOver | exponent | scale (places : Nat)
  deriving DecidableEq, Repr

/-- The text of a fault. -/
def DecimalFault.message : DecimalFault → String
  | empty => "Invalid decimal: empty"
  | unknownCharacter => "Invalid decimal: unknown character"
  | noDigits => "Invalid decimal: no digits found"
  | secondPoint => "Invalid decimal: two decimal points"
  | leadingLine => "Invalid decimal: must start lead with a number"
  | tooManyDigits => "Invalid decimal: overflow from too many digits"
  | roundedOver => "Invalid decimal: overflow from mantissa after rounding"
  | exponent => "Failed to parse"
  | scale places => "Scale exceeds the maximum precision allowed: " ++ places.repr ++ " > 28"

namespace Decimal

/-- The power of two that all mantissas are below. -/
def bound : Nat := 79228162514264337593543950336

/-- The greatest number of places. -/
def maxScale : Nat := 28

/-- Why a character may not stand where it does. -/
def faultOf (c : Char) : DecimalFault :=
  if c = '.' then .secondPoint else if c = '_' then .leadingLine else .unknownCharacter

/-- The mantissa and scale after rounding on the character behind the last place. What follows it
is not looked at. -/
def roundAt (mantissa scale : Nat) (c : Char) : Except DecimalFault (Nat × Nat) :=
  if c.isDigit || c = '_' || c = '.' then
    if c.isDigit && '5' ≤ c then
      if mantissa + 1 < bound then .ok (mantissa + 1, scale)
      else if scale = 0 then .error .roundedOver
      else .ok ((mantissa + 5) / 10, scale - 1)
    else .ok (mantissa, scale)
  else .error (faultOf c)

/-- The mantissa and scale of the rest of a number, given what has been read of it. -/
def readFrom (point started : Bool) (mantissa scale : Nat) :
    List Char → Except DecimalFault (Nat × Nat)
  | [] => if started then .ok (mantissa, scale) else .error .noDigits
  | c :: rest =>
    if c.isDigit then
      let next := 10 * mantissa + (c.toNat - 48)
      if bound ≤ next then
        if point then roundAt mantissa scale c else .error .tooManyDigits
      else
        let places := if point then scale + 1 else 0
        match rest with
        | d :: _ =>
          if point && maxScale ≤ places then roundAt next places d
          else readFrom point true next places rest
        | [] => .ok (next, places)
    else if c = '.' && !point then readFrom true started mantissa scale rest
    else if c = '_' && started then readFrom point started mantissa scale rest
    else .error (faultOf c)

/-- The decimal that a text without an exponent writes. -/
def ofPlain (cs : List Char) : Except DecimalFault Decimal :=
  match cs with
  | [] => .error .empty
  | '-' :: rest => do
    let (mantissa, scale) ← readFrom false false 0 0 rest
    return { mantissa := -mantissa, scale }
  | '+' :: rest => do
    let (mantissa, scale) ← readFrom false false 0 0 rest
    return { mantissa, scale }
  | cs => do
    let (mantissa, scale) ← readFrom false false 0 0 cs
    return { mantissa, scale }

/-- A decimal times a power of ten. -/
def shiftUp (d : Decimal) (places : Nat) : Except DecimalFault Decimal :=
  if places ≤ d.scale then .ok { d with scale := d.scale - places }
  else if maxScale + 1 < places then .error .exponent
  else
    let mantissa := d.mantissa * Nat.pow 10 (places - d.scale)
    if mantissa.natAbs < bound then .ok { mantissa, scale := 0 } else .error .exponent

/-- A decimal divided by a power of ten. -/
def shiftDown (d : Decimal) (places : Nat) : Except DecimalFault Decimal :=
  if maxScale < d.scale + places then .error (.scale (d.scale + places))
  else .ok { d with scale := d.scale + places }

/-- The size of an exponent, a word of 32 bits. -/
def exponentDigits (cs : List Char) : Except DecimalFault Nat :=
  match integerOf .word32 cs with
  | .ok n => .ok n.toNat
  | .error _ => .error .exponent

/-- The decimal that a text writes, with an optional exponent. -/
def ofText (cs : List Char) : Except DecimalFault Decimal := do
  let isExponent (c : Char) : Bool := c = 'e' || c = 'E'
  let base ← ofPlain (cs.takeWhile (!isExponent ·))
  match cs.dropWhile (!isExponent ·) with
  | [] => return base
  | _ :: '-' :: digits => base.shiftDown (← exponentDigits digits)
  | _ :: digits => base.shiftUp (← exponentDigits digits)

end Decimal

end Rowsmith.Value
