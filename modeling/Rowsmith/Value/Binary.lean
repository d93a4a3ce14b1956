/-!
# Binary floating point

The words of the two binary formats, decoded into exact values and rounded from exact quotients. A
quotient goes to the nearest value; a tie goes to the even one.
-/

namespace Rowsmith.Value

/-- A number in the format of 32 bits, held by its word. -/
structure Binary32 where
  bits : UInt32
  deriving DecidableEq, Repr

/-- A number in the format of 64 bits, held by its word. -/
structure Binary64 where
  bits : UInt64
  deriving DecidableEq, Repr

/-- A binary format: its digits, the exponent of its smallest unit, and the words of infinity, of
one that is no number, and of the sign. -/
structure BinaryFormat where
  precision : Nat
  leastExponent : Int
  infinity : Nat
  notANumber : Nat
  signBit : Nat

namespace BinaryFormat

/-- The format of 32 bits. -/
def single : BinaryFormat :=
  { precision := 24, leastExponent := -149, infinity := 0x7F800000, notANumber := 0x7FC00000,
    signBit := 0x80000000 }

/-- The format of 64 bits. -/
def double : BinaryFormat :=
  { precision := 53, leastExponent := -1074, infinity := 0x7FF0000000000000,
    notANumber := 0x7FF8000000000000, signBit := 0x8000000000000000 }

end BinaryFormat

/-- What a word stands for; a finite one stands for a multiple of a power of two. -/
inductive BinaryValue
  | finite (negative : Bool) (significand : Nat) (exponent : Int)
  | infinite (negative : Bool)
  | notANumber
  deriving DecidableEq, Repr

/-- A power of two and its inverse, as numerator and denominator. -/
def powerOfTwo (exponent : Int) : Nat × Nat :=
  (Nat.pow 2 exponent.toNat, Nat.pow 2 (-exponent).toNat)

/-- The quotient of two numbers, rounded to the nearest; a tie goes to the even one. -/
def roundedQuotient (numerator denominator : Nat) : Nat :=
  let q := numerator / denominator
  let r := numerator % denominator
  if denominator < 2 * r then q + 1
  else if 2 * r = denominator then q + q % 2
  else q

/-- The greatest exponent of a power of two that is at most a positive quotient. -/
def quotientLog (numerator denominator : Nat) : Int :=
  let estimate : Int := (numerator.log2 : Int) - denominator.log2
  let (up, down) := powerOfTwo estimate
  if denominator * up ≤ numerator * down then estimate else estimate - 1

namespace BinaryFormat

variable (f : BinaryFormat)

/-- The leading digit of a significand, which words leave out. -/
def hiddenBit : Nat := Nat.pow 2 (f.precision - 1)

/-- The word of a sign and a magnitude. -/
def signed (negative : Bool) (magnitude : Nat) : Nat :=
  if negative then f.signBit + magnitude else magnitude

/-- The magnitude nearest to a quotient. -/
def nearest (numerator denominator : Nat) : Nat :=
  if numerator = 0 then 0
  else
    let exponent := max (quotientLog numerator denominator - (f.precision - 1 : Nat))
      f.leastExponent
    let (up, down) := powerOfTwo exponent
    let significand := roundedQuotient (numerator * down) (denominator * up)
    min f.infinity ((exponent - f.leastExponent).toNat * f.hiddenBit + significand)

/-- The value of a word. -/
def decode (word : Nat) : BinaryValue :=
  let negative := f.signBit ≤ word
  let magnitude := word % f.signBit
  if magnitude = f.infinity then .infinite negative
  else if f.infinity < magnitude then .notANumber
  else
    let field := magnitude / f.hiddenBit
    if field = 0 then .finite negative magnitude f.leastExponent
    else
      .finite negative (f.hiddenBit + magnitude % f.hiddenBit)
        (f.leastExponent + (field - 1 : Nat))

/-- The word nearest to a value. -/
def encode : BinaryValue → Nat
  | .notANumber => f.notANumber
  | .infinite negative => f.signed negative f.infinity
  | .finite negative significand exponent =>
    let (up, down) := powerOfTwo exponent
    f.signed negative (f.nearest (significand * up) down)

end BinaryFormat

/-- A number of 64 bits in the format of 32 bits. -/
def Binary64.toBinary32 (x : Binary64) : Binary32 :=
  ⟨UInt32.ofNat (BinaryFormat.single.encode (BinaryFormat.double.decode x.bits.toNat))⟩

/-- A number of 32 bits in the format of 64 bits. -/
def Binary32.toBinary64 (x : Binary32) : Binary64 :=
  ⟨UInt64.ofNat (BinaryFormat.double.encode (BinaryFormat.single.decode x.bits.toNat))⟩

end Rowsmith.Value
