/-!
# Integers as text

Decimal integers with an optional sign, read into a range. Digits are taken from the left, and the
first fault is reported: a character that is no digit, or a value that leaves the range.
-/

namespace Rowsmith.Text

/-- Why a text is no integer of a range. -/
inductive IntegerFault
  | empty | invalidDigit | tooLarge | tooSmall
  deriving DecidableEq, Repr

/-- The text of a fault. -/
def IntegerFault.message : IntegerFault → String
  | empty => "cannot parse integer from empty string"
  | invalidDigit => "invalid digit found in string"
  | tooLarge => "number too large to fit in target type"
  | tooSmall => "number too small to fit in target type"

/-- A range of integers around zero. -/
structure IntegerRange where
  least : Int
  greatest : Int
  least_nonpos : least ≤ 0 := by decide
  greatest_nonneg : 0 ≤ greatest := by decide

namespace IntegerRange

/-- Integers of 8 bits with a sign. -/
def int8 : IntegerRange := { least := -128, greatest := 127 }

/-- Integers of 16 bits with a sign. -/
def int16 : IntegerRange := { least := -32768, greatest := 32767 }

/-- Integers of 32 bits with a sign. -/
def int32 : IntegerRange := { least := -2147483648, greatest := 2147483647 }

/-- Integers of 64 bits with a sign. -/
def int64 : IntegerRange :=
  { least := -9223372036854775808, greatest := 9223372036854775807 }

/-- Integers of 8 bits without a sign. -/
def word8 : IntegerRange := { least := 0, greatest := 255 }

/-- Integers of 16 bits without a sign. -/
def word16 : IntegerRange := { least := 0, greatest := 65535 }

/-- Integers of 32 bits without a sign. -/
def word32 : IntegerRange := { least := 0, greatest := 4294967295 }

/-- Integers of 64 bits without a sign. -/
def word64 : IntegerRange := { least := 0, greatest := 18446744073709551615 }

instance : Membership Int IntegerRange where
  mem range n := range.least ≤ n ∧ n ≤ range.greatest

/-- An integer of the range, or on which side it lies outside. -/
def check (range : IntegerRange) (n : Int) : Except IntegerFault Int :=
  if range.greatest < n then .error .tooLarge
  else if n < range.least then .error .tooSmall
  else .ok n

theorem zero_mem (range : IntegerRange) : (0 : Int) ∈ range :=
  ⟨range.least_nonpos, range.greatest_nonneg⟩

theorem check_eq_ok_iff {range : IntegerRange} {n m : Int} :
    range.check n = .ok m ↔ n = m ∧ n ∈ range := by
  simp only [check, Membership.mem]
  split
  · simp only [reduceCtorEq, false_iff]
    omega
  · split
    · simp only [reduceCtorEq, false_iff]
      omega
    · simp only [Except.ok.injEq]
      omega

end IntegerRange

/-- The value of digits read after a value, each added with a sign. -/
def signedDigits (range : IntegerRange) (sign value : Int) :
    List Char → Except IntegerFault Int
  | [] => .ok value
  | c :: rest =>
    if c.isDigit then
      match range.check (10 * value + sign * (c.toNat - 48 : Nat)) with
      | .ok next => signedDigits range sign next rest
      | .error fault => .error fault
    else .error .invalidDigit

/-- The integer of a range that a text writes. A minus is read only when the range goes below
zero. -/
def integerOf (range : IntegerRange) : List Char → Except IntegerFault Int
  | [] => .error .empty
  | ['+'] | ['-'] => .error .invalidDigit
  | '+' :: rest => signedDigits range 1 0 rest
  | '-' :: rest =>
    if range.least < 0 then signedDigits range (-1) 0 rest else .error .invalidDigit
  | cs => signedDigits range 1 0 cs

theorem signedDigits_mem {range : IntegerRange} {sign value result : Int} {cs : List Char}
    (hv : value ∈ range) (h : signedDigits range sign value cs = .ok result) :
    result ∈ range := by
  induction cs generalizing value with
  | nil =>
    simp only [signedDigits, Except.ok.injEq] at h
    exact h ▸ hv
  | cons c rest ih =>
    simp only [signedDigits] at h
    split at h
    · split at h
      · next next_eq =>
        have in_range := IntegerRange.check_eq_ok_iff.1 next_eq
        exact ih (in_range.1 ▸ in_range.2) h
      · simp at h
    · simp at h

theorem integerOf_mem {range : IntegerRange} {result : Int} {cs : List Char}
    (h : integerOf range cs = .ok result) : result ∈ range := by
  unfold integerOf at h
  split at h
  · simp at h
  · simp at h
  · simp at h
  · exact signedDigits_mem range.zero_mem h
  · split at h
    · exact signedDigits_mem range.zero_mem h
    · simp at h
  · exact signedDigits_mem range.zero_mem h

end Rowsmith.Text
