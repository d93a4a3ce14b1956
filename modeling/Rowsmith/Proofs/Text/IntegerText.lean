import Rowsmith.Text.IntegerText

/-!
# Integers that texts write

Which texts write an integer of a range, and that the standard text of an integer is one of
them. Each digit takes the value away from zero, so the values on the way lie in the range
exactly if the last one does.
-/

namespace Rowsmith.Text

/-- What holds of each of the ten digits holds of a digit. -/
theorem of_isDigit {p : Char → Bool}
    (hp : ∀ n : Fin 58, '0'.toNat ≤ n.val → p (Char.ofNat n) = true) {c : Char}
    (h : c.isDigit = true) : p c = true := by
  obtain ⟨hleast, hmost⟩ := Char.isDigit_iff_toNat.mp h
  have hc := hp ⟨c.toNat, Nat.lt_succ_of_le hmost⟩ hleast
  rwa [Char.ofNat_toNat] at hc

/-- Decimal digits, at least one. -/
structure IsNumeral (cs : List Char) : Prop where
  ne_nil : cs ≠ []
  isDigit : ∀ c ∈ cs, c.isDigit = true

/-- The number that digits write. -/
def numeralValue (cs : List Char) : Nat := Nat.ofDigitChars 10 cs 0

variable {range : IntegerRange} {sign n : Int} {cs : List Char}

theorem le_ofDigitChars (cs : List Char) (value : Nat) :
    value ≤ Nat.ofDigitChars 10 cs value := by
  induction cs generalizing value with
  | nil => exact Nat.le_refl value
  | cons c cs ih =>
      rw [Nat.ofDigitChars_cons]
      have hrest := ih (10 * value + (c.toNat - '0'.toNat))
      omega

/-- A range holds what lies between zero and an integer of it. -/
theorem IntegerRange.mem_of_le (hs : sign = 1 ∨ sign = -1) {a b : Nat} (hab : a ≤ b)
    (hb : sign * b ∈ range) : sign * a ∈ range := by
  have hleast := range.least_nonpos
  have hgreatest := range.greatest_nonneg
  obtain ⟨hlower, hupper⟩ := hb
  constructor
  · rcases hs with rfl | rfl <;> omega
  · rcases hs with rfl | rfl <;> omega

/-- Digits are read exactly if they take the value to an integer of the range. -/
theorem signedDigits_eq_ok_iff (hs : sign = 1 ∨ sign = -1) {value : Nat}
    (hvalue : sign * value ∈ range) :
    signedDigits range sign (sign * value) cs = .ok n ↔
      (∀ c ∈ cs, c.isDigit = true) ∧ sign * Nat.ofDigitChars 10 cs value ∈ range ∧
        n = sign * Nat.ofDigitChars 10 cs value := by
  induction cs generalizing value with
  | nil =>
      rw [signedDigits, Except.ok.injEq, Nat.ofDigitChars_nil]
      exact ⟨fun h => ⟨List.forall_mem_nil _, hvalue, h.symm⟩, fun h => h.2.2.symm⟩
  | cons c cs ih =>
      have hnext : 10 * (sign * value) + sign * (c.toNat - 48 : Nat) =
          sign * (10 * value + (c.toNat - '0'.toNat) : Nat) := by
        show _ = sign * (10 * value + (c.toNat - 48) : Nat)
        rcases hs with rfl | rfl <;> omega
      rw [signedDigits, hnext, Nat.ofDigitChars_cons, List.forall_mem_cons]
      by_cases hdigit : c.isDigit = true
      · by_cases hmem : sign * (10 * value + (c.toNat - '0'.toNat) : Nat) ∈ range
        · have hcheck := IntegerRange.check_eq_ok_iff.mpr ⟨rfl, hmem⟩
          simp only [hdigit, if_true, hcheck, ih hmem, true_and]
        · have hlast : ¬ sign * Nat.ofDigitChars 10 cs
              (10 * value + (c.toNat - '0'.toNat)) ∈ range :=
            fun h => hmem (IntegerRange.mem_of_le hs (le_ofDigitChars cs _) h)
          simp only [hdigit, if_true, hlast, false_and, and_false, iff_false]
          split
          · next next hcheck =>
              obtain ⟨rfl, h⟩ := IntegerRange.check_eq_ok_iff.mp hcheck
              exact absurd h hmem
          · simp
      · simp [hdigit]

/-- A text that writes an integer: digits, a plus before digits, or a minus before digits where
the range goes below zero. -/
inductive WritesInteger (range : IntegerRange) : List Char → Int → Prop
  | plain {ds : List Char} (hds : IsNumeral ds) : WritesInteger range ds (numeralValue ds)
  | plus {ds : List Char} (hds : IsNumeral ds) : WritesInteger range ('+' :: ds) (numeralValue ds)
  | minus {ds : List Char} (hds : IsNumeral ds) (hrange : range.least < 0) :
      WritesInteger range ('-' :: ds) (-numeralValue ds)

theorem IsNumeral.ne_sign (h : IsNumeral cs) {c : Char} {rest : List Char} (hcs : cs = c :: rest) :
    c ≠ '+' ∧ c ≠ '-' := by
  have hdigit : c.isDigit = true := h.isDigit c (hcs ▸ List.mem_cons_self)
  constructor <;> rintro rfl <;> exact absurd hdigit (by decide)

/-- Digits behind a sign are read like the value that they write. -/
theorem signedDigits_zero_eq_ok_iff (hs : sign = 1 ∨ sign = -1) (hcs : cs ≠ []) :
    signedDigits range sign 0 cs = .ok n ↔
      IsNumeral cs ∧ n = sign * numeralValue cs ∧ n ∈ range := by
  have hzero : sign * (0 : Nat) ∈ range := by
    rw [Int.natCast_zero, Int.mul_zero]
    exact range.zero_mem
  have h := @signedDigits_eq_ok_iff range sign n cs hs 0 hzero
  rw [Int.natCast_zero, Int.mul_zero] at h
  rw [h]
  constructor
  · rintro ⟨hdigit, hmem, rfl⟩
    exact ⟨⟨hcs, hdigit⟩, rfl, hmem⟩
  · rintro ⟨hnumeral, rfl, hmem⟩
    exact ⟨hnumeral.isDigit, hmem, rfl⟩

theorem integerOf_numeral (h : IsNumeral cs) :
    integerOf range cs = signedDigits range 1 0 cs := by
  obtain ⟨c, rest, rfl⟩ := List.exists_cons_of_ne_nil h.ne_nil
  obtain ⟨hplus, hminus⟩ := h.ne_sign rfl
  unfold integerOf
  split <;> simp_all

theorem integerOf_plus (h : cs ≠ []) :
    integerOf range ('+' :: cs) = signedDigits range 1 0 cs := by
  unfold integerOf
  split <;> simp_all

theorem integerOf_minus (h : cs ≠ []) (hrange : range.least < 0) :
    integerOf range ('-' :: cs) = signedDigits range (-1) 0 cs := by
  unfold integerOf
  split <;> simp_all

theorem writesInteger_of_integerOf (h : integerOf range cs = .ok n) : WritesInteger range cs n := by
  unfold integerOf at h
  split at h
  · cases h
  · cases h
  · cases h
  · next rest hne =>
      have hrest : rest ≠ [] := fun he => hne (he ▸ rfl)
      obtain ⟨hds, rfl, -⟩ := (signedDigits_zero_eq_ok_iff (Or.inl rfl) hrest).mp h
      exact (Int.one_mul _).symm ▸ .plus hds
  · next rest hne =>
      have hrest : rest ≠ [] := fun he => hne (he ▸ rfl)
      split at h
      · next hrange =>
          obtain ⟨hds, rfl, -⟩ := (signedDigits_zero_eq_ok_iff (Or.inr rfl) hrest).mp h
          exact (Int.neg_one_mul _).symm ▸ .minus hds hrange
      · cases h
  · next hne _ _ _ _ =>
      obtain ⟨hds, rfl, -⟩ := (signedDigits_zero_eq_ok_iff (Or.inl rfl) hne).mp h
      exact (Int.one_mul _).symm ▸ .plain hds

/-- The integers of a range that a text writes are those that are read from it. -/
theorem integerOf_eq_ok_iff : integerOf range cs = .ok n ↔ WritesInteger range cs n ∧ n ∈ range := by
  constructor
  · exact fun h => ⟨writesInteger_of_integerOf h, integerOf_mem h⟩
  · rintro ⟨hwrites, hmem⟩
    cases hwrites with
    | plain hds =>
        rw [integerOf_numeral hds, signedDigits_zero_eq_ok_iff (Or.inl rfl) hds.ne_nil]
        exact ⟨hds, (Int.one_mul _).symm, hmem⟩
    | plus hds =>
        rw [integerOf_plus hds.ne_nil, signedDigits_zero_eq_ok_iff (Or.inl rfl) hds.ne_nil]
        exact ⟨hds, (Int.one_mul _).symm, hmem⟩
    | minus hds hrange =>
        rw [integerOf_minus hds.ne_nil hrange,
          signedDigits_zero_eq_ok_iff (Or.inr rfl) hds.ne_nil]
        exact ⟨hds, (Int.neg_one_mul _).symm, hmem⟩

/-- The standard text of a number consists of digits. -/
theorem isNumeral_toString (k : Nat) : IsNumeral (toString k).toList := by
  have hdigits : (toString k).toList = Nat.toDigits 10 k := Nat.toList_repr
  rw [hdigits]
  exact ⟨Nat.toDigits_ne_nil, fun c hc => Nat.isDigit_of_mem_toDigits (by decide) (by decide) hc⟩

theorem numeralValue_toString (k : Nat) : numeralValue (toString k).toList = k := by
  have hdigits : (toString k).toList = Nat.toDigits 10 k := Nat.toList_repr
  rw [numeralValue, hdigits, Nat.ofDigitChars_ten_toDigits]

/-- An integer of a range is written by its standard text. -/
theorem writesInteger_toString (h : n ∈ range) : WritesInteger range (toString n).toList n := by
  cases n with
  | ofNat k =>
      have hwrites : WritesInteger range (toString k).toList (numeralValue (toString k).toList) :=
        .plain (isNumeral_toString k)
      rwa [numeralValue_toString] at hwrites
  | negSucc k =>
      have htext : (toString (Int.negSucc k)).toList = '-' :: (toString (k + 1)).toList :=
        String.toList_append
      have hbelow : range.least < 0 := Int.lt_of_le_of_lt h.1 (Int.negSucc_lt_zero k)
      have hwrites : WritesInteger range ('-' :: (toString (k + 1)).toList)
          (-numeralValue (toString (k + 1)).toList) :=
        .minus (isNumeral_toString (k + 1)) hbelow
      rw [numeralValue_toString] at hwrites
      exact htext ▸ hwrites

/-- An integer of a range is read from its standard text. -/
theorem integerOf_toString (h : n ∈ range) : integerOf range (toString n).toList = .ok n :=
  integerOf_eq_ok_iff.mpr ⟨writesInteger_toString h, h⟩

end Rowsmith.Text
