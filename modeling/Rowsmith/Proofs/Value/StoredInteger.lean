import Rowsmith.Proofs.Accessor.RoundTrip

/-!
# Stored integers

A column may answer with an integer of another width than the one that was bound. Reading it and
narrowing what the getter gives undoes the binding of a value of an integer type: the values that
are bound as the stored integer, and no others, are read from it. There is at most one; where there
is none, the conversion fails.
-/

namespace Rowsmith.Value
open Outcome Schema Text

/-- How the values of a type are the integers of a range. -/
structure IntegerForm (α : Type) where
  range : IntegerRange
  toInt : α → Int
  ofInt : Int → α
  toInt_mem : ∀ v, toInt v ∈ range
  ofInt_toInt : ∀ v, ofInt (toInt v) = v
  toInt_ofInt : ∀ n, n ∈ range → toInt (ofInt n) = n

namespace IntegerForm

/-- Integers of 8 bits with a sign. -/
def int8 : IntegerForm Int8 where
  range := .int8
  toInt := Int8.toInt
  ofInt := Int8.ofInt
  toInt_mem := toInt_mem_int8
  ofInt_toInt := Int8.ofInt_toInt
  toInt_ofInt _ h := Int8.toInt_ofInt_of_le h.1 (Int.lt_add_one_of_le h.2)

/-- Integers of 16 bits with a sign. -/
def int16 : IntegerForm Int16 where
  range := .int16
  toInt := Int16.toInt
  ofInt := Int16.ofInt
  toInt_mem := toInt_mem_int16
  ofInt_toInt := Int16.ofInt_toInt
  toInt_ofInt _ h := Int16.toInt_ofInt_of_le h.1 (Int.lt_add_one_of_le h.2)

/-- Integers of 32 bits with a sign. -/
def int32 : IntegerForm Int32 where
  range := .int32
  toInt := Int32.toInt
  ofInt := Int32.ofInt
  toInt_mem := toInt_mem_int32
  ofInt_toInt := Int32.ofInt_toInt
  toInt_ofInt _ h := Int32.toInt_ofInt_of_le h.1 (Int.lt_add_one_of_le h.2)

/-- Integers of 64 bits with a sign. -/
def int64 : IntegerForm Int64 where
  range := .int64
  toInt := Int64.toInt
  ofInt := Int64.ofInt
  toInt_mem v := ⟨v.le_toInt, Int.le_of_lt_add_one v.toInt_lt⟩
  ofInt_toInt := Int64.ofInt_toInt
  toInt_ofInt _ h := Int64.toInt_ofInt_of_le h.1 (Int.lt_add_one_of_le h.2)

/-- Integers without a sign, in words that wrap around behind the greatest one. -/
def ofWord {α : Type} (range : IntegerRange) (toNat : α → Nat) (ofInt : Int → α)
    (least_eq : range.least = 0) (le_greatest : ∀ v, (toNat v : Int) ≤ range.greatest)
    (eq_of_toNat : ∀ v w, toNat v = toNat w → v = w)
    (toNat_ofInt : ∀ n, (toNat (ofInt n) : Int) = n % (range.greatest + 1)) :
    IntegerForm α where
  range := range
  toInt v := toNat v
  ofInt := ofInt
  toInt_mem v := ⟨least_eq ▸ Int.natCast_nonneg _, le_greatest v⟩
  ofInt_toInt v := by
    apply eq_of_toNat
    have hwrap := toNat_ofInt (toNat v)
    rw [Int.emod_eq_of_lt (Int.natCast_nonneg _) (Int.lt_add_one_of_le (le_greatest v))] at hwrap
    exact Int.ofNat_inj.mp hwrap
  toInt_ofInt n h := by
    rw [toNat_ofInt, Int.emod_eq_of_lt (least_eq ▸ h.1) (Int.lt_add_one_of_le h.2)]

/-- Integers of 8 bits without a sign. -/
def word8 : IntegerForm UInt8 :=
  ofWord .word8 UInt8.toNat UInt8.ofInt rfl (fun v => (toNat_mem_word8 v).2)
    (fun _ _ => UInt8.toNat_inj.mp) fun n => by
      show _ = n % 256
      rw [UInt8.ofInt, UInt8.toNat_ofNat']
      omega

/-- Integers of 16 bits without a sign. -/
def word16 : IntegerForm UInt16 :=
  ofWord .word16 UInt16.toNat UInt16.ofInt rfl
    (fun v => Int.le_of_lt_add_one (Int.ofNat_lt.mpr v.toNat_lt))
    (fun _ _ => UInt16.toNat_inj.mp) fun n => by
      show _ = n % 65536
      rw [UInt16.ofInt, UInt16.toNat_ofNat']
      omega

/-- Integers of 32 bits without a sign. -/
def word32 : IntegerForm UInt32 :=
  ofWord .word32 UInt32.toNat UInt32.ofInt rfl
    (fun v => Int.le_of_lt_add_one (Int.ofNat_lt.mpr v.toNat_lt))
    (fun _ _ => UInt32.toNat_inj.mp) fun n => by
      show _ = n % 4294967296
      rw [UInt32.ofInt, UInt32.toNat_ofNat']
      omega

/-- Integers of 64 bits without a sign. -/
def word64 : IntegerForm UInt64 :=
  ofWord .word64 UInt64.toNat UInt64.ofInt rfl
    (fun v => Int.le_of_lt_add_one (Int.ofNat_lt.mpr v.toNat_lt))
    (fun _ _ => UInt64.toNat_inj.mp) fun n => by
      show _ = n % 18446744073709551616
      rw [UInt64.ofInt, UInt64.toNat_ofNat']
      omega

end IntegerForm

namespace HostType

/-- The host types of integers. -/
def integerTypes : List HostType := [i8, u8, i16, u16, i32, u32, i64, u64, isize, usize]

/-- How the values of a host type are integers, if they are. -/
def integerForm? : (t : HostType) → Option (IntegerForm t.Carrier)
  | i8 => some .int8
  | u8 => some .word8
  | i16 => some .int16
  | u16 => some .word16
  | i32 => some .int32
  | u32 => some .word32
  | i64 | isize => some .int64
  | u64 | usize => some .word64
  | _ => none

theorem exists_integerForm {t : HostType} (h : t ∈ integerTypes) :
    ∃ form, t.integerForm? = some form := by
  rw [← Option.isSome_iff_exists]
  revert t
  decide

end HostType

theorem bounded_eq_ok_iff {range : IntegerRange} {n m : Int} :
    bounded range n = .ok m ↔ n = m ∧ n ∈ range := by
  rw [← IntegerRange.check_eq_ok_iff, bounded]
  cases range.check n <;> simp

theorem bounded_of_not_mem {range : IntegerRange} {n : Int} (h : ¬ n ∈ range) :
    ∃ reason, bounded range n = .error (.conversion reason) := by
  have hcheck : ∀ m, range.check n ≠ .ok m := fun m hm =>
    h (IntegerRange.check_eq_ok_iff.mp hm).2
  unfold bounded
  split
  · next m hm => exact absurd hm (hcheck m)
  · exact ⟨_, rfl⟩

/-- The integers that columns hold have 64 bits at most. -/
theorem SqlValue.integer?_mem {x : SqlValue} {n : Int} (h : x.integer? = some n) :
    n ∈ IntegerRange.int64 := by
  have hwiden : ∀ {least greatest : Int}, least ≤ n ∧ n ≤ greatest →
      IntegerRange.int64.least ≤ least → greatest ≤ IntegerRange.int64.greatest →
      n ∈ IntegerRange.int64 := fun hn hleast hgreatest =>
    ⟨Int.le_trans hleast hn.1, Int.le_trans hn.2 hgreatest⟩
  cases x with
  | smallInt v =>
      cases h
      exact hwiden (IntegerForm.int16.toInt_mem v) (by decide) (by decide)
  | integer v =>
      cases h
      exact hwiden (IntegerForm.int32.toInt_mem v) (by decide) (by decide)
  | bigInt v =>
      cases h
      exact IntegerForm.int64.toInt_mem v
  | _ => cases h

/-- A getter of integers gives what is stored if it lies in the range of the getter, whatever the
width that it is stored in. -/
theorem readAs_of_integer? {g : Getter} {form : IntegerForm (getterType g).Carrier}
    (hg : (getterType g).integerForm? = some form) {x : SqlValue} {n : Int}
    (hx : x.integer? = some n) (ordinal : Nat) :
    readAs g ordinal x = form.ofInt <$> bounded form.range n := by
  cases g with
  | i16 =>
      cases hg
      simp only [readAs, hx]
      rfl
  | i32 =>
      cases hg
      simp only [readAs, hx]
      rfl
  | i64 =>
      cases hg
      have hn : bounded IntegerForm.int64.range n = .ok n :=
        bounded_of_mem (SqlValue.integer?_mem hx)
      simp only [readAs, hx, hn]
      rfl
  | _ => cases hg

/-- What is read where an integer is stored: the value that is bound as it, and a failed conversion
where there is none. -/
structure Inverts {α : Type} (bound : α → Int) (n : Int) (result : Read α) : Prop where
  eq_ok_iff : ∀ v, result = .ok v ↔ bound v = n
  fails : (∀ v, bound v ≠ n) → ∃ reason, result = .error (.conversion reason)

namespace Inverts

variable {α β : Type} {bound : α → Int} {n : Int} {result : Read α}

/-- An integer checked against the range of a type is read as its value. -/
theorem checked (form : IntegerForm α) (n : Int) :
    Inverts form.toInt n (form.ofInt <$> bounded form.range n) := by
  constructor
  · intro v
    rw [map_eq_ok_iff]
    constructor
    · rintro ⟨m, hm, rfl⟩
      obtain ⟨rfl, hmem⟩ := bounded_eq_ok_iff.mp hm
      exact form.toInt_ofInt n hmem
    · rintro rfl
      exact ⟨form.toInt v, bounded_of_mem (form.toInt_mem v), form.ofInt_toInt v⟩
  · intro hnone
    have hmem : ¬ n ∈ form.range := fun h => hnone _ (form.toInt_ofInt n h)
    obtain ⟨reason, hreason⟩ := bounded_of_not_mem hmem
    exact ⟨reason, by rw [hreason]; rfl⟩

/-- Values that stand for others one to one are read like them. -/
theorem map (h : Inverts bound n result) {f : α → β} {g : β → α} (hgf : ∀ a, g (f a) = a)
    (hfg : ∀ b, f (g b) = b) : Inverts (bound ∘ g) n (f <$> result) := by
  constructor
  · intro b
    rw [map_eq_ok_iff]
    constructor
    · rintro ⟨a, ha, rfl⟩
      rw [Function.comp_apply, hgf]
      exact (h.eq_ok_iff a).mp ha
    · exact fun hb => ⟨g b, (h.eq_ok_iff (g b)).mpr hb, hfg b⟩
  · intro hnone
    have hbound : ∀ a, bound a ≠ n := by
      intro a ha
      apply hnone (f a)
      rw [Function.comp_apply, hgf, ha]
    obtain ⟨reason, hreason⟩ := h.fails hbound
    exact ⟨reason, by rw [hreason]; rfl⟩

/-- Values of a smaller type are read by checking what is read of a wider one. -/
theorem narrowed (h : Inverts bound n result) (form : IntegerForm β) {widen : β → α}
    (hwiden : ∀ b, bound (widen b) = form.toInt b) :
    Inverts form.toInt n
      (result >>= fun a => form.ofInt <$> bounded form.range (bound a)) := by
  rcases hresult : result with fault | a
  · have hbound : ∀ a, bound a ≠ n := by
      intro a ha
      rw [hresult] at h
      cases (h.eq_ok_iff a).mpr ha
    obtain ⟨reason, hreason⟩ := h.fails hbound
    obtain rfl : fault = .conversion reason := Except.error.inj (hresult.symm.trans hreason)
    constructor
    · intro b
      constructor
      · exact nofun
      · exact fun hb => absurd ((hwiden b).trans hb) (hbound (widen b))
    · exact fun _ => ⟨reason, rfl⟩
  · obtain rfl := (h.eq_ok_iff a).mp hresult
    exact checked form (bound a)

end Inverts

/-- The integer that is stored for a value, and what is read of a stored integer and narrowed. -/
theorem exists_inverts {t : HostType} (ht : t ∈ HostType.integerTypes) {x : SqlValue} {n : Int}
    (hx : x.integer? = some n) (ordinal : Nat) :
    ∃ (bound : t.Carrier → Int) (f : (getterType t.column.getter).Carrier → Read t.Carrier),
      (∀ v, (t.toSql v).integer? = some (bound v)) ∧
      narrow t (getterType t.column.getter) = some f ∧
      Inverts bound n (readAs t.column.getter ordinal x >>= f) := by
  have hsmall : Inverts Int16.toInt n (readAs .i16 ordinal x) :=
    readAs_of_integer? (g := .i16) rfl hx ordinal ▸ .checked .int16 n
  have hmedium : Inverts Int32.toInt n (readAs .i32 ordinal x) :=
    readAs_of_integer? (g := .i32) rfl hx ordinal ▸ .checked .int32 n
  have hlarge : Inverts Int64.toInt n (readAs .i64 ordinal x) :=
    readAs_of_integer? (g := .i64) rfl hx ordinal ▸ .checked .int64 n
  cases t with
  | i8 =>
      exact ⟨_, _, fun v => congrArg some (Int8.toInt_toInt16 v), rfl,
        hsmall.narrowed .int8 Int8.toInt_toInt16⟩
  | u8 =>
      exact ⟨_, _, fun v => congrArg some (toInt_toInt16_toUInt16 v), rfl,
        hsmall.narrowed .word8 toInt_toInt16_toUInt16⟩
  | i16 => exact ⟨_, _, fun _ => rfl, rfl, hsmall.map (g := id) (fun _ => rfl) fun _ => rfl⟩
  | u16 => exact ⟨_, _, fun _ => rfl, rfl,
      hsmall.map Int16.toInt16_toUInt16 UInt16.toUInt16_toInt16⟩
  | i32 => exact ⟨_, _, fun _ => rfl, rfl, hmedium.map (g := id) (fun _ => rfl) fun _ => rfl⟩
  | u32 => exact ⟨_, _, fun _ => rfl, rfl,
      hmedium.map Int32.toInt32_toUInt32 UInt32.toUInt32_toInt32⟩
  | i64 => exact ⟨_, _, fun _ => rfl, rfl, hlarge.map (g := id) (fun _ => rfl) fun _ => rfl⟩
  | isize => exact ⟨_, _, fun _ => rfl, rfl, hlarge.map (g := id) (fun _ => rfl) fun _ => rfl⟩
  | u64 => exact ⟨_, _, fun _ => rfl, rfl,
      hlarge.map Int64.toInt64_toUInt64 UInt64.toUInt64_toInt64⟩
  | usize => exact ⟨_, _, fun _ => rfl, rfl,
      hlarge.map Int64.toInt64_toUInt64 UInt64.toUInt64_toInt64⟩
  | _ => exact absurd ht (by decide)

end Rowsmith.Value

namespace Rowsmith.Accessor
open Outcome Schema Value

/-- What a getter gives for a column of a row, narrowed to the type that a text names. -/
def readNarrowed (g : Getter) (name : String) (row : Row) (ordinal : Nat) : Read HostValue := do
  let raw ← row.get g ordinal
  narrowTo name (narrowedValue ⟨getterType g, raw⟩ false)

/-- A value read from a row is narrowed by the function for its type and the one that is named. -/
theorem readNarrowed_eq {g : Getter} {name : String} {t : HostType}
    (hn : HostType.ofTypeText? name = some t) {f : (getterType g).Carrier → Read t.Carrier}
    (hf : narrow t (getterType g) = some f) {row : Row} {ordinal : Nat} {x : SqlValue}
    (hrow : row[ordinal]? = some x) :
    readNarrowed g name row ordinal = (fun v => ⟨t, v⟩) <$> (readAs g ordinal x >>= f) := by
  have hvalue : row.value ordinal = .ok x := by simp [Row.value, hrow]
  have hplain : ∀ v : HostValue, narrowedValue v false = v := fun v => by
    cases v with | mk type value => cases type <;> rfl
  rw [readNarrowed, Row.get, hvalue, ok_bind]
  cases hread : readAs g ordinal x with
  | error fault => rfl
  | ok raw => rw [ok_bind, ok_bind, hplain, narrowTo_eq hn hf]

/-- A reading that narrows takes from a row what is read and narrowed. -/
theorem Reading.take_of_narrowing {V : Type} {e : Environment V} {r : Reading}
    {tokens : List Source.Token} {name : String} (hform : r.form = .narrowing tokens name false)
    {row : Row} {x : SqlValue} (hrow : row[r.ordinal]? = some x) (hx : x.isNull = false) :
    r.take e row = (fun v => some (.native v)) <$> readNarrowed r.getter name row r.ordinal := by
  have hvalue : row.value r.ordinal = .ok x := by simp [Row.value, hrow]
  rw [Reading.take_of_getElem? hrow, hx, Bool.and_false, if_neg Bool.false_ne_true, readNarrowed,
    Row.get, hvalue, ok_bind, hform]
  cases readAs r.getter r.ordinal x with
  | error fault => rfl
  | ok raw =>
      rw [ok_bind, ok_bind, ReadingForm.take]
      cases narrowTo name (narrowedValue ⟨getterType r.getter, raw⟩ false) <;> rfl

theorem columnType_mapHostType {name : String} {t : HostType}
    (hn : HostType.ofTypeText? name = some t) : (mapHostType name).columnType = t.column := by
  have hnative := HostType.nativeType?_of_ofTypeText? hn
  rcases mapHostType_cases name with ⟨type, htype, hmap⟩ | ⟨hnone, -⟩
  · rw [hmap]
    exact Option.some.inj (htype.symm.trans hnative)
  · rw [hnone] at hnative
    cases hnative

/-- An integer that is stored in any width is read by the getter of an integer type's column and
narrowed to the type exactly if it is the integer that a value of the type is bound as: to that
value. Every other stored integer is reported as a failed conversion. -/
theorem readNarrowed_integer {name : String} {t : HostType}
    (hn : HostType.ofTypeText? name = some t) (ht : t ∈ HostType.integerTypes) {row : Row}
    {ordinal : Nat} {x : SqlValue} {n : Int} (hrow : row[ordinal]? = some x)
    (hx : x.integer? = some n) :
    (∀ v : t.Carrier, readNarrowed (mapHostType name).columnType.getter name row ordinal =
        .ok ⟨t, v⟩ ↔ (t.toSql v).integer? = some n) ∧
    ((∀ v : t.Carrier, (t.toSql v).integer? ≠ some n) → ∃ reason,
      readNarrowed (mapHostType name).columnType.getter name row ordinal =
        .error (.conversion reason)) := by
  obtain ⟨bound, f, hbound, hf, hinverts⟩ := exists_inverts ht hx ordinal
  rw [columnType_mapHostType hn, readNarrowed_eq hn hf hrow]
  simp only [hbound, Option.some.injEq]
  constructor
  · intro v
    rw [← hinverts.eq_ok_iff v, map_eq_ok_iff]
    simp
  · intro hnone
    obtain ⟨reason, hreason⟩ := hinverts.fails fun v hv => hnone v (congrArg some hv)
    exact ⟨reason, by rw [hreason]; rfl⟩

/-- The bits of the greatest 16-bit word are stored as -1, whatever the width; the word itself, which
only wider columns hold, is not read. -/
theorem readNarrowed_word : HostType.ofTypeText? "u16" = some .u16 ∧
    (∀ x ∈ [SqlValue.smallInt (-1), .integer (-1), .bigInt (-1)],
      readNarrowed (mapHostType "u16").columnType.getter "u16" [x] 0 =
        .ok ⟨.u16, (65535 : UInt16)⟩) ∧
    ∃ reason, readNarrowed (mapHostType "u16").columnType.getter "u16" [.integer 65535] 0 =
      .error (.conversion reason) := by
  have hn : HostType.ofTypeText? "u16" = some .u16 := by decide
  refine ⟨hn, ?_, ?_⟩
  · intro x hx
    have hstored : x.integer? = some (-1) := by
      revert x
      decide
    exact ((readNarrowed_integer hn (by decide) rfl hstored).1 (65535 : UInt16)).mpr (by decide)
  · refine (readNarrowed_integer (n := 65535) hn (by decide) rfl (by decide)).2 ?_
    intro v hv
    have hbound : v.toInt16.toInt < 2 ^ 15 := Int16.toInt_lt _
    have hvalue : v.toInt16.toInt = 65535 := Option.some.inj hv
    omega

end Rowsmith.Accessor
