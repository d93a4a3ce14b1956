import Rowsmith.Accessor.Run

/-!
# Host types read back

Every value of a host type is read back from the value of a column that it is bound
as: the getter of its column type accepts that value, and narrowing undoes the
widening. Only the offset of a clock is lost.
-/

namespace Rowsmith.Value
open Schema Text

namespace HostType

/-- The type of the column that holds a host type as it is. -/
def column : HostType → ColumnType
  | i8 | u8 | i16 | u16 => .smallInt
  | i32 | u32 => .integer
  | i64 | u64 | isize | usize => .bigInt
  | f32 => .real
  | f64 => .doublePrecision
  | decimal => .decimal
  | char => .char
  | bool => .boolean
  | string | boxedText => .text
  | date => .date
  | time => .time
  | dateTime | utc | offset => .timestamp
  | bytes | boxedBytes => .blob

/-- Whether the values of a host type are instants. -/
def isInstant : HostType → Bool
  | utc | offset => true
  | _ => false

/-- What is decided for each text of a host type holds of all texts folded to it. -/
theorem of_ofTypeText? {P : String → HostType → Prop} (hp : ∀ p ∈ typeTexts, P p.1 p.2)
    {text : String} {t : HostType} (h : ofTypeText? text = some t) : P (normalize text) t :=
  hp (normalize text, t) (mem_of_lookup h)

/-- The type texts of host types need no bridge. -/
theorem nativeType?_of_ofTypeText? {text : String} {t : HostType}
    (h : ofTypeText? text = some t) : nativeType? text = some t.column :=
  of_ofTypeText? (P := fun key t => nativeTypes.lookup key = some t.column)
    (by decide) h

end HostType

/-- Values that differ in the offset of a clock at most. -/
def HostValue.Same : HostValue → HostValue → Prop
  | ⟨.offset, v⟩, ⟨.offset, w⟩ => v.utc = w.utc
  | v, w => v = w

theorem bounded_of_mem {range : IntegerRange} {n : Int} (h : n ∈ range) :
    bounded range n = .ok n := by
  have hc : range.check n = .ok n := IntegerRange.check_eq_ok_iff.mpr ⟨rfl, h⟩
  simp only [bounded, hc]

theorem toInt_mem_int8 (v : Int8) : v.toInt ∈ IntegerRange.int8 :=
  ⟨v.le_toInt, Int.le_of_lt_add_one v.toInt_lt⟩

theorem toInt_mem_int16 (v : Int16) : v.toInt ∈ IntegerRange.int16 :=
  ⟨v.le_toInt, Int.le_of_lt_add_one v.toInt_lt⟩

theorem toInt_mem_int32 (v : Int32) : v.toInt ∈ IntegerRange.int32 :=
  ⟨v.le_toInt, Int.le_of_lt_add_one v.toInt_lt⟩

theorem toNat_mem_word8 (v : UInt8) : (v.toNat : Int) ∈ IntegerRange.word8 := by
  have hv := v.toNat_lt
  constructor
  · exact Int.natCast_nonneg v.toNat
  · show (v.toNat : Int) ≤ 255
    omega

theorem readAs_smallInt (n : Nat) (v : Int16) : readAs .i16 n (.smallInt v) = .ok v := by
  show Int16.ofInt <$> bounded .int16 v.toInt = .ok v
  rw [bounded_of_mem (toInt_mem_int16 v)]
  exact congrArg Except.ok (Int16.ofInt_toInt v)

theorem readAs_integer (n : Nat) (v : Int32) : readAs .i32 n (.integer v) = .ok v := by
  show Int32.ofInt <$> bounded .int32 v.toInt = .ok v
  rw [bounded_of_mem (toInt_mem_int32 v)]
  exact congrArg Except.ok (Int32.ofInt_toInt v)

theorem readAs_bigInt (n : Nat) (v : Int64) : readAs .i64 n (.bigInt v) = .ok v :=
  congrArg Except.ok (Int64.ofInt_toInt v)

/-- A byte is held in a small integer as it is. -/
theorem toInt_toInt16_toUInt16 (v : UInt8) : v.toUInt16.toInt16.toInt = v.toNat := by
  have hv := v.toNat_lt
  have hw : (v.toBitVec.setWidth 16).toNat = v.toNat := by
    rw [BitVec.toNat_setWidth, UInt8.toNat_toBitVec]
    omega
  show (v.toBitVec.setWidth 16).toInt = v.toNat
  rw [BitVec.toInt_eq_toNat_of_lt (by omega), hw]

theorem ofInt_toNat (v : UInt8) : UInt8.ofInt v.toNat = v := by
  have hv := v.toNat_lt
  have hm : ((v.toNat : Int) % 2 ^ 8).toNat = v.toNat := by omega
  rw [UInt8.ofInt, hm, UInt8.ofNat_toNat]

theorem narrow_i8 (v : Int8) : Int8.ofInt <$> bounded .int8 v.toInt16.toInt = .ok v := by
  rw [Int8.toInt_toInt16, bounded_of_mem (toInt_mem_int8 v)]
  exact congrArg Except.ok (Int8.ofInt_toInt v)

theorem narrow_u8 (v : UInt8) :
    UInt8.ofInt <$> bounded .word8 v.toUInt16.toInt16.toInt = .ok v := by
  rw [toInt_toInt16_toUInt16, bounded_of_mem (toNat_mem_word8 v)]
  exact congrArg Except.ok (ofInt_toNat v)

end Rowsmith.Value

namespace Rowsmith.Accessor
open Schema Value

/-- A value is narrowed by the function for its type and the one that is named. -/
theorem narrowTo_eq {name : String} {t : HostType} (hn : HostType.ofTypeText? name = some t)
    {v : HostValue} {f : v.type.Carrier → Read t.Carrier} (hf : narrow t v.type = some f) :
    narrowTo name v = (fun w => ⟨t, w⟩) <$> f v.value := by
  unfold narrowTo
  rw [hn]
  dsimp only
  rw [hf]

theorem narrowTo_eq_ok {name : String} {t : HostType}
    (hn : HostType.ofTypeText? name = some t) {v : HostValue}
    {f : v.type.Carrier → Read t.Carrier} (hf : narrow t v.type = some f) {w : t.Carrier}
    (hw : f v.value = .ok w) : narrowTo name v = .ok ⟨t, w⟩ := by
  rw [narrowTo_eq hn hf, hw]
  rfl

/-- What is bound is read and narrowed back to the value, the offset of a clock aside. -/
theorem narrowTo_of_toSql {name : String} {t : HostType}
    (hn : HostType.ofTypeText? name = some t) (v : t.Carrier) (n : Nat) :
    ∃ raw w, readAs t.column.getter n (t.toSql v) = .ok raw ∧
      narrowTo name (narrowedValue ⟨getterType t.column.getter, raw⟩ t.isInstant) =
        .ok ⟨t, w⟩ ∧ HostValue.Same ⟨t, v⟩ ⟨t, w⟩ := by
  cases t with
  | i8 => exact ⟨v.toInt16, v, readAs_smallInt n _, narrowTo_eq_ok hn rfl (narrow_i8 v), rfl⟩
  | u8 =>
      exact ⟨v.toUInt16.toInt16, v, readAs_smallInt n _, narrowTo_eq_ok hn rfl (narrow_u8 v), rfl⟩
  | i16 => exact ⟨v, v, readAs_smallInt n v, narrowTo_eq_ok hn rfl rfl, rfl⟩
  | u16 => exact ⟨v.toInt16, v, readAs_smallInt n _, narrowTo_eq_ok hn rfl rfl, rfl⟩
  | i32 => exact ⟨v, v, readAs_integer n v, narrowTo_eq_ok hn rfl rfl, rfl⟩
  | u32 => exact ⟨v.toInt32, v, readAs_integer n _, narrowTo_eq_ok hn rfl rfl, rfl⟩
  | i64 => exact ⟨v, v, readAs_bigInt n v, narrowTo_eq_ok hn rfl rfl, rfl⟩
  | isize => exact ⟨v, v, readAs_bigInt n v, narrowTo_eq_ok hn rfl rfl, rfl⟩
  | u64 => exact ⟨v.toInt64, v, readAs_bigInt n _, narrowTo_eq_ok hn rfl rfl, rfl⟩
  | usize => exact ⟨v.toInt64, v, readAs_bigInt n _, narrowTo_eq_ok hn rfl rfl, rfl⟩
  | date => exact ⟨⟨v, midnight⟩, v, rfl, narrowTo_eq_ok hn rfl rfl, rfl⟩
  | time => exact ⟨⟨epochDate, v⟩, v, rfl, narrowTo_eq_ok hn rfl rfl, rfl⟩
  | offset => exact ⟨v.utc, ⟨v.utc, 0⟩, rfl, narrowTo_eq_ok hn rfl rfl, rfl⟩
  | f32 => exact ⟨v, v, rfl, narrowTo_eq_ok hn rfl rfl, rfl⟩
  | f64 => exact ⟨v, v, rfl, narrowTo_eq_ok hn rfl rfl, rfl⟩
  | decimal => exact ⟨v, v, rfl, narrowTo_eq_ok hn rfl rfl, rfl⟩
  | char => exact ⟨v, v, rfl, narrowTo_eq_ok hn rfl rfl, rfl⟩
  | bool => exact ⟨v, v, rfl, narrowTo_eq_ok hn rfl rfl, rfl⟩
  | string => exact ⟨v, v, rfl, narrowTo_eq_ok hn rfl rfl, rfl⟩
  | boxedText => exact ⟨v, v, rfl, narrowTo_eq_ok hn rfl rfl, rfl⟩
  | dateTime => exact ⟨v, v, rfl, narrowTo_eq_ok hn rfl rfl, rfl⟩
  | utc => exact ⟨v, v, rfl, narrowTo_eq_ok hn rfl rfl, rfl⟩
  | bytes => exact ⟨v, v, rfl, narrowTo_eq_ok hn rfl rfl, rfl⟩
  | boxedBytes => exact ⟨v, v, rfl, narrowTo_eq_ok hn rfl rfl, rfl⟩

/-- Exactly the columns of instants are narrowed from one. -/
theorem holdsInstant_of_ofTypeText? {c : Column} {t : HostType}
    (h : HostType.ofTypeText? c.baseType = some t) : holdsInstant c = t.isInstant := by
  have hk := HostType.of_ofTypeText? (P := fun key t =>
    ("datetime<".toList.isPrefixOf key.toList ||
      "chrono::datetime<".toList.isPrefixOf key.toList) = t.isInstant) (by decide) h
  rw [← hk]
  rfl

end Rowsmith.Accessor
