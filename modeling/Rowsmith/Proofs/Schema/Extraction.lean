import Rowsmith.Proofs.Outcome
import Rowsmith.Schema.Extraction

/-!
# Extracted tables

What holds of every table that extraction yields, whatever the declaration and the
resolver: how the parts of a column hang together, and that its key is the one
column marked as such.
-/

namespace Rowsmith.Schema
open Outcome

/-- A host type is either held as it is or bridged through text. -/
theorem mapHostType_cases (text : String) :
    (∃ type, nativeType? text = some type ∧ mapHostType text = ⟨type, false⟩) ∨
      (nativeType? text = none ∧ mapHostType text = ⟨.text, true⟩) := by
  unfold mapHostType
  cases hn : nativeType? text with
  | none => exact Or.inr ⟨rfl, rfl⟩
  | some type => exact Or.inl ⟨type, rfl, rfl⟩

/-- How the parts of an extracted column hang together. -/
structure Column.Coherent (c : Column) : Prop where
  enum_type : c.isEnum = true → c.columnType = Width.columnType c.enumWidth
  enum_plain : c.isEnum = true → c.needsBridge = false
  bridge_type : c.needsBridge = true → c.columnType = .text ∨ c.columnType = .varchar
  native_type : c.isEnum = false → c.needsBridge = false →
    ∃ type, nativeType? c.baseType = some type ∧
      c.columnType = if c.length.isSome then .varchar else type
  optional_nullable : c.isOptional = true → c.isNullable = true

/-- A bridged column is no enumeration. -/
theorem Column.Coherent.isEnum_of_needsBridge {c : Column} (hc : c.Coherent)
    (hb : c.needsBridge = true) : c.isEnum = false := by
  by_contra h
  rw [hc.enum_plain (Bool.not_eq_false _ ▸ h)] at hb
  cases hb

/-- The column of a property is coherent whatever its annotations say. -/
theorem columnWith_coherent (resolver : Resolver) (p : Property) (m : Marks) :
    (columnWith resolver p m).Coherent := by
  rcases hw : (resolver (stripNullable p.type).1).enumWidth? with _ | w
  · have hmap := mapHostType_cases (stripNullable p.type).1
    constructor
    · intro h
      simp [columnWith, hw] at h
    · intro h
      simp [columnWith, hw] at h
    · intro h
      rcases hmap with ⟨type, -, hm⟩ | ⟨-, hm⟩
      · simp [columnWith, hw, hm] at h
      · by_cases hl : m.length.isSome = true
        · simp [columnWith, hw, hl]
        · simp [columnWith, hw, hl, hm]
    · intro _ h
      rcases hmap with ⟨type, hn, hm⟩ | ⟨-, hm⟩
      · exact ⟨type, hn, by simp [columnWith, hw, hm]⟩
      · simp [columnWith, hw, hm] at h
    · intro h
      have hm : (stripNullable p.type).2 = true := h
      simp [columnWith, hm]
  · constructor
    · intro _
      simp [columnWith, hw]
    · intro _
      simp [columnWith, hw]
    · intro h
      simp [columnWith, hw] at h
    · intro h
      simp [columnWith, hw] at h
    · intro h
      have hm : (stripNullable p.type).2 = true := h
      simp [columnWith, hm]

/-- A key is found exactly when one column is marked as one. -/
theorem keyOf_eq_ok_iff {className : String} {columns : List Column} {key : Column} :
    keyOf className columns = .ok key ↔ columns.filter (·.isPrimaryKey) = [key] := by
  unfold keyOf
  split
  · next h => simp [h]
  · next only h => simp [h]
  · next hnil hone =>
      simp only [reduceCtorEq, false_iff]
      exact hone key

/-- Extraction succeeds exactly when every column does and one of them is the key. -/
theorem extract_eq_ok_iff {resolver : Resolver} {d : Declaration} {t : Table} :
    extract resolver d = .ok t ↔
      (d.properties.filter (·.isColumn)).mapM (columnOf resolver) = .ok t.columns ∧
      t.columns.filter (·.isPrimaryKey) = [t.key] ∧
      t = { name := tableName d, className := d.name, key := t.key, columns := t.columns,
            uniques := tableUniques d,
            skipped := (d.properties.filter (!·.isColumn)).map (·.name) } := by
  simp only [extract, bind_eq_ok_iff, pure_eq_ok_iff]
  constructor
  · rintro ⟨columns, hcolumns, key, hkey, rfl⟩
    exact ⟨hcolumns, keyOf_eq_ok_iff.mp hkey, rfl⟩
  · rintro ⟨hcolumns, hkey, ht⟩
    exact ⟨t.columns, hcolumns, t.key, keyOf_eq_ok_iff.mpr hkey, ht.symm⟩

section Extracted

variable {resolver : Resolver} {d : Declaration} {t : Table}

/-- The columns are those of the properties, one by one. -/
theorem columns_of_extract (h : extract resolver d = .ok t) :
    List.Forall₂ (fun p c => ∃ m, marksOf p = .ok m ∧ columnWith resolver p m = c)
      (d.properties.filter (·.isColumn)) t.columns := by
  have hcolumns := mapM_eq_ok_iff.mp (extract_eq_ok_iff.mp h).1
  refine hcolumns.imp fun p c hc => ?_
  obtain ⟨m, hm, hw⟩ := bind_eq_ok_iff.mp hc
  exact ⟨m, hm, pure_eq_ok_iff.mp hw⟩

theorem className_of_extract (h : extract resolver d = .ok t) : t.className = d.name :=
  congrArg Table.className (extract_eq_ok_iff.mp h).2.2

theorem coherent_of_extract (h : extract resolver d = .ok t) {c : Column}
    (hc : c ∈ t.columns) : c.Coherent := by
  obtain ⟨p, -, m, -, rfl⟩ := exists_of_mem_right (columns_of_extract h) hc
  exact columnWith_coherent resolver p m

theorem filter_isPrimaryKey_of_extract (h : extract resolver d = .ok t) :
    t.columns.filter (·.isPrimaryKey) = [t.key] :=
  (extract_eq_ok_iff.mp h).2.1

theorem key_mem_of_extract (h : extract resolver d = .ok t) : t.key ∈ t.columns := by
  have hk : t.key ∈ t.columns.filter (·.isPrimaryKey) := by
    rw [filter_isPrimaryKey_of_extract h]
    exact List.mem_singleton_self t.key
  exact List.mem_of_mem_filter hk

/-- Every column is the key or one of the others. -/
theorem eq_key_or_mem_of_extract (h : extract resolver d = .ok t) {c : Column}
    (hc : c ∈ t.columns) : c = t.key ∨ c ∈ t.otherColumns := by
  cases hk : c.isPrimaryKey with
  | true =>
      have hf : c ∈ t.columns.filter (·.isPrimaryKey) := List.mem_filter.mpr ⟨hc, hk⟩
      rw [filter_isPrimaryKey_of_extract h] at hf
      exact Or.inl (List.mem_singleton.mp hf)
  | false => exact Or.inr (List.mem_filter.mpr ⟨hc, by simp [hk]⟩)

end Extracted

section Member

/-- A class with a column of every form and a property without one. -/
def member : Declaration :=
  { name := "Member"
    properties := [
      { name := "status", type := "Status" },
      { name := "id", type := "u64", annotations := [{ name := "primary_key" }] },
      { name := "nickname", type := "Option<String>"
        annotations := [{ name := "varchar", positional := [.integer "40"] }] },
      { name := "home", type := "Address" },
      { name := "joined", type := "DateTime<FixedOffset>" },
      { name := "badge", type := "Badge", access := .readOnly }] }

/-- Knows the status of a member as an enumeration of 8 bits. -/
def memberResolver : Resolver := (Hints.insert {} "Status" (some .w8)).resolve

/-- The key of the table of members. -/
def memberKey : Column :=
  { name := "id", propertyName := "id", propertyType := "u64", columnType := .bigInt
    isPrimaryKey := true }

/-- The table of members. -/
def memberTable : Table :=
  { name := "Member"
    className := "Member"
    key := memberKey
    columns := [
      { name := "status", propertyName := "status", propertyType := "Status"
        columnType := .smallInt, isEnum := true, enumWidth := some .w8 },
      memberKey,
      { name := "nickname", propertyName := "nickname", propertyType := "Option<String>"
        columnType := .varchar, isNullable := true, length := some 40 },
      { name := "home", propertyName := "home", propertyType := "Address"
        columnType := .text, needsBridge := true },
      { name := "joined", propertyName := "joined", propertyType := "DateTime<FixedOffset>"
        columnType := .timestamp }]
    skipped := ["badge"] }

set_option maxRecDepth 100000 in
/-- The class of members is extracted. -/
theorem extract_member : extract memberResolver member = .ok memberTable := by
  decide +kernel

end Member

end Rowsmith.Schema
