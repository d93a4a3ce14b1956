import Mathlib.Data.List.Nodup
import Rowsmith.Proofs.Schema.ExtractionFailure
import Rowsmith.Sql.Operation

/-!
# Names of columns

A column goes by the last name that an annotation of its property gives, or else keeps the name of
the property without its raw prefix. Properties with names of their own thus share the name of a
column in three ways: it is given to both, given to one and kept by the other, or kept by both, with
and without the prefix.
-/

namespace Rowsmith.Schema
open Outcome Text

section Raw

variable {name a b : String}

/-- A name with the raw prefix. -/
def IsRaw (name : String) : Prop := ∃ rest, name = "r#" ++ rest

theorem ne_raw_self (name : String) : name ≠ "r#" ++ name := by
  intro h
  have hlength := congrArg String.length h
  rw [String.length_append] at hlength
  have hprefix : "r#".length = 2 := rfl
  omega

theorem defaultColumnName_raw (rest : String) : defaultColumnName ("r#" ++ rest) = rest := by
  have hdrop : dropStart? "r#".toList ("r#" ++ rest).toList = some rest.toList := by
    rw [dropStart?_eq_some_iff, String.toList_append]
  rw [defaultColumnName, withoutStart, hdrop]
  exact String.ofList_toList

theorem defaultColumnName_of_not_isRaw (h : ¬ IsRaw name) : defaultColumnName name = name := by
  rw [defaultColumnName, withoutStart]
  split
  · next rest hrest =>
      refine absurd ⟨String.ofList rest, ?_⟩ h
      rw [← String.toList_inj, String.toList_append, dropStart?_eq_some_iff.mp hrest]
      exact congrArg ("r#".toList ++ ·) String.toList_ofList.symm
  · rfl

theorem defaultColumnName_eq_self_iff : defaultColumnName name = name ↔ ¬ IsRaw name := by
  refine ⟨?_, defaultColumnName_of_not_isRaw⟩
  rintro h ⟨rest, rfl⟩
  rw [defaultColumnName_raw] at h
  exact ne_raw_self rest h

instance (name : String) : Decidable (IsRaw name) :=
  decidable_of_iff (¬ defaultColumnName name = name)
    (not_congr defaultColumnName_eq_self_iff |>.trans Classical.not_not)

/-- Names that agree without their raw prefixes are the same, or one has the prefix. -/
theorem defaultColumnName_eq_iff : defaultColumnName a = defaultColumnName b ↔
    a = b ∨ (a = "r#" ++ b ∧ ¬ IsRaw b) ∨ (b = "r#" ++ a ∧ ¬ IsRaw a) := by
  constructor
  · intro h
    by_cases ha : IsRaw a
    · obtain ⟨rest, rfl⟩ := ha
      rw [defaultColumnName_raw] at h
      by_cases hb : IsRaw b
      · obtain ⟨other, rfl⟩ := hb
        rw [defaultColumnName_raw] at h
        exact Or.inl (by rw [h])
      · rw [defaultColumnName_of_not_isRaw hb] at h
        exact Or.inr (Or.inl ⟨by rw [h], hb⟩)
    · rw [defaultColumnName_of_not_isRaw ha] at h
      by_cases hb : IsRaw b
      · obtain ⟨other, rfl⟩ := hb
        rw [defaultColumnName_raw] at h
        exact Or.inr (Or.inr ⟨by rw [h], ha⟩)
      · rw [defaultColumnName_of_not_isRaw hb] at h
        exact Or.inl h
  · rintro (rfl | ⟨rfl, hb⟩ | ⟨rfl, ha⟩)
    · rfl
    · rw [defaultColumnName_raw, defaultColumnName_of_not_isRaw hb]
    · rw [defaultColumnName_raw, defaultColumnName_of_not_isRaw ha]

end Raw

namespace Property

variable {p : Property}

/-- The name that the annotations of a property give to its column. -/
def givenName? (p : Property) : Option String :=
  (p.annotations.filterMap Annotation.columnName?).getLast?

theorem columnName_of_given {name : String} (h : p.givenName? = some name) :
    p.columnName = name := by
  rw [columnName, ← givenName?, h]
  rfl

theorem columnName_of_kept (h : p.givenName? = none) :
    p.columnName = defaultColumnName p.name := by
  rw [columnName, ← givenName?, h]
  rfl

end Property

section Extracted

variable {resolver : Resolver} {d : Declaration} {t : Table}

/-- The columns of a table go by the names that their properties have for them. -/
theorem names_of_extract (ht : extract resolver d = .ok t) :
    List.Forall₂ (fun p c => c.name = p.columnName) d.columnProperties t.columns :=
  (mapM_eq_ok_iff.mp (extract_eq_ok_iff.mp ht).1).imp fun _ _ hc => (columnOf_spec hc).1

theorem columnNames_of_extract (ht : extract resolver d = .ok t) :
    t.columnNames = d.columnProperties.map (·.columnName) := by
  rw [Table.columnNames, ← List.forall₂_eq_eq_eq, List.forall₂_map_left_iff,
    List.forall₂_map_right_iff]
  exact (names_of_extract ht).flip

end Extracted

/-- A class that names its columns apart. -/
structure Declaration.NamesApart (d : Declaration) : Prop where
  /-- No name is given twice. -/
  given : ∀ p ∈ d.columnProperties, ∀ q ∈ d.columnProperties, ∀ name,
    p.givenName? = some name → q.givenName? = some name → p = q
  /-- No name is given that another column keeps. -/
  kept : ∀ p ∈ d.columnProperties, ∀ q ∈ d.columnProperties,
    p.givenName? = none → q.givenName? ≠ some (defaultColumnName p.name)
  /-- No name is kept both with and without the raw prefix. -/
  raw : ∀ p ∈ d.columnProperties, ∀ q ∈ d.columnProperties,
    p.givenName? = none → q.givenName? = none → ¬ IsRaw q.name → p.name ≠ "r#" ++ q.name

/-- Properties with names of their own have columns with names of their own exactly if the class
names them apart. -/
theorem nodup_columnNames_iff {resolver : Resolver} {d : Declaration} {t : Table}
    (hnames : (d.properties.map (·.name)).Nodup) (ht : extract resolver d = .ok t) :
    t.columnNames.Nodup ↔ d.NamesApart := by
  have hcolumns : (d.columnProperties.map (·.name)).Nodup :=
    hnames.sublist (List.filter_sublist.map _)
  have hsame : ∀ p ∈ d.columnProperties, ∀ q ∈ d.columnProperties, p.name = q.name → p = q :=
    List.inj_on_of_nodup_map hcolumns
  rw [columnNames_of_extract ht, List.nodup_map_iff_inj_on hcolumns.of_map]
  constructor
  · intro h
    constructor
    · intro p hp q hq name hgiven hgiven'
      refine h p hp q hq ?_
      rw [Property.columnName_of_given hgiven, Property.columnName_of_given hgiven']
    · intro p hp q hq hkept hgiven
      have heq : p = q := by
        refine h p hp q hq ?_
        rw [Property.columnName_of_kept hkept, Property.columnName_of_given hgiven]
      rw [← heq, hkept] at hgiven
      cases hgiven
    · intro p hp q hq hkept hkept' hraw hname
      have heq : p = q := by
        refine h p hp q hq ?_
        rw [Property.columnName_of_kept hkept, Property.columnName_of_kept hkept', hname,
          defaultColumnName_raw, defaultColumnName_of_not_isRaw hraw]
      exact ne_raw_self q.name (heq ▸ hname)
  · intro h p hp q hq hname
    cases hgiven : p.givenName? with
    | some name =>
        rw [Property.columnName_of_given hgiven] at hname
        cases hgiven' : q.givenName? with
        | some other =>
            rw [Property.columnName_of_given hgiven'] at hname
            exact h.given p hp q hq name hgiven (hname ▸ hgiven')
        | none =>
            rw [Property.columnName_of_kept hgiven'] at hname
            exact absurd (hname ▸ hgiven) (h.kept q hq p hp hgiven')
    | none =>
        rw [Property.columnName_of_kept hgiven] at hname
        cases hgiven' : q.givenName? with
        | some other =>
            rw [Property.columnName_of_given hgiven'] at hname
            exact absurd (hname ▸ hgiven') (h.kept p hp q hq hgiven)
        | none =>
            rw [Property.columnName_of_kept hgiven'] at hname
            -- Only here may the names of two properties differ and their columns be called the same
            -- without an annotation.
            rcases defaultColumnName_eq_iff.mp hname with heq | ⟨heq, hraw⟩ | ⟨heq, hraw⟩
            · exact hsame p hp q hq heq
            · exact absurd heq (h.raw p hp q hq hgiven hgiven' hraw)
            · exact absurd heq (h.raw q hq p hp hgiven' hgiven hraw)

end Rowsmith.Schema
