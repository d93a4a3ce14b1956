import Mathlib.Data.List.Nodup
import Rowsmith.Accessor.Bridge
import Rowsmith.Proofs.Accessor.Column
import Rowsmith.Proofs.Schema.Extraction
import Rowsmith.Proofs.Text.Word

/-!
# Bridges of columns

The bridges of a table are those of its bridged columns, one pair for each type in the order of
their first columns. What a pair is called and what it goes between follow from the type alone,
since bridged columns of an extracted table are all held as texts.
-/

namespace Rowsmith.Schema

variable {c c' : Column}

/-- The names of bridges follow from the type and from what holds it. -/
theorem bridgeNames_eq (htype : c.baseType = c'.baseType)
    (hhost : c.columnType.hostType = c'.columnType.hostType) : c.bridgeNames = c'.bridgeNames := by
  have hfold : foldType c.propertyType = foldType c'.propertyType := by
    have hbase : (stripNullable c.propertyType).1 = (stripNullable c'.propertyType).1 := htype
    rw [foldType, foldType, hbase]
  rw [Column.bridgeNames, Column.bridgeNames, BridgeNames.between, BridgeNames.between, hfold,
    hhost]

/-- Bridged columns are held as texts. -/
theorem Column.Coherent.hostType (hc : c.Coherent) (hb : c.needsBridge = true) :
    c.columnType.hostType = "String" := by
  rcases hc.bridge_type hb with h | h
  · rw [h]
    rfl
  · rw [h]
    rfl

namespace Table

theorem firstOfEachType_sublist (seen : List String) (columns : List Column) :
    (firstOfEachType seen columns).Sublist columns := by
  induction columns generalizing seen with
  | nil => exact List.Sublist.slnil
  | cons c columns ih =>
      rw [firstOfEachType]
      split
      · exact (ih seen).cons c
      · exact (ih (c.baseType :: seen)).cons_cons c

/-- The first columns of types have these types, each once. -/
theorem firstOfEachType_baseTypes (seen : List String) (columns : List Column) :
    (firstOfEachType seen columns).map Column.baseType =
      ((columns.map Column.baseType).filter fun type => !seen.contains type).eraseDups := by
  induction columns generalizing seen with
  | nil => rfl
  | cons c columns ih =>
      rw [firstOfEachType, List.map_cons, List.filter_cons]
      cases hseen : seen.contains c.baseType with
      | true => simpa using ih seen
      | false =>
          have hfilter : ((columns.map Column.baseType).filter fun type =>
              !(c.baseType :: seen).contains type) =
              ((columns.map Column.baseType).filter fun type => !seen.contains type).filter
                fun type => !type == c.baseType := by
            rw [List.filter_filter]
            congr 1
            funext type
            rw [List.contains_cons, Bool.not_or]
          simp only [Bool.not_false, if_true, if_false, Bool.false_eq_true, List.map_cons,
            List.eraseDups_cons, ih, hfilter]

theorem mem_columns_of_mem_bridgedColumns {t : Table} (h : c ∈ t.bridgedColumns) :
    c ∈ t.columns ∧ c.needsBridge = true :=
  List.mem_filter.mp ((firstOfEachType_sublist [] _).subset h)

theorem bridgedColumns_baseTypes (t : Table) :
    t.bridgedColumns.map Column.baseType =
      ((t.columns.filter (·.needsBridge)).map Column.baseType).eraseDups := by
  rw [bridgedColumns, firstOfEachType_baseTypes]
  simp

/-- A bridged column has the type of one of the first columns of types. -/
theorem exists_bridgedColumn {t : Table} (hc : c ∈ t.columns) (hb : c.needsBridge = true) :
    ∃ first ∈ t.bridgedColumns, first.baseType = c.baseType := by
  have hmem : c.baseType ∈ t.bridgedColumns.map Column.baseType := by
    rw [bridgedColumns_baseTypes, List.mem_eraseDups]
    exact List.mem_map_of_mem (List.mem_filter.mpr ⟨hc, hb⟩)
  exact List.mem_map.mp hmem

end Table

end Rowsmith.Schema

namespace Rowsmith.Accessor
open Outcome Schema Source

/-- The names of the two methods of a pair. -/
def Bridge.names (b : Bridge) : List String := [b.toColumn, b.fromColumn]

section Claims

variable {className : String} {standing after : List (String × String)}

theorem lookup_eq_none_iff_notMem {name : String} :
    standing.lookup name = none ↔ name ∉ standing.map Prod.fst := by
  rw [List.lookup_eq_none_iff, List.mem_map, not_exists]
  refine forall_congr' fun claim => ?_
  rw [not_and, bne_iff_ne, ne_comm]

/-- One more claim stands beside others if its name is not yet claimed. -/
theorem nodup_claim_iff {name type : String} :
    ((standing ++ [(name, type)]).map Prod.fst).Nodup ↔
      (standing.map Prod.fst).Nodup ∧ standing.lookup name = none := by
  rw [lookup_eq_none_iff_notMem, List.map_append, List.map_singleton, ← List.concat_eq_append,
    List.nodup_concat, and_comm]

/-- Claims are added to those that stand, and no name is claimed twice. -/
theorem of_addClaims {claims : List (String × String)}
    (h : addClaims className standing claims = .ok after) :
    after = standing ++ claims ∧
      ((standing.map Prod.fst).Nodup → (after.map Prod.fst).Nodup) := by
  induction claims generalizing standing with
  | nil =>
      obtain rfl := pure_eq_ok_iff.mp h
      simp
  | cons claim claims ih =>
      obtain ⟨name, type⟩ := claim
      rw [addClaims] at h
      cases hlookup : standing.lookup name with
      | some first => rw [hlookup] at h; cases h
      | none =>
          rw [hlookup] at h
          obtain ⟨rfl, hnodup⟩ := ih h
          refine ⟨by simp, fun hstanding => hnodup ?_⟩
          exact nodup_claim_iff.mpr ⟨hstanding, hlookup⟩

end Claims

variable {className : String} {runtime : List Token} {t : Table} {c : Column} {bs : List Bridge}

end Rowsmith.Accessor
