import Rowsmith.Proofs.Accessor.Bridge
import Rowsmith.Proofs.Accessor.References
import Rowsmith.Proofs.Schema.Representation

/-!
# Nullability

A property is made nullable by a marker on its type or by its flag. Whatever looks at a type text
drops its marker first, so the columns of a table and of the one with nullable properties are alike
in all but their type text and whether they are nullable. Statements are made of what is left, apart
from the clause that forbids a column to be null.
-/

namespace Rowsmith.Sql

/-- The text of the clause that forbids a column to be null. -/
def requiredText (required : Bool) : String := if required then " NOT NULL" else ""

/-- The text of a column definition whose clause against null is there or not. -/
def ColumnDefinition.textWith (c : ColumnDefinition) (required : Bool) : String :=
  { c with isRequired := false, references := none }.text ++ requiredText required ++
    referenceText c.references

theorem ColumnDefinition.text_eq_textWith (c : ColumnDefinition) :
    c.text = c.textWith c.isRequired := by
  have hrequired : { c with references := none }.text =
      { c with isRequired := false, references := none }.text ++ requiredText c.isRequired := by
    cases hr : c.isRequired with
    | false =>
        show _ = _ ++ ""
        rw [String.append_empty, ← hr]
    | true =>
        have hclauses : { c with isRequired := true, references := none }.clauses =
            { c with isRequired := false, references := none }.clauses ++ ["NOT NULL"] := by
          simp [clauses]
        exact text_of_clauses hclauses rfl
  rw [text_eq, textWith, hrequired]

end Rowsmith.Sql

namespace Rowsmith.Schema
open Outcome Sql Text

/-- A type text that marks another one as nullable, blanks aside. -/
def IsNullableOf (type text : String) : Prop :=
  text.toList.filter (!isBlank ·) = type.toList.filter (!isBlank ·) ++ ['?'] ∨
    ∃ root ∈ [[], [':', ':']], ∃ opening ∈ nullableOpenings,
      text.toList.filter (!isBlank ·) =
        root ++ opening.toList ++ type.toList.filter (!isBlank ·) ++ ['>']

instance (type text : String) : Decidable (IsNullableOf type text) :=
  inferInstanceAs (Decidable (_ ∨ ∃ root ∈ _, ∃ opening ∈ _, _))

theorem stripNullable_of_not_hasMarker {text : String} (h : ¬ HasMarker text) :
    stripNullable text = (String.ofList (text.toList.filter (!isBlank ·)), false) := by
  unfold stripNullable
  generalize hbare : text.toList.filter (!isBlank ·) = bare
  cases hend : dropEnd? ['?'] bare with
  | some inner => exact absurd ⟨inner, Or.inl (hbare.trans (dropEnd?_eq_some_iff.mp hend))⟩ h
  | none =>
      cases hfound : nullableOpenings.findSome?
          (enclosed? ((dropStart? [':', ':'] bare).getD bare)) with
      | none => simp only [hend, hfound]
      | some inner =>
          obtain ⟨opening, hopening, hinner⟩ := List.exists_of_findSome?_eq_some hfound
          have hunrooted := enclosed?_eq_some_iff.mp hinner
          have hmarked : HasMarker text := by
            refine ⟨inner, Or.inr ?_⟩
            cases hroot : dropStart? [':', ':'] bare with
            | none =>
                rw [hroot] at hunrooted
                exact ⟨[], by decide, opening, hopening, hbare.trans hunrooted⟩
            | some rest =>
                rw [hroot] at hunrooted
                refine ⟨[':', ':'], by decide, opening, hopening, hbare.trans ?_⟩
                rw [dropStart?_eq_some_iff.mp hroot]
                exact congrArg _ hunrooted
          exact absurd hmarked h

/-- The type behind a marker is the one that was marked. -/
theorem stripNullable_of_isNullableOf {type text : String} (hplain : ¬ HasMarker type)
    (h : IsNullableOf type text) : stripNullable text = ((stripNullable type).1, true) := by
  rw [stripNullable_of_not_hasMarker hplain]
  exact stripNullable_of_marked h

theorem hasMarker_iff {text : String} : HasMarker text ↔ (stripNullable text).2 = true := by
  constructor
  · exact stripNullable_of_hasMarker
  · intro h
    by_contra hplain
    rw [stripNullable_of_not_hasMarker hplain] at h
    cases h

instance (text : String) : Decidable (HasMarker text) := decidable_of_iff _ hasMarker_iff.symm

/-- What is done to a property: nothing, its type text is replaced, or it is flagged as nullable. -/
inductive Loosening
  | keep
  | mark (text : String)
  | flag
  deriving DecidableEq, Repr

namespace Loosening

/-- Marks are put on the property's type text, if it has none. -/
def Applies : Loosening → Property → Prop
  | keep, _ | flag, _ => True
  | mark text, p => ¬ HasMarker p.type ∧ IsNullableOf p.type text

instance : ∀ (l : Loosening) (p : Property), Decidable (l.Applies p)
  | keep, _ | flag, _ => inferInstanceAs (Decidable True)
  | mark _, _ => inferInstanceAs (Decidable (_ ∧ _))

/-- The property that comes of it. -/
def onProperty : Loosening → Property → Property
  | keep, p => p
  | mark text, p => { p with type := text }
  | flag, p => { p with nullable := true }

/-- The column that comes of it. -/
def onColumn : Loosening → Column → Column
  | keep, c => c
  | mark text, c => { c with propertyType := text, isNullable := true }
  | flag, c => { c with isNullable := true }

variable {l : Loosening} {p : Property}

@[simp] theorem isColumn_onProperty (l : Loosening) (p : Property) :
    (l.onProperty p).isColumn = p.isColumn := by
  cases l <;> rfl

@[simp] theorem name_onProperty (l : Loosening) (p : Property) : (l.onProperty p).name = p.name := by
  cases l <;> rfl

/-- A property that is made nullable has the column of before, made nullable. -/
theorem columnWith_onProperty (h : l.Applies p) (resolver : Resolver) (m : Marks) :
    columnWith resolver (l.onProperty p) m = l.onColumn (columnWith resolver p m) := by
  cases l with
  | keep => rfl
  | mark text =>
      have hstrip := stripNullable_of_isNullableOf h.1 h.2
      simp only [columnWith, onProperty, onColumn, hstrip, Bool.or_true, Bool.true_or]
  | flag => simp only [columnWith, onProperty, onColumn, Bool.true_or]

theorem columnOf_onProperty (h : l.Applies p) {resolver : Resolver} {c : Column}
    (hc : columnOf resolver p = .ok c) :
    columnOf resolver (l.onProperty p) = .ok (l.onColumn c) := by
  obtain ⟨m, hm, hcolumn⟩ := bind_eq_ok_iff.mp hc
  obtain rfl := pure_eq_ok_iff.mp hcolumn
  have hmarks : marksOf (l.onProperty p) = marksOf p := by
    cases l <;> rfl
  rw [columnOf, hmarks, hm, ok_bind, columnWith_onProperty h]
  rfl

/-- What is done to the properties that columns hold. -/
def ofColumns (loosenings : List Loosening) (properties : List Property) : List Loosening :=
  ((loosenings.zip properties).filter (·.2.isColumn)).map Prod.fst

end Loosening

/-- Columns that differ in their type text and in whether they are nullable at most. -/
structure Column.Alike (c c' : Column) : Prop where
  same : c' = { c with propertyType := c'.propertyType, isNullable := c'.isNullable }
  baseType : c'.baseType = c.baseType
  bridgeNames : c'.bridgeNames = c.bridgeNames

namespace Column.Alike

variable {c c' : Column}

theorem name (h : c.Alike c') : c'.name = c.name := by
  rw [h.same]

theorem isPrimaryKey (h : c.Alike c') : c'.isPrimaryKey = c.isPrimaryKey := by
  rw [h.same]

theorem needsBridge (h : c.Alike c') : c'.needsBridge = c.needsBridge := by
  rw [h.same]

end Column.Alike

theorem alike_onColumn {l : Loosening} {p : Property} {c : Column} (h : l.Applies p)
    (htype : c.propertyType = p.type) : c.Alike (l.onColumn c) := by
  have hbase : (l.onColumn c).baseType = c.baseType := by
    cases l with
    | keep | flag => rfl
    | mark text =>
        have hstrip := congrArg Prod.fst (stripNullable_of_isNullableOf h.1 h.2)
        rw [Column.baseType, Column.baseType, htype]
        exact hstrip
  have hhost : (l.onColumn c).columnType = c.columnType := by
    cases l <;> rfl
  refine ⟨?_, hbase, bridgeNames_eq hbase (congrArg _ hhost)⟩
  cases l <;> rfl

section Columns

variable {columns columns' : List Column}

/-- Alike columns are grouped by their types in the same way. -/
theorem firstOfEachType_alike (h : List.Forall₂ Column.Alike columns columns')
    (seen : List String) :
    List.Forall₂ Column.Alike (Table.firstOfEachType seen columns)
      (Table.firstOfEachType seen columns') := by
  induction h generalizing seen with
  | nil => exact .nil
  | @cons c c' columns columns' hc _ ih =>
      rw [Table.firstOfEachType, Table.firstOfEachType, hc.baseType]
      split
      · exact ih seen
      · exact .cons hc (ih (c.baseType :: seen))

theorem filter_alike {keep : Column → Bool} (h : List.Forall₂ Column.Alike columns columns')
    (hkeep : ∀ c c', c.Alike c' → keep c' = keep c) :
    List.Forall₂ Column.Alike (columns.filter keep) (columns'.filter keep) :=
  List.rel_filter (fun c c' hc => (iff_of_eq (congrArg (· = true) (hkeep c c' hc))).symm) h

theorem map_name_alike (h : List.Forall₂ Column.Alike columns columns') :
    columns'.map (·.name) = columns.map (·.name) := by
  induction h with
  | nil => rfl
  | cons hc _ ih => rw [List.map_cons, List.map_cons, hc.name, ih]

end Columns

/-- What is done to properties is done to their columns. -/
theorem mapM_onProperty {resolver : Resolver} {loosenings : List Loosening}
    {properties : List Property} (h : List.Forall₂ Loosening.Applies loosenings properties)
    {columns : List Column}
    (hcolumns : (properties.filter (·.isColumn)).mapM (columnOf resolver) = .ok columns) :
    ((List.zipWith Loosening.onProperty loosenings properties).filter (·.isColumn)).mapM
        (columnOf resolver) =
      .ok (List.zipWith Loosening.onColumn (Loosening.ofColumns loosenings properties) columns) ∧
    List.Forall₂ (fun l c => c.Alike (l.onColumn c)) (Loosening.ofColumns loosenings properties)
      columns := by
  induction h generalizing columns with
  | nil =>
      obtain rfl := pure_eq_ok_iff.mp hcolumns
      exact ⟨rfl, .nil⟩
  | @cons l p loosenings properties hl _ ih =>
      rw [List.filter_cons] at hcolumns
      rw [List.zipWith_cons_cons, List.filter_cons, Loosening.isColumn_onProperty,
        Loosening.ofColumns, List.zip_cons_cons, List.filter_cons]
      cases hp : p.isColumn with
      | false =>
          rw [hp, if_neg Bool.false_ne_true] at hcolumns
          exact ih hcolumns
      | true =>
          rw [hp, if_pos rfl, List.mapM_cons] at hcolumns
          obtain ⟨c, hc, htail⟩ := bind_eq_ok_iff.mp hcolumns
          obtain ⟨rest, hrest, hcons⟩ := bind_eq_ok_iff.mp htail
          obtain rfl := pure_eq_ok_iff.mp hcons
          obtain ⟨hmade, halike⟩ := ih hrest
          refine ⟨?_, .cons (alike_onColumn hl (represents_of_columnOf hc).type) halike⟩
          rw [if_pos rfl, List.mapM_cons, Loosening.columnOf_onProperty hl hc, ok_bind, hmade]
          rfl

theorem forall₂_zipWith_onColumn {loosenings : List Loosening} {columns : List Column}
    (h : List.Forall₂ (fun l c => c.Alike (l.onColumn c)) loosenings columns) :
    List.Forall₂ Column.Alike columns (List.zipWith Loosening.onColumn loosenings columns) := by
  induction h with
  | nil => exact .nil
  | cons hc _ ih => exact .cons hc ih

/-- The text that creates a table, with the clause against null in the columns that are told. -/
def Table.createTextWith (t : Table) (ifAbsent : Bool) (required : List Bool) : String :=
  createText ifAbsent t.name
    (List.zipWith (fun c required => c.definition.textWith required) t.columns required ++
      t.uniques.map uniqueText)

/-- A table like another one in all but the type texts of some columns and whether they are
nullable. -/
structure Table.LoosenedBy (loosenings : List Loosening) (t t' : Table) : Prop where
  same : t' = { t with key := t'.key, columns := t'.columns }
  length : loosenings.length = t.columns.length
  columns : t'.columns = List.zipWith Loosening.onColumn loosenings t.columns
  key : t'.columns.filter (·.isPrimaryKey) = [t'.key]
  alike : List.Forall₂ Column.Alike t.columns t'.columns
  grouped : List.Forall₂ Column.Alike t.bridgedColumns t'.bridgedColumns
  /-- Statements on rows keep their text. -/
  statement : ∀ operation ∉ [Operation.createTable, .createTableIfNotExists],
    (t'.statement operation).text = (t.statement operation).text
  /-- The table is created with the same text but for the clause against null of other columns than
  the key. -/
  created : ∀ ifAbsent,
    (t.createStatement ifAbsent).text =
      t.createTextWith ifAbsent (t.columns.map fun c => !c.isPrimaryKey && !c.isNullable) ∧
    (t'.createStatement ifAbsent).text =
      t.createTextWith ifAbsent
        (List.zipWith (fun l c => l == .keep && (!c.isPrimaryKey && !c.isNullable)) loosenings
          t.columns)

section Tables

variable {t t' : Table}

/-- The lines of columns differ by the clause against null. -/
theorem definitions_loosened {loosenings : List Loosening} {columns : List Column}
    (h : List.Forall₂ (fun l c => c.Alike (l.onColumn c)) loosenings columns) :
    (List.zipWith Loosening.onColumn loosenings columns).map (·.definition.text) =
      List.zipWith (fun c required => c.definition.textWith required) columns
        (List.zipWith (fun l c => l == .keep && (!c.isPrimaryKey && !c.isNullable)) loosenings
          columns) := by
  induction h with
  | nil => rfl
  | @cons l c loosenings columns _ _ ih =>
      have htext : (l.onColumn c).definition.text = c.definition.textWith
          (l == .keep && (!c.isPrimaryKey && !c.isNullable)) := by
        rw [ColumnDefinition.text_eq_textWith]
        cases l with
        | keep => rfl
        | mark text | flag =>
            have hfree : (!c.isPrimaryKey && !true) = false := Bool.and_false _
            show c.definition.textWith (!c.isPrimaryKey && !true) = c.definition.textWith false
            rw [hfree]
      simp only [List.zipWith_cons_cons, List.map_cons, htext, ih]

theorem otherNames_alike (h : List.Forall₂ Column.Alike t.columns t'.columns) :
    t'.otherNames = t.otherNames :=
  map_name_alike (filter_alike h fun c c' hc => by rw [hc.isPrimaryKey])

/-- The one column that is marked as the key has one that is like it. -/
theorem exists_key_alike {columns columns' : List Column} {key : Column}
    (h : List.Forall₂ Column.Alike columns columns')
    (hkey : columns.filter (·.isPrimaryKey) = [key]) :
    ∃ key', columns'.filter (·.isPrimaryKey) = [key'] ∧ key.Alike key' := by
  have hkeys := filter_alike h fun c c' hc => hc.isPrimaryKey
  rw [hkey, List.forall₂_cons_left_iff] at hkeys
  obtain ⟨key', rest, halike, hrest, hkeys⟩ := hkeys
  rw [List.forall₂_nil_left_iff.mp hrest] at hkeys
  exact ⟨key', hkeys, halike⟩

theorem key_alike (h : List.Forall₂ Column.Alike t.columns t'.columns)
    (hkey : t.columns.filter (·.isPrimaryKey) = [t.key])
    (hkey' : t'.columns.filter (·.isPrimaryKey) = [t'.key]) : t.key.Alike t'.key := by
  obtain ⟨key, hkeys, halike⟩ := exists_key_alike h hkey
  rw [hkey', List.singleton_inj] at hkeys
  exact hkeys ▸ halike

/-- Statements on rows look at the names of columns alone. -/
theorem statement_alike (hname : t'.name = t.name) (hkey : t.key.Alike t'.key)
    (h : List.Forall₂ Column.Alike t.columns t'.columns) {operation : Operation}
    (hrows : operation ∉ [Operation.createTable, .createTableIfNotExists]) :
    t'.statement operation = t.statement operation := by
  have hnames : t'.columnNames = t.columnNames := map_name_alike h
  have hothers := otherNames_alike h
  cases operation with
  | createTable | createTableIfNotExists => simp at hrows
  | insert => simp only [Table.statement, Table.insertStatement, hname, hnames]
  | upsert => simp only [Table.statement, Table.upsertStatement, hname, hnames, hothers, hkey.name]
  | update => simp only [Table.statement, Table.updateStatement, hname, hothers, hkey.name]
  | delete => simp only [Table.statement, Table.deleteStatement, hname, hkey.name]
  | find => simp only [Table.statement, Table.findStatement, hname, hkey.name]

/-- The text that creates a table forbids other columns than the key to be null. -/
theorem created_text (t : Table) (ifAbsent : Bool) :
    (t.createStatement ifAbsent).text =
      t.createTextWith ifAbsent (t.columns.map fun c => !c.isPrimaryKey && !c.isNullable) := by
  have hlines : t.columns.map (·.definition.text) =
      List.zipWith (fun c required => c.definition.textWith required) t.columns
        (t.columns.map fun c => !c.isPrimaryKey && !c.isNullable) := by
    rw [List.zipWith_map_right, List.zipWith_self]
    exact List.map_congr_left fun c _ => ColumnDefinition.text_eq_textWith _
  rw [createStatement_text, hlines, Table.createTextWith]

end Tables

/-- A table whose columns are made nullable is like the one of before. -/
theorem loosenedBy_of_columns {loosenings : List Loosening} {t t' : Table}
    (h : List.Forall₂ (fun l c => c.Alike (l.onColumn c)) loosenings t.columns)
    (hkey : t.columns.filter (·.isPrimaryKey) = [t.key])
    (same : t' = { t with key := t'.key, columns := t'.columns })
    (columns : t'.columns = List.zipWith Loosening.onColumn loosenings t.columns)
    (key : t'.columns.filter (·.isPrimaryKey) = [t'.key]) : t.LoosenedBy loosenings t' := by
  have hname : t'.name = t.name := by rw [same]
  have huniques : t'.uniques = t.uniques := by rw [same]
  have halike : List.Forall₂ Column.Alike t.columns t'.columns := by
    rw [columns]
    exact forall₂_zipWith_onColumn h
  refine ⟨same, h.length_eq, columns, key, halike, ?_, fun operation hrows => ?_,
    fun ifAbsent => ⟨created_text t ifAbsent, ?_⟩⟩
  · exact firstOfEachType_alike (filter_alike halike fun c c' hc => hc.needsBridge) []
  · rw [statement_alike hname (key_alike halike hkey key) halike hrows]
  · rw [createStatement_text, columns, definitions_loosened h, hname, huniques]
    rfl

theorem skipped_onProperty {loosenings : List Loosening} {properties : List Property}
    (h : List.Forall₂ Loosening.Applies loosenings properties) :
    ((List.zipWith Loosening.onProperty loosenings properties).filter (!·.isColumn)).map (·.name) =
      (properties.filter (!·.isColumn)).map (·.name) := by
  induction h with
  | nil => rfl
  | @cons l p loosenings properties _ _ ih => cases hp : p.isColumn <;> simp [hp, ih]

/-- A class whose properties are made nullable has the table of before, whose columns differ in
their type texts and in being nullable, and in nothing that is derived from them. -/
theorem extract_loosened {resolver : Resolver} {d : Declaration} {t : Table}
    (ht : extract resolver d = .ok t) {loosenings : List Loosening}
    (h : List.Forall₂ Loosening.Applies loosenings d.properties) :
    ∃ t', extract resolver
        { d with properties := List.zipWith Loosening.onProperty loosenings d.properties } =
          .ok t' ∧
      t.LoosenedBy (Loosening.ofColumns loosenings d.properties) t' := by
  obtain ⟨hcolumns, hkey, htable⟩ := extract_eq_ok_iff.mp ht
  obtain ⟨hmade, hloosened⟩ := mapM_onProperty h hcolumns
  obtain ⟨key, hkey', -⟩ := exists_key_alike (forall₂_zipWith_onColumn hloosened) hkey
  let columns :=
    List.zipWith Loosening.onColumn (Loosening.ofColumns loosenings d.properties) t.columns
  have hrest := congrArg (fun s : Table => { s with key, columns }) htable
  refine ⟨{ t with key, columns }, extract_eq_ok_iff.mpr ⟨hmade, hkey', ?_⟩,
    loosenedBy_of_columns hloosened hkey rfl rfl hkey'⟩
  rw [skipped_onProperty h]
  exact hrest

/-- What is done to the properties of a member. -/
def memberLoosenings : List Loosening :=
  [.mark "::std::option::Option< Status >", .flag, .keep, .mark "Address ?", .keep, .mark "Badge?"]

/-- A member whose status and home may be missing. -/
theorem extract_member_loosened :
    ∃ t', extract memberResolver { member with
        properties := List.zipWith Loosening.onProperty memberLoosenings member.properties } =
          .ok t' ∧
      memberTable.LoosenedBy (memberLoosenings.take 5) t' := by
  have happlies : List.Forall₂ Loosening.Applies memberLoosenings member.properties := by
    simp only [memberLoosenings, member, List.forall₂_cons, List.forall₂_nil_left_iff]
    decide
  exact extract_loosened extract_member happlies

end Rowsmith.Schema
