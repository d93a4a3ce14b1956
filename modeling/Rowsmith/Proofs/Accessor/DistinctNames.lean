import Rowsmith.Derive.Class
import Rowsmith.Proofs.Accessor.Agreement
import Rowsmith.Proofs.Schema.ColumnName
import Rowsmith.Proofs.Sql.Store

/-!
# Distinct columns and parameters

Nothing looks at the names that annotations give to columns, so a class may have two columns of one
name. Its statements then define a column twice, and its methods bind two parameters under one name;
otherwise none does.
-/

namespace Rowsmith.Accessor
open Derive Outcome Schema Source Sql

variable {resolver : Resolver} {d : Declaration} {t : Table}

/-- The columns that a creating statement defines are those of its table. -/
theorem columnNames_createStatement (t : Table) (ifAbsent : Bool) :
    (t.createStatement ifAbsent).columnNames = t.columnNames := by
  show (t.columns.map Column.definition).map (·.name) = t.columns.map (·.name)
  rw [List.map_map]
  rfl

/-- The methods of a table bind no parameter twice exactly if its columns have names of their own:
those that write bind all columns, and the others at most the key. -/
theorem nodup_parameters_iff {ms : List Method} (hm : methods t = .ok ms) :
    (∀ m ∈ ms, (m.body.bound.map (·.2.parameter)).Nodup) ↔ t.columnNames.Nodup := by
  have hserves := (methods_serve hm).2
  have hparameters : (t.columnNames.map parameterName).Nodup ↔ t.columnNames.Nodup :=
    List.nodup_map_iff parameterName_injective
  constructor
  · intro h
    obtain ⟨m, hmem, ho⟩ := exists_method hm .insert
    rw [← hparameters, ← (hserves m hmem).parameters_write (by simp [ho])]
    exact h m hmem
  · intro h m hmem
    have hs := hserves m hmem
    have hwrite : m.operation ∈ [.insert, .upsert, .update] →
        (m.body.bound.map (·.2.parameter)).Nodup := by
      intro ho
      rw [hs.parameters_write ho]
      exact hparameters.mpr h
    have hkey : m.operation ∈ [.delete, .find] → (m.body.bound.map (·.2.parameter)).Nodup := by
      intro ho
      rw [hs.bound_key ho]
      exact List.nodup_singleton _
    cases ho : m.operation with
    | createTable | createTableIfNotExists => simp [hs.bound_create (by simp [ho])]
    | insert | upsert | update => exact hwrite (by simp [ho])
    | delete | find => exact hkey (by simp [ho])

/-- A class whose properties have names of their own has columns of their own names, and so defines
no column and binds no parameter twice, exactly if it names its columns apart. -/
theorem names_distinct_iff (hnames : (d.properties.map (·.name)).Nodup)
    (ht : extract resolver d = .ok t) {visibility : String} {runtime : List Token}
    {u : GeneratedUnit} (hu : GeneratedUnit.ofTable t visibility runtime = .ok u) :
    (t.columnNames.Nodup ↔ d.NamesApart) ∧
    (∀ m ∈ u.methods, m.operation ∈ [.createTable, .createTableIfNotExists] →
      (m.statement.columnNames.Nodup ↔ d.NamesApart)) ∧
    ((∀ m ∈ u.methods, (m.body.bound.map (·.2.parameter)).Nodup) ↔ d.NamesApart) := by
  have hcolumns := nodup_columnNames_iff hnames ht
  have hm := (methods_of_ofTable hu).1
  refine ⟨hcolumns, fun m hmem ho => ?_, (nodup_parameters_iff hm).trans hcolumns⟩
  rw [((methods_serve hm).2 m hmem).statement]
  simp only [List.mem_cons, List.not_mem_nil, or_false] at ho
  rcases ho with ho | ho
  · rw [ho, ← hcolumns, ← columnNames_createStatement t false]
    rfl
  · rw [ho, ← hcolumns, ← columnNames_createStatement t true]
    rfl

/-- A class with an address that has the same name as its column, and another address whose column
is given a name. -/
def lodger (name : String) : Declaration :=
  { name := "Lodger"
    properties := [
      { name := "id", type := "i64", annotations := [{ name := "primary_key" }] },
      { name := "address", type := "String" },
      { name := "home", type := "String"
        annotations := [{ name := "column_name", positional := [.text name] }] }] }

/-- The table of the class. -/
def lodgerTable (name : String) : Table :=
  { name := "Lodger"
    className := "Lodger"
    key := { name := "id", propertyName := "id", propertyType := "i64", columnType := .bigInt
             isPrimaryKey := true }
    columns := [
      { name := "id", propertyName := "id", propertyType := "i64", columnType := .bigInt
        isPrimaryKey := true },
      { name := "address", propertyName := "address", propertyType := "String"
        columnType := .text },
      { name, propertyName := "home", propertyType := "String", columnType := .text }] }

set_option maxRecDepth 100000 in
theorem names_distinct_lodger :
    ∃ u, extract plainResolver (lodger "home_address") = .ok (lodgerTable "home_address") ∧
      GeneratedUnit.ofTable (lodgerTable "home_address") "pub" defaultRuntime = .ok u ∧
      (lodger "home_address").NamesApart ∧
      ∀ m ∈ u.methods, (m.body.bound.map (·.2.parameter)).Nodup := by
  have ht : extract plainResolver (lodger "home_address") = .ok (lodgerTable "home_address") := by
    decide +kernel
  obtain ⟨u, hu⟩ : Succeeds (GeneratedUnit.ofTable (lodgerTable "home_address") "pub"
      defaultRuntime) := by
    decide +kernel
  obtain ⟨hcolumns, -, hparameters⟩ := names_distinct_iff (by decide) ht hu
  have hapart := hcolumns.mp (by decide)
  exact ⟨u, ht, hu, hapart, hparameters.mpr hapart⟩

set_option maxRecDepth 100000 in
/-- Where the name that is given is the one that another column keeps, the table is created with two
columns of that name, and a row is inserted with two parameters of one name. -/
theorem not_names_distinct_lodger :
    ∃ u, ((lodger "address").properties.map (·.name)).Nodup ∧
      extract plainResolver (lodger "address") = .ok (lodgerTable "address") ∧
      GeneratedUnit.ofTable (lodgerTable "address") "pub" defaultRuntime = .ok u ∧
      ¬ (lodgerTable "address").columnNames.Nodup ∧
      ((lodgerTable "address").createStatement false).text =
        "CREATE TABLE Lodger (\n    id BIGINT PRIMARY KEY,\n    address TEXT NOT NULL,\n" ++
          "    address TEXT NOT NULL\n);" ∧
      ∃ m ∈ u.methods, m.body.bound.map (·.2.parameter) = ["@id", "@address", "@address"] := by
  obtain ⟨u, hu⟩ : Succeeds (GeneratedUnit.ofTable (lodgerTable "address") "pub"
      defaultRuntime) := by
    decide +kernel
  have hm := (methods_of_ofTable hu).1
  obtain ⟨m, hmem, ho⟩ := exists_method hm .insert
  refine ⟨u, by decide, by decide +kernel, hu, by decide, by decide +kernel, m, hmem, ?_⟩
  rw [((methods_serve hm).2 m hmem).parameters_write (by simp [ho])]
  decide

end Rowsmith.Accessor
