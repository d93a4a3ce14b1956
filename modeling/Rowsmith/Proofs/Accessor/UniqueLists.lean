import Rowsmith.Proofs.Accessor.Agreement
import Rowsmith.Proofs.Schema.ColumnName

/-!
# Lists of columns that are unique together

A class lists columns by references to properties, and the text of its table takes the names over as
they are written. The list thus names the column of a property only where the column goes by a name
that also refers to the property: one that an annotation gives is not looked up.
-/

namespace Rowsmith.Schema
open Outcome

/-- The lists of columns that a class wants unique together; an empty one is passed over. -/
def Declaration.uniqueLists (d : Declaration) : List (List Argument) :=
  ((d.annotationsNamed "table_unique").map (·.positional)).filter (!·.isEmpty)

/-- An argument that refers to a property by its name, raw prefixes aside. -/
def Argument.RefersTo : Argument → Property → Prop
  | nameOf name, p => defaultColumnName name = defaultColumnName p.name
  | text _, _ | integer _, _ | expression _, _ => False

instance (argument : Argument) (p : Property) : Decidable (argument.RefersTo p) :=
  match argument with
  | .nameOf name => inferInstanceAs (Decidable (defaultColumnName name = defaultColumnName p.name))
  | .text _ | .integer _ | .expression _ => .isFalse id

/-- A property whose column goes by a name that refers to it: it is given that very name, or it
keeps its own and the name has no raw prefix. -/
def Property.GoesBy (p : Property) (name : String) : Prop :=
  p.givenName? = some name ∨ (p.givenName? = none ∧ ¬ IsRaw name)

instance (p : Property) (name : String) : Decidable (p.GoesBy name) :=
  inferInstanceAs (Decidable (p.givenName? = some name ∨ (p.givenName? = none ∧ ¬ IsRaw name)))

theorem Argument.RefersTo.columnName_eq_iff {argument : Argument} {p : Property}
    (h : argument.RefersTo p) : p.columnName = argument.asText ↔ p.GoesBy argument.asText := by
  cases argument with
  | nameOf name =>
      have hname : defaultColumnName name = defaultColumnName p.name := h
      show p.columnName = name ↔ p.GoesBy name
      cases hgiven : p.givenName? with
      | some given => simp [Property.columnName_of_given hgiven, Property.GoesBy, hgiven]
      | none =>
          rw [Property.columnName_of_kept hgiven, ← hname, defaultColumnName_eq_self_iff]
          simp [Property.GoesBy, hgiven]
  | text _ | integer _ | expression _ => exact h.elim

section Extracted

variable {resolver : Resolver} {d : Declaration} {t : Table}

theorem uniques_of_extract (ht : extract resolver d = .ok t) :
    t.uniques = d.uniqueLists.map (List.map Argument.asText) := by
  have huniques : t.uniques = tableUniques d :=
    congrArg Table.uniques (extract_eq_ok_iff.mp ht).2.2
  have hempty : (fun names : List String => !names.isEmpty) ∘ List.map Argument.asText =
      fun arguments => !arguments.isEmpty := by
    funext arguments
    cases arguments <;> rfl
  rw [huniques, Declaration.uniqueLists, ← hempty, ← List.filter_map, List.map_map]
  rfl

/-- A name is that of the column of a property that an argument refers to. -/
def Table.Resolves (t : Table) (d : Declaration) (argument : Argument) (name : String) : Prop :=
  ∃ p c, (p, c) ∈ d.columnProperties.zip t.columns ∧ argument.RefersTo p ∧ c.name = name

theorem Table.Resolves.mem {argument : Argument} {name : String}
    (h : t.Resolves d argument name) : name ∈ t.columnNames := by
  obtain ⟨p, c, hmem, -, rfl⟩ := h
  exact List.mem_map_of_mem (List.of_mem_zip hmem).2

/-- The text of an argument names the column it refers to where that column goes by it. -/
theorem resolves_asText_iff (ht : extract resolver d = .ok t) {argument : Argument} :
    t.Resolves d argument argument.asText ↔
      ∃ p ∈ d.columnProperties, argument.RefersTo p ∧ p.GoesBy argument.asText := by
  have hnames := names_of_extract ht
  have hname : ∀ {p c}, (p, c) ∈ d.columnProperties.zip t.columns → c.name = p.columnName :=
    fun hmem => List.forall₂_zip hnames hmem
  constructor
  · rintro ⟨p, c, hmem, hrefers, hc⟩
    rw [hname hmem] at hc
    exact ⟨p, (List.of_mem_zip hmem).1, hrefers, hrefers.columnName_eq_iff.mp hc⟩
  · rintro ⟨p, hp, hrefers, hgoes⟩
    obtain ⟨i, hi, rfl⟩ := List.getElem_of_mem hp
    have hic : i < t.columns.length := hnames.length_eq ▸ hi
    have hmem : (d.columnProperties[i], t.columns[i]) ∈ d.columnProperties.zip t.columns := by
      rw [List.mem_iff_getElem]
      exact ⟨i, by simp [hi, hic], by simp⟩
    refine ⟨_, _, hmem, hrefers, ?_⟩
    rw [hname hmem, hrefers.columnName_eq_iff]
    exact hgoes

end Extracted

end Rowsmith.Schema

namespace Rowsmith.Accessor
open Schema Sql

variable {resolver : Resolver} {d : Declaration} {t : Table}

/-- The table of a class is created with one list for each that the class has, and the lists name
the columns of the properties they refer to exactly if each of these columns goes by the name that
stands in the list. -/
theorem uniques_resolve_iff (ht : extract resolver d = .ok t) :
    (∀ ifAbsent, (t.createStatement ifAbsent).text =
      createText ifAbsent t.name
        (t.columns.map (·.definition.text) ++ t.uniques.map uniqueText)) ∧
    (List.Forall₂ (List.Forall₂ (t.Resolves d)) d.uniqueLists t.uniques ↔
      ∀ arguments ∈ d.uniqueLists, ∀ argument ∈ arguments,
        ∃ p ∈ d.columnProperties, argument.RefersTo p ∧ p.GoesBy argument.asText) := by
  refine ⟨createStatement_text t, ?_⟩
  simp only [uniques_of_extract ht, List.forall₂_map_right_iff, List.forall₂_same,
    resolves_asText_iff ht]

/-- A class whose contacts are unique by kind and address. -/
def contact (annotations : List Annotation) : Declaration :=
  { name := "Contact"
    annotations := [{ name := "table_unique", positional := [.nameOf "type", .nameOf "email"] }]
    properties := [
      { name := "id", type := "i64", annotations := [{ name := "primary_key" }] },
      { name := "r#type", type := "i32" },
      { name := "email", type := "String", annotations }] }

/-- The table of the class, with the name of its last column. -/
def contactTable (name : String) : Table :=
  { name := "Contact"
    className := "Contact"
    key := { name := "id", propertyName := "id", propertyType := "i64", columnType := .bigInt
             isPrimaryKey := true }
    columns := [
      { name := "id", propertyName := "id", propertyType := "i64", columnType := .bigInt
        isPrimaryKey := true },
      { name := "type", propertyName := "r#type", propertyType := "i32", columnType := .integer },
      { name, propertyName := "email", propertyType := "String", columnType := .text }]
    uniques := [["type", "email"]] }

theorem uniques_resolve_contact :
    extract plainResolver (contact []) = .ok (contactTable "email") ∧
      List.Forall₂ (List.Forall₂ ((contactTable "email").Resolves (contact [])))
        (contact []).uniqueLists (contactTable "email").uniques := by
  have ht : extract plainResolver (contact []) = .ok (contactTable "email") := by decide +kernel
  exact ⟨ht, (uniques_resolve_iff ht).2.mpr (by decide +kernel)⟩

/-- A name that is given to the column of an address is not looked up: the list then has a name that
is none of a column. -/
theorem not_uniques_resolve_contact :
    let renamed := contact [{ name := "column_name", positional := [.text "mail"] }]
    extract plainResolver renamed = .ok (contactTable "mail") ∧
      (∀ arguments ∈ renamed.uniqueLists, ∀ argument ∈ arguments,
        ∃ p ∈ renamed.columnProperties, argument.RefersTo p) ∧
      ((contactTable "mail").createStatement false).text =
        "CREATE TABLE Contact (\n    id BIGINT PRIMARY KEY,\n    type INTEGER NOT NULL,\n" ++
          "    mail TEXT NOT NULL,\n    UNIQUE (type, email)\n);" ∧
      "email" ∉ (contactTable "mail").columnNames ∧
      ¬ List.Forall₂ (List.Forall₂ ((contactTable "mail").Resolves renamed))
        renamed.uniqueLists (contactTable "mail").uniques := by
  have hname : "email" ∉ (contactTable "mail").columnNames := by decide
  refine ⟨by decide +kernel, by decide +kernel, by decide +kernel, hname, fun h => ?_⟩
  obtain ⟨arguments, -, hlist⟩ := Outcome.exists_of_mem_right h (List.mem_singleton_self _)
  obtain ⟨argument, -, hresolves⟩ := Outcome.exists_of_mem_right hlist
    (List.mem_cons_of_mem _ (List.mem_singleton_self "email"))
  exact hname hresolves.mem

end Rowsmith.Accessor
