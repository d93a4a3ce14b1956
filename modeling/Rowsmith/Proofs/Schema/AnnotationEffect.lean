import Rowsmith.Schema.Extraction

/-!
# Effects of annotations

One annotation changes the marks of a column in one way, which is settled by the word that it goes
by: it gives a name, a length or a reference, or it sets a mark. Only a length that is none fails.
-/

namespace Rowsmith.Schema

namespace Annotation

/-- The words that annotations of properties go by. -/
def propertyWords : List String :=
  ["column_name", "unique", "column_unique", "primary_key", "varchar", "foreign_key"]

theorem canonicalName_of_mem : ∀ word ∈ propertyWords, canonicalName word = word := by decide

/-- An annotation that goes by a word goes by no other one. -/
theorem is_eq_false {a : Annotation} {word : String} (other : String) (h : a.is word = true)
    (hwords : word ∈ propertyWords ∧ other ∈ propertyWords ∧ word ≠ other) :
    a.is other = false := by
  obtain ⟨hword, hother, hne⟩ := hwords
  rw [is, beq_iff_eq, canonicalName_of_mem word hword] at h
  rw [is, h, canonicalName_of_mem other hother]
  exact beq_false_of_ne hne

/-- The column name that an annotation gives. -/
def columnName? (a : Annotation) : Option String :=
  if a.is "column_name" then (a.argument? "name" 0).map Argument.asText else none

/-- The argument of an annotation that is to give a length. -/
def lengthArgument? (a : Annotation) : Option Argument :=
  if a.is "varchar" then a.argument? "length" 0 else none

/-- The table and the field that an annotation refers to, if it gives both. -/
def reference? (a : Annotation) : Option (String × String) :=
  if a.is "foreign_key" then
    match a.argument? "table" 0, a.argument? "field" 1 with
    | some table, some field => some (table.asText, field.asText)
    | _, _ => none
  else none

/-- The argument of an annotation that is to give a length and gives none. -/
def badLength? (a : Annotation) : Option Argument :=
  a.lengthArgument?.filter fun argument => (lengthOf? argument).isNone

end Annotation

namespace Marks
open Annotation

/-- The marks of a column behind an annotation that does not fail. -/
def after (m : Marks) (a : Annotation) : Marks where
  name := a.columnName?.getD m.name
  isUnique := m.isUnique || (a.is "unique" || a.is "column_unique")
  isPrimaryKey := m.isPrimaryKey || a.is "primary_key"
  isForeignKey := m.isForeignKey || a.is "foreign_key"
  reference := a.reference?.or m.reference
  length := (a.lengthArgument?.bind lengthOf?).or m.length

section After

variable (m : Marks) (a : Annotation)

@[simp] theorem name_after : (m.after a).name = a.columnName?.getD m.name := by
  rw [after]

@[simp] theorem isUnique_after :
    (m.after a).isUnique = (m.isUnique || (a.is "unique" || a.is "column_unique")) := by
  rw [after]

@[simp] theorem isPrimaryKey_after :
    (m.after a).isPrimaryKey = (m.isPrimaryKey || a.is "primary_key") := by
  rw [after]

@[simp] theorem isForeignKey_after :
    (m.after a).isForeignKey = (m.isForeignKey || a.is "foreign_key") := by
  rw [after]

@[simp] theorem reference_after : (m.after a).reference = a.reference?.or m.reference := by
  rw [after]

@[simp] theorem length_after :
    (m.after a).length = (a.lengthArgument?.bind lengthOf?).or m.length := by
  rw [after]

end After

/-- The words of annotations exclude each other, so the branch that is taken settles what the others
would do. -/
theorem annotate_eq (property : String) (m : Marks) (a : Annotation) :
    m.annotate property a =
      match a.badLength? with
      | some argument => .error (.invalidLength property argument.asText)
      | none => .ok (m.after a) := by
  unfold annotate after badLength? columnName? lengthArgument? reference?
  split
  · next h =>
      have hunique := is_eq_false "unique" h (by decide)
      have hcolumn := is_eq_false "column_unique" h (by decide)
      have hkey := is_eq_false "primary_key" h (by decide)
      have hvarchar := is_eq_false "varchar" h (by decide)
      have hforeign := is_eq_false "foreign_key" h (by decide)
      cases hname : a.argument? "name" 0 <;> simp [*]
  split
  · next hname h =>
      have hothers : a.is "primary_key" = false ∧ a.is "varchar" = false ∧
          a.is "foreign_key" = false := by
        rcases Bool.or_eq_true_iff.mp h with h | h
        · exact ⟨is_eq_false _ h (by decide), is_eq_false _ h (by decide),
            is_eq_false _ h (by decide)⟩
        · exact ⟨is_eq_false _ h (by decide), is_eq_false _ h (by decide),
            is_eq_false _ h (by decide)⟩
      simp [*]
  split
  · next hname hunique h =>
      have hvarchar := is_eq_false "varchar" h (by decide)
      have hforeign := is_eq_false "foreign_key" h (by decide)
      simp [*]
  split
  · next hname hunique hkey h =>
      have hforeign := is_eq_false "foreign_key" h (by decide)
      cases hargument : a.argument? "length" 0 with
      | none => simp [*]
      | some argument => cases hlength : lengthOf? argument <;> simp [*, Option.filter]
  split
  · next hname hunique hkey hvarchar h =>
      cases htable : a.argument? "table" 0 with
      | none => simp [*]
      | some table => cases hfield : a.argument? "field" 1 <;> simp [*]
  · simp [*]

theorem annotate_eq_ok_iff {property : String} {m m' : Marks} {a : Annotation} :
    m.annotate property a = .ok m' ↔ a.badLength? = none ∧ m' = m.after a := by
  rw [annotate_eq]
  cases a.badLength? with
  | none => simp [eq_comm]
  | some argument => simp

end Marks

end Rowsmith.Schema
