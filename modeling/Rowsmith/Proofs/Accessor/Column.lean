import Rowsmith.Accessor.Run
import Rowsmith.Proofs.Outcome

/-!
# Bindings and readings of columns

The binding and the reading of a column follow from the column alone, but for the
identifiers and types that its texts are read as. Readings carry the positions of
their columns as ordinals.
-/

namespace Rowsmith.Accessor
open Outcome Schema Source Sql Value

variable {className : String} {c : Column}

/-- The binding that a column has, if it has one. -/
def bindingFor (c : Column) : Binding :=
  { parameter := parameterName c.name
    form :=
      if c.isEnum then .discriminant (Width.discriminantType c.enumWidth)
      else if c.needsBridge then .bridge c.bridgeTo
      else .plain
    isOptional := c.isOptional }

/-- How the value of a column is taken from it, by the form of the column. -/
inductive FormFor (className : String) (c : Column) : ReadingForm → Prop
  | discriminant {type} (he : c.isEnum = true) (ht : typeOf className c.baseType = .ok type) :
      FormFor className c
        (.discriminant (Width.discriminantType c.enumWidth) type c.baseType)
  | bridge (he : c.isEnum = false) (hb : c.needsBridge = true)
      (hm : isMethodName c.bridgeFrom = true) : FormFor className c (.bridge c.bridgeFrom)
  | narrowing {type} (he : c.isEnum = false) (hb : c.needsBridge = false)
      (ht : typeOf className c.baseType = .ok type) :
      FormFor className c
        (.narrowing type c.baseType (c.columnType = .timestamp && holdsInstant c))

/-- A reading as the column at an ordinal has it. -/
structure Reading.Reads (className : String) (ordinal : Nat) (c : Column) (r : Reading) :
    Prop where
  property : identifierOf className c.propertyName = .ok r.property
  ordinal : r.ordinal = ordinal
  getter : r.getter = c.columnType.getter
  form : FormFor className c r.form
  nullable : r.isNullable = c.isNullable
  optional : r.isOptional = c.isOptional

theorem methodOf_eq_ok_iff {name method : String} :
    methodOf name = .ok method ↔ method = name ∧ isMethodName name = true := by
  unfold methodOf
  split
  · next h => simp [h, eq_comm]
  · next h => simp [h]

/-- A column is bound exactly when the method it may need has a name. -/
theorem bindingOf_eq_ok_iff {b : Binding} :
    bindingOf c = .ok b ↔ b = bindingFor c ∧
      (c.isEnum = false → c.needsBridge = true → isMethodName c.bridgeTo = true) := by
  cases he : c.isEnum with
  | true =>
      simp only [bindingOf, bindingFor, he, if_true, pure_bind, pure_eq_ok_iff]
      exact ⟨fun h => ⟨h.symm, fun h => Bool.noConfusion h⟩, fun h => h.1.symm⟩
  | false =>
      cases hb : c.needsBridge with
      | true =>
          simp only [bindingOf, bindingFor, he, hb, if_true, if_false, Bool.false_eq_true,
            bind_eq_ok_iff, map_eq_ok_iff, methodOf_eq_ok_iff, pure_eq_ok_iff]
          constructor
          · rintro ⟨form, ⟨method, ⟨rfl, hm⟩, rfl⟩, rfl⟩
            exact ⟨rfl, fun _ _ => hm⟩
          · rintro ⟨rfl, hm⟩
            exact ⟨_, ⟨_, ⟨rfl, hm trivial trivial⟩, rfl⟩, rfl⟩
      | false =>
          simp only [bindingOf, bindingFor, he, hb, if_false, Bool.false_eq_true, pure_bind,
            pure_eq_ok_iff]
          exact ⟨fun h => ⟨h.symm, fun _ h => h.elim⟩, fun h => h.1.symm⟩

theorem readingForm_for {form : ReadingForm} (h : readingForm className c = .ok form) :
    FormFor className c form := by
  cases he : c.isEnum with
  | true =>
      simp only [readingForm, he, if_true, bind_eq_ok_iff, pure_eq_ok_iff] at h
      obtain ⟨type, ht, rfl⟩ := h
      exact .discriminant he ht
  | false =>
      cases hb : c.needsBridge with
      | true =>
          simp only [readingForm, he, hb, if_true, if_false, Bool.false_eq_true,
            bind_eq_ok_iff, methodOf_eq_ok_iff, pure_eq_ok_iff] at h
          obtain ⟨method, ⟨rfl, hm⟩, rfl⟩ := h
          exact .bridge he hb hm
      | false =>
          simp only [readingForm, he, hb, if_false, Bool.false_eq_true, bind_eq_ok_iff,
            pure_eq_ok_iff] at h
          obtain ⟨type, ht, rfl⟩ := h
          exact .narrowing he hb ht

theorem readingOf_reads {ordinal : Nat} {r : Reading}
    (h : readingOf className ordinal c = .ok r) : r.Reads className ordinal c := by
  obtain ⟨property, hp, h⟩ := bind_eq_ok_iff.mp h
  obtain ⟨form, hf, hr⟩ := bind_eq_ok_iff.mp h
  obtain rfl := pure_eq_ok_iff.mp hr
  exact ⟨hp, rfl, rfl, readingForm_for hf, rfl, rfl⟩

/-- The readings from an ordinal on are those of the columns with their positions. -/
theorem readingsFrom_reads {columns : List Column} {ordinal : Nat} {rs : List Reading}
    (h : readingsFrom className ordinal columns = .ok rs) :
    List.Forall₂ (fun p r => r.Reads className p.2 p.1) (columns.zipIdx ordinal) rs := by
  induction columns generalizing ordinal rs with
  | nil =>
      obtain rfl := pure_eq_ok_iff.mp h
      exact List.Forall₂.nil
  | cons c columns ih =>
      obtain ⟨r, hr, h⟩ := bind_eq_ok_iff.mp h
      obtain ⟨rest, hrest, hrs⟩ := bind_eq_ok_iff.mp h
      obtain rfl := pure_eq_ok_iff.mp hrs
      exact List.Forall₂.cons (readingOf_reads hr) (ih hrest)

/-- The readings of a row have the forms of the columns, in order. -/
theorem rowReadings_forall₂ {t : Table} {rs : List Reading} (h : rowReadings t = .ok rs) :
    List.Forall₂ (fun c r => FormFor t.className c r.form) t.columns rs := by
  have hcolumns : t.columns.zipIdx.map Prod.fst = t.columns := List.zipIdx_map_fst 0 t.columns
  rw [← hcolumns, List.forall₂_map_left_iff]
  exact (readingsFrom_reads h).imp fun p r hread => hread.form

/-- The bindings of a row are those of the columns, in order. -/
theorem rowBindings_forall₂ {t : Table} {bindings : List (String × Binding)}
    (h : rowBindings t = .ok bindings) :
    List.Forall₂ (fun c p => identifierOf t.className c.propertyName = .ok p.1 ∧
      p.2 = bindingFor c) t.columns bindings := by
  refine (mapM_eq_ok_iff.mp h).imp fun c p hp => ?_
  obtain ⟨property, hi, hp⟩ := bind_eq_ok_iff.mp hp
  obtain ⟨b, hb, hp⟩ := bind_eq_ok_iff.mp hp
  obtain rfl := pure_eq_ok_iff.mp hp
  exact ⟨hi, (bindingOf_eq_ok_iff.mp hb).1⟩

/-- A writing method binds a parameter for each column in order, to the value of the
column's property. -/
theorem parameters_forall₂ {V : Type} (e : Environment V) {t : Table}
    {bindings : List (String × Binding)} (h : rowBindings t = .ok bindings)
    (values : String → Held V) :
    List.Forall₂ (fun c p => ∃ property,
        identifierOf t.className c.propertyName = .ok property ∧
        p = (bindingFor c).toParameter e (values property))
      t.columns ((MethodBody.write bindings).parameters e (.row values)) := by
  rw [MethodBody.parameters, List.forall₂_map_right_iff]
  refine (rowBindings_forall₂ h).imp fun c p hp => ?_
  obtain ⟨hproperty, hbinding⟩ := hp
  refine ⟨p.1, hproperty, ?_⟩
  rw [← hbinding]
  rfl

section Values

variable {V : Type} {e : Environment V} {isValue : String → V → Prop}

/-- The values that the property of a column has: of the type that its text names, and
none only where the type is optional. -/
def HasValue (isValue : String → V → Prop) (c : Column) : Held V → Prop
  | none => c.isOptional = true
  | some (.native v) => c.isEnum = false ∧ c.needsBridge = false ∧
      HostType.ofTypeText? c.baseType = some v.type
  | some (.user v) => (c.isEnum = true ∨ c.needsBridge = true) ∧ isValue c.baseType v

theorem isNull_toSql (v : HostValue) : v.toSql.isNull = false := by
  obtain ⟨type, value⟩ := v
  cases type <;> rfl

theorem isNull_discriminantToSql (type : String) (n : Int) :
    (discriminantToSql type n).isNull = false := by
  unfold discriminantToSql
  split
  · rfl
  · split <;> rfl

/-- What a value is bound as is not null. -/
theorem isNull_bound {v : PropertyValue V} (hv : HasValue isValue c (some v)) :
    ((bindingFor c).bound e (some v)).isNull = false := by
  cases v with
  | native v => exact isNull_toSql v
  | user v =>
      obtain ⟨huser, -⟩ := hv
      cases he : c.isEnum with
      | true =>
          simp only [Binding.bound, bindingFor, he, if_true]
          exact isNull_discriminantToSql _ _
      | false =>
          have hb : c.needsBridge = true := huser.resolve_left (by simp [he])
          simp only [Binding.bound, bindingFor, he, hb, if_true, if_false, Bool.false_eq_true]
          exact isNull_toSql _

end Values

end Rowsmith.Accessor
