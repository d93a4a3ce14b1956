import Rowsmith.Proofs.Accessor.Column
import Rowsmith.Proofs.Accessor.Method
import Rowsmith.Proofs.Accessor.Native
import Rowsmith.Proofs.Schema.Extraction

/-!
# A row is found as it was inserted

A row that holds the values which an insertion bound is read back with the values
that its properties had. One column is settled by its form: a discriminant and a
bridge are undone by what is assumed of user types, a host type by narrowing. The
rows follow column by column.
-/

namespace Rowsmith.Accessor
open Outcome Schema Source Sql Value

variable {V : Type} {e : Environment V} {isValue : String → V → Prop}

/-- A discriminant after its cast to an integer type. -/
def castDiscriminant (type : String) (n : Int) : Int :=
  if type = "i16" then (Int16.ofInt n).toInt
  else if type = "i64" then (Int64.ofInt n).toInt
  else (Int32.ofInt n).toInt

/-- What is assumed of user types, given the values that each type text has: casts of
discriminants are undone, bridges give values of the host type that is read from the
column, and a pair of bridges leads back to the value. -/
structure Environment.Faithful (e : Environment V) (isValue : String → V → Prop)
    (t : Table) : Prop where
  ofDiscriminant : ∀ c ∈ t.columns, c.isEnum = true → ∀ v, isValue c.baseType v →
    e.ofDiscriminant c.baseType
      (castDiscriminant (Width.discriminantType c.enumWidth) (e.discriminant v)) = some v
  type_toColumn : ∀ c ∈ t.columns, c.needsBridge = true → ∀ v, isValue c.baseType v →
    (e.toColumn c.bridgeTo v).type = getterType c.columnType.getter
  fromColumn_toColumn : ∀ c ∈ t.columns, c.needsBridge = true →
    ∀ v, isValue c.baseType v → e.fromColumn c.bridgeFrom (e.toColumn c.bridgeTo v) = v

/-- Sizes stand on texts only, and on columns that hold no host type as it is. -/
def SizedTexts (t : Table) : Prop :=
  ∀ c ∈ t.columns, c.length.isSome = true → c.isEnum = false → c.needsBridge = false →
    HostType.ofTypeText? c.baseType = some .string ∨
      HostType.ofTypeText? c.baseType = some .boxedText

/-- Values of a property that differ in the offset of a clock at most. -/
def PropertyValue.Same : PropertyValue V → PropertyValue V → Prop
  | .native v, .native w => v.Same w
  | .user v, .user w => v = w
  | _, _ => False

/-- Held values that differ in the offset of a clock at most. -/
def Held.Same (v w : Held V) : Prop := Option.Rel PropertyValue.Same v w

/-- A cast discriminant is read from a column of its width. -/
theorem readAs_discriminantToSql (w : Option Width) (n : Int) (ordinal : Nat) :
    ∃ raw, readAs (Width.columnType w).getter ordinal
        (discriminantToSql (Width.discriminantType w) n) = .ok raw ∧
      integerOf ⟨getterType (Width.columnType w).getter, raw⟩ =
        castDiscriminant (Width.discriminantType w) n := by
  cases w with
  | none => exact ⟨Int32.ofInt n, readAs_integer ordinal _, rfl⟩
  | some w =>
      cases w with
      | w8 => exact ⟨Int16.ofInt n, readAs_smallInt ordinal _, rfl⟩
      | w16 => exact ⟨Int16.ofInt n, readAs_smallInt ordinal _, rfl⟩
      | w32 => exact ⟨Int32.ofInt n, readAs_integer ordinal _, rfl⟩
      | w64 => exact ⟨Int64.ofInt n, readAs_bigInt ordinal _, rfl⟩

/-- A text that a bridge gave is read from a column of texts. -/
theorem readAs_string_toSql {v : HostValue} (hv : v.type = .string) (ordinal : Nat) :
    ∃ raw, readAs .string ordinal v.toSql = .ok raw ∧ (⟨.string, raw⟩ : HostValue) = v := by
  obtain ⟨type, value⟩ := v
  obtain rfl : type = .string := hv
  exact ⟨value, rfl, rfl⟩

/-- A reading of a value looks for null first and then takes what the getter gives. -/
theorem Reading.take_of_getElem? {r : Reading} {row : Row} {v : SqlValue}
    (h : row[r.ordinal]? = some v) :
    r.take e row =
      if r.isNullable && v.isNull then .ok none
      else readAs r.getter r.ordinal v >>= fun raw =>
        some <$> r.form.take e ⟨getterType r.getter, raw⟩ := by
  have hv : row.value r.ordinal = .ok v := by simp [Row.value, h]
  simp only [Reading.take, Row.isNull, Row.get, hv, ok_bind, pure_bind]
  split
  · rfl
  · cases readAs r.getter r.ordinal v with
    | error fault => rfl
    | ok raw => cases r.form.take e ⟨getterType r.getter, raw⟩ <;> rfl

/-- The column of a host type is read like one without a size, and holds instants exactly
when the host type does. -/
theorem getter_of_native {c : Column} {type : HostType} (hc : c.Coherent)
    (henum : c.isEnum = false) (hbridge : c.needsBridge = false)
    (htype : HostType.ofTypeText? c.baseType = some type)
    (hsized : c.length.isSome = true → type = .string ∨ type = .boxedText) :
    c.columnType.getter = type.column.getter ∧
      (c.columnType = .timestamp && holdsInstant c) = type.isInstant := by
  obtain ⟨column, hnative, hcolumn⟩ := hc.native_type henum hbridge
  obtain rfl : column = type.column := by
    rw [HostType.nativeType?_of_ofTypeText? htype] at hnative
    exact (Option.some.inj hnative).symm
  rw [hcolumn, holdsInstant_of_ofTypeText? htype]
  by_cases hl : c.length.isSome = true
  · rw [if_pos hl]
    rcases hsized hl with rfl | rfl <;> exact ⟨rfl, rfl⟩
  · rw [if_neg hl]
    refine ⟨rfl, ?_⟩
    cases type <;> rfl

/-- A value of a host type is read from its column and narrowed back. -/
theorem take_native {className : String} {c : Column} {form : ReadingForm} {v : HostValue}
    (hc : c.Coherent) (hf : FormFor className c form) (henum : c.isEnum = false)
    (hbridge : c.needsBridge = false) (hv : HostType.ofTypeText? c.baseType = some v.type)
    (hsized : c.length.isSome = true → v.type = .string ∨ v.type = .boxedText) (n : Nat) :
    ∃ raw w, readAs c.columnType.getter n v.toSql = .ok raw ∧
      form.take e ⟨getterType c.columnType.getter, raw⟩ =
        .ok (.native w : PropertyValue V) ∧ v.Same w := by
  obtain ⟨hgetter, hinstant⟩ := getter_of_native hc henum hbridge hv hsized
  obtain ⟨raw, w, hread, hnarrow, hsame⟩ := narrowTo_of_toSql hv v.value n
  rw [hgetter]
  cases hf with
  | discriminant he _ => rw [henum] at he; cases he
  | bridge _ hb _ => rw [hbridge] at hb; cases hb
  | narrowing _ _ _ =>
      refine ⟨raw, ⟨v.type, w⟩, hread, ?_, hsame⟩
      rw [hinstant]
      simp only [ReadingForm.take, hnarrow, map_ok]

/-- A value of a user type is read from its column and taken back. -/
theorem take_user {className : String} {c : Column} {form : ReadingForm} {t : Table} {v : V}
    (hmem : c ∈ t.columns) (hc : c.Coherent) (he : e.Faithful isValue t)
    (hf : FormFor className c form) (huser : c.isEnum = true ∨ c.needsBridge = true)
    (hv : isValue c.baseType v) (n : Nat) :
    ((bindingFor c).bound e (some (.user v))).isNull = false ∧
    ∃ raw, readAs c.columnType.getter n ((bindingFor c).bound e (some (.user v))) = .ok raw ∧
      form.take e ⟨getterType c.columnType.getter, raw⟩ = .ok (.user v) := by
  cases hf with
  | narrowing henum hbridge _ => simp [henum, hbridge] at huser
  | discriminant henum _ =>
      obtain ⟨raw, hread, hraw⟩ :=
        readAs_discriminantToSql c.enumWidth (e.discriminant v) n
      have hb : (bindingFor c).bound e (some (.user v)) =
          discriminantToSql (Width.discriminantType c.enumWidth) (e.discriminant v) := by
        simp only [Binding.bound, bindingFor, henum, if_true]
      rw [hb, hc.enum_type henum]
      refine ⟨isNull_discriminantToSql _ _, raw, hread, ?_⟩
      simp only [ReadingForm.take, hraw, he.ofDiscriminant c hmem henum v hv]
  | bridge henum hbridge _ =>
      have hgetter : c.columnType.getter = .string := by
        rcases hc.bridge_type hbridge with h | h <;> rw [h] <;> rfl
      have htype := he.type_toColumn c hmem hbridge v hv
      have hback := he.fromColumn_toColumn c hmem hbridge v hv
      have hb : (bindingFor c).bound e (some (.user v)) = (e.toColumn c.bridgeTo v).toSql := by
        simp only [Binding.bound, bindingFor, henum, hbridge, if_true, Bool.false_eq_true,
          if_false]
      rw [hb, hgetter] at *
      obtain ⟨raw, hread, hraw⟩ := readAs_string_toSql htype n
      refine ⟨isNull_toSql _, raw, hread, ?_⟩
      rw [← hraw] at hback
      simp only [ReadingForm.take, getterType, hback]

/-- What a column was bound to is read back as the value of its property. -/
theorem take_bound {className : String} {ordinal : Nat} {c : Column} {r : Reading} {t : Table}
    (hmem : c ∈ t.columns) (hc : c.Coherent) (hsized : SizedTexts t)
    (he : e.Faithful isValue t) (hr : r.Reads className ordinal c) {v : Held V}
    (hv : HasValue isValue c v) {row : Row}
    (hrow : row[ordinal]? = some ((bindingFor c).bound e v)) :
    ∃ w, r.take e row = .ok w ∧ Held.Same v w := by
  obtain ⟨property, position, _, form, _, _⟩ := r
  obtain ⟨-, rfl, rfl, hform, rfl, rfl⟩ := hr
  rw [Reading.take_of_getElem? hrow]
  match v, hv with
  | none, hv =>
      have hn : c.isNullable = true := hc.optional_nullable hv
      exact ⟨none, by simp [hn, Binding.bound, SqlValue.isNull], Option.Rel.none⟩
  | some (.native v), ⟨henum, hbridge, htype⟩ =>
      have hs : c.length.isSome = true → v.type = .string ∨ v.type = .boxedText := by
        intro hl
        simpa only [htype, Option.some.injEq] using hsized c hmem hl henum hbridge
      obtain ⟨raw, w, hread, htake, hsame⟩ :=
        take_native hc hform henum hbridge htype hs position
      have hb : (bindingFor c).bound e (some (.native v)) = v.toSql := rfl
      refine ⟨some (.native w), ?_, Option.Rel.some hsame⟩
      rw [hb, isNull_toSql, Bool.and_false, if_neg Bool.false_ne_true, hread, ok_bind, htake,
        map_ok]
  | some (.user v), ⟨huser, hvalue⟩ =>
      obtain ⟨hnull, raw, hread, htake⟩ := take_user hmem hc he hform huser hvalue position
      refine ⟨some (.user v), ?_, Option.Rel.some rfl⟩
      rw [hnull, Bool.and_false, if_neg Bool.false_ne_true, hread, ok_bind, htake, map_ok]

/-- Readings that each succeed make a row, whose values are related one by one. -/
theorem exists_takeRow {α : Type} {R : α → Reading → Prop} {S : α → String × Held V → Prop}
    (row : Row) {xs : List α} {readings : List Reading} (h : List.Forall₂ R xs readings)
    (step : ∀ x ∈ xs, ∀ r, R x r → ∃ w, r.take e row = .ok w ∧ S x (r.property, w)) :
    ∃ held, takeRow e readings row = .ok held ∧ List.Forall₂ S xs held := by
  induction h with
  | nil => exact ⟨[], rfl, List.Forall₂.nil⟩
  | @cons x r xs readings hr _ ih =>
      obtain ⟨w, hw, hs⟩ := step x List.mem_cons_self r hr
      obtain ⟨held, hheld, hrest⟩ := ih fun y hy => step y (List.mem_cons_of_mem x hy)
      refine ⟨(r.property, w) :: held, ?_, List.Forall₂.cons hs hrest⟩
      simp only [takeRow] at hheld ⊢
      rw [List.mapM_cons, hheld, hw]
      rfl

/-- A row that holds what an insertion bound is found again: every column property has
the value that it was inserted with, and every other property its default. -/
theorem find_insert {resolver : Resolver} {d : Declaration} {t : Table} {visibility : String}
    {runtime : List Token} {u : GeneratedUnit} (ht : extract resolver d = .ok t)
    (hu : GeneratedUnit.ofTable t visibility runtime = .ok u) (hsized : SizedTexts t)
    (he : e.Faithful isValue t) {insert find : Method} (hinsert : insert ∈ u.methods)
    (hfind : find ∈ u.methods) (hi : insert.operation = .insert) (hf : find.operation = .find)
    {values : String → Held V}
    (hvalues : ∀ c ∈ t.columns, ∀ property,
      identifierOf t.className c.propertyName = .ok property →
        HasValue isValue c (values property))
    {row : Row}
    (hrow : ∀ i, i < t.columns.length → row[i]? =
      (insert.command e (.row values)).parameters[i]?.map (·.value))
    (key : Held V) (rows : List Row) :
    ∃ held,
      (find.run e (.key key) { rows := row :: rows }).1 =
        .ok (.found (some (held ++ t.skipped.map fun property => (property, none)))) ∧
      List.Forall₂ (fun c p => identifierOf t.className c.propertyName = .ok p.1 ∧
        Held.Same (values p.1) p.2) t.columns held := by
  obtain ⟨-, hserve⟩ := methods_serve (methods_of_ofTable hu).1
  obtain ⟨bindings, hib, hbindings⟩ := (hi ▸ (hserve insert hinsert).body).of_write (by decide)
  obtain ⟨keyType, binding, readings, hfb, -, -, hreadings⟩ :=
    (hf ▸ (hserve find hfind).body).of_find
  have hbound := parameters_forall₂ e hbindings values
  rw [← hib] at hbound
  obtain ⟨held, hheld, hsame⟩ := exists_takeRow row
    (readingsFrom_reads hreadings)
    (S := fun p w => identifierOf t.className p.1.propertyName = .ok w.1 ∧
      Held.Same (values w.1) w.2) (e := e) (by
    rintro ⟨c, i⟩ hci r hr
    have hmem : c ∈ t.columns := List.fst_mem_of_mem_zipIdx hci
    have hget : t.columns[i]? = some c := List.mem_zipIdx_iff_getElem?.mp hci
    have hheld : row[i]? = some ((bindingFor c).bound e (values r.property)) := by
      obtain ⟨p, hp, property, hproperty, rfl⟩ := exists_getElem? hbound hget
      obtain rfl : property = r.property := by simpa [hr.property, eq_comm] using hproperty
      rw [hrow i (List.getElem?_eq_some_iff.mp hget).1, Method.command, hp]
      rfl
    obtain ⟨w, hw, hs⟩ := take_bound hmem (coherent_of_extract ht hmem) hsized he hr
      (hvalues c hmem r.property hr.property) hheld
    exact ⟨w, hw, hr.property, hs⟩)
  refine ⟨held, ?_, ?_⟩
  · simp only [Method.run, hfb, MethodBody.answer, hheld, ok_bind]
    rfl
  · rw [← List.zipIdx_map_fst 0 t.columns, List.forall₂_map_left_iff]
    exact hsame

/-- User types whose values are truth values: discriminants 1 and 0, and bridged texts. -/
def truthEnvironment : Environment Bool where
  discriminant v := if v then 1 else 0
  ofDiscriminant _ n := if n = 1 then some true else if n = 0 then some false else none
  toColumn _ v := ⟨.string, if v then "here" else "away"⟩
  fromColumn _
    | ⟨.string, text⟩ => text == "here"
    | _ => false

theorem truthEnvironment_faithful {resolver : Resolver} {d : Declaration} {t : Table}
    (ht : extract resolver d = .ok t) : truthEnvironment.Faithful (fun _ _ => True) t where
  ofDiscriminant := by
    intro c _ _ v _
    rcases c.enumWidth with _ | w
    · cases v <;> rfl
    · cases w <;> cases v <;> rfl
  type_toColumn := by
    intro c hc hb v _
    rcases (coherent_of_extract ht hc).bridge_type hb with h | h <;> rw [h] <;> rfl
  fromColumn_toColumn := by
    intro c _ _ v _
    cases v <;> rfl

theorem memberTable_sizedTexts : SizedTexts memberTable := by
  unfold SizedTexts
  decide

/-- The values of the properties of a member. -/
def memberValues : String → Held Bool
  | "status" | "home" => some (.user true)
  | "id" => some (.native ⟨.u64, 18446744073709551615⟩)
  | "joined" => some (.native ⟨.offset,
      { utc := { date := { year := 2024, month := 2, day := 29 }, time := midnight }
        offset := 3600 }⟩)
  | _ => none

set_option maxRecDepth 100000 in
theorem memberValues_hasValue : ∀ c ∈ memberTable.columns, ∀ property,
    identifierOf "Member" c.propertyName = .ok property →
      HasValue (fun _ _ => True) c (memberValues property) := by
  have hname : ∀ c ∈ memberTable.columns,
      (identifierOf "Member" c.propertyName).toOption = some c.propertyName := by decide
  intro c hc property hp
  have hn := hname c hc
  rw [hp] at hn
  obtain rfl : property = c.propertyName := by simpa [Except.toOption] using hn
  clear hp hn hname
  simp only [memberTable, memberKey, List.mem_cons, List.not_mem_nil, or_false] at hc
  rcases hc with rfl | rfl | rfl | rfl | rfl
  · exact ⟨Or.inl rfl, trivial⟩
  · exact ⟨rfl, rfl, by decide⟩
  · show Column.isOptional _ = true
    decide
  · exact ⟨Or.inr rfl, trivial⟩
  · exact ⟨rfl, rfl, by decide⟩

set_option maxRecDepth 100000 in
/-- A member is found as it was inserted. -/
theorem find_insert_member :
    ∃ u, GeneratedUnit.ofTable memberTable "pub" (code ":: table_context") = .ok u ∧
      ∃ insert ∈ u.methods, ∃ find ∈ u.methods, insert.operation = .insert ∧
        find.operation = .find ∧ ∃ held,
        (find.run truthEnvironment (.key (memberValues "id"))
          { rows := [(insert.command truthEnvironment (.row memberValues)).parameters.map
              (·.value)] }).1 =
          .ok (.found (some (held ++ [("badge", none)]))) ∧
        List.Forall₂ (fun c p => identifierOf "Member" c.propertyName = .ok p.1 ∧
          Held.Same (memberValues p.1) p.2) memberTable.columns held := by
  obtain ⟨u, hu⟩ := exists_unit_member
  have hmethods := (methods_of_ofTable hu).1
  obtain ⟨insert, hinsert, hi⟩ := exists_method hmethods .insert
  obtain ⟨find, hfind, hf⟩ := exists_method hmethods .find
  refine ⟨u, hu, insert, hinsert, find, hfind, hi, hf, ?_⟩
  exact find_insert extract_member hu memberTable_sizedTexts
    (truthEnvironment_faithful extract_member) hinsert hfind hi hf memberValues_hasValue
    (fun _ _ => List.getElem?_map) (memberValues "id") []

end Rowsmith.Accessor
