import Rowsmith.Proofs.Accessor.RoundTrip

/-!
# What is found in a row

A row may hold anything: too few values, values of other kinds, nulls anywhere. Each
column gives one outcome by itself, and a row is found exactly when every column gives a
value; otherwise the first column that fails decides.
-/

namespace Rowsmith.Accessor
open Outcome Schema Source Sql Value

variable {V : Type} {e : Environment V}

/-- What becomes of a value that the getter of a column gave, by the form of the column. -/
inductive Converts (e : Environment V) (c : Column) (raw : HostValue) :
    Read (PropertyValue V) → Prop
  | discriminant {v} (he : c.isEnum = true)
      (hv : e.ofDiscriminant c.baseType (integerOf raw) = some v) :
      Converts e c raw (.ok (.user v))
  | invalid (he : c.isEnum = true) (hv : e.ofDiscriminant c.baseType (integerOf raw) = none) :
      Converts e c raw (.error (.invalidEnum c.baseType (integerOf raw)))
  | bridge (he : c.isEnum = false) (hb : c.needsBridge = true) :
      Converts e c raw (.ok (.user (e.fromColumn c.bridgeFrom raw)))
  | narrowed {type given f} (he : c.isEnum = false) (hb : c.needsBridge = false)
      (htype : HostType.ofTypeText? c.baseType = some type)
      (hgiven : given = narrowedValue raw (c.columnType = .timestamp && holdsInstant c))
      (hf : narrow type given.type = some f) :
      Converts e c raw ((fun w => .native ⟨type, w⟩) <$> f given.value)

/-- What a column gives for what a row has at its ordinal, if anything. -/
inductive Gives (e : Environment V) (c : Column) (ordinal : Nat) :
    Option SqlValue → Read (Held V) → Prop
  | beyond : Gives e c ordinal none (.error (.ordinalOutOfRange ordinal))
  | default (hn : c.isNullable = true) : Gives e c ordinal (some .null) (.ok none)
  | null (hn : c.isNullable = false) :
      Gives e c ordinal (some .null)
        (.error (.typeMismatch ordinal (getterKind c.columnType.getter) "NULL"))
  | unread {v fault} (hn : v.isNull = false)
      (hread : readAs c.columnType.getter ordinal v = .error fault) :
      Gives e c ordinal (some v) (.error fault)
  | converted {v raw outcome} (hn : v.isNull = false)
      (hread : readAs c.columnType.getter ordinal v = .ok raw)
      (hc : Converts e c ⟨getterType c.columnType.getter, raw⟩ outcome) :
      Gives e c ordinal (some v) (some <$> outcome)

/-- Sizes of columns that hold a host type as it is stand where texts are narrowed to it. -/
def SizesNarrow (t : Table) : Prop :=
  ∀ c ∈ t.columns, c.length.isSome = true → c.isEnum = false → c.needsBridge = false →
    ∃ type, HostType.ofTypeText? c.baseType = some type ∧ (narrow type .string).isSome = true

/-- Sizes on texts stand where texts are narrowed. -/
theorem SizedTexts.sizesNarrow {t : Table} (h : SizedTexts t) : SizesNarrow t := by
  intro c hc hl he hb
  rcases h c hc hl he hb with htype | htype
  · exact ⟨.string, htype, rfl⟩
  · exact ⟨.boxedText, htype, rfl⟩

/-- How a method finds rows: none without a row, or else what the columns give for the
first row, in order, up to the first that fails. -/
structure Method.Finds (find : Method) (e : Environment V) (t : Table) : Prop where
  absent : ∀ key, (find.run e (.key key) { rows := [] }).1 = .ok (.found none)
  found : ∀ key row rows found,
    (find.run e (.key key) { rows := row :: rows }).1 = .ok (.found found) ↔
      ∃ held, found = some (held ++ t.skipped.map fun property => (property, none)) ∧
        List.Forall₂ (fun p h => identifierOf t.className p.1.propertyName = .ok h.1 ∧
          Gives e p.1 p.2 row[p.2]? (.ok h.2)) t.columns.zipIdx held
  failed : ∀ key row rows fault,
    (find.run e (.key key) { rows := row :: rows }).1 = .error fault ↔
      ∃ i c, t.columns[i]? = some c ∧ Gives e c i row[i]? (.error fault) ∧
        ∀ j < i, ∀ b, t.columns[j]? = some b → ∃ v, Gives e b j row[j]? (.ok v)
  one : ∀ c ∈ t.columns, ∀ i cell, ∃! outcome, Gives e c i cell outcome
  default : ∀ c ∈ t.columns, ∀ i cell,
    Gives e c i cell (.ok none) ↔ cell = some .null ∧ c.isNullable = true
  mismatch : ∀ c ∈ t.columns, c.isNullable = false → ∀ i, Gives e c i (some .null)
    (.error (.typeMismatch i (getterKind c.columnType.getter) "NULL"))
  settled : ∀ key row rows, (find.run e (.key key) { rows := row :: rows }).1 =
    (find.run e (.key key) { rows := [row.take t.columns.length] }).1

theorem readAs_null (g : Getter) (ordinal : Nat) :
    readAs g ordinal .null = .error (.typeMismatch ordinal (getterKind g) "NULL") := by
  cases g <;> rfl

/-- Only null in a column that may be null gives the default. -/
theorem gives_default_iff {c : Column} {ordinal : Nat} {cell : Option SqlValue} :
    Gives e c ordinal cell (.ok none) ↔ cell = some .null ∧ c.isNullable = true := by
  constructor
  · intro h
    generalize ho : (Except.ok none : Read (Held V)) = outcome at h
    cases h with
    | beyond => cases ho
    | default hn => exact ⟨rfl, hn⟩
    | null _ => cases ho
    | unread _ _ => cases ho
    | @converted _ _ outcome _ _ _ => cases outcome <;> cases ho
  · rintro ⟨rfl, hn⟩
    exact .default hn

/-- A form takes what the getter gave as its column converts it. -/
theorem take_of_converts {className : String} {c : Column} {form : ReadingForm}
    {raw : HostValue} {outcome : Read (PropertyValue V)} (hform : FormFor className c form)
    (h : Converts e c raw outcome) : form.take e raw = outcome := by
  cases hform with
  | discriminant he _ =>
      cases h with
      | discriminant _ hv => simp only [ReadingForm.take, hv]
      | invalid _ hv => simp only [ReadingForm.take, hv]
      | bridge hne _ => rw [he] at hne; cases hne
      | narrowed hne _ _ _ _ => rw [he] at hne; cases hne
  | bridge he hb _ =>
      cases h with
      | discriminant hne _ => rw [he] at hne; cases hne
      | invalid hne _ => rw [he] at hne; cases hne
      | bridge _ _ => rfl
      | narrowed _ hne _ _ _ => rw [hb] at hne; cases hne
  | narrowing he hb _ =>
      cases h with
      | discriminant hne _ => rw [he] at hne; cases hne
      | invalid hne _ => rw [he] at hne; cases hne
      | bridge _ hne => rw [hb] at hne; cases hne
      | @narrowed type given f _ _ htype hgiven hnarrow =>
          show PropertyValue.native <$> narrowTo c.baseType
            (narrowedValue raw (c.columnType = .timestamp && holdsInstant c)) = _
          rw [← hgiven, narrowTo_eq htype hnarrow]
          cases f given.value <;> rfl

/-- Every host type that a column holds as it is has a type to narrow to. -/
theorem exists_ofTypeText? {text : String} {type : ColumnType}
    (h : nativeType? text = some type) :
    ∃ host, HostType.ofTypeText? text = some host ∧ type = host.column := by
  have hmem : (normalize text, type) ∈ nativeTypes := mem_of_lookup h
  have hall : ∀ entry ∈ nativeTypes, (HostType.typeTexts.lookup entry.1).isSome = true := by
    decide
  obtain ⟨host, hhost⟩ := Option.isSome_iff_exists.mp (hall _ hmem)
  refine ⟨host, hhost, ?_⟩
  rw [HostType.nativeType?_of_ofTypeText? hhost] at h
  exact (Option.some.inj h).symm

/-- What the getter of a host type's own column gives is narrowed to the host type. -/
theorem narrow_column (host : HostType) {type : ColumnType} (ht : type = host.column)
    (raw : (getterType type.getter).Carrier) :
    (narrow host (narrowedValue ⟨getterType type.getter, raw⟩ host.isInstant).type).isSome =
      true := by
  subst ht
  cases host <;> rfl

/-- What the getter of a sized column gives is narrowed as a text. -/
theorem type_narrowedValue_varchar {type : ColumnType} (ht : type = .varchar)
    (raw : (getterType type.getter).Carrier) (isInstant : Bool) :
    (narrowedValue ⟨getterType type.getter, raw⟩ isInstant).type = .string := by
  subst ht
  cases isInstant <;> rfl

/-- A column that holds a host type as it is has a narrowing for what its getter gives. -/
theorem exists_narrow {t : Table} {c : Column} (hmem : c ∈ t.columns) (hc : c.Coherent)
    (hsizes : SizesNarrow t) (he : c.isEnum = false) (hb : c.needsBridge = false)
    (raw : (getterType c.columnType.getter).Carrier) :
    ∃ host, HostType.ofTypeText? c.baseType = some host ∧
      (narrow host (narrowedValue ⟨getterType c.columnType.getter, raw⟩
        (c.columnType = .timestamp && holdsInstant c)).type).isSome = true := by
  obtain ⟨type, hnative, hcolumn⟩ := hc.native_type he hb
  by_cases hl : c.length.isSome = true
  · rw [if_pos hl] at hcolumn
    obtain ⟨host, htype, hsome⟩ := hsizes c hmem hl he hb
    exact ⟨host, htype, by rwa [type_narrowedValue_varchar hcolumn]⟩
  · rw [if_neg hl] at hcolumn
    obtain ⟨host, htype, rfl⟩ := exists_ofTypeText? hnative
    have hinstant := (getter_of_native hc he hb htype fun h => absurd h hl).2
    refine ⟨host, htype, ?_⟩
    rw [hinstant]
    exact narrow_column host hcolumn raw

/-- What the getter of a column gave is converted, whatever its value. -/
theorem exists_converts {t : Table} {c : Column} (hmem : c ∈ t.columns) (hc : c.Coherent)
    (hsizes : SizesNarrow t) (e : Environment V)
    (raw : (getterType c.columnType.getter).Carrier) :
    ∃ outcome, Converts e c ⟨getterType c.columnType.getter, raw⟩ outcome := by
  cases he : c.isEnum with
  | true =>
      cases hv : e.ofDiscriminant c.baseType
          (integerOf ⟨getterType c.columnType.getter, raw⟩) with
      | some v => exact ⟨_, .discriminant he hv⟩
      | none => exact ⟨_, .invalid he hv⟩
  | false =>
      cases hb : c.needsBridge with
      | true => exact ⟨_, .bridge he hb⟩
      | false =>
          obtain ⟨host, htype, hsome⟩ := exists_narrow hmem hc hsizes he hb raw
          obtain ⟨f, hf⟩ := Option.isSome_iff_exists.mp hsome
          exact ⟨_, .narrowed he hb htype rfl hf⟩

/-- A reading takes from a row what its column gives. -/
theorem take_of_gives {className : String} {c : Column} {ordinal : Nat} {r : Reading}
    (hr : r.Reads className ordinal c) {row : Row} {outcome : Read (Held V)}
    (h : Gives e c ordinal row[ordinal]? outcome) : r.take e row = outcome := by
  obtain ⟨property, position, _, form, _, _⟩ := r
  obtain ⟨-, rfl, rfl, hform, rfl, rfl⟩ := hr
  generalize hcell : row[position]? = cell at h
  cases h with
  | beyond =>
      have hvalue : row.value position = .error (.ordinalOutOfRange position) := by
        simp only [Row.value, hcell]
      simp only [Reading.take, Row.isNull, Row.get, hvalue]
      rfl
  | default hn =>
      rw [Reading.take_of_getElem? hcell]
      simp only [hn, SqlValue.isNull, Bool.and_self, if_true]
  | null hn =>
      rw [Reading.take_of_getElem? hcell]
      simp only [hn, Bool.false_and, Bool.false_eq_true, if_false, readAs_null]
      rfl
  | unread hn hread =>
      rw [Reading.take_of_getElem? hcell]
      simp only [hn, Bool.and_false, Bool.false_eq_true, if_false, hread]
      rfl
  | converted hn hread hc =>
      rw [Reading.take_of_getElem? hcell]
      simp only [hn, Bool.and_false, Bool.false_eq_true, if_false, hread, ok_bind,
        take_of_converts hform hc]

theorem exists_gives {t : Table} {c : Column} (hmem : c ∈ t.columns) (hc : c.Coherent)
    (hsizes : SizesNarrow t) (e : Environment V) (ordinal : Nat) (cell : Option SqlValue) :
    ∃ outcome, Gives e c ordinal cell outcome := by
  rcases cell with _ | v
  · exact ⟨_, .beyond⟩
  · cases hn : v.isNull with
    | true =>
        obtain rfl : v = .null := by
          cases v <;> first | rfl | cases hn
        cases hnullable : c.isNullable with
        | true => exact ⟨_, .default hnullable⟩
        | false => exact ⟨_, .null hnullable⟩
    | false =>
        cases hread : readAs c.columnType.getter ordinal v with
        | error fault => exact ⟨_, .unread hn hread⟩
        | ok raw =>
            obtain ⟨outcome, hconverts⟩ := exists_converts hmem hc hsizes e raw
            exact ⟨_, .converted hn hread hconverts⟩

/-- What a reading takes from a row is exactly what its column gives. -/
theorem take_eq_iff {t : Table} {className : String} {c : Column} {ordinal : Nat} {r : Reading}
    (hmem : c ∈ t.columns) (hc : c.Coherent) (hsizes : SizesNarrow t)
    (hr : r.Reads className ordinal c) {row : Row} {outcome : Read (Held V)} :
    r.take e row = outcome ↔ Gives e c ordinal row[ordinal]? outcome := by
  constructor
  · rintro rfl
    obtain ⟨outcome, h⟩ := exists_gives hmem hc hsizes e ordinal row[ordinal]?
    exact take_of_gives hr h ▸ h
  · exact take_of_gives hr

section Row

variable {t : Table} {readings : List Reading} (hsizes : SizesNarrow t)
  (hcoherent : ∀ c ∈ t.columns, c.Coherent)
  (hreadings : List.Forall₂ (fun p r => r.Reads t.className p.2 p.1) t.columns.zipIdx readings)
include hsizes hcoherent hreadings

/-- A row is taken exactly when every column gives a value, in order. -/
theorem takeRow_eq_ok_iff {row : Row} {held : List (String × Held V)} :
    takeRow e readings row = .ok held ↔
      List.Forall₂ (fun p h => identifierOf t.className p.1.propertyName = .ok h.1 ∧
        Gives e p.1 p.2 row[p.2]? (.ok h.2)) t.columns.zipIdx held := by
  rw [takeRow, mapM_eq_ok_iff]
  refine forall₂_congr_left hreadings fun p hp r hr h => ?_
  have hmem : p.1 ∈ t.columns := List.fst_mem_of_mem_zipIdx hp
  obtain ⟨property, v⟩ := h
  simp only [bind_eq_ok_iff, pure_eq_ok_iff, Prod.mk.injEq, hr.property, Except.ok.injEq,
    take_eq_iff hmem (hcoherent p.1 hmem) hsizes hr]
  constructor
  · rintro ⟨w, hw, rfl, rfl⟩
    exact ⟨rfl, hw⟩
  · rintro ⟨rfl, hv⟩
    exact ⟨v, hv, rfl, rfl⟩

omit hsizes hcoherent in
theorem exists_column {i : Nat} {r : Reading} (hr : readings[i]? = some r) :
    ∃ c, t.columns[i]? = some c ∧ r.Reads t.className i c := by
  obtain ⟨p, hp, hread⟩ := exists_getElem? hreadings.flip hr
  obtain ⟨c, hc, rfl⟩ : ∃ c, t.columns[i]? = some c ∧ (c, i) = p := by
    simpa [List.getElem?_zipIdx] using hp
  exact ⟨c, hc, hread⟩

omit hsizes hcoherent in
theorem exists_reading {i : Nat} {c : Column} (hc : t.columns[i]? = some c) :
    ∃ r, readings[i]? = some r ∧ r.Reads t.className i c := by
  have hp : t.columns.zipIdx[i]? = some (c, i) := by simp [List.getElem?_zipIdx, hc]
  exact exists_getElem? hreadings hp

/-- A row that is not taken fails as the first column does that gives no value. -/
theorem takeRow_eq_error_iff {row : Row} {fault : DatabaseError} :
    takeRow e readings row = .error fault ↔
      ∃ (i : Nat) (c : Column), t.columns[i]? = some c ∧
        Gives e c i row[i]? (.error fault) ∧
        ∀ j < i, ∀ b, t.columns[j]? = some b → ∃ v, Gives e b j row[j]? (.ok v) := by
  have hgives : ∀ {i : Nat} {c : Column} {r : Reading} {outcome : Read (Held V)},
      t.columns[i]? = some c → r.Reads t.className i c →
        (r.take e row = outcome ↔ Gives e c i row[i]? outcome) := fun hc hr =>
    take_eq_iff (List.mem_of_getElem? hc) (hcoherent _ (List.mem_of_getElem? hc)) hsizes hr
  simp only [takeRow, mapM_eq_error_iff, bind_eq_error_iff, bind_eq_ok_iff, pure_eq_ok_iff]
  constructor
  · rintro ⟨i, r, hi, hfault, hbefore⟩
    obtain ⟨c, hc, hr⟩ := exists_column hreadings hi
    have htake : r.take e row = .error fault := by
      rcases hfault with h | ⟨v, _, h⟩
      · exact h
      · cases h
    refine ⟨i, c, hc, (hgives hc hr).mp htake, fun j hj b hb => ?_⟩
    obtain ⟨s, hs, hread⟩ := exists_reading hreadings hb
    obtain ⟨_, v, hv, _⟩ := hbefore j hj s hs
    exact ⟨v, (hgives hb hread).mp hv⟩
  · rintro ⟨i, c, hc, hfault, hbefore⟩
    obtain ⟨r, hi, hr⟩ := exists_reading hreadings hc
    refine ⟨i, r, hi, Or.inl ((hgives hc hr).mpr hfault), fun j hj s hs => ?_⟩
    obtain ⟨b, hb, hread⟩ := exists_column hreadings hs
    obtain ⟨v, hv⟩ := hbefore j hj b hb
    exact ⟨_, v, (hgives hb hread).mpr hv, rfl⟩

/-- Values behind those of the columns do not count. -/
theorem takeRow_take (e : Environment V) (row : Row) :
    takeRow e readings (row.take t.columns.length) = takeRow e readings row := by
  have hcell : ∀ {i : Nat} {c : Column}, t.columns[i]? = some c →
      (row.take t.columns.length)[i]? = row[i]? := fun hc =>
    List.getElem?_take_of_lt (List.getElem?_eq_some_iff.mp hc).1
  cases h : takeRow e readings row with
  | ok held =>
      rw [takeRow_eq_ok_iff hsizes hcoherent hreadings] at h ⊢
      refine imp_of_mem h fun p hp held hgives => ⟨hgives.1, ?_⟩
      rw [hcell (List.mem_zipIdx_iff_getElem?.mp hp)]
      exact hgives.2
  | error fault =>
      rw [takeRow_eq_error_iff hsizes hcoherent hreadings] at h ⊢
      obtain ⟨i, c, hc, hfault, hbefore⟩ := h
      refine ⟨i, c, hc, by rwa [hcell hc], fun j hj b hb => ?_⟩
      rw [hcell hb]
      exact hbefore j hj b hb

end Row

/-- A column gives one outcome at most, whatever the form that it is read by. -/
theorem Gives.unique {className : String} {c : Column} {form : ReadingForm} {ordinal : Nat}
    {cell : Option SqlValue} {a b : Read (Held V)} (hform : FormFor className c form)
    (ha : Gives e c ordinal cell a) (hb : Gives e c ordinal cell b) : a = b := by
  cases ha with
  | beyond => cases hb; rfl
  | default hn =>
      cases hb with
      | default _ => rfl
      | null hn' => rw [hn] at hn'; cases hn'
      | unread hnull _ => cases hnull
      | converted hnull _ _ => cases hnull
  | null hn =>
      cases hb with
      | default hn' => rw [hn] at hn'; cases hn'
      | null _ => rfl
      | unread hnull _ => cases hnull
      | converted hnull _ _ => cases hnull
  | unread hn hread =>
      cases hb with
      | default _ => cases hn
      | null _ => cases hn
      | unread _ hread' => rw [hread] at hread'; cases hread'; rfl
      | converted _ hread' _ => rw [hread] at hread'; cases hread'
  | converted hn hread hc =>
      cases hb with
      | default _ => cases hn
      | null _ => cases hn
      | unread _ hread' => rw [hread] at hread'; cases hread'
      | converted _ hread' hc' =>
          rw [hread] at hread'
          cases hread'
          rw [← take_of_converts hform hc, ← take_of_converts hform hc']

/-- The method that finds rows of an extracted table finds them by what each column gives. -/
theorem find_finds {resolver : Resolver} {d : Declaration} {t : Table} {visibility : String}
    {runtime : List Token} {u : GeneratedUnit} (ht : extract resolver d = .ok t)
    (hu : GeneratedUnit.ofTable t visibility runtime = .ok u) (hsizes : SizesNarrow t)
    {find : Method} (hfind : find ∈ u.methods) (hf : find.operation = .find)
    (e : Environment V) : find.Finds e t := by
  obtain ⟨-, hserve⟩ := methods_serve (methods_of_ofTable hu).1
  obtain ⟨keyType, binding, readings, hbody, -, -, hrow⟩ :=
    (hf ▸ (hserve find hfind).body).of_find
  have hreadings := readingsFrom_reads hrow
  have hcoherent : ∀ c ∈ t.columns, c.Coherent := fun c hc => coherent_of_extract ht hc
  have hrun : ∀ key row rows, (find.run e (.key key) { rows := row :: rows }).1 = (do
      let columns ← takeRow e readings row
      return .found (some (columns ++ t.skipped.map fun property => (property, none)))) := by
    intro key row rows
    simp only [Method.run, hbody, MethodBody.answer]
  constructor
  · intro key
    simp only [Method.run, hbody, MethodBody.answer]
  · intro key row rows found
    rw [hrun]
    simp only [bind_eq_ok_iff, pure_eq_ok_iff, Answer.found.injEq,
      takeRow_eq_ok_iff hsizes hcoherent hreadings]
    exact exists_congr fun held => and_comm.trans (and_congr_left fun _ => eq_comm)
  · intro key row rows fault
    rw [hrun, bind_eq_error_iff, ← takeRow_eq_error_iff hsizes hcoherent hreadings]
    refine or_iff_left ?_
    rintro ⟨columns, -, h⟩
    cases h
  · intro c hc i cell
    obtain ⟨outcome, h⟩ := exists_gives hc (hcoherent c hc) hsizes e i cell
    obtain ⟨r, -, hr⟩ := exists_of_mem_left (rowReadings_forall₂ hrow) hc
    exact ⟨outcome, h, fun other hother => hother.unique hr h⟩
  · exact fun c _ i cell => gives_default_iff
  · exact fun c _ hn i => .null hn
  · intro key row rows
    rw [hrun, hrun, takeRow_take hsizes hcoherent hreadings]

/-- Members are found by what each column gives. -/
theorem find_finds_member : ∃ u,
    GeneratedUnit.ofTable memberTable "pub" (code ":: table_context") = .ok u ∧
      ∃ find ∈ u.methods, find.operation = .find ∧ find.Finds truthEnvironment memberTable := by
  obtain ⟨u, hu⟩ := exists_unit_member
  obtain ⟨find, hfind, hf⟩ := exists_method (methods_of_ofTable hu).1 .find
  exact ⟨u, hu, find, hfind, hf,
    find_finds extract_member hu memberTable_sizedTexts.sizesNarrow hfind hf truthEnvironment⟩

end Rowsmith.Accessor
