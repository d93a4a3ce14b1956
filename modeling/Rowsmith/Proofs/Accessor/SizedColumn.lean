import Rowsmith.Proofs.Accessor.RoundTrip
import Rowsmith.Proofs.Schema.ExtractionFailure

/-!
# Columns with a length

A length makes a column one of texts, which is read as a text, but a value is bound by its host type
alone. So what an insertion binds is read back from such a column only where the host type is bound
as a text or as a character, and a character that is a blank is lost when the text is trimmed.
-/

namespace Rowsmith.Value
open Schema Text

/-- What a getter of texts gives for what a value is bound as, narrowed to the type of the value. -/
def HostValue.ofText (ordinal : Nat) : HostValue → Read HostValue
  | ⟨.string, text⟩ => .ok ⟨.string, text⟩
  | ⟨.boxedText, text⟩ => .ok ⟨.boxedText, text⟩
  | ⟨.char, c⟩ =>
    if isBlank c then .error (.conversion "cannot parse char from empty string")
    else .ok ⟨.char, c⟩
  | v => .error (.typeMismatch ordinal "TEXT" v.toSql.kind)

/-- Whether a value is bound as something that is read as a text. -/
def HostType.isTextual : HostType → Bool
  | string | boxedText | char => true
  | _ => false

/-- Whether a value is kept by a column with a length. -/
def HostValue.IsKept : HostValue → Prop
  | ⟨.string, _⟩ | ⟨.boxedText, _⟩ => True
  | ⟨.char, c⟩ => isBlank c = false
  | _ => False

/-- No value is read back as another. -/
theorem HostValue.ofText_cases (ordinal : Nat) (v : HostValue) :
    v.ofText ordinal = .ok v ∨ ∃ fault, v.ofText ordinal = .error fault := by
  obtain ⟨type, value⟩ := v
  cases type with
  | string | boxedText => exact Or.inl rfl
  | char => cases hc : isBlank value <;> simp [ofText, hc]
  | _ => exact Or.inr ⟨_, rfl⟩

/-- The values that are kept are those that are read back. -/
theorem HostValue.ofText_eq_ok_iff (ordinal : Nat) {v : HostValue} :
    v.ofText ordinal = .ok v ↔ v.IsKept := by
  obtain ⟨type, value⟩ := v
  cases type with
  | string | boxedText => exact ⟨fun _ => trivial, fun _ => rfl⟩
  | char => cases hc : isBlank value <;> simp [ofText, IsKept, hc]
  | _ => exact ⟨nofun, False.elim⟩

theorem exists_readAs_string_iff {ordinal : Nat} {v : HostValue} :
    (∃ raw, readAs .string ordinal v.toSql = .ok raw) ↔ v.type.isTextual = true := by
  obtain ⟨type, value⟩ := v
  cases type with
  | string | boxedText | char => exact ⟨fun _ => rfl, fun _ => ⟨_, rfl⟩⟩
  | _ => exact ⟨fun ⟨_, h⟩ => (nomatch h), nofun⟩

theorem parseChar_singleton (c : Char) : parseChar (String.singleton c) =
    if isBlank c then .error (.conversion "cannot parse char from empty string") else .ok c := by
  cases hc : isBlank c <;>
    simp [parseChar, trimBlanks, String.toList_singleton, hc]

end Rowsmith.Value

namespace Rowsmith.Accessor
open Outcome Schema Source Sql Value

/-- What is bound is read as a text and narrowed to the type of the value. -/
theorem narrowTo_of_text {name : String} {v : HostValue}
    (hn : HostType.ofTypeText? name = some v.type) (ordinal : Nat) :
    (readAs .string ordinal v.toSql >>= fun raw => narrowTo name ⟨.string, raw⟩) =
      v.ofText ordinal := by
  obtain ⟨type, value⟩ := v
  cases type with
  | string | boxedText =>
      have hread : readAs .string ordinal (HostValue.toSql ⟨_, value⟩) = .ok value := rfl
      rw [hread, ok_bind]
      exact narrowTo_eq_ok hn rfl rfl
  | char =>
      have hread : readAs .string ordinal (HostValue.toSql ⟨.char, value⟩) =
          .ok (String.singleton value) := rfl
      have hnarrow : narrowTo name ⟨.string, String.singleton value⟩ =
          (fun c => ⟨.char, c⟩) <$> parseChar (String.singleton value) := narrowTo_eq hn rfl
      rw [hread, ok_bind, hnarrow, parseChar_singleton, HostValue.ofText]
      split <;> rfl
  | _ => rfl

/-- A property of a host type that is given a length. -/
structure SizedNative (resolver : Resolver) (p : Property) (type : HostType) : Prop where
  sized : p.isSized = true
  plain : (resolver (stripNullable p.type).1).enumWidth? = none
  native : HostType.ofTypeText? (stripNullable p.type).1 = some type

/-- The column of such a property: one of texts that is read by narrowing. -/
structure SizedColumn (c : Column) (type : HostType) : Prop where
  isEnum : c.isEnum = false
  needsBridge : c.needsBridge = false
  columnType : c.columnType = .varchar
  native : HostType.ofTypeText? c.baseType = some type

theorem SizedNative.column {resolver : Resolver} {p : Property} {type : HostType} {c : Column}
    (hp : SizedNative resolver p type) (hc : columnOf resolver p = .ok c) :
    SizedColumn c type := by
  have hlength : c.length.isSome = true := (columnOf_spec hc).2.2.trans hp.sized
  obtain ⟨m, -, hm⟩ := bind_eq_ok_iff.mp hc
  obtain rfl := pure_eq_ok_iff.mp hm
  have henum : (columnWith resolver p m).isEnum = false := by simp [columnWith, hp.plain]
  have hbridge : (columnWith resolver p m).needsBridge = false := by
    rcases mapHostType_cases (stripNullable p.type).1 with ⟨_, -, hmap⟩ | ⟨hnone, -⟩
    · simp [columnWith, hmap]
    · rw [HostType.nativeType?_of_ofTypeText? hp.native] at hnone
      cases hnone
  obtain ⟨_, -, hcolumn⟩ := (columnWith_coherent resolver p m).native_type henum hbridge
  rw [if_pos hlength] at hcolumn
  exact ⟨henum, hbridge, hcolumn, hp.native⟩

theorem columnOf_property {resolver : Resolver} {p : Property} {c : Column}
    (hc : columnOf resolver p = .ok c) :
    c.propertyName = p.name ∧ c.isOptional = (stripNullable p.type).2 := by
  obtain ⟨m, -, hm⟩ := bind_eq_ok_iff.mp hc
  obtain rfl := pure_eq_ok_iff.mp hm
  exact ⟨rfl, rfl⟩

/-- The values of a property that may be absent where its type text is marked. -/
structure HeldOf (type : HostType) (isOptional : Bool) (held : Option HostValue) : Prop where
  type_eq : ∀ v ∈ held, v.type = type
  absent : held = none → isOptional = true

theorem heldOf_some (v : HostValue) (isOptional : Bool) : HeldOf v.type isOptional (some v) where
  type_eq := by
    intro w hw
    rw [Option.mem_some_iff.mp hw]
  absent := nofun

section Taken

variable {V : Type} {e : Environment V} {className : String} {i : Nat} {c : Column} {r : Reading}
  {type : HostType} {held : Option HostValue} {row : Row}

/-- What was bound in a column with a length is read as the text that it is, if it is one. -/
theorem take_sized (hsized : SizedColumn c type) (hcoherent : c.Coherent)
    (hr : r.Reads className i c) (hheld : HeldOf type c.isOptional held)
    (hrow : row[i]? = some (optionToSql held)) :
    r.take e row = Option.map .native <$> held.mapM (HostValue.ofText i) := by
  obtain ⟨property, position, _, form, _, _⟩ := r
  obtain ⟨-, rfl, rfl, hform, rfl, rfl⟩ := hr
  rw [Reading.take_of_getElem? hrow]
  cases held with
  | none =>
      have hnullable : c.isNullable = true := hcoherent.optional_nullable (hheld.absent rfl)
      simp only [hnullable, optionToSql, SqlValue.isNull, Bool.and_self, if_true]
      rfl
  | some v =>
      have htype : HostType.ofTypeText? c.baseType = some v.type := by
        rw [hheld.type_eq v rfl]
        exact hsized.native
      have hvalue : optionToSql (some v) = v.toSql := rfl
      rw [hvalue, isNull_toSql, Bool.and_false, if_neg Bool.false_ne_true]
      cases hform with
      | discriminant he _ => rw [hsized.isEnum] at he; cases he
      | bridge _ hb _ => rw [hsized.needsBridge] at hb; cases hb
      | narrowing _ _ _ =>
          rw [hsized.columnType, Option.mapM_some, ← narrowTo_of_text htype position]
          show (readAs .string position v.toSql >>= fun raw =>
            some <$> PropertyValue.native <$> narrowTo c.baseType ⟨.string, raw⟩) = _
          cases readAs .string position v.toSql with
          | error fault => rfl
          | ok raw =>
              rw [ok_bind, ok_bind]
              cases narrowTo c.baseType ⟨.string, raw⟩ <;> rfl

end Taken

/-- What was bound is read back exactly if it is kept. -/
theorem mapM_ofText_eq_ok_iff {V : Type} {held : Option HostValue} {ordinal : Nat} :
    (Option.map .native <$> held.mapM (HostValue.ofText ordinal) : Read (Held V)) =
      .ok (held.map .native) ↔ ∀ v ∈ held, v.IsKept := by
  cases held with
  | none => exact ⟨fun _ => nofun, fun _ => rfl⟩
  | some v =>
      simp only [Option.mapM_some, map_eq_ok_iff, Option.mem_some_iff, forall_eq']
      rw [← HostValue.ofText_eq_ok_iff ordinal]
      constructor
      · rintro ⟨_, ⟨w, hw, rfl⟩, hnative⟩
        obtain rfl : w = v := by simpa using hnative
        exact hw
      · exact fun hv => ⟨some v, ⟨v, hv, rfl⟩, rfl⟩

/-- What is not kept is not read. -/
theorem exists_fault_of_not_kept {V : Type} {held : Option HostValue} (ordinal : Nat)
    (h : ¬ ∀ v ∈ held, v.IsKept) : ∃ fault,
      (Option.map .native <$> held.mapM (HostValue.ofText ordinal) : Read (Held V)) =
        .error fault := by
  cases held with
  | none => exact absurd nofun h
  | some v =>
      rcases v.ofText_cases ordinal with hv | ⟨fault, hv⟩
      · refine absurd (fun w hw => ?_) h
        obtain rfl := Option.mem_some_iff.mp hw
        exact (HostValue.ofText_eq_ok_iff ordinal).mp hv
      · refine ⟨fault, ?_⟩
        rw [Option.mapM_some, hv]
        rfl

/-- The reading of a method at a position, if it reads. -/
def Method.readingAt? (m : Method) (i : Nat) : Option Reading :=
  match m.body with
  | .find _ _ readings _ => readings[i]?
  | _ => none

section Generated

variable {V : Type} {e : Environment V} {resolver : Resolver} {d : Declaration} {t : Table}
  {visibility : String} {runtime : List Token} {u : GeneratedUnit} {i : Nat} {p : Property}

/-- The columns are those of the properties at the same positions. -/
theorem column_at (ht : extract resolver d = .ok t) (hp : d.columnProperties[i]? = some p) :
    ∃ c, t.columns[i]? = some c ∧ columnOf resolver p = .ok c :=
  exists_getElem? (mapM_eq_ok_iff.mp (extract_eq_ok_iff.mp ht).1) hp

/-- A method that finds rows reads each column at its position. -/
theorem readingAt?_of_find (hu : GeneratedUnit.ofTable t visibility runtime = .ok u)
    {find : Method} (hfind : find ∈ u.methods) (hf : find.operation = .find) {c : Column}
    (hc : t.columns[i]? = some c) :
    ∃ r, find.readingAt? i = some r ∧ r.Reads t.className i c := by
  obtain ⟨-, hserve⟩ := methods_serve (methods_of_ofTable hu).1
  obtain ⟨keyType, binding, readings, hbody, -, -, hrow⟩ :=
    (hf ▸ (hserve find hfind).body).of_find
  have hposition : t.columns.zipIdx[i]? = some (c, i) := by simp [List.getElem?_zipIdx, hc]
  obtain ⟨r, hr, hreads⟩ := exists_getElem? (readingsFrom_reads hrow) hposition
  exact ⟨r, by simp only [Method.readingAt?, hbody, hr], hreads⟩

/-- A row in which a column is not read is not found. -/
theorem run_of_readingAt? {find : Method} {r : Reading} (hr : find.readingAt? i = some r)
    {row : Row} {fault : DatabaseError} (htake : r.take e row = .error fault) (key : Held V)
    (rows : List Row) :
    ∃ fault, (find.run e (.key key) { rows := row :: rows }).1 = .error fault := by
  unfold Method.readingAt? at hr
  split at hr
  · next keyType binding readings skipped hbody =>
      simp only [Method.run, hbody, MethodBody.answer]
      cases htaken : takeRow e readings row with
      | error other => exact ⟨other, rfl⟩
      | ok columns =>
          obtain ⟨_, -, hcolumn⟩ := exists_getElem? (mapM_eq_ok_iff.mp htaken) hr
          rw [htake] at hcolumn
          cases hcolumn
  · cases hr

/-- An insertion binds the value of a column at its position. -/
theorem parameterAt_of_insert (hu : GeneratedUnit.ofTable t visibility runtime = .ok u)
    {insert : Method} (hinsert : insert ∈ u.methods) (hi : insert.operation = .insert)
    {c : Column} (hc : t.columns[i]? = some c) (values : String → Held V) :
    ∃ property, identifierOf t.className c.propertyName = .ok property ∧
      (insert.command e (.row values)).parameters[i]? =
        some ((bindingFor c).toParameter e (values property)) := by
  obtain ⟨-, hserve⟩ := methods_serve (methods_of_ofTable hu).1
  obtain ⟨bindings, hbody, hbindings⟩ :=
    (hi ▸ (hserve insert hinsert).body).of_write (by decide)
  have hbound := parameters_forall₂ e hbindings values
  rw [← hbody] at hbound
  obtain ⟨parameter, hparameter, property, hproperty, rfl⟩ := exists_getElem? hbound hc
  exact ⟨property, hproperty, hparameter⟩

/-- What an insertion binds for a property with a length, and what is read of it. -/
theorem exists_sized_reading (ht : extract resolver d = .ok t)
    (hu : GeneratedUnit.ofTable t visibility runtime = .ok u) {insert find : Method}
    (hinsert : insert ∈ u.methods) (hfind : find ∈ u.methods) (hi : insert.operation = .insert)
    (hf : find.operation = .find) (hp : d.columnProperties[i]? = some p) {type : HostType}
    (hsized : SizedNative resolver p type) {held : Option HostValue}
    (hheld : HeldOf type (stripNullable p.type).2 held) {values : String → Held V}
    (hvalues : ∀ property, identifierOf d.name p.name = .ok property →
      values property = held.map .native) :
    ((insert.command e (.row values)).parameters.map (·.value))[i]? = some (optionToSql held) ∧
    ∃ r, find.readingAt? i = some r ∧ r.getter = .string ∧
      ∀ row : Row, row[i]? = some (optionToSql held) →
        r.take e row = Option.map .native <$> held.mapM (HostValue.ofText i) := by
  obtain ⟨c, hc, hcolumn⟩ := column_at ht hp
  obtain ⟨hname, hoptional⟩ := columnOf_property hcolumn
  have hsizedColumn := hsized.column hcolumn
  have hcoherent := coherent_of_extract ht (List.mem_of_getElem? hc)
  obtain ⟨property, hproperty, hparameter⟩ := parameterAt_of_insert (e := e) hu hinsert hi hc values
  rw [className_of_extract ht, hname] at hproperty
  obtain ⟨r, hr, hreads⟩ := readingAt?_of_find hu hfind hf hc
  have hbound : ((bindingFor c).toParameter e (values property)).value = optionToSql held := by
    rw [hvalues property hproperty]
    cases held <;> rfl
  refine ⟨?_, r, hr, ?_, fun row hrow => ?_⟩
  · rw [List.getElem?_map, hparameter, Option.map_some, hbound]
  · rw [hreads.getter, hsizedColumn.columnType]
    rfl
  · exact take_sized hsizedColumn hcoherent hreads (hoptional ▸ hheld) hrow

/-- A column with a length is read back as it was bound exactly if its value is kept: a text, or a
character that is no blank. Its getter accepts what is bound for texts and characters only, and a
row whose value is not kept is not found. -/
theorem sized_column_read (ht : extract resolver d = .ok t)
    (hu : GeneratedUnit.ofTable t visibility runtime = .ok u) {insert find : Method}
    (hinsert : insert ∈ u.methods) (hfind : find ∈ u.methods) (hi : insert.operation = .insert)
    (hf : find.operation = .find) (hp : d.columnProperties[i]? = some p) {type : HostType}
    (hsized : SizedNative resolver p type) {held : Option HostValue}
    (hheld : HeldOf type (stripNullable p.type).2 held) {values : String → Held V}
    (hvalues : ∀ property, identifierOf d.name p.name = .ok property →
      values property = held.map .native) :
    ((insert.command e (.row values)).parameters.map (·.value))[i]? = some (optionToSql held) ∧
    ∃ r, find.readingAt? i = some r ∧
      (∀ v ∈ held, (∃ raw, readAs r.getter i v.toSql = .ok raw) ↔ v.type.isTextual = true) ∧
      ∀ row : Row, row[i]? = some (optionToSql held) →
        r.take e row = Option.map .native <$> held.mapM (HostValue.ofText i) ∧
        (r.take e row = .ok (held.map .native) ↔ ∀ v ∈ held, v.IsKept) ∧
        ((∀ v ∈ held, v.IsKept) ∨ ∀ key rows, ∃ fault,
          (find.run e (.key key) { rows := row :: rows }).1 = .error fault) := by
  obtain ⟨hbound, r, hr, hgetter, htaken⟩ :=
    exists_sized_reading (e := e) ht hu hinsert hfind hi hf hp hsized hheld hvalues
  refine ⟨hbound, r, hr, fun v _ => ?_, fun row hrow => ?_⟩
  · rw [hgetter]
    exact exists_readAs_string_iff
  · have htake := htaken row hrow
    refine ⟨htake, htake ▸ mapM_ofText_eq_ok_iff, ?_⟩
    by_cases hkept : ∀ v ∈ held, v.IsKept
    · exact Or.inl hkept
    · obtain ⟨fault, hfault⟩ := exists_fault_of_not_kept (V := V) i hkept
      exact Or.inr (run_of_readingAt? hr (htake.trans hfault))

end Generated

section Parcel

/-- A property with a length. -/
def lengthy (name type length : String) : Property :=
  { name, type, annotations := [{ name := "varchar", positional := [.integer length] }] }

/-- A class with a length on a number and on a character. -/
def parcel : Declaration :=
  { name := "Parcel"
    properties := [{ name := "id", type := "i64", annotations := [{ name := "primary_key" }] },
      lengthy "weight" "u16" "5", lengthy "mark" "char" "1"] }

theorem weight_sized : SizedNative plainResolver (lengthy "weight" "u16" "5") .u16 :=
  ⟨by decide, by decide, by decide⟩

theorem mark_sized : SizedNative plainResolver (lengthy "mark" "char" "1") .char :=
  ⟨by decide, by decide, by decide⟩

/-- The class of parcels has a unit, with methods that insert and find. -/
theorem exists_parcel : ∃ t u, extract plainResolver parcel = .ok t ∧
    GeneratedUnit.ofTable t "pub" (code ":: table_context") = .ok u ∧
    ∃ insert ∈ u.methods, ∃ find ∈ u.methods, insert.operation = .insert ∧
      find.operation = .find := by
  have hok : (do
      let t ← (extract plainResolver parcel).mapError Stop.error
      GeneratedUnit.ofTable t "pub" (code ":: table_context")).isOk = true := by
    decide +kernel
  obtain ⟨u, hok⟩ := exists_of_isOk hok
  obtain ⟨t, ht, hu⟩ := bind_eq_ok_iff.mp hok
  have hextract : extract plainResolver parcel = .ok t := by
    cases h : extract plainResolver parcel with
    | error fault => rw [h] at ht; cases ht
    | ok _ => rw [h] at ht; cases ht; rfl
  obtain ⟨insert, hinsert, hi⟩ := exists_method (methods_of_ofTable hu).1 .insert
  obtain ⟨find, hfind, hf⟩ := exists_method (methods_of_ofTable hu).1 .find
  exact ⟨t, u, hextract, hu, insert, hinsert, find, hfind, hi, hf⟩

/-- The values of a parcel with a weight of 5 and a mark. -/
def parcelValues (mark : Char) : String → Held Bool
  | "id" => some (.native ⟨.i64, (1 : Int64)⟩)
  | "weight" => some (.native ⟨.u16, (5 : UInt16)⟩)
  | "mark" => some (.native ⟨.char, mark⟩)
  | _ => none

/-- Properties of parcels go by their names. -/
theorem identifierOf_parcel {name property : String} (hname : name ∈ ["weight", "mark"])
    (h : identifierOf "Parcel" name = .ok property) : property = name := by
  have hnames : ∀ name ∈ ["weight", "mark"],
      (identifierOf "Parcel" name).toOption = some name := by decide
  have hsame := hnames name hname
  rw [h] at hsame
  exact Option.some.inj hsame

theorem parcelValues_weight (mark : Char) (property : String)
    (h : identifierOf "Parcel" "weight" = .ok property) :
    parcelValues mark property = Option.map .native (some ⟨.u16, (5 : UInt16)⟩) := by
  rw [identifierOf_parcel (by decide) h]
  rfl

theorem parcelValues_mark (mark : Char) (property : String)
    (h : identifierOf "Parcel" "mark" = .ok property) :
    parcelValues mark property = Option.map .native (some ⟨.char, mark⟩) := by
  rw [identifierOf_parcel (by decide) h]
  rfl

/-- A number is bound as one, which the getter of a column with a length does not give; a mark that
is a blank is given, but it is lost. -/
theorem parcel_not_read : ∃ t u, extract plainResolver parcel = .ok t ∧
    GeneratedUnit.ofTable t "pub" (code ":: table_context") = .ok u ∧
    ∃ insert ∈ u.methods, ∃ find ∈ u.methods, ∃ weight mark, insert.operation = .insert ∧
      find.readingAt? 1 = some weight ∧ find.readingAt? 2 = some mark ∧
      let row := (insert.command truthEnvironment (.row (parcelValues ' '))).parameters.map
        (·.value)
      row[1]? = some (.smallInt 5) ∧ row[2]? = some (.char ' ') ∧
      weight.take truthEnvironment row = .error (.typeMismatch 1 "TEXT" "SMALLINT") ∧
      mark.take truthEnvironment row =
        .error (.conversion "cannot parse char from empty string") := by
  obtain ⟨t, u, ht, hu, insert, hinsert, find, hfind, hi, hf⟩ := exists_parcel
  obtain ⟨hfive, weight, hweight, -, htaken⟩ :=
    exists_sized_reading (e := truthEnvironment) (i := 1) ht hu hinsert hfind hi hf rfl
      weight_sized (heldOf_some ⟨.u16, (5 : UInt16)⟩ _) (parcelValues_weight ' ')
  obtain ⟨hblank, mark, hmark, -, hlost⟩ :=
    exists_sized_reading (e := truthEnvironment) (i := 2) ht hu hinsert hfind hi hf rfl
      mark_sized (heldOf_some ⟨.char, ' '⟩ _) (parcelValues_mark ' ')
  exact ⟨t, u, ht, hu, insert, hinsert, find, hfind, weight, mark, hi, hweight, hmark, hfive,
    hblank, htaken _ hfive, hlost _ hblank⟩

/-- A mark that is a letter is read back. -/
theorem parcel_mark_read : ∃ t u, extract plainResolver parcel = .ok t ∧
    GeneratedUnit.ofTable t "pub" (code ":: table_context") = .ok u ∧
    ∃ insert ∈ u.methods, ∃ find ∈ u.methods, ∃ mark, insert.operation = .insert ∧
      find.readingAt? 2 = some mark ∧
      let row := (insert.command truthEnvironment (.row (parcelValues 'x'))).parameters.map
        (·.value)
      row[2]? = some (.char 'x') ∧
      mark.take truthEnvironment row = .ok (some (.native ⟨.char, 'x'⟩)) := by
  obtain ⟨t, u, ht, hu, insert, hinsert, find, hfind, hi, hf⟩ := exists_parcel
  obtain ⟨hbound, mark, hmark, -, htaken⟩ :=
    sized_column_read (e := truthEnvironment) (i := 2) ht hu hinsert hfind hi hf rfl
      mark_sized (heldOf_some ⟨.char, 'x'⟩ _) (parcelValues_mark 'x')
  have hkept : ∀ v ∈ some (⟨.char, 'x'⟩ : HostValue), v.IsKept := by
    rintro v hv
    obtain rfl := Option.mem_some_iff.mp hv
    show Text.isBlank 'x' = false
    decide
  exact ⟨t, u, ht, hu, insert, hinsert, find, hfind, mark, hi, hmark, hbound,
    (htaken _ hbound).2.1.mpr hkept⟩

end Parcel

end Rowsmith.Accessor
