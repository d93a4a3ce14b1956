import Rowsmith.Proofs.Schema.AnnotationEffect
import Rowsmith.Proofs.Schema.Extraction

/-!
# Representation of declarations by tables

Which columns stand for which properties, and how the fields of a column constrain
one another. What a column refers to depends on all annotations of its property, so it
is followed through the list of them, one annotation at a time.
-/

namespace Rowsmith.Schema
open Outcome Text

/-- An enumeration of a width, wrapped as nullable any number of times. -/
inductive Resolution.Enumerates (width : Option Width) : Resolution → Prop
  | plain : Enumerates width (.enumeration width)
  | nullable {inner : Resolution} : Enumerates width inner → Enumerates width (.nullable inner)

theorem Resolution.enumWidth?_eq_some_iff {r : Resolution} {width : Option Width} :
    r.enumWidth? = some width ↔ r.Enumerates width := by
  constructor
  · intro h
    induction r with
    | scalar => cases h
    | enumeration known =>
        obtain rfl : known = width := by simpa [enumWidth?] using h
        exact .plain
    | nullable inner ih => exact .nullable (ih h)
  · intro h
    induction h with
    | plain => rfl
    | nullable _ ih => exact ih

/-- The number of bits of an integer type. -/
def Width.bits : Width → Nat
  | w8 => 8
  | w16 => 16
  | w32 => 32
  | w64 => 64

/-- The number of bits of the integers in a column, for the types that hold integers. -/
def ColumnType.bits? : ColumnType → Option Nat
  | smallInt => some 16
  | integer => some 32
  | bigInt => some 64
  | _ => none

theorem ColumnType.bits?_cases {type : ColumnType} {room : Nat} (h : type.bits? = some room) :
    room = 16 ∨ room = 32 ∨ room = 64 := by
  cases type <;> simp_all [bits?]

/-- The column type of the fewest bits among those with room for integers of some bits. -/
def ColumnType.Narrowest (type : ColumnType) (bits : Nat) : Prop :=
  ∃ room, type.bits? = some room ∧ bits ≤ room ∧
    ∀ (other : ColumnType) (more : Nat), other.bits? = some more → bits ≤ more → room ≤ more

/-- A discriminant is held by the narrowest type with room for it; one of unknown width
counts as one of 32 bits. -/
theorem Width.narrowest_columnType (w : Option Width) :
    (Width.columnType w).Narrowest (w.getD .w32).bits := by
  have hroom : ∃ room, (Width.columnType w).bits? = some room ∧ (w.getD .w32).bits ≤ room ∧
      (room = 16 ∨ room < 2 * (w.getD .w32).bits) := by
    rcases w with _ | w
    · exact ⟨32, rfl, by decide⟩
    · cases w
      · exact ⟨16, rfl, by decide⟩
      · exact ⟨16, rfl, by decide⟩
      · exact ⟨32, rfl, by decide⟩
      · exact ⟨64, rfl, by decide⟩
  obtain ⟨room, htype, hbits, hleast⟩ := hroom
  refine ⟨room, htype, hbits, fun other more hother hmore => ?_⟩
  have hroom := ColumnType.bits?_cases htype
  have hother := ColumnType.bits?_cases hother
  omega

/-- A type text with a marker: a question mark behind it, or `Option` around it, blanks
aside. -/
def HasMarker (text : String) : Prop :=
  ∃ inner : List Char, text.toList.filter (!isBlank ·) = inner ++ ['?'] ∨
    ∃ root ∈ [[], [':', ':']], ∃ opening ∈ nullableOpenings,
      text.toList.filter (!isBlank ·) = root ++ opening.toList ++ inner ++ ['>']

theorem enclosed?_eq_some_iff {cs inner : List Char} {opening : String} :
    enclosed? cs opening = some inner ↔ cs = opening.toList ++ inner ++ ['>'] := by
  simp only [enclosed?, Option.bind_eq_bind, Option.bind_eq_some_iff, dropStart?_eq_some_iff,
    dropEnd?_eq_some_iff]
  constructor
  · rintro ⟨rest, rfl, rfl⟩
    rw [List.append_assoc]
  · rintro rfl
    exact ⟨inner ++ ['>'], List.append_assoc _ _ _, rfl⟩

/-- An opening is at the start of a type text that is not rooted. -/
theorem dropStart?_opening {opening : String} (h : opening ∈ nullableOpenings)
    (rest : List Char) : dropStart? [':', ':'] (opening.toList ++ rest) = none := by
  simp only [nullableOpenings, List.mem_cons, List.not_mem_nil, or_false] at h
  rcases h with rfl | rfl | rfl <;> rfl

/-- Openings begin with different letters. -/
theorem opening_unique {opening other : String} (h : opening ∈ nullableOpenings)
    (hother : other ∈ nullableOpenings) {rest rest' : List Char}
    (htext : opening.toList ++ rest = other.toList ++ rest') : opening = other := by
  have hne : ∀ o ∈ nullableOpenings, o.toList ≠ [] := by decide
  have hunique : ∀ o ∈ nullableOpenings, ∀ o' ∈ nullableOpenings,
      o.toList.head? = o'.toList.head? → o = o' := by decide
  have hhead := congrArg List.head? htext
  rw [List.head?_append_of_ne_nil _ (hne _ h), List.head?_append_of_ne_nil _ (hne _ hother)] at hhead
  exact hunique _ h _ hother hhead

/-- What a marker is put on is what is left without it. -/
theorem stripNullable_of_marked {text : String} {inner : List Char}
    (h : text.toList.filter (!isBlank ·) = inner ++ ['?'] ∨
      ∃ root ∈ [[], [':', ':']], ∃ opening ∈ nullableOpenings,
        text.toList.filter (!isBlank ·) = root ++ opening.toList ++ inner ++ ['>']) :
    stripNullable text = (String.ofList inner, true) := by
  unfold stripNullable
  obtain hmark | ⟨root, hroot, opening, hopening, hmark⟩ := h
  · simp only [dropEnd?_eq_some_iff.mpr hmark]
  · have hend : dropEnd? ['?'] (root ++ opening.toList ++ inner ++ ['>']) = none := by
      cases hend : dropEnd? ['?'] (root ++ opening.toList ++ inner ++ ['>']) with
      | none => rfl
      | some other =>
          have hlast := congrArg List.getLast? (dropEnd?_eq_some_iff.mp hend)
          rw [List.getLast?_concat, List.getLast?_concat] at hlast
          exact absurd hlast (by decide)
    have hunrooted : (dropStart? [':', ':'] (root ++ opening.toList ++ inner ++ ['>'])).getD
        (root ++ opening.toList ++ inner ++ ['>']) = opening.toList ++ inner ++ ['>'] := by
      rcases List.mem_pair.mp hroot with rfl | rfl
      · simp [dropStart?_opening hopening]
      · simp [dropStart?]
    have hfound : nullableOpenings.findSome? (enclosed? (opening.toList ++ inner ++ ['>'])) =
        some inner := by
      have hown : enclosed? (opening.toList ++ inner ++ ['>']) opening = some inner :=
        enclosed?_eq_some_iff.mpr rfl
      have hsome : (nullableOpenings.findSome?
          (enclosed? (opening.toList ++ inner ++ ['>']))).isSome = true :=
        List.findSome?_isSome_iff.mpr ⟨opening, hopening, by rw [hown]; rfl⟩
      obtain ⟨found, hfound⟩ := Option.isSome_iff_exists.mp hsome
      obtain ⟨other, hother, hinner⟩ := List.exists_of_findSome?_eq_some hfound
      have htext := enclosed?_eq_some_iff.mp hinner
      rw [List.append_assoc, List.append_assoc] at htext
      obtain rfl := opening_unique hopening hother htext
      rw [hfound, ← hinner, hown]
    rw [hmark]
    simp only [hend, hunrooted, hfound]

/-- A marker is found wherever there is one. -/
theorem stripNullable_of_hasMarker {text : String} (h : HasMarker text) :
    (stripNullable text).2 = true := by
  obtain ⟨inner, hmark⟩ := h
  rw [stripNullable_of_marked hmark]

/-- How the fields of a column constrain one another. -/
structure Column.WellFormed (c : Column) : Prop where
  enum_plain : c.isEnum = true → c.needsBridge = false
  enum_type : c.isEnum = true → c.columnType.Narrowest (c.enumWidth.getD .w32).bits
  width_enum : c.enumWidth.isSome = true → c.isEnum = true
  bridge_type : c.needsBridge = true → c.columnType = .text ∨ c.columnType = .varchar
  varchar_length : c.columnType = .varchar → c.length.isSome = true
  marker_nullable : HasMarker c.propertyType → c.isNullable = true
  reference_both : c.referenceTable.isSome = c.referenceField.isSome
  reference_foreign : c.referenceTable.isSome = true → c.isForeignKey = true

/-- A well-formed column that stands for a property. -/
structure Column.Represents (resolver : Resolver) (p : Property) (c : Column) : Prop where
  name : c.propertyName = p.name
  type : c.propertyType = p.type
  enumeration : ∀ width,
    c.isEnum = true ∧ c.enumWidth = width ↔ (resolver c.baseType).Enumerates width
  wellFormed : c.WellFormed

/-- A table whose columns are those of the properties that are read and written, in
their order, with one key among them. -/
structure Table.Represents (resolver : Resolver) (d : Declaration) (t : Table) : Prop where
  columns : List.Forall₂ (fun p c => columnOf resolver p = .ok c ∧ c.Represents resolver p)
    (d.properties.filter (·.isColumn)) t.columns
  skipped : t.skipped = (d.properties.filter (!·.isColumn)).map (·.name)
  key : t.columns.filter (·.isPrimaryKey) = [t.key]
  uniques : [] ∉ t.uniques

/-- Only what is marked as a foreign key refers to a column. -/
def Marks.Referring (m : Marks) : Prop :=
  m.reference.isSome = true → m.isForeignKey = true

theorem Marks.referring_annotate {property : String} {m m' : Marks} {a : Annotation}
    (hm : m.Referring) (h : m.annotate property a = .ok m') : m'.Referring := by
  obtain ⟨-, rfl⟩ := Marks.annotate_eq_ok_iff.mp h
  intro hreference
  rw [reference_after, Option.isSome_or, Bool.or_eq_true] at hreference
  rw [isForeignKey_after, Bool.or_eq_true]
  refine hreference.symm.imp hm fun hgiven => ?_
  by_contra hforeign
  unfold Annotation.reference? at hgiven
  rw [if_neg hforeign] at hgiven
  cases hgiven

theorem referring_of_marksOf {p : Property} {m : Marks} (h : marksOf p = .ok m) :
    m.Referring :=
  foldlM_induction Marks.Referring (by simp [Marks.Referring])
    (fun _ _ _ => Marks.referring_annotate) h

/-- No host type is held in a column of sized texts as it is. -/
theorem nativeType?_ne_varchar (text : String) : nativeType? text ≠ some .varchar := by
  intro h
  have hmem : (normalize text, ColumnType.varchar) ∈ nativeTypes := mem_of_lookup h
  have hne : ∀ entry ∈ nativeTypes, entry.2 ≠ .varchar := by decide
  exact hne _ hmem rfl

theorem Width.columnType_ne_varchar (w : Option Width) : Width.columnType w ≠ .varchar := by
  rcases w with _ | w
  · exact nofun
  · cases w <;> exact nofun

/-- A column of sized texts has a size. -/
theorem length_of_varchar (resolver : Resolver) (p : Property) (m : Marks)
    (h : (columnWith resolver p m).columnType = .varchar) : m.length.isSome = true := by
  by_contra hl
  rcases hw : (resolver (stripNullable p.type).1).enumWidth? with _ | w
  · have hmap : (mapHostType (stripNullable p.type).1).columnType = .varchar := by
      simpa [columnWith, hw, hl] using h
    rcases mapHostType_cases (stripNullable p.type).1 with ⟨type, hn, hm⟩ | ⟨-, hm⟩
    · obtain rfl : type = .varchar := by simpa [hm] using hmap
      exact nativeType?_ne_varchar _ hn
    · simp [hm] at hmap
  · have hwidth : Width.columnType w = .varchar := by simpa [columnWith, hw] using h
    exact Width.columnType_ne_varchar w hwidth

/-- The column of a property is well-formed whatever the annotations and the resolver. -/
theorem wellFormed_columnWith (resolver : Resolver) (p : Property) {m : Marks}
    (hm : m.Referring) : (columnWith resolver p m).WellFormed := by
  have hc := columnWith_coherent resolver p m
  constructor
  · exact hc.enum_plain
  · intro h
    rw [hc.enum_type h]
    exact Width.narrowest_columnType _
  · intro h
    rcases hw : (resolver (stripNullable p.type).1).enumWidth? with _ | w
    · simp [columnWith, hw] at h
    · simp [columnWith, hw]
  · exact hc.bridge_type
  · exact length_of_varchar resolver p m
  · exact fun h => hc.optional_nullable (stripNullable_of_hasMarker h)
  · cases hr : m.reference <;> simp [columnWith, hr]
  · intro h
    have href : m.reference.isSome = true := by simpa [columnWith] using h
    exact hm href

/-- A column stands for the property it comes from. -/
theorem represents_of_columnOf {resolver : Resolver} {p : Property} {c : Column}
    (h : columnOf resolver p = .ok c) : c.Represents resolver p := by
  obtain ⟨m, hm, hc⟩ := bind_eq_ok_iff.mp h
  obtain rfl : columnWith resolver p m = c := pure_eq_ok_iff.mp hc
  refine ⟨rfl, rfl, ?_, wellFormed_columnWith resolver p (referring_of_marksOf hm)⟩
  intro width
  rw [← Resolution.enumWidth?_eq_some_iff]
  show (resolver (stripNullable p.type).1).enumWidth?.isSome = true ∧
      (resolver (stripNullable p.type).1).enumWidth?.join = width ↔ _
  show _ ↔ (resolver (stripNullable p.type).1).enumWidth? = some width
  cases (resolver (stripNullable p.type).1).enumWidth? <;> simp

/-- Every table that is extracted represents its declaration. -/
theorem represents_of_extract {resolver : Resolver} {d : Declaration} {t : Table}
    (h : extract resolver d = .ok t) : t.Represents resolver d := by
  obtain ⟨hcolumns, hkey, ht⟩ := extract_eq_ok_iff.mp h
  constructor
  · exact (mapM_eq_ok_iff.mp hcolumns).imp fun p c hc => ⟨hc, represents_of_columnOf hc⟩
  · rw [ht]
  · exact hkey
  · rw [ht]
    simp [tableUniques]

/-- A class with an enumeration behind two nullable types, a foreign key, a sized text, a
bridged type and a property without a column. -/
def rental : Declaration :=
  { name := "Rental"
    annotations := [
      { name := "table_unique", positional := [.text "member", .nameOf "code"] },
      { name := "table_unique" }]
    properties := [
      { name := "grade", type := "Option<Grade>" },
      { name := "id", type := "u64", annotations := [{ name := "primary_key" }] },
      { name := "member", type := "u64"
        annotations := [{ name := "foreign_key", positional := [.text "Member", .text "id"] }] },
      { name := "code", type := "String"
        annotations := [{ name := "varchar", positional := [.integer "12"] }] },
      { name := "place", type := "Place?" },
      { name := "label", type := "String", access := .readOnly }] }

/-- Knows the grade of a rental as a nullable enumeration of 16 bits, nullable again. -/
def rentalResolver : Resolver := fun text =>
  if text = "Grade" then .nullable (.nullable (.enumeration (some .w16))) else .scalar

set_option maxRecDepth 100000 in
theorem represents_rental :
    ∃ t, extract rentalResolver rental = .ok t ∧ t.Represents rentalResolver rental := by
  have hok : (extract rentalResolver rental).isOk = true := by decide +kernel
  obtain ⟨t, ht⟩ := exists_of_isOk hok
  exact ⟨t, ht, represents_of_extract ht⟩

end Rowsmith.Schema
