import Rowsmith.Proofs.Schema.AnnotationEffect
import Rowsmith.Proofs.Schema.Extraction
import Rowsmith.Proofs.Text.IntegerText

/-!
# Failures of extraction

Extraction fails by the annotations of columns alone: by the first length that is none, and else by
the number of keys. What all annotations of a column say follows from the effect of one, by induction
on them.
-/

namespace Rowsmith.Schema
open Outcome Text

/-- A text or an integer that writes a length: digits behind an optional plus, with a value up to
255, and blanks around. -/
def Argument.IsLength : Argument → Prop
  | text s | integer s => ∃ digits, IsNumeral digits ∧ numeralValue digits ≤ 255 ∧
      (trimBlanks s.toList = digits ∨ trimBlanks s.toList = '+' :: digits)
  | nameOf _ | expression _ => False

theorem exists_integerOf_word8_iff {cs : List Char} :
    (∃ n, integerOf .word8 cs = .ok n) ↔
      ∃ digits, IsNumeral digits ∧ numeralValue digits ≤ 255 ∧
        (cs = digits ∨ cs = '+' :: digits) := by
  simp only [integerOf_eq_ok_iff]
  constructor
  · rintro ⟨n, hwrites, hmem⟩
    cases hwrites with
    | plain hds => exact ⟨_, hds, Int.ofNat_le.mp hmem.2, Or.inl rfl⟩
    | plus hds => exact ⟨_, hds, Int.ofNat_le.mp hmem.2, Or.inr rfl⟩
    | minus _ hrange => exact absurd hrange (by decide)
  · rintro ⟨digits, hds, hvalue, rfl | rfl⟩
    · exact ⟨_, .plain hds, Int.natCast_nonneg _, Int.ofNat_le.mpr hvalue⟩
    · exact ⟨_, .plus hds, Int.natCast_nonneg _, Int.ofNat_le.mpr hvalue⟩

/-- The arguments that give a length are those that write one. -/
theorem lengthOf?_isSome_iff {argument : Argument} :
    (lengthOf? argument).isSome = true ↔ argument.IsLength := by
  cases argument with
  | text s | integer s =>
      rw [Argument.IsLength, ← exists_integerOf_word8_iff, lengthOf?]
      cases integerOf .word8 (trimBlanks s.toList) <;> simp
  | nameOf s | expression s => simp [lengthOf?, Argument.IsLength]

instance (argument : Argument) : Decidable argument.IsLength :=
  decidable_of_iff _ lengthOf?_isSome_iff

/-- An annotation whose length is none. -/
inductive BadLength (property : String) (a : Annotation) : GenerationError → Prop
  | intro {argument : Argument} (given : a.lengthArgument? = some argument)
      (bad : ¬ argument.IsLength) :
      BadLength property a (.invalidLength property argument.asText)

namespace Marks
open Annotation

variable {property : String} {m m' : Marks} {a : Annotation} {fault : GenerationError}

/-- An annotation fails by its length alone, whatever was said before it. -/
theorem annotate_eq_error_iff :
    m.annotate property a = .error fault ↔ BadLength property a fault := by
  rw [annotate_eq]
  constructor
  · intro h
    split at h
    · next argument hbad =>
        obtain ⟨given, hnone⟩ := Option.filter_eq_some_iff.mp hbad
        obtain rfl := Except.error.inj h
        have bad : ¬ argument.IsLength := by
          rw [← lengthOf?_isSome_iff]
          simpa using hnone
        exact .intro given bad
    · cases h
  · rintro ⟨given, bad⟩
    next argument =>
    rw [← lengthOf?_isSome_iff] at bad
    have hbad : a.badLength? = some argument :=
      Option.filter_eq_some_iff.mpr ⟨given, by simpa using bad⟩
    simp only [hbad]

/-- A length that is to be given is one, unless the annotation fails. -/
theorem isSome_length_after (h : a.badLength? = none) (m : Marks) :
    (m.after a).length.isSome = (m.length.isSome || a.lengthArgument?.isSome) := by
  have hlength : (a.lengthArgument?.bind lengthOf?).isSome = a.lengthArgument?.isSome := by
    cases hargument : a.lengthArgument? with
    | none => rfl
    | some argument =>
        simpa [badLength?, hargument, Option.isSome_iff_ne_none] using h
  rw [length_after, Option.isSome_or, hlength, Bool.or_comm]

/-- Annotations that all succeed take the marks to the last name that is given, and to whatever one
of them says. -/
theorem foldlM_annotate {annotations : List Annotation}
    (h : annotations.foldlM (annotate property) m = .ok m') :
    m'.name = ((annotations.filterMap columnName?).getLast?).getD m.name ∧
    m'.isPrimaryKey = (m.isPrimaryKey || annotations.any (·.is "primary_key")) ∧
    m'.length.isSome = (m.length.isSome || annotations.any (·.lengthArgument?.isSome)) := by
  induction annotations generalizing m with
  | nil =>
      obtain rfl := pure_eq_ok_iff.mp h
      simp
  | cons a annotations ih =>
      rw [List.foldlM_cons] at h
      obtain ⟨m₁, hm₁, hrest⟩ := bind_eq_ok_iff.mp h
      obtain ⟨hlength, rfl⟩ := annotate_eq_ok_iff.mp hm₁
      obtain ⟨hnames, hkeys, hlengths⟩ := ih hrest
      refine ⟨?_, ?_, ?_⟩
      · rw [hnames, name_after]
        cases hgiven : a.columnName? with
        | none => simp [hgiven]
        | some name => simp [hgiven, List.getLast?_cons]
      · rw [hkeys, isPrimaryKey_after, List.any_cons, Bool.or_assoc]
      · rw [hlengths, isSome_length_after hlength, List.any_cons, Bool.or_assoc]

end Marks

namespace Property

/-- The name of the column of a property: the last one that an annotation gives. -/
def columnName (p : Property) : String :=
  (p.annotations.filterMap Annotation.columnName?).getLast?.getD (defaultColumnName p.name)

/-- Whether an annotation is to give the column of a property a length. -/
def isSized (p : Property) : Bool := p.annotations.any (·.lengthArgument?.isSome)

/-- Whether a property is marked as the key. -/
def isKey (p : Property) : Bool := p.hasAnnotation "primary_key"

/-- A property whose first bad length fails in a way. -/
def FirstBadLength (p : Property) (fault : GenerationError) : Prop :=
  FirstFault (BadLength p.name) p.annotations fault

end Property

section Column

variable {resolver : Resolver} {p : Property} {c : Column} {fault : GenerationError}

/-- The column of a property fails by its first bad length. -/
theorem columnOf_eq_error_iff :
    columnOf resolver p = .error fault ↔ p.FirstBadLength fault := by
  have hstep : ∀ (m : Marks) (a : Annotation) (fault : GenerationError),
      m.annotate p.name a = .error fault ↔ BadLength p.name a fault :=
    fun _ _ _ => Marks.annotate_eq_error_iff
  have hmarks : marksOf p = .error fault ↔ p.FirstBadLength fault := foldlM_eq_error_iff hstep
  rw [columnOf, bind_eq_error_iff, hmarks]
  refine or_iff_left ?_
  rintro ⟨m, -, h⟩
  cases h

/-- The column of a property goes by the last name that is given and is the key if one annotation
says so. -/
theorem columnOf_spec (h : columnOf resolver p = .ok c) :
    c.name = p.columnName ∧ c.isPrimaryKey = p.isKey ∧ c.length.isSome = p.isSized := by
  obtain ⟨m, hm, hc⟩ := bind_eq_ok_iff.mp h
  obtain rfl := pure_eq_ok_iff.mp hc
  obtain ⟨hname, hkey, hlength⟩ := Marks.foldlM_annotate hm
  have hany : p.isKey = p.annotations.any (·.is "primary_key") := by
    rw [Property.isKey, Property.hasAnnotation, Property.findAnnotation?, Bool.eq_iff_iff,
      List.find?_isSome, List.any_eq_true]
  exact ⟨hname, hkey.trans hany.symm, hlength⟩

end Column

/-- The properties of a class that are held in columns. -/
def Declaration.columnProperties (d : Declaration) : List Property :=
  d.properties.filter (·.isColumn)

/-- The properties of columns that are marked as the key. -/
def Declaration.keys (d : Declaration) : List Property :=
  d.columnProperties.filter (·.isKey)

/-- The columns that are marked as the key are those of the properties that are. -/
theorem names_of_keys {resolver : Resolver} {properties : List Property} {columns : List Column}
    (h : properties.mapM (columnOf resolver) = .ok columns) :
    (columns.filter (·.isPrimaryKey)).map (·.name) =
      (properties.filter (·.isKey)).map (·.columnName) := by
  have hcolumns := mapM_eq_ok_iff.mp h
  clear h
  induction hcolumns with
  | nil => rfl
  | @cons p c properties columns hc _ ih =>
      obtain ⟨hname, hkey, -⟩ := columnOf_spec hc
      rw [List.filter_cons, List.filter_cons, hkey]
      split
      · rw [List.map_cons, List.map_cons, ih, hname]
      · exact ih

theorem keyOf_eq_error_iff {className : String} {columns : List Column} {fault : GenerationError} :
    keyOf className columns = .error fault ↔
      (columns.filter (·.isPrimaryKey) = [] ∧ fault = .missingKey className) ∨
      (2 ≤ (columns.filter (·.isPrimaryKey)).length ∧
        fault = .severalKeys className ((columns.filter (·.isPrimaryKey)).map (·.name))) := by
  unfold keyOf
  generalize columns.filter (·.isPrimaryKey) = keys
  match keys with
  | [] => simp [eq_comm]
  | [key] => simp
  | first :: second :: rest => simp [eq_comm]

/-- Every length that is to be given to a column is one. -/
def Declaration.LengthsGood (d : Declaration) : Prop :=
  ∀ p ∈ d.columnProperties, ∀ a ∈ p.annotations, ∀ argument ∈ a.lengthArgument?, argument.IsLength

instance (d : Declaration) : Decidable d.LengthsGood :=
  inferInstanceAs (Decidable (∀ p ∈ d.columnProperties, ∀ a ∈ p.annotations,
    ∀ argument ∈ a.lengthArgument?, argument.IsLength))

/-- The lengths are good where there is no first one that is bad. -/
theorem lengthsGood_iff {d : Declaration} : d.LengthsGood ↔
    ¬ ∃ fault, FirstFault Property.FirstBadLength d.columnProperties fault := by
  have hbad : ∀ (p : Property) (a : Annotation), (∃ fault, BadLength p.name a fault) ↔
      ∃ argument, a.lengthArgument? = some argument ∧ ¬ argument.IsLength := by
    intro p a
    constructor
    · rintro ⟨_, ⟨given, bad⟩⟩
      exact ⟨_, given, bad⟩
    · rintro ⟨argument, given, bad⟩
      exact ⟨_, .intro given bad⟩
  rw [exists_firstFault_iff]
  simp only [Property.FirstBadLength, exists_firstFault_iff, hbad, Declaration.LengthsGood]
  push Not
  rfl

/-- How a class fails: by the first bad length of a column, or else by having no key or several. -/
inductive Declaration.Fails (d : Declaration) : GenerationError → Prop
  | badLength {fault : GenerationError}
      (first : FirstFault Property.FirstBadLength d.columnProperties fault) : d.Fails fault
  | missingKey (lengths : d.LengthsGood) (none : d.keys = []) : d.Fails (.missingKey d.name)
  | severalKeys (lengths : d.LengthsGood) (several : 2 ≤ d.keys.length) :
      d.Fails (.severalKeys d.name (d.keys.map (·.columnName)))

section Failing

variable (resolver : Resolver) {d : Declaration} {fault : GenerationError}

theorem columns_eq_error_iff :
    d.columnProperties.mapM (columnOf resolver) = .error fault ↔
      FirstFault Property.FirstBadLength d.columnProperties fault := by
  simp only [mapM_eq_error_iff_firstFault, columnOf_eq_error_iff]

/-- Extraction fails as the columns do, and else by their keys. -/
theorem extract_eq_error : extract resolver d = .error fault ↔
    FirstFault Property.FirstBadLength d.columnProperties fault ∨
      ∃ columns, d.columnProperties.mapM (columnOf resolver) = .ok columns ∧
        keyOf d.name columns = .error fault := by
  rw [← columns_eq_error_iff resolver, extract, bind_eq_error_iff]
  refine or_congr_right (exists_congr fun columns => and_congr_right fun _ => ?_)
  rw [bind_eq_error_iff]
  refine or_iff_left ?_
  rintro ⟨key, -, h⟩
  cases h

theorem exists_columns_iff :
    (∃ columns, d.columnProperties.mapM (columnOf resolver) = .ok columns) ↔ d.LengthsGood := by
  simp only [lengthsGood_iff, ← columns_eq_error_iff resolver]
  cases d.columnProperties.mapM (columnOf resolver) <;> simp

variable {resolver} in
theorem keys_of_columns {columns : List Column}
    (h : d.columnProperties.mapM (columnOf resolver) = .ok columns) :
    keyOf d.name columns = .error fault ↔
      (d.keys = [] ∧ fault = .missingKey d.name) ∨
      (2 ≤ d.keys.length ∧ fault = .severalKeys d.name (d.keys.map (·.columnName))) := by
  have hnames : (columns.filter (·.isPrimaryKey)).map (·.name) = d.keys.map (·.columnName) :=
    names_of_keys h
  have hlength := congrArg List.length hnames
  rw [List.length_map, List.length_map] at hlength
  rw [keyOf_eq_error_iff, hnames, hlength, ← List.length_eq_zero_iff, hlength,
    List.length_eq_zero_iff]

/-- A class fails exactly as it is said to. -/
theorem extract_eq_error_iff : extract resolver d = .error fault ↔ d.Fails fault := by
  rw [extract_eq_error]
  constructor
  · rintro (h | ⟨columns, hcolumns, h⟩)
    · exact .badLength h
    · have hlengths : d.LengthsGood := (exists_columns_iff resolver).mp ⟨columns, hcolumns⟩
      rcases (keys_of_columns hcolumns).mp h with ⟨hnone, rfl⟩ | ⟨hseveral, rfl⟩
      · exact .missingKey hlengths hnone
      · exact .severalKeys hlengths hseveral
  · intro h
    cases h with
    | badLength first => exact Or.inl first
    | missingKey lengths none =>
        obtain ⟨columns, hcolumns⟩ := (exists_columns_iff resolver).mpr lengths
        exact Or.inr ⟨columns, hcolumns, (keys_of_columns hcolumns).mpr (Or.inl ⟨none, rfl⟩)⟩
    | severalKeys lengths several =>
        obtain ⟨columns, hcolumns⟩ := (exists_columns_iff resolver).mpr lengths
        exact Or.inr ⟨columns, hcolumns, (keys_of_columns hcolumns).mpr (Or.inr ⟨several, rfl⟩)⟩

/-- A class does not fail exactly if its lengths are good and it has one key. -/
theorem exists_extract_iff :
    (∃ t, extract resolver d = .ok t) ↔ d.LengthsGood ∧ ∃ p, d.keys = [p] := by
  have hok : (∃ t, extract resolver d = .ok t) ↔ ∀ fault, ¬ d.Fails fault := by
    simp only [← extract_eq_error_iff resolver]
    cases extract resolver d <;> simp
  rw [hok]
  constructor
  · intro h
    have hlengths : d.LengthsGood :=
      lengthsGood_iff.mpr fun ⟨fault, first⟩ => h fault (.badLength first)
    refine ⟨hlengths, ?_⟩
    match hkeys : d.keys with
    | [] => exact absurd (.missingKey hlengths hkeys) (h _)
    | [p] => exact ⟨p, rfl⟩
    | _ :: _ :: _ => exact absurd (.severalKeys hlengths (by simp [hkeys])) (h _)
  · rintro ⟨hlengths, p, hp⟩ fault h
    cases h with
    | badLength first => exact lengthsGood_iff.mp hlengths ⟨fault, first⟩
    | missingKey _ none => simp [hp] at none
    | severalKeys _ several => simp [hp] at several

end Failing

/-- A property with other annotations in its place; one that a column holds keeps its own. -/
inductive Property.Reannotated (p : Property) : Property → Prop
  | column : p.Reannotated p
  | other (annotations : List Annotation) (h : p.isColumn = false) :
      p.Reannotated { p with annotations }

/-- The columns of reannotated properties are the same, and the names of the others are. -/
theorem filter_of_reannotated {ps qs : List Property}
    (h : List.Forall₂ Property.Reannotated ps qs) :
    qs.filter (·.isColumn) = ps.filter (·.isColumn) ∧
      (qs.filter (!·.isColumn)).map (·.name) = (ps.filter (!·.isColumn)).map (·.name) := by
  induction h with
  | nil => exact ⟨rfl, rfl⟩
  | @cons p q ps qs hpq _ ih =>
      obtain ⟨hcolumns, hothers⟩ := ih
      cases hpq with
      | column => cases hp : p.isColumn <;> simp [hp, hcolumns, hothers]
      | other annotations hp =>
          have hq : ({ p with annotations } : Property).isColumn = false := hp
          simp [hp, hq, hcolumns, hothers]

/-- What properties say that no column holds is not looked at. -/
theorem extract_reannotated {resolver : Resolver} {d : Declaration} {properties : List Property}
    (h : List.Forall₂ Property.Reannotated d.properties properties) :
    extract resolver { d with properties } = extract resolver d := by
  obtain ⟨hcolumns, hothers⟩ := filter_of_reannotated h
  simp only [extract, hcolumns, hothers]
  rfl

/-- Extraction fails by the first bad length in the columns, else by having no key or several, else
not at all, and what other properties are annotated with changes nothing. -/
theorem extract_settled (resolver : Resolver) (d : Declaration) :
    (∀ fault, extract resolver d = .error fault ↔ d.Fails fault) ∧
    ((∃ t, extract resolver d = .ok t) ↔ d.LengthsGood ∧ ∃ p, d.keys = [p]) ∧
    ∀ properties, List.Forall₂ Property.Reannotated d.properties properties →
      extract resolver { d with properties } = extract resolver d :=
  ⟨fun _ => extract_eq_error_iff resolver, exists_extract_iff resolver, fun _ => extract_reannotated⟩

/-- A class with two keys, one of them named twice, and a property that is only read. -/
def pair (annotations : List Annotation) : Declaration :=
  { name := "Pair"
    properties := [
      { name := "first", type := "i64", annotations := [{ name := "PrimaryKey" },
        { name := "column_name", positional := [.text "a"] },
        { name := "column_name", named := [("name", .text "b")] }] },
      { name := "note", type := "String", access := .readOnly, annotations },
      { name := "second", type := "u8", annotations := [{ name := "primary_key" },
        { name := "varchar", positional := [.text " +255 "] }] }] }

/-- The two keys are listed; a bad length of the property that is only read is not looked at. -/
theorem extract_pair :
    extract memberResolver (pair [{ name := "varchar", positional := [.integer "256"] }]) =
      .error (.severalKeys "Pair" ["b", "second"]) := by
  obtain ⟨hfailing, -, hframe⟩ := extract_settled memberResolver (pair [])
  have hsame := hframe (pair [{ name := "varchar", positional := [.integer "256"] }]).properties
    (.cons .column (.cons (.other _ rfl) (.cons .column .nil)))
  have hnames : (pair []).keys.map (·.columnName) = ["b", "second"] := by decide
  have hfails := (hfailing _).mpr (.severalKeys (by decide) (by decide))
  rw [hnames] at hfails
  exact hsame.trans hfails

end Rowsmith.Schema
