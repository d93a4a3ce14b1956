import Rowsmith.Proofs.Accessor.Column
import Rowsmith.Proofs.Derive.Faults
import Rowsmith.Proofs.Schema.Extraction

/-!
# Widths that fields declare

A field may declare the width of the enumeration that it holds. The width is noted for the type of
the field and not for the field, and under the folded text of the type. Of all fields with types of
one folded text the last one that declares a width decides for every one of them.
-/

namespace Rowsmith.Accessor
open Schema Source

theorem FormFor.of_isEnum {className : String} {c : Column} {form : ReadingForm}
    (h : FormFor className c form) (henum : c.isEnum = true) :
    ∃ type, form = .discriminant (Width.discriminantType c.enumWidth) type c.baseType := by
  cases h with
  | discriminant => exact ⟨_, rfl⟩
  | bridge hplain => exact absurd (henum.symm.trans hplain) (by decide)
  | narrowing hplain => exact absurd (henum.symm.trans hplain) (by decide)

end Rowsmith.Accessor

namespace Rowsmith.Schema

/-- The width that an annotation declares for an enumeration: unknown if it names no integer type,
and none if it declares no enumeration. -/
def Annotation.enumWidth? (a : Annotation) : Option (Option Width) :=
  if a.is "enumeration" then
    some ((a.argument? "repr" 0).bind fun argument => Width.ofTypeText? argument.asText)
  else none

/-- A column that holds an enumeration of a width by its discriminant. -/
structure HoldsDiscriminant (c : Column) (width : Option Width) : Prop where
  isEnum : c.isEnum = true
  enumWidth : c.enumWidth = width
  columnType : c.columnType = Width.columnType width
  binding : ∃ binding, Accessor.bindingOf c = .ok binding ∧
    binding.form = .discriminant (Width.discriminantType width)
  reading : ∀ className ordinal reading,
    Accessor.readingOf className ordinal c = .ok reading →
      reading.getter = (Width.columnType width).getter ∧
      ∃ type, reading.form = .discriminant (Width.discriminantType width) type c.baseType

/-- A column holds an enumeration of the given width, or none if there is none. -/
def HeldAs (c : Column) : Option (Option Width) → Prop
  | some width => HoldsDiscriminant c width
  | none => c.isEnum = false

theorem holdsDiscriminant_of_isEnum {c : Column} (hcoherent : c.Coherent)
    (henum : c.isEnum = true) : HoldsDiscriminant c c.enumWidth where
  isEnum := henum
  enumWidth := rfl
  columnType := hcoherent.enum_type henum
  binding := by
    refine ⟨Accessor.bindingFor c, Accessor.bindingOf_eq_ok_iff.mpr ⟨rfl, ?_⟩, ?_⟩
    · intro hplain
      rw [henum] at hplain
      cases hplain
    · simp only [Accessor.bindingFor, henum, if_true]
  reading := by
    intro className ordinal reading hreading
    obtain ⟨-, -, hgetter, hform, -, -⟩ := Accessor.readingOf_reads hreading
    exact ⟨hgetter.trans (congrArg ColumnType.getter (hcoherent.enum_type henum)),
      hform.of_isEnum henum⟩

/-- A column is held as its type is resolved. -/
theorem heldAs_columnWith (resolver : Resolver) (p : Property) (m : Marks) :
    HeldAs (columnWith resolver p m) (resolver (stripNullable p.type).1).enumWidth? := by
  have hcoherent := columnWith_coherent resolver p m
  cases hwidth : (resolver (stripNullable p.type).1).enumWidth? with
  | none => simp [HeldAs, columnWith, hwidth]
  | some width =>
      have hcolumn : (columnWith resolver p m).enumWidth = width := by simp [columnWith, hwidth]
      have henum : (columnWith resolver p m).isEnum = true := by simp [columnWith, hwidth]
      exact hcolumn ▸ holdsDiscriminant_of_isEnum hcoherent henum

/-- A column is held in one way. -/
theorem HeldAs.unique {c : Column} {first second : Option (Option Width)} (hfirst : HeldAs c first)
    (hsecond : HeldAs c second) : first = second := by
  match first, second, hfirst, hsecond with
  | none, none, _, _ => rfl
  | some _, some _, hfirst, hsecond => rw [← hfirst.enumWidth, ← hsecond.enumWidth]
  | none, some _, hplain, henum => exact absurd (henum.isEnum.symm.trans hplain) (by decide)
  | some _, none, henum, hplain => exact absurd (henum.isEnum.symm.trans hplain) (by decide)

end Rowsmith.Schema

namespace Rowsmith.Derive
open Outcome Schema Source

/-- The annotations that the attributes of a field are. -/
def annotationsOf (field : Field) : List Annotation :=
  (fieldSources field).filterMap fun a => (annotationOf a).toOption

/-- Whether a field is left out of the table. -/
def isSkipped (field : Field) : Bool := (annotationsOf field).any (·.is "skip")

/-- The text of the type of a field without its nullable marker. -/
def baseType (field : Field) : String := (stripNullable (typeText field.type)).1

/-- The widths that a field declares for its type. -/
def widthsOf (field : Field) : List (Option Width) :=
  (annotationsOf field).filterMap Annotation.enumWidth?

/-- The widths that fields declare for a type, by the folded text of theirs. -/
def widthsFor (fields : List Field) (type : String) : List (Option Width) :=
  (fields.filter fun field => normalize type = normalize (baseType field)).flatMap widthsOf

/-- Whether each field that declares one known width is held in a column of that width. -/
def WidthsHonoured (fields : List Field) (t : Table) : Prop :=
  List.Forall₂ (fun field column => ∀ width, widthsOf field = [some width] →
    HoldsDiscriminant column (some width)) (fields.filter (!isSkipped ·)) t.columns

/-- An annotation that leaves a field out declares no width. -/
theorem noteEnumeration_eq (hints : Hints) (base : String) (a : Annotation) :
    noteEnumeration hints base a = a.enumWidth?.elim hints (hints.insert base) := by
  unfold noteEnumeration Annotation.enumWidth?
  by_cases hskip : a.is "skip" = true
  · have hname : canonicalName a.name = canonicalName "skip" := beq_iff_eq.mp hskip
    have hplain : a.is "enumeration" = false := by
      unfold Annotation.is
      rw [hname]
      decide
    simp [hskip, hplain]
  · rw [if_neg hskip]
    by_cases henum : a.is "enumeration" = true <;> simp [henum]

/-- The last of the widths that annotations note for a type decides. -/
theorem resolve_noted (hints : Hints) (base : String) (annotations : List Annotation)
    (type : String) :
    (annotations.foldl (noteEnumeration · base ·) hints).resolve type =
      if normalize type = normalize base then
        (annotations.filterMap Annotation.enumWidth?).getLast?.elim (hints.resolve type)
          .enumeration
      else hints.resolve type := by
  induction annotations generalizing hints with
  | nil => simp
  | cons a annotations ih =>
      rw [List.foldl_cons, ih, noteEnumeration_eq, List.filterMap_cons]
      cases a.enumWidth? with
      | none => rfl
      | some width =>
          simp only [Option.elim_some, Hints.resolve_insert]
          split
          · cases hlater : annotations.filterMap Annotation.enumWidth? <;>
              simp [List.getLast?_cons]
          · rfl

theorem annotationsOf_eq {field : Field} {annotations : List Annotation}
    (h : (fieldSources field).mapM annotationOf = .ok annotations) :
    annotationsOf field = annotations := by
  have hall := mapM_eq_ok_iff.mp h
  rw [annotationsOf]
  generalize fieldSources field = sources at hall ⊢
  clear h
  induction hall with
  | nil => rfl
  | cons hfirst _ ih =>
      rw [List.filterMap_cons, hfirst]
      exact congrArg (_ :: ·) ih

/-- A property that is declared by a field. -/
structure DeclaredBy (field : Field) (p : Property) : Prop where
  name : p.name = field.name
  type : p.type = typeText field.type
  annotations : p.annotations = annotationsOf field
  isColumn : p.isColumn = !isSkipped field

theorem propertyOf_eq_ok {hints : Hints} {field : Field} {made : Property × Hints}
    (h : propertyOf hints field = .ok made) :
    DeclaredBy field made.1 ∧
      made.2 = (annotationsOf field).foldl (noteEnumeration · (baseType field) ·) hints := by
  rw [propertyOf] at h
  rcases hstrip : stripNullable (typeText field.type) with ⟨base, nullable⟩
  simp only [hstrip] at h
  obtain ⟨annotations, hannotations, hmade⟩ := bind_eq_ok_iff.mp h
  obtain rfl := pure_eq_ok_iff.mp hmade
  obtain rfl := annotationsOf_eq hannotations
  have hbase : baseType field = base := congrArg Prod.fst hstrip
  refine ⟨⟨rfl, rfl, rfl, ?_⟩, by rw [hbase]⟩
  show Access.isColumn (if isSkipped field = true then _ else _) = _
  cases isSkipped field <;> rfl

/-- Without faults the properties are those of the fields, one by one, and a type is resolved by the
last width that the fields declare for it. -/
theorem classProperties_of_faultless {hints : Hints} {fields : List Field}
    (h : (classProperties hints fields).1.2 = []) :
    List.Forall₂ DeclaredBy fields (classProperties hints fields).1.1 ∧
    ∀ type, (classProperties hints fields).2.resolve type =
      (widthsFor fields type).getLast?.elim (hints.resolve type) .enumeration := by
  induction fields generalizing hints with
  | nil => exact ⟨.nil, fun _ => rfl⟩
  | cons field fields ih =>
      rw [classProperties_cons] at h ⊢
      cases hfield : propertyOf hints field with
      | error fault =>
          rw [hfield] at h
          cases h
      | ok made =>
          rw [hfield] at h
          obtain ⟨hproperties, hresolve⟩ := ih h
          obtain ⟨hdeclared, hmade⟩ := propertyOf_eq_ok hfield
          refine ⟨.cons hdeclared hproperties, fun type => ?_⟩
          show (classProperties made.2 fields).2.resolve type = _
          rw [hresolve, hmade, resolve_noted, widthsFor, widthsFor, List.filter_cons]
          by_cases hsame : normalize type = normalize (baseType field)
          · simp only [hsame, if_true, decide_true, List.flatMap_cons, List.getLast?_append]
            rw [widthsOf]
            cases ((fields.filter _).flatMap widthsOf).getLast? <;> rfl
          · simp only [hsame, if_false, decide_false, Bool.false_eq_true]

section Items

variable {item : Item} {fields : List Field} {c : Class} {t : Table}

/-- The properties of a struct are those of its fields, one by one. -/
theorem declaredBy_of_ofItem (hshape : item.shape = .named fields) (hitem : ofItem item = .ok c) :
    List.Forall₂ DeclaredBy fields c.declaration.properties := by
  obtain ⟨hdeclaration, -, hnone⟩ := ofItem_eq_ok hshape hitem
  rw [hdeclaration]
  exact (classProperties_of_faultless
    ((classProperties_faults {} fields).trans (List.append_eq_nil_iff.mp hnone).2)).1

/-- The columns of a table are those of the fields that are not left out, one by one, each held as
the last width says that the fields declare for its type. -/
theorem columns_heldAs (hshape : item.shape = .named fields) (hitem : ofItem item = .ok c)
    (ht : extract c.hints.resolve c.declaration = .ok t) :
    List.Forall₂ (fun field column => column.propertyName = field.name ∧
        HeldAs column (widthsFor fields (baseType field)).getLast?)
      (fields.filter (!isSkipped ·)) t.columns := by
  obtain ⟨-, hhints, hnone⟩ := ofItem_eq_ok hshape hitem
  have hfaultless : (classProperties {} fields).1.2 = [] :=
    (classProperties_faults {} fields).trans (List.append_eq_nil_iff.mp hnone).2
  have hresolve := (classProperties_of_faultless hfaultless).2
  have hproperties : List.Forall₂ DeclaredBy (fields.filter (!isSkipped ·))
      (c.declaration.properties.filter (·.isColumn)) := by
    refine List.rel_filter (fun field p hp => ?_) (declaredBy_of_ofItem hshape hitem)
    show _ ↔ p.isColumn = true
    rw [hp.isColumn]
  refine forall₂_comp hproperties (columns_of_extract ht) fun field p column hp hcolumn => ?_
  obtain ⟨m, -, rfl⟩ := hcolumn
  refine ⟨hp.name, ?_⟩
  have hwidth : (c.hints.resolve (stripNullable p.type).1).enumWidth? =
      (widthsFor fields (baseType field)).getLast? := by
    rw [hp.type, ← baseType, hhints, hresolve]
    cases (widthsFor fields (baseType field)).getLast? <;> rfl
  exact hwidth ▸ heldAs_columnWith c.hints.resolve p m

end Items

/-- A field that declares a width for its type is one of those that do. -/
theorem getLast?_widthsFor {fields : List Field} {field : Field} (hfield : field ∈ fields)
    (hdeclares : widthsOf field ≠ []) :
    ∃ width, (widthsFor fields (baseType field)).getLast? = some width := by
  refine Option.ne_none_iff_exists'.mp fun hnone => hdeclares ?_
  have hall := List.flatMap_eq_nil_iff.mp (List.getLast?_eq_none_iff.mp hnone)
  exact hall field (List.mem_filter.mpr ⟨hfield, decide_eq_true rfl⟩)

/-- Every field with a column is held in one of the width that is declared last for its type, by
whatever field with a type of the same folded text. Each field is held in a column of its own width
exactly when that last one is its own width. -/
theorem widthsHonoured_iff {item : Item} {fields : List Field} {c : Class} {t : Table}
    (hshape : item.shape = .named fields) (hitem : ofItem item = .ok c)
    (ht : extract c.hints.resolve c.declaration = .ok t) :
    List.Forall₂ (fun field column => column.propertyName = field.name ∧
        (widthsOf field ≠ [] → ∃ width,
          (widthsFor fields (baseType field)).getLast? = some width ∧
          HoldsDiscriminant column width))
      (fields.filter (!isSkipped ·)) t.columns ∧
    (WidthsHonoured fields t ↔ ∀ field ∈ fields, isSkipped field = false →
      ∀ width, widthsOf field = [some width] →
        (widthsFor fields (baseType field)).getLast? = some (some width)) := by
  have hcolumns := columns_heldAs hshape hitem ht
  constructor
  · refine imp_of_mem hcolumns fun field hfield column h => ⟨h.1, fun hdeclares => ?_⟩
    obtain ⟨width, hlast⟩ := getLast?_widthsFor (List.mem_filter.mp hfield).1 hdeclares
    have hheld := h.2
    rw [hlast] at hheld
    exact ⟨width, hlast, hheld⟩
  · have hiff : ∀ field column, (column.propertyName = field.name ∧
        HeldAs column (widthsFor fields (baseType field)).getLast?) →
        ((∀ width, widthsOf field = [some width] → HoldsDiscriminant column (some width)) ↔
          ∀ width, widthsOf field = [some width] →
            (widthsFor fields (baseType field)).getLast? = some (some width)) := by
      rintro field column ⟨-, hheld⟩
      refine forall₂_congr fun width _ => ?_
      constructor
      · exact fun h => hheld.unique (show HeldAs column (some (some width)) from h)
      · intro h
        rw [h] at hheld
        exact hheld
    rw [WidthsHonoured, forall₂_iff_forall_mem hcolumns hiff]
    simp only [List.mem_filter, Bool.not_eq_true', and_imp]

/-- The class that an item declares, with its table. -/
def tabled? (item : Item) : Option (Class × Table) := do
  let c ← (ofItem item).toOption
  let t ← (extract c.hints.resolve c.declaration).toOption
  return (c, t)

theorem tabled?_eq_some {item : Item} {c : Class} {t : Table} (h : tabled? item = some (c, t)) :
    ofItem item = .ok c ∧ extract c.hints.resolve c.declaration = .ok t := by
  unfold tabled? at h
  cases hitem : ofItem item with
  | error faults => simp [hitem, Except.toOption] at h
  | ok made =>
      cases htable : extract made.hints.resolve made.declaration with
      | error fault => simp [hitem, htable, Except.toOption] at h
      | ok table =>
          obtain ⟨rfl, rfl⟩ : made = c ∧ table = t := by
            simpa [hitem, htable, Except.toOption] using h
          exact ⟨rfl, htable⟩

/-- Fields of one type that declare one width are both held in columns of it. -/
theorem widthsHonoured_log : ∃ item fields c t, structOf?
      "struct Log { #[enumeration(i16)] was: Status, #[primary_key] #[enumeration(i16)] now: Status }" =
        some (item, fields) ∧
      ofItem item = .ok c ∧ extract c.hints.resolve c.declaration = .ok t ∧
      (∃ field ∈ fields, isSkipped field = false ∧ widthsOf field = [some .w16]) ∧
      WidthsHonoured fields t := by
  obtain ⟨item, fields, hread, hlog⟩ := exists_structOf
    "struct Log { #[enumeration(i16)] was: Status, #[primary_key] #[enumeration(i16)] now: Status }"
    (fun (item, fields) => (tabled? item).isSome && decide (
      (∃ field ∈ fields, isSkipped field = false ∧ widthsOf field = [some .w16]) ∧
      ∀ field ∈ fields, (widthsFor fields (baseType field)).getLast? = some (some .w16) ∧
        widthsOf field = [some .w16]))
    (by decide +kernel)
  obtain ⟨htabled, hwidths⟩ := (Bool.and_eq_true _ _).mp hlog
  obtain ⟨⟨c, t⟩, hct⟩ := Option.isSome_iff_exists.mp htabled
  obtain ⟨hitem, ht⟩ := tabled?_eq_some hct
  obtain ⟨hfield, hall⟩ := of_decide_eq_true hwidths
  have hshape := (structOf?_eq_some_iff.mp hread).2
  refine ⟨item, fields, c, t, hread, hitem, ht, hfield,
    (widthsHonoured_iff hshape hitem ht).2.mpr fun field hfield _ width hwidth => ?_⟩
  obtain ⟨hlast, hone⟩ := hall field hfield
  rw [hlast, ← List.singleton_inj.mp (hone.symm.trans hwidth)]

/-- Of two fields of one type that declare two widths the first is held in the width of the
second. -/
theorem not_widthsHonoured_log : ∃ item fields c t, structOf?
      "struct Log { #[enumeration(i16)] was: Status, #[primary_key] #[enumeration(i64)] now: Status }" =
        some (item, fields) ∧
      ofItem item = .ok c ∧ extract c.hints.resolve c.declaration = .ok t ∧
      t.columns.map (fun column => (column.propertyName, column.columnType)) =
        [("was", .bigInt), ("now", .bigInt)] ∧
      ¬ WidthsHonoured fields t := by
  obtain ⟨item, fields, hread, hlog⟩ := exists_structOf
    "struct Log { #[enumeration(i16)] was: Status, #[primary_key] #[enumeration(i64)] now: Status }"
    (fun (item, fields) => (tabled? item).any fun (_, t) => decide (
      t.columns.map (fun column => (column.propertyName, column.columnType)) =
        [("was", .bigInt), ("now", .bigInt)] ∧
      ∃ held ∈ (fields.filter (!isSkipped ·)).zip t.columns,
        widthsOf held.1 = [some .w16] ∧ held.2.enumWidth = some .w64))
    (by decide +kernel)
  obtain ⟨⟨c, t⟩, hct, hlog⟩ := (Option.any_eq_true _ _).mp hlog
  obtain ⟨hitem, ht⟩ := tabled?_eq_some hct
  obtain ⟨hcolumns, ⟨field, column⟩, hheld, hdeclared, hwidth⟩ := of_decide_eq_true hlog
  refine ⟨item, fields, c, t, hread, hitem, ht, hcolumns, fun hall => ?_⟩
  have honoured := (List.forall₂_zip hall hheld _ hdeclared).enumWidth
  rw [hwidth] at honoured
  exact absurd honoured (by decide)

end Rowsmith.Derive
