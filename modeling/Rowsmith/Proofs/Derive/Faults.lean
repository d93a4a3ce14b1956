import Rowsmith.Derive.Class
import Rowsmith.Proofs.Outcome

/-!
# Faults of attributes

The attributes of a struct are all looked at, so that each one that is no annotation is reported. Of
the attributes of a field those behind the first such one are not looked at, and a field with
several of them is reported once.
-/

namespace Rowsmith.Derive
open Outcome Schema Source

/-- The attributes of a struct that are to be annotations. -/
def classSources (item : Item) : List Attribute :=
  item.attributes.filter (isNamed classAttributes)

/-- The attributes of a field that are to be annotations. -/
def fieldSources (field : Field) : List Attribute :=
  field.attributes.filter (isNamed fieldAttributes)

/-- The attributes of a struct and of its fields that are to be annotations, as they stand in the
source. -/
def sourcesOf (item : Item) (fields : List Field) : List Attribute :=
  classSources item ++ fields.flatMap fieldSources

/-- Why an attribute is no annotation. -/
def faultOf? (a : Attribute) : Option Fault :=
  match annotationOf a with
  | .ok _ => none
  | .error fault => some fault

/-- The faults of attributes, one for each that is no annotation. -/
def faultsOf (sources : List Attribute) : List Fault := sources.filterMap faultOf?

theorem faultOf?_eq_none_iff {a : Attribute} : faultOf? a = none ↔ Succeeds (annotationOf a) := by
  unfold faultOf?
  cases annotationOf a <;> simp

theorem faultsOf_eq_nil_iff {sources : List Attribute} :
    faultsOf sources = [] ↔ ∀ a ∈ sources, Succeeds (annotationOf a) := by
  simp only [faultsOf, List.filterMap_eq_nil_iff, faultOf?_eq_none_iff]

theorem faultsOf_append (first second : List Attribute) :
    faultsOf (first ++ second) = faultsOf first ++ faultsOf second :=
  List.filterMap_append

theorem faultsOf_flatMap {α : Type} (f : α → List Attribute) (xs : List α) :
    faultsOf (xs.flatMap f) = xs.flatMap fun x => faultsOf (f x) := by
  induction xs with
  | nil => rfl
  | cons x xs ih => rw [List.flatMap_cons, faultsOf_append, ih, List.flatMap_cons]

section Stages

variable {sources : List Attribute} {fault : Fault}

/-- The attributes of a struct are each looked at. -/
theorem classAnnotations_snd (sources : List Attribute) :
    (classAnnotations sources).2 = faultsOf sources := by
  induction sources with
  | nil => rfl
  | cons a sources ih =>
      rw [faultsOf] at ih ⊢
      rw [classAnnotations, List.filterMap_cons]
      cases ha : annotationOf a with
      | ok annotation => simpa only [faultOf?, ha] using ih
      | error fault => simpa only [faultOf?, ha, List.cons.injEq, true_and] using ih

/-- The attributes of a field are looked at up to the first fault. -/
theorem mapM_annotationOf_eq_error_iff :
    sources.mapM annotationOf = .error fault ↔ (faultsOf sources).head? = some fault := by
  induction sources with
  | nil => simp [faultsOf, pure, Except.pure]
  | cons a sources ih =>
      rw [List.mapM_cons, faultsOf, List.filterMap_cons]
      cases ha : annotationOf a with
      | error first => simp [faultOf?, ha, bind, Except.bind]
      | ok annotation =>
          simp only [faultOf?, ha, ok_bind, bind_eq_error_iff, pure, Except.pure, reduceCtorEq,
            and_false, exists_false, or_false]
          exact ih

theorem propertyOf_eq_error_iff {hints : Hints} {field : Field} :
    propertyOf hints field = .error fault ↔ (faultsOf (fieldSources field)).head? = some fault := by
  rw [← mapM_annotationOf_eq_error_iff]
  show (do
    let annotations ← (fieldSources field).mapM annotationOf
    pure _ : Except Fault (Property × Hints)) = .error fault ↔ _
  rw [bind_eq_error_iff]
  simp [pure, Except.pure]

theorem classProperties_cons (hints : Hints) (field : Field) (fields : List Field) :
    classProperties hints (field :: fields) =
      match propertyOf hints field with
      | .ok made =>
        let later := classProperties made.2 fields
        ((made.1 :: later.1.1, later.1.2), later.2)
      | .error fault =>
        let later := classProperties hints fields
        ((later.1.1, fault :: later.1.2), later.2) := by
  conv_lhs => unfold classProperties
  cases propertyOf hints field <;> rfl

/-- Each field reports its first fault, whatever the fields before it note. -/
theorem classProperties_faults (hints : Hints) (fields : List Field) :
    (classProperties hints fields).1.2 =
      fields.filterMap fun field => (faultsOf (fieldSources field)).head? := by
  induction fields generalizing hints with
  | nil => rfl
  | cons field fields ih =>
      rw [classProperties_cons, List.filterMap_cons]
      cases hfield : propertyOf hints field with
      | error fault =>
          rw [propertyOf_eq_error_iff.mp hfield]
          exact congrArg (fault :: ·) (ih hints)
      | ok made =>
          have hnone : (faultsOf (fieldSources field)).head? = none := by
            refine Option.eq_none_iff_forall_ne_some.mpr fun fault hfault => ?_
            rw [propertyOf_eq_error_iff.mpr hfault] at hfield
            cases hfield
          rw [hnone]
          exact ih made.2

end Stages

/-- The declaration that a struct with the given fields is, as far as its attributes are
annotations. -/
def declarationOf (item : Item) (fields : List Field) : Declaration :=
  { name := item.name
    visibility := Token.textAll item.visibility
    annotations := (classAnnotations (classSources item)).1
    properties := (classProperties {} fields).1.1 }

/-- The faults that are reported of attributes: of a struct all, and of each field the first. -/
def reportedFaults (item : Item) (fields : List Field) : List Fault :=
  faultsOf (classSources item) ++
    fields.filterMap fun field => (faultsOf (fieldSources field)).head?

/-- Whether an item that is refused is refused with all faults of its attributes, in order. -/
def ReportsAll (item : Item) (fields : List Field) : Prop :=
  ∀ faults, ofItem item = .error faults → faults = faultsOf (sourcesOf item fields)

theorem reportedFaults_eq_nil_iff {item : Item} {fields : List Field} :
    reportedFaults item fields = [] ↔ ∀ a ∈ sourcesOf item fields, Succeeds (annotationOf a) := by
  rw [reportedFaults, sourcesOf, ← faultsOf_eq_nil_iff, faultsOf_append, faultsOf_flatMap]
  simp only [List.append_eq_nil_iff, List.filterMap_eq_nil_iff, List.head?_eq_none_iff,
    List.flatMap_eq_nil_iff]

theorem length_firsts_le {α β : Type} (f : α → List β) (xs : List α) :
    (xs.filterMap fun x => (f x).head?).length ≤ (xs.flatMap f).length := by
  induction xs with
  | nil => simp
  | cons x xs ih =>
      rw [List.filterMap_cons, List.flatMap_cons, List.length_append]
      cases f x with
      | nil => simpa using ih
      | cons y ys =>
          simp only [List.head?_cons, List.length_cons]
          omega

/-- The first elements of lists are all of their elements where no list has two. -/
theorem firsts_eq_iff {α β : Type} (f : α → List β) (xs : List α) :
    (xs.filterMap fun x => (f x).head?) = xs.flatMap f ↔ ∀ x ∈ xs, (f x).length ≤ 1 := by
  induction xs with
  | nil => simp
  | cons x xs ih =>
      rw [List.filterMap_cons, List.flatMap_cons, List.forall_mem_cons, ← ih]
      match hx : f x with
      | [] => simp
      | [y] => simp
      | y :: z :: ys =>
          -- The second element of a list makes all of them more than the first ones.
          have hle := length_firsts_le f xs
          constructor
          · intro h
            have hlength := congrArg List.length h
            simp only [List.head?_cons, List.length_cons, List.length_append] at hlength
            omega
          · rintro ⟨hlength, -⟩
            simp at hlength

/-- The faults that are reported are all faults of attributes where no field has two of them. -/
theorem reportedFaults_eq_iff {item : Item} {fields : List Field} :
    reportedFaults item fields = faultsOf (sourcesOf item fields) ↔
      ∀ field ∈ fields, (faultsOf (fieldSources field)).length ≤ 1 := by
  rw [reportedFaults, sourcesOf, faultsOf_append, faultsOf_flatMap, List.append_cancel_left_eq,
    firsts_eq_iff]

section Items

variable {item : Item} {fields : List Field} (hshape : item.shape = .named fields)

/-- The fields of a struct make its class, unless faults of attributes are reported or its library
is at no path. -/
theorem ofFields_eq (item : Item) (fields : List Field) :
    ofFields item fields =
      match runtimeOf (declarationOf item fields) with
      | .ok runtime =>
        if (reportedFaults item fields).isEmpty then
          .ok { declaration := declarationOf item fields, hints := (classProperties {} fields).2
                runtime }
        else .error (reportedFaults item fields)
      | .error fault => .error (reportedFaults item fields ++ [fault]) := by
  rw [reportedFaults, ← classAnnotations_snd, ← classProperties_faults {}]
  rfl

include hshape

theorem ofItem_eq (hplain : item.isGeneric = false) : ofItem item = ofFields item fields := by
  rw [ofItem, hshape]
  simp only [namedFieldsOf, hplain, Bool.false_eq_true, if_false]

/-- What is accepted has no faults. -/
theorem ofItem_eq_ok {c : Class} (h : ofItem item = .ok c) :
    c.declaration = declarationOf item fields ∧ c.hints = (classProperties {} fields).2 ∧
      reportedFaults item fields = [] := by
  cases hgeneric : item.isGeneric with
  | true =>
      rw [ofItem, hshape] at h
      simp only [namedFieldsOf, hgeneric, if_true, reduceCtorEq] at h
  | false =>
      rw [ofItem_eq hshape hgeneric, ofFields_eq] at h
      cases hpath : runtimeOf (declarationOf item fields) with
      | error fault =>
          rw [hpath] at h
          cases h
      | ok path =>
          rw [hpath] at h
          cases hreported : reportedFaults item fields with
          | nil =>
              rw [hreported] at h
              obtain rfl := Except.ok.inj h
              exact ⟨rfl, rfl, rfl⟩
          | cons fault rest =>
              rw [hreported] at h
              cases h

/-- A struct whose library is at a path is refused with the faults that are reported of its
attributes, if there are any. -/
theorem ofItem_eq_error_iff (hplain : item.isGeneric = false)
    (hpath : Succeeds (runtimeOf (declarationOf item fields))) {faults : List Fault} :
    ofItem item = .error faults ↔ faults = reportedFaults item fields ∧ faults ≠ [] := by
  obtain ⟨path, hpath⟩ := hpath
  rw [ofItem_eq hshape hplain, ofFields_eq, hpath]
  cases hreported : reportedFaults item fields with
  | nil => simp +contextual
  | cons fault rest =>
      simp only [List.isEmpty_cons, Bool.false_eq_true, if_false, Except.error.injEq]
      constructor
      · rintro rfl
        exact ⟨rfl, List.cons_ne_nil _ _⟩
      · exact fun h => h.1.symm

end Items

/-- A struct with named fields and without parameters, whose library is at a path, is accepted if
all its attributes are annotations, and otherwise refused with the faults of its own attributes and
the first fault of each field. These are all faults unless a field has two of them. -/
theorem reportsAll_iff {item : Item} {fields : List Field} (hshape : item.shape = .named fields)
    (hplain : item.isGeneric = false)
    (hpath : Succeeds (runtimeOf (declarationOf item fields))) :
    (Succeeds (ofItem item) ↔ ∀ a ∈ sourcesOf item fields, Succeeds (annotationOf a)) ∧
    (∀ faults, ofItem item = .error faults →
      faults = reportedFaults item fields ∧ expand item = .error (.faults faults)) ∧
    (ReportsAll item fields ↔
      ∀ field ∈ fields, (faultsOf (fieldSources field)).length ≤ 1) := by
  have hrefused := @ofItem_eq_error_iff item fields hshape hplain hpath
  refine ⟨?_, fun faults h => ⟨(hrefused.mp h).1, ?_⟩, ?_⟩
  · rw [← reportedFaults_eq_nil_iff]
    cases hitem : ofItem item with
    | ok c =>
        refine iff_of_true (succeeds_ok c) (by_contra fun hne => ?_)
        rw [hrefused.mpr ⟨rfl, hne⟩] at hitem
        cases hitem
    | error faults =>
        obtain ⟨rfl, hne⟩ := hrefused.mp hitem
        exact iff_of_false (not_succeeds_error _) hne
  · rw [expand, h]
    rfl
  · rw [ReportsAll, ← reportedFaults_eq_iff]
    constructor
    · intro h
      by_cases hnone : reportedFaults item fields = []
      · have hall := reportedFaults_eq_nil_iff.mp hnone
        rw [hnone, faultsOf_eq_nil_iff.mpr hall]
      · exact h _ (hrefused.mpr ⟨rfl, hnone⟩)
    · intro h faults hfaults
      rw [← h]
      exact (hrefused.mp hfaults).1

/-- The struct with named fields that a text declares. -/
def structOf? (source : String) : Option (Item × List Field) := do
  let item ← (Phrase.ofText Phrase.item source).toOption
  let fields ← (namedFieldsOf item.shape).toOption
  return (item, fields)

theorem structOf?_eq_some_iff {source : String} {item : Item} {fields : List Field} :
    structOf? source = some (item, fields) ↔
      Phrase.ofText Phrase.item source = .ok item ∧ item.shape = .named fields := by
  have hnamed : ∀ shape : Shape, namedFieldsOf shape = .ok fields ↔ shape = .named fields := by
    intro shape
    cases shape with
    | unnamed n => rcases n with _ | _ | n <;> simp [namedFieldsOf]
    | _ => simp [namedFieldsOf]
  unfold structOf?
  cases Phrase.ofText Phrase.item source with
  | error fault => simp [Except.toOption]
  | ok read =>
      rw [Except.ok.injEq]
      show (namedFieldsOf read.shape).toOption.bind (fun named => some (read, named)) = _ ↔ _
      cases hshape : namedFieldsOf read.shape with
      | error other =>
          refine iff_of_false (by simp [Except.toOption]) ?_
          rintro ⟨rfl, hnamedShape⟩
          rw [(hnamed _).mpr hnamedShape] at hshape
          cases hshape
      | ok named =>
          simp only [Except.toOption, Option.bind_some, Option.some.injEq, Prod.mk.injEq]
          refine and_congr_right fun hread => ?_
          rw [← hread, ← hnamed, hshape, Except.ok.injEq]

theorem exists_structOf (source : String) (holds : Item × List Field → Bool)
    (h : (structOf? source).any holds = true) :
    ∃ item fields, structOf? source = some (item, fields) ∧ holds (item, fields) = true := by
  obtain ⟨⟨item, fields⟩, hread, hholds⟩ := (Option.any_eq_true _ _).mp h
  exact ⟨item, fields, hread, hholds⟩

/-- Bad attributes of the struct and of two fields are all reported. -/
theorem reportsAll_note : ∃ item fields, structOf?
      "#[table(a::b = 1)] struct Note { #[varchar(1 2)] text: String, #[unique(a::b = 1)] id: i64 }" =
        some (item, fields) ∧
      item.isGeneric = false ∧ Succeeds (runtimeOf (declarationOf item fields)) ∧
      ReportsAll item fields ∧
      faultsOf (sourcesOf item fields) =
        [.argumentName, .arguments (.missing ","), .argumentName] := by
  obtain ⟨item, fields, hread, hnote⟩ := exists_structOf
    "#[table(a::b = 1)] struct Note { #[varchar(1 2)] text: String, #[unique(a::b = 1)] id: i64 }"
    (fun (item, fields) =>
      decide (item.isGeneric = false ∧ Succeeds (runtimeOf (declarationOf item fields)) ∧
        (∀ field ∈ fields, (faultsOf (fieldSources field)).length ≤ 1) ∧
        faultsOf (sourcesOf item fields) =
          [.argumentName, .arguments (.missing ","), .argumentName]))
    (by decide +kernel)
  obtain ⟨hplain, hpath, hfew, hfaults⟩ := of_decide_eq_true hnote
  have hshape := (structOf?_eq_some_iff.mp hread).2
  exact ⟨item, fields, hread, hplain, hpath, (reportsAll_iff hshape hplain hpath).2.2.mpr hfew,
    hfaults⟩

/-- Of two bad attributes of one field the second is not reported. -/
theorem not_reportsAll_note : ∃ item fields,
      structOf? "struct Note { #[varchar(1 2)] #[unique(a::b = 1)] text: String }" =
        some (item, fields) ∧
      item.isGeneric = false ∧ Succeeds (runtimeOf (declarationOf item fields)) ∧
      ofItem item = .error [.arguments (.missing ",")] ∧
      faultsOf (sourcesOf item fields) = [.arguments (.missing ","), .argumentName] ∧
      ¬ ReportsAll item fields := by
  obtain ⟨item, fields, hread, hnote⟩ := exists_structOf
    "struct Note { #[varchar(1 2)] #[unique(a::b = 1)] text: String }"
    (fun (item, fields) =>
      decide (item.isGeneric = false ∧ Succeeds (runtimeOf (declarationOf item fields)) ∧
        reportedFaults item fields = [.arguments (.missing ",")] ∧
        faultsOf (sourcesOf item fields) = [.arguments (.missing ","), .argumentName]))
    (by decide +kernel)
  obtain ⟨hplain, hpath, hreported, hfaults⟩ := of_decide_eq_true hnote
  have hshape := (structOf?_eq_some_iff.mp hread).2
  have herror : ofItem item = .error [.arguments (.missing ",")] :=
    (ofItem_eq_error_iff hshape hplain hpath).mpr ⟨hreported.symm, List.cons_ne_nil _ _⟩
  refine ⟨item, fields, hread, hplain, hpath, herror, hfaults, fun hall => ?_⟩
  rw [ReportsAll, hfaults] at hall
  exact absurd (hall _ herror) (by simp)

end Rowsmith.Derive
