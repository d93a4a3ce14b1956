import Rowsmith.Proofs.Outcome
import Rowsmith.Proofs.Schema.AnnotationEffect
import Rowsmith.Proofs.Schema.Extraction

/-!
# Rearranged annotations

Annotations of one property commute, failures included, unless both give a name, both a length or
both a reference. So only the order among each of these counts: any other rearrangement can be undone
by moving one annotation at a time to the front, past others that it commutes with. Annotations that
go by no word of these say nothing wherever they stand.
-/

namespace Rowsmith.Schema
open Outcome

section Commuting

variable {α β ε : Type} {f : β → α → Except ε β}

/-- Two steps of a fold that may be taken in either order. -/
def StepsCommute (f : β → α → Except ε β) (x y : α) : Prop :=
  ∀ b, (f b x >>= fun b' => f b' y) = (f b y >>= fun b' => f b' x)

/-- A step is moved to the front, past steps that it commutes with. -/
theorem foldlM_append_cons_of_commute {x : α} {front : List α} (h : ∀ y ∈ front, StepsCommute f y x)
    (back : List α) (b : β) :
    (front ++ x :: back).foldlM f b = (x :: (front ++ back)).foldlM f b := by
  induction front generalizing b with
  | nil => rfl
  | cons y front ih =>
      have hback : ∀ b', (front ++ x :: back).foldlM f b' =
          f b' x >>= fun b'' => (front ++ back).foldlM f b'' := fun b' =>
        ih (fun z hz => h z (List.mem_cons_of_mem y hz)) b'
      calc (y :: front ++ x :: back).foldlM f b
          _ = f b y >>= fun b' => f b' x >>= fun b'' => (front ++ back).foldlM f b'' := by
            rw [List.cons_append, List.foldlM_cons]
            exact bind_congr hback
          _ = f b x >>= fun b' => f b' y >>= fun b'' => (front ++ back).foldlM f b'' := by
            rw [← bind_assoc, h y List.mem_cons_self b, bind_assoc]
          _ = (x :: (y :: front ++ back)).foldlM f b := rfl

/-- Steps that commute unless they are of one kind make the same fold in every order that is the same
within each kind. -/
theorem foldlM_eq_of_perm (kinds : List (α → Bool))
    (hcommute : ∀ x y, (∀ kind ∈ kinds, kind x = true → kind y = false) → StepsCommute f x y)
    {xs ys : List α} (hperm : xs.Perm ys)
    (horder : ∀ kind ∈ kinds, xs.filter kind = ys.filter kind) (b : β) :
    ys.foldlM f b = xs.foldlM f b := by
  induction xs generalizing ys b with
  | nil => rw [← hperm.nil_eq]
  | cons x xs ih =>
      -- The first `x` of the other order is moved to the front: none before it is of its kinds.
      obtain ⟨front, back, rfl, hfirst⟩ :=
        List.eq_append_cons_of_mem (hperm.subset List.mem_cons_self)
      have hfront : ∀ kind ∈ kinds, kind x = true → front.filter kind = [] := by
        intro kind hkind hx
        have hfilter := horder kind hkind
        rw [List.filter_cons_of_pos hx, List.filter_append] at hfilter
        cases hmore : front.filter kind with
        | nil => rfl
        | cons y more =>
            rw [hmore, List.cons_append, List.cons.injEq] at hfilter
            have hmem : x ∈ front.filter kind := by simp [hmore, hfilter.1]
            exact absurd (List.mem_of_mem_filter hmem) hfirst
      have hpast : ∀ y ∈ front, StepsCommute f y x := by
        refine fun y hy => hcommute y x fun kind hkind hkindy => ?_
        by_contra hx
        have hnone := hfront kind hkind (eq_true_of_ne_false hx)
        exact List.filter_eq_nil_iff.mp hnone y hy hkindy
      have hrest : ∀ kind ∈ kinds, xs.filter kind = (front ++ back).filter kind := by
        intro kind hkind
        have hfilter := horder kind hkind
        rw [List.filter_append, List.filter_cons, List.filter_cons] at hfilter
        rw [List.filter_append]
        split at hfilter
        · next hx =>
            rw [hfront kind hkind hx, List.nil_append, List.cons.injEq] at hfilter
            rw [hfront kind hkind hx, List.nil_append, hfilter.2]
        · exact hfilter
      have hcons : xs.Perm (front ++ back) := (hperm.trans List.perm_middle).cons_inv
      rw [foldlM_append_cons_of_commute hpast, List.foldlM_cons, List.foldlM_cons]
      exact bind_congr fun b' => ih hcons hrest b'

end Commuting

namespace Annotation

/-- The words of which a column keeps what is said last. -/
def orderedWords : List String := ["column_name", "varchar", "foreign_key"]

theorem orderedWords_subset : orderedWords ⊆ propertyWords := by decide

/-- Whether an annotation of a property goes by a word that counts. -/
def isKnown (a : Annotation) : Bool := propertyWords.any a.is

/-- Annotations of a property in another order, which is the same among those that give names, among
those that give lengths and among those that give references, and with other ones that are not known. -/
structure Rearranged (xs ys : List Annotation) : Prop where
  perm : (xs.filter isKnown).Perm (ys.filter isKnown)
  order : ∀ word ∈ orderedWords, xs.filter (·.is word) = ys.filter (·.is word)

end Annotation

namespace Marks
open Annotation

variable {property : String} {m : Marks} {a b : Annotation}

theorem annotate_of_not_isKnown (h : a.isKnown = false) : m.annotate property a = .ok m := by
  simp only [isKnown, propertyWords, List.any_cons, List.any_nil, Bool.or_eq_false_iff] at h
  obtain ⟨hname, hunique, hcolumn, hkey, hvarchar, hforeign, -⟩ := h
  simp only [annotate, hname, hunique, hcolumn, hkey, hvarchar, hforeign, Bool.or_self,
    Bool.false_eq_true, if_false]

theorem foldlM_filter_isKnown (annotations : List Annotation) (m : Marks) :
    annotations.foldlM (annotate property) m =
      (annotations.filter isKnown).foldlM (annotate property) m := by
  induction annotations generalizing m with
  | nil => rfl
  | cons a annotations ih =>
      rw [List.filter_cons, List.foldlM_cons]
      cases ha : a.isKnown with
      | true =>
          rw [if_pos rfl, List.foldlM_cons]
          exact bind_congr ih
      | false =>
          rw [annotate_of_not_isKnown ha, ok_bind, if_neg Bool.false_ne_true]
          exact ih m

/-- What only annotations of a word give is not given by two that do not both go by it. -/
theorem none_or_none {β : Type} {word : String} (h : a.is word = true → b.is word = false)
    (given given' : Option β) :
    (if a.is word then given else none) = none ∨ (if b.is word then given' else none) = none := by
  by_cases ha : a.is word = true
  · exact Or.inr (if_neg (ne_true_of_eq_false (h ha)))
  · exact Or.inl (if_neg ha)

theorem after_after (h : ∀ word ∈ orderedWords, a.is word = true → b.is word = false) :
    (m.after a).after b = (m.after b).after a := by
  have hname : a.columnName? = none ∨ b.columnName? = none :=
    none_or_none (h _ (by decide)) _ _
  have hlength : a.lengthArgument? = none ∨ b.lengthArgument? = none :=
    none_or_none (h _ (by decide)) _ _
  have hreference : a.reference? = none ∨ b.reference? = none :=
    none_or_none (h _ (by decide)) _ _
  have hnames : b.columnName?.getD (a.columnName?.getD m.name) =
      a.columnName?.getD (b.columnName?.getD m.name) := by
    rcases hname with h | h <;> simp only [h, Option.getD_none]
  have hlengths : (b.lengthArgument?.bind lengthOf?).or
        ((a.lengthArgument?.bind lengthOf?).or m.length) =
      (a.lengthArgument?.bind lengthOf?).or ((b.lengthArgument?.bind lengthOf?).or m.length) := by
    rcases hlength with h | h <;> simp only [h, Option.bind_none, Option.none_or]
  have hreferences : b.reference?.or (a.reference?.or m.reference) =
      a.reference?.or (b.reference?.or m.reference) := by
    rcases hreference with h | h <;> simp only [h, Option.none_or]
  simp only [after, hnames, hlengths, hreferences, Bool.or_assoc, Bool.or_comm, Bool.or_left_comm]

/-- Annotations commute unless they go by one word of which the last is kept. -/
theorem stepsCommute_annotate (property : String)
    (h : ∀ word ∈ orderedWords, a.is word = true → b.is word = false) :
    StepsCommute (annotate property) a b := by
  intro m
  have hlength : a.lengthArgument? = none ∨ b.lengthArgument? = none :=
    none_or_none (h _ (by decide)) _ _
  have hbad : a.badLength? = none ∨ b.badLength? = none :=
    hlength.imp (fun h => by rw [badLength?, h]; rfl) (fun h => by rw [badLength?, h]; rfl)
  simp only [annotate_eq]
  cases ha : a.badLength? with
  | none =>
      cases hb : b.badLength? with
      | none =>
          rw [ok_bind, ok_bind]
          exact congrArg Except.ok (after_after h)
      | some argument => rfl
  | some argument =>
      have hb : b.badLength? = none := hbad.resolve_left (by simp [ha])
      rw [hb]
      rfl

/-- Rearranged annotations have the same effect. -/
theorem foldlM_rearranged {xs ys : List Annotation} (h : Rearranged xs ys) (m : Marks) :
    ys.foldlM (annotate property) m = xs.foldlM (annotate property) m := by
  have hkinds : ∀ word ∈ orderedWords, ∀ a : Annotation, a.is word = true → a.isKnown = true :=
    fun word hword a ha => List.any_eq_true.mpr ⟨word, orderedWords_subset hword, ha⟩
  rw [foldlM_filter_isKnown ys, foldlM_filter_isKnown xs]
  refine foldlM_eq_of_perm (orderedWords.map fun word a => a.is word) ?_ h.perm ?_ m
  · simp only [List.forall_mem_map]
    exact fun a b => stepsCommute_annotate property
  · simp only [List.forall_mem_map]
    intro word hword
    have hknown : ∀ a : Annotation, (a.is word && a.isKnown) = a.is word := fun a =>
      Bool.and_eq_left_iff_imp.mpr (hkinds word hword a)
    simpa only [List.filter_filter, hknown] using h.order word hword

end Marks

/-- A property whose annotations are rearranged. -/
structure Property.Rearranged (p q : Property) : Prop where
  same : q = { p with annotations := q.annotations }
  annotations : Annotation.Rearranged p.annotations q.annotations

/-- Whether an annotation of a class goes by a word that counts. -/
def Annotation.isKnownOfClass (a : Annotation) : Bool := a.is "table" || a.is "table_unique"

/-- A class whose properties have rearranged annotations, and whose own ones are the same apart from
ones that are not known. -/
structure Declaration.Rearranged (d e : Declaration) : Prop where
  same : e = { d with annotations := e.annotations, properties := e.properties }
  annotations :
    d.annotations.filter (·.isKnownOfClass) = e.annotations.filter (·.isKnownOfClass)
  properties : List.Forall₂ Property.Rearranged d.properties e.properties

namespace Property.Rearranged

variable {p q : Property}

theorem isColumn (h : p.Rearranged q) : q.isColumn = p.isColumn := by
  rw [h.same]
  rfl

theorem name (h : p.Rearranged q) : q.name = p.name := by
  rw [h.same]

theorem columnOf (resolver : Resolver) (h : p.Rearranged q) :
    columnOf resolver q = columnOf resolver p := by
  have hmarks : marksOf q = marksOf p := by
    rw [marksOf, marksOf, h.name]
    exact Marks.foldlM_rearranged h.annotations _
  have hcolumn : columnWith resolver q = columnWith resolver p := by
    rw [h.same]
    rfl
  rw [Schema.columnOf, Schema.columnOf, hmarks, hcolumn]

end Property.Rearranged

section Declarations

variable {d e : Declaration}

/-- The columns of rearranged properties are those of the properties, and so are the names of the
others. -/
theorem columns_of_rearranged (resolver : Resolver) {ps qs : List Property}
    (h : List.Forall₂ Property.Rearranged ps qs) :
    (qs.filter (·.isColumn)).mapM (columnOf resolver) =
        (ps.filter (·.isColumn)).mapM (columnOf resolver) ∧
      (qs.filter (!·.isColumn)).map (·.name) = (ps.filter (!·.isColumn)).map (·.name) := by
  induction h with
  | nil => exact ⟨rfl, rfl⟩
  | @cons p q ps qs hpq _ ih =>
      obtain ⟨hcolumns, hothers⟩ := ih
      cases hp : p.isColumn <;>
        simp [hpq.isColumn, hp, hpq.columnOf resolver, hpq.name, hcolumns, hothers]

theorem annotationsNamed_of_rearranged (h : d.Rearranged e) :
    ∀ word ∈ ["table", "table_unique"], e.annotationsNamed word = d.annotationsNamed word := by
  intro word hword
  have hknown : ∀ a : Annotation, (a.is word && a.isKnownOfClass) = a.is word := by
    intro a
    rcases List.mem_pair.mp hword with rfl | rfl <;>
      cases htable : a.is "table" <;> cases hunique : a.is "table_unique" <;>
      simp [htable, hunique, Annotation.isKnownOfClass]
  have hfilter := congrArg (List.filter (·.is word)) h.annotations
  simp only [List.filter_filter, hknown] at hfilter
  exact hfilter.symm

/-- Rearranged annotations make no difference to extraction, which yields the same table or fails in
the same way. -/
theorem extract_rearranged (resolver : Resolver) (h : d.Rearranged e) :
    extract resolver e = extract resolver d := by
  obtain ⟨hcolumns, hothers⟩ := columns_of_rearranged resolver h.properties
  have hname : e.name = d.name := by rw [h.same]
  have htable : tableName e = tableName d := by
    rw [tableName, tableName, annotationsNamed_of_rearranged h "table" (by decide), hname]
  have huniques : tableUniques e = tableUniques d := by
    rw [tableUniques, tableUniques,
      annotationsNamed_of_rearranged h "table_unique" (by decide)]
  simp only [extract, hcolumns, hothers, hname, htable, huniques]

end Declarations

section Loan

/-- A class with one property. -/
def loan (annotations : List Annotation) : Declaration :=
  { name := "Loan", properties := [{ name := "id", type := "u64", annotations }] }

/-- An annotation that names a column. -/
def columnNamed (name : String) : Annotation :=
  { name := "column_name", positional := [.text name] }

/-- An annotation that gives a column a length. -/
def sized (digits : String) : Annotation :=
  { name := "varchar", positional := [.integer digits] }

set_option maxRecDepth 100000 in
/-- A length that is none is found wherever it stands. -/
theorem extract_loan :
    extract memberResolver
        (loan [{ name := "primary_key" }, columnNamed "a", { name := "doc" }, sized "300"]) =
      .error (.invalidLength "id" "300") := by
  have hrearranged : (loan [sized "300", columnNamed "a", { name := "primary_key" }]).Rearranged
      (loan [{ name := "primary_key" }, columnNamed "a", { name := "doc" }, sized "300"]) := by
    refine ⟨rfl, rfl, .cons ⟨rfl, ?_⟩ .nil⟩
    constructor
    · decide +kernel
    · decide +kernel
  rw [extract_rearranged memberResolver hrearranged]
  decide +kernel

end Loan

end Rowsmith.Schema
