import Rowsmith.Proofs.Text.Replace

/-!
# Quoted patterns

A pattern between two quotes whose inside has none is found between two quotes that
follow each other. What stands before the first quote of a text and behind the last one
is told by the text, so that such a pattern goes over few boundaries.
-/

namespace Rowsmith.Text

/-- A text between double quotes. -/
def quoted (body : List Char) : List Char := '"' :: body ++ ['"']

theorem quoted_ne_nil (body : List Char) : quoted body ≠ [] := by
  simp [quoted]

/-- What stands before the first quote is told by the text. -/
theorem eq_of_append_quote {a b s t : List Char} (ha : '"' ∉ a) (hb : '"' ∉ b)
    (h : a ++ '"' :: s = b ++ '"' :: t) : a = b ∧ s = t := by
  induction a generalizing b with
  | nil =>
      cases b with
      | nil => exact ⟨rfl, (List.cons.inj h).2⟩
      | cons d b =>
          obtain ⟨rfl, -⟩ := List.cons.inj h
          exact absurd List.mem_cons_self hb
  | cons c a ih =>
      cases b with
      | nil =>
          obtain ⟨rfl, -⟩ := List.cons.inj h
          exact absurd List.mem_cons_self ha
      | cons d b =>
          obtain ⟨rfl, hrest⟩ := List.cons.inj h
          rw [List.mem_cons, not_or] at ha hb
          obtain ⟨rfl, rfl⟩ := ih ha.2 hb.2 hrest
          exact ⟨rfl, rfl⟩

/-- A quote behind a text without quotes is its first one, or comes later. -/
theorem eq_or_exists_of_append_quote {w before a x : List Char} (hw : '"' ∉ w)
    (h : before ++ '"' :: a = w ++ '"' :: x) : before = w ∨ ∃ z, before = w ++ '"' :: z := by
  rcases List.append_eq_append_iff.mp h with ⟨z, rfl, hz⟩ | ⟨z, rfl, hz⟩
  · cases z with
    | nil => exact Or.inl (List.append_nil before).symm
    | cons d z =>
        obtain ⟨rfl, -⟩ := List.cons.inj hz
        exact absurd (List.mem_append_right before List.mem_cons_self) hw
  · cases z with
    | nil => exact Or.inl (List.append_nil w)
    | cons d z =>
        obtain ⟨rfl, -⟩ := List.cons.inj hz
        exact Or.inr ⟨z, rfl⟩

/-- What stands behind the last quote is told by the text. -/
theorem eq_of_quote_append {a b s t : List Char} (ha : '"' ∉ a) (hb : '"' ∉ b)
    (h : s ++ '"' :: a = t ++ '"' :: b) : a = b := by
  have hreverse := congrArg List.reverse h
  simp only [List.reverse_append, List.reverse_cons, List.append_assoc,
    List.singleton_append] at hreverse
  have hfirst := eq_of_append_quote (List.mem_reverse.not.mpr ha) (List.mem_reverse.not.mpr hb)
    hreverse
  exact List.reverse_injective hfirst.1

/-- The two sides of a cut through a quoted text. -/
theorem eq_of_quoted_eq_append {body u v : List Char} (h : quoted body = u ++ v) (hu : u ≠ [])
    (hv : v ≠ []) : ∃ u' v', u = '"' :: u' ∧ v = v' ++ ['"'] ∧ body = u' ++ v' := by
  obtain ⟨c, u', rfl⟩ := List.exists_cons_of_ne_nil hu
  obtain ⟨v', d, rfl⟩ := v.eq_nil_or_concat'.resolve_left hv
  rw [quoted, List.cons_append, List.cons_append, ← List.append_assoc] at h
  obtain ⟨rfl, hrest⟩ := List.cons.inj h
  obtain ⟨rfl, hlast⟩ := List.append_inj' hrest rfl
  obtain rfl := (List.cons.inj hlast).1
  exact ⟨u', v', rfl, rfl, rfl⟩

/-- No quoted text goes over a boundary when none of its cuts fits there. -/
theorem apart_quoted {body before behind : List Char}
    (h : ∀ u v, body = u ++ v → '"' :: u <:+ before → ¬ v ++ ['"'] <+: behind) :
    Apart (quoted body) before behind := by
  intro u v hp hu hv hsuffix
  obtain ⟨u, v, rfl, rfl, hbody⟩ := eq_of_quoted_eq_append hp hu hv
  exact h u v hbody hsuffix

section Passing

variable {body before behind r : List Char}

/-- A text without quotes before a boundary. -/
theorem apart_of_quote_notMem_left (h : '"' ∉ before) (behind : List Char) :
    Apart (quoted body) before behind :=
  apart_quoted fun _ _ _ hsuffix => absurd (hsuffix.mem List.mem_cons_self) h

/-- A text without quotes behind a boundary. -/
theorem apart_of_quote_notMem_right (h : '"' ∉ behind) (before : List Char) :
    Apart (quoted body) before behind :=
  apart_quoted fun _ _ _ _ hfit => h (hfit.mem (List.mem_append_right _ List.mem_cons_self))

theorem not_infix_of_quote_notMem (h : '"' ∉ before) : ¬ quoted body <:+: before :=
  fun hi => h (hi.mem List.mem_cons_self)

theorem replaceChars_of_quote_notMem (h : '"' ∉ before) :
    replaceChars (quoted body) r before = before :=
  replaceChars_of_not_infix (not_infix_of_quote_notMem h)

theorem count_quoted (h : '"' ∉ body) : (quoted body).count '"' = 2 := by
  simp [quoted, List.count_append, List.count_eq_zero.mpr h]

/-- A quoted text within another one is that one. -/
theorem eq_of_quoted_infix {other : List Char} (hb : '"' ∉ body) (ho : '"' ∉ other)
    (h : quoted body <:+: quoted other) : body = other := by
  obtain ⟨before, behind, heq⟩ := h
  cases before with
  | cons c before =>
      have hinside : quoted body <:+: other ++ ['"'] := ⟨before, behind, (List.cons.inj heq).2⟩
      have hcount := hinside.sublist.count_le '"'
      rw [count_quoted hb, List.count_append, List.count_eq_zero.mpr ho] at hcount
      exact absurd hcount (by decide)
  | nil =>
      rw [List.nil_append, quoted, quoted, List.append_assoc] at heq
      exact (eq_of_append_quote hb ho (List.cons.inj heq).2).1

/-- A text that ends with a quote still does, or ends with what was put in last. -/
theorem replaced_concat_quote {cs out : List Char} (h : Replaced (quoted body) r cs out)
    (hlast : cs.getLast? = some '"') : ∃ o, out = o ++ ['"'] ∨ out = o ++ r := by
  induction h with
  | nil => cases hlast
  | @found rest out hpass ih =>
      cases rest with
      | nil =>
          cases hpass
          exact ⟨[], Or.inr (List.append_nil r)⟩
      | cons c rest =>
          rw [List.getLast?_append_of_ne_nil _ (List.cons_ne_nil c rest)] at hlast
          obtain ⟨o, rfl | rfl⟩ := ih hlast
          · exact ⟨r ++ o, Or.inl (List.append_assoc r o _).symm⟩
          · exact ⟨r ++ o, Or.inr (List.append_assoc r o r).symm⟩
  | @kept c rest out _ hpass ih =>
      cases rest with
      | nil =>
          obtain rfl := Option.some.inj hlast
          cases hpass
          exact ⟨[], Or.inl rfl⟩
      | cons d rest =>
          rw [List.getLast?_cons_cons] at hlast
          obtain ⟨o, rfl | rfl⟩ := ih hlast
          · exact ⟨c :: o, Or.inl rfl⟩
          · exact ⟨c :: o, Or.inr rfl⟩

end Passing

end Rowsmith.Text
