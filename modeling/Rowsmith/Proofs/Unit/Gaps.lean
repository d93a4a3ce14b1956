import Rowsmith.Proofs.Source.RawLiteral
import Rowsmith.Proofs.Text.Quoted
import Rowsmith.Unit.Substitution

/-!
# Texts with gaps

A source is a text with gaps in parentheses, in which placeholders or literals stand. A
placeholder's literal is found between its two quotes only, so a substitution goes through
the gaps and the text around them one by one.
-/

namespace Rowsmith.Unit
open Rowsmith.Source Rowsmith.Text

/-- The inside of a placeholder's literal: no quotes, and low lines at both ends. -/
structure Marked (body : List Char) : Prop where
  quote : '"' ∉ body
  head : body.head? = some '_'
  last : body.getLast? = some '_'

/-- A text that stands in a gap: it has a quote, and its ends do not go on as the inside of a
placeholder's literal. -/
structure Sealed (x : List Char) : Prop where
  opening : ∃ w y, x = w ++ '"' :: y ∧ '"' ∉ w ∧ w.getLast? ≠ some '_'
  closing : ∃ y z, x = y ++ '"' :: z ∧ '"' ∉ z ∧ z.head? ≠ some '_'

theorem sealed_quoted (x : List Char) : Sealed (quoted x) where
  opening := ⟨[], x ++ ['"'], rfl, List.not_mem_nil, by simp⟩
  closing := ⟨'"' :: x, [], rfl, List.not_mem_nil, by simp⟩

section Boundaries

variable {body x : List Char} (hm : Marked body)

include hm

/-- A text that begins otherwise does not go on with a placeholder. -/
theorem Marked.not_prefix (h : x.head? ≠ some '_') : ¬ body ++ ['"'] <+: x := by
  rintro ⟨rest, rfl⟩
  rw [List.append_assoc, List.head?_append, hm.head] at h
  exact h rfl

/-- A text that ends otherwise does not end with a placeholder. -/
theorem Marked.not_suffix (h : x.getLast? ≠ some '_') : ¬ '"' :: body <:+ x := by
  rintro ⟨front, rfl⟩
  rw [List.getLast?_append, List.getLast?_cons, hm.last] at h
  exact h rfl

/-- A placeholder that ends behind a boundary, at the first quote there, begins before it. -/
theorem apart_of_append_quote {w : List Char} (hw : '"' ∉ w) (hlast : w.getLast? ≠ some '_')
    (h : ¬ '"' :: body <:+ x) (y : List Char) : Apart (quoted body) x (w ++ '"' :: y) := by
  refine apart_quoted fun u v hbody hsuffix hprefix => ?_
  obtain ⟨rest, hrest⟩ := hprefix
  have hv : '"' ∉ v := fun h => hm.quote (hbody ▸ List.mem_append_right u h)
  rw [List.append_assoc] at hrest
  obtain ⟨rfl, -⟩ := eq_of_append_quote hv hw hrest
  cases v.eq_nil_or_concat' with
  | inl hnil =>
      rw [hnil, List.append_nil] at hbody
      exact h (hbody ▸ hsuffix)
  | inr hconcat =>
      obtain ⟨v, c, rfl⟩ := hconcat
      have hmark := hm.last
      rw [hbody, ← List.append_assoc, List.getLast?_concat] at hmark
      rw [List.getLast?_concat] at hlast
      exact hlast hmark

/-- A placeholder that begins before a boundary, at the last quote there, ends behind it. -/
theorem apart_of_quote_append {z : List Char} (hz : '"' ∉ z) (hhead : z.head? ≠ some '_')
    (h : ¬ body ++ ['"'] <+: x) (y : List Char) : Apart (quoted body) (y ++ '"' :: z) x := by
  refine apart_quoted fun u v hbody hsuffix hprefix => ?_
  obtain ⟨before, hbefore⟩ := hsuffix
  have hu : '"' ∉ u := fun h => hm.quote (hbody ▸ List.mem_append_left v h)
  obtain rfl := eq_of_quote_append hu hz hbefore
  cases u with
  | nil => exact h (hbody ▸ hprefix)
  | cons c u =>
      have hmark := hm.head
      rw [hbody] at hmark
      exact hhead hmark

/-- No placeholder begins before a gap and ends in it. -/
theorem apart_opening (hx : Sealed x) (front tail : List Char) :
    Apart (quoted body) (front ++ ['(']) (x ++ tail) := by
  obtain ⟨w, y, rfl, hw, hlast⟩ := hx.opening
  rw [List.append_assoc]
  exact apart_of_append_quote hm hw hlast (hm.not_suffix (by simp)) (y ++ tail)

/-- A placeholder that begins in what may stand in a gap begins with its last quote. -/
theorem apart_of_sealed (hx : Sealed x) {behind : List Char} (h : ¬ body ++ ['"'] <+: behind) :
    Apart (quoted body) x behind := by
  obtain ⟨y, z, rfl, hz, hhead⟩ := hx.closing
  exact apart_of_quote_append hm hz hhead h y

/-- No placeholder begins in a gap and ends behind it. -/
theorem apart_closing (hx : Sealed x) (tail : List Char) :
    Apart (quoted body) x ([')'] ++ tail) :=
  apart_of_sealed hm hx (hm.not_prefix (by simp))

end Boundaries

section Replacing

variable {body r x : List Char}

/-- What is put in place of a placeholder's literal may stand in a gap itself. -/
theorem Sealed.replaceChars (hr : Sealed r) (hx : Sealed x) :
    Sealed (replaceChars (quoted body) r x) where
  opening := by
    obtain ⟨w, y, rfl, hw, hlast⟩ := hx.opening
    rw [replaceChars_append (quoted_ne_nil body) (apart_of_quote_notMem_left hw _),
      replaceChars_of_quote_notMem hw]
    by_cases hprefix : quoted body <+: '"' :: y
    · obtain ⟨rest, hrest⟩ := hprefix
      obtain ⟨v, z, rfl, hv, hvlast⟩ := hr.opening
      rw [← hrest, replaceChars_pattern (quoted_ne_nil body)]
      refine ⟨w ++ v, z ++ Text.replaceChars (quoted body) (v ++ '"' :: z) rest, by simp, ?_, ?_⟩
      · rw [List.mem_append, not_or]
        exact ⟨hw, hv⟩
      · rw [List.getLast?_append]
        cases hl : v.getLast? with
        | none => exact hlast
        | some c => exact fun h => hvlast (hl.trans h)
    · rw [replaceChars_cons hprefix]
      exact ⟨w, _, rfl, hw, hlast⟩
  closing := by
    obtain ⟨y, z, rfl, hz, hhead⟩ := hx.closing
    have hlast : (y ++ ['"']).getLast? = some '"' := by simp
    rw [← List.singleton_append, ← List.append_assoc,
      replaceChars_append (quoted_ne_nil body) (apart_of_quote_notMem_right hz _),
      replaceChars_of_quote_notMem hz]
    obtain ⟨o, ho | ho⟩ :=
      replaced_concat_quote (replaced_replaceChars (quoted_ne_nil body) r (y ++ ['"'])) hlast
    · exact ⟨o, z, by rw [ho]; simp, hz, hhead⟩
    · obtain ⟨v, k, rfl, hk, hkhead⟩ := hr.closing
      refine ⟨o ++ v, k ++ z, by rw [ho]; simp, ?_, ?_⟩
      · rw [List.mem_append, not_or]
        exact ⟨hk, hz⟩
      · rw [List.head?_append]
        cases hc : k.head? with
        | none => exact hhead
        | some c => exact fun h => hkhead (hc.trans h)

end Replacing

/-- A text with gaps in parentheses that are filled with values. -/
def fill {α : Type} (value : α → List Char) (front : List Char) :
    List (α × List Char) → List Char
  | [] => front
  | (a, behind) :: gaps => front ++ '(' :: (value a ++ ')' :: fill value behind gaps)

theorem eq_of_fill_cons_eq {α : Type} {x y : α → List Char} {front behind : List Char} {a : α}
    {gaps : List (α × List Char)}
    (h : fill x front ((a, behind) :: gaps) = fill y front ((a, behind) :: gaps)) :
    x a ++ ')' :: fill x behind gaps = y a ++ ')' :: fill y behind gaps := by
  rw [fill, fill] at h
  exact (List.cons.inj (List.append_cancel_left h)).2

/-- Texts with the same text around their gaps have the same values in them, if a value is
told by what goes on behind it. -/
theorem eq_of_fill_eq {α : Type} {x y : α → List Char} {gaps : List (α × List Char)}
    (hxy : ∀ p ∈ gaps, ∀ s t, x p.1 ++ s = y p.1 ++ t → x p.1 = y p.1) {front : List Char}
    (h : fill x front gaps = fill y front gaps) : ∀ p ∈ gaps, x p.1 = y p.1 := by
  induction gaps generalizing front with
  | nil => exact fun p hp => absurd hp List.not_mem_nil
  | cons q gaps ih =>
      obtain ⟨a, behind⟩ := q
      have hgap := eq_of_fill_cons_eq h
      have ha : x a = y a := hxy (a, behind) List.mem_cons_self _ _ hgap
      rw [ha] at hgap
      have hrest := (List.cons.inj (List.append_cancel_left hgap)).2
      intro p hp
      rcases List.mem_cons.mp hp with rfl | hp
      · exact ha
      · exact ih (fun r hr => hxy r (List.mem_cons_of_mem _ hr)) hrest p hp

/-- A replacement goes through the gaps and the text around them one by one. -/
theorem replaceChars_fill {α : Type} {body r : List Char} (hm : Marked body)
    {value : α → List Char} {gaps : List (α × List Char)} (hv : ∀ p ∈ gaps, Sealed (value p.1))
    (front : List Char) :
    replaceChars (quoted body) r (fill value front gaps) =
      fill (fun a => replaceChars (quoted body) r (value a)) (replaceChars (quoted body) r front)
        (gaps.map fun p => (p.1, replaceChars (quoted body) r p.2)) := by
  induction gaps generalizing front with
  | nil => rfl
  | cons p gaps ih =>
      obtain ⟨a, behind⟩ := p
      have hne := quoted_ne_nil body
      have hx : Sealed (value a) := hv (a, behind) List.mem_cons_self
      have hopen : '"' ∉ ['('] := by decide
      have hclose : '"' ∉ [')'] := by decide
      have hrest := ih (fun p hp => hv p (List.mem_cons_of_mem _ hp)) behind
      calc replaceChars (quoted body) r (fill value front ((a, behind) :: gaps))
          = replaceChars (quoted body) r
              ((front ++ ['(']) ++ (value a ++ ([')'] ++ fill value behind gaps))) := by
            simp [fill]
        _ = replaceChars (quoted body) r (front ++ ['(']) ++
              (replaceChars (quoted body) r (value a) ++
                replaceChars (quoted body) r ([')'] ++ fill value behind gaps)) := by
            rw [replaceChars_append hne (apart_opening hm hx front _),
              replaceChars_append hne (apart_closing hm hx _)]
        _ = _ := by
            rw [replaceChars_append hne (apart_of_quote_notMem_right hopen front),
              replaceChars_append hne (apart_of_quote_notMem_left hclose _),
              replaceChars_of_quote_notMem hopen, replaceChars_of_quote_notMem hclose, hrest]
            simp [fill]

/-- A placeholder's literal stands in a text with gaps exactly if it stands in a gap or in the
text around them. -/
theorem quoted_infix_fill_iff {α : Type} {body : List Char} (hm : Marked body)
    {value : α → List Char} {gaps : List (α × List Char)} (hv : ∀ p ∈ gaps, Sealed (value p.1))
    {front : List Char} :
    quoted body <:+: fill value front gaps ↔
      (∃ x ∈ front :: gaps.map Prod.snd, quoted body <:+: x) ∨
        ∃ p ∈ gaps, quoted body <:+: value p.1 := by
  induction gaps generalizing front with
  | nil => simp [fill]
  | cons p gaps ih =>
      obtain ⟨a, behind⟩ := p
      have hx : Sealed (value a) := hv (a, behind) List.mem_cons_self
      have hopen : '"' ∉ ['('] := by decide
      have hclose : '"' ∉ [')'] := by decide
      have hsplit : fill value front ((a, behind) :: gaps) =
          (front ++ ['(']) ++ (value a ++ ([')'] ++ fill value behind gaps)) := by
        simp [fill]
      have hparts : quoted body <:+: fill value front ((a, behind) :: gaps) ↔
          quoted body <:+: front ∨ quoted body <:+: value a ∨
            quoted body <:+: fill value behind gaps := by
        have hfront : quoted body <:+: front ++ ['('] ↔ quoted body <:+: front := by
          rw [(apart_of_quote_notMem_right hopen front).infix_append_iff,
            or_iff_left (not_infix_of_quote_notMem hopen)]
        have hbehind : quoted body <:+: [')'] ++ fill value behind gaps ↔
            quoted body <:+: fill value behind gaps := by
          rw [(apart_of_quote_notMem_left hclose _).infix_append_iff,
            or_iff_right (not_infix_of_quote_notMem hclose)]
        rw [hsplit, (apart_opening hm hx front _).infix_append_iff, hfront,
          (apart_closing hm hx _).infix_append_iff, hbehind]
      have hrest := @ih (fun q hq => hv q (List.mem_cons_of_mem _ hq)) behind
      rw [hparts, hrest, List.map_cons, List.exists_mem_cons_iff _ front,
        List.exists_mem_cons_iff _ (a, behind)]
      exact (or_congr_right or_left_comm).trans or_assoc.symm

section Substituting

variable {insertions : List Insertion}

/-- A raw literal may stand in a gap. -/
theorem sealed_fenced (n : Nat) (text : List Char) : Sealed (fenced (n + 1) text) where
  opening := by
    refine ⟨'r' :: hashes (n + 1), text ++ '"' :: hashes (n + 1), rfl, ?_, ?_⟩
    · simp [quote_notMem_hashes]
    · simp [hashes, List.getLast?_cons, List.getLast?_replicate]
  closing := by
    refine ⟨'r' :: (hashes (n + 1) ++ '"' :: text), hashes (n + 1), by simp [fenced], ?_, ?_⟩
    · exact quote_notMem_hashes (n + 1)
    · simp [hashes, List.replicate_succ]

theorem substituteChars_append (x : List Char) (earlier later : List Insertion) :
    substituteChars x (earlier ++ later) = substituteChars (substituteChars x earlier) later :=
  List.foldl_append

/-- Substitutions go through the gaps and the text around them one by one. -/
theorem substituteChars_fill {α : Type} {value : α → List Char} {gaps : List (α × List Char)}
    (hm : ∀ i ∈ insertions, Marked i.placeholder.toList) (hv : ∀ p ∈ gaps, Sealed (value p.1))
    (front : List Char) :
    substituteChars (fill value front gaps) insertions =
      fill (fun a => substituteChars (value a) insertions) (substituteChars front insertions)
        (gaps.map fun p => (p.1, substituteChars p.2 insertions)) := by
  induction insertions generalizing value front gaps with
  | nil => simp [substituteChars]
  | cons i insertions ih =>
      have hi : i.apply (fill value front gaps) =
          fill (fun a => i.apply (value a)) (i.apply front)
            (gaps.map fun p => (p.1, i.apply p.2)) :=
        replaceChars_fill (hm i List.mem_cons_self) hv front
      have hvalues : ∀ p ∈ gaps.map fun p => (p.1, i.apply p.2), Sealed (i.apply (value p.1)) := by
        intro p hp
        obtain ⟨q, hq, rfl⟩ := List.mem_map.mp hp
        exact Sealed.replaceChars (sealed_fenced _ _) (hv q hq)
      have hlater := @ih (fun a => i.apply (value a)) _
        (fun j hj => hm j (List.mem_cons_of_mem i hj)) hvalues (i.apply front)
      rw [List.map_map] at hlater
      show substituteChars (i.apply (fill value front gaps)) insertions = _
      rw [hi, hlater]
      rfl

theorem substituteChars_eq_self {x : List Char} (h : ∀ i ∈ insertions, ¬ i.pattern <:+: x) :
    substituteChars x insertions = x := by
  induction insertions with
  | nil => rfl
  | cons i insertions ih =>
      show substituteChars (i.apply x) insertions = x
      rw [Insertion.apply, replaceChars_of_not_infix (h i List.mem_cons_self)]
      exact ih fun j hj => h j (List.mem_cons_of_mem i hj)

/-- A placeholder is passed over until its own turn, and then its text stands in its place. -/
theorem substituteChars_pattern {before : List Insertion} {i : Insertion}
    (h : ∀ j ∈ before, ¬ j.pattern <:+: i.pattern) (after : List Insertion) :
    substituteChars i.pattern (before ++ i :: after) = substituteChars i.literal after := by
  have hturn : i.apply (i.pattern ++ []) = i.literal ++ i.apply [] :=
    replaceChars_pattern (quoted_ne_nil i.placeholder.toList) []
  have hnil : i.apply [] = [] := replaceChars_nil _ _
  rw [List.append_nil, hnil, List.append_nil] at hturn
  rw [substituteChars_append, substituteChars_eq_self h, ← hturn]
  rfl

/-- Substitutions leave a text as it is, or it can be told from what becomes of it. -/
theorem substituteChars_eq_or_diverges (x : List Char) (insertions : List Insertion) :
    (substituteChars x insertions = x ∧ ∀ i ∈ insertions, ¬ i.pattern <:+: x) ∨
      Diverges x (substituteChars x insertions) := by
  induction insertions generalizing x with
  | nil => exact Or.inl ⟨rfl, fun _ h => absurd h List.not_mem_nil⟩
  | cons i insertions ih =>
      have hstep : (i.apply x = x ∧ ¬ i.pattern <:+: x) ∨ Diverges x (i.apply x) :=
        replaceChars_eq_or_diverges x
      have hlater : substituteChars x (i :: insertions) =
          substituteChars (i.apply x) insertions := rfl
      rw [hlater]
      rcases hstep with ⟨heq, hi⟩ | hdiverges
      · rw [heq]
        rcases ih x with ⟨hx, hall⟩ | hdiverges
        · refine Or.inl ⟨hx, fun j hj => ?_⟩
          rcases List.mem_cons.mp hj with rfl | hj
          · exact hi
          · exact hall j hj
        · exact Or.inr hdiverges
      · rcases ih (i.apply x) with ⟨hx, -⟩ | hagain
        · rw [hx]
          exact Or.inr hdiverges
        · exact Or.inr (hdiverges.trans hagain)

/-- What a text begins with tells whether substitutions leave it as it is. -/
theorem substituteChars_append_eq {x s t : List Char}
    (h : substituteChars x insertions ++ s = x ++ t) : ∀ i ∈ insertions, ¬ i.pattern <:+: x := by
  rcases substituteChars_eq_or_diverges x insertions with ⟨-, hall⟩ | ⟨before, a, b, hx, hout⟩
  · exact hall
  · rw [hout] at h
    have htext : x ++ t = before ++ '"' :: (a ++ t) := by simp [hx]
    rw [htext, List.append_assoc, List.append_cancel_left_eq] at h
    exact absurd (List.cons.inj h).1 (by decide)

/-- Substitutions leave a text around gaps as it is exactly if it holds no placeholder. -/
theorem fill_substituteChars_eq_iff {α : Type} {value : α → List Char}
    {gaps : List (α × List Char)} {front : List Char} :
    fill value (substituteChars front insertions)
        (gaps.map fun p => (p.1, substituteChars p.2 insertions)) = fill value front gaps ↔
      ∀ i ∈ insertions, ∀ x ∈ front :: gaps.map Prod.snd, ¬ i.pattern <:+: x := by
  constructor
  · intro h
    induction gaps generalizing front with
    | nil =>
        have hends := congrArg (· ++ []) h
        intro i hi x hx
        rw [List.mem_singleton.mp hx]
        exact substituteChars_append_eq hends i hi
    | cons p gaps ih =>
        rw [List.map_cons, fill, fill] at h
        have hfront := substituteChars_append_eq h
        rw [substituteChars_eq_self hfront, List.append_cancel_left_eq] at h
        have hbehind := ih (List.cons.inj (List.append_cancel_left (List.cons.inj h).2)).2
        intro i hi x hx
        rcases List.mem_cons.mp hx with rfl | hx
        · exact hfront i hi
        · exact hbehind i hi x hx
  · intro h
    have hself : ∀ x ∈ front :: gaps.map Prod.snd, substituteChars x insertions = x :=
      fun x hx => substituteChars_eq_self fun i hi => h i hi x hx
    have hgaps : (gaps.map fun p => (p.1, substituteChars p.2 insertions)) = gaps := by
      refine (List.map_congr_left fun p hp => ?_).trans (List.map_id gaps)
      rw [hself p.2 (List.mem_cons_of_mem _ (List.mem_map_of_mem hp))]
      rfl
    rw [hself front List.mem_cons_self, hgaps]

end Substituting

section Literals

variable {body text : List Char} {n : Nat}

/-- A placeholder's literal within the raw literal of a text lies within the text. -/
theorem infix_of_infix_fenced (hm : Marked body) (hhead : text.head? ≠ some '_')
    (hlast : text.getLast? ≠ some '_') (h : quoted body <:+: fenced n text) :
    quoted body <:+: text := by
  have hone : ∀ before behind : List Char, '"' ∉ before → '"' ∉ behind →
      ¬ quoted body <:+: before ++ '"' :: behind := by
    intro before behind hbefore hbehind hi
    have hcount := hi.sublist.count_le '"'
    rw [count_quoted hm.quote, List.count_append, List.count_cons_self,
      List.count_eq_zero.mpr hbefore, List.count_eq_zero.mpr hbehind] at hcount
    exact absurd hcount (by decide)
  have hstart : (text ++ '"' :: hashes n).head? ≠ some '_' := by
    cases text with
    | nil => simp
    | cons c text => exact hhead
  have hopen : Apart (quoted body) ('r' :: hashes n ++ ['"']) (text ++ '"' :: hashes n) :=
    apart_of_quote_append hm List.not_mem_nil (by simp) (hm.not_prefix hstart) _
  have hclose : Apart (quoted body) text ([] ++ '"' :: hashes n) :=
    apart_of_append_quote hm List.not_mem_nil (by simp) (hm.not_suffix hlast) _
  have hsplit : fenced n text = ('r' :: hashes n ++ ['"']) ++ (text ++ '"' :: hashes n) := by
    simp [fenced]
  have hfence : '"' ∉ 'r' :: hashes n := by
    rw [List.mem_cons, not_or]
    exact ⟨by decide, quote_notMem_hashes n⟩
  rw [hsplit] at h
  rcases hopen.infix_append h with h | h
  · exact absurd h (hone _ [] hfence List.not_mem_nil)
  · rcases hclose.infix_append h with h | h
    · exact h
    · exact absurd h (hone [] _ List.not_mem_nil (quote_notMem_hashes n))

theorem infix_fenced (n : Nat) (text : List Char) : text <:+: fenced n text :=
  ⟨'r' :: (hashes n ++ ['"']), '"' :: hashes n, by simp [fenced]⟩

/-- What becomes of a raw literal is no raw literal of the same text, unless it stays as it
is. -/
theorem eq_of_substituteChars_fenced {k : Nat} {insertions : List Insertion} {s t : List Char}
    (h : substituteChars (fenced n text) insertions ++ s = fenced k text ++ t) :
    n = k ∧ substituteChars (fenced n text) insertions = fenced n text ∧
      ∀ i ∈ insertions, ¬ i.pattern <:+: fenced n text := by
  have hquote : '"' ≠ '#' := by decide
  rcases substituteChars_eq_or_diverges (fenced n text) insertions with ⟨heq, hall⟩ | hdiverges
  · rw [heq, fenced, fenced, List.cons_append, List.cons_append, List.append_assoc,
      List.append_assoc] at h
    obtain ⟨hn, -⟩ := eq_of_hashes_append hquote hquote (List.cons.inj h).2
    exact ⟨hn, heq, hall⟩
  · exfalso
    obtain ⟨before, a, b, hfenced, hout⟩ := hdiverges
    rw [hout, List.append_assoc, List.cons_append] at h
    cases before with
    | nil => exact absurd (List.cons.inj hfenced).1 (by decide)
    | cons c before =>
        obtain ⟨rfl, hinside⟩ := List.cons.inj hfenced
        have hfront : before ++ 'r' :: (b ++ s) =
            hashes k ++ '"' :: (text ++ '"' :: (hashes k ++ t)) := by
          simpa [fenced] using h
        have hk : n = k := by
          rcases eq_or_exists_of_append_quote (quote_notMem_hashes n) hinside.symm with
            rfl | ⟨z, rfl⟩
          · obtain ⟨-, hclash, -⟩ := eq_of_hashes_append (by decide : 'r' ≠ '#') hquote hfront
            exact absurd hclash (by decide)
          · rw [List.append_assoc, List.cons_append] at hfront
            exact (eq_of_hashes_append hquote hquote hfront).1
        have hclash : 'r' :: (b ++ s) = '"' :: (a ++ t) := by
          rw [← hk, hfenced, List.append_assoc] at h
          exact List.append_cancel_left h
        exact absurd (List.cons.inj hclash).1 (by decide)

end Literals

end Rowsmith.Unit
