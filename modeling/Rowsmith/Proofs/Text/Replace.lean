import Mathlib.Data.List.Infix
import Rowsmith.Text.Replace

/-!
# Replacing a pattern

A replacement passes over a text once from the left. Where no occurrence goes over a
boundary, the two sides are replaced on their own; a text without an occurrence stays as
it is.
-/

namespace Rowsmith.Text

variable {pattern replacement : List Char}

/-- One pass over a text that replaces a pattern. -/
inductive Replaced (pattern replacement : List Char) : List Char → List Char → Prop
  | nil : Replaced pattern replacement [] []
  | found {rest out} (h : Replaced pattern replacement rest out) :
      Replaced pattern replacement (pattern ++ rest) (replacement ++ out)
  | kept {c rest out} (hc : ¬ pattern <+: c :: rest) (h : Replaced pattern replacement rest out) :
      Replaced pattern replacement (c :: rest) (c :: out)

theorem replaceFrom_passed (passed : Nat) (cs : List Char) :
    replaceFrom pattern replacement passed cs =
      replaceFrom pattern replacement 0 (cs.drop passed) := by
  induction passed generalizing cs with
  | zero => rfl
  | succ passed ih =>
      cases cs with
      | nil => rfl
      | cons c cs => rw [replaceFrom, ih, List.drop_succ_cons]

theorem replaceChars_pattern (hp : pattern ≠ []) (rest : List Char) :
    replaceChars pattern replacement (pattern ++ rest) =
      replacement ++ replaceChars pattern replacement rest := by
  cases pattern with
  | nil => exact absurd rfl hp
  | cons c pattern =>
      have hprefix : (c :: pattern).isPrefixOf (c :: (pattern ++ rest)) = true :=
        List.isPrefixOf_iff_prefix.mpr (List.prefix_append (c :: pattern) rest)
      rw [replaceChars, List.cons_append, replaceFrom, if_pos hprefix, replaceFrom_passed,
        List.length_cons, Nat.add_sub_cancel, List.drop_left, replaceChars]

theorem replaceChars_cons {c : Char} {rest : List Char} (h : ¬ pattern <+: c :: rest) :
    replaceChars pattern replacement (c :: rest) =
      c :: replaceChars pattern replacement rest := by
  rw [replaceChars, replaceFrom, if_neg (by rwa [List.isPrefixOf_iff_prefix]), replaceChars]

/-- The replacement of a pattern is one pass. -/
theorem replaced_replaceChars (hp : pattern ≠ []) (replacement cs : List Char) :
    Replaced pattern replacement cs (replaceChars pattern replacement cs) := by
  induction hn : cs.length using Nat.strong_induction_on generalizing cs with
  | _ n ih =>
      cases cs with
      | nil =>
          rw [replaceChars_nil]
          exact .nil
      | cons c cs =>
          by_cases hprefix : pattern <+: c :: cs
          · obtain ⟨rest, hrest⟩ := hprefix
            have hlength : rest.length < n := by
              have hpattern := List.length_pos_iff.mpr hp
              rw [← hn, ← hrest, List.length_append]
              omega
            rw [← hrest, replaceChars_pattern hp]
            exact .found (ih rest.length hlength rest rfl)
          · rw [replaceChars_cons hprefix]
            exact .kept hprefix (ih cs.length (by rw [← hn]; simp) cs rfl)

/-- A text without an occurrence stays as it is. -/
theorem replaceChars_of_not_infix {cs : List Char} (h : ¬ pattern <:+: cs) :
    replaceChars pattern replacement cs = cs := by
  induction cs with
  | nil => exact replaceChars_nil pattern replacement
  | cons c cs ih =>
      rw [List.infix_cons_iff, not_or] at h
      rw [replaceChars_cons h.1, ih h.2]

/-- Whether no occurrence of a pattern goes over the boundary between two texts. -/
def Apart (pattern before behind : List Char) : Prop :=
  ∀ u v, pattern = u ++ v → u ≠ [] → v ≠ [] → u <:+ before → ¬ v <+: behind

theorem Apart.of_suffix {before later behind : List Char} (h : Apart pattern before behind)
    (hs : later <:+ before) : Apart pattern later behind :=
  fun u v hp hu hv hsuffix => h u v hp hu hv (hsuffix.trans hs)

/-- An occurrence at the front of two texts is one at the front of the first. -/
theorem Apart.prefix_left {before behind : List Char} (h : Apart pattern before behind)
    (hne : before ≠ []) (hp : pattern <+: before ++ behind) : pattern <+: before := by
  obtain ⟨rest, hrest⟩ := hp
  rcases List.append_eq_append_iff.mp hrest with ⟨v, hbefore, -⟩ | ⟨v, hpattern, hbehind⟩
  · exact ⟨v, hbefore.symm⟩
  · cases v with
    | nil =>
        rw [List.append_nil] at hpattern
        rw [hpattern]
    | cons c v =>
        exact absurd ⟨rest, hbehind.symm⟩
          (h before (c :: v) hpattern hne (by simp) (List.suffix_refl before))

/-- The two sides of a boundary are replaced on their own. -/
theorem replaceChars_append (hp : pattern ≠ []) {before behind : List Char}
    (h : Apart pattern before behind) :
    replaceChars pattern replacement (before ++ behind) =
      replaceChars pattern replacement before ++ replaceChars pattern replacement behind := by
  have hpass := replaced_replaceChars hp replacement before
  generalize replaceChars pattern replacement before = out at hpass ⊢
  induction hpass with
  | nil => rfl
  | @found rest out _ ih =>
      rw [List.append_assoc, replaceChars_pattern hp, ih (h.of_suffix (List.suffix_append _ _)),
        List.append_assoc]
  | @kept c rest out hc _ ih =>
      have hnot : ¬ pattern <+: c :: (rest ++ behind) := fun hprefix =>
        hc (h.prefix_left (by simp) hprefix)
      rw [List.cons_append, replaceChars_cons hnot, ih (h.of_suffix (List.suffix_cons c rest)),
        List.cons_append]

/-- An occurrence in two texts lies in one of them. -/
theorem Apart.infix_append {before behind : List Char} (h : Apart pattern before behind)
    (hi : pattern <:+: before ++ behind) : pattern <:+: before ∨ pattern <:+: behind := by
  induction before with
  | nil => exact Or.inr hi
  | cons c before ih =>
      rw [List.cons_append, List.infix_cons_iff] at hi
      rcases hi with hprefix | hi
      · exact Or.inl (h.prefix_left (by simp) hprefix).isInfix
      · rcases ih (h.of_suffix (List.suffix_cons c before)) hi with hi | hi
        · exact Or.inl (List.infix_cons hi)
        · exact Or.inr hi

theorem Apart.infix_append_iff {before behind : List Char} (h : Apart pattern before behind) :
    pattern <:+: before ++ behind ↔ pattern <:+: before ∨ pattern <:+: behind := by
  refine ⟨h.infix_append, ?_⟩
  rintro (hi | hi)
  · exact hi.trans (List.prefix_append before behind).isInfix
  · exact hi.trans (List.suffix_append before behind).isInfix

/-- Whether a text is another one up to a place where a quote became an `r`. -/
def Diverges (cs out : List Char) : Prop :=
  ∃ before s s', cs = before ++ '"' :: s ∧ out = before ++ 'r' :: s'

theorem Diverges.trans {a b c : List Char} (hab : Diverges a b) (hbc : Diverges b c) :
    Diverges a c := by
  obtain ⟨p, s, s', rfl, rfl⟩ := hab
  obtain ⟨q, t, t', hb, rfl⟩ := hbc
  rcases List.append_eq_append_iff.mp hb with ⟨k, rfl, hk⟩ | ⟨k, rfl, hk⟩
  · cases k with
    | nil => exact absurd (List.cons.inj hk).1 (by decide)
    | cons d k =>
        obtain ⟨rfl, -⟩ := List.cons.inj hk
        exact ⟨p, s, k ++ 'r' :: t', rfl, by simp⟩
  · cases k with
    | nil => exact absurd (List.cons.inj hk).1 (by decide)
    | cons d k =>
        obtain ⟨rfl, -⟩ := List.cons.inj hk
        exact ⟨q, k ++ '"' :: s, t', by simp, rfl⟩

/-- A replacement of a quoted pattern by a raw literal leaves a text as it is, or it can be
told from it. -/
theorem replaceChars_eq_or_diverges {p r : List Char} (cs : List Char) :
    (replaceChars ('"' :: p) ('r' :: r) cs = cs ∧ ¬ '"' :: p <:+: cs) ∨
      Diverges cs (replaceChars ('"' :: p) ('r' :: r) cs) := by
  have hpass := replaced_replaceChars (List.cons_ne_nil '"' p) ('r' :: r) cs
  generalize replaceChars ('"' :: p) ('r' :: r) cs = out at hpass ⊢
  induction hpass with
  | nil => exact Or.inl ⟨rfl, by simp⟩
  | found _ _ => exact Or.inr ⟨[], _, _, rfl, rfl⟩
  | @kept c rest out hc _ ih =>
      rcases ih with ⟨rfl, hi⟩ | ⟨before, s, s', rfl, rfl⟩
      · refine Or.inl ⟨rfl, ?_⟩
        rw [List.infix_cons_iff, not_or]
        exact ⟨hc, hi⟩
      · exact Or.inr ⟨c :: before, s, s', rfl, rfl⟩

end Rowsmith.Text
