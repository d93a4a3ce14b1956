import Mathlib.Data.List.Basic
import Mathlib.Tactic.SplitIfs
import Rowsmith.Text.Escape

/-!
# Texts that print as themselves

A text stands unchanged in a string literal exactly when each of its characters prints as
itself. An escape begins with a backslash, and brings no quote along but for a quote.
-/

namespace Rowsmith.Text

/-- Whether each character of a text prints as itself between double quotes. -/
def Plain (cs : List Char) : Prop := ∀ c ∈ cs, escapeChar c = [c]

instance (cs : List Char) : Decidable (Plain cs) :=
  List.decidableBAll (fun c => escapeChar c = [c]) cs

/-- A character prints as itself, or else behind a backslash. -/
theorem escapeChar_cases (c : Char) :
    (escapeChar c = [c] ∧ c.toNat ≠ 0 ∧ c ≠ '"' ∧ c ≠ '\\') ∨
      ∃ escape, escapeChar c = '\\' :: escape := by
  unfold escapeChar codePointEscape
  split_ifs with h0 ht hr hn hq hb hx
  · exact Or.inr ⟨_, rfl⟩
  · exact Or.inr ⟨_, rfl⟩
  · exact Or.inr ⟨_, rfl⟩
  · exact Or.inr ⟨_, rfl⟩
  · exact Or.inr ⟨_, rfl⟩
  · exact Or.inr ⟨_, rfl⟩
  · exact Or.inr ⟨_, rfl⟩
  · exact Or.inl ⟨rfl, h0, hq, hb⟩

theorem escapeChar_backslash : escapeChar '\\' = ['\\', '\\'] := rfl

theorem escapeChar_ne_nil (c : Char) : escapeChar c ≠ [] := by
  rcases escapeChar_cases c with ⟨h, -⟩ | ⟨escape, h⟩
  · simp [h]
  · simp [h]

/-- A character that prints as itself is no null, no quote and no backslash. -/
theorem ne_of_escapeChar_eq {c : Char} (h : escapeChar c = [c]) :
    c.toNat ≠ 0 ∧ c ≠ '"' ∧ c ≠ '\\' := by
  rcases escapeChar_cases c with ⟨-, hc⟩ | ⟨escape, hescape⟩
  · exact hc
  · rw [h] at hescape
    obtain ⟨rfl, -⟩ := List.cons.inj hescape
    rw [escapeChar_backslash] at h
    cases h

theorem quote_notMem_of_plain {cs : List Char} (h : Plain cs) : '"' ∉ cs :=
  fun hmem => (ne_of_escapeChar_eq (h '"' hmem)).2.1 rfl

theorem literalBody_cons_of_plain {c : Char} (h : escapeChar c = [c]) (cs : List Char) :
    literalBody (c :: cs) = c :: literalBody cs := by
  have hzero : ¬ (c.toNat = 0 ∧ startsWithOctal cs = true) := fun hc =>
    (ne_of_escapeChar_eq h).1 hc.1
  rw [literalBody, if_neg hzero, h, List.singleton_append]

/-- Any other character begins with a backslash in a literal. -/
theorem literalBody_cons_of_not_plain {c : Char} (h : escapeChar c ≠ [c]) (cs : List Char) :
    ∃ rest, literalBody (c :: cs) = '\\' :: rest := by
  rw [literalBody]
  split
  · exact ⟨_, rfl⟩
  · rcases escapeChar_cases c with ⟨hc, -⟩ | ⟨escape, hescape⟩
    · exact absurd hc h
    · exact ⟨escape ++ literalBody cs, by rw [hescape, List.cons_append]⟩

theorem literalBody_append_of_plain {before : List Char} (h : Plain before) (cs : List Char) :
    literalBody (before ++ cs) = before ++ literalBody cs := by
  induction before with
  | nil => rfl
  | cons c before ih =>
      rw [List.cons_append, literalBody_cons_of_plain (h c List.mem_cons_self),
        ih fun d hd => h d (List.mem_cons_of_mem c hd), List.cons_append]

theorem literalBody_of_plain {cs : List Char} (h : Plain cs) : literalBody cs = cs := by
  have happend := literalBody_append_of_plain h []
  rwa [List.append_nil, literalBody, List.append_nil] at happend

theorem length_le_length_literalBody (cs : List Char) : cs.length ≤ (literalBody cs).length := by
  induction cs with
  | nil => exact Nat.le_refl 0
  | cons c cs ih =>
      have hescape := List.length_pos_iff.mpr (escapeChar_ne_nil c)
      rw [literalBody, List.length_append, List.length_cons]
      split
      · simp only [List.length_cons, List.length_nil]
        omega
      · omega

/-- A text whose literal goes on behind a plain beginning is plain itself. -/
theorem plain_of_literalBody_eq {before cs : List Char} (hb : Plain before)
    (h : literalBody cs = before ++ cs) : Plain cs := by
  induction cs generalizing before with
  | nil => exact fun c hc => absurd hc List.not_mem_nil
  | cons c cs ih =>
      by_cases hc : escapeChar c = [c]
      · rw [literalBody_cons_of_plain hc] at h
        have hrest : ∃ later, Plain later ∧ literalBody cs = later ++ cs := by
          cases before with
          | nil => exact ⟨[], fun _ hd => absurd hd List.not_mem_nil, (List.cons.inj h).2⟩
          | cons d before =>
              refine ⟨before ++ [c], ?_, ?_⟩
              · intro e he
                rcases List.mem_append.mp he with he | he
                · exact hb e (List.mem_cons_of_mem d he)
                · rw [List.mem_singleton.mp he, hc]
              · rw [List.append_assoc, List.singleton_append]
                exact (List.cons.inj h).2
        obtain ⟨later, hlater, heq⟩ := hrest
        intro d hd
        rcases List.mem_cons.mp hd with rfl | hd
        · exact hc
        · exact ih hlater heq d hd
      · obtain ⟨rest, hrest⟩ := literalBody_cons_of_not_plain hc cs
        cases before with
        | cons d before =>
            rw [hrest] at h
            obtain ⟨rfl, -⟩ := List.cons.inj h
            exact absurd rfl (ne_of_escapeChar_eq (hb '\\' List.mem_cons_self)).2.2
        | nil =>
            have hbackslash := h
            rw [hrest] at hbackslash
            obtain ⟨rfl, -⟩ := List.cons.inj hbackslash
            have hzero : ¬ (('\\' : Char).toNat = 0 ∧ startsWithOctal cs = true) := by
              simp
            rw [literalBody, if_neg hzero, escapeChar_backslash] at h
            have hlength := congrArg List.length h
            have hle := length_le_length_literalBody cs
            simp only [List.length_append, List.length_cons, List.length_nil] at hlength
            omega

/-- The characters that escapes are made of, but for the characters they stand for. -/
def escapeLetters : List Char :=
  ['\\', 't', 'r', 'n', 'u', 'x', '\x7b', '\x7d'] ++ (List.range 16).map Nat.digitChar

theorem mem_toDigits {d : Char} {n : Nat} (h : d ∈ Nat.toDigits 16 n) :
    d ∈ (List.range 16).map Nat.digitChar := by
  have hdigit : ∀ k < 16, k.digitChar ∈ (List.range 16).map Nat.digitChar := fun k hk =>
    List.mem_map_of_mem (List.mem_range.mpr hk)
  induction n using Nat.strongRecOn with
  | ind n ih =>
      rw [Nat.toDigits_eq_if (by decide)] at h
      split at h
      · next hn => exact List.mem_singleton.mp h ▸ hdigit n hn
      · next hn =>
          rcases List.mem_append.mp h with h | h
          · exact ih (n / 16) (by omega) h
          · exact List.mem_singleton.mp h ▸ hdigit (n % 16) (Nat.mod_lt n (by decide))

theorem mem_escapeChar {c d : Char} (h : d ∈ escapeChar c) : d = c ∨ d ∈ escapeLetters := by
  have hall : ∀ letters : List Char, letters ⊆ escapeLetters → d ∈ letters →
      d = c ∨ d ∈ escapeLetters := fun _ hletters hd => .inr (hletters hd)
  unfold escapeChar at h
  split_ifs at h with hzero ht hr hn hq hb hx
  · exact hall _ (by decide) h
  · exact hall _ (by decide) h
  · exact hall _ (by decide) h
  · exact hall _ (by decide) h
  · rcases List.mem_pair.mp h with rfl | rfl
    · exact .inr (by decide)
    · exact .inl hq.symm
  · exact hall _ (by decide) h
  · rw [codePointEscape, List.mem_append, List.mem_append] at h
    rcases h with (h | h) | h
    · exact hall _ (by decide) h
    · exact .inr (List.mem_append_right _ (mem_toDigits h))
    · exact hall _ (by decide) h
  · exact .inl (List.mem_singleton.mp h)

theorem quote_notMem_escapeChar {c : Char} (h : c ≠ '"') : '"' ∉ escapeChar c := by
  intro hmem
  rcases mem_escapeChar hmem with rfl | hc
  · exact h rfl
  · exact absurd hc (by decide)

/-- The literal of a text has the text's characters and those of escapes. -/
theorem mem_literalBody {d : Char} {cs : List Char} (h : d ∈ literalBody cs) :
    d ∈ cs ∨ d ∈ escapeLetters := by
  induction cs with
  | nil => exact absurd h List.not_mem_nil
  | cons c cs ih =>
      have hnull : ['\\', 'x', '0', '0'] ⊆ escapeLetters := by decide
      rw [literalBody, List.mem_append] at h
      rcases h with h | h
      · split at h
        · exact .inr (hnull h)
        · exact (mem_escapeChar h).imp_left fun hd => List.mem_cons.mpr (.inl hd)
      · exact (ih h).imp_left (List.mem_cons_of_mem c)

theorem quote_notMem_literalBody {cs : List Char} (h : '"' ∉ cs) : '"' ∉ literalBody cs := by
  intro hmem
  rcases mem_literalBody hmem with hc | hc
  · exact h hc
  · exact absurd hc (by decide)

theorem getLast?_toList_append {c : Char} {behind : String}
    (h : behind.toList.getLast? = some c) (before : String) :
    (before ++ behind).toList.getLast? = some c := by
  rw [String.toList_append, List.getLast?_append, h, Option.some_or]

/-- What a text ends with stands at the end of its literal as it does on its own. -/
theorem exists_literalBody_append (before cs : List Char) :
    ∃ x, literalBody (before ++ cs) = x ++ literalBody cs := by
  induction before with
  | nil => exact ⟨[], rfl⟩
  | cons c before ih =>
      obtain ⟨x, hx⟩ := ih
      rw [List.cons_append, literalBody, hx, ← List.append_assoc]
      exact ⟨_, rfl⟩

/-- No escape ends with a low line. -/
theorem getLast?_escapeChar {c : Char} (h : c ≠ '_') : (escapeChar c).getLast? ≠ some '_' := by
  unfold escapeChar codePointEscape
  split_ifs
  · decide
  · decide
  · decide
  · decide
  · decide
  · decide
  · rw [List.getLast?_concat]
    decide
  · simpa using h

theorem getLast?_literalBody {cs : List Char} (h : cs.getLast? ≠ some '_') :
    (literalBody cs).getLast? ≠ some '_' := by
  rcases cs.eq_nil_or_concat' with rfl | ⟨before, c, rfl⟩
  · exact h
  · obtain ⟨x, hx⟩ := exists_literalBody_append before [c]
    have hescape : literalBody [c] = escapeChar c := by simp [literalBody, startsWithOctal]
    have hc : c ≠ '_' := by
      rintro rfl
      exact h List.getLast?_concat
    have hlast := getLast?_escapeChar hc
    rw [hx, hescape, List.getLast?_append]
    cases hends : (escapeChar c).getLast? with
    | none => exact absurd (List.getLast?_eq_none_iff.mp hends) (escapeChar_ne_nil c)
    | some d => simpa [hends] using hlast

theorem escapeChar_eq_append_quote {c : Char} {before behind : List Char}
    (h : escapeChar c = before ++ '"' :: behind) : c = '"' ∧ before = ['\\'] ∧ behind = [] := by
  by_cases hc : c = '"'
  · have hescape : escapeChar '"' = ['\\', '"'] := rfl
    rw [hc, hescape] at h
    cases before with
    | nil => exact absurd (List.cons.inj h).1 (by decide)
    | cons d before =>
        obtain ⟨rfl, hrest⟩ := List.cons.inj h
        cases before with
        | nil => exact ⟨hc, rfl, (List.cons.inj hrest).2.symm⟩
        | cons e before =>
            have hlength := congrArg List.length hrest
            simp at hlength
  · exact absurd (h ▸ List.mem_append_right before List.mem_cons_self) (quote_notMem_escapeChar hc)

/-- A quote within a literal is one of the text, behind a backslash. -/
theorem exists_of_literalBody_eq {cs before behind : List Char}
    (h : literalBody cs = before ++ '"' :: behind) : before.getLast? = some '\\' ∧
      ∃ front rest, cs = front ++ '"' :: rest ∧ literalBody rest = behind := by
  induction cs generalizing before with
  | nil => exact absurd h (by simp [literalBody])
  | cons c cs ih =>
      rw [literalBody] at h
      rcases List.append_eq_append_iff.mp h with ⟨k, rfl, hk⟩ | ⟨k, hk, hbehind⟩
      · obtain ⟨hlast, front, rest, rfl, hrest⟩ := ih hk
        rw [List.getLast?_append, hlast, Option.some_or]
        exact ⟨rfl, c :: front, rest, rfl, hrest⟩
      · cases k with
        | nil =>
            have heq : literalBody cs = [] ++ '"' :: behind := hbehind.symm
            exact absurd (ih heq).1 (by decide)
        | cons d k =>
            obtain ⟨rfl, rfl⟩ := List.cons.inj hbehind
            split at hk
            · exact absurd (hk ▸ List.mem_append_right before List.mem_cons_self)
                (by decide : '"' ∉ ['\\', 'x', '0', '0'])
            · obtain ⟨rfl, rfl, rfl⟩ := escapeChar_eq_append_quote hk
              exact ⟨rfl, [], cs, rfl, rfl⟩

/-- A plain text is the literal of no other one. -/
theorem eq_of_literalBody_eq {cs p : List Char} (hp : Plain p) (h : literalBody cs = p) :
    cs = p := by
  induction cs generalizing p with
  | nil => exact h
  | cons c cs ih =>
      by_cases hc : escapeChar c = [c]
      · rw [literalBody_cons_of_plain hc] at h
        cases p with
        | nil => cases h
        | cons d p =>
            obtain ⟨rfl, hrest⟩ := List.cons.inj h
            rw [ih (fun e he => hp e (List.mem_cons_of_mem c he)) hrest]
      · obtain ⟨rest, hrest⟩ := literalBody_cons_of_not_plain hc cs
        rw [hrest] at h
        exact absurd rfl (ne_of_escapeChar_eq (hp '\\' (h ▸ List.mem_cons_self))).2.2

end Rowsmith.Text
