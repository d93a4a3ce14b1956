import Mathlib.Order.Bounds.Basic
import Rowsmith.Proofs.Source.RawLiteral
import Rowsmith.Text.Replace

/-!
# Fences of raw literals

A fence for a text is searched by taking one hash more as long as the text breaks the fence. The
search ends, at the least fence from one hash on that the text does not break. A raw literal with
that fence is read as its text whatever comes behind it: a text that ends in a quote, or in a quote
and some hashes, does not close its literal early.
-/

namespace Rowsmith.Source
open Text

/-- Whether a text breaks a fence of `n` hashes: a quote of the text has so many behind it. -/
def Breaks (text : List Char) (n : Nat) : Prop := '"' :: hashes n <:+: text

/-- The search for a fence from a number of hashes on, and the number at which it halts. -/
inductive FenceSearch (text : List Char) : Nat → Nat → Prop
  | halt {n} (h : ¬ Breaks text n) : FenceSearch text n n
  | widen {n m} (h : Breaks text n) (tail : FenceSearch text (n + 1) m) : FenceSearch text n m

/-- The text of the raw literal at the front and what is behind the literal. The text is all that
stands between a quote, which follows an `r` and `n` hashes, and the first quote that `n` hashes
follow. -/
def readRaw? (cs : List Char) : Option (List Char × List Char) := do
  let marked ← dropStart? ['r'] cs
  let fence := (marked.takeWhile (· = '#')).length
  rawBody fence (← dropStart? ['"'] (marked.drop fence))

section Search

variable {text : List Char} {n m : Nat}

theorem Breaks.lt_length (h : Breaks text n) : n < text.length := by
  have hlength := List.IsInfix.length_le h
  rw [List.length_cons, length_hashes] at hlength
  exact hlength

/-- Every search halts: no text breaks a fence of as many hashes as it has characters. -/
theorem exists_fenceSearch (text : List Char) (n : Nat) : ∃ m, FenceSearch text n m := by
  -- Each turn of the search leaves one fence fewer that fits into the text.
  induction hk : text.length - n generalizing n with
  | zero =>
      have hfree : ¬ Breaks text n := by
        intro h
        have hlength := h.lt_length
        omega
      exact ⟨n, .halt hfree⟩
  | succ k ih =>
      by_cases h : Breaks text n
      · obtain ⟨m, tail⟩ := ih (n + 1) (by omega)
        exact ⟨m, .widen h tail⟩
      · exact ⟨n, .halt h⟩

/-- A fence that is broken may be left out of the search. -/
theorem isLeast_of_breaks (h : Breaks text n)
    (hm : IsLeast {k | n + 1 ≤ k ∧ ¬ Breaks text k} m) :
    IsLeast {k | n ≤ k ∧ ¬ Breaks text k} m := by
  obtain ⟨⟨hle, hfree⟩, hleast⟩ := hm
  refine ⟨⟨Nat.le_of_succ_le hle, hfree⟩, ?_⟩
  rintro k ⟨hk, hkfree⟩
  have hne : n ≠ k := by
    rintro rfl
    exact hkfree h
  exact hleast ⟨Nat.lt_of_le_of_ne hk hne, hkfree⟩

/-- A search halts at the least fence from its beginning on that the text does not break. -/
theorem FenceSearch.isLeast (search : FenceSearch text n m) :
    IsLeast {k | n ≤ k ∧ ¬ Breaks text k} m := by
  induction search with
  | halt h => exact ⟨⟨le_rfl, h⟩, fun k hk => hk.1⟩
  | widen h _ ih => exact isLeast_of_breaks h ih

end Search

section Length

/-- A text breaks the fences up to its longest run of hashes behind a quote. -/
theorem breaks_iff {n : Nat} (hn : 0 < n) (text : List Char) :
    Breaks text n ↔ n ≤ longestRun text := by
  induction text with
  | nil =>
      have hfree : ¬ Breaks [] n := fun h => absurd h.lt_length (Nat.not_lt_zero n)
      rw [longestRun]
      exact iff_of_false hfree (Nat.not_le_of_lt hn)
  | cons c text ih =>
      rw [Breaks, List.infix_cons_iff, List.cons_prefix_cons, hashes_prefix_iff, ← Breaks, ih,
        longestRun]
      by_cases hc : '"' = c
      · rw [if_pos hc.symm, and_iff_right hc]
        omega
      · rw [if_neg (Ne.symm hc), or_iff_right fun h => hc h.1]

/-- The fence of a text is the least one that it does not break. -/
theorem isLeast_fenceLength (text : List Char) :
    IsLeast {n | 1 ≤ n ∧ ¬ Breaks text n} (fenceLength text) := by
  constructor
  · have hpos : 0 < fenceLength text := Nat.succ_pos _
    refine ⟨hpos, ?_⟩
    rw [breaks_iff hpos]
    exact Nat.not_succ_le_self _
  · rintro n ⟨hn, hfree⟩
    rw [breaks_iff hn] at hfree
    exact Nat.lt_of_not_le hfree

/-- The search from one hash on halts at the fence of the text, and nowhere else. -/
theorem fenceSearch_iff {text : List Char} {n : Nat} :
    FenceSearch text 1 n ↔ n = fenceLength text := by
  constructor
  · intro search
    exact search.isLeast.unique (isLeast_fenceLength text)
  · rintro rfl
    obtain ⟨m, search⟩ := exists_fenceSearch text 1
    rwa [← search.isLeast.unique (isLeast_fenceLength text)]

end Length

section Reading

theorem readRaw?_cons (cs : List Char) : readRaw? ('r' :: cs) =
    (dropStart? ['"'] (cs.drop (cs.takeWhile (· = '#')).length)).bind
      (rawBody (cs.takeWhile (· = '#')).length) := rfl

/-- The lexer reads a raw string literal by this rule. It takes at most 255 hashes and no carriage
return that stands alone, and drops a suffix. -/
theorem skipString_raw (cs : List Char) :
    skipString .text ('r' :: cs) = (readRaw? ('r' :: cs)).bind fun (text, after) =>
      if (cs.takeWhile (· = '#')).length ≤ 255 ∧ returnsPaired text = true then
        some (skipSuffix after) else none := by
  rw [skipString, readRaw?_cons, skipRaw]
  generalize (cs.takeWhile (· = '#')).length = fence
  cases hopening : dropStart? ['"'] (cs.drop fence) with
  | none =>
      have hnone : ∀ rest, cs.drop fence ≠ '"' :: rest := by
        intro rest hrest
        rw [dropStart?_eq_some_iff.mpr hrest] at hopening
        cases hopening
      split
      · next rest hrest => exact absurd hrest (hnone rest)
      · rfl
  | some rest =>
      rw [dropStart?_eq_some_iff.mp hopening, Option.bind_some]
      cases hbody : rawBody fence rest with
      | none => simp [hbody]
      | some read => simp [hbody, QuotedKind.admits]

/-- A literal with a fence that is longer than each run of hashes is read as its text. -/
theorem readRaw?_fenced {n : Nat} {text : List Char} (h : longestRun text < n)
    (rest : List Char) : readRaw? (fenced n text ++ rest) = some (text, rest) := by
  have hliteral : fenced n text ++ rest =
      'r' :: (hashes n ++ '"' :: (text ++ '"' :: (hashes n ++ rest))) := by simp [fenced]
  have hopening : dropStart? ['"'] ('"' :: (text ++ '"' :: (hashes n ++ rest))) =
      some (text ++ '"' :: (hashes n ++ rest)) := dropStart?_eq_some_iff.mpr rfl
  rw [hliteral, readRaw?_cons, takeWhile_hashes n (by decide), length_hashes, drop_hashes, hopening,
    Option.bind_some]
  exact rawBody_of_longestRun_lt h rest

end Reading

/-- The search for the fence of a text halts, at one number of hashes: the least one from one on
that no quote of the text has behind it. The raw literal of the text has that fence, and it is read
as the text whatever source follows, which is left as it is. -/
theorem exists_fence_rawLiteral (text rest : String) : ∃ n,
    (∀ m, FenceSearch text.toList 1 m ↔ m = n) ∧
    IsLeast {m | 1 ≤ m ∧ ¬ '"' :: hashes m <:+: text.toList} n ∧
    (rawLiteral text).toList = 'r' :: hashes n ++ ['"'] ++ text.toList ++ ['"'] ++ hashes n ∧
    readRaw? (rawLiteral text ++ rest).toList = some (text.toList, rest.toList) := by
  have hliteral : (rawLiteral text).toList = fenced (fenceLength text.toList) text.toList :=
    String.toList_ofList
  refine ⟨fenceLength text.toList, fun m => fenceSearch_iff, isLeast_fenceLength text.toList, ?_,
    ?_⟩
  · rw [hliteral, fenced]
    simp
  · rw [String.toList_append, hliteral]
    exact readRaw?_fenced (Nat.lt_succ_self _) rest.toList

/-- Neither the quote nor the two hashes at the end of a text close its literal. -/
example : rawLiteral "a \"##" = "r###\"a \"##\"###" ∧
    readRaw? "r###\"a \"##\"####b".toList = some ("a \"##".toList, ['#', 'b']) := by decide

end Rowsmith.Source
