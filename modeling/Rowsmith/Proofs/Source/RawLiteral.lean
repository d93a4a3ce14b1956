import Mathlib.Data.List.TakeWhile
import Rowsmith.Source.Literal
import Rowsmith.Source.Quoted
import Rowsmith.Source.RawText

/-!
# Raw literals of texts

A raw literal is read up to the first quote that its fence of hashes follows. The fence of
a text is long enough for it, so that its raw literal is read as the text again, as long
as the lexer takes so many hashes and all carriage returns are paired.
-/

namespace Rowsmith.Source

/-- Whether a literal is a raw string literal whose value is a text. -/
def IsRawLiteral (literal text : List Char) : Prop :=
  ∃ n rest, literal = 'r' :: (hashes n ++ '"' :: rest) ∧ rawBody n rest = some (text, []) ∧
    n ≤ 255 ∧ returnsPaired text = true

theorem takeWhile_hashes (n : Nat) {c : Char} (hc : c ≠ '#') (rest : List Char) :
    (hashes n ++ c :: rest).takeWhile (· = '#') = hashes n := by
  rw [List.takeWhile_append_of_pos (by simp [hashes, List.mem_replicate])]
  simp [hc]

theorem length_hashes (n : Nat) : (hashes n).length = n := List.length_replicate

theorem drop_hashes (n : Nat) (rest : List Char) : (hashes n ++ rest).drop n = rest :=
  List.drop_left' (length_hashes n)

/-- A fence is told by the text that goes on behind it. -/
theorem eq_of_hashes_append {n k : Nat} {c d : Char} {s t : List Char} (hc : c ≠ '#')
    (hd : d ≠ '#') (h : hashes n ++ c :: s = hashes k ++ d :: t) : n = k ∧ c = d ∧ s = t := by
  have hrun := congrArg (fun cs => (cs.takeWhile (· = '#')).length) h
  simp only [takeWhile_hashes, length_hashes, hc, hd, ne_eq, not_false_eq_true] at hrun
  subst hrun
  exact ⟨rfl, List.cons.inj (List.append_cancel_left h)⟩

theorem quote_notMem_hashes (n : Nat) : '"' ∉ hashes n := by
  simp [hashes, List.mem_replicate]

theorem eq_of_rawBody {n : Nat} {cs body after : List Char}
    (h : rawBody n cs = some (body, after)) : cs = body ++ '"' :: (hashes n ++ after) := by
  induction cs generalizing body with
  | nil => cases h
  | cons c cs ih =>
      rw [rawBody] at h
      split at h
      · next hclose =>
          obtain ⟨rfl, hfence⟩ := hclose
          obtain ⟨rest, rfl⟩ := List.isPrefixOf_iff_prefix.mp hfence
          obtain ⟨rfl, rfl⟩ := Prod.mk.inj (Option.some.inj h)
          rw [drop_hashes, List.nil_append]
      · obtain ⟨⟨tail, rest⟩, htail, heq⟩ := Option.map_eq_some_iff.mp h
        obtain ⟨rfl, rfl⟩ := Prod.mk.inj heq
        rw [ih htail, List.cons_append]

theorem hashes_prefix_iff {n : Nat} {cs : List Char} :
    hashes n <+: cs ↔ n ≤ (cs.takeWhile (· = '#')).length := by
  constructor
  · rintro ⟨rest, rfl⟩
    rw [List.takeWhile_append_of_pos (by simp [hashes, List.mem_replicate]), List.length_append,
      length_hashes]
    exact Nat.le_add_right _ _
  · intro h
    have hrun : cs.takeWhile (· = '#') = hashes (cs.takeWhile (· = '#')).length := by
      rw [hashes, List.eq_replicate_iff]
      exact ⟨rfl, fun c hc => by simpa using List.mem_takeWhile_imp hc⟩
    have htake : (cs.takeWhile (· = '#')).take n = hashes n := by
      rw [hrun, hashes, List.take_replicate, Nat.min_eq_left h, hashes]
    rw [← htake]
    exact (List.take_prefix n _).trans (List.takeWhile_prefix _)

/-- A run of hashes behind a quote is no longer than the longest one. -/
theorem not_hashes_prefix {n : Nat} {text after : List Char}
    (h : (text.takeWhile (· = '#')).length < n) : ¬ hashes n <+: text ++ '"' :: after := by
  have hrun : (text ++ '"' :: after).takeWhile (· = '#') = text.takeWhile (· = '#') := by
    rw [List.takeWhile_append]
    split
    · next hwhole => simp [(List.takeWhile_prefix _).eq_of_length hwhole]
    · rfl
  rw [hashes_prefix_iff, hrun]
  exact Nat.not_le_of_lt h

theorem rawBody_of_longestRun_lt {n : Nat} {text : List Char} (h : longestRun text < n)
    (after : List Char) :
    rawBody n (text ++ '"' :: (hashes n ++ after)) = some (text, after) := by
  induction text with
  | nil =>
      have hfence : (hashes n).isPrefixOf (hashes n ++ after) = true :=
        List.isPrefixOf_iff_prefix.mpr (List.prefix_append _ _)
      rw [List.nil_append, rawBody, if_pos ⟨rfl, hfence⟩, drop_hashes]
  | cons c text ih =>
      rw [longestRun] at h
      have hopen : ¬ (c = '"' ∧ (hashes n).isPrefixOf (text ++ '"' :: (hashes n ++ after))) := by
        rintro ⟨rfl, hprefix⟩
        rw [if_pos rfl] at h
        exact not_hashes_prefix (by omega) (List.isPrefixOf_iff_prefix.mp hprefix)
      have hrest : longestRun text < n := by
        split at h
        · omega
        · exact h
      rw [List.cons_append, rawBody, if_neg hopen, ih hrest, Option.map_some]

/-- The raw literal of a text has the text as its value. -/
theorem isRawLiteral_fenced {text : List Char} (hn : fenceLength text ≤ 255)
    (hr : returnsPaired text = true) :
    IsRawLiteral (fenced (fenceLength text) text) text := by
  have hbody := rawBody_of_longestRun_lt (Nat.lt_succ_self (longestRun text)) []
  rw [List.append_nil] at hbody
  exact ⟨fenceLength text, _, rfl, hbody, hn, hr⟩

theorem IsRawLiteral.exists_fence {literal text : List Char} (h : IsRawLiteral literal text) :
    ∃ n, literal = fenced n text ∧ n ≤ 255 ∧ returnsPaired text = true := by
  obtain ⟨n, rest, rfl, hbody, hn, hr⟩ := h
  refine ⟨n, ?_, hn, hr⟩
  rw [eq_of_rawBody hbody, List.append_nil]
  rfl

/-- The lexer takes a raw literal as one literal, and its value is the text. -/
theorem IsRawLiteral.lexed {literal text : List Char} (h : IsRawLiteral literal text) :
    skipString .text literal = some [] ∧
      literalValue (String.ofList literal) = .text (String.ofList text) := by
  obtain ⟨n, rest, rfl, hbody, hn, hr⟩ := h
  have hrun := takeWhile_hashes n (by decide : '"' ≠ '#') rest
  constructor
  · simp only [skipString, skipRaw, hrun, length_hashes, drop_hashes, hbody]
    simp [hn, hr, QuotedKind.admits, skipSuffix, splitIdentifier]
  · simp only [literalValue, String.toList_ofList, rawValue, hrun, length_hashes,
      drop_hashes, List.drop_succ_cons, List.drop_zero, hbody, Option.map_some]

end Rowsmith.Source
