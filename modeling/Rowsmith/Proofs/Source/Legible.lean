import Rowsmith.Proofs.Source.Leaf
import Rowsmith.Proofs.Unit.Leaves

/-!
# Reading printed tokens

The text of token trees has tokens again if each of their leaves is read as one, whatever is to
stand behind it. This is followed from the end of the text: a text that has tokens behind the
groups that are open before it still has them when a leaf or a bracket is put in front.
-/

namespace Rowsmith.Source
open Rowsmith.Text

section Blanks

theorem length_splitLine_le (cs : List Char) : (splitLine cs).2.length ≤ cs.length := by
  fun_induction splitLine cs with
  | case1 => exact Nat.le_refl 0
  | case2 rest => exact Nat.le_refl _
  | case3 rest => exact Nat.le_succ _
  | case4 c rest _ _ line after heq ih =>
      rw [heq] at ih
      exact Nat.le_succ_of_le ih

theorem length_of_skipBlockComment {depth : Nat} {cs after : List Char}
    (h : skipBlockComment depth cs = some after) : after.length < cs.length := by
  fun_induction skipBlockComment depth cs with
  | case1 depth rest ih => exact Nat.lt_add_right 2 (ih h)
  | case2 depth rest hd =>
      obtain rfl := Option.some.inj h
      exact Nat.lt_add_of_pos_right Nat.two_pos
  | case3 depth rest hd ih => exact Nat.lt_add_right 2 (ih h)
  | case4 depth c rest _ _ ih => exact Nat.lt_add_right 1 (ih h)
  | case5 => cases h

/-- Steps beyond the length of a text skip nothing more. -/
theorem skipTokenBlanks_succ {fuel : Nat} {cs : List Char} (h : cs.length ≤ fuel) :
    skipTokenBlanks (fuel + 1) cs = skipTokenBlanks fuel cs := by
  induction fuel generalizing cs with
  | zero =>
      obtain rfl := List.length_eq_zero_iff.mp (Nat.le_zero.mp h)
      rfl
  | succ fuel ih =>
      cases cs with
      | nil => rfl
      | cons c rest =>
          have hrest : rest.length ≤ fuel := Nat.le_of_succ_le_succ h
          rw [skipTokenBlanks, skipTokenBlanks]
          split
          · exact ih ((length_splitLine_le rest).trans hrest)
          · split
            · split
              · next after hafter =>
                  have hshorter := length_of_skipBlockComment hafter
                  rw [List.length_cons] at hshorter
                  exact ih (by omega)
              · rfl
            · split
              · exact ih hrest
              · rfl

end Blanks

section Fronts

/-- Whether a character may stand at the front of a leaf: it is no blank, no slash and no
bracket. -/
def isFront (c : Char) : Bool :=
  !isTokenBlank c && c != '/' && (opening c).isNone && (closing c).isNone

theorem skipTokenBlanks_of_ne {c : Char} (hslash : c ≠ '/') (hblank : isTokenBlank c = false)
    (fuel : Nat) (cs : List Char) : skipTokenBlanks fuel (c :: cs) = c :: cs := by
  have hline : atLineComment (c :: cs) = false := by
    unfold atLineComment
    split
    · next heq => exact absurd (List.cons.inj heq).1 hslash
    · rfl
    · rfl
    · next heq => exact absurd (List.cons.inj heq).1 hslash
    · rfl
  have hblock : atBlockComment (c :: cs) = false := by
    unfold atBlockComment
    split
    · next heq => exact absurd (List.cons.inj heq).1 hslash
    · next heq => exact absurd (List.cons.inj heq).1 hslash
    · rfl
    · rfl
    · next heq => exact absurd (List.cons.inj heq).1 hslash
    · rfl
  cases fuel with
  | zero => rfl
  | succ fuel =>
      rw [skipTokenBlanks, hline, hblock, hblank]
      rfl

theorem documentationComment_of_ne {c : Char} (hslash : c ≠ '/') (cs : List Char) :
    documentationComment (c :: cs) = none := by
  unfold documentationComment
  split
  · next heq => exact absurd (List.cons.inj heq).1 hslash
  · next heq => exact absurd (List.cons.inj heq).1 hslash
  · rfl
  · next heq => exact absurd (List.cons.inj heq).1 hslash
  · rfl
  · next heq => exact absurd (List.cons.inj heq).1 hslash
  · rfl

theorem of_opening {c : Char} {d : Delimiter} (h : opening c = some d) :
    c ≠ '/' ∧ isTokenBlank c = false := by
  unfold opening at h
  split at h
  · decide
  · decide
  · decide
  · cases h

theorem of_closing {c : Char} {d : Delimiter} (h : closing c = some d) :
    c ≠ '/' ∧ isTokenBlank c = false ∧ opening c = none := by
  unfold closing at h
  split at h
  · decide
  · decide
  · decide
  · cases h

end Fronts

section Steps

variable {c : Char} {cs : List Char} {fuel : Nat} {outer : List (Delimiter × List Token)}
  {done : List Token}

/-- A bracket that opens a group is passed in one step. -/
theorem lexFrom_opening {d : Delimiter} (hc : opening c = some d) :
    lexFrom (fuel + 1) outer done (c :: cs) = lexFrom fuel ((d, done) :: outer) [] cs := by
  obtain ⟨hslash, hblank⟩ := of_opening hc
  simp only [lexFrom, skipTokenBlanks_of_ne hslash hblank, documentationComment_of_ne hslash, hc]

/-- A bracket that closes the innermost group is passed in one step. -/
theorem lexFrom_closing {d : Delimiter} (hc : closing c = some d) {before : List Token} :
    lexFrom (fuel + 1) ((d, before) :: outer) done (c :: cs) =
      lexFrom fuel outer (.group d done.reverse :: before) cs := by
  obtain ⟨hslash, hblank, hopening⟩ := of_closing hc
  simp only [lexFrom, skipTokenBlanks_of_ne hslash hblank, documentationComment_of_ne hslash, hc,
    hopening, if_true]

/-- A leaf is passed in one step. -/
theorem lexFrom_leaf (hc : isFront c = true) {token : Token} {after : List Char}
    (hlex : lexLeaf (c :: cs) = some (token, after)) :
    lexFrom (fuel + 1) outer done (c :: cs) = lexFrom fuel outer (token :: done) after := by
  simp only [isFront, Bool.and_eq_true, Bool.not_eq_true', bne_iff_ne, Option.isNone_iff_eq_none]
    at hc
  obtain ⟨⟨⟨hblank, hslash⟩, hopening⟩, hclosing⟩ := hc
  simp only [lexFrom, skipTokenBlanks_of_ne hslash hblank, documentationComment_of_ne hslash,
    hopening, hclosing, hlex]

end Steps

/-- Whether a text has tokens behind groups that are open, given innermost first. -/
def Reads (groups : List Delimiter) (cs : List Char) : Prop :=
  ∀ (fuel : Nat) (outer : List (Delimiter × List Token)) (done : List Token),
    outer.map Prod.fst = groups → cs.length < fuel → (lexFrom fuel outer done cs).isSome = true

namespace Reads

variable {groups : List Delimiter} {cs : List Char}

theorem nil : Reads [] [] := by
  intro fuel outer done houter hfuel
  obtain ⟨fuel, rfl⟩ := Nat.exists_eq_succ_of_ne_zero (Nat.ne_zero_of_lt hfuel)
  obtain rfl := List.map_eq_nil_iff.mp houter
  rfl

theorem space (h : Reads groups cs) : Reads groups (' ' :: cs) := by
  intro fuel outer done houter hfuel
  obtain ⟨fuel, rfl⟩ := Nat.exists_eq_succ_of_ne_zero (Nat.ne_zero_of_lt hfuel)
  have hlength : cs.length < fuel := Nat.lt_of_succ_lt_succ hfuel
  have hskip : skipTokenBlanks (fuel + 1) (' ' :: cs) = skipTokenBlanks (fuel + 1) cs := by
    rw [skipTokenBlanks_succ hlength.le]
    rfl
  have hcs := h (fuel + 1) outer done houter (Nat.lt_succ_of_lt hlength)
  rw [lexFrom] at hcs ⊢
  rwa [hskip]

/-- A bracket that opens a group. -/
theorem opening {c : Char} {d : Delimiter} (hc : opening c = some d) (h : Reads (d :: groups) cs) :
    Reads groups (c :: cs) := by
  intro fuel outer done houter hfuel
  obtain ⟨fuel, rfl⟩ := Nat.exists_eq_succ_of_ne_zero (Nat.ne_zero_of_lt hfuel)
  rw [lexFrom_opening hc]
  exact h fuel ((d, done) :: outer) [] (by rw [List.map_cons, houter])
    (Nat.lt_of_succ_lt_succ hfuel)

/-- A bracket that closes the innermost group. -/
theorem closing {c : Char} {d : Delimiter} (hc : closing c = some d) (h : Reads groups cs) :
    Reads (d :: groups) (c :: cs) := by
  intro fuel outer done houter hfuel
  obtain ⟨fuel, rfl⟩ := Nat.exists_eq_succ_of_ne_zero (Nat.ne_zero_of_lt hfuel)
  obtain ⟨⟨expected, before⟩, outer, rfl, hexpected, hgroups⟩ := List.map_eq_cons_iff.mp houter
  obtain rfl : expected = d := hexpected
  rw [lexFrom_closing hc]
  exact h fuel outer _ hgroups (Nat.lt_of_succ_lt_succ hfuel)

/-- A leaf that is read as one token. -/
theorem leaf {c : Char} {text : List Char} (hc : isFront c = true)
    (hlex : ∃ token, lexLeaf (c :: text ++ cs) = some (token, cs)) (h : Reads groups cs) :
    Reads groups (c :: text ++ cs) := by
  intro fuel outer done houter hfuel
  obtain ⟨fuel, rfl⟩ := Nat.exists_eq_succ_of_ne_zero (Nat.ne_zero_of_lt hfuel)
  obtain ⟨token, hlex⟩ := hlex
  rw [List.cons_append] at hlex hfuel ⊢
  rw [lexFrom_leaf hc hlex]
  refine h fuel outer (token :: done) houter ?_
  rw [List.length_cons, List.length_append] at hfuel
  omega

end Reads

/-- Whether a leaf is read as one token before anything that may stand behind it. -/
structure Legible (t : Token) : Prop where
  front : ∃ c text, t.text.toList = c :: text ∧ isFront c = true
  lexed : ∀ rest, t.isJoint = true ∨ Parted rest →
    ∃ token, lexLeaf (t.text.toList ++ rest) = some (token, rest)

theorem Legible.reads {t : Token} (h : Legible t) {groups : List Delimiter} {rest : List Char}
    (hbehind : t.isJoint = true ∨ Parted rest) (hrest : Reads groups rest) :
    Reads groups (t.text.toList ++ rest) := by
  obtain ⟨c, text, htext, hc⟩ := h.front
  have hlex := h.lexed rest hbehind
  rw [htext] at hlex ⊢
  exact hrest.leaf hc hlex

section Trees

variable {groups : List Delimiter} {rest : List Char}
open Token (leaves leavesAll)

mutual

/-- A tree with legible leaves is read before a text that is. -/
theorem reads_text : ∀ (t : Token) {groups : List Delimiter} {rest : List Char},
    (∀ l ∈ t.leaves, Legible l) → t.isJoint = true ∨ Parted rest → Reads groups rest →
      Reads groups (t.text.toList ++ rest)
  | .word w, _, _, h, hbehind, hrest => (h (.word w) List.mem_cons_self).reads hbehind hrest
  | .mark c s, _, _, h, hbehind, hrest => (h (.mark c s) List.mem_cons_self).reads hbehind hrest
  | .literal l, _, _, h, hbehind, hrest =>
      (h (.literal l) List.mem_cons_self).reads hbehind hrest
  | .group d inside, groups, rest, h, _, hrest => by
      cases d with
      | parenthesis =>
          have hclose : Reads (.parenthesis :: groups) (')' :: rest) := hrest.closing rfl
          have hinside := reads_textAll inside h (.parenthesis rest) hclose
          simpa [Token.text] using hinside.opening rfl
      | bracket =>
          have hclose : Reads (.bracket :: groups) (']' :: rest) := hrest.closing rfl
          have hinside := reads_textAll inside h (.bracket rest) hclose
          simpa [Token.text] using hinside.opening rfl
      | brace =>
          have hclose : Reads (.brace :: groups) ('\x7d' :: rest) := hrest.closing rfl
          cases inside with
          | nil => simpa [Token.text, Token.textAll] using hclose.space.opening rfl
          | cons u inside =>
              have hinside := reads_textAll (u :: inside) h (.space _) hclose.space
              simpa [Token.text] using hinside.space.opening rfl

/-- Trees with legible leaves are read before a text that is. -/
theorem reads_textAll : ∀ (tokens : List Token) {groups : List Delimiter} {rest : List Char},
    (∀ l ∈ leavesAll tokens, Legible l) → Parted rest → Reads groups rest →
      Reads groups ((Token.textAll tokens).toList ++ rest)
  | [], _, _, _, _, hrest => hrest
  | [t], _, _, h, hbehind, hrest => by
      rw [leavesAll, leavesAll, List.append_nil] at h
      exact reads_text t h (Or.inr hbehind) hrest
  | t :: u :: tokens, _, _, h, hbehind, hrest => by
      have hlater := reads_textAll (u :: tokens)
        (fun l hl => h l (List.mem_append_right _ hl)) hbehind hrest
      have ht : ∀ l ∈ t.leaves, Legible l := fun l hl => h l (List.mem_append_left _ hl)
      rw [Token.textAll]
      cases hjoint : t.isJoint with
      | true => simpa using reads_text t ht (Or.inl hjoint) hlater
      | false => simpa using reads_text t ht (Or.inr (.space _)) hlater.space

end

end Trees

/-- A text that is read has tokens, if it does not begin with a byte order mark. -/
theorem exists_tokenize {text : String} {c : Char} {cs : List Char} (htext : text.toList = c :: cs)
    (hc : c.toNat ≠ 0xFEFF) (h : Reads [] text.toList) : ∃ tokens, tokenize text = some tokens := by
  apply Option.isSome_iff_exists.mp
  rw [htext] at h
  simp only [tokenize, htext, if_neg hc]
  exact h _ [] [] rfl (Nat.lt_succ_self _)

section Templates

theorem exists_of_inRanges {ranges : List (Nat × Nat)} {n : Nat}
    (h : inRanges ranges n = true) : ∃ r ∈ ranges, r.1 ≤ n ∧ n ≤ r.2 := by
  induction ranges with
  | nil => cases h
  | cons r ranges ih =>
      rw [inRanges] at h
      split at h
      · cases h
      · next hlow =>
          rcases Bool.or_eq_true_iff.mp h with hhigh | h
          · exact ⟨r, List.mem_cons_self, Nat.not_lt.mp hlow, of_decide_eq_true hhigh⟩
          · obtain ⟨r', hr, hn⟩ := ih h
            exact ⟨r', List.mem_cons_of_mem r hr, hn⟩

/-- No identifier has a blank. -/
theorem isTokenBlank_of_continue {c : Char} (h : isIdentifierContinue c = true) :
    isTokenBlank c = false := by
  have hnone : ∀ r ∈ (0x200E, 0x200F) :: blankRanges, ∀ n ∈ List.range' r.1 (r.2 + 1 - r.1),
      isIdentifierContinue (Char.ofNat n) = false := by decide +kernel
  have hout : ∀ r ∈ (0x200E, 0x200F) :: blankRanges, ¬ (r.1 ≤ c.toNat ∧ c.toNat ≤ r.2) := by
    rintro r hr ⟨hlow, hhigh⟩
    have hcontinue := hnone r hr c.toNat (List.mem_range'_1.mpr ⟨hlow, by omega⟩)
    rw [Char.ofNat_toNat, h] at hcontinue
    cases hcontinue
  rw [isTokenBlank, Bool.or_eq_false_iff, Bool.or_eq_false_iff, decide_eq_false_iff_not,
    decide_eq_false_iff_not]
  have hmarks := hout _ List.mem_cons_self
  simp only at hmarks
  refine ⟨⟨Bool.eq_false_iff.mpr fun hblank => ?_, by omega⟩, by omega⟩
  obtain ⟨r, hr, hn⟩ := exists_of_inRanges hblank
  exact hout r (List.mem_cons_of_mem _ hr) hn

theorem isFront_start {c : Char} (h : isIdentifierStart c = true) : isFront c = true := by
  have hslash : c ≠ '/' := by
    rintro rfl
    exact absurd h (by decide)
  have hopening : opening c = none := by
    unfold opening
    split
    · exact absurd h (by decide)
    · exact absurd h (by decide)
    · exact absurd h (by decide)
    · rfl
  have hclosing : closing c = none := by
    unfold closing
    split
    · exact absurd h (by decide)
    · exact absurd h (by decide)
    · exact absurd h (by decide)
    · rfl
  have hblank := isTokenBlank_of_continue (isIdentifierContinue_of_start h)
  simp [isFront, hblank, hslash, hopening, hclosing]

theorem isFront_mark {c : Char} (h : isMark c = true) (hslash : c ≠ '/') : isFront c = true := by
  have hc := of_isMark (p := fun c => c == '/' || isFront c) (by decide) h
  exact (Bool.or_eq_true_iff.mp hc).resolve_left (by simpa using hslash)

theorem isFront_digit {c : Char} (h : c.isDigit = true) : isFront c = true :=
  of_isDigit (p := isFront) (by decide) h

theorem legible_word {w : String} (h : isIdentifierWord w.toList = true) : Legible (.word w) where
  front := by
    cases htext : w.toList with
    | nil =>
        rw [htext] at h
        cases h
    | cons c text =>
        rw [htext, isIdentifierWord, Bool.and_eq_true] at h
        exact ⟨c, text, htext, isFront_start h.1⟩
  lexed _ hbehind := ⟨_, lexLeaf_word h (hbehind.resolve_left Bool.false_ne_true).ends⟩

theorem legible_mark {c : Char} (s : Spacing) (h : isMark c = true) (hslash : c ≠ '/') :
    Legible (.mark c s) := by
  have htext : (Token.mark c s).text.toList = [c] := by
    rw [Token.text, Char.toString, String.toList_singleton]
  constructor
  · exact ⟨c, [], htext, isFront_mark h hslash⟩
  · intro rest _
    rw [htext]
    exact ⟨_, lexLeaf_mark h hslash rest⟩

theorem legible_stringLiteral (text : String) : Legible (.literal (stringLiteral text)) where
  front := ⟨'"', _, String.toList_ofList, by decide⟩
  lexed _ hbehind :=
    exists_lexLeaf_stringLiteral text (hbehind.resolve_left Bool.false_ne_true).ends

theorem legible_raw {text : String} (hquote : '"' ∉ text.toList) (hreturn : '\r' ∉ text.toList) :
    Legible (.literal ("r\" " ++ text ++ "\"")) := by
  have htext : (Token.literal ("r\" " ++ text ++ "\"")).text.toList =
      'r' :: '"' :: (' ' :: text.toList ++ ['"']) := by
    simp [Token.text]
  have hraw : IsRawLiteral ('r' :: '"' :: (' ' :: text.toList ++ ['"'])) (' ' :: text.toList) := by
    refine isRawLiteral_unfenced ?_ ?_
    · rw [List.mem_cons, not_or]
      exact ⟨by decide, hquote⟩
    · rw [List.mem_cons, not_or]
      exact ⟨by decide, hreturn⟩
  constructor
  · exact ⟨'r', _, htext, by decide⟩
  · intro rest hbehind
    rw [htext]
    exact hraw.exists_lexLeaf (hbehind.resolve_left Bool.false_ne_true).ends

theorem legible_ordinal (n : Nat) : Legible (.literal (toString n ++ "usize")) where
  front := by
    obtain ⟨c, ds, hds⟩ := List.exists_cons_of_ne_nil (isNumeral_toString n).ne_nil
    have hc : c.isDigit = true := (isNumeral_toString n).isDigit c (hds ▸ List.mem_cons_self)
    refine ⟨c, ds ++ "usize".toList, ?_, isFront_digit hc⟩
    rw [Token.text, String.toList_append, hds, List.cons_append]
  lexed _ hbehind := exists_lexLeaf_ordinal n (hbehind.resolve_left Bool.false_ne_true).ends

/-- The leaves of templates are legible. -/
theorem templated_legible : Templated Legible where
  word _ h := legible_word h
  mark _ s h hslash := legible_mark s h hslash
  literal text _ := legible_stringLiteral text
  raw _ hquote hreturn := legible_raw hquote hreturn
  ordinal n := legible_ordinal n

end Templates

end Rowsmith.Source
