import Rowsmith.Proofs.Source.RawLiteral
import Rowsmith.Proofs.Text.Escape
import Rowsmith.Proofs.Text.IntegerText
import Rowsmith.Source.Lexer

/-!
# Reading leaves

A printed leaf is followed by a space or a closing bracket. Identifiers, marks, and the literals of
texts and ordinals are each read up to there, as one token.
-/

namespace Rowsmith.Source
open Rowsmith.Text

theorem eq_ofNat {c : Char} {n : Nat} (h : c.toNat = n) : c = Char.ofNat n := by
  rw [← h, Char.ofNat_toNat]

/-- What may stand behind a printed leaf that is not joint: nothing, a space or the end of a
group. -/
inductive Parted : List Char → Prop
  | nil : Parted []
  | space (rest : List Char) : Parted (' ' :: rest)
  | parenthesis (rest : List Char) : Parted (')' :: rest)
  | bracket (rest : List Char) : Parted (']' :: rest)

/-- Whether what stands behind a leaf ends it: no character of an identifier, no quote, no hash and
no dot goes on at once. -/
def Ends (rest : List Char) : Prop :=
  ∀ c ∈ rest.head?, isIdentifierContinue c = false ∧ c ∉ ['"', '#', '.'] ∧ c.toNat ≠ 0x27

theorem ends_nil : Ends [] := by simp [Ends]

theorem ends_cons {c : Char} (hword : isIdentifierContinue c = false)
    (hother : c ∉ ['"', '#', '.']) (hquote : c.toNat ≠ 0x27) (rest : List Char) :
    Ends (c :: rest) := by
  intro d hd
  obtain rfl := Option.some.inj hd
  exact ⟨hword, hother, hquote⟩

theorem Parted.ends {rest : List Char} (h : Parted rest) : Ends rest := by
  cases h with
  | nil => exact ends_nil
  | space rest => exact ends_cons rfl (by decide) (by decide) rest
  | parenthesis rest => exact ends_cons rfl (by decide) (by decide) rest
  | bracket rest => exact ends_cons rfl (by decide) (by decide) rest

namespace Ends

variable {rest : List Char} (h : Ends rest)

include h

theorem takeWhile : rest.takeWhile isIdentifierContinue = [] := by
  cases rest with
  | nil => rfl
  | cons c rest => exact List.takeWhile_cons_of_neg (by simp [(h c rfl).1])

theorem dropWhile : rest.dropWhile isIdentifierContinue = rest := by
  cases rest with
  | nil => rfl
  | cons c rest => exact List.dropWhile_cons_of_neg (by simp [(h c rfl).1])

theorem skipSuffix : skipSuffix rest = rest := by
  cases rest with
  | nil => rfl
  | cons c rest =>
      have hstart : ¬ isIdentifierStart c = true := by
        intro hstart
        exact absurd ((isIdentifierContinue_of_start hstart).symm.trans (h c rfl).1) (by decide)
      simp [Source.skipSuffix, splitIdentifier, hstart]

theorem atWordBreak : atWordBreak rest = true := by
  cases rest with
  | nil => rfl
  | cons c rest => simp [Source.atWordBreak, (h c rfl).1]

end Ends

section Words

variable {name rest : List Char} (hname : name.all isIdentifierContinue = true)
  (hrest : Ends rest)

include hname hrest

theorem takeWhile_word : (name ++ rest).takeWhile isIdentifierContinue = name := by
  rw [List.takeWhile_append_of_pos (List.all_eq_true.mp hname), hrest.takeWhile, List.append_nil]

theorem dropWhile_word : (name ++ rest).dropWhile isIdentifierContinue = rest := by
  rw [List.dropWhile_append_of_pos (List.all_eq_true.mp hname), hrest.dropWhile]

/-- What goes on as a word does is no quote and no hash. -/
theorem ne_of_word {c : Char} (hc : (name ++ rest).head? = some c) :
    c ≠ '"' ∧ c ≠ '#' ∧ c.toNat ≠ 0x27 := by
  cases name with
  | nil =>
      obtain ⟨-, hother, hquote⟩ := hrest c hc
      simp only [List.mem_cons, not_or] at hother
      exact ⟨hother.1, hother.2.1, hquote⟩
  | cons d name =>
      obtain rfl := Option.some.inj hc
      rw [List.all_cons, Bool.and_eq_true] at hname
      refine ⟨?_, ?_, ?_⟩
      · rintro rfl
        exact absurd hname.1 (by decide)
      · rintro rfl
        exact absurd hname.1 (by decide)
      · intro hd
        obtain rfl := eq_ofNat hd
        exact absurd hname.1 (by decide)

theorem skipRaw_word (kind : QuotedKind) : skipRaw kind (name ++ rest) = none := by
  cases hcs : name ++ rest with
  | nil => rfl
  | cons c cs =>
      obtain ⟨hquote, hhash, -⟩ := ne_of_word hname hrest (congrArg List.head? hcs)
      have hfence : (c :: cs).takeWhile (· = '#') = [] :=
        List.takeWhile_cons_of_neg (by simpa using hhash)
      unfold skipRaw
      simp only [hfence, List.length_nil, List.drop_zero]
      split
      · next heq => exact absurd (List.cons.inj heq).1 hquote
      · rfl

theorem skipString_word (kind : QuotedKind) : skipString kind (name ++ rest) = none := by
  cases name with
  | nil =>
      rw [List.nil_append]
      unfold skipString
      split
      · exact absurd rfl (ne_of_word hname hrest rfl).1
      · exact absurd (hrest _ rfl).1 (by decide)
      · rfl
  | cons c name =>
      have hquote := (ne_of_word hname hrest rfl).1
      rw [List.all_cons, Bool.and_eq_true] at hname
      rw [List.cons_append]
      unfold skipString
      split
      · next heq => exact absurd (List.cons.inj heq).1 hquote
      · next heq =>
          rw [← (List.cons.inj heq).2]
          exact skipRaw_word hname.2 hrest kind
      · rfl

/-- No quoted literal begins as a word does. -/
theorem skipQuoted_word : skipQuoted (name ++ rest) = none := by
  cases name with
  | nil =>
      cases rest with
      | nil => rfl
      | cons c rest =>
          have hstring := skipString_word hname hrest .text
          have hsingle := (ne_of_word hname hrest rfl).2.2
          have hletter : ∀ d, isIdentifierContinue d = true → c ≠ d := by
            rintro d hd rfl
            exact absurd (hd.symm.trans (hrest c rfl).1) (by decide)
          rw [List.nil_append] at hstring ⊢
          simp only [skipQuoted, hstring, if_neg (hletter 'b' (by decide)),
            if_neg (hletter 'c' (by decide)), if_neg hsingle]
          split
          · next heq => exact absurd (List.cons.inj heq).1 (hletter 'b' (by decide))
          · rfl
  | cons c name =>
      have hsingle := (ne_of_word hname hrest rfl).2.2
      have hstring := skipString_word hname hrest .text
      rw [List.all_cons, Bool.and_eq_true] at hname
      have hmarked := skipString_word hname.2 hrest
      have hbehind : ∀ d cs, name ++ rest = d :: cs → d.toNat ≠ 0x27 := fun d cs h =>
        (ne_of_word hname.2 hrest (congrArg List.head? h)).2.2
      rw [List.cons_append] at hstring ⊢
      simp only [skipQuoted, hstring, hmarked, if_neg hsingle, ite_self]
      split
      · next heq => rw [if_neg (hbehind _ _ (List.cons.inj heq).2)]; rfl
      · rfl

/-- A text with a character that no identifier has is not found where one stands, if it does
not go on behind it either. -/
theorem isPrefixOf_word {p : List Char}
    (hp : ∀ c ∈ p, isIdentifierContinue c = true ∨ c = '"' ∨ c = '#' ∨ c.toNat = 0x27)
    (hother : p.all isIdentifierContinue = false) : p.isPrefixOf (name ++ rest) = false := by
  induction p generalizing name with
  | nil => cases hother
  | cons d p ih =>
      have hd := hp d List.mem_cons_self
      cases name with
      | nil =>
          cases rest with
          | nil => rfl
          | cons c rest =>
              have hdc : d ≠ c := by
                rintro rfl
                obtain ⟨hquote, hhash, hsingle⟩ := ne_of_word hname hrest rfl
                rcases hd with hd | hd | hd | hd
                · exact absurd (hd.symm.trans (hrest d rfl).1) (by decide)
                · exact hquote hd
                · exact hhash hd
                · exact hsingle hd
              rw [List.nil_append, List.isPrefixOf, beq_eq_false_iff_ne.mpr hdc, Bool.false_and]
      | cons c name =>
          rw [List.all_cons, Bool.and_eq_true] at hname
          rw [List.cons_append, List.isPrefixOf]
          by_cases hdc : d = c
          · rw [hdc, List.all_cons, hname.1, Bool.true_and] at hother
            rw [ih hname.2 (fun e he => hp e (List.mem_cons_of_mem d he)) hother, Bool.and_false]
          · rw [beq_eq_false_iff_ne.mpr hdc, Bool.false_and]

/-- No opening of a literal stands where a word does. -/
theorem opensLiteral_word : opensLiteral (name ++ rest) = false := by
  have hall : ["r\"", "r#\"", "r##", "b\"", "b\x27", "br\"", "br#", "c\"", "cr\"", "cr#"].all
      (fun p => (p.toList.all fun c => isIdentifierContinue c || c == '"' || c == '#' ||
        c.toNat == 0x27) && !p.toList.all isIdentifierContinue) = true := by
    decide
  rw [opensLiteral, List.any_eq_false]
  intro p hp
  have hopening := List.all_eq_true.mp hall p hp
  simp only [Bool.and_eq_true, Bool.not_eq_true', List.all_eq_true, Bool.or_eq_true, beq_iff_eq,
    or_assoc] at hopening
  rw [isPrefixOf_word hname hrest hopening.1 hopening.2]
  decide

end Words

section Identifiers

/-- What holds of each of the marks holds of a mark. -/
theorem of_isMark {p : Char → Bool}
    (hp : ['~', '!', '@', '#', '$', '%', '^', '&', '*', '-', '=', '+', '|', ';', ':', ',', '<', '.',
      '>', '/', '?'].all p = true) {c : Char} (h : isMark c = true) : p c = true := by
  rw [isMark, List.contains_eq_mem, decide_eq_true_eq] at h
  exact List.all_eq_true.mp hp c h

theorem isDigit_of_isIdentifierStart {c : Char} (h : isIdentifierStart c = true) :
    c.isDigit = false := by
  rw [Bool.eq_false_iff]
  intro hdigit
  have hstart := of_isDigit (p := fun c => !isIdentifierStart c) (by decide) hdigit
  rw [h] at hstart
  cases hstart

/-- A hexadecimal digit that is no decimal one stands for ten or more. -/
theorem ten_le_of_hexValue {c : Char} {d : Nat} (hc : c.isDigit = false)
    (h : hexValue c = some d) : 10 ≤ d := by
  unfold hexValue at h
  split at h
  · next hdigit =>
      have hd : c.isDigit = true := hdigit
      rw [hd] at hc
      cases hc
  · split at h
    · next hlower =>
        have hle : 97 ≤ c.toNat := of_decide_eq_true (Bool.and_eq_true_iff.mp hlower).1
        obtain rfl := Option.some.inj h
        omega
    · split at h
      · next hupper =>
          have hle : 65 ≤ c.toNat := of_decide_eq_true (Bool.and_eq_true_iff.mp hupper).1
          obtain rfl := Option.some.inj h
          omega
      · cases h

/-- No number begins as an identifier does. -/
theorem skipNumber_start {c : Char} (h : isIdentifierStart c = true) (cs : List Char) :
    skipNumber (c :: cs) = none := by
  have hdigit := isDigit_of_isIdentifierStart h
  have hfloat : skipFloatDigits (c :: cs) = none := by
    simp [skipFloatDigits, hdigit]
  have hbase : skipBaseDigits 10 false (c :: cs) = none := by
    rw [skipBaseDigits]
    split
    · rfl
    · split
      · next d hd =>
          rw [if_neg (Nat.not_lt.mpr (ten_le_of_hexValue hdigit hd))]
          simp
      · rfl
  have hinteger : skipIntegerDigits (c :: cs) = none := by
    have hzero : c ≠ '0' := by
      rintro rfl
      cases hdigit
    unfold skipIntegerDigits
    split
    · next heq => exact absurd (List.cons.inj heq).1 hzero
    · next heq => exact absurd (List.cons.inj heq).1 hzero
    · next heq => exact absurd (List.cons.inj heq).1 hzero
    · exact hbase
  simp [skipNumber, hfloat, hinteger]

/-- No identifier begins with a mark. -/
theorem isMark_start {c : Char} (h : isIdentifierStart c = true) : isMark c = false := by
  rw [Bool.eq_false_iff]
  intro hmark
  have hstart := of_isMark (p := fun c => !isIdentifierStart c) (by decide) hmark
  rw [h] at hstart
  cases hstart

theorem lexMark_start {c : Char} (h : isIdentifierStart c = true) (cs : List Char) :
    lexMark (c :: cs) = none := by
  have hquote : c.toNat ≠ 0x27 := by
    intro hc
    obtain rfl := eq_ofNat hc
    exact absurd h (by decide)
  have hat : atMark (c :: cs) = false := by
    unfold atMark
    split
    · rfl
    · rfl
    · next d _ _ _ heq =>
        rw [← (List.cons.inj heq).1, isMark_start h, decide_eq_false hquote]
        rfl
    · rfl
  rw [lexMark, hat]
  rfl

/-- An identifier that is no raw one is split off at its end. -/
theorem splitAnyIdentifier_word {name rest : List Char} (h : isIdentifierWord name = true)
    (hrest : Ends rest) : splitAnyIdentifier (name ++ rest) = some (name, rest) := by
  cases name with
  | nil => cases h
  | cons c name =>
      rw [isIdentifierWord, Bool.and_eq_true] at h
      rw [List.cons_append]
      unfold splitAnyIdentifier
      split
      · next heq =>
          have hhash := (ne_of_word h.2 hrest (congrArg List.head? (List.cons.inj heq).2)).2.1
          exact absurd rfl hhash
      · rw [splitIdentifier, if_pos h.1, takeWhile_word h.2 hrest, dropWhile_word h.2 hrest]

theorem all_continue_of_word {name : List Char} (h : isIdentifierWord name = true) :
    name.all isIdentifierContinue = true := by
  cases name with
  | nil => rfl
  | cons c name =>
      rw [isIdentifierWord, Bool.and_eq_true] at h
      rw [List.all_cons, isIdentifierContinue_of_start h.1, h.2]
      rfl

/-- An identifier is read as one word. -/
theorem lexLeaf_word {name rest : List Char} (h : isIdentifierWord name = true)
    (hrest : Ends rest) :
    lexLeaf (name ++ rest) = some (.word (String.ofList name), rest) := by
  have hplain := splitAnyIdentifier_word h hrest
  have hquoted := skipQuoted_word (all_continue_of_word h) hrest
  have hopens := opensLiteral_word (all_continue_of_word h) hrest
  cases name with
  | nil => cases h
  | cons c name =>
      rw [isIdentifierWord, Bool.and_eq_true] at h
      rw [List.cons_append] at hquoted hopens hplain ⊢
      simp [lexLeaf, hquoted, skipNumber_start h.1, lexMark_start h.1, hopens, hplain]

/-- The quote of a lifetime is read alone, joint with the name behind it. -/
theorem lexLeaf_quote {c : Char} (hc : c.toNat = 0x27) {name rest : List Char}
    (h : isIdentifierWord name = true) (hrest : Ends rest) :
    lexLeaf (c :: (name ++ rest)) = some (.mark c .joint, name ++ rest) := by
  obtain rfl := eq_ofNat hc
  have hsplit := splitAnyIdentifier_word h hrest
  have hnumber : ∀ cs, skipNumber (Char.ofNat 0x27 :: cs) = none := fun _ => rfl
  have hends : endsLifetime (['r', '#'].isPrefixOf (name ++ rest)) rest = true := by
    cases rest with
    | nil => rfl
    | cons d rest =>
        obtain ⟨-, hother, hquote⟩ := hrest d rfl
        simp only [List.mem_cons, not_or] at hother
        simp [endsLifetime, hquote, hother.2.1]
  cases name with
  | nil => cases h
  | cons d name =>
      rw [isIdentifierWord, Bool.and_eq_true] at h
      -- A character would end with a quote behind the first letter.
      have hclose : skipClosingQuote (name ++ rest) = none := by
        cases hcs : name ++ rest with
        | nil => rfl
        | cons e cs =>
            rw [skipClosingQuote, if_neg (ne_of_word h.2 hrest (congrArg List.head? hcs)).2.2]
      have hbackslash : d ≠ '\\' := by
        rintro rfl
        exact absurd h.1 (by decide)
      have hquoted : skipQuoted (Char.ofNat 0x27 :: (d :: (name ++ rest))) = none := by
        show skipSingle .text (d :: (name ++ rest)) = none
        unfold skipSingle
        split
        · next heq => exact absurd (List.cons.inj heq).1 hbackslash
        · next heq => rw [← (List.cons.inj heq).2, QuotedKind.admits, if_pos rfl, hclose]
        · rfl
      rw [List.cons_append] at hsplit hends ⊢
      have hmark : lexMark (Char.ofNat 0x27 :: (d :: (name ++ rest))) =
          some (.mark (Char.ofNat 0x27) .joint, d :: (name ++ rest)) := by
        simp [lexMark, atMark, hsplit, hends]
      rw [lexLeaf, hquoted, hnumber, hmark]
      rfl

/-- A mark that opens no comment is read alone, whatever stands behind it. -/
theorem lexLeaf_mark {c : Char} (hc : isMark c = true) (hslash : c ≠ '/') (rest : List Char) :
    lexLeaf (c :: rest) =
      some (.mark c (if atMark rest then .joint else .alone), rest) := by
  rw [isMark, List.contains_eq_mem, decide_eq_true_eq] at hc
  simp only [List.mem_cons, List.not_mem_nil, or_false, hslash, false_or] at hc
  rcases hc with rfl | rfl | rfl | rfl | rfl | rfl | rfl | rfl | rfl | rfl | rfl | rfl | rfl |
    rfl | rfl | rfl | rfl | rfl | rfl | rfl <;> rfl

end Identifiers

section Literals

variable {rest : List Char}

/-- What a quoted literal or a number ends before stands behind its token. -/
theorem lexLeaf_of_skip {cs : List Char} (h : skipQuoted cs = some rest ∨
      skipQuoted cs = none ∧ skipNumber cs = some rest) :
    ∃ token, lexLeaf cs = some (token, rest) := by
  rcases h with h | ⟨hquoted, h⟩
  · exact ⟨_, by rw [lexLeaf, h]; rfl⟩
  · exact ⟨_, by rw [lexLeaf, hquoted, h]; rfl⟩

/-- What ends a leaf goes on with no digit of any base. -/
theorem hexValue_of_not_continue {c : Char} (h : isIdentifierContinue c = false) :
    hexValue c = none := by
  have hall : ∀ n ∈ List.range 128, isIdentifierContinue (Char.ofNat n) = false →
      hexValue (Char.ofNat n) = none := by decide +kernel
  by_cases hc : c.toNat < 128
  · have hout := hall c.toNat (List.mem_range.mpr hc)
    rw [Char.ofNat_toNat] at hout
    exact hout h
  · have hle : ∀ d : Char, d.toNat < 128 → ¬ c ≤ d := fun d hd hcd => hc (by
      have := Char.le_def.mp hcd
      exact Nat.lt_of_le_of_lt this hd)
    simp [hexValue, hle '9' (by decide), hle 'f' (by decide), hle 'F' (by decide)]

section Digits

variable {ds after : List Char} (hds : ∀ c ∈ ds, c.isDigit = true)
  (hafter : ∀ c ∈ after.head?, c ∉ ['_', '.', 'x', 'o'] ∧ hexValue c = none)

include hds hafter

theorem skipBaseDigits_digits {started : Bool} (h : started = true ∨ ds ≠ []) :
    skipBaseDigits 10 started (ds ++ after) = some after := by
  induction ds generalizing started with
  | nil =>
      obtain rfl : started = true := h.resolve_right fun hne => hne rfl
      cases after with
      | nil => rfl
      | cons c after =>
          obtain ⟨hother, hvalue⟩ := hafter c rfl
          simp only [List.mem_cons, not_or] at hother
          rw [List.nil_append, skipBaseDigits, if_neg hother.1, hvalue]
          rfl
  | cons c ds ih =>
      obtain ⟨hleast, hmost⟩ := Char.isDigit_iff_toNat.mp (hds c List.mem_cons_self)
      have hline : c ≠ '_' := by
        rintro rfl
        exact absurd hmost (by decide)
      have hvalue : hexValue c = some (c.toNat - 48) := if_pos (hds c List.mem_cons_self)
      have hbase : c.toNat - 48 < 10 := by
        have hnine : c.toNat ≤ 57 := hmost
        omega
      rw [List.cons_append, skipBaseDigits, if_neg hline, hvalue]
      simp only [if_pos hbase]
      exact ih (fun d hd => hds d (List.mem_cons_of_mem c hd)) (Or.inl rfl)

/-- Digits are read as a number, with the suffix behind them. -/
theorem skipNumber_digits (hne : ds ≠ []) (hbreak : atWordBreak (skipSuffix after) = true) :
    skipNumber (ds ++ after) = some (skipSuffix after) := by
  have hfloat : skipFloatDigits (ds ++ after) = none := by
    have hdrop : (ds ++ after).dropWhile isDigitOrLine = after := by
      rw [List.dropWhile_append_of_pos fun c hc => by rw [isDigitOrLine, hds c hc]; rfl]
      cases after with
      | nil => rfl
      | cons c after =>
          obtain ⟨hother, hvalue⟩ := hafter c rfl
          simp only [List.mem_cons, not_or] at hother
          have hdigit : c.isDigit = false := by
            rw [Bool.eq_false_iff]
            intro hdigit
            have hsome : hexValue c = some (c.toNat - 48) := if_pos hdigit
            rw [hsome] at hvalue
            cases hvalue
          exact List.dropWhile_cons_of_neg (by simp [isDigitOrLine, hdigit, hother.1])
    obtain ⟨c, ds, rfl⟩ := List.exists_cons_of_ne_nil hne
    rw [List.cons_append] at hdrop ⊢
    rw [skipFloatDigits, if_pos (hds c List.mem_cons_self), hdrop]
    split
    · exact absurd (hafter '.' rfl).1 (by decide)
    · exact absurd (hafter 'e' rfl).2 (by decide)
    · exact absurd (hafter 'E' rfl).2 (by decide)
    · rfl
  have hinteger : skipIntegerDigits (ds ++ after) = some after := by
    -- What follows is no mark of a base.
    have hbase : ∀ (mark : Char) (later : List Char), mark.isDigit = false →
        (mark = 'x' ∨ mark = 'o' ∨ mark = 'b') → ds ++ after ≠ '0' :: mark :: later := by
      intro mark later hdigit hmark heq
      obtain ⟨c, ds, rfl⟩ := List.exists_cons_of_ne_nil hne
      obtain ⟨-, heq⟩ := List.cons.inj heq
      cases ds with
      | nil =>
          change after = mark :: later at heq
          obtain ⟨hother, hvalue⟩ := hafter mark (by rw [heq]; rfl)
          rcases hmark with rfl | rfl | rfl
          · exact absurd hother (by decide)
          · exact absurd hother (by decide)
          · exact absurd hvalue (by decide)
      | cons d ds =>
          obtain rfl := (List.cons.inj heq).1
          rw [hds d (List.mem_cons_of_mem c List.mem_cons_self)] at hdigit
          cases hdigit
    unfold skipIntegerDigits
    split
    · next heq => exact absurd heq (hbase 'x' _ rfl (by decide))
    · next heq => exact absurd heq (hbase 'o' _ rfl (by decide))
    · next heq => exact absurd heq (hbase 'b' _ rfl (by decide))
    · exact skipBaseDigits_digits hds hafter (Or.inr hne)
  simp only [skipNumber, hfloat, hinteger, Option.bind_eq_bind, Option.bind_none,
    Option.bind_some, hbreak]
  rfl

end Digits

/-- Digits alone are read as one number. -/
theorem skipNumber_plain {ds : List Char} (hds : ∀ c ∈ ds, c.isDigit = true) (hne : ds ≠ [])
    (hrest : Ends rest) : skipNumber (ds ++ rest) = some rest := by
  have hafter : ∀ c ∈ rest.head?, c ∉ ['_', '.', 'x', 'o'] ∧ hexValue c = none := by
    intro c hc
    obtain ⟨hword, hother, -⟩ := hrest c hc
    refine ⟨fun hmem => ?_, hexValue_of_not_continue hword⟩
    simp only [List.mem_cons, List.not_mem_nil, or_false] at hmem hother
    rcases hmem with rfl | rfl | rfl | rfl
    · exact absurd hword (by decide)
    · exact hother (by decide)
    · exact absurd hword (by decide)
    · exact absurd hword (by decide)
  have hnumber := skipNumber_digits hds hafter hne (by rw [hrest.skipSuffix, hrest.atWordBreak])
  rwa [hrest.skipSuffix] at hnumber

theorem textBetween_append (cs rest : List Char) : textBetween (cs ++ rest) rest = cs := by
  rw [textBetween, List.length_append, Nat.add_sub_cancel, List.take_left]

/-- Digits alone are read as one literal. -/
theorem lexLeaf_digits {ds : List Char} (hds : ∀ c ∈ ds, c.isDigit = true) (hne : ds ≠ [])
    (hrest : Ends rest) : lexLeaf (ds ++ rest) = some (.literal (String.ofList ds), rest) := by
  have hword : ds.all isIdentifierContinue = true := List.all_eq_true.mpr fun c hc =>
    of_isDigit (p := isIdentifierContinue) (by decide) (hds c hc)
  rw [lexLeaf, skipQuoted_word hword hrest, skipNumber_plain hds hne hrest]
  simp [textBetween_append]

/-- An ordinal is read as one number, with its suffix. -/
theorem skipNumber_ordinal {ds : List Char} (hds : ∀ c ∈ ds, c.isDigit = true) (hne : ds ≠ [])
    (hrest : Ends rest) : skipNumber (ds ++ ("usize".toList ++ rest)) = some rest := by
  have hsuffix : skipSuffix ("usize".toList ++ rest) = rest := by
    have hsplit : splitIdentifier ("usize".toList ++ rest) = some ("usize".toList, rest) := by
      have hname : ['s', 'i', 'z', 'e'].all isIdentifierContinue = true := by decide
      have hstart : isIdentifierStart 'u' = true := by decide
      have hcons : "usize".toList ++ rest = 'u' :: (['s', 'i', 'z', 'e'] ++ rest) := rfl
      rw [hcons, splitIdentifier, if_pos hstart, takeWhile_word hname hrest,
        dropWhile_word hname hrest]
      rfl
    rw [skipSuffix, hsplit]
  have hafter : ∀ c ∈ ("usize".toList ++ rest).head?,
      c ∉ ['_', '.', 'x', 'o'] ∧ hexValue c = none := by
    intro c hc
    obtain rfl : 'u' = c := Option.some.inj hc
    decide
  have hnumber := skipNumber_digits hds hafter hne (by rw [hsuffix, hrest.atWordBreak])
  rwa [hsuffix] at hnumber

theorem exists_lexLeaf_ordinal (n : Nat) (hrest : Ends rest) :
    ∃ token, lexLeaf ((toString n ++ "usize").toList ++ rest) = some (token, rest) := by
  have hds : ∀ c ∈ (toString n).toList, c.isDigit = true := (isNumeral_toString n).isDigit
  have hword : ((toString n ++ "usize").toList).all isIdentifierContinue = true := by
    rw [String.toList_append, List.all_append, Bool.and_eq_true, List.all_eq_true]
    refine ⟨fun c hc => ?_, by decide⟩
    exact of_isDigit (p := isIdentifierContinue) (by decide) (hds c hc)
  refine lexLeaf_of_skip (Or.inr ⟨skipQuoted_word hword hrest, ?_⟩)
  rw [String.toList_append, List.append_assoc]
  exact skipNumber_ordinal hds (isNumeral_toString n).ne_nil hrest

theorem rawBody_append {n : Nat} {cs body after : List Char}
    (h : rawBody n cs = some (body, after)) (behind : List Char) :
    rawBody n (cs ++ behind) = some (body, after ++ behind) := by
  induction cs generalizing body with
  | nil => cases h
  | cons c cs ih =>
      rw [rawBody] at h
      rw [List.cons_append, rawBody]
      split at h
      · next hclose =>
          obtain ⟨rfl, hfence⟩ := hclose
          have hfront := List.isPrefixOf_iff_prefix.mp hfence
          obtain ⟨rfl, rfl⟩ := Prod.mk.inj (Option.some.inj h)
          have hlength : n ≤ cs.length := (length_hashes n).symm.trans_le hfront.length_le
          rw [if_pos ⟨rfl, List.isPrefixOf_iff_prefix.mpr (hfront.trans (List.prefix_append _ _))⟩,
            List.drop_append_of_le_length hlength]
      · next hclose =>
          obtain ⟨⟨tail, left⟩, htail, heq⟩ := Option.map_eq_some_iff.mp h
          obtain ⟨rfl, rfl⟩ := Prod.mk.inj heq
          have hopen : ¬ (c = '"' ∧ (hashes n).isPrefixOf (cs ++ behind) = true) := by
            rintro ⟨rfl, hfence⟩
            refine hclose ⟨rfl, List.isPrefixOf_iff_prefix.mpr ?_⟩
            refine List.prefix_of_prefix_length_le (List.isPrefixOf_iff_prefix.mp hfence)
              (List.prefix_append cs behind) ?_
            have hcs := congrArg List.length (eq_of_rawBody htail)
            simp only [List.length_append, List.length_cons] at hcs
            omega
          rw [if_neg hopen, ih htail, Option.map_some]

/-- A raw literal is read as one. -/
theorem IsRawLiteral.exists_lexLeaf {literal text : List Char} (h : IsRawLiteral literal text)
    (hrest : Ends rest) : ∃ token, lexLeaf (literal ++ rest) = some (token, rest) := by
  obtain ⟨n, cs, rfl, hbody, hn, hr⟩ := h
  refine lexLeaf_of_skip (Or.inl ?_)
  have hraw : skipRaw .text (hashes n ++ '"' :: (cs ++ rest)) = some rest := by
    have hrun := takeWhile_hashes n (by decide : '"' ≠ '#') (cs ++ rest)
    simp only [skipRaw, hrun, length_hashes, drop_hashes, rawBody_append hbody]
    simp [hn, hr, QuotedKind.admits, hrest.skipSuffix]
  have hliteral : 'r' :: (hashes n ++ '"' :: cs) ++ rest =
      'r' :: (hashes n ++ '"' :: (cs ++ rest)) := by simp
  rw [hliteral, skipQuoted, skipString, hraw]
  rfl

theorem rawBody_zero {text : List Char} (h : '"' ∉ text) :
    rawBody 0 (text ++ ['"']) = some (text, []) := by
  induction text with
  | nil => rfl
  | cons c text ih =>
      rw [List.mem_cons, not_or] at h
      rw [List.cons_append, rawBody, if_neg (fun hc => h.1 hc.1.symm), ih h.2, Option.map_some]

theorem returnsPaired_of_notMem {text : List Char} (h : '\r' ∉ text) :
    returnsPaired text = true := by
  induction text with
  | nil => rfl
  | cons c text ih =>
      rw [List.mem_cons, not_or] at h
      unfold returnsPaired
      split
      · next heq => exact absurd (List.cons.inj heq).1.symm h.1
      · next heq => exact absurd (List.cons.inj heq).1.symm h.1
      · next heq =>
          rw [← (List.cons.inj heq).2]
          exact ih h.2
      · rfl

/-- A text without quotes and carriage returns needs no fence. -/
theorem isRawLiteral_unfenced {text : List Char} (hquote : '"' ∉ text) (hreturn : '\r' ∉ text) :
    IsRawLiteral ('r' :: '"' :: (text ++ ['"'])) text :=
  ⟨0, text ++ ['"'], rfl, rawBody_zero hquote, Nat.zero_le _, returnsPaired_of_notMem hreturn⟩

end Literals

section Escapes

theorem hexValue_digitChar {d : Nat} (h : d < 16) : hexValue (Nat.digitChar d) = some d := by
  have hall : ∀ d < 16, hexValue (Nat.digitChar d) = some d := by decide
  exact hall d h

/-- The digits of a code point are read as it. -/
theorem codePointFrom_toDigits {n : Nat} (h : (Nat.toDigits 16 n).length ≤ 6) (cs : List Char) :
    codePointFrom 0 0 (Nat.toDigits 16 n ++ cs) =
      codePointFrom n (Nat.toDigits 16 n).length cs := by
  induction n using Nat.strongRecOn generalizing cs with
  | ind n ih =>
      rw [Nat.toDigits_eq_if (by decide)] at h ⊢
      split
      · next hn => simp [codePointFrom, hexValue_digitChar hn]
      · next hn =>
          rw [if_neg hn, List.length_append, List.length_singleton] at h
          have hdigit := hexValue_digitChar (Nat.mod_lt n (by decide : 0 < 16))
          rw [List.append_assoc, ih (n / 16) (by omega) (by omega), List.singleton_append,
            codePointFrom, hdigit, List.length_append, List.length_singleton]
          simp only
          rw [if_neg (by omega), Nat.div_add_mod]

/-- The code point of a character is read up to its closing brace. -/
theorem codePointFrom_codePoint (c : Char) (cs : List Char) :
    codePointFrom 0 0 (Nat.toDigits 16 c.toNat ++ '\x7d' :: cs) = some (c.toNat, cs) := by
  have hvalid : c.toNat.isValidChar := c.valid
  have hlength : (Nat.toDigits 16 c.toNat).length ≤ 6 := by
    rw [Nat.length_toDigits_le_iff (by decide) (by decide)]
    rcases hvalid with h | ⟨-, h⟩ <;> omega
  have hdigits : (Nat.toDigits 16 c.toNat).length ≠ 0 := (Nat.length_toDigits_pos).ne'
  rw [codePointFrom_toDigits hlength, codePointFrom]
  have hbrace : hexValue '\x7d' = none := by decide
  simp only [hbrace]
  rw [if_neg hdigits, if_neg (by decide), if_pos ⟨trivial, hvalid⟩]

/-- Each escape is passed in one step. -/
theorem skipQuotedBody_escapeChar (c : Char) (fuel : Nat) (cs : List Char) :
    skipQuotedBody .text (fuel + 1) (escapeChar c ++ cs) = skipQuotedBody .text fuel cs := by
  unfold escapeChar
  split_ifs with h0 ht hr hn hq hb hx
  · rfl
  · rfl
  · rfl
  · rfl
  · rfl
  · rfl
  · have hescape : skipEscape .text ('u' :: '\x7b' :: (Nat.toDigits 16 c.toNat ++ '\x7d' :: cs)) =
        some cs := by
      have hcode : codePoint ('\x7b' :: (Nat.toDigits 16 c.toNat ++ '\x7d' :: cs)) =
          some (c.toNat, cs) := codePointFrom_codePoint c cs
      simp [skipEscape, hcode]
    have hbody : codePointEscape c.toNat ++ cs =
        '\\' :: 'u' :: '\x7b' :: (Nat.toDigits 16 c.toNat ++ '\x7d' :: cs) := by
      simp [codePointEscape]
    rw [hbody]
    show skipEscape .text _ >>= skipQuotedBody .text fuel = _
    rw [hescape]
    rfl
  · simp [skipQuotedBody, hr, hb, QuotedKind.admits]

/-- The literal of a text is read up to its closing quote. -/
theorem skipQuotedBody_literalBody (cs : List Char) {fuel : Nat}
    (h : (literalBody cs).length < fuel) (behind : List Char) :
    skipQuotedBody .text fuel (literalBody cs ++ '"' :: behind) = some (skipSuffix behind) := by
  induction cs generalizing fuel with
  | nil =>
      obtain ⟨fuel, rfl⟩ := Nat.exists_eq_succ_of_ne_zero (Nat.ne_zero_of_lt h)
      rfl
  | cons c cs ih =>
      obtain ⟨fuel, rfl⟩ := Nat.exists_eq_succ_of_ne_zero (Nat.ne_zero_of_lt h)
      rw [literalBody, List.length_append] at h
      rw [literalBody, List.append_assoc]
      split at h
      · next hzero =>
          rw [if_pos hzero]
          exact ih (by simp at h; omega)
      · next hzero =>
          have hlength := List.length_pos_iff.mpr (escapeChar_ne_nil c)
          rw [if_neg hzero, skipQuotedBody_escapeChar]
          exact ih (by omega)

/-- The literal of a text is read as one. -/
theorem exists_lexLeaf_stringLiteral (text : String) {rest : List Char} (hrest : Ends rest) :
    ∃ token, lexLeaf ((stringLiteral text).toList ++ rest) = some (token, rest) := by
  refine lexLeaf_of_skip (Or.inl ?_)
  have hlength : (literalBody text.toList).length <
      (literalBody text.toList ++ '"' :: rest).length + 1 := by
    rw [List.length_append]
    omega
  have hbody := skipQuotedBody_literalBody text.toList hlength rest
  have hliteral : (stringLiteral text).toList ++ rest =
      '"' :: (literalBody text.toList ++ '"' :: rest) := by
    simp [stringLiteral]
  rw [hliteral, skipQuoted, skipString, hbody, hrest.skipSuffix]
  rfl

end Escapes

end Rowsmith.Source
