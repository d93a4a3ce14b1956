import Rowsmith.Proofs.Source.Scanner

/-!
# Words and numbers that stand apart

A word or a number ends where no identifier goes on. So what is read from a text without blanks and
comments never has two of them next to each other: where words stand next to each other, other
tokens are read.
-/

namespace Rowsmith.Source
open Rowsmith.Text

section Leaves

variable {cs after : List Char}

theorem of_splitIdentifier {name : List Char} (h : splitIdentifier cs = some (name, after)) :
    after <:+ cs ∧ atWordBreak after = true ∧ atWordBreak cs = false := by
  refine ⟨⟨name, append_of_splitIdentifier h⟩, ?_⟩
  unfold splitIdentifier at h
  split at h
  · next c rest =>
      split at h
      · next hstart =>
          obtain ⟨-, rfl⟩ := Prod.mk.inj (Option.some.inj h)
          refine ⟨?_, by simp [atWordBreak, isIdentifierContinue_of_start hstart]⟩
          cases hrest : rest.dropWhile isIdentifierContinue with
          | nil => rfl
          | cons d behind =>
              have hd := List.head_dropWhile_not isIdentifierContinue (l := rest) (by simp [hrest])
              simp only [hrest, List.head_cons] at hd
              simp [atWordBreak, hd]
      · cases h
  · cases h

theorem of_splitAnyIdentifier {name : List Char}
    (h : splitAnyIdentifier cs = some (name, after)) :
    after <:+ cs ∧ atWordBreak after = true ∧ atWordBreak cs = false := by
  unfold splitAnyIdentifier at h
  split at h
  · next rest =>
      obtain ⟨⟨found, behind⟩, hfound, h⟩ := Option.bind_eq_some_iff.mp h
      obtain ⟨hsuffix, hbreak, -⟩ := of_splitIdentifier hfound
      dsimp only at h
      split at h
      · cases h
      · obtain ⟨-, rfl⟩ := Prod.mk.inj (Option.some.inj h)
        exact ⟨hsuffix.trans ⟨['r', '#'], rfl⟩, hbreak, rfl⟩
  · exact of_splitIdentifier h

theorem exists_digit_of_isNumber
    (h : Token.isNumber (String.ofList (textBetween cs after)) = true) :
    ∃ c rest, cs = c :: rest ∧ c.isDigit = true := by
  rw [Token.isNumber, String.toList_ofList, textBetween] at h
  cases cs with
  | nil => simp at h
  | cons c cs =>
      refine ⟨c, cs, rfl, ?_⟩
      cases hlength : (c :: cs).length - after.length with
      | zero =>
          rw [hlength] at h
          cases h
      | succ n =>
          rw [hlength] at h
          exact h

/-- No digit opens a quoted literal. -/
theorem isDigit_of_skipQuoted {c : Char} (h : skipQuoted (c :: cs) = some after) :
    c.isDigit = false := by
  by_contra hdigit
  rw [Bool.not_eq_false] at hdigit
  have hne : ∀ d : Char, d.isDigit = false → c ≠ d := by
    rintro d hd rfl
    rw [hdigit] at hd
    cases hd
  have hquote : c.toNat ≠ 0x27 := fun hc => hne (Char.ofNat 0x27) rfl (eq_ofNat hc)
  have hstring : ∀ kind, skipString kind (c :: cs) = none := by
    intro kind
    unfold skipString
    split
    · next heq => exact absurd (List.cons.inj heq).1 (hne _ rfl)
    · next heq => exact absurd (List.cons.inj heq).1 (hne _ rfl)
    · rfl
  simp [skipQuoted, hstring, hne 'b' rfl, hne 'c' rfl, hquote] at h

/-- A word or a number that is read begins as a word goes on, and ends where it does not. -/
theorem of_lexLeaf {token : Token} (h : lexLeaf cs = some (token, after)) :
    after <:+ cs ∧ token.isApart = true ∧
      (token.isWordy = true → atWordBreak after = true ∧ atWordBreak cs = false) := by
  unfold lexLeaf at h
  split at h
  · next behind hskip =>
      obtain ⟨rfl, rfl⟩ := Prod.mk.inj (Option.some.inj h)
      rw [Option.orElse_eq_orElse, Option.orElse_eq_or, Option.or_eq_some_iff] at hskip
      rcases hskip with hskip | ⟨-, hskip⟩
      · refine ⟨suffix_of_skipQuoted hskip, rfl, fun hwordy => ?_⟩
        obtain ⟨c, rest, rfl, hdigit⟩ := exists_digit_of_isNumber hwordy
        rw [isDigit_of_skipQuoted hskip] at hdigit
        cases hdigit
      · obtain ⟨hsuffix, hbreak⟩ := of_skipNumber hskip
        refine ⟨hsuffix, rfl, fun hwordy => ⟨hbreak, ?_⟩⟩
        obtain ⟨c, rest, rfl, hdigit⟩ := exists_digit_of_isNumber hwordy
        have hcontinue := of_isDigit (p := isIdentifierContinue) (by decide) hdigit
        rw [atWordBreak, hcontinue]
        rfl
  · split at h
    · next found hmark =>
        obtain rfl := Option.some.inj h
        obtain ⟨c, s, rfl, rfl⟩ := of_lexMark hmark
        exact ⟨List.suffix_cons _ _, rfl, by simp [Token.isWordy]⟩
    · split at h
      · cases h
      · obtain ⟨⟨name, behind⟩, hname, heq⟩ := Option.map_eq_some_iff.mp h
        obtain ⟨rfl, rfl⟩ := Prod.mk.inj heq
        obtain ⟨hsuffix, hbreaks⟩ := of_splitAnyIdentifier hname
        exact ⟨hsuffix, rfl, fun _ => hbreaks⟩

end Leaves

section Readings

theorem isApartAll_concat {ts : List Token} {t : Token} (hts : isApartAll ts = true)
    (ht : t.isApart = true)
    (hlast : ∀ u ∈ ts.getLast?, u.isWordy = true → t.isWordy = false) :
    isApartAll (ts ++ [t]) = true := by
  induction ts with
  | nil => simp [isApartAll, ht]
  | cons u ts ih =>
      obtain ⟨hu, hnext, hts⟩ := isApartAll_cons.mp hts
      refine isApartAll_cons.mpr ⟨hu, ?_⟩
      cases ts with
      | nil => exact ⟨hlast u rfl, by simp [isApartAll, ht]⟩
      | cons v ts => exact ⟨hnext, ih hts hlast⟩

/-- A character of texts without blanks and comments. -/
def PartsNothing (c : Char) : Prop := c ≠ '/' ∧ isTokenBlank c = false

/-- What was read stands apart, and behind a word or a number none begins. -/
structure LexState.IsApart (s : LexState) : Prop where
  left : ∀ c ∈ s.left, PartsNothing c
  done : isApartAll s.done.reverse = true
  last : ∀ t ∈ s.done.head?, t.isWordy = true → atWordBreak s.left = true
  outer : ∀ o ∈ s.outer, isApartAll o.2.reverse = true

/-- There is nothing to skip where no character parts anything. -/
theorem LexState.IsApart.skip {s : LexState} (hs : s.IsApart) (fuel : Nat) :
    LexState.IsApart { s with left := skipTokenBlanks fuel s.left } := by
  obtain ⟨outer, done, cs⟩ := s
  have hsame : skipTokenBlanks fuel cs = cs := by
    cases cs with
    | nil => cases fuel <;> rfl
    | cons c cs =>
        obtain ⟨hslash, hblank⟩ := hs.left c List.mem_cons_self
        exact skipTokenBlanks_of_ne hslash hblank fuel cs
  show LexState.IsApart ⟨outer, done, skipTokenBlanks fuel cs⟩
  rw [hsame]
  exact hs

/-- A step keeps what is read apart. -/
theorem LexState.IsApart.step {s next : LexState} (hs : s.IsApart) (h : LexStep s next) :
    next.IsApart := by
  obtain ⟨hleft, hdone, hlast, houter⟩ := hs
  cases h with
  | @comment _ _ cs _ _ _ hcomment =>
      cases cs with
      | nil => cases hcomment
      | cons c cs =>
          rw [documentationComment_of_ne (hleft c List.mem_cons_self).1] at hcomment
          cases hcomment
  | opens =>
      refine ⟨fun d hd => hleft d (List.mem_cons_of_mem _ hd), rfl, by simp, fun o ho => ?_⟩
      rcases List.mem_cons.mp ho with rfl | ho
      · exact hdone
      · exact houter o ho
  | @closes _ before done delimiter =>
      refine ⟨fun d hd => hleft d (List.mem_cons_of_mem _ hd), ?_, by simp [Token.isWordy],
        fun o ho => houter o (List.mem_cons_of_mem _ ho)⟩
      show isApartAll (.group delimiter done.reverse :: before).reverse = true
      rw [List.reverse_cons]
      exact isApartAll_concat (houter (delimiter, before) List.mem_cons_self) hdone
        (fun _ _ _ => rfl)
  | @leaf _ done _ token after hleaf =>
      obtain ⟨hsuffix, htoken, hwordy⟩ := of_lexLeaf hleaf
      refine ⟨fun d hd => hleft d (hsuffix.mem hd), ?_, fun t ht htWordy => ?_, houter⟩
      · show isApartAll (token :: done).reverse = true
        rw [List.reverse_cons]
        refine isApartAll_concat hdone htoken fun u hu hlastWordy => ?_
        rw [List.getLast?_reverse] at hu
        have hbreak := hlast u hu hlastWordy
        rw [Bool.eq_false_iff]
        intro htokenWordy
        rw [(hwordy htokenWordy).2] at hbreak
        cases hbreak
      · obtain rfl := Option.some.inj ht
        exact (hwordy htWordy).1

/-- What is read from a text without blanks and comments stands apart: where a word or a number has
been read, none begins. -/
theorem isApartAll_of_lexFrom {fuel : Nat} {cs : List Char} {tokens : List Token}
    (h : lexFrom fuel [] [] cs = some tokens) (hcs : ∀ c ∈ cs, PartsNothing c) :
    isApartAll tokens = true := by
  obtain ⟨_, _, hapart⟩ := lexFrom_induction (P := LexState.IsApart)
    (fun fuel _ hs => hs.skip fuel) (fun _ _ hnext hs => hs.step hnext) h
    ⟨hcs, rfl, by simp, by simp⟩
  rw [← List.reverse_reverse tokens]
  exact hapart.done

theorem isApartAll_of_tokenize {text : String} {tokens : List Token}
    (h : tokenize text = some tokens) (htext : ∀ c ∈ text.toList, PartsNothing c) :
    isApartAll tokens = true := by
  unfold tokenize at h
  dsimp only at h
  split at h
  · next c cs heq =>
      have hcs := fun d hd => htext d (heq ▸ hd)
      split at h
      · exact isApartAll_of_lexFrom h fun d hd => hcs d (List.mem_cons_of_mem c hd)
      · exact isApartAll_of_lexFrom h hcs
  · exact isApartAll_of_lexFrom h (by simp)

theorem isWordy_unspaced (t : Token) : t.unspaced.isWordy = t.isWordy := by cases t <;> rfl

/-- Whether tokens stand apart does not depend on the spacing of marks. -/
theorem isApartAll_unspacedAll : ∀ ts : List Token,
    isApartAll (Token.unspacedAll ts) = isApartAll ts
  | [] => rfl
  | t :: ts => by
      have hhead : ((Token.unspacedAll ts).head?.any (·.isWordy)) = ts.head?.any (·.isWordy) := by
        cases ts with
        | nil => rfl
        | cons u ts => exact isWordy_unspaced u
      have ht : t.unspaced.isApart = t.isApart := by
        cases t with
        | group d body => exact isApartAll_unspacedAll body
        | _ => rfl
      rw [Token.unspacedAll, isApartAll, isApartAll, isApartAll_unspacedAll ts, isWordy_unspaced,
        hhead, ht]

/-- Tokens whose text without blanks has the same tokens stand apart. -/
theorem isApartAll_of_compact {ts tokens : List Token}
    (hcompact : ∀ c ∈ compact ts, PartsNothing c)
    (h : tokenize (String.ofList (compact ts)) = some tokens)
    (heq : Token.unspacedAll tokens = Token.unspacedAll ts) : isApartAll ts = true := by
  have hread := isApartAll_of_tokenize h fun c hc =>
    hcompact c (by rwa [String.toList_ofList] at hc)
  rwa [← isApartAll_unspacedAll, heq, isApartAll_unspacedAll] at hread

/-- The text of bare tokens parts nothing. -/
theorem partsNothing_compact {ts : List Token} (hbare : isBareAll ts = true) :
    ∀ c ∈ compact ts, PartsNothing c := fun c hc =>
  have hc := of_isPlainChar (isPlainChar_compact hbare c hc)
  ⟨hc.1, hc.2.1⟩

end Readings

end Rowsmith.Source
