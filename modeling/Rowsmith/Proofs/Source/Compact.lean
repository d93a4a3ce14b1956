import Rowsmith.Proofs.Source.Legible
import Rowsmith.Proofs.Source.Spacing

/-!
# Tokens whose text has no blanks

Where the blanks between tokens are dropped, words and numbers that stand next to each other run
together, and marks next to each other become joint. All other plain tokens are read back as they
are.
-/

namespace Rowsmith.Source
open Rowsmith.Text

namespace Token

mutual

/-- Whether two token trees are the same. -/
def same : Token → Token → Bool
  | word v, word w => v == w
  | mark c s, mark d r => c == d && s == r
  | literal l, literal m => l == m
  | group d body, group e other => d == e && sameAll body other
  | _, _ => false

/-- Whether two lists of token trees are the same. -/
def sameAll : List Token → List Token → Bool
  | [], [] => true
  | t :: ts, u :: us => same t u && sameAll ts us
  | _, _ => false

end

mutual

theorem same_iff : ∀ t u : Token, t.same u = true ↔ t = u
  | .word _, .word _ => by simp [same]
  | .mark _ _, .mark _ _ => by simp [same]
  | .literal _, .literal _ => by simp [same]
  | .group d body, .group e other => by simp [same, sameAll_iff body other]
  | .word _, .mark _ _ | .word _, .literal _ | .word _, .group _ _ => by simp [same]
  | .mark _ _, .word _ | .mark _ _, .literal _ | .mark _ _, .group _ _ => by simp [same]
  | .literal _, .word _ | .literal _, .mark _ _ | .literal _, .group _ _ => by simp [same]
  | .group _ _, .word _ | .group _ _, .mark _ _ | .group _ _, .literal _ => by simp [same]

theorem sameAll_iff : ∀ ts us : List Token, sameAll ts us = true ↔ ts = us
  | [], [] => by simp [sameAll]
  | t :: ts, u :: us => by simp [sameAll, same_iff t u, sameAll_iff ts us]
  | [], _ :: _ => by simp [sameAll]
  | _ :: _, [] => by simp [sameAll]

end

instance : DecidableEq Token := fun t u => decidable_of_iff _ (same_iff t u)

mutual

/-- A token tree in which no mark is joint. -/
def unspaced : Token → Token
  | mark c _ => mark c .alone
  | group d body => group d (unspacedAll body)
  | t => t

/-- Token trees in which no mark is joint. -/
def unspacedAll : List Token → List Token
  | [] => []
  | t :: ts => unspaced t :: unspacedAll ts

end

end Token

/-- The characters of tokens without blanks. -/
def compact (ts : List Token) : List Char := (Token.textAll ts).toList.filter (!isBlank ·)

mutual

/-- A token tree as it is read back before a text without blanks. -/
def Token.respaced (after : List Char) : Token → Token
  | .mark c _ => .mark c (if c.toNat = 0x27 ∨ atMark after then .joint else .alone)
  | .group d body => .group d (respacedAll body)
  | t => t

/-- Token trees as they are read back from their text without blanks. -/
def respacedAll : List Token → List Token
  | [] => []
  | t :: ts => t.respaced (compact ts) :: respacedAll ts

end

/-- Whether the marks of an operator stand at the front, whatever their spacing. -/
def spells : List Char → List Token → Bool
  | [], _ => true
  | c :: op, .mark d _ :: ts => c == d && spells op ts
  | _ :: _, _ => false

/-- Whether a token goes on with the letters and digits behind it: it is a word or a number. -/
def Token.isWordy : Token → Bool
  | .word _ => true
  | .literal l => Token.isNumber l
  | _ => false

/-- Whether a mark stands at the front that a word or number could go on with. -/
def startsJoiner : List Token → Bool
  | .mark c _ :: _ => c.toNat = 0x27 || c = '#' || c = '.'
  | _ => false

mutual

/-- Whether in a token tree no word or number stands directly behind another one. -/
def Token.isApart : Token → Bool
  | .group _ body => isApartAll body
  | _ => true

/-- Whether in token trees no word or number stands directly behind another one. -/
def isApartAll : List Token → Bool
  | [] => true
  | t :: ts => t.isApart && !(t.isWordy && (ts.head?.any (·.isWordy))) && isApartAll ts

end

mutual

/-- Whether a token tree is bare before the given tokens. Words are identifiers and literals are
digits, with no quote, hash or dot behind them. Marks are no slashes, and a quote begins a
lifetime. -/
def Token.isBare (behind : List Token) : Token → Bool
  | .word w => isIdentifierWord w.toList && !startsJoiner behind
  | .literal l => !l.toList.isEmpty && l.toList.all (·.isDigit) && !startsJoiner behind
  | .mark c s =>
    if c.toNat = 0x27 then s == .joint && Token.startsAnyWord behind else isMark c && c != '/'
  | .group _ body => isBareAll body

/-- Whether token trees are bare. -/
def isBareAll : List Token → Bool
  | [] => true
  | t :: ts => t.isBare ts && isBareAll ts

end

mutual

/-- Whether a token tree is plain before the given tokens. Words are identifiers and literals are
digits, with no quote, hash or dot behind them. Marks are no slashes, a quote begins a lifetime,
and marks that spell an operator of types are that operator. What a type takes over as it stands
has no marks whose spacing may change: braces, what is behind a semicolon, and groups behind a bang
or a hash. -/
def Token.isPlain (behind : List Token) : Token → Bool
  | .word w => isIdentifierWord w.toList && !startsJoiner behind
  | .literal l => !l.toList.isEmpty && l.toList.all (·.isDigit) && !startsJoiner behind
  | .mark c s =>
    (typeOperators.all fun op =>
      !spells op (.mark c s :: behind) || Token.startsOperator op (.mark c s :: behind)) &&
    (if c.toNat = 0x27 then s == .joint && Token.startsAnyWord behind else isMark c && c != '/') &&
    (c != ';' || behind == respacedAll behind) &&
    (!(c == '!' || c == '#') || groupAt behind == groupAt (respacedAll behind))
  | .group d body => (d != .brace || body == respacedAll body) && isPlainAll body

/-- Whether token trees are plain. -/
def isPlainAll : List Token → Bool
  | [] => true
  | t :: ts => t.isPlain ts && isPlainAll ts

end

theorem isPlainAll_cons {t : Token} {ts : List Token} :
    isPlainAll (t :: ts) = true ↔ t.isPlain ts = true ∧ isPlainAll ts = true := by
  rw [isPlainAll, Bool.and_eq_true]

theorem isBareAll_cons {t : Token} {ts : List Token} :
    isBareAll (t :: ts) = true ↔ t.isBare ts = true ∧ isBareAll ts = true := by
  rw [isBareAll, Bool.and_eq_true]

/-- Plain tokens are bare ones. -/
theorem isBareAll_of_isPlainAll : ∀ {ts : List Token}, isPlainAll ts = true → isBareAll ts = true
  | [], _ => rfl
  | .word _ :: ts, h | .literal _ :: ts, h => by
      rw [isPlainAll_cons] at h
      exact isBareAll_cons.mpr ⟨h.1, isBareAll_of_isPlainAll h.2⟩
  | .mark c s :: ts, h => by
      simp only [isPlainAll_cons, Token.isPlain, Bool.and_eq_true] at h
      exact isBareAll_cons.mpr ⟨h.1.1.1.2, isBareAll_of_isPlainAll h.2⟩
  | .group d body :: ts, h => by
      simp only [isPlainAll_cons, Token.isPlain, Bool.and_eq_true] at h
      exact isBareAll_cons.mpr
        ⟨isBareAll_of_isPlainAll h.1.2, isBareAll_of_isPlainAll h.2⟩

theorem isApartAll_cons {t : Token} {ts : List Token} :
    isApartAll (t :: ts) = true ↔ t.isApart = true ∧
      (t.isWordy = true → ts.head?.any (·.isWordy) = false) ∧ isApartAll ts = true := by
  rw [isApartAll]
  cases t.isWordy <;> simp [and_assoc]

/-- The brackets of a group. -/
def Delimiter.brackets : Delimiter → Char × Char
  | .parenthesis => ('(', ')')
  | .bracket => ('[', ']')
  | .brace => ('\x7b', '\x7d')

theorem opening_brackets (d : Delimiter) : opening d.brackets.1 = some d := by cases d <;> rfl

theorem closing_brackets (d : Delimiter) : closing d.brackets.2 = some d := by cases d <;> rfl

section Texts

theorem isBlank_of_continue {c : Char} (h : isIdentifierContinue c = true) :
    isBlank c = false := by
  have hblank := isTokenBlank_of_continue h
  rw [isTokenBlank, Bool.or_eq_false_iff, Bool.or_eq_false_iff] at hblank
  exact hblank.1.1

theorem compact_cons (t : Token) (ts : List Token) :
    compact (t :: ts) = compact [t] ++ compact ts := by
  cases ts with
  | nil => exact (List.append_nil _).symm
  | cons u ts =>
      have hgap : ((if t.isJoint then "" else " ").toList.filter (!isBlank ·)) = [] := by
        cases t.isJoint <;> decide
      simp only [compact, Token.textAll, String.toList_append, List.filter_append, hgap,
        List.append_nil]

theorem compact_eq_of_continue {cs : List Char} (h : cs.all isIdentifierContinue = true) :
    cs.filter (!isBlank ·) = cs :=
  List.filter_eq_self.mpr fun c hc => by
    rw [isBlank_of_continue (List.all_eq_true.mp h c hc)]
    rfl

theorem compact_word {w : String} (h : isIdentifierWord w.toList = true) :
    compact [.word w] = w.toList :=
  compact_eq_of_continue (all_continue_of_word h)

theorem compact_digits {l : String} (h : l.toList.all (·.isDigit) = true) :
    compact [.literal l] = l.toList := by
  refine compact_eq_of_continue (List.all_eq_true.mpr fun c hc => ?_)
  exact of_isDigit (p := isIdentifierContinue) (by decide) (List.all_eq_true.mp h c hc)

theorem compact_mark {c : Char} (h : isBlank c = false) (s : Spacing) :
    compact [.mark c s] = [c] := by
  simp [compact, Token.textAll, Token.text, h]

theorem compact_group (d : Delimiter) (body : List Token) :
    compact [.group d body] = d.brackets.1 :: (compact body ++ [d.brackets.2]) := by
  have hback : ((if body.isEmpty then "\x7d" else " \x7d").toList.filter (!isBlank ·)) =
      ['\x7d'] := by
    cases body.isEmpty <;> decide
  cases d <;>
    simp only [compact, Token.textAll, Token.text, String.toList_append, List.filter_append,
      hback] <;> rfl

end Texts

section Spacing

theorem isBlank_of_isMark {c : Char} (h : isMark c = true) : isBlank c = false := by
  simpa using of_isMark (p := fun c => !isBlank c) (by decide) h

theorem atMark_cons {c : Char} (hslash : c ≠ '/') (cs : List Char) :
    atMark (c :: cs) = (isMark c || decide (c.toNat = 0x27)) := by
  unfold atMark
  split
  · next heq => exact absurd (List.cons.inj heq).1 hslash
  · next heq => exact absurd (List.cons.inj heq).1 hslash
  · next heq => rw [(List.cons.inj heq).1]
  · next heq => cases heq

theorem spells_of_startsOperator {op : List Char} {ts : List Token}
    (h : Token.startsOperator op ts = true) : spells op ts = true := by
  fun_induction Token.startsOperator op ts with
  | case1 => rw [spells]
  | case2 c d _ _ => simpa [spells] using h
  | case3 c op d ts _ ih =>
      rw [Bool.and_eq_true] at h
      rw [spells, h.1, ih h.2]
      rfl
  | case4 => cases h

theorem spells_respacedAll (op : List Char) (ts : List Token) :
    spells op (respacedAll ts) = spells op ts := by
  induction op generalizing ts with
  | nil => simp [spells]
  | cons c op ih =>
      match ts with
      | [] => rfl
      | .word _ :: _ | .literal _ :: _ | .group _ _ :: _ => rfl
      | .mark d s :: ts => rw [respacedAll, Token.respaced, spells, spells, ih]

theorem exists_mark_of_spells {c : Char} {op : List Char} {ts : List Token}
    (h : spells (c :: op) ts = true) :
    ∃ s rest, ts = .mark c s :: rest ∧ spells op rest = true := by
  rcases ts with _ | ⟨_ | ⟨d, s⟩ | _ | _, ts⟩
  · cases h
  · cases h
  · rw [spells, Bool.and_eq_true, beq_iff_eq] at h
    exact ⟨s, ts, by rw [h.1], h.2⟩
  · cases h
  · cases h

/-- The marks of an operator are read back as that operator. -/
theorem startsOperator_respacedAll {op : List Char} (hop : ∀ c ∈ op, isMark c = true ∧ c ≠ '/')
    (ts : List Token) : Token.startsOperator op (respacedAll ts) = spells op ts := by
  rw [Bool.eq_iff_iff]
  refine ⟨fun h => spells_respacedAll op ts ▸ spells_of_startsOperator h, fun h => ?_⟩
  induction op generalizing ts with
  | nil => rw [Token.startsOperator]
  | cons c op ih =>
      obtain ⟨s, ts, rfl, hbehind⟩ := exists_mark_of_spells h
      have hrest := ih (fun e he => hop e (List.mem_cons_of_mem c he)) ts hbehind
      rw [respacedAll, Token.respaced]
      cases op with
      | nil => simp [Token.startsOperator]
      | cons e op =>
          -- The mark behind stands at the front of what follows.
          obtain ⟨hmark, hslash⟩ := hop e (by simp)
          obtain ⟨r, ts, rfl, -⟩ := exists_mark_of_spells hbehind
          have hat : atMark (compact (.mark e r :: ts)) = true := by
            rw [compact_cons, compact_mark (isBlank_of_isMark hmark), List.singleton_append,
              atMark_cons hslash, hmark]
            rfl
          rw [if_pos (Or.inr hat)]
          show (c == c && Token.startsOperator (e :: op) _) = true
          rw [hrest, beq_self_eq_true]
          rfl

/-- Reading tokens back changes no more than the spacing of marks. -/
theorem unspacedAll_respacedAll : ∀ ts : List Token,
    Token.unspacedAll (respacedAll ts) = Token.unspacedAll ts
  | [] => rfl
  | t :: ts => by
      have ht : (t.respaced (compact ts)).unspaced = t.unspaced := by
        cases t with
        | group d body => exact congrArg (Token.group d) (unspacedAll_respacedAll body)
        | _ => rfl
      rw [respacedAll, Token.unspacedAll, Token.unspacedAll, ht, unspacedAll_respacedAll ts]

theorem isMark_of_mem_typeOperators {op : List Char} (hop : op ∈ typeOperators) {c : Char}
    (hc : c ∈ op) : isMark c = true ∧ c ≠ '/' := by
  have hall : (typeOperators.all fun op => op.all fun c => isMark c && c != '/') = true := by decide
  simpa using List.all_eq_true.mp (List.all_eq_true.mp hall op hop) c hc

/-- Plain tokens are read back with other spacing at most. -/
theorem alike_respacedAll : ∀ {ts : List Token}, isPlainAll ts = true → Alike ts (respacedAll ts)
  | [], _ => .refl []
  | .word w :: ts, h => by
      rw [isPlainAll_cons] at h
      exact .word w (alike_respacedAll h.2)
  | .literal l :: ts, h => by
      rw [isPlainAll_cons] at h
      exact .literal l (alike_respacedAll h.2)
  | .group d body :: ts, h => by
      simp only [isPlainAll_cons, Token.isPlain, Bool.and_eq_true, Bool.or_eq_true, bne_iff_ne,
        beq_iff_eq] at h
      obtain ⟨⟨hbrace, hbody⟩, hts⟩ := h
      exact .group d (fun hd => hbrace.resolve_left fun hne => hne hd) (alike_respacedAll hbody)
        (alike_respacedAll hts)
  | .mark c s :: ts, h => by
      simp only [isPlainAll_cons, Token.isPlain, Bool.and_eq_true, List.all_eq_true,
        Bool.or_eq_true, Bool.not_eq_true', bne_iff_ne, beq_iff_eq] at h
      obtain ⟨⟨⟨⟨hoperator, hkind⟩, hlength⟩, hgroup⟩, hts⟩ := h
      refine .mark c s _ (fun op hop => ?_) (fun hc => ?_) (fun hc => ?_) (fun hc => ?_)
        (alike_respacedAll hts)
      · have hread := startsOperator_respacedAll (fun _ => isMark_of_mem_typeOperators hop)
          (.mark c s :: ts)
        rw [respacedAll, Token.respaced] at hread
        rw [hread]
        rcases hoperator op hop with hnot | hstarts
        · rw [hnot, Bool.eq_false_iff]
          intro hstarts
          rw [spells_of_startsOperator hstarts] at hnot
          cases hnot
        · rw [hstarts, spells_of_startsOperator hstarts]
      · rw [if_pos hc, Bool.and_eq_true, beq_iff_eq] at hkind
        rw [if_pos (Or.inl hc), hkind.1]
      · exact hlength.resolve_left fun hne => hne hc
      · refine hgroup.resolve_left fun hnot => ?_
        rcases hc with rfl | rfl <;> simp at hnot

end Spacing

/-- What may stand behind tokens without blanks: nothing, or the end of a group. -/
def Closes (rest : List Char) : Prop := ∀ c ∈ rest.head?, ∃ d : Delimiter, c = d.brackets.2

theorem closes_nil : Closes [] := by simp [Closes]

theorem closes_cons (d : Delimiter) (rest : List Char) : Closes (d.brackets.2 :: rest) := by
  intro c hc
  obtain rfl := Option.some.inj hc
  exact ⟨d, rfl⟩

theorem Closes.ends {rest : List Char} (h : Closes rest) : Ends rest := by
  cases rest with
  | nil => exact ends_nil
  | cons c rest =>
      obtain ⟨d, rfl⟩ := h c rfl
      cases d <;> exact ends_cons rfl (by decide) (by decide) rest

section Reading

/-- A character of bare tokens. -/
def isPlainChar (c : Char) : Bool :=
  isIdentifierContinue c || (isMark c && c != '/') || c.toNat = 0x27 ||
    (opening c).isSome || (closing c).isSome

theorem of_isPlainChar {c : Char} (h : isPlainChar c = true) :
    c ≠ '/' ∧ isTokenBlank c = false ∧ c.toNat ≠ 0xFEFF := by
  simp only [isPlainChar, Bool.or_eq_true, decide_eq_true_eq] at h
  rcases h with (((h | h) | h) | h) | h
  · refine ⟨?_, isTokenBlank_of_continue h, ?_⟩
    · rintro rfl
      exact absurd h (by decide)
    · intro hc
      obtain rfl := eq_ofNat hc
      exact absurd h (by decide +kernel)
  · rw [Bool.and_eq_true, bne_iff_ne] at h
    have hc := of_isMark (p := fun c => !isTokenBlank c && c.toNat != 0xFEFF) (by decide) h.1
    simp only [Bool.and_eq_true, Bool.not_eq_true', bne_iff_ne] at hc
    exact ⟨h.2, hc⟩
  · obtain rfl := eq_ofNat h
    decide
  · obtain ⟨d, hd⟩ := Option.isSome_iff_exists.mp h
    refine ⟨(of_opening hd).1, (of_opening hd).2, fun hc => ?_⟩
    obtain rfl := eq_ofNat hc
    cases hd
  · obtain ⟨d, hd⟩ := Option.isSome_iff_exists.mp h
    refine ⟨(of_closing hd).1, (of_closing hd).2.1, fun hc => ?_⟩
    obtain rfl := eq_ofNat hc
    cases hd

theorem isBare_mark {c : Char} {s : Spacing} {ts : List Token}
    (h : (Token.mark c s).isBare ts = true) :
    c.toNat = 0x27 ∧ s = .joint ∧ Token.startsAnyWord ts = true ∨
      c.toNat ≠ 0x27 ∧ isMark c = true ∧ c ≠ '/' := by
  rw [Token.isBare] at h
  split at h
  · next hc => exact Or.inl ⟨hc, by simpa using h⟩
  · next hc => exact Or.inr ⟨hc, by simpa using h⟩

theorem isBare_literal {l : String} {ts : List Token} (h : (Token.literal l).isBare ts = true) :
    l.toList ≠ [] ∧ (∀ c ∈ l.toList, c.isDigit = true) ∧ startsJoiner ts = false := by
  simpa [Token.isBare, and_assoc] using h

theorem isBare_word {w : String} {ts : List Token} (h : (Token.word w).isBare ts = true) :
    isIdentifierWord w.toList = true ∧ startsJoiner ts = false := by
  simpa [Token.isBare] using h

theorem isBlank_of_quote {c : Char} (hc : c.toNat = 0x27) : isBlank c = false := by
  obtain rfl := eq_ofNat hc
  decide

theorem compact_mark_cons {c : Char} {s : Spacing} {ts : List Token}
    (h : (Token.mark c s).isBare ts = true) : compact (.mark c s :: ts) = c :: compact ts := by
  have hblank : isBlank c = false := by
    rcases isBare_mark h with ⟨hc, -⟩ | ⟨-, hc, -⟩
    · exact isBlank_of_quote hc
    · exact isBlank_of_isMark hc
  rw [compact_cons, compact_mark hblank, List.singleton_append]

theorem isWordy_literal {l : String} {ts : List Token}
    (h : (Token.literal l).isBare ts = true) : (Token.literal l).isWordy = true := by
  obtain ⟨hne, hdigit, -⟩ := isBare_literal h
  obtain ⟨c, ds, hds⟩ := List.exists_cons_of_ne_nil hne
  rw [Token.isWordy, Token.isNumber, hds]
  exact hdigit c (hds ▸ List.mem_cons_self)

/-- What stands behind a word or a number ends it in bare tokens that stand apart. -/
theorem ends_compact {t : Token} (hwordy : t.isWordy = true) {ts : List Token}
    (hbare : isBareAll (t :: ts) = true) (hapart : isApartAll (t :: ts) = true)
    {rest : List Char} (hrest : Closes rest) : Ends (compact ts ++ rest) := by
  obtain ⟨ht, hts⟩ := isBareAll_cons.mp hbare
  have hnext := (isApartAll_cons.mp hapart).2.1 hwordy
  have hjoiner : startsJoiner ts = false := by
    cases t with
    | word w => exact (isBare_word ht).2
    | literal l => exact (isBare_literal ht).2.2
    | mark c s => cases hwordy
    | group d body => cases hwordy
  cases ts with
  | nil => exact hrest.ends
  | cons u ts =>
      obtain ⟨hu, -⟩ := isBareAll_cons.mp hts
      rw [List.head?_cons, Option.any_some] at hnext
      cases u with
      | word w => cases hnext
      | literal l =>
          rw [isWordy_literal hu] at hnext
          cases hnext
      | group d body =>
          rw [compact_cons, compact_group]
          cases d <;> exact ends_cons rfl (by decide) (by decide) _
      | mark c s =>
          simp only [startsJoiner, Bool.or_eq_false_iff, decide_eq_false_iff_not] at hjoiner
          rw [compact_mark_cons hu]
          obtain ⟨hc, -⟩ | ⟨hquote, hc, -⟩ := isBare_mark hu
          · exact absurd hc hjoiner.1.1
          · have hother := of_isMark (p := fun c => !isIdentifierContinue c && c != '"') (by decide)
              hc
            simp only [Bool.and_eq_true, Bool.not_eq_true', bne_iff_ne] at hother
            exact ends_cons hother.1 (by simp [hother.2, hjoiner.1.2, hjoiner.2]) hquote _

/-- The text of bare tokens has plain characters. -/
theorem isPlainChar_compact : ∀ {ts : List Token}, isBareAll ts = true →
    ∀ c ∈ compact ts, isPlainChar c = true
  | [], _, _, hc => absurd hc List.not_mem_nil
  | .word w :: ts, h, c, hc => by
      rw [isBareAll_cons] at h
      obtain ⟨hword, -⟩ := isBare_word h.1
      rw [compact_cons, compact_word hword, List.mem_append] at hc
      rcases hc with hc | hc
      · simp [isPlainChar, List.all_eq_true.mp (all_continue_of_word hword) c hc]
      · exact isPlainChar_compact h.2 c hc
  | .literal l :: ts, h, c, hc => by
      rw [isBareAll_cons] at h
      obtain ⟨-, hdigit, -⟩ := isBare_literal h.1
      rw [compact_cons, compact_digits (List.all_eq_true.mpr hdigit), List.mem_append] at hc
      rcases hc with hc | hc
      · exact of_isDigit (p := isPlainChar) (by decide) (hdigit c hc)
      · exact isPlainChar_compact h.2 c hc
  | .mark d s :: ts, h, c, hc => by
      rw [isBareAll_cons] at h
      rw [compact_mark_cons h.1, List.mem_cons] at hc
      rcases hc with rfl | hc
      · rcases isBare_mark h.1 with ⟨hquote, -⟩ | ⟨-, hmark, hslash⟩
        · simp [isPlainChar, hquote]
        · simp [isPlainChar, hmark, hslash]
      · exact isPlainChar_compact h.2 c hc
  | .group d body :: ts, h, c, hc => by
      rw [isBareAll_cons, Token.isBare] at h
      rw [compact_cons, compact_group, List.cons_append, List.mem_cons, List.mem_append,
        List.mem_append, List.mem_singleton] at hc
      rcases hc with rfl | (hc | rfl) | hc
      · cases d <;> rfl
      · exact isPlainChar_compact h.1 c hc
      · cases d <;> rfl
      · exact isPlainChar_compact h.2 c hc

/-- Whether a mark stands at the front of bare tokens does not depend on what closes them. -/
theorem atMark_compact {ts : List Token} (hbare : isBareAll ts = true) {rest : List Char}
    (hrest : Closes rest) : atMark (compact ts ++ rest) = atMark (compact ts) := by
  have hchar := isPlainChar_compact hbare
  cases hcs : compact ts with
  | nil =>
      cases rest with
      | nil => rfl
      | cons c rest =>
          obtain ⟨d, rfl⟩ := hrest c rfl
          cases d <;> rfl
  | cons c cs =>
      have hslash := (of_isPlainChar (hchar c (hcs ▸ List.mem_cons_self))).1
      rw [List.cons_append, atMark_cons hslash, atMark_cons hslash]

theorem exists_word_of_startsAnyWord {ts : List Token} (h : Token.startsAnyWord ts = true) :
    ∃ w rest, ts = .word w :: rest := by
  rcases ts with _ | ⟨w | _ | _ | _, rest⟩
  · cases h
  · exact ⟨w, rest, rfl⟩
  · cases h
  · cases h
  · cases h

/-- Whether a token is read at the front of its text and of what stands behind it. -/
def ReadsFront (t : Token) (ts : List Token) (rest : List Char) : Prop :=
  ∃ c cs, compact [t] = c :: cs ∧ isFront c = true ∧
    lexLeaf (c :: (cs ++ (compact ts ++ rest))) =
      some (t.respaced (compact ts), compact ts ++ rest)

section Leaves

variable {ts : List Token} {rest : List Char} (hrest : Closes rest)

include hrest

theorem readsFront_word {w : String} (hbare : isBareAll (.word w :: ts) = true)
    (hapart : isApartAll (.word w :: ts) = true) : ReadsFront (.word w) ts rest := by
  obtain ⟨hword, -⟩ := isBare_word (isBareAll_cons.mp hbare).1
  have hlex := lexLeaf_word hword (ends_compact rfl hbare hapart hrest)
  rw [String.ofList_toList] at hlex
  rw [ReadsFront, compact_word hword]
  cases hw : w.toList with
  | nil =>
      rw [hw] at hword
      cases hword
  | cons c cs =>
      rw [hw, isIdentifierWord, Bool.and_eq_true] at hword
      rw [hw] at hlex
      exact ⟨c, cs, rfl, isFront_start hword.1, hlex⟩

theorem readsFront_literal {l : String} (hbare : isBareAll (.literal l :: ts) = true)
    (hapart : isApartAll (.literal l :: ts) = true) : ReadsFront (.literal l) ts rest := by
  have hl := (isBareAll_cons.mp hbare).1
  obtain ⟨hne, hdigit, -⟩ := isBare_literal hl
  have hlex := lexLeaf_digits hdigit hne (ends_compact (isWordy_literal hl) hbare hapart hrest)
  rw [String.ofList_toList] at hlex
  rw [ReadsFront, compact_digits (List.all_eq_true.mpr hdigit)]
  obtain ⟨c, ds, hds⟩ := List.exists_cons_of_ne_nil hne
  rw [hds] at hlex hdigit
  exact ⟨c, ds, hds, isFront_digit (hdigit c List.mem_cons_self), hlex⟩

theorem readsFront_mark {c : Char} {s : Spacing} (hbare : isBareAll (.mark c s :: ts) = true)
    (hapart : isApartAll (.mark c s :: ts) = true) : ReadsFront (.mark c s) ts rest := by
  obtain ⟨hmark, hts⟩ := isBareAll_cons.mp hbare
  have htext : compact [.mark c s] = [c] := by
    have hcons := compact_mark_cons hmark
    rw [compact_cons] at hcons
    exact List.append_cancel_right (hcons.trans (List.singleton_append).symm)
  rcases isBare_mark hmark with ⟨hquote, -, hname⟩ | ⟨hquote, hc, hslash⟩
  · obtain ⟨w, ts, rfl⟩ := exists_word_of_startsAnyWord hname
    have hends := ends_compact rfl hts (isApartAll_cons.mp hapart).2.2 hrest
    obtain ⟨hword, -⟩ := isBare_word (isBareAll_cons.mp hts).1
    refine ⟨c, [], htext, ?_, ?_⟩
    · obtain rfl := eq_ofNat hquote
      decide
    · rw [Token.respaced, if_pos (Or.inl hquote), compact_cons, compact_word hword,
        List.nil_append, List.append_assoc, lexLeaf_quote hquote hword hends]
  · refine ⟨c, [], htext, isFront_mark hc hslash, ?_⟩
    rw [Token.respaced, List.nil_append, lexLeaf_mark hc hslash, atMark_compact hts hrest]
    simp [hquote]

end Leaves

/-- Whether tokens are read from a text up to the given rest, whatever has been read before. -/
def ReadsTo (tokens : List Token) (cs rest : List Char) : Prop :=
  ∀ (fuel : Nat) (outer : List (Delimiter × List Token)) (done : List Token), cs.length < fuel →
    ∃ left, rest.length < left ∧
      lexFrom fuel outer done cs = lexFrom left outer (tokens.reverse ++ done) rest

namespace ReadsTo

variable {tokens : List Token} {c : Char} {cs rest : List Char}

theorem nil (rest : List Char) : ReadsTo [] rest rest :=
  fun fuel _ _ hfuel => ⟨fuel, hfuel, rfl⟩

theorem leaf (hc : isFront c = true) {t : Token} {after : List Char}
    (hlength : after.length ≤ cs.length) (hlex : lexLeaf (c :: cs) = some (t, after))
    (h : ReadsTo tokens after rest) :
    ReadsTo (t :: tokens) (c :: cs) rest := by
  intro fuel outer done hfuel
  obtain ⟨fuel, rfl⟩ := Nat.exists_eq_succ_of_ne_zero (Nat.ne_zero_of_lt hfuel)
  have hafter : after.length < fuel := hlength.trans_lt (Nat.lt_of_succ_lt_succ hfuel)
  obtain ⟨left, hleft, hread⟩ := h fuel outer (t :: done) hafter
  refine ⟨left, hleft, ?_⟩
  rw [lexFrom_leaf hc hlex, hread, List.reverse_cons, List.append_assoc]
  rfl

theorem group (d : Delimiter) {body : List Token} {after : List Char}
    (hbody : ReadsTo body cs (d.brackets.2 :: after)) (h : ReadsTo tokens after rest) :
    ReadsTo (.group d body :: tokens) (d.brackets.1 :: cs) rest := by
  intro fuel outer done hfuel
  obtain ⟨fuel, rfl⟩ := Nat.exists_eq_succ_of_ne_zero (Nat.ne_zero_of_lt hfuel)
  obtain ⟨middle, hmiddle, hinside⟩ :=
    hbody fuel ((d, done) :: outer) [] (Nat.lt_of_succ_lt_succ hfuel)
  obtain ⟨middle, rfl⟩ := Nat.exists_eq_succ_of_ne_zero (Nat.ne_zero_of_lt hmiddle)
  obtain ⟨left, hleft, hread⟩ := h middle outer (.group d body :: done)
    (Nat.lt_of_succ_lt_succ hmiddle)
  refine ⟨left, hleft, ?_⟩
  rw [lexFrom_opening (opening_brackets d), hinside, lexFrom_closing (closing_brackets d),
    List.append_nil, List.reverse_reverse, hread, List.reverse_cons, List.append_assoc]
  rfl

/-- A text that is read to its end has the tokens read from it. -/
theorem tokenize {text : String} (hmark : ∀ c ∈ text.toList.head?, c.toNat ≠ 0xFEFF)
    (h : ReadsTo tokens text.toList []) : tokenize text = some tokens := by
  have hread : lexFrom (text.toList.length + 1) [] [] text.toList = some tokens := by
    obtain ⟨left, hleft, hread⟩ := h _ [] [] (Nat.lt_succ_self _)
    obtain ⟨left, rfl⟩ := Nat.exists_eq_succ_of_ne_zero (Nat.ne_zero_of_lt hleft)
    rw [hread, List.append_nil]
    show some tokens.reverse.reverse = _
    rw [List.reverse_reverse]
  cases htext : text.toList with
  | nil =>
      rw [htext] at hread
      simpa only [Source.tokenize, htext] using hread
  | cons c cs =>
      rw [htext] at hread hmark
      simpa only [Source.tokenize, htext, if_neg (hmark c rfl)] using hread

end ReadsTo

/-- A leaf that is read at the front is read before what is read behind it. -/
theorem ReadsFront.readsTo {t : Token} {ts : List Token} {rest : List Char}
    (h : ReadsFront t ts rest) (hts : ReadsTo (respacedAll ts) (compact ts ++ rest) rest) :
    ReadsTo (respacedAll (t :: ts)) (compact (t :: ts) ++ rest) rest := by
  obtain ⟨c, cs, htext, hc, hlex⟩ := h
  rw [compact_cons, htext, List.cons_append, List.cons_append, List.append_assoc]
  exact ReadsTo.leaf hc (by simp) hlex hts

/-- Bare tokens that stand apart are read back from their text without blanks. -/
theorem readsTo_compact : ∀ {ts : List Token} {rest : List Char}, isBareAll ts = true →
    isApartAll ts = true → Closes rest → ReadsTo (respacedAll ts) (compact ts ++ rest) rest
  | [], rest, _, _, _ => ReadsTo.nil rest
  | .group d body :: ts, rest, hbare, hapart, hrest => by
      rw [isBareAll_cons, Token.isBare] at hbare
      simp only [isApartAll_cons, Token.isApart] at hapart
      have htext : compact (.group d body :: ts) ++ rest =
          d.brackets.1 :: (compact body ++ d.brackets.2 :: (compact ts ++ rest)) := by
        rw [compact_cons, compact_group]
        simp
      have hbody := readsTo_compact hbare.1 hapart.1 (closes_cons d (compact ts ++ rest))
      rw [htext]
      exact ReadsTo.group d hbody (readsTo_compact hbare.2 hapart.2.2 hrest)
  | .word _ :: _, _, hbare, hapart, hrest =>
      (readsFront_word hrest hbare hapart).readsTo (readsTo_compact (isBareAll_cons.mp hbare).2
        (isApartAll_cons.mp hapart).2.2 hrest)
  | .literal _ :: _, _, hbare, hapart, hrest =>
      (readsFront_literal hrest hbare hapart).readsTo (readsTo_compact
        (isBareAll_cons.mp hbare).2 (isApartAll_cons.mp hapart).2.2 hrest)
  | .mark _ _ :: _, _, hbare, hapart, hrest =>
      (readsFront_mark hrest hbare hapart).readsTo (readsTo_compact (isBareAll_cons.mp hbare).2
        (isApartAll_cons.mp hapart).2.2 hrest)

/-- The tokens of a text without blanks are bare tokens that stand apart, spaced as they meet. -/
theorem tokenize_compact {ts : List Token} (hbare : isBareAll ts = true)
    (hapart : isApartAll ts = true) :
    tokenize (String.ofList (compact ts)) = some (respacedAll ts) := by
  have hread := readsTo_compact hbare hapart closes_nil
  rw [List.append_nil] at hread
  refine ReadsTo.tokenize (fun c hc => ?_) (by rwa [String.toList_ofList])
  rw [String.toList_ofList] at hc
  exact (of_isPlainChar (isPlainChar_compact hbare c (List.mem_of_mem_head? hc))).2.2

end Reading

end Rowsmith.Source
