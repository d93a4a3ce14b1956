import Rowsmith.Proofs.Source.Compact
import Rowsmith.Proofs.Source.RawLiteral
import Rowsmith.Proofs.Text.Escape

/-!
# What scanners leave

Each scanner leaves an end of its text. So tokens are made of the characters of their text, and no
blank stands inside of a token that is read from a text without blanks.
-/

namespace Rowsmith.Source
open Rowsmith.Text

section Scanners

variable {cs after : List Char}

theorem suffix_skipSuffix (cs : List Char) : skipSuffix cs <:+ cs := by
  unfold skipSuffix
  split
  · next name after h => exact ⟨name, append_of_splitIdentifier h⟩
  · exact List.suffix_refl cs

theorem suffix_of_codePointFrom {value digits n : Nat}
    (h : codePointFrom value digits cs = some (n, after)) : after <:+ cs := by
  fun_induction codePointFrom value digits cs with
  | case1 => cases h
  | case2 => cases h
  | case3 _ _ _ _ _ _ _ ih => exact (ih h).trans (List.suffix_cons _ _)
  | case4 => cases h
  | case5 _ _ _ _ _ ih => exact (ih h).trans (List.suffix_cons _ _)
  | case6 =>
      obtain ⟨-, rfl⟩ := Prod.mk.inj (Option.some.inj h)
      exact List.suffix_cons _ _
  | case7 => cases h

theorem suffix_of_codePoint {n : Nat} (h : codePoint cs = some (n, after)) : after <:+ cs := by
  unfold codePoint at h
  split at h
  · exact (suffix_of_codePointFrom h).trans (List.suffix_cons _ _)
  · cases h

theorem suffix_of_skipEscape {kind : QuotedKind} (h : skipEscape kind cs = some after) :
    after <:+ cs := by
  unfold skipEscape at h
  split at h
  · next high low rest =>
      split at h
      · split at h
        · exact Option.some.inj h ▸ ⟨['x', high, low], rfl⟩
        · cases h
      · cases h
  · next rest =>
      have hrest : rest <:+ 'u' :: rest := List.suffix_cons _ _
      split at h
      · cases h
      · cases h
      · next hpoint =>
          split at h
          · cases h
          · exact Option.some.inj h ▸ (suffix_of_codePoint hpoint).trans hrest
      · next hpoint => exact Option.some.inj h ▸ (suffix_of_codePoint hpoint).trans hrest
  · split at h
    · cases h
    · exact Option.some.inj h ▸ List.suffix_cons _ _
  · split at h
    · exact Option.some.inj h ▸ List.suffix_cons _ _
    · cases h
  · cases h

theorem suffix_of_skipContinuation {isPaired : Bool}
    (h : skipContinuation isPaired cs = some after) : after <:+ cs := by
  fun_induction skipContinuation isPaired cs with
  | case1 _ ih => exact (ih h).trans (List.suffix_cons _ _)
  | case2 => cases h
  | case3 _ _ _ ih => exact (ih h).trans (List.suffix_cons _ _)
  | case4 _ _ ih => exact (ih h).trans (List.suffix_cons _ _)
  | case5 => exact Option.some.inj h ▸ List.suffix_rfl
  | case6 => cases h

theorem suffix_of_skipQuotedBody {kind : QuotedKind} {fuel : Nat}
    (h : skipQuotedBody kind fuel cs = some after) : after <:+ cs := by
  induction fuel generalizing cs with
  | zero => cases h
  | succ fuel ih =>
      have hbehind : ∀ {skipped : Option (List Char)} {rest : List Char},
          (∀ left, skipped = some left → left <:+ rest) →
          skipped >>= skipQuotedBody kind fuel = some after → after <:+ rest := by
        intro skipped rest hskipped h
        obtain ⟨left, hleft, h⟩ := Option.bind_eq_some_iff.mp h
        exact (ih h).trans (hskipped left hleft)
      unfold skipQuotedBody at h
      split at h
      · cases h
      · cases h
      · exact Option.some.inj h ▸ (suffix_skipSuffix _).trans (List.suffix_cons _ _)
      · cases ‹fuel + 1 = Nat.succ _›
        exact (ih h).trans ⟨['\r', '\n'], rfl⟩
      · cases h
      · cases ‹fuel + 1 = Nat.succ _›
        exact (hbehind (fun _ => suffix_of_skipContinuation) h).trans ⟨['\\', '\n'], rfl⟩
      · cases ‹fuel + 1 = Nat.succ _›
        exact (hbehind (fun _ => suffix_of_skipContinuation) h).trans ⟨['\\', '\r'], rfl⟩
      · cases ‹fuel + 1 = Nat.succ _›
        exact (hbehind (fun _ => suffix_of_skipEscape) h).trans (List.suffix_cons _ _)
      · cases ‹fuel + 1 = Nat.succ _›
        split at h
        · exact (ih h).trans (List.suffix_cons _ _)
        · cases h

theorem suffix_of_skipRaw {kind : QuotedKind} (h : skipRaw kind cs = some after) :
    after <:+ cs := by
  unfold skipRaw at h
  dsimp only at h
  split at h
  · next rest hrest =>
      have hquote : rest <:+ cs :=
        (List.suffix_cons '"' rest).trans (hrest ▸ List.drop_suffix _ cs)
      split at h
      · next body behind hbody =>
          split at h
          · have hbehind : behind <:+ rest := ⟨body ++ '"' :: hashes _, by
              rw [eq_of_rawBody hbody, List.append_assoc, List.cons_append]⟩
            exact Option.some.inj h ▸ ((suffix_skipSuffix behind).trans hbehind).trans hquote
          · cases h
      · cases h
  · cases h

theorem suffix_of_skipString {kind : QuotedKind} (h : skipString kind cs = some after) :
    after <:+ cs := by
  unfold skipString at h
  split at h
  · exact (suffix_of_skipQuotedBody h).trans (List.suffix_cons _ _)
  · exact (suffix_of_skipRaw h).trans (List.suffix_cons _ _)
  · cases h

theorem suffix_of_skipClosingQuote (h : skipClosingQuote cs = some after) : after <:+ cs := by
  unfold skipClosingQuote at h
  split at h
  · next c rest =>
      split at h
      · exact Option.some.inj h ▸ (suffix_skipSuffix rest).trans (List.suffix_cons c rest)
      · cases h
  · cases h

theorem suffix_of_skipSingle {kind : QuotedKind} (h : skipSingle kind cs = some after) :
    after <:+ cs := by
  unfold skipSingle at h
  split at h
  · obtain ⟨left, hleft, h⟩ := Option.bind_eq_some_iff.mp h
    exact ((suffix_of_skipClosingQuote h).trans (suffix_of_skipEscape hleft)).trans
      (List.suffix_cons _ _)
  · split at h
    · exact (suffix_of_skipClosingQuote h).trans (List.suffix_cons _ _)
    · cases h
  · cases h

theorem suffix_of_skipQuoted (h : skipQuoted cs = some after) : after <:+ cs := by
  have hsingle : ∀ {kind : QuotedKind} {c : Char} {rest : List Char},
      (if c.toNat = 0x27 then skipSingle kind rest else none) = some after →
        after <:+ c :: rest := by
    intro kind c rest h
    split at h
    · exact (suffix_of_skipSingle h).trans (List.suffix_cons c rest)
    · cases h
  have hmarked : ∀ {mark : Char} {kind : QuotedKind} {c : Char} {rest : List Char},
      (if c = mark then skipString kind rest else none) = some after → after <:+ c :: rest := by
    intro mark kind c rest h
    split at h
    · exact (suffix_of_skipString h).trans (List.suffix_cons _ _)
    · cases h
  unfold skipQuoted at h
  simp only [Option.orElse_eq_orElse, Option.orElse_eq_or, Option.or_eq_some_iff] at h
  cases cs with
  | nil => simp [skipString] at h
  | cons c cs =>
      rcases h with h | ⟨-, h | ⟨-, h | ⟨-, h | ⟨-, h⟩⟩⟩⟩
      · exact suffix_of_skipString h
      · exact hmarked h
      · exact hmarked h
      · split at h
        · next heq =>
            obtain ⟨rfl, rfl⟩ := List.cons.inj heq
            exact (hsingle h).trans (List.suffix_cons _ _)
        · cases h
      · exact hsingle h

end Scanners

section Numbers

variable {cs after : List Char}

theorem suffix_of_skipExponent (h : skipExponent cs = some after) : after <:+ cs := by
  unfold skipExponent at h
  dsimp only at h
  split at h
  · next c rest hrest =>
      have hsigned : c :: rest <:+ cs.dropWhile (· = '_') := by
        rw [← hrest]
        refine (List.dropWhile_suffix _).trans ?_
        split
        · next heq => exact heq ▸ List.suffix_cons _ _
        · next heq => exact heq ▸ List.suffix_cons _ _
        · exact List.suffix_refl _
      split at h
      · obtain rfl := Option.some.inj h
        exact ((List.dropWhile_suffix _).trans (List.suffix_cons c rest)).trans
          (hsigned.trans (List.dropWhile_suffix _))
      · cases h
  · cases h

theorem suffix_of_skipFraction (h : skipFraction cs = some after) : after <:+ cs := by
  have hexponent : ∀ {c : Char} {rest : List Char}, c :: rest <:+ cs →
      (skipExponent rest).getD (c :: rest) <:+ cs := by
    intro c rest hrest
    cases hexponent : skipExponent rest with
    | none => exact hrest
    | some behind =>
        exact ((suffix_of_skipExponent hexponent).trans (List.suffix_cons c rest)).trans hrest
  have hdigits : ∀ {rest : List Char}, cs.dropWhile isDigitOrLine = rest → rest <:+ cs :=
    fun heq => heq ▸ List.dropWhile_suffix _
  cases cs with
  | nil => exact Option.some.inj h ▸ List.suffix_refl _
  | cons c cs =>
      rw [skipFraction] at h
      split at h
      · cases h
      · split at h
        · next heq => exact Option.some.inj h ▸ hexponent (hdigits heq)
        · next heq => exact Option.some.inj h ▸ hexponent (hdigits heq)
        · next heq => exact Option.some.inj h ▸ hdigits rfl

theorem suffix_of_skipFloatDigits (h : skipFloatDigits cs = some after) : after <:+ cs := by
  have hdigits : ∀ {c : Char} {rest : List Char}, cs.dropWhile isDigitOrLine = c :: rest →
      rest <:+ cs :=
    fun {c rest} heq => (List.suffix_cons c rest).trans (heq ▸ List.dropWhile_suffix _)
  unfold skipFloatDigits at h
  split at h
  · split at h
    · split at h
      · next heq => exact (suffix_of_skipFraction h).trans (hdigits heq)
      · next heq => exact (suffix_of_skipExponent h).trans (hdigits heq)
      · next heq => exact (suffix_of_skipExponent h).trans (hdigits heq)
      · cases h
    · cases h
  · cases h

theorem suffix_of_skipBaseDigits {base : Nat} {started : Bool}
    (h : skipBaseDigits base started cs = some after) : after <:+ cs := by
  fun_induction skipBaseDigits base started cs with
  | case1 => cases h
  | case2 _ _ _ ih => exact (ih h).trans (List.suffix_cons _ _)
  | case3 _ _ _ _ _ _ _ ih => exact (ih h).trans (List.suffix_cons _ _)
  | case4 => cases h
  | case5 =>
      obtain rfl := Option.some.inj h
      exact List.suffix_refl _
  | case6 =>
      obtain rfl := Option.some.inj h
      exact List.suffix_refl _
  | case7 => cases h
  | case8 =>
      obtain rfl := Option.some.inj h
      exact List.suffix_refl _
  | case9 => cases h

theorem suffix_of_skipIntegerDigits (h : skipIntegerDigits cs = some after) : after <:+ cs := by
  unfold skipIntegerDigits at h
  split at h
  · exact (suffix_of_skipBaseDigits h).trans ⟨['0', 'x'], rfl⟩
  · exact (suffix_of_skipBaseDigits h).trans ⟨['0', 'o'], rfl⟩
  · exact (suffix_of_skipBaseDigits h).trans ⟨['0', 'b'], rfl⟩
  · exact suffix_of_skipBaseDigits h

/-- A number ends where a word does. -/
theorem of_skipNumber (h : skipNumber cs = some after) :
    after <:+ cs ∧ atWordBreak after = true := by
  have hfinish : ∀ {digits : Option (List Char)}, (∀ rest, digits = some rest → rest <:+ cs) →
      (do let rest := skipSuffix (← digits); if atWordBreak rest then some rest else none) =
        some after → after <:+ cs ∧ atWordBreak after = true := by
    intro digits hdigits h
    cases digits with
    | none => cases h
    | some rest =>
        change (if atWordBreak (skipSuffix rest) then some (skipSuffix rest) else none) = _ at h
        split at h
        · next hbreak =>
            obtain rfl := Option.some.inj h
            exact ⟨(suffix_skipSuffix rest).trans (hdigits rest rfl), hbreak⟩
        · cases h
  unfold skipNumber at h
  dsimp only at h
  rw [Option.orElse_eq_orElse, Option.orElse_eq_or, Option.or_eq_some_iff] at h
  rcases h with h | ⟨-, h⟩
  · exact hfinish (fun _ => suffix_of_skipFloatDigits) h
  · exact hfinish (fun _ => suffix_of_skipIntegerDigits) h

end Numbers

section Comments

variable {cs after : List Char}

theorem prefix_splitLine (cs : List Char) : (splitLine cs).1 <+: cs := by
  fun_induction splitLine cs with
  | case1 => exact List.prefix_rfl
  | case2 => exact List.nil_prefix
  | case3 => exact List.nil_prefix
  | case4 c rest _ _ line behind hsplit ih =>
      rw [hsplit] at ih
      exact List.prefix_cons_inj c |>.mpr ih

theorem suffix_splitLine (cs : List Char) : (splitLine cs).2 <:+ cs := by
  fun_induction splitLine cs with
  | case1 => exact List.suffix_rfl
  | case2 => exact List.suffix_rfl
  | case3 => exact List.suffix_cons _ _
  | case4 c rest _ _ line behind hsplit ih =>
      rw [hsplit] at ih
      exact ih.trans (List.suffix_cons c rest)

theorem suffix_of_skipBlockComment {depth : Nat} (h : skipBlockComment depth cs = some after) :
    after <:+ cs := by
  fun_induction skipBlockComment depth cs with
  | case1 _ _ ih => exact (ih h).trans ⟨['/', '*'], rfl⟩
  | case2 => exact Option.some.inj h ▸ ⟨['*', '/'], rfl⟩
  | case3 _ _ _ ih => exact (ih h).trans ⟨['*', '/'], rfl⟩
  | case4 _ _ _ _ _ ih => exact (ih h).trans (List.suffix_cons _ _)
  | case5 => cases h

theorem suffix_skipTokenBlanks (fuel : Nat) (cs : List Char) : skipTokenBlanks fuel cs <:+ cs := by
  fun_induction skipTokenBlanks fuel cs with
  | case1 => exact List.suffix_rfl
  | case2 => exact List.suffix_rfl
  | case3 _ c rest _ ih =>
      exact (ih.trans (suffix_splitLine rest)).trans (List.suffix_cons c rest)
  | case4 _ _ _ _ _ _ hskip ih => exact ih.trans (suffix_of_skipBlockComment hskip)
  | case5 => exact List.suffix_rfl
  | case6 _ _ _ _ _ _ ih => exact ih.trans (List.suffix_cons _ _)
  | case7 => exact List.suffix_rfl

theorem textBetween_subset (cs after : List Char) : textBetween cs after ⊆ cs :=
  (List.take_prefix _ cs).subset

/-- A documentation comment is made of the characters of its text. -/
theorem of_documentationComment {comment : List Char} {inner : Bool}
    (h : documentationComment cs = some (comment, inner, after)) : comment ⊆ cs ∧ after <:+ cs := by
  have hline : ∀ (opened : List Char) {rest : List Char} {inner' : Bool},
      some ((splitLine rest).1, inner', (splitLine rest).2) = some (comment, inner, after) →
      comment ⊆ opened ++ rest ∧ after <:+ opened ++ rest := by
    intro opened rest inner' h
    obtain ⟨rfl, rfl, rfl⟩ := by simpa only [Option.some.injEq, Prod.mk.injEq] using h
    exact ⟨List.Subset.trans (prefix_splitLine rest).subset (List.subset_append_right opened rest),
      (suffix_splitLine rest).trans (List.suffix_append opened rest)⟩
  have hblock : ∀ {inner' : Bool},
      (skipBlockComment 0 cs).map (fun after => (blockText cs after, inner', after)) =
        some (comment, inner, after) → comment ⊆ cs ∧ after <:+ cs := by
    intro inner' h
    obtain ⟨behind, hskip, heq⟩ := Option.map_eq_some_iff.mp h
    obtain ⟨rfl, -, rfl⟩ := by simpa only [Prod.mk.injEq] using heq
    refine ⟨fun c hc => textBetween_subset cs behind ?_, suffix_of_skipBlockComment hskip⟩
    exact List.mem_of_mem_drop (List.dropLast_subset _ (List.dropLast_subset _ hc))
  unfold documentationComment at h
  split at h
  · exact hline ['/', '/', '!'] h
  · exact hblock h
  · cases h
  · exact hline ['/', '/', '/'] h
  · cases h
  · exact hblock h
  · cases h

end Comments

mutual

/-- Whether no blank stands inside of a token tree. -/
def Token.isSolid : Token → Bool
  | .word text | .literal text => text.toList.all (!isBlank ·)
  | .mark c _ => !isBlank c
  | .group _ body => isSolidAll body

/-- Whether no blank stands inside of token trees. -/
def isSolidAll : List Token → Bool
  | [] => true
  | t :: ts => t.isSolid && isSolidAll ts

end

theorem isSolidAll_eq_all (ts : List Token) : isSolidAll ts = ts.all Token.isSolid := by
  induction ts with
  | nil => rw [isSolidAll, List.all_nil]
  | cons t ts ih => rw [isSolidAll, List.all_cons, ih]

theorem isSolidAll_reverse (ts : List Token) : isSolidAll ts.reverse = isSolidAll ts := by
  rw [isSolidAll_eq_all, isSolidAll_eq_all, List.all_reverse]

theorem isSolidAll_append (ts us : List Token) :
    isSolidAll (ts ++ us) = (isSolidAll ts && isSolidAll us) := by
  rw [isSolidAll_eq_all, isSolidAll_eq_all, isSolidAll_eq_all, List.all_append]

/-- Tokens are solid whatever the spacing of their marks. -/
theorem isSolidAll_unspaced : ∀ ts : List Token,
    isSolidAll (Token.unspacedAll ts) = isSolidAll ts
  | [] => rfl
  | t :: ts => by
      have ht : t.unspaced.isSolid = t.isSolid := by
        cases t with
        | group d body => exact isSolidAll_unspaced body
        | _ => rfl
      rw [Token.unspacedAll, isSolidAll, isSolidAll, ht, isSolidAll_unspaced ts]

section Readings

variable {cs after : List Char} {token : Token}

theorem of_lexMark (h : lexMark cs = some (token, after)) :
    ∃ c s, cs = c :: after ∧ token = .mark c s := by
  unfold lexMark at h
  split at h
  · cases h
  · split at h
    · cases h
    · split at h
      · obtain ⟨⟨found, behind⟩, -, h⟩ := Option.bind_eq_some_iff.mp h
        dsimp only at h
        split at h
        · obtain ⟨rfl, rfl⟩ := Prod.mk.inj (Option.some.inj h)
          exact ⟨_, _, rfl, rfl⟩
        · cases h
      · obtain ⟨rfl, rfl⟩ := Prod.mk.inj (Option.some.inj h)
        exact ⟨_, _, rfl, rfl⟩

theorem append_of_splitAnyIdentifier {name : List Char}
    (h : splitAnyIdentifier cs = some (name, after)) : name ++ after = cs := by
  unfold splitAnyIdentifier at h
  split at h
  · obtain ⟨⟨found, behind⟩, hfound, h⟩ := Option.bind_eq_some_iff.mp h
    dsimp only at h
    split at h
    · cases h
    · obtain ⟨rfl, rfl⟩ := Prod.mk.inj (Option.some.inj h)
      rw [List.cons_append, List.cons_append, append_of_splitIdentifier hfound]
  · exact append_of_splitIdentifier h

theorem isSolid_ofList {letters : List Char} (h : ∀ c ∈ letters, isBlank c = false) :
    (String.ofList letters).toList.all (!isBlank ·) = true := by
  rw [String.toList_ofList, List.all_eq_true]
  intro c hc
  rw [h c hc]
  rfl

theorem isSolid_of_lexLeaf (hcs : ∀ c ∈ cs, isBlank c = false)
    (h : lexLeaf cs = some (token, after)) : token.isSolid = true ∧ after <:+ cs := by
  unfold lexLeaf at h
  split at h
  · next behind hskip =>
      obtain ⟨rfl, rfl⟩ := Prod.mk.inj (Option.some.inj h)
      refine ⟨isSolid_ofList fun c hc => hcs c (textBetween_subset cs behind hc), ?_⟩
      rw [Option.orElse_eq_orElse, Option.orElse_eq_or, Option.or_eq_some_iff] at hskip
      rcases hskip with hskip | ⟨-, hskip⟩
      · exact suffix_of_skipQuoted hskip
      · exact (of_skipNumber hskip).1
  · split at h
    · next hmark =>
        obtain rfl := Option.some.inj h
        obtain ⟨c, s, rfl, rfl⟩ := of_lexMark hmark
        refine ⟨?_, List.suffix_cons c after⟩
        rw [Token.isSolid, hcs c List.mem_cons_self]
        rfl
    · split at h
      · cases h
      · obtain ⟨⟨name, behind⟩, hname, heq⟩ := Option.map_eq_some_iff.mp h
        obtain ⟨rfl, rfl⟩ := Prod.mk.inj heq
        obtain rfl := append_of_splitAnyIdentifier hname
        exact ⟨isSolid_ofList fun c hc => hcs c (List.mem_append_left _ hc),
          List.suffix_append name behind⟩

/-- No blank gets into the attribute of a documentation comment. -/
theorem isSolidAll_documentationTokens {comment : List Char} (inner : Bool)
    (h : ∀ c ∈ comment, isBlank c = false) :
    isSolidAll (documentationTokens comment inner) = true := by
  have hescapes : escapeLetters.all (!isBlank ·) = true := by decide
  have hletters : ∀ c ∈ escapeLetters, isBlank c = false := fun c hc => by
    simpa using List.all_eq_true.mp hescapes c hc
  have hliteral : isSolidAll (textLiteral (String.ofList comment)) = true := by
    rw [textLiteral, isSolidAll, isSolidAll, Bool.and_true, Token.isSolid, stringLiteral]
    refine isSolid_ofList fun c hc => ?_
    rw [String.toList_ofList, List.mem_append, List.mem_cons, List.mem_singleton] at hc
    rcases hc with (rfl | hc) | rfl
    · decide
    · exact (mem_literalBody hc).elim (h c) (hletters c)
    · decide
  have hname : isSolidAll (code "doc =") = true := by decide
  have hbody : isSolidAll (brackets (code "doc =" ++ textLiteral (String.ofList comment))) =
      true := by
    rw [brackets, isSolidAll, isSolidAll, Token.isSolid, isSolidAll_append, hname, hliteral]
    rfl
  rw [documentationTokens, isSolidAll_append, isSolidAll_append, hbody]
  cases inner <;> decide

end Readings

/-- Where the reading of a text stands: the open groups with the tokens before them, the tokens
since, in reverse, and the characters that are left. -/
structure LexState where
  outer : List (Delimiter × List Token)
  done : List Token
  left : List Char

/-- A step of reading. -/
inductive LexStep : LexState → LexState → Prop
  | comment {outer done cs comment inner after}
    (h : documentationComment cs = some (comment, inner, after)) :
    LexStep ⟨outer, done, cs⟩ ⟨outer, (documentationTokens comment inner).reverse ++ done, after⟩
  | opens {outer done delimiter c rest} :
    LexStep ⟨outer, done, c :: rest⟩ ⟨(delimiter, done) :: outer, [], rest⟩
  | closes {outer before done delimiter c rest} :
    LexStep ⟨(delimiter, before) :: outer, done, c :: rest⟩
      ⟨outer, .group delimiter done.reverse :: before, rest⟩
  | leaf {outer done cs token after} (h : lexLeaf cs = some (token, after)) :
    LexStep ⟨outer, done, cs⟩ ⟨outer, token :: done, after⟩

section Steps

variable {fuel : Nat} {outer : List (Delimiter × List Token)} {done tokens : List Token}
  {cs : List Char}

/-- Behind blanks the reading of a text is at its end or goes on by a step. -/
theorem lexFrom_cases (h : lexFrom (fuel + 1) outer done cs = some tokens) :
    tokens = done.reverse ∨ ∃ next,
      LexStep ⟨outer, done, skipTokenBlanks (fuel + 1) cs⟩ next ∧
        lexFrom fuel next.outer next.done next.left = some tokens := by
  rw [lexFrom] at h
  generalize skipTokenBlanks (fuel + 1) cs = left at h
  split at h
  · next comment inner after hcomment =>
      split at h
      · exact .inr ⟨_, .comment hcomment, h⟩
      · cases h
  · split at h
    · split at h
      · exact .inl (Option.some.inj h).symm
      · cases h
    · split at h
      · exact .inr ⟨_, .opens, h⟩
      · split at h
        · split at h
          · next heq =>
              subst heq
              exact .inr ⟨_, .closes, h⟩
          · cases h
        · cases h
      · split at h
        · next hleaf => exact .inr ⟨_, .leaf hleaf, h⟩
        · cases h

/-- What blanks and steps keep holds where a reading ends. -/
theorem lexFrom_induction {P : LexState → Prop}
    (hskip : ∀ fuel s, P s → P { s with left := skipTokenBlanks fuel s.left })
    (hstep : ∀ s next, LexStep s next → P s → P next)
    (h : lexFrom fuel outer done cs = some tokens) (hP : P ⟨outer, done, cs⟩) :
    ∃ outer left, P ⟨outer, tokens.reverse, left⟩ := by
  induction fuel generalizing outer done cs with
  | zero => cases h
  | succ fuel ih =>
      have hbehind := hskip (fuel + 1) _ hP
      rcases lexFrom_cases h with rfl | ⟨next, hnext, hrest⟩
      · rw [List.reverse_reverse]
        exact ⟨outer, _, hbehind⟩
      · exact ih hrest (hstep _ next hnext hbehind)

end Steps

/-- No blank stands inside of what was read, and none is left. -/
structure LexState.IsSolid (s : LexState) : Prop where
  left : ∀ c ∈ s.left, isBlank c = false
  done : isSolidAll s.done = true
  outer : ∀ o ∈ s.outer, isSolidAll o.2 = true

/-- No blank is left where less is left. -/
theorem LexState.IsSolid.skip {s : LexState} (hs : s.IsSolid) (fuel : Nat) :
    LexState.IsSolid { s with left := skipTokenBlanks fuel s.left } :=
  { hs with left := fun c hc => hs.left c ((suffix_skipTokenBlanks fuel s.left).subset hc) }

/-- A step brings no blank into what is read. -/
theorem LexState.IsSolid.step {s next : LexState} (hs : s.IsSolid) (h : LexStep s next) :
    next.IsSolid := by
  obtain ⟨hleft, hdone, houter⟩ := hs
  cases h with
  | @comment _ done cs comment inner after hcomment =>
      obtain ⟨hsubset, hsuffix⟩ := of_documentationComment hcomment
      refine ⟨fun c hc => hleft c (hsuffix.subset hc), ?_, houter⟩
      show isSolidAll ((documentationTokens comment inner).reverse ++ done) = true
      rw [isSolidAll_append, isSolidAll_reverse, hdone,
        isSolidAll_documentationTokens inner fun c hc => hleft c (hsubset hc)]
      rfl
  | opens =>
      refine ⟨fun c hc => hleft c (List.mem_cons_of_mem _ hc), rfl, fun o ho => ?_⟩
      rcases List.mem_cons.mp ho with rfl | ho
      · exact hdone
      · exact houter o ho
  | @closes _ before done delimiter =>
      refine ⟨fun c hc => hleft c (List.mem_cons_of_mem _ hc), ?_,
        fun o ho => houter o (List.mem_cons_of_mem _ ho)⟩
      show isSolidAll (.group delimiter done.reverse :: before) = true
      rw [isSolidAll, Token.isSolid, isSolidAll_reverse, hdone,
        houter (delimiter, before) List.mem_cons_self]
      rfl
  | @leaf _ done _ token _ hleaf =>
      obtain ⟨htoken, hsuffix⟩ := isSolid_of_lexLeaf hleft hleaf
      refine ⟨fun c hc => hleft c (hsuffix.subset hc), ?_, houter⟩
      show isSolidAll (token :: done) = true
      rw [isSolidAll, htoken, hdone]
      rfl

/-- What is read from a text without blanks has no blank inside. -/
theorem isSolidAll_of_lexFrom {fuel : Nat} {cs : List Char} {tokens : List Token}
    (h : lexFrom fuel [] [] cs = some tokens) (hcs : ∀ c ∈ cs, isBlank c = false) :
    isSolidAll tokens = true := by
  obtain ⟨_, _, hsolid⟩ := lexFrom_induction (P := LexState.IsSolid)
    (fun fuel _ hs => hs.skip fuel) (fun _ _ hnext hs => hs.step hnext) h ⟨hcs, rfl, by simp⟩
  rw [← isSolidAll_reverse]
  exact hsolid.done

/-- The tokens of a text without blanks have no blank inside. -/
theorem isSolidAll_of_tokenize {text : String} {tokens : List Token}
    (h : tokenize text = some tokens) (htext : ∀ c ∈ text.toList, isBlank c = false) :
    isSolidAll tokens = true := by
  unfold tokenize at h
  refine isSolidAll_of_lexFrom h fun c hc => htext c ?_
  split at hc
  · next d rest heq =>
      rw [heq]
      split at hc
      · exact List.mem_cons_of_mem d hc
      · exact hc
  · exact absurd hc List.not_mem_nil

end Rowsmith.Source
