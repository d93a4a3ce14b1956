import Rowsmith.Proofs.Source.Leaf
import Rowsmith.Proofs.Text.Escape
import Rowsmith.Proofs.Text.Identifier
import Rowsmith.Proofs.Unit.Gaps

/-!
# Leaves of tokens

A placeholder's literal in the text of tokens lies within a single leaf: what parts two
leaves does not go on as the inside of a placeholder, unless a low line stands right behind
the last quote of a leaf. In the literal of a text it can only be the end, since quotes
within are escaped.
-/

namespace Rowsmith.Text

/-- The characters that spell a text tell whether it has one. -/
theorem notMem_of_eq {text : String} {cs : List Char} {c : Char} (h : text = String.ofList cs)
    (hc : c ∉ cs) : c ∉ text.toList := by
  rwa [h, String.toList_ofList]

/-- What stands behind the last quote of a text, if it has one. -/
def behindQuote? : List Char → Option (List Char)
  | [] => none
  | c :: rest => (behindQuote? rest).or (if c = '"' then some rest else none)

theorem behindQuote?_of_quote_notMem {x : List Char} (h : '"' ∉ x) : behindQuote? x = none := by
  induction x with
  | nil => rfl
  | cons c x ih =>
      rw [List.mem_cons, not_or] at h
      rw [behindQuote?, ih h.2, if_neg (Ne.symm h.1)]
      rfl

theorem behindQuote?_append (a b : List Char) :
    behindQuote? (a ++ b) = (behindQuote? b).or ((behindQuote? a).map (· ++ b)) := by
  induction a with
  | nil => simp [behindQuote?]
  | cons c a ih =>
      rw [List.cons_append, behindQuote?, ih, behindQuote?, Option.or_assoc]
      congr 1
      cases behindQuote? a with
      | some z => rfl
      | none => by_cases hc : c = '"' <;> simp [hc]

theorem behindQuote?_quote_append {b : List Char} (hb : '"' ∉ b) (a : List Char) :
    behindQuote? (a ++ '"' :: b) = some b := by
  rw [behindQuote?_append, behindQuote?, behindQuote?_of_quote_notMem hb]
  rfl

/-- Whether no low line stands right behind the last quote of a text. -/
def Closed (x : List Char) : Prop := (behindQuote? x).bind List.head? ≠ some '_'

instance (x : List Char) : Decidable (Closed x) :=
  inferInstanceAs (Decidable ((behindQuote? x).bind List.head? ≠ some '_'))

theorem closed_of_quote_notMem {x : List Char} (h : '"' ∉ x) : Closed x := by
  simp [Closed, behindQuote?_of_quote_notMem h]

theorem closed_concat_quote (x : List Char) : Closed (x ++ ['"']) := by
  rw [Closed, behindQuote?_quote_append List.not_mem_nil]
  simp

/-- Closed texts are closed together, if the second does not go on as the inside of a
placeholder's literal that begins in the first. -/
theorem Closed.append {a b : List Char} (ha : Closed a) (hb : Closed b)
    (hgoes : '"' ∉ a ∨ b.head? ≠ some '_') : Closed (a ++ b) := by
  unfold Closed at *
  rw [behindQuote?_append]
  cases hbehind : behindQuote? b with
  | some z => simpa [hbehind] using hb
  | none =>
      rcases hgoes with hnone | hhead
      · simp [behindQuote?_of_quote_notMem hnone]
      · cases hbefore : behindQuote? a with
        | none => simp
        | some z =>
            rw [hbefore] at ha
            cases z with
            | nil => simpa using hhead
            | cons c z => simpa using ha

end Rowsmith.Text

namespace Rowsmith.Unit
open Rowsmith.Source Rowsmith.Text

/-- A quoted text ends a literal as its inside ends the inside of the literal. -/
theorem quoted_suffix_stringLiteral_iff {body : List Char} {text : String} :
    quoted body <:+ (stringLiteral text).toList ↔
      '"' :: body <:+ '"' :: literalBody text.toList := by
  rw [stringLiteral, String.toList_ofList, quoted]
  constructor
  · rintro ⟨before, heq⟩
    rw [← List.append_assoc] at heq
    exact ⟨before, (List.append_inj' heq rfl).1⟩
  · rintro ⟨before, heq⟩
    exact ⟨before, by rw [← List.append_assoc, heq]⟩

/-- A plain text ends the inside of a literal behind a quote where it ends the text so. -/
theorem quote_suffix_literalBody_iff {p cs : List Char} (hp : Plain p) :
    '"' :: p <:+ '"' :: literalBody cs ↔ '"' :: p <:+ '"' :: cs := by
  constructor
  · rintro ⟨before, heq⟩
    cases before with
    | nil =>
        have hbody : literalBody cs = p := (List.cons.inj heq).2.symm
        rw [eq_of_literalBody_eq hp hbody]
    | cons c before =>
        have hbody : literalBody cs = before ++ '"' :: p := (List.cons.inj heq).2.symm
        obtain ⟨-, front, rest, rfl, hrest⟩ := exists_of_literalBody_eq hbody
        rw [eq_of_literalBody_eq hp hrest]
        exact ⟨'"' :: front, rfl⟩
  · rintro ⟨before, heq⟩
    cases before with
    | nil =>
        obtain rfl := (List.cons.inj heq).2
        rw [literalBody_of_plain hp]
    | cons c before =>
        have hcs : cs = before ++ '"' :: p := (List.cons.inj heq).2.symm
        obtain ⟨x, hx⟩ := exists_literalBody_append before ('"' :: p)
        have hquoted : literalBody ('"' :: p) = '\\' :: '"' :: p := by
          rw [literalBody, literalBody_of_plain hp]
          rfl
        rw [hcs, hx, hquoted]
        exact ⟨'"' :: (x ++ ['\\']), by simp⟩

section Boundaries

variable {body before behind : List Char} (hm : Marked body)

include hm

/-- No placeholder's literal begins in a closed text and ends behind it. -/
theorem apart_of_closed (hbefore : Closed before)
    (hgoes : '"' ∉ before ∨ behind.head? ≠ some '_') : Apart (quoted body) before behind := by
  rcases hgoes with hnone | hhead
  · exact apart_of_quote_notMem_left hnone behind
  refine apart_quoted fun u v hbody hsuffix hprefix => ?_
  obtain ⟨x, rfl⟩ := hsuffix
  have hu : '"' ∉ u := fun h => hm.quote (hbody ▸ List.mem_append_left v h)
  have hmark := hm.head
  rw [Closed, behindQuote?_quote_append hu] at hbefore
  rw [hbody] at hmark
  cases u with
  | cons c u => exact hbefore hmark
  | nil =>
      obtain ⟨rest, rfl⟩ := hprefix
      rw [List.append_assoc, List.head?_append] at hhead
      rw [List.nil_append] at hmark
      exact hhead (by rw [hmark, Option.some_or])

/-- In the literal of a text the literal of a placeholder is the end. -/
theorem quoted_infix_stringLiteral_iff (text : String) :
    quoted body <:+: (stringLiteral text).toList ↔
      quoted body <:+ (stringLiteral text).toList := by
  refine ⟨fun hi => ?_, fun hi => hi.isInfix⟩
  obtain ⟨before, behind, heq⟩ := hi
  rcases behind.eq_nil_or_concat' with rfl | ⟨behind, c, rfl⟩
  · exact ⟨before, by simpa using heq⟩
  -- Otherwise a quote behind a low line stands within the literal.
  exfalso
  rw [stringLiteral, String.toList_ofList, quoted, ← List.append_assoc] at heq
  obtain ⟨hinside, -⟩ := List.append_inj' heq rfl
  have hbefore : ∃ x, literalBody text.toList = x ++ '"' :: behind ∧ x.getLast? = some '_' := by
    cases before with
    | nil => exact ⟨body, by simpa using hinside.symm, hm.last⟩
    | cons d before =>
        refine ⟨before ++ '"' :: body, by simpa using (List.cons.inj hinside).2.symm, ?_⟩
        rw [List.getLast?_append, List.getLast?_cons, hm.last]
        rfl
  obtain ⟨x, hx, hlast⟩ := hbefore
  rw [(exists_of_literalBody_eq hx).1] at hlast
  exact absurd hlast (by decide)

end Boundaries

end Rowsmith.Unit

namespace Rowsmith.Source.Token

mutual

/-- The leaves of a token tree: its words, marks and literals. -/
def leaves : Token → List Token
  | group _ body => leavesAll body
  | t => [t]

/-- The leaves of a list of token trees. -/
def leavesAll : List Token → List Token
  | [] => []
  | t :: rest => leaves t ++ leavesAll rest

end

end Rowsmith.Source.Token

namespace Rowsmith.Source
open Rowsmith.Text Rowsmith.Unit
open Token (leaves leavesAll)

/-- Whether all leaves of tokens have a property. -/
def EachLeaf (P : Token → Prop) (tokens : List Token) : Prop := ∀ t ∈ leavesAll tokens, P t

section Composed

variable {P : Token → Prop}

@[simp] theorem eachLeaf_nil : EachLeaf P [] := by
  simp [EachLeaf, leavesAll]

theorem Token.leavesAll_append (a b : List Token) :
    leavesAll (a ++ b) = leavesAll a ++ leavesAll b := by
  induction a with
  | nil => rfl
  | cons t a ih => rw [List.cons_append, leavesAll, leavesAll, ih, List.append_assoc]

@[simp] theorem eachLeaf_append {a b : List Token} :
    EachLeaf P (a ++ b) ↔ EachLeaf P a ∧ EachLeaf P b := by
  rw [EachLeaf, Token.leavesAll_append, List.forall_mem_append, EachLeaf, EachLeaf]

@[simp] theorem eachLeaf_flatMap {α : Type} {f : α → List Token} {xs : List α} :
    EachLeaf P (xs.flatMap f) ↔ ∀ x ∈ xs, EachLeaf P (f x) := by
  induction xs with
  | nil => simp
  | cons x xs ih => rw [List.flatMap_cons, eachLeaf_append, ih, List.forall_mem_cons]

@[simp] theorem eachLeaf_word {w : String} : EachLeaf P (word w) ↔ P (.word w) := by
  simp [EachLeaf, word, leavesAll, leaves]

theorem eachLeaf_mark {c : Char} {s : Spacing} : EachLeaf P [.mark c s] ↔ P (.mark c s) := by
  simp [EachLeaf, leavesAll, leaves]

@[simp] theorem eachLeaf_textLiteral {text : String} :
    EachLeaf P (textLiteral text) ↔ P (.literal (stringLiteral text)) := by
  simp [EachLeaf, textLiteral, leavesAll, leaves]

@[simp] theorem eachLeaf_parens {body : List Token} :
    EachLeaf P (parens body) ↔ EachLeaf P body := by
  simp [EachLeaf, parens, leavesAll, leaves]

@[simp] theorem eachLeaf_brackets {body : List Token} :
    EachLeaf P (brackets body) ↔ EachLeaf P body := by
  simp [EachLeaf, brackets, leavesAll, leaves]

@[simp] theorem eachLeaf_braces {body : List Token} :
    EachLeaf P (braces body) ↔ EachLeaf P body := by
  simp [EachLeaf, braces, leavesAll, leaves]

end Composed

/-- Whether leaves of templates have a property: those without quotes, and literals that do not
end as a placeholder does. -/
structure Lenient (P : Token → Prop) : Prop where
  bare : ∀ t : Token, '"' ∉ t.text.toList → P t
  literal : ∀ text : String, text.toList.getLast? ≠ some '_' → P (.literal (stringLiteral text))
  raw : ∀ text : String, '"' ∉ text.toList → P (.literal ("r\" " ++ text ++ "\""))

/-- Whether a piece of a template is an identifier, or marks of which none opens a comment. -/
def isTemplatePiece (piece : List Char) : Bool :=
  piece.isEmpty || isIdentifierWord piece || piece.all fun c => isMark c && c != '/'

/-- Whether the pieces of a template are identifiers and marks. -/
def isTemplate (template : String) : Bool :=
  (templatePieces [] template.toList).all isTemplatePiece

/-- The characters that spell a template tell whether it is one. -/
theorem isTemplate_of_eq {template : String} {cs : List Char} (h : template = String.ofList cs)
    (hc : (templatePieces [] cs).all isTemplatePiece = true) : isTemplate template = true := by
  rwa [isTemplate, h, String.toList_ofList]

/-- Whether the leaves of templates have a property: identifiers, marks, texts that do not end as
a placeholder does, texts without an escape, and ordinals. -/
structure Templated (P : Token → Prop) : Prop where
  word : ∀ w : String, isIdentifierWord w.toList = true → P (.word w)
  mark : ∀ (c : Char) (s : Spacing), isMark c = true → c ≠ '/' → P (.mark c s)
  literal : ∀ text : String, text.toList.getLast? ≠ some '_' → P (.literal (stringLiteral text))
  raw : ∀ text : String, '"' ∉ text.toList → '\r' ∉ text.toList →
    P (.literal ("r\" " ++ text ++ "\""))
  ordinal : ∀ n : Nat, P (.literal (toString n ++ "usize"))

theorem Lenient.templated {P : Token → Prop} (hP : Lenient P) : Templated P where
  word w h := by
    refine hP.bare _ fun hquote => ?_
    rw [isIdentifierWord_eq, Bool.and_eq_true, List.all_eq_true] at h
    exact absurd (h.2 '"' hquote) (by decide)
  mark c s h _ := by
    refine hP.bare _ ?_
    rw [Token.text, Char.toString, String.toList_singleton, List.mem_singleton]
    rintro rfl
    exact absurd h (by decide)
  literal := hP.literal
  raw text h _ := hP.raw text h
  ordinal n := by
    refine hP.bare _ ?_
    rw [Token.text, String.toList_append, List.mem_append, not_or]
    exact ⟨fun hquote => absurd ((isNumeral_toString n).isDigit _ hquote) (by decide), by decide⟩

/-- Whether a leaf is an identifier, or a mark that opens no comment. -/
def Token.isSimple : Token → Bool
  | .word w => isIdentifierWord w.toList
  | .mark c _ => isMark c && c != '/'
  | .literal _ | .group _ _ => false

namespace Templated

variable {P : Token → Prop} (hP : Templated P)

include hP

theorem of_isSimple {t : Token} (h : t.isSimple = true) : P t := by
  cases t with
  | word w => exact hP.word w h
  | mark c s =>
      rw [Token.isSimple, Bool.and_eq_true, bne_iff_ne] at h
      exact hP.mark c s h.1 h.2
  | literal text => cases h
  | group delimiter body => cases h

theorem operatorMarks {marks : List Char} (h : marks.all (fun c => isMark c && c != '/') = true) :
    EachLeaf P (operatorMarks marks) := by
  induction marks with
  | nil => exact eachLeaf_nil
  | cons c marks ih =>
      simp only [List.all_cons, Bool.and_eq_true, bne_iff_ne] at h
      obtain ⟨⟨hc, hslash⟩, hmarks⟩ := h
      cases marks with
      | nil => exact eachLeaf_mark.mpr (hP.mark c _ hc hslash)
      | cons d marks =>
          have hsplit : Source.operatorMarks (c :: d :: marks) =
              [.mark c .joint] ++ Source.operatorMarks (d :: marks) := rfl
          rw [hsplit, eachLeaf_append]
          exact ⟨eachLeaf_mark.mpr (hP.mark c _ hc hslash), ih (by simpa using hmarks)⟩

theorem code {template : String} (h : isTemplate template = true) : EachLeaf P (code template) := by
  rw [Source.code, eachLeaf_flatMap]
  intro piece hpiece
  have hfine := List.all_eq_true.mp h piece hpiece
  cases piece with
  | nil => exact eachLeaf_nil
  | cons c piece =>
      rw [isTemplatePiece, List.isEmpty_cons, Bool.false_or, Bool.or_eq_true] at hfine
      rw [templatePiece]
      split
      · next hstart =>
          have hname : isIdentifierWord (c :: piece) = true := by
            refine hfine.resolve_right fun hmarks => ?_
            rw [List.all_cons, isMark_start hstart] at hmarks
            cases hmarks
          refine eachLeaf_word.mpr (hP.word _ ?_)
          rwa [String.toList_ofList]
      · next hstart =>
          refine hP.operatorMarks (hfine.resolve_left fun hname => hstart ?_)
          rw [isIdentifierWord, Bool.and_eq_true] at hname
          exact hname.1

theorem documentation {text : String} (h : text.toList.getLast? ≠ some '_') :
    EachLeaf P (documentation text) := by
  simp (disch := exact isTemplate_of_eq rfl (by decide)) only [Source.documentation,
    eachLeaf_append, eachLeaf_brackets, eachLeaf_textLiteral, hP.code, true_and]
  exact hP.literal text h

theorem fixedDocumentation {text : String} (h : '"' ∉ text.toList) (hr : '\r' ∉ text.toList) :
    EachLeaf P (fixedDocumentation text) := by
  simp (disch := exact isTemplate_of_eq rfl (by decide)) only [Source.fixedDocumentation,
    eachLeaf_append, eachLeaf_brackets, hP.code, true_and]
  intro t ht
  obtain rfl := List.mem_singleton.mp ht
  exact hP.raw text h hr

theorem ordinalLiteral (n : Nat) : EachLeaf P (ordinalLiteral n) := by
  intro t ht
  obtain rfl := List.mem_singleton.mp ht
  exact hP.ordinal n

end Templated

/-- Whether a placeholder's literal that begins in a leaf ends in it. -/
structure Tight (t : Token) : Prop where
  closed : Closed t.text.toList
  joint : t.isJoint = true → '"' ∉ t.text.toList

/-- Whether a text is closed, and has a placeholder's literal within the given leaves only. -/
structure Shows (body : List Char) (leaves : List Token) (x : List Char) : Prop where
  closed : Closed x
  within : quoted body <:+: x → ∃ t ∈ leaves, quoted body <:+: t.text.toList

section Printed

variable {body : List Char}

theorem Shows.bare {x : List Char} (h : '"' ∉ x) : Shows body [] x where
  closed := closed_of_quote_notMem h
  within hi := absurd hi (not_infix_of_quote_notMem h)

theorem Shows.leaf {t : Token} (h : Tight t) : Shows body [t] t.text.toList where
  closed := h.closed
  within hi := ⟨t, List.mem_singleton_self t, hi⟩

variable (hm : Marked body)

include hm

theorem Shows.append {l k : List Token} {a b : List Char} (ha : Shows body l a)
    (hb : Shows body k b) (hgoes : '"' ∉ a ∨ b.head? ≠ some '_') :
    Shows body (l ++ k) (a ++ b) where
  closed := ha.closed.append hb.closed hgoes
  within hi := by
    rcases (apart_of_closed hm ha.closed hgoes).infix_append hi with hi | hi
    · obtain ⟨t, ht, hi⟩ := ha.within hi
      exact ⟨t, List.mem_append_left k ht, hi⟩
    · obtain ⟨t, ht, hi⟩ := hb.within hi
      exact ⟨t, List.mem_append_right l ht, hi⟩

/-- A text between bare ones. -/
theorem Shows.around {l : List Token} {x before behind : List Char} (h : Shows body l x)
    (hbefore : '"' ∉ before) (hbehind : '"' ∉ behind) (hhead : behind.head? ≠ some '_') :
    Shows body l (before ++ x ++ behind) := by
  have hwhole := ((Shows.bare hbefore).append hm h (Or.inl hbefore)).append hm
    (Shows.bare hbehind) (Or.inr hhead)
  rwa [List.nil_append, List.append_nil] at hwhole

mutual

/-- The text of a tree with tight leaves shows what its leaves show. -/
theorem shows_text : ∀ t : Token, (∀ l ∈ t.leaves, Tight l) → Shows body t.leaves t.text.toList
  | .word w, h => Shows.leaf (h (.word w) List.mem_cons_self)
  | .mark c s, h => Shows.leaf (h (.mark c s) List.mem_cons_self)
  | .literal l, h => Shows.leaf (h (.literal l) List.mem_cons_self)
  | .group d inside, h => by
      have hinside := shows_textAll inside h
      cases d with
      | parenthesis =>
          rw [leaves, Token.text, String.toList_append, String.toList_append]
          exact hinside.around hm (by decide) (by decide) (by decide)
      | bracket =>
          rw [leaves, Token.text, String.toList_append, String.toList_append]
          exact hinside.around hm (by decide) (by decide) (by decide)
      | brace =>
          rw [leaves, Token.text, String.toList_append, String.toList_append]
          split
          · exact hinside.around hm (by decide) (by decide) (by decide)
          · exact hinside.around hm (by decide) (by decide) (by decide)

/-- The text of trees with tight leaves shows what their leaves show. -/
theorem shows_textAll : ∀ tokens : List Token, (∀ l ∈ leavesAll tokens, Tight l) →
    Shows body (leavesAll tokens) (Token.textAll tokens).toList
  | [], _ => Shows.bare List.not_mem_nil
  | [t], h => by
      rw [leavesAll, leavesAll, List.append_nil] at *
      exact shows_text t h
  | t :: u :: rest, h => by
      have ht := shows_text t fun l hl => h l (List.mem_append_left _ hl)
      have hrest := shows_textAll (u :: rest) fun l hl => h l (List.mem_append_right _ hl)
      rw [leavesAll, Token.textAll]
      cases hjoint : t.isJoint with
      | true =>
          have hleaf : t.leaves = [t] := by
            cases t with
            | mark c s => rfl
            | word w => rfl
            | literal l => rfl
            | group d body => cases hjoint
          have hmem : t ∈ t.leaves := by rw [hleaf, List.mem_singleton]
          have hbare := (h t (List.mem_append_left _ hmem)).joint hjoint
          simpa using ht.append hm hrest (Or.inl hbare)
      | false =>
          have hspace := (Shows.bare (x := [' ']) (by decide)).append hm hrest (Or.inl (by decide))
          simpa using ht.append hm hspace (Or.inr (by simp))

end

omit hm

mutual

/-- A leaf stands in the text of its tree. -/
theorem infix_text : ∀ t : Token, ∀ l ∈ t.leaves, l.text.toList <:+: t.text.toList
  | .word w, l, h => by
      rw [List.mem_singleton.mp h]
  | .mark c s, l, h => by
      rw [List.mem_singleton.mp h]
  | .literal x, l, h => by
      rw [List.mem_singleton.mp h]
  | .group d inside, l, h => by
      have hinside := infix_textAll inside l h
      cases d with
      | parenthesis =>
          rw [Token.text, String.toList_append, String.toList_append]
          exact hinside.trans (List.infix_append _ _ _)
      | bracket =>
          rw [Token.text, String.toList_append, String.toList_append]
          exact hinside.trans (List.infix_append _ _ _)
      | brace =>
          rw [Token.text, String.toList_append, String.toList_append]
          exact hinside.trans (List.infix_append _ _ _)

/-- A leaf stands in the text of its trees. -/
theorem infix_textAll : ∀ tokens : List Token, ∀ l ∈ leavesAll tokens,
    l.text.toList <:+: (Token.textAll tokens).toList
  | [], _, h => absurd h List.not_mem_nil
  | [t], l, h => by
      rw [leavesAll, leavesAll, List.append_nil] at h
      exact infix_text t l h
  | t :: u :: rest, l, h => by
      rw [leavesAll, List.mem_append] at h
      rw [Token.textAll, String.toList_append, String.toList_append]
      rcases h with h | h
      · rw [List.append_assoc]
        exact (infix_text t l h).trans (List.prefix_append _ _).isInfix
      · exact (infix_textAll (u :: rest) l h).trans (List.suffix_append _ _).isInfix

end

/-- A placeholder's literal that stands in no leaf of tight tokens does not stand in their text. -/
theorem not_infix_textAll (hm : Marked body) {tokens : List Token} (h : EachLeaf Tight tokens)
    (hall : EachLeaf (fun l => ¬ quoted body <:+: l.text.toList) tokens) :
    ¬ quoted body <:+: (Token.textAll tokens).toList := by
  intro hi
  obtain ⟨l, hl, hi⟩ := (shows_textAll hm tokens h).within hi
  exact hall l hl hi

end Printed

section Leniency

theorem tight_stringLiteral (text : String) : Tight (.literal (stringLiteral text)) where
  closed := by
    rw [Token.text, stringLiteral, String.toList_ofList]
    exact closed_concat_quote _
  joint := nofun

/-- The leaves of templates are tight. -/
theorem lenient_tight : Lenient Tight where
  bare _ h := ⟨closed_of_quote_notMem h, fun _ => h⟩
  literal text _ := tight_stringLiteral text
  raw text _ := {
    closed := by
      rw [Token.text, String.toList_append]
      exact closed_concat_quote _
    joint := nofun }

/-- The leaves of templates hold no placeholder's literal. -/
theorem lenient_spared {body : List Char} (hm : Marked body) :
    Lenient fun l => ¬ quoted body <:+: l.text.toList where
  bare _ h := not_infix_of_quote_notMem h
  literal text h := by
    intro hi
    rw [Token.text, quoted_infix_stringLiteral_iff hm, quoted_suffix_stringLiteral_iff] at hi
    obtain ⟨before, heq⟩ := hi
    have hlast : ('"' :: literalBody text.toList).getLast? = some '_' := by
      rw [← heq, List.getLast?_append, List.getLast?_cons, hm.last]
      rfl
    rw [List.getLast?_cons] at hlast
    cases hends : (literalBody text.toList).getLast? with
    | none =>
        rw [hends] at hlast
        exact absurd hlast (by decide)
    | some c =>
        rw [hends] at hlast
        exact getLast?_literalBody h (hends.trans hlast)
  raw text h := by
    intro hi
    have hraw : (Token.literal ("r\" " ++ text ++ "\"")).text.toList =
        'r' :: quoted (' ' :: text.toList) := by
      simp [Token.text, quoted]
    rw [hraw, List.infix_cons_iff] at hi
    rcases hi with hi | hi
    · exact absurd (List.cons_prefix_cons.mp hi).1 (by decide)
    · have hinside : '"' ∉ ' ' :: text.toList := by
        rw [List.mem_cons, not_or]
        exact ⟨by decide, h⟩
      have hbody : body = ' ' :: text.toList := eq_of_quoted_infix hm.quote hinside hi
      have hhead := hm.head
      rw [hbody] at hhead
      exact absurd (Option.some.inj hhead) (by decide)

end Leniency

end Rowsmith.Source
