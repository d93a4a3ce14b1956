import Rowsmith.Proofs.Source.Legible
import Rowsmith.Proofs.Unit.Batch
import Rowsmith.Proofs.Unit.Frame

/-!
# Reading sources again

The source of a unit has tokens again when its statements are delivered, nothing else is
substituted, and what is taken over from the declaration is legible: the texts of commands are raw
literals then, and all around them are leaves of templates and literals of names.
-/

namespace Rowsmith.Source

/-- A raw literal is read before a text that is. -/
theorem IsRawLiteral.reads {literal text : List Char} (h : IsRawLiteral literal text)
    {groups : List Delimiter} {rest : List Char} (hbehind : Parted rest)
    (hrest : Reads groups rest) : Reads groups (literal ++ rest) := by
  have hlex := h.exists_lexLeaf hbehind.ends
  obtain ⟨n, cs, rfl, -⟩ := h
  exact hrest.leaf (by decide) hlex

end Rowsmith.Source

namespace Rowsmith.GeneratedUnit
open Accessor Outcome Schema Source Sql Text Token Rowsmith.Unit

section Parts

variable {P : Token → Prop} (u : GeneratedUnit)

/-- The leaves around the texts of commands are leaves of the unit without these texts. -/
theorem eachLeaf_around (h : EachLeaf P u.cleared.tokens) :
    EachLeaf P u.tokens.dropLast ∧ EachLeaf P u.otherMembers ∧ ∀ m ∈ u.methods,
      EachLeaf P (m.tokens u.context).dropLast ∧
        EachLeaf P (openingTokens u.context.runtime u.context.table.name m.operation.methodName) ∧
        EachLeaf P (m.closingTokens u.context) := by
  have htokens : u.cleared.tokens = u.cleared.tokens.dropLast ++ braces u.cleared.members := by
    simp only [tokens, braces, List.dropLast_concat]
  have hmembers : u.cleared.members = u.otherMembers ++
      (u.methods.map Method.cleared).flatMap (·.tokens u.context) := u.cleared.members_eq.2
  rw [htokens, eachLeaf_append, eachLeaf_braces, dropLast_cleared, hmembers, eachLeaf_append,
    eachLeaf_flatMap, List.forall_mem_map] at h
  obtain ⟨hhead, hother, hmethods⟩ := h
  refine ⟨hhead, hother, fun m hm => ?_⟩
  obtain ⟨head, -, hsplit⟩ := m.cleared.exists_head u.context
  have hdrop : (m.cleared.tokens u.context).dropLast = head := by
    rw [hsplit, braces, List.dropLast_concat]
  have hm := hmethods m hm
  rw [hsplit, Method.bodyOf_eq, eachLeaf_append, eachLeaf_braces, eachLeaf_append,
    eachLeaf_append] at hm
  rw [← dropLast_tokens_cleared, hdrop]
  exact ⟨hm.1, hm.2.1, hm.2.2.2⟩

end Parts

section Sources

variable {u : GeneratedUnit} {groups : List Delimiter} {rest : List Char}

/-- A method with the text of its command is read before a text that is. -/
theorem reads_method {m : Method} {c : Context} {literal text : List Char}
    (hliteral : IsRawLiteral literal text) (hhead : EachLeaf Legible (m.tokens c).dropLast)
    (hopening : EachLeaf Legible (openingTokens c.runtime c.table.name m.operation.methodName))
    (hclosing : EachLeaf Legible (m.closingTokens c)) (hrest : Reads groups rest) :
    Reads groups ((m.textBefore c).toList ++
      '(' :: (literal ++ ')' :: ((m.textBehind c).toList ++ rest))) := by
  have hend : Reads (.brace :: groups) (' ' :: '\x7d' :: rest) := (hrest.closing rfl).space
  have hbehind := reads_textAll _ hclosing (.space _) hend
  have hparens : Reads (.parenthesis :: .brace :: groups)
      (')' :: ' ' :: ((textAll (m.closingTokens c)).toList ++ ' ' :: '\x7d' :: rest)) :=
    hbehind.space.closing rfl
  have hargument := (hliteral.reads (.parenthesis _) hparens).opening (c := '(') rfl
  have hbody := (reads_textAll _ hopening (.space _) hargument.space).space
  have hwhole := reads_textAll _ hhead (.space _) (hbody.opening (c := '\x7b') rfl).space
  simpa [Method.textBefore, Method.textBehind] using hwhole

/-- Methods with the texts of their commands are read before a text that is. -/
theorem reads_methods {c : Context} {literal : Method → List Char} {ms : List Method}
    (hms : ∀ m ∈ ms, IsRawLiteral (literal m) m.sql.toList ∧
      EachLeaf Legible (m.tokens c).dropLast ∧
      EachLeaf Legible (openingTokens c.runtime c.table.name m.operation.methodName) ∧
      EachLeaf Legible (m.closingTokens c)) (hrest : Reads groups rest) :
    Reads groups ((ms.flatMap fun m => ' ' :: ((m.textBefore c).toList ++
      '(' :: (literal m ++ ')' :: (m.textBehind c).toList))) ++ rest) := by
  induction ms with
  | nil => exact hrest
  | cons m ms ih =>
      obtain ⟨hliteral, hhead, hopening, hclosing⟩ := hms m List.mem_cons_self
      have hlater := ih fun m hm => hms m (List.mem_cons_of_mem _ hm)
      have hm := (reads_method hliteral hhead hopening hclosing hlater).space
      simpa using hm

/-- A unit with raw literals for the texts of its commands is read. -/
theorem reads_fill (h : EachLeaf Legible u.cleared.tokens) {literal : Method → List Char}
    (hliteral : ∀ m ∈ u.methods, IsRawLiteral (literal m) m.sql.toList) :
    Reads [] (fill literal u.front u.gaps) := by
  obtain ⟨hhead, hother, hmethods⟩ := u.eachLeaf_around h
  have hend : Reads [.brace] (" \x7d".toList ++ []) := (Reads.nil.closing rfl).space
  have hlegible : ∀ m ∈ u.methods, IsRawLiteral (literal m) m.sql.toList ∧
      EachLeaf Legible (m.tokens u.context).dropLast ∧
      EachLeaf Legible (openingTokens u.context.runtime u.context.table.name
        m.operation.methodName) ∧ EachLeaf Legible (m.closingTokens u.context) :=
    fun m hm => ⟨hliteral m hm, hmethods m hm⟩
  have hms := reads_methods hlegible hend
  have hstart : Parted ((u.methods.flatMap fun m => ' ' :: ((m.textBefore u.context).toList ++
      '(' :: (literal m ++ ')' :: (m.textBehind u.context).toList))) ++ (" \x7d".toList ++ [])) := by
    cases u.methods with
    | nil => exact .space _
    | cons m ms => exact .space _
  have hmembers := (reads_textAll _ hother hstart hms).space.opening (c := '\x7b') rfl
  have hwhole := reads_textAll _ hhead (.space _) hmembers.space
  rw [front, gaps, fill_gapsFrom, startText]
  simpa using hwhole

/-- The source of a unit begins with the mark of an attribute. -/
theorem exists_fill_eq (literal : Method → List Char) :
    ∃ cs, fill literal u.front u.gaps = '#' :: cs := by
  obtain ⟨ts, hts⟩ : ∃ ts, u.tokens.dropLast = .mark '#' .alone :: ts := by
    simp only [tokens, braces, List.dropLast_concat]
    exact ⟨_, rfl⟩
  obtain ⟨text, htext⟩ : ∃ text, (textAll (.mark '#' .alone :: ts)).toList = '#' :: text := by
    cases ts with
    | nil => exact ⟨_, rfl⟩
    | cons v ts => exact ⟨_, by rw [textAll, String.toList_append, String.toList_append]; rfl⟩
  rw [front, gaps, fill_gapsFrom, startText, hts, String.toList_append, String.toList_append, htext]
  exact ⟨_, rfl⟩

end Sources

section Tables

variable {t : Table} {visibility : String} {runtime : List Token} {u : GeneratedUnit}
  (h : ofTable t visibility runtime = .ok u)

include h

/-- A unit of a table that allows for its statements is read again, if what is taken over is
legible and nothing but arguments is substituted. -/
theorem exists_reread (hd : Deliverable t) (hg : EachLeaf Legible u.given) (hk : u.KeepsOthers) :
    ∃ tokens, u.reread = .ok tokens := by
  have hleaves : EachLeaf Legible u.cleared.tokens := by
    rw [eachLeaf_tokens_cleared u templated_legible (getLast?_documentation h)]
    exact ⟨hg, fun _ _ name _ => legible_stringLiteral name⟩
  have hreads : Reads [] u.render.toList := by
    rw [hk]
    exact reads_fill hleaves fun m hm => isRawLiteral_argument h hd hm
  obtain ⟨cs, hcs⟩ := exists_fill_eq (u := u)
    fun m => substituteChars (stringLiteral m.placeholder).toList u.insertions
  obtain ⟨tokens, htokens⟩ := exists_tokenize (hk.trans hcs) (by decide) hreads
  exact ⟨tokens, by rw [reread, htokens]⟩

/-- Where only identifiers and marks are taken over, and no name that is written out ends as a
placeholder, a unit of a table that allows for its statements is read again. -/
theorem exists_reread_of_simple (hd : Deliverable t)
    (hg : EachLeaf (fun l => l.isSimple = true) u.given)
    (hnames : ∀ name ∈ t.writtenNames, ∀ o : Operation,
      ¬ quoted (o.placeholder t.className).toList <:+ (stringLiteral name).toList) :
    ∃ tokens, u.reread = .ok tokens := by
  have hq := quote_notMem_of_plain hd.plain
  have hgiven : ∀ {P : Token → Prop}, Templated P → EachLeaf P u.given :=
    fun hP l hl => hP.of_isSimple (hg l hl)
  have hundisturbed : Undisturbed t u := {
    names := hnames
    given := fun l hl o => hgiven (lenient_spared (marked_placeholder hq o)).templated l hl }
  exact exists_reread h hd (hgiven templated_legible)
    (keepsOthers_of_undisturbed h hq (hgiven lenient_tight.templated) hundisturbed)

end Tables

end Rowsmith.GeneratedUnit
