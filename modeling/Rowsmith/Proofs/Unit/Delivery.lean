import Rowsmith.Proofs.Accessor.Method
import Rowsmith.Proofs.Schema.Extraction
import Rowsmith.Proofs.Text.Escape
import Rowsmith.Proofs.Unit.Printing

/-!
# Delivery of statements

A unit delivers its statements when each method passes the text of its statement to its
command as a raw literal. That is so exactly when the literals of the placeholders print
as they are searched for, no text of a statement holds the literal of a later placeholder,
and raw literals can hold the texts.
-/

namespace Rowsmith.GeneratedUnit
open Accessor Schema Source Sql Text Rowsmith.Unit

/-- Whether the text of a unit delivers every statement: the argument of each method is a raw
literal of the text of its statement, and substitutions elsewhere touch no argument. -/
def Delivers (u : GeneratedUnit) : Prop :=
  ∃ literal : Method → List Char, (∀ m ∈ u.methods, IsRawLiteral (literal m) m.sql.toList) ∧
    u.render.toList = fill literal (substituteChars u.front u.insertions)
      (u.gaps.map fun p => (p.1, substituteChars p.2 u.insertions))

/-- The tables whose units deliver every statement. -/
structure Deliverable (t : Table) : Prop where
  /-- The name of the class prints as itself. -/
  plain : Plain t.className.toList
  /-- No statement holds the literal of a placeholder that is replaced after its own. -/
  apart : Operation.all.Pairwise fun o later =>
    ¬ quoted (later.placeholder t.className).toList <:+: (t.statement o).text.toList
  fenced : ∀ o, fenceLength (t.statement o).text.toList ≤ 255
  returns : ∀ o, returnsPaired (t.statement o).text.toList = true

section Placeholders

variable {className : String}

/-- What a placeholder begins with, up to the name of the class. -/
def stem (o : Operation) : List Char := ("__SQL_" ++ o.tag ++ "_").toList

/-- What a placeholder ends with, from the name of the class on. -/
def ending (className : String) : List Char := className.toList ++ ['_', '_']

theorem toList_placeholder (o : Operation) (className : String) :
    (o.placeholder className).toList = stem o ++ ending className := by
  rw [Operation.placeholder, stem, ending]
  simp only [String.toList_append, List.append_assoc]
  rfl

theorem plain_stem (o : Operation) : Plain (stem o) := by
  have hall : ∀ o ∈ Operation.all, Plain (stem o) := by decide
  exact hall o (Operation.mem_all o)

theorem plain_ending_iff : Plain (ending className) ↔ Plain className.toList := by
  have hend : Plain ['_', '_'] := by decide
  constructor
  · exact fun h c hc => h c (List.mem_append_left _ hc)
  · intro h c hc
    rcases List.mem_append.mp hc with hc | hc
    · exact h c hc
    · exact hend c hc

theorem quote_notMem_ending (h : '"' ∉ className.toList) : '"' ∉ ending className := by
  rw [ending, List.mem_append, not_or]
  exact ⟨h, by decide⟩

theorem marked_placeholder (h : '"' ∉ className.toList) (o : Operation) :
    Marked (o.placeholder className).toList where
  quote := by
    rw [toList_placeholder, List.mem_append, not_or]
    exact ⟨quote_notMem_of_plain (plain_stem o), quote_notMem_ending h⟩
  head := by
    rw [toList_placeholder, stem, String.append_assoc, String.toList_append, List.append_assoc]
    rfl
  last := by
    rw [toList_placeholder, ending]
    simp

/-- The literal of a placeholder is its stem and the escaped rest. -/
theorem toList_stringLiteral_placeholder (o : Operation) (className : String) :
    (stringLiteral (o.placeholder className)).toList =
      quoted (stem o ++ literalBody (ending className)) := by
  rw [stringLiteral, String.toList_ofList, toList_placeholder,
    literalBody_append_of_plain (plain_stem o)]
  rfl

theorem placeholder_injective {o o' : Operation} {className : String}
    (h : (o.placeholder className).toList = (o'.placeholder className).toList) : o = o' := by
  rw [toList_placeholder, toList_placeholder, List.append_left_inj] at h
  cases o <;> cases o' <;> first | rfl | exact absurd h (by decide)

/-- The literal of the first placeholder is searched for only if its class prints as itself. -/
theorem plain_of_placeholder_eq {o : Operation}
    (h : (o.placeholder className).toList =
      stem .createTable ++ literalBody (ending className)) : Plain className.toList := by
  rw [← plain_ending_iff]
  rw [toList_placeholder] at h
  have hother : ∀ c, (stem o ++ ending className)[6]? = some c → c = 'C' := by
    intro c hc
    rw [h] at hc
    exact (Option.some.inj hc).symm
  cases o with
  | createTable =>
      have hbody : literalBody (ending className) = [] ++ ending className :=
        (List.append_cancel_left h).symm
      exact plain_of_literalBody_eq (fun _ hc => absurd hc List.not_mem_nil) hbody
  | createTableIfNotExists =>
      have hstem : stem .createTableIfNotExists =
          stem .createTable ++ "IF_NOT_EXISTS_".toList := rfl
      have hplain : Plain "IF_NOT_EXISTS_".toList := fun c hc =>
        plain_stem .createTableIfNotExists c (hstem ▸ List.mem_append_right _ hc)
      rw [hstem, List.append_assoc] at h
      exact plain_of_literalBody_eq hplain (List.append_cancel_left h).symm
  | insert => exact absurd (hother 'I' rfl) (by decide)
  | upsert => exact absurd (hother 'U' rfl) (by decide)
  | update => exact absurd (hother 'U' rfl) (by decide)
  | delete => exact absurd (hother 'D' rfl) (by decide)
  | find => exact absurd (hother 'F' rfl) (by decide)

end Placeholders

section Statements

/-- The text of a statement begins with a capital letter. -/
theorem head?_text (s : Statement) : s.text.toList.head? ≠ some '_' := by
  have happend : ∀ (before behind : String) (c : Char), before.toList.head? = some c →
      (before ++ behind).toList.head? = some c := by
    intro before behind c h
    rw [String.toList_append, List.head?_append, h, Option.some_or]
  have hletter : ∃ c, s.text.toList.head? = some c ∧ c ≠ '_' := by
    cases s with
    | create ifAbsent table columns uniques =>
        refine ⟨'C', ?_, by decide⟩
        iterate 5 apply happend
        rfl
    | insert table columns conflict =>
        refine ⟨'I', ?_, by decide⟩
        iterate 8 apply happend
        rfl
    | update table assigned key =>
        refine ⟨'U', ?_, by decide⟩
        iterate 6 apply happend
        rfl
    | delete table key =>
        refine ⟨'D', ?_, by decide⟩
        iterate 4 apply happend
        rfl
    | find table key =>
        refine ⟨'S', ?_, by decide⟩
        iterate 4 apply happend
        rfl
  obtain ⟨c, hc, hne⟩ := hletter
  rw [hc]
  exact fun h => hne (Option.some.inj h)

/-- The text of a statement ends with a semicolon. -/
theorem getLast?_text (s : Statement) : s.text.toList.getLast? = some ';' := by
  have hend : ∀ behind : String, behind.toList.getLast? = some ';' → ∀ before : String,
      (before ++ behind).toList.getLast? = some ';' := fun _ => getLast?_toList_append
  cases s with
  | create ifAbsent table columns uniques => exact hend "\n);" rfl _
  | insert table columns conflict => exact hend ";" rfl _
  | update table assigned key => exact hend ";" rfl _
  | delete table key => exact hend ";" rfl _
  | find table key => exact hend ";" rfl _

end Statements

/-- The substitution of the text of a method's statement. -/
def insertionOf (m : Method) : Insertion := { placeholder := m.placeholder, sql := m.sql }

section Arguments

variable {t : Table} {visibility : String} {runtime : List Token} {u : GeneratedUnit}
  (h : ofTable t visibility runtime = .ok u)

include h

theorem operations_of_ofTable : u.methods.map (·.operation) = Operation.all :=
  (methods_serve (methods_of_ofTable h).1).1

theorem serves_of_ofTable {m : Method} (hm : m ∈ u.methods) : m.Serves t :=
  (methods_serve (methods_of_ofTable h).1).2 m hm

theorem sql_of_ofTable {m : Method} (hm : m ∈ u.methods) :
    m.sql = (t.statement m.operation).text := by
  rw [Method.sql, (serves_of_ofTable h hm).statement]

theorem marked_of_ofTable (hq : '"' ∉ t.className.toList) {m : Method} (hm : m ∈ u.methods) :
    Marked m.placeholder.toList := by
  rw [(serves_of_ofTable h hm).placeholder]
  exact marked_placeholder hq m.operation

/-- Where the name of the class has no quote, substitutions go through the arguments one by
one. -/
theorem render_eq (hq : '"' ∉ t.className.toList) :
    u.render.toList =
      fill (fun m => substituteChars (stringLiteral m.placeholder).toList u.insertions)
        (substituteChars u.front u.insertions)
        (u.gaps.map fun p => (p.1, substituteChars p.2 u.insertions)) := by
  have hmarked : ∀ i ∈ u.insertions, Marked i.placeholder.toList := by
    intro i hi
    obtain ⟨m, hm, rfl⟩ := List.mem_map.mp hi
    exact marked_of_ofTable h hq hm
  have hsealed : ∀ p ∈ u.gaps, Sealed (stringLiteral p.1.placeholder).toList := by
    intro p _
    rw [stringLiteral, String.toList_ofList]
    exact sealed_quoted _
  have hrender : u.render.toList = substituteChars (Token.textAll u.tokens).toList u.insertions :=
    String.toList_ofList
  rw [hrender, toList_textAll_tokens]
  exact @substituteChars_fill u.insertions Method (fun m => (stringLiteral m.placeholder).toList)
    u.gaps hmarked hsealed u.front

/-- A placeholder is passed over until its own turn, and then its statement stands in its
place. -/
theorem argument_eq (hp : Plain t.className.toList) {before after : List Method} {m : Method}
    (hsplit : u.methods = before ++ m :: after) :
    substituteChars (stringLiteral m.placeholder).toList u.insertions =
      substituteChars (fenced (fenceLength m.sql.toList) m.sql.toList)
        (after.map insertionOf) := by
  have hq := quote_notMem_of_plain hp
  have hmem : m ∈ u.methods := by simp [hsplit]
  have hquoted : (stringLiteral m.placeholder).toList = quoted m.placeholder.toList := by
    rw [(serves_of_ofTable h hmem).placeholder, toList_stringLiteral_placeholder,
      literalBody_of_plain (plain_ending_iff.mpr hp), toList_placeholder]
  have hearlier : ∀ i ∈ before.map insertionOf, ¬ i.pattern <:+: quoted m.placeholder.toList := by
    intro i hi hinfix
    obtain ⟨j, hj, rfl⟩ := List.mem_map.mp hi
    have hjmem : j ∈ u.methods := by simp [hsplit, hj]
    have heq := eq_of_quoted_infix (marked_of_ofTable h hq hjmem).quote
      (marked_of_ofTable h hq hmem).quote hinfix
    have hoperation : j.operation = m.operation := by
      apply placeholder_injective
      rw [← (serves_of_ofTable h hjmem).placeholder, ← (serves_of_ofTable h hmem).placeholder]
      exact heq
    have hnodup : (u.methods.map (·.operation)).Nodup := by
      rw [operations_of_ofTable h]
      decide
    rw [hsplit, List.map_append, List.map_cons, List.nodup_append] at hnodup
    exact hnodup.2.2 _ (List.mem_map_of_mem hj) _ List.mem_cons_self hoperation
  have hinsertions : u.insertions = before.map insertionOf ++ insertionOf m ::
      after.map insertionOf := by
    have hall : u.insertions = u.methods.map insertionOf := rfl
    rw [hall, hsplit, List.map_append, List.map_cons]
  rw [hinsertions, hquoted]
  exact substituteChars_pattern (i := insertionOf m) hearlier _

/-- Where the name of the class does not print as itself, the first placeholder stays. -/
theorem argument_eq_self (hq : '"' ∉ t.className.toList) (hp : ¬ Plain t.className.toList)
    {m : Method} (hm : m ∈ u.methods) (ho : m.operation = .createTable) :
    substituteChars (stringLiteral m.placeholder).toList u.insertions =
      (stringLiteral m.placeholder).toList := by
  apply substituteChars_eq_self
  intro i hi hinfix
  obtain ⟨j, hj, rfl⟩ := List.mem_map.mp hi
  have hliteral : '"' ∉ stem .createTable ++ literalBody (ending t.className) := by
    rw [List.mem_append, not_or]
    exact ⟨quote_notMem_of_plain (plain_stem _),
      quote_notMem_literalBody (quote_notMem_ending hq)⟩
  rw [(serves_of_ofTable h hm).placeholder, ho, toList_stringLiteral_placeholder] at hinfix
  have heq := eq_of_quoted_infix (marked_of_ofTable h hq hj).quote hliteral hinfix
  rw [(serves_of_ofTable h hj).placeholder] at heq
  exact hp (plain_of_placeholder_eq heq)

/-- The literal of a later placeholder in the text of a statement is one in its argument. -/
theorem infix_argument_iff (hq : '"' ∉ t.className.toList) {m j : Method} (hm : m ∈ u.methods)
    (hj : j ∈ u.methods) (n : Nat) :
    (insertionOf j).pattern <:+: fenced n m.sql.toList ↔
      quoted (j.operation.placeholder t.className).toList <:+:
        (t.statement m.operation).text.toList := by
  have hlast : m.sql.toList.getLast? ≠ some '_' := by
    rw [Method.sql, getLast?_text]
    decide
  rw [← (serves_of_ofTable h hj).placeholder, ← sql_of_ofTable h hm]
  constructor
  · exact infix_of_infix_fenced (marked_of_ofTable h hq hj) (head?_text m.statement) hlast
  · exact fun hi => hi.trans (infix_fenced n m.sql.toList)

/-- Where a table allows for it, the argument of each method is the raw literal of its statement. -/
theorem isRawLiteral_argument (hd : Deliverable t) {m : Method} (hm : m ∈ u.methods) :
    IsRawLiteral (substituteChars (stringLiteral m.placeholder).toList u.insertions)
      m.sql.toList := by
  have hq := quote_notMem_of_plain hd.plain
  obtain ⟨before, after, hsplit⟩ := List.append_of_mem hm
  have hapart := hd.apart
  rw [← operations_of_ofTable h, List.pairwise_map, hsplit, List.pairwise_append] at hapart
  have hlater : ∀ i ∈ after.map insertionOf,
      ¬ i.pattern <:+: fenced (fenceLength m.sql.toList) m.sql.toList := by
    intro i hi
    obtain ⟨j, hj, rfl⟩ := List.mem_map.mp hi
    rw [infix_argument_iff h hq hm (by simp [hsplit, hj])]
    exact (List.pairwise_cons.mp hapart.2.1).1 j hj
  rw [argument_eq h hd.plain hsplit, substituteChars_eq_self hlater]
  apply isRawLiteral_fenced
  · rw [sql_of_ofTable h hm]
    exact hd.fenced m.operation
  · rw [sql_of_ofTable h hm]
    exact hd.returns m.operation

theorem delivers_of_deliverable (hd : Deliverable t) : u.Delivers :=
  ⟨_, fun _ hm => isRawLiteral_argument h hd hm, render_eq h (quote_notMem_of_plain hd.plain)⟩

theorem plain_of_delivers (hq : '"' ∉ t.className.toList) (hd : u.Delivers) :
    Plain t.className.toList := by
  obtain ⟨literal, hraw, hrender⟩ := hd
  by_contra hp
  have hoperations := operations_of_ofTable h
  obtain ⟨m, ms, hms, ho, -⟩ := List.map_eq_cons_iff.mp hoperations
  have hm : m ∈ u.methods := by simp [hms]
  obtain ⟨⟨first, behind⟩, gaps, hgaps, hfirst, -⟩ :=
    List.map_eq_cons_iff.mp (u.map_fst_gaps.trans hms)
  obtain rfl : first = m := hfirst
  rw [render_eq h hq, hgaps, List.map_cons] at hrender
  have hgap := eq_of_fill_cons_eq hrender
  obtain ⟨n, hliteral, -⟩ := (hraw first hm).exists_fence
  rw [argument_eq_self h hq hp hm ho, hliteral, stringLiteral, String.toList_ofList] at hgap
  exact absurd (List.cons.inj hgap).1 (by decide)

/-- An argument that is read as the text of its statement is the raw literal of that text, and
no later substitution has touched it. -/
theorem argument_of_isRawLiteral (hp : Plain t.className.toList) {before after : List Method}
    {m : Method} (hsplit : u.methods = before ++ m :: after) {literal : List Char}
    (hraw : IsRawLiteral literal m.sql.toList) {s r : List Char}
    (heq : substituteChars (stringLiteral m.placeholder).toList u.insertions ++ s =
      literal ++ r) :
    substituteChars (stringLiteral m.placeholder).toList u.insertions = literal ∧
      (∀ i ∈ after.map insertionOf,
        ¬ i.pattern <:+: fenced (fenceLength m.sql.toList) m.sql.toList) ∧
      fenceLength m.sql.toList ≤ 255 ∧ returnsPaired m.sql.toList = true := by
  obtain ⟨n, rfl, hn, hr⟩ := hraw.exists_fence
  rw [argument_eq h hp hsplit] at heq ⊢
  obtain ⟨rfl, hself, hlater⟩ := eq_of_substituteChars_fenced heq
  exact ⟨hself, hlater, hn, hr⟩

/-- A unit that delivers leaves the literal of every statement whole. -/
theorem statement_of_delivers (hq : '"' ∉ t.className.toList) (hd : u.Delivers)
    {before after : List Method} {m : Method} (hsplit : u.methods = before ++ m :: after) :
    (∀ i ∈ after.map insertionOf,
        ¬ i.pattern <:+: fenced (fenceLength m.sql.toList) m.sql.toList) ∧
      fenceLength m.sql.toList ≤ 255 ∧ returnsPaired m.sql.toList = true := by
  have hp := plain_of_delivers h hq hd
  obtain ⟨literal, hraw, hrender⟩ := hd
  have htold : ∀ p ∈ u.gaps.map fun p => (p.1, substituteChars p.2 u.insertions), ∀ s r,
      substituteChars (stringLiteral p.1.placeholder).toList u.insertions ++ s =
        literal p.1 ++ r →
      substituteChars (stringLiteral p.1.placeholder).toList u.insertions = literal p.1 := by
    intro p hmem s r heq
    obtain ⟨q, hgap, rfl⟩ := List.mem_map.mp hmem
    have hm : q.1 ∈ u.methods := u.map_fst_gaps ▸ List.mem_map_of_mem hgap
    obtain ⟨before, after, hsplit⟩ := List.append_of_mem hm
    exact (argument_of_isRawLiteral h hp hsplit (hraw q.1 hm) heq).1
  have hm : m ∈ u.methods := by simp [hsplit]
  obtain ⟨q, hgap, rfl⟩ := List.mem_map.mp (u.map_fst_gaps.symm ▸ hm)
  have heq := eq_of_fill_eq htold ((render_eq h hq).symm.trans hrender) _
    (List.mem_map_of_mem hgap)
  have hends := congrArg (· ++ []) heq
  exact (argument_of_isRawLiteral h hp hsplit (hraw q.1 hm) hends).2

theorem deliverable_of_delivers (hq : '"' ∉ t.className.toList) (hd : u.Delivers) :
    Deliverable t := by
  have hliteral : ∀ o, fenceLength (t.statement o).text.toList ≤ 255 ∧
      returnsPaired (t.statement o).text.toList = true := by
    intro o
    obtain ⟨m, hm, rfl⟩ := exists_method (methods_of_ofTable h).1 o
    obtain ⟨before, after, hsplit⟩ := List.append_of_mem hm
    rw [← sql_of_ofTable h hm]
    exact (statement_of_delivers h hq hd hsplit).2
  refine ⟨plain_of_delivers h hq hd, ?_, fun o => (hliteral o).1, fun o => (hliteral o).2⟩
  rw [← operations_of_ofTable h, List.pairwise_map, List.pairwise_iff_forall_sublist]
  intro m j hsublist
  obtain ⟨front, behind, hsplit, hfront, hbehind⟩ := List.cons_sublist_iff.mp hsublist
  obtain ⟨before, after, rfl⟩ := List.append_of_mem hfront
  have hj : j ∈ behind := List.singleton_sublist.mp hbehind
  rw [List.append_assoc, List.cons_append] at hsplit
  have hlater := (statement_of_delivers h hq hd hsplit).1 (insertionOf j)
    (List.mem_map_of_mem (List.mem_append_right after hj))
  rwa [infix_argument_iff h hq (by simp [hsplit]) (by simp [hsplit, hj])] at hlater

end Arguments

/-- A unit delivers every statement exactly when its table allows for it. Only a comment
brings a quote into the name of a class, and no such name prints as itself. -/
theorem delivers_iff_deliverable {t : Table} {visibility : String} {runtime : List Token}
    {u : GeneratedUnit} (h : ofTable t visibility runtime = .ok u) :
    Deliverable t ↔ '"' ∉ t.className.toList ∧ u.Delivers :=
  ⟨fun hd => ⟨quote_notMem_of_plain hd.plain, delivers_of_deliverable h hd⟩,
    fun hd => deliverable_of_delivers h hd.1 hd.2⟩

section Keyed

/-- A class with nothing but a key. -/
def keyed (className : String) : Declaration :=
  { name := className
    properties := [{ name := "id", type := "u64", annotations := [{ name := "primary_key" }] }] }

/-- The table of a class with nothing but a key. -/
def keyedTable (className : String) : Table :=
  { name := className, className, key := memberKey, columns := [memberKey] }

set_option maxRecDepth 100000 in
theorem deliverable_tax : Deliverable (keyedTable "Tax") where
  plain := by decide
  apart := by decide +kernel
  fenced := by
    have hall : ∀ o ∈ Operation.all,
        fenceLength ((keyedTable "Tax").statement o).text.toList ≤ 255 := by decide +kernel
    exact fun o => hall o (Operation.mem_all o)
  returns := by
    have hall : ∀ o ∈ Operation.all,
        returnsPaired ((keyedTable "Tax").statement o).text.toList = true := by decide +kernel
    exact fun o => hall o (Operation.mem_all o)

set_option maxRecDepth 100000 in
/-- The unit of a class with a plain name delivers every statement. -/
theorem delivers_tax : ∃ u, ofTable (keyedTable "Tax") "pub" (code ":: table_context") = .ok u ∧
    '"' ∉ (keyedTable "Tax").className.toList ∧ u.Delivers := by
  have hok : (ofTable (keyedTable "Tax") "pub" (code ":: table_context")).isOk = true := by
    decide
  rcases hu : ofTable (keyedTable "Tax") "pub" (code ":: table_context") with _ | u
  · rw [hu] at hok
    cases hok
  · exact ⟨u, rfl, (delivers_iff_deliverable hu).mp deliverable_tax⟩

set_option maxRecDepth 100000 in
/-- An accent that stands on its own is escaped in the literals of placeholders, so that they
are not found. -/
theorem not_delivers_accented :
    extract plainResolver (keyed "Tax\u0301") = .ok (keyedTable "Tax\u0301") ∧
      ∃ u, ofTable (keyedTable "Tax\u0301") "pub" (code ":: table_context") = .ok u ∧
        ¬ u.Delivers := by
  have hextract : extract plainResolver (keyed "Tax\u0301") =
      .ok (keyedTable "Tax\u0301") := by decide
  have hok : (ofTable (keyedTable "Tax\u0301") "pub" (code ":: table_context")).isOk = true := by
    decide
  have hquote : '"' ∉ (keyedTable "Tax\u0301").className.toList := by decide
  have hplain : ¬ Plain (keyedTable "Tax\u0301").className.toList := by decide
  rcases hu : ofTable (keyedTable "Tax\u0301") "pub" (code ":: table_context") with _ | u
  · rw [hu] at hok
    cases hok
  · exact ⟨hextract, u, rfl, fun hd => hplain (plain_of_delivers hu hquote hd)⟩

end Keyed

end Rowsmith.GeneratedUnit
