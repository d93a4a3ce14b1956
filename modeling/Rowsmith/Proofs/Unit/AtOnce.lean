import Rowsmith.Proofs.Unit.Delivery

/-!
# Substitution at once

Placeholders are replaced one after the other, and each step searches what the steps before it have
put in. A raw literal begins and ends in a way that no placeholder's literal does, though, so as long
as it holds none and no two of them share a quote, no step makes or breaks one. All steps together
are then one pass that replaces all placeholders at once, whatever their order.
-/

namespace Rowsmith.Unit
open Source Text

/-- The characters of a source with all placeholders replaced in one pass. The number counts
characters of a placeholder's literal that are still to be passed. -/
def atOnceFrom (insertions : List Insertion) : Nat → List Char → List Char
  | _, [] => []
  | passed + 1, _ :: rest => atOnceFrom insertions passed rest
  | 0, c :: rest =>
    match insertions.find? (·.pattern.isPrefixOf (c :: rest)) with
    | some i => i.literal ++ atOnceFrom insertions (i.pattern.length - 1) rest
    | none => c :: atOnceFrom insertions 0 rest

/-- The characters of a source with all placeholders replaced in one pass. -/
def atOnce (insertions : List Insertion) (source : List Char) : List Char :=
  atOnceFrom insertions 0 source

/-- One pass over a source that replaces all placeholders. -/
inductive ReplacedAtOnce (insertions : List Insertion) : List Char → List Char → Prop
  | nil : ReplacedAtOnce insertions [] []
  | found {i rest out} (hi : i ∈ insertions) (h : ReplacedAtOnce insertions rest out) :
      ReplacedAtOnce insertions (i.pattern ++ rest) (i.literal ++ out)
  | kept {c rest out} (hc : ∀ i ∈ insertions, ¬ i.pattern <+: c :: rest)
      (h : ReplacedAtOnce insertions rest out) : ReplacedAtOnce insertions (c :: rest) (c :: out)

/-- Placeholders that are told apart, none of which is found in the literal of a text. -/
structure Independent (insertions : List Insertion) : Prop where
  marked : ∀ i ∈ insertions, Marked i.placeholder.toList
  distinct : ∀ i ∈ insertions, ∀ j ∈ insertions, i.placeholder = j.placeholder → i = j
  clean : ∀ i ∈ insertions, ∀ j ∈ insertions, ¬ j.pattern <:+: i.literal

/-- Whether no two literals of placeholders share a quote. As placeholders have none inside, a shared
quote would end the first literal and begin the second. -/
def Unshared (insertions : List Insertion) (source : List Char) : Prop :=
  ∀ i ∈ insertions, ∀ j ∈ insertions,
    ¬ i.pattern ++ (j.placeholder.toList ++ ['"']) <:+: source

section Pass

variable {insertions : List Insertion}

theorem atOnceFrom_passed (passed : Nat) (cs : List Char) :
    atOnceFrom insertions passed cs = atOnce insertions (cs.drop passed) := by
  induction passed generalizing cs with
  | zero => rfl
  | succ passed ih =>
      cases cs with
      | nil => rfl
      | cons c cs => rw [atOnceFrom, ih, List.drop_succ_cons]

theorem replacedAtOnce_atOnce (insertions : List Insertion) (source : List Char) :
    ReplacedAtOnce insertions source (atOnce insertions source) := by
  induction hn : source.length using Nat.strong_induction_on generalizing source with
  | _ n ih =>
      cases source with
      | nil => exact .nil
      | cons c cs =>
          rw [atOnce, atOnceFrom]
          split
          · next i hfind =>
              have hprefix := List.find?_some hfind
              obtain ⟨rest, hrest⟩ : i.pattern <+: c :: cs := List.isPrefixOf_iff_prefix.mp hprefix
              have htail : cs = (i.placeholder.toList ++ ['"']) ++ rest :=
                (List.cons.inj hrest).2.symm
              have hbehind : cs.drop (i.pattern.length - 1) = rest := by
                rw [htail]
                exact List.drop_left' (by simp [Insertion.pattern])
              have hlength : rest.length < n := by
                rw [← hn, htail]
                simp
                omega
              rw [atOnceFrom_passed, hbehind, ← hrest]
              exact .found (List.mem_of_find?_eq_some hfind) (ih rest.length hlength rest rfl)
          · next hfind =>
              have hc : ∀ i ∈ insertions, ¬ i.pattern <+: c :: cs := fun i hi => by
                simpa [List.isPrefixOf_iff_prefix] using List.find?_eq_none.mp hfind i hi
              exact .kept hc (ih cs.length (by rw [← hn]; simp) cs rfl)

/-- A pass leaves a text as it is that holds no placeholder's literal. -/
theorem ReplacedAtOnce.eq_self {x out : List Char} (h : ReplacedAtOnce insertions x out)
    (hx : ∀ i ∈ insertions, ¬ i.pattern <:+: x) : out = x := by
  induction h with
  | nil => rfl
  | @found i rest out hi _ _ => exact absurd (List.prefix_append i.pattern rest).isInfix (hx i hi)
  | @kept c rest out _ _ ih =>
      rw [ih fun i hi hinfix => hx i hi (List.infix_cons hinfix)]

/-- Passes over two texts make one over both, if no placeholder's literal goes over the boundary. -/
theorem ReplacedAtOnce.append {before behind out out' : List Char}
    (h : ReplacedAtOnce insertions before out) (h' : ReplacedAtOnce insertions behind out')
    (hapart : ∀ i ∈ insertions, Apart i.pattern before behind) :
    ReplacedAtOnce insertions (before ++ behind) (out ++ out') := by
  induction h with
  | nil => exact h'
  | @found i rest out hi _ ih =>
      rw [List.append_assoc, List.append_assoc]
      exact .found hi (ih fun j hj => (hapart j hj).of_suffix (List.suffix_append _ _))
  | @kept c rest out hc _ ih =>
      refine .kept (fun i hi hprefix => hc i hi ?_)
        (ih fun j hj => (hapart j hj).of_suffix (List.suffix_cons c rest))
      exact (hapart i hi).prefix_left (List.cons_ne_nil c rest) hprefix

end Pass

section Steps

variable {body rest : List Char} {order : List Insertion}

theorem apply_append {w : List Char} (hw : '"' ∉ w) (i : Insertion) (rest : List Char) :
    i.apply (w ++ rest) = w ++ i.apply rest := by
  have hpattern : i.pattern = quoted i.placeholder.toList := rfl
  rw [Insertion.apply, Insertion.apply, hpattern,
    replaceChars_append (quoted_ne_nil _) (apart_of_quote_notMem_left hw _),
    replaceChars_of_quote_notMem hw]

theorem apply_of_quote_notMem {x : List Char} (hx : '"' ∉ x) (i : Insertion) : i.apply x = x :=
  replaceChars_of_quote_notMem hx

theorem apply_pattern_append (i : Insertion) (rest : List Char) :
    i.apply (i.pattern ++ rest) = i.literal ++ i.apply rest :=
  replaceChars_pattern (quoted_ne_nil i.placeholder.toList) rest

/-- What stands before the first quote of a raw literal ends with a hash. -/
theorem Insertion.exists_literal (i : Insertion) :
    ∃ v y, i.literal = v ++ '"' :: y ∧ '"' ∉ v ∧ v.getLast? = some '#' := by
  refine ⟨'r' :: hashes (fenceLength i.sql.toList), _, rfl, ?_, ?_⟩
  · simp [quote_notMem_hashes]
  · simp [hashes, fenceLength, List.getLast?_cons, List.getLast?_replicate]

/-- A step does not complete the rest of a placeholder's literal, since what it puts in has a hash
before its first quote. -/
theorem not_prefix_apply (hm : Marked body) (h : ¬ body ++ ['"'] <+: rest) (i : Insertion) :
    ¬ body ++ ['"'] <+: i.apply rest := by
  by_cases hquote : '"' ∈ rest
  · obtain ⟨w, y, rfl, hw⟩ := List.eq_append_cons_of_mem hquote
    rintro ⟨z, hz⟩
    rw [apply_append hw, List.append_assoc, List.singleton_append] at hz
    by_cases hpattern : i.pattern <+: '"' :: y
    · obtain ⟨behind, hbehind⟩ := hpattern
      obtain ⟨v, x, hliteral, hv, hlast⟩ := i.exists_literal
      rw [← hbehind, apply_pattern_append, hliteral, List.append_assoc, ← List.append_assoc w,
        List.cons_append] at hz
      have hfront : '"' ∉ w ++ v := by
        rw [List.mem_append, not_or]
        exact ⟨hw, hv⟩
      obtain ⟨rfl, -⟩ := eq_of_append_quote hm.quote hfront hz
      have hmark := hm.last
      rw [List.getLast?_append, hlast] at hmark
      exact absurd (Option.some.inj hmark) (by decide)
    · have hkept : i.apply ('"' :: y) = '"' :: i.apply y := replaceChars_cons hpattern
      rw [hkept] at hz
      obtain ⟨rfl, -⟩ := eq_of_append_quote hm.quote hw hz
      exact h ⟨y, by simp⟩
  · rwa [apply_of_quote_notMem hquote]

/-- A character stays as it is if no placeholder's literal begins with it, now or later. -/
theorem substituteChars_cons {c : Char} (hm : ∀ i ∈ order, Marked i.placeholder.toList)
    (h : ∀ i ∈ order, ¬ i.pattern <+: c :: rest) :
    substituteChars (c :: rest) order = c :: substituteChars rest order := by
  induction order generalizing rest with
  | nil => rfl
  | cons i order ih =>
      have hkept : i.apply (c :: rest) = c :: i.apply rest :=
        replaceChars_cons (h i List.mem_cons_self)
      have hlater : ∀ j ∈ order, ¬ j.pattern <+: c :: i.apply rest := by
        intro j hj hprefix
        obtain ⟨rfl, hbody⟩ := List.cons_prefix_cons.mp hprefix
        have hrest : ¬ j.placeholder.toList ++ ['"'] <+: rest := fun hrest =>
          h j (List.mem_cons_of_mem i hj) (List.cons_prefix_cons.mpr ⟨rfl, hrest⟩)
        exact not_prefix_apply (hm j (List.mem_cons_of_mem i hj)) hrest i hbody
      show substituteChars (i.apply (c :: rest)) order = _
      rw [hkept, ih (fun j hj => hm j (List.mem_cons_of_mem i hj)) hlater]
      rfl

/-- What stands in a gap and what is behind it are substituted on their own. -/
theorem substituteChars_append_of_sealed {x : List Char} (hx : Sealed x)
    (hm : ∀ i ∈ order, Marked i.placeholder.toList)
    (h : ∀ i ∈ order, ¬ i.placeholder.toList ++ ['"'] <+: rest) :
    substituteChars (x ++ rest) order = substituteChars x order ++ substituteChars rest order := by
  induction order generalizing x rest with
  | nil => rfl
  | cons i order ih =>
      have hi := hm i List.mem_cons_self
      have hsplit : i.apply (x ++ rest) = i.apply x ++ i.apply rest :=
        replaceChars_append (quoted_ne_nil i.placeholder.toList)
          (apart_of_sealed hi hx (h i List.mem_cons_self))
      show substituteChars (i.apply (x ++ rest)) order = _
      rw [hsplit]
      exact ih (Sealed.replaceChars (sealed_fenced _ _) hx)
        (fun j hj => hm j (List.mem_cons_of_mem i hj))
        fun j hj => not_prefix_apply (hm j (List.mem_cons_of_mem i hj))
          (h j (List.mem_cons_of_mem i hj)) i

end Steps

section AllAtOnce

variable {insertions order : List Insertion} {source : List Char}

/-- The literal of a placeholder becomes that of its text, in whatever order. -/
theorem substituteChars_pattern_of_independent (hi : Independent insertions)
    (horder : ∀ i ∈ order, i ∈ insertions) {i : Insertion} (hmem : i ∈ order) :
    substituteChars i.pattern order = i.literal := by
  obtain ⟨before, after, rfl, hfirst⟩ := List.eq_append_cons_of_mem hmem
  have hmine := horder i hmem
  have hbefore : ∀ j ∈ before, ¬ j.pattern <:+: i.pattern := by
    intro j hj hinfix
    have hother : j ∈ insertions := horder j (List.mem_append_left _ hj)
    have hbody := eq_of_quoted_infix (hi.marked j hother).quote (hi.marked i hmine).quote hinfix
    have hsame := hi.distinct j hother i hmine (String.toList_inj.mp hbody)
    exact hfirst (hsame ▸ hj)
  rw [substituteChars_pattern hbefore]
  exact substituteChars_eq_self fun j hj =>
    hi.clean i hmine j (horder j (List.mem_append_right _ (List.mem_cons_of_mem i hj)))

theorem Unshared.of_suffix {later : List Char} (h : Unshared insertions source)
    (hs : later <:+ source) : Unshared insertions later :=
  fun i hi j hj hshared => h i hi j hj (hshared.trans hs.isInfix)

/-- All steps, in whatever order, are one pass. -/
theorem substituteChars_of_replacedAtOnce (hi : Independent insertions) {out : List Char}
    (h : ReplacedAtOnce insertions source out) (hs : Unshared insertions source)
    (horder : order.Perm insertions) : substituteChars source order = out := by
  have hmem : ∀ i ∈ order, i ∈ insertions := fun i => horder.mem_iff.mp
  have hm : ∀ i ∈ order, Marked i.placeholder.toList := fun i h => hi.marked i (hmem i h)
  induction h with
  | nil => exact substituteChars_eq_self fun i _ => by simp [Insertion.pattern]
  | @found i rest out hmine _ ih =>
      have hrest : ∀ j ∈ order, ¬ j.placeholder.toList ++ ['"'] <+: rest := by
        rintro j hj ⟨behind, rfl⟩
        exact hs i hmine j (hmem j hj) ⟨[], behind, by simp⟩
      have hsplit : substituteChars (i.pattern ++ rest) order =
          substituteChars i.pattern order ++ substituteChars rest order :=
        substituteChars_append_of_sealed (sealed_quoted i.placeholder.toList) hm hrest
      rw [hsplit, substituteChars_pattern_of_independent hi hmem (horder.mem_iff.mpr hmine),
        ih (hs.of_suffix (List.suffix_append _ _))]
  | @kept c rest out hc _ ih =>
      rw [substituteChars_cons hm fun i h => hc i (hmem i h),
        ih (hs.of_suffix (List.suffix_cons c rest))]

/-- The steps in whatever order are the one pass. -/
theorem substituteChars_eq_atOnce (hi : Independent insertions) (hs : Unshared insertions source)
    (horder : order.Perm insertions) : substituteChars source order = atOnce insertions source :=
  substituteChars_of_replacedAtOnce hi (replacedAtOnce_atOnce insertions source) hs horder

/-- The pass replaces a placeholder wherever it stands, and the text before and behind it on its
own. -/
theorem atOnce_append (hi : Independent insertions) {i : Insertion} (hmem : i ∈ insertions)
    {front behind : List Char} (hs : Unshared insertions (front ++ (i.pattern ++ behind))) :
    atOnce insertions (front ++ (i.pattern ++ behind)) =
      atOnce insertions front ++ (i.literal ++ atOnce insertions behind) := by
  have hapart : ∀ j ∈ insertions, Apart j.pattern front (i.pattern ++ behind) := by
    intro j hj
    have hfront : ¬ '"' :: j.placeholder.toList <:+ front := by
      rintro ⟨before, rfl⟩
      exact hs j hj i hmem ⟨before, behind, by simp [Insertion.pattern]⟩
    exact apart_of_append_quote (hi.marked j hj) List.not_mem_nil (by simp) hfront
      (i.placeholder.toList ++ ['"'] ++ behind)
  have hpass := (replacedAtOnce_atOnce insertions front).append
    (.found hmem (replacedAtOnce_atOnce insertions behind)) hapart
  rw [← substituteChars_eq_atOnce hi hs (.refl insertions)]
  exact substituteChars_of_replacedAtOnce hi hpass hs (.refl insertions)

end AllAtOnce

end Rowsmith.Unit

namespace Rowsmith.GeneratedUnit
open Accessor Schema Source Sql Text Rowsmith.Unit

/-- The insertion of the text of a table's statement. -/
def statementInsertion (t : Table) (operation : Operation) : Insertion :=
  { placeholder := operation.placeholder t.className, sql := (t.statement operation).text }

/-- Whether no two literals of a class's placeholders share a quote in a source, the last one of the
first and the first one of the second. -/
def QuotesUnshared (className source : String) : Prop :=
  ∀ o o' : Operation, ¬ quoted (o.placeholder className).toList ++
    ((o'.placeholder className).toList ++ ['"']) <:+: source.toList

section Methods

variable {t : Table} {ms : List Method} (h : Accessor.methods t = .ok ms)

include h

theorem insertions_eq : ms.map insertionOf = Operation.all.map (statementInsertion t) := by
  obtain ⟨hoperations, hserves⟩ := methods_serve h
  rw [← hoperations, List.map_map]
  refine List.map_congr_left fun m hm => ?_
  rw [insertionOf, Method.sql, (hserves m hm).placeholder, (hserves m hm).statement]
  rfl

/-- The placeholders of a class are told apart, and no text of a statement makes one if none holds
one. -/
theorem independent_insertions (hname : '"' ∉ t.className.toList)
    (hsql : ∀ m ∈ ms, ∀ o : Operation,
      ¬ quoted (o.placeholder t.className).toList <:+: m.sql.toList) :
    Independent (ms.map insertionOf) where
  marked := by
    rw [insertions_eq h]
    exact List.forall_mem_map.mpr fun o _ => marked_placeholder hname o
  distinct := by
    rw [insertions_eq h]
    intro i hi j hj heq
    obtain ⟨o, -, rfl⟩ := List.mem_map.mp hi
    obtain ⟨o', -, rfl⟩ := List.mem_map.mp hj
    rw [placeholder_injective (congrArg String.toList heq)]
  clean := by
    intro i hi j hj hinfix
    obtain ⟨m, hm, rfl⟩ := List.mem_map.mp hi
    rw [insertions_eq h] at hj
    obtain ⟨o, -, rfl⟩ := List.mem_map.mp hj
    have hlast : m.sql.toList.getLast? ≠ some '_' := by
      rw [Method.sql, getLast?_text]
      decide
    exact hsql m hm o (infix_of_infix_fenced (marked_placeholder hname o) (head?_text m.statement)
      hlast hinfix)

theorem unshared_insertions {source : String} (hsource : QuotesUnshared t.className source) :
    Unshared (ms.map insertionOf) source.toList := by
  rw [insertions_eq h]
  intro i hi j hj
  obtain ⟨o, -, rfl⟩ := List.mem_map.mp hi
  obtain ⟨o', -, rfl⟩ := List.mem_map.mp hj
  exact hsource o o'

/-- Where no statement holds a placeholder's literal, the statements of a class are put into a source
in one pass, whatever the order of the steps: each literal becomes that of its own statement, the
text around it goes on its own, and text without one stays. -/
theorem substitute_eq_atOnce (hname : '"' ∉ t.className.toList)
    (hsql : ∀ m ∈ ms, ∀ o : Operation,
      ¬ quoted (o.placeholder t.className).toList <:+: m.sql.toList)
    {source : String} (hsource : QuotesUnshared t.className source) :
    (∀ order, order.Perm (ms.map insertionOf) →
      substitute source order = String.ofList (atOnce (ms.map insertionOf) source.toList)) ∧
    (∀ m ∈ ms, ∀ front behind, source.toList = front ++ (quoted m.placeholder.toList ++ behind) →
      atOnce (ms.map insertionOf) source.toList =
        atOnce (ms.map insertionOf) front ++
          ((rawLiteral m.sql).toList ++ atOnce (ms.map insertionOf) behind)) ∧
    ∀ part, (∀ m ∈ ms, ¬ quoted m.placeholder.toList <:+: part) →
      atOnce (ms.map insertionOf) part = part := by
  have hindependent := independent_insertions h hname hsql
  have hunshared := unshared_insertions h hsource
  refine ⟨fun order horder => ?_, fun m hm front behind hsplit => ?_, fun part hpart => ?_⟩
  · rw [substitute, substituteChars_eq_atOnce hindependent hunshared horder]
  · rw [hsplit] at hunshared ⊢
    rw [rawLiteral, String.toList_ofList]
    exact atOnce_append hindependent (List.mem_map_of_mem hm) hunshared
  · exact (replacedAtOnce_atOnce _ part).eq_self (List.forall_mem_map.mpr hpart)

end Methods

set_option maxRecDepth 100000 in
/-- A statement is put into a call in the last step but one of the reversed order. -/
theorem substitute_tax : ∃ ms, Accessor.methods (keyedTable "Tax") = .ok ms ∧
    substitute "f(\"__SQL_DELETE_Tax__\")" (ms.map insertionOf).reverse =
      "f(r#\"DELETE FROM Tax WHERE id = @id;\"#)" := by
  have hok : (Accessor.methods (keyedTable "Tax")).isOk = true := by decide
  obtain ⟨ms, hms⟩ := Outcome.exists_of_isOk hok
  have hsql : ∀ m ∈ ms, ∀ o : Operation,
      ¬ quoted (o.placeholder (keyedTable "Tax").className).toList <:+: m.sql.toList := by
    have hall : ∀ o' ∈ Operation.all, ∀ o ∈ Operation.all,
        ¬ quoted (o.placeholder "Tax").toList <:+:
          ((keyedTable "Tax").statement o').text.toList := by decide +kernel
    intro m hm o
    rw [Method.sql, ((methods_serve hms).2 m hm).statement]
    exact hall _ (Operation.mem_all _) o (Operation.mem_all o)
  have hsource : QuotesUnshared (keyedTable "Tax").className "f(\"__SQL_DELETE_Tax__\")" := by
    have hall : ∀ o ∈ Operation.all, ∀ o' ∈ Operation.all,
        ¬ quoted (o.placeholder "Tax").toList ++ ((o'.placeholder "Tax").toList ++ ['"']) <:+:
          "f(\"__SQL_DELETE_Tax__\")".toList := by decide
    exact fun o o' => hall o (Operation.mem_all o) o' (Operation.mem_all o')
  have hall := (substitute_eq_atOnce hms (by decide) hsql hsource).1 _ (List.reverse_perm _)
  refine ⟨ms, hms, hall.trans ?_⟩
  rw [insertions_eq hms]
  decide

end Rowsmith.GeneratedUnit
