import Rowsmith.Proofs.Text.NameStyle
import Rowsmith.Schema.Declaration

/-!
# Names of annotations

A name is written from words in some style, behind a path or none, and with the word `attribute`
behind its own or not. The form in which names compare keeps the words of such a name and nothing
else, so two names are taken for the same exactly if they have the same words.
-/

namespace Rowsmith.Schema
open Text

section Path

/-- Characters without a colon have no other last segment than the one found before them. -/
theorem lastSegmentFrom_of_notMem {cs : List Char} (h : ':' ∉ cs) (whole : List Char) :
    lastSegmentFrom whole cs = whole := by
  fun_induction lastSegmentFrom whole cs with
  | case1 | case2 => rfl
  | case3 whole c d rest ih =>
      rw [List.mem_cons, not_or] at h
      have hc : ¬ (c = ':' ∧ d = ':') := fun hcolons => h.1 hcolons.1.symm
      rw [if_neg hc] at ih ⊢
      exact ih h.2

/-- What stands behind the last pair of colons is the last segment. -/
theorem lastSegmentFrom_append {segment : List Char} (h : ':' ∉ segment)
    (whole path : List Char) :
    lastSegmentFrom whole (path ++ ':' :: ':' :: segment) = segment := by
  induction path generalizing whole with
  | nil =>
      rw [List.nil_append, lastSegmentFrom, if_pos ⟨rfl, rfl⟩]
      cases segment with
      | nil => rfl
      | cons c rest =>
          have hc : ¬ (':' = ':' ∧ c = ':') := fun hcolons =>
            h (hcolons.2 ▸ List.mem_cons_self)
          rw [lastSegmentFrom, if_neg hc, lastSegmentFrom_of_notMem h]
  | cons c path ih =>
      obtain ⟨d, rest, hrest⟩ := List.exists_cons_of_ne_nil
        (List.append_ne_nil_of_right_ne_nil path (List.cons_ne_nil ':' (':' :: segment)))
      rw [List.cons_append, hrest, lastSegmentFrom, ← hrest]
      exact ih _

end Path

/-- How a name is written from words. -/
structure Spelling where
  style : NameStyle
  /-- The path that the name stands behind. -/
  path : Option String := none
  /-- Whether the word `attribute` stands behind the words. -/
  suffixed : Bool := false
  deriving DecidableEq, Repr

/-- The word that does not count behind others. -/
def attributeWord : List Char := "attribute".toList

namespace Spelling

/-- The words that are written out. -/
def written (s : Spelling) (words : List (List Char)) : List (List Char) :=
  if s.suffixed then words ++ [attributeWord] else words

/-- The name that is written from words. -/
def write (s : Spelling) (words : List (List Char)) : String :=
  (s.path.map (· ++ "::")).getD "" ++ String.ofList (s.style.write (s.written words))

end Spelling

/-- The words of a name: at least one, and the last one is not `attribute`. -/
structure NameWords (words : List (List Char)) : Prop where
  ne_nil : words ≠ []
  isWord : ∀ word ∈ words, IsWord word
  getLast : words.getLast? ≠ some attributeWord

instance (words : List (List Char)) : Decidable (NameWords words) :=
  decidable_of_iff (words ≠ [] ∧ (∀ word ∈ words, IsWord word) ∧
      words.getLast? ≠ some attributeWord)
    ⟨fun h => ⟨h.1, h.2.1, h.2.2⟩, fun h => ⟨h.ne_nil, h.isWord, h.getLast⟩⟩

section Names

variable {words : List (List Char)}

theorem isWord_attribute : IsWord attributeWord := by decide

theorem isWord_written (s : Spelling) (h : NameWords words) :
    ∀ word ∈ s.written words, IsWord word := by
  intro word hword
  rw [Spelling.written] at hword
  split at hword
  · rcases List.mem_append.mp hword with hword | hword
    · exact h.isWord word hword
    · exact List.mem_singleton.mp hword ▸ isWord_attribute
  · exact h.isWord word hword

theorem written_ne_nil (s : Spelling) (h : NameWords words) : s.written words ≠ [] := by
  rw [Spelling.written]
  split
  · simp
  · exact h.ne_nil

theorem colon_notMem_write (style : NameStyle) (h : ∀ word ∈ words, IsWord word) :
    ':' ∉ style.write words := by
  intro hmem
  have hne : ∀ d : Char, d.isLower = true → ':' ≠ d ∧ ':' ≠ d.toUpper := fun d hd =>
    of_isLower hd (by decide)
  rcases mem_write hmem with (hc | hc) | ⟨word, hword, d, hd, hc⟩
  · exact absurd hc (by decide)
  · exact absurd hc (by decide)
  · have hd := hne d ((h word hword).lower d hd)
    exact hc.elim hd.1 hd.2

/-- A path is no part of the last segment. -/
theorem lastSegment_write (s : Spelling) (h : NameWords words) :
    lastSegment (s.write words) = String.ofList (s.style.write (s.written words)) := by
  have hcolon := colon_notMem_write s.style (isWord_written s h)
  rw [lastSegment, Spelling.write]
  congr 1
  cases s.path with
  | none =>
      simp only [Option.map_none, Option.getD_none, String.toList_append, String.toList_ofList]
      exact lastSegmentFrom_of_notMem hcolon _
  | some path =>
      simp only [Option.map_some, Option.getD_some, String.toList_append, String.toList_ofList,
        List.append_assoc]
      exact lastSegmentFrom_append hcolon _ path.toList

/-- Words are told by the text that they are joined to. -/
theorem splitOn_intercalate_words (h : NameWords words) :
    (['_'].intercalate words).splitOn '_' = words := by
  have hline : ∀ word ∈ words, '_' ∉ word := by
    intro word hword hmem
    have hlower := (h.isWord word hword).lower '_' hmem
    exact absurd hlower (by decide)
  exact List.splitOn_intercalate '_' hline h.ne_nil

theorem intercalate_concat (separator : List Char) (hne : words ≠ []) (word : List Char) :
    separator.intercalate (words ++ [word]) =
      separator.intercalate words ++ (separator ++ word) := by
  induction words with
  | nil => exact absurd rfl hne
  | cons first words ih =>
      cases words with
      | nil => simp [List.intercalate_cons_cons]
      | cons second words =>
          rw [List.cons_append, List.cons_append, List.intercalate_cons_cons,
            ← List.cons_append, ih (List.cons_ne_nil _ _), List.intercalate_cons_cons,
            List.append_assoc (first ++ separator)]

/-- Words that do not end in `attribute` are not joined to a text that does. -/
theorem dropEnd?_attribute (h : NameWords words) :
    dropEnd? "_attribute".toList (['_'].intercalate words) = none := by
  cases hdrop : dropEnd? "_attribute".toList (['_'].intercalate words) with
  | none => rfl
  | some front =>
      have htext : ['_'].intercalate words = front ++ '_' :: attributeWord :=
        dropEnd?_eq_some_iff.mp hdrop
      have hline : '_' ∉ attributeWord := by decide
      have hsplit : words = front.splitOn '_' ++ [attributeWord] := by
        rw [← splitOn_intercalate_words h, htext, ← List.splitOn_eq_singleton hline]
        exact List.splitOnP_append_cons front attributeWord (beq_self_eq_true '_')
      exact absurd (by rw [hsplit, List.getLast?_concat]) h.getLast

theorem canonicalName_of_dropEnd? {name : String} {c : Char} {rest : List Char}
    (h : dropEnd? "_attribute".toList (snakeCase (lastSegment name)).toList = some (c :: rest)) :
    canonicalName name = String.ofList (c :: rest) := by
  delta canonicalName
  simp only [h]

theorem canonicalName_of_dropEnd?_eq_none {name : String}
    (h : dropEnd? "_attribute".toList (snakeCase (lastSegment name)).toList = none) :
    canonicalName name = snakeCase (lastSegment name) := by
  delta canonicalName
  simp only [h]

/-- The form in which a name compares is that of its words. -/
theorem canonicalName_write (s : Spelling) (h : NameWords words) :
    canonicalName (s.write words) = String.ofList (['_'].intercalate words) := by
  have hsnake : (snakeCase (lastSegment (s.write words))).toList =
      ['_'].intercalate (s.written words) := by
    rw [lastSegment_write s h]
    exact snakeCase_write s.style (written_ne_nil s h) (isWord_written s h)
  have hne : ['_'].intercalate words ≠ [] := by
    intro hnil
    have hsplit := splitOn_intercalate_words h
    rw [hnil] at hsplit
    exact absurd (h.isWord [] (hsplit ▸ List.mem_singleton_self [])).long (by decide)
  cases hsuffix : s.suffixed with
  | false =>
      have hwritten : s.written words = words := by rw [Spelling.written, hsuffix]; rfl
      rw [hwritten] at hsnake
      rw [canonicalName_of_dropEnd?_eq_none (by rw [hsnake, dropEnd?_attribute h]), ← hsnake,
        String.ofList_toList]
  | true =>
      have hwritten : s.written words = words ++ [attributeWord] := by
        rw [Spelling.written, hsuffix]
        rfl
      have hdrop : dropEnd? "_attribute".toList (snakeCase (lastSegment (s.write words))).toList =
          some (['_'].intercalate words) := by
        rw [dropEnd?_eq_some_iff, hsnake, hwritten, intercalate_concat ['_'] h.ne_nil]
        rfl
      obtain ⟨c, rest, hcons⟩ := List.exists_cons_of_ne_nil hne
      rw [hcons] at hdrop ⊢
      exact canonicalName_of_dropEnd? hdrop

/-- Names compare by their words. -/
theorem canonicalName_write_eq_iff {u v : List (List Char)} (hu : NameWords u)
    (hv : NameWords v) (s s' : Spelling) :
    canonicalName (s.write u) = canonicalName (s'.write v) ↔ u = v := by
  rw [canonicalName_write s hu, canonicalName_write s' hv]
  constructor
  · intro h
    have htext : ['_'].intercalate u = ['_'].intercalate v := by
      simpa only [String.toList_ofList] using congrArg String.toList h
    rw [← splitOn_intercalate_words hu, htext, splitOn_intercalate_words hv]
  · rintro rfl
    rfl

end Names

/-- The argument of a name that is given first, among arguments in two parts. -/
theorem named?_of_append {a : Annotation} {before after : List (String × Argument)}
    (h : a.named = before ++ after) (name : String) :
    a.named? name =
      ({ a with named := before }.named? name).or ({ a with named := after }.named? name) := by
  simp only [h, Annotation.named?, List.find?_append, Option.map_or]

theorem named?_cons (a : Annotation) (given : String) (argument : Argument)
    (rest : List (String × Argument)) (name : String) :
    { a with named := (given, argument) :: rest }.named? name =
      if canonicalName given = canonicalName name then some argument
      else { a with named := rest }.named? name := by
  by_cases h : canonicalName given = canonicalName name
  · simp only [h, Annotation.named?, List.find?_cons, beq_self_eq_true, Option.map_some, if_true]
  · simp only [h, Annotation.named?, List.find?_cons, beq_false_of_ne h, if_false]

/-- An annotation goes by a name exactly if it has its words, whatever the spellings of both, and
the same holds of the names of arguments: one with the words that are looked for is taken, if none
before it is, and any other one is passed over. -/
theorem is_write_iff {u v : List (List Char)} (hu : NameWords u) (hv : NameWords v)
    (s s' : Spelling) :
    (∀ positional named,
      ({ name := s.write u, positional, named } : Annotation).is (s'.write v) = true ↔ u = v) ∧
    ∀ (a : Annotation) before argument after,
      a.named = before ++ (s.write u, argument) :: after →
        a.named? (s'.write v) =
          ({ a with named := before }.named? (s'.write v)).or
            (if u = v then some argument else { a with named := after }.named? (s'.write v)) := by
  have hwords := canonicalName_write_eq_iff hu hv s s'
  constructor
  · intro positional named
    exact beq_iff_eq.trans hwords
  · intro a before argument after hnamed
    rw [named?_of_append hnamed, named?_cons, if_congr hwords rfl rfl]

/-- An annotation and its argument are found by other spellings of their words, and not by others. -/
theorem is_write_primaryKey :
    ({ name := "schema::PrimaryKeyAttribute" } : Annotation).is "PRIMARY_KEY" = true ∧
      ({ name := "schema::PrimaryKeyAttribute" } : Annotation).is "foreign-key" = false ∧
      ({ name := "table", named := [("NameAttribute", .text "taxes")] } : Annotation).named? "NAME" =
        some (.text "taxes") := by
  have hwords : NameWords ["primary".toList, "key".toList] := by decide
  have hother : NameWords ["foreign".toList, "key".toList] := by decide
  have hname : NameWords ["name".toList] := by decide
  have hpascal : ({ style := .pascal, path := some "schema", suffixed := true } : Spelling).write
      ["primary".toList, "key".toList] = "schema::PrimaryKeyAttribute" := by decide
  have hscreaming : ({ style := .screaming } : Spelling).write
      ["primary".toList, "key".toList] = "PRIMARY_KEY" := by decide
  have hkebab : ({ style := .kebab } : Spelling).write ["foreign".toList, "key".toList] =
      "foreign-key" := by decide
  have hgiven : ({ style := .pascal, suffixed := true } : Spelling).write ["name".toList] =
      "NameAttribute" := by decide
  have hasked : ({ style := .screaming } : Spelling).write ["name".toList] = "NAME" := by decide
  have hfirst := (is_write_iff hwords hwords ⟨.pascal, some "schema", true⟩
    ⟨.screaming, none, false⟩).1 [] []
  have hsecond := (is_write_iff hwords hother ⟨.pascal, some "schema", true⟩
    ⟨.kebab, none, false⟩).1 [] []
  have hargument := (is_write_iff hname hname ⟨.pascal, none, true⟩ ⟨.screaming, none, false⟩).2
    { name := "table", named := [("NameAttribute", .text "taxes")] } [] (.text "taxes") []
    (by rw [hgiven]; rfl)
  rw [hpascal, hscreaming] at hfirst
  rw [hpascal, hkebab] at hsecond
  rw [hasked, if_pos rfl] at hargument
  refine ⟨hfirst.mpr rfl, eq_false_of_ne_true fun h => ?_, hargument⟩
  exact absurd (hsecond.mp h) (by decide)

end Rowsmith.Schema
