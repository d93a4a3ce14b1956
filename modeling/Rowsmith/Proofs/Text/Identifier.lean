import Mathlib.Data.List.Basic
import Rowsmith.Text.IdentifierChar
import Rowsmith.Text.Word

/-!
# Identifiers in snake case

The snake case form of a name without separators has the lower forms of its characters in
order, with low lines put between words. It is an identifier exactly when these lower forms
are one.
-/

namespace Rowsmith.Text

/-- Whether a character parts words and belongs to none. -/
def isSeparatorChar (c : Char) : Bool := ['_', '-', ' '].contains c

section Words

theorem isSeparator_eq_false {cluster : List Char}
    (h : ∀ c ∈ cluster, isSeparatorChar c = false) : isSeparator cluster = false := by
  have hne : ∀ d, isSeparatorChar d = true → (cluster == [d]) = false := by
    intro d hd
    rw [beq_eq_false_iff_ne]
    rintro rfl
    rw [h d (List.mem_singleton_self d)] at hd
    cases hd
  rw [isSeparator, hne '_' (by decide), hne '-' (by decide), hne ' ' (by decide)]
  rfl

/-- Words without separators among them make up the text, behind the open word. -/
theorem flatten_wordsFrom {cs : List (List Char)}
    (h : ∀ cluster ∈ cs, isSeparator cluster = false) (current : List Char) :
    (wordsFrom current cs).flatten = current ++ cs.flatten := by
  induction cs generalizing current with
  | nil => simp [wordsFrom]
  | cons cluster cs ih =>
      have hrest := ih fun other ho => h other (List.mem_cons_of_mem cluster ho)
      rw [wordsFrom, h cluster List.mem_cons_self, if_neg (by decide)]
      split
      · rw [List.flatten_cons, hrest, List.flatten_cons, List.nil_append, List.append_assoc]
      · rw [hrest, List.flatten_cons, List.append_assoc]

/-- The first word begins with what is open and the first cluster. -/
theorem exists_wordsFrom_cons {cluster : List Char} {cs : List (List Char)}
    (h : ∀ other ∈ cluster :: cs, isSeparator other = false) (current : List Char) :
    ∃ more words, wordsFrom current (cluster :: cs) = (current ++ cluster ++ more) :: words := by
  induction cs generalizing cluster current with
  | nil =>
      rw [wordsFrom, h cluster List.mem_cons_self, if_neg (by decide)]
      exact ⟨[], [], by rw [List.append_nil]; rfl⟩
  | cons next cs ih =>
      rw [wordsFrom, h cluster List.mem_cons_self, if_neg (by decide)]
      split
      · exact ⟨[], _, by rw [List.append_nil]⟩
      · obtain ⟨more, words, hwords⟩ :=
          ih (fun other ho => h other (List.mem_cons_of_mem cluster ho)) (current ++ cluster)
        exact ⟨next ++ more, words, by rw [hwords, List.append_assoc (current ++ cluster)]⟩

theorem exists_clustersFrom (before : ClusterMemory) (current cs : List Char) :
    ∃ more rest, clustersFrom before current cs = (current.reverse ++ more) :: rest := by
  induction cs generalizing before current with
  | nil => exact ⟨[], [], by rw [clustersFrom, List.append_nil]⟩
  | cons c cs ih =>
      rw [clustersFrom]
      split
      · obtain ⟨more, rest, h⟩ := ih (.after (some before) c) (c :: current)
        exact ⟨c :: more, rest, by rw [h, List.reverse_cons, List.append_assoc]; rfl⟩
      · exact ⟨[], _, by rw [List.append_nil]⟩

/-- The words of a text without separators: the first begins with its first character, and
together they are the text. -/
theorem wordsOf_cons {c : Char} {cs : List Char}
    (h : ∀ d ∈ c :: cs, isSeparatorChar d = false) :
    ∃ more words, wordsOf (c :: cs) = (c :: more) :: words ∧
      ((c :: more) :: words).flatten = c :: cs := by
  have hflatten : (clusters (c :: cs)).flatten = c :: cs := clusters_flatten (c :: cs)
  have hseparators : ∀ cluster ∈ clusters (c :: cs), isSeparator cluster = false := by
    intro cluster hcluster
    refine isSeparator_eq_false fun d hd => h d ?_
    rw [← hflatten]
    exact List.mem_flatten.mpr ⟨cluster, hcluster, hd⟩
  obtain ⟨tail, rest, hfirst⟩ := exists_clustersFrom (.after none c) [c] cs
  have hclusters : clusters (c :: cs) = (c :: tail) :: rest := hfirst
  have hall : (wordsOf (c :: cs)).flatten = c :: cs := by
    rw [wordsOf, flatten_wordsFrom hseparators, hflatten]
    rfl
  rw [hclusters] at hseparators
  obtain ⟨more, words, hwords⟩ := exists_wordsFrom_cons hseparators []
  have hwords : wordsOf (c :: cs) = (c :: (tail ++ more)) :: words := by
    rw [wordsOf, hclusters, hwords]
    rfl
  exact ⟨tail ++ more, words, hwords, hwords ▸ hall⟩

end Words

section LowerCase

/-- The lower forms of sigma are its own form and the final one; an identifier may begin and
go on with both. -/
theorem lowerForms_sigma {c : Char} (h : c.toNat = 0x3A3) : lowerForms c = [Char.ofNat 0x3C3] := by
  obtain rfl : c = Char.ofNat 0x3A3 := by rw [← h, Char.ofNat_toNat]
  decide

theorem isIdentifierStart_sigma :
    isIdentifierStart (Char.ofNat 0x3C2) = true ∧ isIdentifierStart (Char.ofNat 0x3C3) = true := by
  decide

theorem lowerForms_ne_nil (c : Char) : lowerForms c ≠ [] := by
  unfold lowerForms
  split
  · exact List.cons_ne_nil _ _
  · split <;> exact List.cons_ne_nil _ _

/-- What a character becomes in a text is as good for an identifier as its lower forms. -/
theorem exists_lowerAfter_cons (before : List Char) (c : Char) (cs : List Char) :
    ∃ forms, forms ≠ [] ∧ lowerAfter before (c :: cs) = forms ++ lowerAfter (c :: before) cs ∧
      forms.all isIdentifierContinue = (lowerForms c).all isIdentifierContinue ∧
      forms.head?.any isIdentifierStart = (lowerForms c).head?.any isIdentifierStart := by
  obtain ⟨hfinal, hsigma⟩ := isIdentifierStart_sigma
  have hfinal' := isIdentifierContinue_of_start hfinal
  have hsigma' := isIdentifierContinue_of_start hsigma
  by_cases hc : c.toNat = 0x3A3
  · rw [lowerAfter, if_pos hc, lowerForms_sigma hc]
    split
    · exact ⟨_, List.cons_ne_nil _ _, rfl, by simp [hfinal, hsigma, hfinal', hsigma']⟩
    · exact ⟨_, List.cons_ne_nil _ _, rfl, rfl, rfl⟩
  · rw [lowerAfter, if_neg hc]
    exact ⟨_, lowerForms_ne_nil c, rfl, rfl, rfl⟩

theorem all_lowerAfter (before cs : List Char) :
    (lowerAfter before cs).all isIdentifierContinue =
      (cs.flatMap lowerForms).all isIdentifierContinue := by
  induction cs generalizing before with
  | nil => rfl
  | cons c cs ih =>
      obtain ⟨forms, -, hforms, hall, -⟩ := exists_lowerAfter_cons before c cs
      rw [hforms, List.flatMap_cons, List.all_append, List.all_append, ih, hall]

/-- Words in lower case have the characters that are as good as those of their text. -/
theorem all_map_lowercase (words : List (List Char)) :
    (words.map lowercase).all (fun word => word.all isIdentifierContinue) =
      (words.flatten.flatMap lowerForms).all isIdentifierContinue := by
  induction words with
  | nil => rfl
  | cons word words ih =>
      rw [List.map_cons, List.all_cons, ih, List.flatten_cons, List.flatMap_append,
        List.all_append, lowercase, all_lowerAfter]

end LowerCase

section Identifiers

/-- An identifier is told by its first character and by all of them. -/
theorem isIdentifierWord_eq (cs : List Char) :
    isIdentifierWord cs = (cs.head?.any isIdentifierStart && cs.all isIdentifierContinue) := by
  cases cs with
  | nil => rfl
  | cons c cs =>
      cases hc : isIdentifierStart c with
      | false => simp [isIdentifierWord, hc]
      | true => simp [isIdentifierWord, hc, isIdentifierContinue_of_start hc]

theorem isIdentifierWord_append {front behind : List Char} (hfront : front ≠ []) :
    isIdentifierWord (front ++ behind) =
      (isIdentifierWord front && behind.all isIdentifierContinue) := by
  obtain ⟨c, cs, rfl⟩ := List.exists_cons_of_ne_nil hfront
  rw [isIdentifierWord_eq, isIdentifierWord_eq, List.all_append, Bool.and_assoc]
  rfl

/-- Low lines between words are as good for an identifier as none. -/
theorem all_intercalate (words : List (List Char)) :
    (['_'].intercalate words).all isIdentifierContinue =
      words.all fun word => word.all isIdentifierContinue := by
  have hline : isIdentifierContinue '_' = true := by decide
  induction words with
  | nil => rfl
  | cons first words ih =>
      cases words with
      | nil => simp
      | cons second words =>
          rw [List.intercalate_cons_cons, List.all_append, List.all_append, ih]
          simp [hline]

theorem exists_intercalate_cons (separator first : List Char) (words : List (List Char)) :
    ∃ rest, separator.intercalate (first :: words) = first ++ rest := by
  cases words with
  | nil => exact ⟨[], by simp⟩
  | cons second words =>
      exact ⟨separator ++ separator.intercalate (second :: words),
        List.intercalate_cons_cons.trans (List.append_assoc _ _ _)⟩

/-- The snake case form of a name without separators is an identifier exactly when the lower
forms of its characters are one. -/
theorem isIdentifierWord_snakeCase {text : String} (hne : text.toList ≠ [])
    (h : ∀ c ∈ text.toList, isSeparatorChar c = false) :
    isIdentifierWord (snakeCase text).toList =
      isIdentifierWord (text.toList.flatMap lowerForms) := by
  obtain ⟨c, cs, htext⟩ := List.exists_cons_of_ne_nil hne
  rw [htext] at h ⊢
  obtain ⟨more, words, hwords, hflatten⟩ := wordsOf_cons h
  have hsnake : (snakeCase text).toList =
      ['_'].intercalate (((c :: more) :: words).map lowercase) := by
    rw [snakeCase, String.toList_ofList, htext, hwords]
  have hall : (snakeCase text).toList.all isIdentifierContinue =
      ((c :: cs).flatMap lowerForms).all isIdentifierContinue := by
    rw [hsnake, all_intercalate, all_map_lowercase, hflatten]
  have hhead : (snakeCase text).toList.head?.any isIdentifierStart =
      ((c :: cs).flatMap lowerForms).head?.any isIdentifierStart := by
    obtain ⟨forms, hforms, hlower, -, hstart⟩ := exists_lowerAfter_cons [] c more
    obtain ⟨rest, hrest⟩ := exists_intercalate_cons ['_'] (lowercase (c :: more))
      (words.map lowercase)
    rw [hsnake, List.map_cons, hrest, lowercase, hlower, List.append_assoc,
      List.head?_append_of_ne_nil forms hforms, hstart, List.flatMap_cons,
      List.head?_append_of_ne_nil _ (lowerForms_ne_nil c)]
  rw [isIdentifierWord_eq, isIdentifierWord_eq, hall, hhead]

end Identifiers

end Rowsmith.Text
