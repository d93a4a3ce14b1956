import Rowsmith.Proofs.Accessor.Bridge
import Rowsmith.Proofs.Text.Identifier

/-!
# Bridges that can be named

A type text is folded into a word of letters and numbers, which a bridge puts in its name. The
bridge from the column begins with its host type, but the bridge to the column begins with the
folded word, and not every such word begins an identifier.
-/

namespace Rowsmith.Text

/-- The code points of separators. -/
def separatorPoints : List Nat := [0x5F, 0x2D, 0x20]

theorem isSeparatorChar_iff (c : Char) : isSeparatorChar c = separatorPoints.contains c.toNat := by
  have h : ∀ d : Char, (c == d) = (c.toNat == d.toNat) := fun d => by
    rw [Bool.eq_iff_iff, beq_iff_eq, beq_iff_eq, Char.toNat_inj]
  rw [isSeparatorChar, separatorPoints, List.contains_cons, List.contains_cons,
    List.contains_cons, h, h, h]
  rfl

theorem isSeparatorChar_ofNat {n : Nat} (h : separatorPoints.contains n = false) :
    isSeparatorChar (Char.ofNat n) = false := by
  rw [isSeparatorChar_iff, Char.ofNat]
  by_cases hn : n.isValidChar
  · rw [dif_pos hn]
    exact h
  · rw [dif_neg hn]
    rfl

theorem shiftCase_cases (runs : List CaseRun) (n : Nat) :
    shiftCase runs n = n ∨
      ∃ run ∈ runs, run.covers n = true ∧ shiftCase runs n = (n + run.shift).toNat := by
  induction runs with
  | nil => exact Or.inl rfl
  | cons run runs ih =>
      rw [shiftCase]
      split
      · exact Or.inl rfl
      · split
        · next hcovers => exact Or.inr ⟨run, List.mem_cons_self, hcovers, rfl⟩
        · rcases ih with h | ⟨other, hmem, hcovers, h⟩
          · exact Or.inl h
          · exact Or.inr ⟨other, List.mem_cons_of_mem run hmem, hcovers, h⟩

/-- Whether a run stays clear of separators when it is shifted: it is beyond them, or a single
code point that becomes none. -/
def CaseRun.isClear (run : CaseRun) : Bool :=
  (0x5F : Int) < run.first + run.shift ||
    (run.first == run.last && !separatorPoints.contains (run.first + run.shift).toNat)

/-- No separator is beyond the underscore. -/
theorem separatorPoints_contains_of_lt {n : Nat} (h : 0x5F < n) :
    separatorPoints.contains n = false := by
  rw [← Bool.not_eq_true, List.contains_iff_mem, separatorPoints]
  intro hmem
  simp only [List.mem_cons, List.not_mem_nil, or_false] at hmem
  omega

theorem CaseRun.shift_clear {run : CaseRun} {n : Nat} (h : run.isClear = true)
    (hn : run.covers n = true) : separatorPoints.contains (n + run.shift).toNat = false := by
  simp only [CaseRun.isClear, CaseRun.covers, Bool.or_eq_true, Bool.and_eq_true,
    decide_eq_true_eq, beq_iff_eq, Bool.not_eq_true'] at h hn
  obtain ⟨⟨hfirst, hlast⟩, -⟩ := hn
  rcases h with h | ⟨hone, h⟩
  · exact separatorPoints_contains_of_lt (by omega)
  · obtain rfl : n = run.first := by omega
    exact h

theorem shiftCase_upperRuns_clear {n : Nat} (h : separatorPoints.contains n = false) :
    separatorPoints.contains (shiftCase upperRuns n) = false := by
  have hclear : ∀ run ∈ upperRuns, run.isClear = true := by decide +kernel
  rcases shiftCase_cases upperRuns n with hn | ⟨run, hrun, hcovers, hn⟩
  · rwa [hn]
  · rw [hn]
    exact CaseRun.shift_clear (hclear run hrun) hcovers

/-- The upper forms of letters and numbers hold no separator. -/
theorem isSeparatorChar_upperForms {c : Char} (hc : isAlphanumeric c = true) :
    ∀ d ∈ upperForms c, isSeparatorChar d = false := by
  have hascii : ∀ n : Fin 128, (Char.ofNat n).isAlphanum = true →
      isSeparatorChar (Char.ofNat n).toUpper = false := by decide
  have hexpansions : ∀ entry ∈ upperExpansions, ∀ n ∈ entry.2,
      separatorPoints.contains n = false := by decide
  intro d hd
  unfold upperForms at hd
  split at hd
  · next hsmall =>
      rw [isAlphanumeric, if_pos hsmall] at hc
      obtain rfl := List.mem_singleton.mp hd
      have h := hascii ⟨c.toNat, hsmall⟩
      rw [Char.ofNat_toNat] at h
      exact h hc
  · next hlarge =>
      split at hd
      · next forms hforms =>
          obtain ⟨n, hn, rfl⟩ := List.mem_map.mp hd
          exact isSeparatorChar_ofNat (hexpansions _ (Schema.mem_of_lookup hforms) n hn)
      · obtain rfl := List.mem_singleton.mp hd
        exact isSeparatorChar_ofNat
          (shiftCase_upperRuns_clear (separatorPoints_contains_of_lt (by omega)))

end Rowsmith.Text

namespace Rowsmith.Schema
open Text

theorem isSeparatorChar_of_isAlphanumeric {c : Char} (h : isAlphanumeric c = true) :
    isSeparatorChar c = false := by
  have hnot : ['_', '-', ' '].all (!isAlphanumeric ·) = true := by decide
  rw [isSeparatorChar, List.contains_eq_mem, decide_eq_false_iff_not]
  intro hmem
  have hc := List.all_eq_true.mp hnot c hmem
  rw [h] at hc
  cases hc

theorem isSeparatorChar_capitalize {segment : List Char}
    (h : ∀ c ∈ segment, isAlphanumeric c = true) :
    ∀ d ∈ capitalize segment, isSeparatorChar d = false := by
  cases segment with
  | nil => simp [capitalize]
  | cons c rest =>
      intro d hd
      rcases List.mem_append.mp hd with hd | hd
      · exact isSeparatorChar_upperForms (h c List.mem_cons_self) d hd
      · exact isSeparatorChar_of_isAlphanumeric (h d (List.mem_cons_of_mem c hd))

theorem isSeparatorChar_markWord (c : Char) : ∀ d ∈ markWord c, isSeparatorChar d = false := by
  unfold markWord
  split <;> simp [isSeparatorChar]

/-- A folded word has no separator. -/
theorem isSeparatorChar_foldFrom {segment : List Char}
    (h : ∀ c ∈ segment, isAlphanumeric c = true) (cs : List Char) :
    ∀ d ∈ foldFrom segment cs, isSeparatorChar d = false := by
  induction cs generalizing segment with
  | nil => exact isSeparatorChar_capitalize h
  | cons c cs ih =>
      rw [foldFrom]
      split
      · next hc =>
          refine ih fun d hd => ?_
          rcases List.mem_append.mp hd with hd | hd
          · exact h d hd
          · exact List.mem_singleton.mp hd ▸ hc
      · intro d hd
        rcases List.mem_append.mp hd with hd | hd
        · rcases List.mem_append.mp hd with hd | hd
          · exact isSeparatorChar_capitalize h d hd
          · exact isSeparatorChar_markWord c d hd
        · exact ih (by simp) d hd

theorem isSeparatorChar_foldType (type : String) :
    ∀ d ∈ (foldType type).toList, isSeparatorChar d = false := by
  rw [foldType, String.toList_ofList]
  exact isSeparatorChar_foldFrom (by simp) _

/-- Whether a folded word may begin the name of a method: its lower forms, if it has any, are
an identifier. -/
def isNameable (word : String) : Bool :=
  let forms := word.toList.flatMap lowerForms
  forms.isEmpty || isIdentifierWord forms

theorem all_isIdentifierContinue_of_isNameable {word : String} (h : isNameable word = true) :
    (word.toList.flatMap lowerForms).all isIdentifierContinue = true := by
  rw [isNameable, Bool.or_eq_true, List.isEmpty_iff, isIdentifierWord_eq, Bool.and_eq_true] at h
  rcases h with h | h
  · rw [h]
    rfl
  · exact h.2

/-- A name that begins with a folded word is one of a method exactly when the word is
nameable. -/
theorem isMethodName_fold_append {type behind : String}
    (hbehind : behind.toList.any isSeparatorChar = false)
    (hforms : isIdentifierWord (behind.toList.flatMap lowerForms) = true) :
    isMethodName (snakeCase (foldType type ++ behind)) = isNameable (foldType type) := by
  have hne : (foldType type ++ behind).toList ≠ [] := by
    rw [String.toList_append]
    intro h
    rw [(List.append_eq_nil_iff.mp h).2] at hforms
    cases hforms
  have hall : ∀ d ∈ (foldType type ++ behind).toList, isSeparatorChar d = false := by
    intro d hd
    rw [String.toList_append] at hd
    rcases List.mem_append.mp hd with hd | hd
    · exact isSeparatorChar_foldType type d hd
    · exact eq_false_of_ne_true (List.any_eq_false.mp hbehind d hd)
  have hcontinue : (behind.toList.flatMap lowerForms).all isIdentifierContinue = true := by
    rw [isIdentifierWord_eq, Bool.and_eq_true] at hforms
    exact hforms.2
  rw [isMethodName, isIdentifierWord_snakeCase hne hall, String.toList_append,
    List.flatMap_append, isNameable]
  cases hlower : (foldType type).toList.flatMap lowerForms with
  | nil => simpa using hforms
  | cons c forms =>
      rw [isIdentifierWord_append (List.cons_ne_nil c forms), hcontinue]
      simp

/-- A name with a nameable folded word behind its beginning is one of a method. -/
theorem isMethodName_append_fold {type front behind : String}
    (hfront : front.toList.any isSeparatorChar = false)
    (hforms : isIdentifierWord (front.toList.flatMap lowerForms) = true)
    (hbehind : behind.toList.any isSeparatorChar = false)
    (hcontinue : (behind.toList.flatMap lowerForms).all isIdentifierContinue = true)
    (h : isNameable (foldType type) = true) :
    isMethodName (snakeCase (front ++ (foldType type ++ behind))) = true := by
  have hlower : front.toList.flatMap lowerForms ≠ [] := by
    intro hnil
    rw [hnil] at hforms
    cases hforms
  have hne : (front ++ (foldType type ++ behind)).toList ≠ [] := by
    rw [String.toList_append]
    intro hnil
    rw [(List.append_eq_nil_iff.mp hnil).1] at hlower
    exact hlower rfl
  have hall : ∀ d ∈ (front ++ (foldType type ++ behind)).toList, isSeparatorChar d = false := by
    intro d hd
    simp only [String.toList_append, List.mem_append] at hd
    rcases hd with hd | hd | hd
    · exact eq_false_of_ne_true (List.any_eq_false.mp hfront d hd)
    · exact isSeparatorChar_foldType type d hd
    · exact eq_false_of_ne_true (List.any_eq_false.mp hbehind d hd)
  rw [isMethodName, isIdentifierWord_snakeCase hne hall, String.toList_append,
    String.toList_append, List.flatMap_append, List.flatMap_append,
    isIdentifierWord_append hlower, hforms, List.all_append,
    all_isIdentifierContinue_of_isNameable h, hcontinue]
  rfl

section Bridged

variable {c : Column} (hc : c.Coherent) (hb : c.needsBridge = true)
include hc hb

/-- The bridge to a column can be named exactly when its type folds into a nameable word. -/
theorem isMethodName_bridgeTo :
    isMethodName c.bridgeTo = isNameable (foldType c.propertyType) := by
  have hhost : foldType "String" = "String" := by decide
  have hname : c.bridgeTo = snakeCase (foldType c.propertyType ++ "ToStringConverter") := by
    have hbehind : "To" ++ ("String" ++ "Converter") = "ToStringConverter" := by decide
    simp only [Column.bridgeTo, Column.bridgeNames, BridgeNames.between, hc.hostType hb, hhost,
      String.append_assoc, hbehind]
  rw [hname]
  exact isMethodName_fold_append (by decide) (by decide)

/-- Where the bridge to a column can be named, so can the one from it. -/
theorem isMethodName_bridgeFrom (h : isNameable (foldType c.propertyType) = true) :
    isMethodName c.bridgeFrom = true := by
  have hhost : foldType "String" = "String" := by decide
  have hname : c.bridgeFrom =
      snakeCase ("StringTo" ++ (foldType c.propertyType ++ "Converter")) := by
    have hfront : "String" ++ "To" = "StringTo" := by decide
    simp only [Column.bridgeFrom, Column.bridgeNames, BridgeNames.between, hc.hostType hb, hhost,
      hfront, String.append_assoc]
  rw [hname]
  exact isMethodName_append_fold (by decide) (by decide) (by decide)
    (by decide) h

end Bridged

end Rowsmith.Schema
