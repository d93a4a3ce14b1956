import Rowsmith.Proofs.Text.IntegerText
import Rowsmith.Proofs.Value.StoredInteger

/-!
# Standard texts read back

A value that a driver hands over as its standard text, with blanks around it, is narrowed to the
value. Only a character that is a blank itself is lost among the blanks: the texts of two of them
with blanks around can be the same.
-/

namespace Rowsmith.Text

variable {range : IntegerRange} {n : Int} {cs : List Char}

theorem isBlank_of_isDigit {c : Char} (h : c.isDigit = true) : isBlank c = false := by
  have hblank := of_isDigit (p := fun c => !isBlank c) (by decide) h
  simpa using hblank

theorem IsNumeral.isBlank (h : IsNumeral cs) : ∀ c ∈ cs, isBlank c = false :=
  fun c hc => isBlank_of_isDigit (h.isDigit c hc)

/-- There is no blank in a text that writes an integer. -/
theorem WritesInteger.isBlank (h : WritesInteger range cs n) : ∀ c ∈ cs, isBlank c = false := by
  cases h with
  | plain hds => exact hds.isBlank
  | plus hds => exact List.forall_mem_cons.mpr ⟨by decide, hds.isBlank⟩
  | minus hds _ => exact List.forall_mem_cons.mpr ⟨by decide, hds.isBlank⟩

theorem WritesInteger.ne_nil (h : WritesInteger range cs n) : cs ≠ [] := by
  cases h with
  | plain hds => exact hds.ne_nil
  | plus hds => exact List.cons_ne_nil _ _
  | minus hds _ => exact List.cons_ne_nil _ _

/-- What begins without a blank is not shortened from its start. -/
theorem dropWhile_isBlank_append (hcs : ∀ c ∈ cs, isBlank c = false) (hne : cs ≠ [])
    (after : List Char) : (cs ++ after).dropWhile isBlank = cs ++ after := by
  obtain ⟨c, rest, rfl⟩ := List.exists_cons_of_ne_nil hne
  rw [List.cons_append, List.dropWhile_cons_of_neg]
  simp [hcs c List.mem_cons_self]

/-- Trimming takes the blanks around a text away. -/
theorem trimBlanks_padded {before after : List Char} (hb : ∀ c ∈ before, isBlank c = true)
    (ha : ∀ c ∈ after, isBlank c = true) (hcs : ∀ c ∈ cs, isBlank c = false) (hne : cs ≠ []) :
    trimBlanks (before ++ cs ++ after) = cs := by
  have hstart : (before ++ cs ++ after).dropWhile isBlank = cs ++ after := by
    rw [List.append_assoc, List.dropWhile_append_of_pos hb, dropWhile_isBlank_append hcs hne]
  have hend : (after.reverse ++ cs.reverse).dropWhile isBlank = cs.reverse := by
    rw [List.dropWhile_append_of_pos fun c hc => ha c (List.mem_reverse.mp hc)]
    have hreverse : ∀ c ∈ cs.reverse, isBlank c = false :=
      fun c hc => hcs c (List.mem_reverse.mp hc)
    have h := dropWhile_isBlank_append hreverse (by simpa using hne) []
    rwa [List.append_nil] at h
  rw [trimBlanks, hstart, List.reverse_append, hend, List.reverse_reverse]

end Rowsmith.Text

namespace Rowsmith.Value
open Text

/-- Blanks and nothing else. -/
def AllBlank (text : String) : Prop := text.toList.all isBlank = true

instance (text : String) : Decidable (AllBlank text) :=
  inferInstanceAs (Decidable (text.toList.all isBlank = true))

/-- A text without blanks is what trimming leaves of it between blanks. -/
theorem trimBlanks_between {before text after : String} (hb : AllBlank before)
    (ha : AllBlank after) (htext : ∀ c ∈ text.toList, isBlank c = false)
    (hne : text.toList ≠ []) : trimBlanks (before ++ text ++ after).toList = text.toList := by
  rw [String.toList_append, String.toList_append]
  exact trimBlanks_padded (List.all_eq_true.mp hb) (List.all_eq_true.mp ha) htext hne

/-- A function reads a value from a text, whatever blanks are around it. -/
def ReadsPadded {α : Type} (read : String → Read α) (text : String) (v : α) : Prop :=
  ∀ before after, AllBlank before → AllBlank after → read (before ++ text ++ after) = .ok v

theorem parseInteger_readsPadded {α : Type} (form : IntegerForm α) (v : α) :
    ReadsPadded (parseInteger form.range form.ofInt) (toString (form.toInt v)) v := by
  intro before after hb ha
  have hwrites := writesInteger_toString (form.toInt_mem v)
  have htrim : trimBlanks (before ++ toString (form.toInt v) ++ after).toList =
      (toString (form.toInt v)).toList :=
    trimBlanks_between hb ha hwrites.isBlank hwrites.ne_nil
  rw [parseInteger, htrim, integerOf_toString (form.toInt_mem v)]
  exact congrArg Except.ok (form.ofInt_toInt v)

theorem parseBool_readsPadded (v : Bool) : ReadsPadded parseBool (toString v) v := by
  intro before after hb ha
  have hword : (toString v).toList.all (!isBlank ·) = true := by cases v <;> rfl
  have hletters : ∀ c ∈ (toString v).toList, isBlank c = false := by simpa using hword
  have hne : (toString v).toList ≠ [] := by cases v <;> exact List.cons_ne_nil _ _
  rw [parseBool, trimBlanks_between hb ha hletters hne]
  cases v <;> rfl

theorem parseChar_readsPadded {c : Char} (hc : isBlank c = false) :
    ReadsPadded parseChar (String.singleton c) c := by
  intro before after hb ha
  have htrim : trimBlanks (before ++ String.singleton c ++ after).toList = [c] := by
    rw [trimBlanks_between hb ha (by simpa using hc) (by simp), String.toList_singleton]
  rw [parseChar, htrim]

namespace HostType

/-- The host types whose values have a standard text that can be read. -/
def printedTypes : List HostType := integerTypes ++ [bool, char]

/-- The standard text of a value of an integer type, of a truth value and of a character. -/
def standardText? : (t : HostType) → t.Carrier → Option String
  | bool, v => some (toString v)
  | char, c => some (String.singleton c)
  | t, v => t.integerForm?.map fun form => toString (form.toInt v)

/-- Whether a value is no blank. -/
def Visible : (t : HostType) → t.Carrier → Prop
  | char, c => isBlank c = false
  | _, _ => True

end HostType

/-- Texts are narrowed to an integer type by reading an integer of its range. -/
theorem narrow_string_of_integerForm {t : HostType} {form : IntegerForm t.Carrier}
    (h : t.integerForm? = some form) :
    narrow t .string = some (parseInteger form.range form.ofInt) := by
  cases t <;> cases h <;> rfl

/-- The standard text of an integer, of a truth value or of a character is narrowed to the value,
also with blanks around it. Characters that are blanks are left out. -/
theorem narrow_standardText {t : HostType} (ht : t ∈ HostType.printedTypes) {v : t.Carrier}
    (hv : t.Visible v) :
    ∃ text read, t.standardText? v = some text ∧ narrow t .string = some read ∧
      ReadsPadded read text v := by
  rcases List.mem_append.mp ht with hinteger | hother
  · obtain ⟨form, hform⟩ := HostType.exists_integerForm hinteger
    refine ⟨_, _, ?_, narrow_string_of_integerForm hform, parseInteger_readsPadded form v⟩
    cases t <;> cases hform <;> rfl
  · simp only [List.mem_cons, List.not_mem_nil, or_false] at hother
    rcases hother with rfl | rfl
    · exact ⟨_, _, rfl, rfl, parseBool_readsPadded v⟩
    · exact ⟨_, _, rfl, rfl, parseChar_readsPadded hv⟩

/-- The least integer of 8 bits is read between blanks. -/
theorem narrow_standardText_least : ∃ read, narrow .i8 .string = some read ∧
    read "\t-128 \n" = .ok (-128 : Int8) := by
  obtain ⟨text, read, htext, hread, hpadded⟩ :=
    narrow_standardText (t := .i8) (v := (-128 : Int8)) (by decide) trivial
  obtain rfl : text = "-128" := Option.some.inj (htext.symm.trans (by decide))
  exact ⟨read, hread, hpadded "\t" " \n" (by decide) (by decide)⟩

/-- Padding takes characters that are blanks away: a blank next to another may be the text of either
of them. So no function reads all characters, and the one that narrows texts fails on a blank. -/
theorem blank_not_readsPadded :
    (¬ ∃ read : String → Read Char, ∀ c, ReadsPadded read (String.singleton c) c) ∧
    ∃ read, HostType.standardText? .char ' ' = some " " ∧ narrow .char .string = some read ∧
      read " " = .error (.conversion "cannot parse char from empty string") := by
  refine ⟨?_, parseChar, rfl, rfl, by decide⟩
  rintro ⟨read, hread⟩
  have hspace : read " \t" = .ok ' ' := hread ' ' "" "\t" (by decide) (by decide)
  have htab : read " \t" = .ok '\t' := hread '\t' " " "" (by decide) (by decide)
  rw [hspace] at htab
  exact absurd (Except.ok.inj htab) (by decide)

end Rowsmith.Value
