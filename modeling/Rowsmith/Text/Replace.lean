/-!
# Parts of a text

Replacing, stripping and joining parts of a text. Occurrences are taken from the left and do not
overlap.
-/

namespace Rowsmith.Text

/-- Characters with every occurrence of a nonempty pattern replaced. The number counts characters
of an occurrence that are still to be passed. -/
def replaceFrom (pattern replacement : List Char) : Nat → List Char → List Char
  | _, [] => []
  | passed + 1, _ :: rest => replaceFrom pattern replacement passed rest
  | 0, c :: rest =>
    if pattern.isPrefixOf (c :: rest) then
      replacement ++ replaceFrom pattern replacement (pattern.length - 1) rest
    else c :: replaceFrom pattern replacement 0 rest

/-- Characters with every occurrence of a nonempty pattern replaced. -/
def replaceChars (pattern replacement cs : List Char) : List Char :=
  replaceFrom pattern replacement 0 cs

/-- A text with every occurrence of a nonempty pattern replaced. -/
def replace (text pattern replacement : String) : String :=
  String.ofList (replaceChars pattern.toList replacement.toList text.toList)

/-- The characters behind a beginning. -/
def dropStart? : (beginning cs : List Char) → Option (List Char)
  | [], cs => some cs
  | _ :: _, [] => none
  | b :: beginning, c :: cs => if b = c then dropStart? beginning cs else none

/-- The characters before an ending. -/
def dropEnd? (ending cs : List Char) : Option (List Char) :=
  (dropStart? ending.reverse cs.reverse).map List.reverse

/-- A text without a beginning, if it has that beginning. -/
def withoutStart (beginning text : String) : String :=
  match dropStart? beginning.toList text.toList with
  | some rest => String.ofList rest
  | none => text

@[simp] theorem replaceChars_nil (pattern replacement : List Char) :
    replaceChars pattern replacement [] = [] := by
  simp [replaceChars, replaceFrom]

theorem dropStart?_eq_some_iff {beginning cs rest : List Char} :
    dropStart? beginning cs = some rest ↔ cs = beginning ++ rest := by
  fun_induction dropStart? beginning cs with
  | case1 cs => simp
  | case2 => simp
  | case3 b beginning cs ih => simp [ih]
  | case4 b beginning c cs h => simp [Ne.symm h]

theorem dropEnd?_eq_some_iff {ending cs rest : List Char} :
    dropEnd? ending cs = some rest ↔ cs = rest ++ ending := by
  simp only [dropEnd?, Option.map_eq_some_iff, dropStart?_eq_some_iff]
  constructor
  · rintro ⟨front, hcs, rfl⟩
    rw [← List.reverse_reverse cs, hcs, List.reverse_append, List.reverse_reverse]
  · rintro rfl
    exact ⟨rest.reverse, List.reverse_append, List.reverse_reverse rest⟩

end Rowsmith.Text
