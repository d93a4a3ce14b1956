import Rowsmith.Source.RawText
import Rowsmith.Text.Replace

/-!
# Substitution

Placeholders in a source are literals in double quotes. Each is replaced by the raw literal of the
text it stands for, one placeholder after the other.
-/

namespace Rowsmith.Unit
open Rowsmith.Source Rowsmith.Text

/-- A placeholder and the text it stands for. -/
structure Insertion where
  placeholder : String
  sql : String
  deriving DecidableEq, Repr

namespace Insertion

/-- The characters of the placeholder in its quotes. -/
def pattern (i : Insertion) : List Char := '"' :: i.placeholder.toList ++ ['"']

/-- The characters of the raw literal of the text. -/
def literal (i : Insertion) : List Char := fenced (fenceLength i.sql.toList) i.sql.toList

/-- A source with every occurrence of the placeholder replaced. -/
def apply (i : Insertion) (source : List Char) : List Char :=
  replaceChars i.pattern i.literal source

end Insertion

/-- The characters of a source with all placeholders replaced, one after the other. -/
def substituteChars (source : List Char) (insertions : List Insertion) : List Char :=
  insertions.foldl (fun text i => i.apply text) source

/-- A source with all placeholders replaced, one after the other. -/
def substitute (source : String) (insertions : List Insertion) : String :=
  String.ofList (substituteChars source.toList insertions)

@[simp] theorem substitute_nil (source : String) : substitute source [] = source := by
  simp [substitute, substituteChars]

end Rowsmith.Unit
