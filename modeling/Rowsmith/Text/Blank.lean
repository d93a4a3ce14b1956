import Rowsmith.Text.Range

/-!
# Blanks

The characters with the Unicode property White_Space, and texts with blanks taken out or trimmed
off.
-/

namespace Rowsmith.Text

/-- The code points with the property White_Space. -/
def blankRanges : List (Nat × Nat) := [
  (0x09, 0x0D), (0x20, 0x20), (0x85, 0x85), (0xA0, 0xA0), (0x1680, 0x1680), (0x2000, 0x200A),
  (0x2028, 0x2029), (0x202F, 0x202F), (0x205F, 0x205F), (0x3000, 0x3000)]

/-- Whether the character is white space. -/
def isBlank (c : Char) : Bool :=
  inRanges blankRanges c.toNat

/-- A text without its blanks. -/
def dropBlanks (text : String) : String :=
  String.ofList (text.toList.filter (!isBlank ·))

/-- Characters without the blanks at either end. -/
def trimBlanks (cs : List Char) : List Char :=
  ((cs.dropWhile isBlank).reverse.dropWhile isBlank).reverse

@[simp] theorem toList_dropBlanks (text : String) :
    (dropBlanks text).toList = text.toList.filter (!isBlank ·) := by
  simp [dropBlanks]

end Rowsmith.Text
