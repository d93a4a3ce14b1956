/-!
# Raw string literals

A raw literal holds its text verbatim between two fences of a quote and hashes. The fence has one
hash more than any run of hashes after a quote of the text, so the text cannot close it.
-/

namespace Rowsmith.Source

/-- The hashes of a fence. -/
def hashes (n : Nat) : List Char := List.replicate n '#'

/-- The longest run of hashes that follows a quote. -/
def longestRun : List Char → Nat
  | [] => 0
  | c :: rest =>
    if c = '"' then max (rest.takeWhile (· = '#')).length (longestRun rest) else longestRun rest

/-- The number of hashes that fences a text: the least one, from one on, that no quote of the text
is followed by. -/
def fenceLength (text : List Char) : Nat := longestRun text + 1

/-- The raw literal of a text with a given number of hashes. -/
def fenced (n : Nat) (text : List Char) : List Char :=
  'r' :: (hashes n ++ '"' :: (text ++ '"' :: hashes n))

/-- The raw literal of a text. -/
def rawLiteral (text : String) : String :=
  String.ofList (fenced (fenceLength text.toList) text.toList)

/-- The text up to the first quote with `n` hashes behind it, and what follows these. -/
def rawBody (n : Nat) : List Char → Option (List Char × List Char)
  | [] => none
  | c :: rest =>
    if c = '"' ∧ (hashes n).isPrefixOf rest then some ([], rest.drop n)
    else (rawBody n rest).map fun (body, after) => (c :: body, after)

end Rowsmith.Source
