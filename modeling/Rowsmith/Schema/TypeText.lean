import Rowsmith.Text.Blank
import Rowsmith.Text.Replace

/-!
# Type texts

A property names its type by a text. Lookups fold its spelling; a marker makes it nullable.
-/

namespace Rowsmith.Schema
open Rowsmith.Text

/-- The lower case form of an ASCII letter. -/
def foldLetter (c : Char) : Char :=
  if 'A' ≤ c ∧ c ≤ 'Z' then Char.ofNat (c.toNat + 32) else c

/-- The paths that name the module of primitive types. -/
def primitivePaths : List String := ["std::primitive::", "core::primitive::"]

/-- A type text in the spelling that lookups use: without blanks, in lower case ASCII, not rooted,
and without the module of primitive types. -/
def normalize (text : String) : String :=
  let compact := (text.toList.filter (!isBlank ·)).map foldLetter
  primitivePaths.foldl (fun t path => replace t path "")
    (withoutStart "::" (String.ofList compact))

/-- The openings of a nullable type. -/
def nullableOpenings : List String :=
  ["Option<", "std::option::Option<", "core::option::Option<"]

/-- The characters between an opening and a closing angle bracket. -/
def enclosed? (cs : List Char) (opening : String) : Option (List Char) := do
  dropEnd? ['>'] (← dropStart? opening.toList cs)

/-- A type text without blanks and without its nullable marker, and whether it had one. -/
def stripNullable (text : String) : String × Bool :=
  let compact := text.toList.filter (!isBlank ·)
  match dropEnd? ['?'] compact with
  | some inner => (String.ofList inner, true)
  | none =>
    let unrooted := (dropStart? [':', ':'] compact).getD compact
    match nullableOpenings.findSome? (enclosed? unrooted) with
    | some inner => (String.ofList inner, true)
    | none => (String.ofList compact, false)

end Rowsmith.Schema
