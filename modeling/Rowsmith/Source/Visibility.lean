import Rowsmith.Source.Phrase.Statement

/-!
# Visibilities

A visibility is empty, `pub`, or `pub` with a scope in parentheses.
-/

namespace Rowsmith.Source
namespace Phrase

/-- Whether the parentheses behind `pub` hold one of the scopes that are words. -/
def holdsScopeWord : List Token → Bool
  | .group .parenthesis [.word w] :: _ => ["crate", "self", "super"].contains w
  | _ => false

/-- Whether the parentheses behind `pub` hold a path. -/
def holdsScopePath : List Token → Bool
  | .group .parenthesis (.word "in" :: _) :: _ => true
  | _ => false

/-- Reads a visibility. Parentheses that hold no scope are left to what follows. -/
def visibility : Phrase (List Token) := do
  if ← peekWord "pub" then
    let head ← anyWord
    if ← peek holdsScopeWord then
      let (delimiter, body) ← anyGroup
      return head ++ [.group delimiter body]
    else if ← peek holdsScopePath then
      let scope ← inside .parenthesis (do return (← keyword "in") ++ (← plainPath))
      return head ++ parens scope
    else return head
  else return []

end Phrase
end Rowsmith.Source
