import Rowsmith.Source.Number
import Rowsmith.Source.Token
import Rowsmith.Text.Blank

/-!
# Tokens of a text

A text is cut into token trees. Blanks and comments part tokens; documentation comments become
attributes. A text with an unclosed bracket, literal or comment, or with a character of no token,
has no tokens.
-/

namespace Rowsmith.Source
open Rowsmith.Text

/-- Blanks between tokens, the two direction marks included. -/
def isTokenBlank (c : Char) : Bool :=
  isBlank c || c.toNat = 0x200E || c.toNat = 0x200F

/-- The characters after a block comment; comments nest. -/
def skipBlockComment : Nat → List Char → Option (List Char)
  | depth, '/' :: '*' :: rest => skipBlockComment (depth + 1) rest
  | depth, '*' :: '/' :: rest => if depth ≤ 1 then some rest else skipBlockComment (depth - 1) rest
  | depth, _ :: rest => skipBlockComment depth rest
  | _, [] => none

/-- The rest of a line and the text from its end on. -/
def splitLine : List Char → List Char × List Char
  | [] => ([], [])
  | '\n' :: rest => ([], '\n' :: rest)
  | '\r' :: '\n' :: rest => ([], '\n' :: rest)
  | c :: rest => let (line, after) := splitLine rest; (c :: line, after)

/-- Whether a line comment without documentation stands at the front. -/
def atLineComment : List Char → Bool
  | '/' :: '/' :: '/' :: '/' :: _ => true
  | '/' :: '/' :: '/' :: _ | '/' :: '/' :: '!' :: _ => false
  | '/' :: '/' :: _ => true
  | _ => false

/-- Whether a block comment without documentation stands at the front. -/
def atBlockComment : List Char → Bool
  | '/' :: '*' :: '*' :: '*' :: _ | '/' :: '*' :: '*' :: '/' :: _ => true
  | '/' :: '*' :: '*' :: _ | '/' :: '*' :: '!' :: _ => false
  | '/' :: '*' :: _ => true
  | _ => false

/-- The text from its first token or documentation comment on, in at most `fuel` steps. A block
comment that does not end is left in place. -/
def skipTokenBlanks : Nat → List Char → List Char
  | 0, cs => cs
  | _ + 1, [] => []
  | fuel + 1, c :: rest =>
    if atLineComment (c :: rest) then skipTokenBlanks fuel (splitLine rest).2
    else if atBlockComment (c :: rest) then
      match skipBlockComment 0 (c :: rest) with
      | some after => skipTokenBlanks fuel after
      | none => c :: rest
    else if isTokenBlank c then skipTokenBlanks fuel rest
    else c :: rest

/-- The characters between two positions of a text. -/
def textBetween (cs after : List Char) : List Char :=
  cs.take (cs.length - after.length)

/-- The text of a block comment between its opening and closing marks. -/
def blockText (cs after : List Char) : List Char :=
  ((textBetween cs after).drop 3).dropLast.dropLast

/-- A documentation comment: its text, whether it documents what encloses it, and what follows. -/
def documentationComment : List Char → Option (List Char × Bool × List Char)
  | '/' :: '/' :: '!' :: rest => let (line, after) := splitLine rest; some (line, true, after)
  | cs@('/' :: '*' :: '!' :: _) =>
    (skipBlockComment 0 cs).map fun after => (blockText cs after, true, after)
  | '/' :: '/' :: '/' :: '/' :: _ => none
  | '/' :: '/' :: '/' :: rest => let (line, after) := splitLine rest; some (line, false, after)
  | '/' :: '*' :: '*' :: '*' :: _ => none
  | cs@('/' :: '*' :: '*' :: _) =>
    (skipBlockComment 0 cs).map fun after => (blockText cs after, false, after)
  | _ => none

/-- The attribute that a documentation comment stands for. -/
def documentationTokens (comment : List Char) (inner : Bool) : List Token :=
  [.mark '#' .alone] ++ (if inner then [.mark '!' .alone] else []) ++
    brackets (code "doc =" ++ textLiteral (String.ofList comment))

/-- The characters that are marks, the quote of a lifetime left out. -/
def isMark (c : Char) : Bool :=
  ['~', '!', '@', '#', '$', '%', '^', '&', '*', '-', '=', '+', '|', ';', ':', ',', '<', '.', '>',
    '/', '?'].contains c

/-- Whether a mark or a lifetime quote stands at the front; a slash that opens a comment is none. -/
def atMark : List Char → Bool
  | '/' :: '/' :: _ | '/' :: '*' :: _ => false
  | c :: _ => isMark c || c.toNat = 0x27
  | [] => false

/-- Names that stay keywords behind the raw prefix. -/
def isPathKeyword (text : String) : Bool :=
  ["_", "super", "self", "Self", "crate"].contains text

/-- An identifier at the front, raw or plain, and the characters after it. -/
def splitAnyIdentifier : List Char → Option (List Char × List Char)
  | 'r' :: '#' :: rest => do
    let (name, after) ← splitIdentifier rest
    if isPathKeyword (String.ofList name) then none else some ('r' :: '#' :: name, after)
  | cs => splitIdentifier cs

/-- Whether a lifetime may end before the text: no quote, and no hash unless its name is raw. -/
def endsLifetime (isRaw : Bool) : List Char → Bool
  | c :: _ => c.toNat != 0x27 && (c != '#' || isRaw)
  | [] => true

/-- A mark and the characters after it. -/
def lexMark : List Char → Option (Token × List Char)
  | [] => none
  | c :: rest =>
    if !atMark (c :: rest) then none
    else if c.toNat = 0x27 then do
      let (_, after) ← splitAnyIdentifier rest
      if endsLifetime (['r', '#'].isPrefixOf rest) after then some (.mark c .joint, rest) else none
    else some (.mark c (if atMark rest then .joint else .alone), rest)

/-- Openings that look like identifiers and belong to literals. -/
def opensLiteral (cs : List Char) : Bool :=
  ["r\"", "r#\"", "r##", "b\"", "b\x27", "br\"", "br#", "c\"", "cr\"", "cr#"].any
    (·.toList.isPrefixOf cs)

/-- A token without brackets and the characters after it. -/
def lexLeaf (cs : List Char) : Option (Token × List Char) :=
  match skipQuoted cs <|> skipNumber cs with
  | some after => some (.literal (String.ofList (textBetween cs after)), after)
  | none =>
    match lexMark cs with
    | some found => some found
    | none =>
      if opensLiteral cs then none
      else (splitAnyIdentifier cs).map fun (name, after) => (.word (String.ofList name), after)

/-- The group that a bracket opens. -/
def opening : Char → Option Delimiter
  | '(' => some .parenthesis
  | '[' => some .bracket
  | '\x7b' => some .brace
  | _ => none

/-- The group that a bracket closes. -/
def closing : Char → Option Delimiter
  | ')' => some .parenthesis
  | ']' => some .bracket
  | '\x7d' => some .brace
  | _ => none

/-- Token trees of a text in at most `fuel` steps. The open groups are held with the tokens before
them, innermost first; token lists are held in reverse. -/
def lexFrom : Nat → List (Delimiter × List Token) → List Token → List Char → Option (List Token)
  | 0, _, _, _ => none
  | fuel + 1, outer, done, cs =>
    let cs := skipTokenBlanks (fuel + 1) cs
    match documentationComment cs with
    | some (comment, inner, after) =>
      if returnsPaired comment then
        lexFrom fuel outer ((documentationTokens comment inner).reverse ++ done) after
      else none
    | none =>
      match cs with
      | [] => if outer.isEmpty then some done.reverse else none
      | c :: rest =>
        match opening c, closing c with
        | some delimiter, _ => lexFrom fuel ((delimiter, done) :: outer) [] rest
        | none, some delimiter =>
          match outer with
          | (expected, before) :: outer =>
            if expected = delimiter then
              lexFrom fuel outer (.group delimiter done.reverse :: before) rest
            else none
          | [] => none
        | none, none =>
          match lexLeaf (c :: rest) with
          | some (token, after) => lexFrom fuel outer (token :: done) after
          | none => none

/-- The token trees of a text; a byte order mark at its front is skipped. -/
def tokenize (text : String) : Option (List Token) :=
  let cs := match text.toList with
    | c :: rest => if c.toNat = 0xFEFF then rest else c :: rest
    | [] => []
  lexFrom (cs.length + 1) [] [] cs

end Rowsmith.Source
