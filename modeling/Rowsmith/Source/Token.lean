import Rowsmith.Text.Escape
import Rowsmith.Text.IdentifierChar

/-!
# Tokens of source text

Source text in Rust is held as token trees: words, punctuation marks, literals and delimited
groups. Tokens print with one space between them, but none after a mark that belongs together with
the next.
-/

namespace Rowsmith.Source
open Rowsmith.Text

/-- The three pairs of brackets. -/
inductive Delimiter
  | parenthesis | bracket | brace
  deriving DecidableEq, Repr

/-- Whether a mark belongs together with the mark after it. -/
inductive Spacing
  | alone | joint
  deriving DecidableEq, Repr

/-- A token tree. Words are identifiers and keywords, with the `r#` of a raw identifier. -/
inductive Token
  | word (text : String)
  | mark (char : Char) (spacing : Spacing)
  | literal (text : String)
  | group (delimiter : Delimiter) (body : List Token)
  deriving Repr

namespace Token

/-- Whether the next token follows without a space. -/
def isJoint : Token → Bool
  | mark _ .joint => true
  | _ => false

mutual

/-- The text of one token. -/
def text : Token → String
  | word w => w
  | mark c _ => c.toString
  | literal l => l
  | group .parenthesis body => "(" ++ textAll body ++ ")"
  | group .bracket body => "[" ++ textAll body ++ "]"
  | group .brace body => "\x7b " ++ textAll body ++ (if body.isEmpty then "\x7d" else " \x7d")

/-- The text of a list of tokens. -/
def textAll : List Token → String
  | [] => ""
  | [t] => text t
  | t :: u :: rest => text t ++ (if t.isJoint then "" else " ") ++ textAll (u :: rest)

end

mutual

/-- Number of tokens in a token tree, the tree itself included. -/
def weight : Token → Nat
  | group _ body => 1 + weightAll body
  | _ => 1

/-- Number of tokens in a list of token trees. -/
def weightAll : List Token → Nat
  | [] => 0
  | t :: rest => weight t + weightAll rest

end

end Token

/-- Marks of one operator: joint inside and alone at the end. -/
def operatorMarks : List Char → List Token
  | [] => []
  | [c] => [.mark c .alone]
  | c :: d :: rest => .mark c .joint :: operatorMarks (d :: rest)

/-- The token or tokens that a template writes without a space inside. -/
def templatePiece : List Char → List Token
  | [] => []
  | c :: rest =>
    if isIdentifierStart c then [.word (String.ofList (c :: rest))] else operatorMarks (c :: rest)

/-- The pieces of a template between single spaces, given the open piece in reverse. -/
def templatePieces (current : List Char) : List Char → List (List Char)
  | [] => [current.reverse]
  | c :: rest =>
    if c = ' ' then current.reverse :: templatePieces [] rest
    else templatePieces (c :: current) rest

/-- Tokens of a template: words and operators parted by spaces. -/
def code (template : String) : List Token :=
  (templatePieces [] template.toList).flatMap templatePiece

/-- A parenthesised group. -/
def parens (body : List Token) : List Token := [.group .parenthesis body]

/-- A bracketed group. -/
def brackets (body : List Token) : List Token := [.group .bracket body]

/-- A braced group. -/
def braces (body : List Token) : List Token := [.group .brace body]

/-- One word. -/
def word (text : String) : List Token := [.word text]

/-- The string literal of a text. -/
def textLiteral (text : String) : List Token := [.literal (stringLiteral text)]

/-- The literal of a column ordinal. -/
def ordinalLiteral (n : Nat) : List Token := [.literal (toString n ++ "usize")]

/-- A documentation attribute whose text is computed. -/
def documentation (text : String) : List Token :=
  code "#" ++ brackets (code "doc =" ++ textLiteral text)

/-- A documentation attribute with a fixed text of plain characters. -/
def fixedDocumentation (text : String) : List Token :=
  code "#" ++ brackets (code "doc =" ++ [.literal ("r\" " ++ text ++ "\"")])

end Rowsmith.Source
