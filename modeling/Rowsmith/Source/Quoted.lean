import Rowsmith.Source.RawText
import Rowsmith.Text.IdentifierChar

/-!
# Quoted literals

String, byte string and C string literals, raw ones among them, and character and byte literals.
Each scanner takes the characters from the literal on and gives the characters after it; it fails
when no literal of its kind stands there.
-/

namespace Rowsmith.Source
open Rowsmith.Text

/-- An identifier at the front and the characters after it. -/
def splitIdentifier : List Char → Option (List Char × List Char)
  | c :: rest =>
    if isIdentifierStart c then
      some (c :: rest.takeWhile isIdentifierContinue, rest.dropWhile isIdentifierContinue)
    else none
  | [] => none

theorem append_of_splitIdentifier {cs name after : List Char}
    (h : splitIdentifier cs = some (name, after)) : name ++ after = cs := by
  cases cs with
  | nil => simp [splitIdentifier] at h
  | cons c rest =>
    simp only [splitIdentifier] at h
    split at h
    · simp only [Option.some.injEq, Prod.mk.injEq] at h
      rw [← h.1, ← h.2, List.cons_append, List.takeWhile_append_dropWhile]
    · simp at h

/-- The characters after the suffix of a literal, which may be absent. -/
def skipSuffix (cs : List Char) : List Char :=
  match splitIdentifier cs with
  | some (_, after) => after
  | none => cs

/-- The value of a hexadecimal digit. -/
def hexValue (c : Char) : Option Nat :=
  if '0' ≤ c && c ≤ '9' then some (c.toNat - 48)
  else if 'a' ≤ c && c ≤ 'f' then some (c.toNat - 87)
  else if 'A' ≤ c && c ≤ 'F' then some (c.toNat - 55)
  else none

/-- The three kinds of quoted literals: texts, bytes, and texts that end at a null. -/
inductive QuotedKind
  | text | bytes | nullTerminated
  deriving DecidableEq, Repr

/-- Whether a character may stand in a literal of the kind without an escape. -/
def QuotedKind.admits : QuotedKind → Char → Bool
  | .text, _ => true
  | .bytes, c => c.toNat < 128
  | .nullTerminated, c => c.toNat != 0

/-- Whether the kind takes the byte written by two hexadecimal digits. -/
def QuotedKind.admitsByte (kind : QuotedKind) (high low : Nat) : Bool :=
  match kind with
  | .text => high < 8
  | .bytes => true
  | .nullTerminated => high != 0 || low != 0

/-- The code point written between braces in at most six digits, and the characters after it. Low
lines may stand after the first digit. -/
def codePointFrom (value digits : Nat) : List Char → Option (Nat × List Char)
  | [] => none
  | c :: rest =>
    match hexValue c with
    | some d => if digits = 6 then none else codePointFrom (16 * value + d) (digits + 1) rest
    | none =>
      if digits = 0 then none
      else if c = '_' then codePointFrom value digits rest
      else if c = '\x7d' ∧ value.isValidChar then some (value, rest)
      else none

/-- The code point of an escape whose `u` has been read. -/
def codePoint : List Char → Option (Nat × List Char)
  | '\x7b' :: rest => codePointFrom 0 0 rest
  | _ => none

/-- The characters after an escape whose backslash has been read, lines that are continued
excluded. -/
def skipEscape (kind : QuotedKind) : List Char → Option (List Char)
  | 'x' :: h :: l :: rest =>
    match hexValue h, hexValue l with
    | some high, some low => if kind.admitsByte high low then some rest else none
    | _, _ => none
  | 'u' :: rest =>
    match kind, codePoint rest with
    | .bytes, _ | _, none => none
    | .nullTerminated, some (n, after) => if n = 0 then none else some after
    | .text, some (_, after) => some after
  | '0' :: rest => if kind = .nullTerminated then none else some rest
  | c :: rest =>
    if ['n', 'r', 't', '\\', '"'].contains c || c.toNat = 0x27 then some rest else none
  | [] => none

/-- The first character after a continued line that is not blank. The flag says that a carriage
return has just been read, which a line feed must follow. -/
def skipContinuation : Bool → List Char → Option (List Char)
  | true, '\n' :: rest => skipContinuation false rest
  | true, _ => none
  | false, c :: rest =>
    if c = ' ' || c = '\t' || c = '\n' then skipContinuation false rest
    else if c = '\r' then skipContinuation true rest
    else some (c :: rest)
  | false, [] => none

/-- The characters after a quoted body whose opening quote has been read, in at most `fuel`
steps. -/
def skipQuotedBody (kind : QuotedKind) : Nat → List Char → Option (List Char)
  | 0, _ | _, [] => none
  | _ + 1, '"' :: rest => some (skipSuffix rest)
  | fuel + 1, '\r' :: '\n' :: rest => skipQuotedBody kind fuel rest
  | _ + 1, '\r' :: _ => none
  | fuel + 1, '\\' :: '\n' :: rest => skipContinuation false rest >>= skipQuotedBody kind fuel
  | fuel + 1, '\\' :: '\r' :: rest => skipContinuation true rest >>= skipQuotedBody kind fuel
  | fuel + 1, '\\' :: rest => skipEscape kind rest >>= skipQuotedBody kind fuel
  | fuel + 1, c :: rest => if kind.admits c then skipQuotedBody kind fuel rest else none

/-- Whether every carriage return is followed by a line feed. -/
def returnsPaired : List Char → Bool
  | '\r' :: '\n' :: rest => returnsPaired rest
  | '\r' :: _ => false
  | _ :: rest => returnsPaired rest
  | [] => true

/-- The characters after a raw literal whose marker has been read. The fence has at most 255
hashes. -/
def skipRaw (kind : QuotedKind) (cs : List Char) : Option (List Char) :=
  let fence := (cs.takeWhile (· = '#')).length
  match cs.drop fence with
  | '"' :: rest =>
    match rawBody fence rest with
    | some (body, after) =>
      if fence ≤ 255 && returnsPaired body && body.all kind.admits then some (skipSuffix after)
      else none
    | none => none
  | _ => none

/-- The characters after a plain or raw literal of one kind, given the letter that marks the kind
and the characters after that letter. -/
def skipString (kind : QuotedKind) : List Char → Option (List Char)
  | '"' :: rest => skipQuotedBody kind (rest.length + 1) rest
  | 'r' :: rest => skipRaw kind rest
  | _ => none

/-- The characters after the closing quote of a character or byte, if it comes next. -/
def skipClosingQuote : List Char → Option (List Char)
  | c :: rest => if c.toNat = 0x27 then some (skipSuffix rest) else none
  | [] => none

/-- The characters after a character or byte whose opening quote has been read. -/
def skipSingle (kind : QuotedKind) : List Char → Option (List Char)
  | '\\' :: rest => skipEscape kind rest >>= skipClosingQuote
  | c :: rest => if kind.admits c then skipClosingQuote rest else none
  | [] => none

/-- The characters after a quoted literal of any kind. -/
def skipQuoted (cs : List Char) : Option (List Char) :=
  let byteSingle : List Char → Option (List Char)
    | 'b' :: c :: rest => if c.toNat = 0x27 then skipSingle .bytes rest else none
    | _ => none
  let single : List Char → Option (List Char)
    | c :: rest => if c.toNat = 0x27 then skipSingle .text rest else none
    | [] => none
  let marked (mark : Char) (kind : QuotedKind) : Option (List Char) :=
    match cs with
    | c :: rest => if c = mark then skipString kind rest else none
    | [] => none
  skipString .text cs <|> marked 'b' .bytes <|> marked 'c' .nullTerminated
    <|> byteSingle cs <|> single cs

end Rowsmith.Source
