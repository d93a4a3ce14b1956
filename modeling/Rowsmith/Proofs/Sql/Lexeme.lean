import Mathlib.Data.List.Basic
import Rowsmith.Sql.Statement

/-!
# Lexemes of statements

The text of a statement falls into words and symbols; blanks only part them. Texts
that are joined where no word goes on are read one after the other, so that the
lexemes of a statement are those of its parts.
-/

namespace Rowsmith.Sql

/-- Whether a character belongs to a word: a letter or a digit of ASCII, or `_`. -/
def isWordChar (c : Char) : Bool := c.isAlphanum || c == '_'

/-- Whether a text is one word, which may stand where a name is read. -/
def IsPlain (name : String) : Prop := name ≠ "" ∧ name.toList.all isWordChar = true

instance (name : String) : Decidable (IsPlain name) :=
  inferInstanceAs (Decidable (name ≠ "" ∧ name.toList.all isWordChar = true))

/-- A part of the text of a statement. -/
inductive Lexeme
  | word (text : String)
  | symbol (c : Char)
  deriving DecidableEq, Repr

/-- The lexeme of an open word, if there is one. -/
def closeWord : List Char → List Lexeme
  | [] => []
  | c :: cs => [.word (String.ofList (c :: cs))]

/-- The lexeme of a character outside of words; blanks have none. -/
def symbolOf (c : Char) : List Lexeme :=
  if c = ' ' ∨ c = '\n' then [] else [.symbol c]

/-- The lexemes of characters, given the open word. -/
def lexemesFrom (word : List Char) : List Char → List Lexeme
  | [] => closeWord word
  | c :: cs =>
    if isWordChar c then lexemesFrom (word ++ [c]) cs
    else closeWord word ++ symbolOf c ++ lexemesFrom [] cs

/-- The lexemes of a text. -/
def lexemes (text : String) : List Lexeme := lexemesFrom [] text.toList

theorem lexemesFrom_word {cs : List Char} (h : ∀ c ∈ cs, isWordChar c = true)
    (word rest : List Char) : lexemesFrom word (cs ++ rest) = lexemesFrom (word ++ cs) rest := by
  induction cs generalizing word with
  | nil => simp
  | cons c cs ih =>
      have hc : isWordChar c = true := h c List.mem_cons_self
      have hcs := ih (fun d hd => h d (List.mem_cons_of_mem c hd)) (word ++ [c])
      rw [List.cons_append, lexemesFrom, if_pos hc, hcs, List.append_assoc, List.singleton_append]

/-- A name is one lexeme. -/
theorem lexemes_of_isPlain {name : String} (h : IsPlain name) : lexemes name = [.word name] := by
  obtain ⟨hne, hword⟩ := h
  have hw := lexemesFrom_word (List.all_eq_true.mp hword) [] []
  rw [List.append_nil, List.nil_append] at hw
  rw [lexemes, hw, lexemesFrom]
  cases hl : name.toList with
  | nil => exact absurd (String.toList_eq_nil_iff.mp hl) hne
  | cons c cs => rw [closeWord, ← hl, String.ofList_toList]

/-- An open word ends before a character that belongs to no word. -/
theorem lexemesFrom_append_right (cs : List Char) (h : ∀ c ∈ cs.head?, isWordChar c = false)
    (word before : List Char) :
    lexemesFrom word (before ++ cs) = lexemesFrom word before ++ lexemesFrom [] cs := by
  induction before generalizing word with
  | nil =>
      cases cs with
      | nil => simp [lexemesFrom, closeWord]
      | cons c cs =>
          have hc : isWordChar c = false := h c rfl
          simp [lexemesFrom, closeWord, hc]
  | cons b before ih =>
      rw [List.cons_append, lexemesFrom, lexemesFrom]
      split
      · exact ih (word ++ [b])
      · rw [ih [], List.append_assoc, List.append_assoc, List.append_assoc]

/-- No word is open behind a character that belongs to none. -/
theorem lexemesFrom_append_left {before : List Char}
    (h : ∀ c ∈ before.getLast?, isWordChar c = false) (cs : List Char) :
    lexemesFrom [] (before ++ cs) = lexemesFrom [] before ++ lexemesFrom [] cs := by
  obtain rfl | ⟨init, last, rfl⟩ := before.eq_nil_or_concat'
  · rfl
  · have hlast : isWordChar last = false := h last (by simp)
    have hinit := lexemesFrom_append_right [last] (by simpa using hlast) [] init
    have hall := lexemesFrom_append_right (last :: cs) (by simpa using hlast) [] init
    have hone : lexemesFrom [] (last :: cs) = lexemesFrom [] [last] ++ lexemesFrom [] cs := by
      simp [lexemesFrom, closeWord, hlast]
    rw [List.append_assoc, List.singleton_append, hall, hinit, hone, List.append_assoc]

/-- Whether no word is open at the end of a text. -/
def endsApart (s : String) : Bool := s.toList.getLast?.all (!isWordChar ·)

/-- Whether no word goes on at the start of a text. -/
def startsApart (s : String) : Bool := s.toList.head?.all (!isWordChar ·)

/-- Where no word goes on, texts are read one after the other. -/
theorem lexemes_append {s t : String} (h : endsApart s = true ∨ startsApart t = true) :
    lexemes (s ++ t) = lexemes s ++ lexemes t := by
  rw [lexemes, lexemes, lexemes, String.toList_append]
  simp only [endsApart, startsApart, Option.all_eq_true, Bool.not_eq_true'] at h
  rcases h with h | h
  · exact lexemesFrom_append_left h t.toList
  · exact lexemesFrom_append_right t.toList h [] s.toList

theorem endsApart_append {s t : String} (ht : t ≠ "") : endsApart (s ++ t) = endsApart t := by
  have hl : t.toList ≠ [] := fun h => ht (String.toList_eq_nil_iff.mp h)
  rw [endsApart, endsApart, String.toList_append, List.getLast?_append_of_ne_nil _ hl]

theorem startsApart_append {s t : String} (hs : s ≠ "") :
    startsApart (s ++ t) = startsApart s := by
  have hl : s.toList ≠ [] := fun h => hs (String.toList_eq_nil_iff.mp h)
  rw [startsApart, startsApart, String.toList_append, List.head?_append_of_ne_nil _ hl]

/-- Whether a text parts what is before it from what is behind it. -/
def separates (s : String) : Bool := s != "" && startsApart s && endsApart s

theorem lexemes_around {k : String} (h : separates k = true) (s t : String) :
    lexemes (s ++ k ++ t) = lexemes s ++ lexemes k ++ lexemes t := by
  simp only [separates, Bool.and_eq_true, bne_iff_ne, ne_eq] at h
  obtain ⟨⟨hne, hstart⟩, hend⟩ := h
  have hleft : endsApart (s ++ k) = true := by rw [endsApart_append hne, hend]
  rw [lexemes_append (Or.inl hleft), lexemes_append (Or.inr hstart)]

/-- A comma. -/
abbrev Lexeme.comma : Lexeme := .symbol ','

/-- Texts that are parted are read one after the other. -/
theorem lexemes_intercalate {separator : String} (h : separates separator = true)
    (texts : List String) :
    lexemes (separator.intercalate texts) =
      (lexemes separator).intercalate (texts.map lexemes) := by
  induction texts with
  | nil => rfl
  | cons text texts ih =>
      cases texts with
      | nil => simp
      | cons next texts =>
          rw [String.intercalate_cons_cons, lexemes_around h, ih]
          simp only [List.map_cons, List.intercalate_cons_cons]

/-- Names parted by commas are read one after the other. -/
theorem lexemes_commaSeparated (names : List String) :
    lexemes (commaSeparated names) = [Lexeme.comma].intercalate (names.map lexemes) := by
  have hcomma : lexemes ", " = [Lexeme.comma] := rfl
  rw [commaSeparated, lexemes_intercalate rfl, hcomma]

end Rowsmith.Sql
