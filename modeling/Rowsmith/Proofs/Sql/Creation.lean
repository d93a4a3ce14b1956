import Rowsmith.Proofs.Schema.Extraction
import Rowsmith.Proofs.Sql.Reader
import Rowsmith.Sql.Operation

/-!
# Statements that create tables

The grammar of the statements that create tables, as a reader of lexemes. Positions decide what
a word is, so that names may be words of the grammar. The statement of every table with plain
names is read back, and so its text says all that the statement does.
-/

namespace Rowsmith.Sql
open Lexeme Schema

/-- A line between the parentheses of a statement that creates a table. -/
inductive Line
  | column (c : ColumnDefinition)
  | unique (columns : List String)
  deriving DecidableEq, Repr

/-- The columns of a line that says that they are unique together. -/
def Line.unique? : Line → Option (List String)
  | .column _ => none
  | .unique columns => some columns

/-- The columns and the lists of unique columns, if the lists come last. -/
def Line.split : List Line → Option (List ColumnDefinition × List (List String))
  | .column c :: lines => (split lines).map fun p => (c :: p.1, p.2)
  | lines => (lines.mapM Line.unique?).map ([], ·)

/-- The column types with the words that statements have for them. -/
def typeWords : List (String × ColumnType) := [
  ("SMALLINT", .smallInt), ("INTEGER", .integer), ("BIGINT", .bigInt), ("REAL", .real),
  ("DOUBLE PRECISION", .doublePrecision), ("DECIMAL", .decimal), ("CHAR", .char),
  ("VARCHAR", .varchar), ("TEXT", .text), ("DATE", .date), ("TIME", .time),
  ("TIMESTAMP", .timestamp), ("BOOLEAN", .boolean), ("BLOB", .blob)]

namespace Reader

/-- Whether the lexemes of a text are next. -/
def isAhead (text : String) : Reader Bool := fun ls => some ((lexemes text).isPrefixOf ls, ls)

/-- Whether the lexemes of a text are next, which are then taken. -/
def optional (text : String) : Reader Bool := do
  if ← isAhead text then
    phrase text
    return true
  else return false

/-- The column type whose words are next. -/
def typeAhead : Reader (String × ColumnType) := fun ls =>
  (typeWords.find? fun p => (lexemes p.1).isPrefixOf ls).map (·, ls)

/-- A column type, for which there may be two words. -/
def columnType : Reader ColumnType := do
  let (words, t) ← typeAhead
  phrase words
  return t

/-- The table and the column that a column refers to, if it does. -/
def reference : Reader (Option (String × String)) := do
  if ← optional "REFERENCES" then
    let table ← name
    phrase "("
    let column ← name
    phrase ")"
    return some (table, column)
  else return none

/-- The definition of a column behind its name. -/
def definition (name : String) : Reader ColumnDefinition := do
  let type ← columnType
  let isPrimaryKey ← optional "PRIMARY KEY"
  let isUnique ← optional "UNIQUE"
  let isRequired ← optional "NOT NULL"
  let references ← reference
  return { name, type, isPrimaryKey, isUnique, isRequired, references }

/-- A line. A parenthesis behind its first word tells a list from a column. -/
def line : Reader Line := do
  let first ← name
  if ← optional "(" then
    guard (first = "UNIQUE")
    return .unique (← items name (.symbol ')'))
  else return .column (← definition first)

/-- The lines of a statement behind the opening parenthesis. -/
def body (ifAbsent : Bool) (table : String) : Reader Statement := do
  let lines ← items line (.symbol ')')
  phrase ";"
  match Line.split lines with
  | some (c :: columns, uniques) => return .create ifAbsent table (c :: columns) uniques
  | _ => failure

/-- A statement that creates a table. A parenthesis behind its third word tells that the word is
the name of the table. -/
def creation : Reader Statement := do
  phrase "CREATE TABLE"
  let first ← name
  if ← optional "(" then body false first
  else
    guard (first = "IF")
    phrase "NOT EXISTS"
    let table ← name
    phrase "("
    body true table

end Reader

/-- The statement creating a table that a text is, if it is one as a whole. -/
def Statement.ofCreation? (text : String) : Option Statement :=
  match Reader.creation (lexemes text) with
  | some (s, []) => some s
  | _ => none

/-- The lines of columns and of lists behind them are split into both again. -/
theorem Line.split_append (columns : List ColumnDefinition) (uniques : List (List String)) :
    Line.split (columns.map Line.column ++ uniques.map Line.unique) = some (columns, uniques) := by
  have hlists : (uniques.map Line.unique).mapM Line.unique? = some uniques := by
    induction uniques with
    | nil => rfl
    | cons u uniques ih => simp [List.mapM_cons, ih, Line.unique?]
  induction columns with
  | nil =>
      cases uniques with
      | nil => rfl
      | cons u uniques =>
          rw [List.map_nil, List.nil_append, List.map_cons, Line.split, ← List.map_cons, hlists]
          · rfl
          · simp
  | cons c columns ih =>
      rw [List.map_cons, List.cons_append, Line.split, ih]
      rfl

section Clauses

/-- The lexemes of a clause, if it is there. -/
def clause (here : Bool) (text : String) : List Lexeme := if here then lexemes text else []

/-- The lexemes of a clause on what a column refers to. -/
def referenceClause : Option (String × String) → List Lexeme
  | some (table, column) =>
    [word "REFERENCES", word table, symbol '(', word column, symbol ')']
  | none => []

/-- Whether a lexeme ends a line. -/
def EndsLine (l : Lexeme) : Prop := l = comma ∨ l = symbol ')'

theorem isPrefixOf_append_self (ls rest : List Lexeme) : ls.isPrefixOf (ls ++ rest) = true := by
  rw [List.isPrefixOf_iff_prefix]
  exact List.prefix_append ls rest

theorem Reads.optional (text : String) :
    Reads (Reader.optional text) true (lexemes text) := by
  intro rest
  have hphrase : Reads (do Reader.phrase text; return true) true (lexemes text ++ []) :=
    Reads.bind (Reads.phrase text) (Reads.pure true)
  have hahead : Reader.isAhead text (lexemes text ++ rest) =
      some (true, lexemes text ++ rest) := by
    rw [Reader.isAhead, isPrefixOf_append_self]
  rw [List.append_nil] at hphrase
  rw [Reader.optional, Reader.bind_eq hahead]
  exact hphrase rest

/-- A text is not taken where another lexeme than its first is next. -/
theorem ReadsBefore.optional_false {text : String} {first : Lexeme}
    (hfirst : (lexemes text).head? = some first) :
    ReadsBefore (· ≠ first) (Reader.optional text) false [] := by
  intro l hl rest
  obtain ⟨ls, hls⟩ : ∃ ls, lexemes text = first :: ls := List.head?_eq_some_iff.mp hfirst
  have hahead : Reader.isAhead text (l :: rest) = some (false, l :: rest) := by
    rw [Reader.isAhead, hls, List.isPrefixOf, beq_eq_false_iff_ne.mpr (Ne.symm hl), Bool.false_and]
  rw [List.nil_append, Reader.optional, Reader.bind_eq hahead]
  rfl

theorem ReadsBefore.optional {text : String} {first : Lexeme}
    (hfirst : (lexemes text).head? = some first) (here : Bool) :
    ReadsBefore (· ≠ first) (Reader.optional text) here (clause here text) := by
  cases here with
  | true => exact (Reads.optional text).before
  | false => exact ReadsBefore.optional_false hfirst

theorem mem_columnTypes (t : ColumnType) : t ∈ ColumnType.all := by
  cases t <;> decide

/-- The name of a column type in a statement is what the grammar has for it. -/
theorem typeWords_eq : typeWords = ColumnType.all.map fun t => (t.sqlName, t) := by decide

theorem mem_typeWords (t : ColumnType) : (t.sqlName, t) ∈ typeWords := by
  rw [typeWords_eq]
  exact List.mem_map_of_mem (mem_columnTypes t)

/-- No words for a column type begin with the words for another one. -/
theorem eq_of_prefix_typeWords {p q : String × ColumnType} (hp : p ∈ typeWords)
    (hq : q ∈ typeWords) (h : lexemes p.1 <+: lexemes q.1) : p = q := by
  have hall : ∀ p ∈ typeWords, ∀ q ∈ typeWords, lexemes p.1 <+: lexemes q.1 → p = q := by decide
  exact hall p hp q hq h

theorem typeAhead_eq {p : String × ColumnType} (hp : p ∈ typeWords) (rest : List Lexeme) :
    Reader.typeAhead (lexemes p.1 ++ rest) = some (p, lexemes p.1 ++ rest) := by
  have hnext := isPrefixOf_append_self (lexemes p.1) rest
  rw [Reader.typeAhead]
  rcases hfind : typeWords.find? fun q =>
    (lexemes q.1).isPrefixOf (lexemes p.1 ++ rest) with _ | q
  · exact absurd hnext (List.find?_eq_none.mp hfind p hp)
  · have hq := List.mem_of_find?_eq_some hfind
    have hs := List.find?_some hfind
    have hprefix : lexemes q.1 <+: lexemes p.1 ++ rest := List.isPrefixOf_iff_prefix.mp hs
    have heq : q = p := by
      rcases List.prefix_or_prefix_of_prefix hprefix (List.prefix_append _ rest) with h | h
      · exact eq_of_prefix_typeWords hq hp h
      · exact (eq_of_prefix_typeWords hp hq h).symm
    rw [hfind, heq, Option.map_some]

theorem Reads.columnType (t : ColumnType) :
    Reads Reader.columnType t (lexemes t.sqlName) := by
  intro rest
  have hphrase : Reads (do Reader.phrase t.sqlName; return t) t (lexemes t.sqlName ++ []) :=
    Reads.bind (Reads.phrase t.sqlName) (Reads.pure t)
  rw [List.append_nil] at hphrase
  rw [Reader.columnType, Reader.bind_eq (typeAhead_eq (mem_typeWords t) rest)]
  exact hphrase rest

theorem ReadsBefore.reference (references : Option (String × String)) :
    ReadsBefore EndsLine Reader.reference references (referenceClause references) := by
  cases references with
  | none =>
      have hahead : ReadsBefore (· ≠ word "REFERENCES") (Reader.optional "REFERENCES") false [] :=
        ReadsBefore.optional_false rfl
      refine hahead.bind (Reads.pure none).before (by simp) ?_
      rintro l (rfl | rfl) <;> decide
  | some target =>
      obtain ⟨table, column⟩ := target
      have hwords : referenceClause (some (table, column)) = lexemes "REFERENCES" ++
          ([word table] ++ (lexemes "(" ++ ([word column] ++ (lexemes ")" ++ [])))) := rfl
      rw [hwords]
      refine Reads.before (Reads.bind (Reads.optional "REFERENCES") ?_)
      exact Reads.bind (Reads.name table) (Reads.bind (Reads.phrase "(")
        (Reads.bind (Reads.name column) (Reads.bind (Reads.phrase ")") (Reads.pure _))))

/-- A clause that begins otherwise, or is not there, leaves a lexeme out. -/
theorem head?_clause_ne {text : String} {l other : Lexeme} {ls : List Lexeme}
    (hfirst : (lexemes text).head? = some l) (hne : l ≠ other)
    (hls : ∀ m ∈ ls.head?, m ≠ other) (here : Bool) :
    ∀ m ∈ (clause here text ++ ls).head?, m ≠ other := by
  obtain ⟨rest, hrest⟩ : ∃ rest, lexemes text = l :: rest := List.head?_eq_some_iff.mp hfirst
  cases here with
  | true => simpa [clause, hrest] using hne
  | false => simpa [clause] using hls

theorem head?_referenceClause_ne {other : Lexeme} (hne : word "REFERENCES" ≠ other)
    (references : Option (String × String)) :
    ∀ m ∈ (referenceClause references).head?, m ≠ other := by
  cases references with
  | none => simp [referenceClause]
  | some target => simpa [referenceClause] using hne

/-- The lexemes of the definition of a column behind its name. -/
def ColumnDefinition.behind (c : ColumnDefinition) : List Lexeme :=
  lexemes c.type.sqlName ++ (clause c.isPrimaryKey "PRIMARY KEY" ++ (clause c.isUnique "UNIQUE" ++
    (clause c.isRequired "NOT NULL" ++ referenceClause c.references)))

theorem EndsLine.ne_word {l : Lexeme} (h : EndsLine l) (text : String) : l ≠ word text := by
  rcases h with rfl | rfl <;> exact Lexeme.noConfusion

/-- The clauses of a definition are read one after the other: none of them begins as one that
may stand before it. -/
theorem ReadsBefore.definition (c : ColumnDefinition) :
    ReadsBefore EndsLine (Reader.definition c.name) c c.behind := by
  have hends : ∀ text l, EndsLine l → l ≠ word text := fun text _ h => h.ne_word text
  have hkey : ReadsBefore (· ≠ word "PRIMARY") (Reader.optional "PRIMARY KEY") c.isPrimaryKey
      (clause c.isPrimaryKey "PRIMARY KEY") := ReadsBefore.optional rfl _
  have hunique : ReadsBefore (· ≠ word "UNIQUE") (Reader.optional "UNIQUE") c.isUnique
      (clause c.isUnique "UNIQUE") := ReadsBefore.optional rfl _
  have hrequired : ReadsBefore (· ≠ word "NOT") (Reader.optional "NOT NULL") c.isRequired
      (clause c.isRequired "NOT NULL") := ReadsBefore.optional rfl _
  have hreference : ∀ text : String, text ≠ "REFERENCES" →
      ∀ m ∈ (referenceClause c.references).head?, m ≠ word text :=
    fun text htext => head?_referenceClause_ne (by simpa using Ne.symm htext) c.references
  have hbehindKey : ∀ m ∈ (clause c.isUnique "UNIQUE" ++
      (clause c.isRequired "NOT NULL" ++ referenceClause c.references)).head?,
      m ≠ word "PRIMARY" := by
    apply head?_clause_ne (l := word "UNIQUE") rfl (by decide)
    apply head?_clause_ne (l := word "NOT") rfl (by decide)
    exact hreference "PRIMARY" (by decide)
  have hbehindUnique : ∀ m ∈ (clause c.isRequired "NOT NULL" ++
      referenceClause c.references).head?, m ≠ word "UNIQUE" := by
    apply head?_clause_ne (l := word "NOT") rfl (by decide)
    exact hreference "UNIQUE" (by decide)
  refine Reads.bindBefore (Reads.columnType c.type) ?_
  refine hkey.bind ?_ hbehindKey (hends "PRIMARY")
  refine hunique.bind ?_ hbehindUnique (hends "UNIQUE")
  refine hrequired.bind ?_ (hreference "NOT" (by decide)) (hends "NOT")
  rw [← List.append_nil (referenceClause c.references)]
  exact (ReadsBefore.reference c.references).bind (Reads.pure c).before (by simp) fun _ h => h

end Clauses

section Lines

/-- The lexemes of a line. -/
def Line.written : Line → List Lexeme
  | .column c => [word c.name] ++ c.behind
  | .unique columns =>
    [word "UNIQUE"] ++ (lexemes "(" ++
      (([comma].intercalate (columns.map fun column => [word column]) ++ [symbol ')']) ++ []))

/-- Whether a line can be read: its names are plain, and a list has columns. -/
def Line.IsReadable : Line → Prop
  | .column c => IsPlain c.name ∧ ∀ target ∈ c.references, IsPlain target.1 ∧ IsPlain target.2
  | .unique columns => columns ≠ [] ∧ ∀ column ∈ columns, IsPlain column

/-- The text of a line. -/
def Line.text : Line → String
  | .column c => c.text
  | .unique columns => uniqueText columns

/-- The name of a column type does not begin with a parenthesis. -/
theorem head?_behind_ne (c : ColumnDefinition) : ∀ l ∈ c.behind.head?, l ≠ symbol '(' := by
  have hall : ∀ t ∈ ColumnType.all, (lexemes t.sqlName).head?.any (· ≠ symbol '(') = true := by
    decide
  have htype := hall c.type (mem_columnTypes c.type)
  rw [ColumnDefinition.behind]
  cases hls : lexemes c.type.sqlName with
  | nil => simp [hls] at htype
  | cons l ls => simpa [hls] using htype

theorem ReadsBefore.line {line : Line} (h : line.IsReadable) :
    ReadsBefore EndsLine Reader.line line line.written := by
  cases line with
  | column c =>
      have hopen : ReadsBefore (· ≠ symbol '(') (Reader.optional "(") false [] :=
        ReadsBefore.optional_false rfl
      have hends : ∀ l, EndsLine l → l ≠ symbol '(' := by
        rintro l (rfl | rfl) <;> decide
      have hdefinition : ReadsBefore EndsLine
          (do return Line.column (← Reader.definition c.name)) (Line.column c)
          (c.behind ++ []) := by
        refine (ReadsBefore.definition c).bind ?_ (by simp) fun _ h => h
        exact (Reads.pure (Line.column c)).before
      rw [List.append_nil] at hdefinition
      rw [Line.written, ← List.nil_append c.behind]
      refine Reads.bindBefore (Reads.name c.name) (hopen.bind ?_ (head?_behind_ne c) hends)
      rw [if_neg (by decide)]
      exact hdefinition
  | unique columns =>
      have hitems := Reads.items (by decide : symbol ')' ≠ comma) h.1 Reads.name
      rw [List.map_id'] at hitems
      refine Reads.before (Reads.bind (Reads.name "UNIQUE") (Reads.bind (Reads.optional "(") ?_))
      rw [if_pos rfl, ← List.nil_append (_ ++ [])]
      exact Reads.bind (Reads.guarded rfl) (Reads.bind hitems (Reads.pure _))

theorem intercalate_nil (texts : List (List Lexeme)) : [].intercalate texts = texts.flatten := by
  induction texts with
  | nil => rfl
  | cons text texts ih =>
      cases texts with
      | nil => simp
      | cons next texts => rw [List.intercalate_cons_cons, ih]; simp

theorem lexemes_referenceText {table column : String} (ht : IsPlain table) (hc : IsPlain column) :
    lexemes ("REFERENCES " ++ table ++ "(" ++ column ++ ")") =
      referenceClause (some (table, column)) := by
  have hstart : lexemes "REFERENCES " = [word "REFERENCES"] := rfl
  have hopen : lexemes "(" = [symbol '('] := rfl
  have hclose : lexemes ")" = [symbol ')'] := rfl
  rw [lexemes_append (Or.inr rfl), lexemes_around rfl, lexemes_append (Or.inl rfl),
    lexemes_of_isPlain ht, lexemes_of_isPlain hc, hstart, hopen, hclose]
  rfl

theorem lexemes_clauses {c : ColumnDefinition}
    (hr : ∀ target ∈ c.references, IsPlain target.1 ∧ IsPlain target.2) :
    (c.clauses.map lexemes).flatten = c.behind := by
  have hclause : ∀ (here : Bool) (text : String),
      ((if here then [text] else []).map lexemes).flatten = clause here text := by
    intro here text
    cases here <;> simp [clause]
  rw [ColumnDefinition.clauses, ColumnDefinition.behind]
  simp only [List.map_append, List.flatten_append, hclause, List.map_singleton,
    List.flatten_singleton, List.append_assoc]
  rcases hc : c.references with _ | ⟨table, column⟩
  · rfl
  · obtain ⟨htable, hcolumn⟩ := hr (table, column) hc
    simp only [List.map_singleton, List.flatten_singleton, lexemes_referenceText htable hcolumn]

/-- A line is read as the lexemes that it is written with. -/
theorem lexemes_line {line : Line} (h : line.IsReadable) : lexemes line.text = line.written := by
  cases line with
  | column c =>
      have hblank : lexemes " " = [] := rfl
      show lexemes (" ".intercalate (c.name :: c.clauses)) = [word c.name] ++ c.behind
      rw [lexemes_intercalate rfl, hblank, intercalate_nil, List.map_cons, List.flatten_cons,
        lexemes_clauses h.2, lexemes_of_isPlain h.1]
  | unique columns =>
      have hstart : lexemes "UNIQUE (" = [word "UNIQUE"] ++ lexemes "(" := rfl
      have hclose : lexemes ")" = [symbol ')'] := rfl
      have hnames : columns.map lexemes = columns.map fun column => [word column] :=
        List.map_congr_left fun column hc => lexemes_of_isPlain (h.2 column hc)
      show lexemes ("UNIQUE (" ++ commaSeparated columns ++ ")") = _
      rw [lexemes_append (Or.inr rfl), lexemes_append (Or.inl rfl), lexemes_commaSeparated,
        hnames, hstart, hclose]
      simp only [Line.written, List.append_assoc, List.append_nil]

end Lines

section Statements

variable {table : String} {columns : List ColumnDefinition} {uniques : List (List String)}

/-- The lines of a statement that creates a table. -/
def linesOf (columns : List ColumnDefinition) (uniques : List (List String)) : List Line :=
  columns.map Line.column ++ uniques.map Line.unique

/-- The lexemes of a statement that creates a table behind the opening parenthesis. -/
def bodyLexemes (columns : List ColumnDefinition) (uniques : List (List String)) : List Lexeme :=
  ([comma].intercalate ((linesOf columns uniques).map Line.written) ++ [symbol ')']) ++
    (lexemes ";" ++ [])

theorem Reads.body (ifAbsent : Bool) (table : String) (hne : columns ≠ [])
    (hlines : ∀ line ∈ linesOf columns uniques, line.IsReadable) :
    Reads (Reader.body ifAbsent table) (.create ifAbsent table columns uniques)
      (bodyLexemes columns uniques) := by
  have hlinesne : linesOf columns uniques ≠ [] := by
    simp [linesOf, hne]
  have hitems : Reads (Reader.items Reader.line (symbol ')'))
      ((linesOf columns uniques).map id) _ :=
    Reads.itemsBefore (by decide) hlinesne fun line hline => ReadsBefore.line (hlines line hline)
  rw [List.map_id] at hitems
  refine Reads.bind hitems (Reads.bind (Reads.phrase ";") ?_)
  rw [linesOf, Line.split_append]
  obtain ⟨c, rest, rfl⟩ := List.exists_cons_of_ne_nil hne
  exact Reads.pure _

theorem Reads.creation (ifAbsent : Bool) (table : String) (hne : columns ≠ [])
    (hlines : ∀ line ∈ linesOf columns uniques, line.IsReadable) :
    Reads Reader.creation (.create ifAbsent table columns uniques)
      (lexemes "CREATE TABLE" ++ (clause ifAbsent "IF NOT EXISTS" ++ ([word table] ++
        (lexemes "(" ++ bodyLexemes columns uniques)))) := by
  have hbody := Reads.body ifAbsent table hne hlines
  refine Reads.bind (Reads.phrase "CREATE TABLE") ?_
  cases ifAbsent with
  | false =>
      have hwords : clause false "IF NOT EXISTS" = [] := rfl
      rw [hwords, List.nil_append]
      refine Reads.bind (Reads.name table) (Reads.bind (Reads.optional "(") ?_)
      rw [if_pos rfl]
      exact hbody
  | true =>
      have hopen : ReadsBefore (· ≠ symbol '(') (Reader.optional "(") false [] :=
        ReadsBefore.optional_false rfl
      have hwords : clause true "IF NOT EXISTS" =
          [word "IF"] ++ ([] ++ word "NOT" :: [word "EXISTS"]) := rfl
      have hnot : lexemes "NOT EXISTS" = word "NOT" :: [word "EXISTS"] := rfl
      have hrest : Reads
          (do
            Reader.phrase "NOT EXISTS"
            let table ← Reader.name
            Reader.phrase "("
            Reader.body true table)
          (.create true table columns uniques)
          (lexemes "NOT EXISTS" ++
            ([word table] ++ (lexemes "(" ++ bodyLexemes columns uniques))) :=
        Reads.bind (Reads.phrase "NOT EXISTS")
          (Reads.bind (Reads.name table) (Reads.bind (Reads.phrase "(") hbody))
      rw [hnot, List.cons_append] at hrest
      rw [hwords, List.append_assoc, List.append_assoc, List.cons_append]
      refine Reads.bind (Reads.name "IF") (hopen.bindReads (by decide) ?_)
      rw [if_neg (by decide)]
      exact Reads.bind (Reads.guarded rfl) hrest

/-- The lexemes of a statement that creates a table. -/
theorem lexemes_create (ifAbsent : Bool) (ht : IsPlain table)
    (hlines : ∀ line ∈ linesOf columns uniques, line.IsReadable) :
    lexemes (Statement.create ifAbsent table columns uniques).text =
      lexemes "CREATE TABLE" ++ (clause ifAbsent "IF NOT EXISTS" ++ ([word table] ++
        (lexemes "(" ++ bodyLexemes columns uniques))) := by
  have hstart : lexemes "CREATE TABLE " = lexemes "CREATE TABLE" := rfl
  have hopen : lexemes " (\n" = lexemes "(" := rfl
  have hcomma : lexemes ",\n" = [comma] := rfl
  have hclose : lexemes "\n);" = [symbol ')'] ++ lexemes ";" := rfl
  have habsent : lexemes (if ifAbsent then "IF NOT EXISTS " else "") =
      clause ifAbsent "IF NOT EXISTS" := by
    cases ifAbsent <;> rfl
  have happart : endsApart ("CREATE TABLE " ++ if ifAbsent then "IF NOT EXISTS " else "") =
      true := by
    cases ifAbsent <;> rfl
  have hindented : ((columns.map ColumnDefinition.text ++ uniques.map uniqueText).map
      ("    " ++ ·)).map lexemes = (linesOf columns uniques).map Line.written := by
    have htexts : columns.map ColumnDefinition.text ++ uniques.map uniqueText =
        (linesOf columns uniques).map Line.text := by
      simp only [linesOf, List.map_append, List.map_map]
      rfl
    rw [htexts, List.map_map, List.map_map]
    refine List.map_congr_left fun line hline => ?_
    have hblank : lexemes "    " = [] := rfl
    show lexemes ("    " ++ line.text) = line.written
    rw [lexemes_append (Or.inl rfl), hblank, List.nil_append, lexemes_line (hlines line hline)]
  show lexemes ("CREATE TABLE " ++ (if ifAbsent then "IF NOT EXISTS " else "") ++ table ++ " (\n"
    ++ ",\n".intercalate ((columns.map ColumnDefinition.text ++ uniques.map uniqueText).map
      ("    " ++ ·)) ++ "\n);") = _
  rw [lexemes_append (Or.inr rfl), lexemes_around rfl, lexemes_append (Or.inl happart),
    lexemes_append (Or.inl rfl), lexemes_of_isPlain ht, lexemes_intercalate rfl, hindented,
    hstart, habsent, hopen, hcomma, hclose]
  simp only [bodyLexemes, List.append_assoc, List.append_nil]

/-- A statement that creates a table is read back from its text. -/
theorem ofCreation?_text (ifAbsent : Bool) (ht : IsPlain table) (hne : columns ≠ [])
    (hlines : ∀ line ∈ linesOf columns uniques, line.IsReadable) :
    Statement.ofCreation? (Statement.create ifAbsent table columns uniques).text =
      some (.create ifAbsent table columns uniques) := by
  have hread := Reads.creation ifAbsent table hne hlines []
  rw [List.append_nil, ← lexemes_create ifAbsent ht hlines] at hread
  rw [Statement.ofCreation?, hread]

end Statements

section Tables

/-- What is required of the names that the statement creating a table copies. -/
structure PlainTexts (t : Table) : Prop where
  table : IsPlain t.name
  columns : ∀ c ∈ t.columns, IsPlain c.name
  references : ∀ c ∈ t.columns, ∀ target ∈ c.references, IsPlain target.1 ∧ IsPlain target.2
  uniques : ∀ columns ∈ t.uniques, ∀ column ∈ columns, IsPlain column

variable {resolver : Resolver} {d : Declaration} {t : Table}

/-- No list of an extracted table is empty. -/
theorem uniques_ne_of_extract (h : extract resolver d = .ok t) :
    ∀ columns ∈ t.uniques, columns ≠ [] := by
  obtain ⟨-, -, ht⟩ := extract_eq_ok_iff.mp h
  rw [ht]
  intro columns hmem
  simpa using (List.mem_filter.mp hmem).2

theorem isReadable_lines (h : extract resolver d = .ok t) (hp : PlainTexts t) :
    ∀ line ∈ linesOf (t.columns.map Column.definition) t.uniques, line.IsReadable := by
  intro line hline
  rcases List.mem_append.mp hline with hline | hline
  · rw [List.map_map] at hline
    obtain ⟨c, hc, rfl⟩ := List.mem_map.mp hline
    exact ⟨hp.columns c hc, hp.references c hc⟩
  · obtain ⟨columns, hcolumns, rfl⟩ := List.mem_map.mp hline
    exact ⟨uniques_ne_of_extract h columns hcolumns, hp.uniques columns hcolumns⟩

theorem ofCreation?_statement (h : extract resolver d = .ok t) (hp : PlainTexts t)
    (ifAbsent : Bool) :
    Statement.ofCreation? (t.createStatement ifAbsent).text =
      some (t.createStatement ifAbsent) := by
  have hne : t.columns.map Column.definition ≠ [] := by
    simpa using List.ne_nil_of_mem (key_mem_of_extract h)
  exact ofCreation?_text ifAbsent hp.table hne (isReadable_lines h hp)

/-- The text that creates an extracted table with plain names is read back as what it says of
the table, and two tables with one text agree on all of it. -/
theorem ofCreation?_createStatement (h : extract resolver d = .ok t) (hp : PlainTexts t)
    (ifAbsent : Bool) :
    Statement.ofCreation? (t.createStatement ifAbsent).text =
      some (.create ifAbsent t.name
        (t.columns.map fun c =>
          { name := c.name
            type := c.columnType
            isPrimaryKey := c.isPrimaryKey
            isUnique := c.isUnique
            isRequired := !c.isPrimaryKey && !c.isNullable
            references :=
              if c.isForeignKey then
                c.referenceTable.bind fun table => c.referenceField.map fun field => (table, field)
              else none })
        t.uniques) ∧
      ∀ (resolver' : Resolver) (d' : Declaration) (t' : Table) (ifAbsent' : Bool),
        extract resolver' d' = .ok t' → PlainTexts t' →
        (t.createStatement ifAbsent).text = (t'.createStatement ifAbsent').text →
        ifAbsent = ifAbsent' ∧ t.name = t'.name ∧
          t.columns.map Column.definition = t'.columns.map Column.definition ∧
          t.uniques = t'.uniques := by
  constructor
  · rw [ofCreation?_statement h hp, Table.createStatement]
    congr 2
    refine List.map_congr_left fun c _ => ?_
    simp only [Column.definition, Column.references, ColumnDefinition.mk.injEq, true_and]
    cases c.referenceTable <;> cases c.referenceField <;> simp
  · intro resolver' d' t' ifAbsent' h' hp' htext
    have hread := ofCreation?_statement h' hp' ifAbsent'
    rw [← htext, ofCreation?_statement h hp] at hread
    simpa [Table.createStatement] using hread

end Tables

section Reserved

/-- A class whose names are words of the grammar. -/
def reserved : Declaration :=
  { name := "Reserved"
    annotations := [
      { name := "table", positional := [.text "IF"] },
      { name := "table_unique", positional := [.nameOf "UNIQUE", .nameOf "NOT"] }]
    properties := [
      { name := "UNIQUE", type := "i64", annotations := [{ name := "primary_key" }] },
      { name := "NOT", type := "f64"
        annotations := [
          { name := "unique" },
          { name := "foreign_key", positional := [.text "PRIMARY", .text "KEY"] }] },
      { name := "NULL", type := "Option<String>", annotations := [{ name := "foreign_key" }] }] }

/-- The key of the table of reserved names. -/
def reservedKey : Column :=
  { name := "UNIQUE", propertyName := "UNIQUE", propertyType := "i64", columnType := .bigInt
    isPrimaryKey := true }

/-- The table of reserved names. -/
def reservedTable : Table :=
  { name := "IF"
    className := "Reserved"
    key := reservedKey
    columns := [
      reservedKey,
      { name := "NOT", propertyName := "NOT", propertyType := "f64"
        columnType := .doublePrecision, isUnique := true, isForeignKey := true
        referenceTable := some "PRIMARY", referenceField := some "KEY" },
      { name := "NULL", propertyName := "NULL", propertyType := "Option<String>"
        columnType := .text, isForeignKey := true, isNullable := true }]
    uniques := [["UNIQUE", "NOT"]] }

set_option maxRecDepth 100000 in
theorem extract_reserved : extract plainResolver reserved = .ok reservedTable := by
  decide +kernel

theorem plainTexts_reserved : PlainTexts reservedTable where
  table := by decide
  columns := by decide
  references := by decide
  uniques := by decide

/-- Reserved names do not get in the way. -/
theorem ofCreation?_reserved :
    extract plainResolver reserved = .ok reservedTable ∧ PlainTexts reservedTable ∧
      Statement.ofCreation? (reservedTable.createStatement true).text =
        some (.create true "IF"
          [{ name := "UNIQUE", type := .bigInt, isPrimaryKey := true, isUnique := false
             isRequired := false, references := none },
            { name := "NOT", type := .doublePrecision, isPrimaryKey := false, isUnique := true
              isRequired := true, references := some ("PRIMARY", "KEY") },
            { name := "NULL", type := .text, isPrimaryKey := false, isUnique := false
              isRequired := false, references := none }]
          [["UNIQUE", "NOT"]]) ∧
      (reservedTable.createStatement true).text ≠ (reservedTable.createStatement false).text := by
  obtain ⟨hread, hagree⟩ := ofCreation?_createStatement extract_reserved plainTexts_reserved true
  refine ⟨extract_reserved, plainTexts_reserved, hread, fun htext => ?_⟩
  have hb := (hagree plainResolver reserved reservedTable false extract_reserved
    plainTexts_reserved htext).1
  cases hb

end Reserved

end Rowsmith.Sql
