import Mathlib.Data.List.TakeWhile
import Rowsmith.Proofs.Sql.Lexeme
import Rowsmith.Sql.Operation

/-!
# Names of parameters in statements

The names behind at signs that occur in the text of a statement. They are those of its
parameters, in the order in which they stand, besides what the name of the table, the
references and the lists of unique columns bring along.
-/

namespace Rowsmith.Sql
open Schema

/-- The name of a parameter with a word behind its at sign. -/
def namesOfWord (word : List Char) : List String :=
  if word.isEmpty then [] else [String.ofList ('@' :: word)]

/-- The names behind at signs among characters, as often as they occur. -/
def namesIn : List Char → List String
  | [] => []
  | c :: cs => (if c = '@' then namesOfWord (cs.takeWhile isWordChar) else []) ++ namesIn cs

/-- The names behind at signs in a text, as often as they occur. -/
def names (text : String) : List String := namesIn text.toList

theorem takeWhile_append_of_head {cs : List Char} (h : ∀ c ∈ cs.head?, isWordChar c = false)
    (before : List Char) :
    (before ++ cs).takeWhile isWordChar = before.takeWhile isWordChar := by
  induction before with
  | nil =>
      cases cs with
      | nil => rfl
      | cons c cs => simp [h c rfl]
  | cons b before ih =>
      rw [List.cons_append, List.takeWhile_cons, List.takeWhile_cons, ih]

/-- Names end before a character that belongs to no word. -/
theorem namesIn_append_right {cs : List Char} (h : ∀ c ∈ cs.head?, isWordChar c = false)
    (before : List Char) : namesIn (before ++ cs) = namesIn before ++ namesIn cs := by
  induction before with
  | nil => rfl
  | cons b before ih =>
      rw [List.cons_append, namesIn, namesIn, takeWhile_append_of_head h, ih, List.append_assoc]

/-- No name is open behind a character that belongs to none. -/
theorem namesIn_append_left {last : Char} (h : isWordChar last = false) (hat : last ≠ '@')
    (before cs : List Char) :
    namesIn (before ++ last :: cs) = namesIn (before ++ [last]) ++ namesIn cs := by
  have hlast : ∀ rest, namesIn (last :: rest) = namesIn rest := by
    intro rest
    rw [namesIn, if_neg hat, List.nil_append]
  rw [namesIn_append_right (by simpa using h), namesIn_append_right (by simpa using h), hlast,
    hlast, namesIn, List.append_nil]

/-- Whether no name is open at the end of a text. -/
def endsName (s : String) : Bool := s.toList.getLast?.any fun c => !isWordChar c && c != '@'

theorem names_append_right {s t : String} (h : startsApart t = true) :
    names (s ++ t) = names s ++ names t := by
  rw [names, names, names, String.toList_append]
  simp only [startsApart, Option.all_eq_true, Bool.not_eq_true'] at h
  exact namesIn_append_right h s.toList

theorem names_append_left {s t : String} (h : endsName s = true) :
    names (s ++ t) = names s ++ names t := by
  simp only [endsName, Option.any_eq_true, Bool.and_eq_true, Bool.not_eq_true', bne_iff_ne,
    ne_eq] at h
  obtain ⟨last, hlast, hword, hat⟩ := h
  obtain ⟨before, hbefore⟩ := List.getLast?_eq_some_iff.mp hlast
  rw [names, names, names, String.toList_append, hbefore, List.append_assoc]
  exact namesIn_append_left hword hat before t.toList

/-- Whether a text parts the names before it from those behind it, and has none itself. -/
def partsNames (s : String) : Bool := startsApart s && endsName s && (names s).isEmpty

theorem endsName_append {s t : String} (h : endsName t = true) : endsName (s ++ t) = true := by
  simp only [endsName, Option.any_eq_true] at h ⊢
  obtain ⟨last, hlast, hc⟩ := h
  refine ⟨last, ?_, hc⟩
  rw [String.toList_append, List.getLast?_append, hlast, Option.some_or]

theorem names_around {k : String} (h : partsNames k = true) (s t : String) :
    names (s ++ k ++ t) = names s ++ names t := by
  simp only [partsNames, Bool.and_eq_true, List.isEmpty_iff] at h
  obtain ⟨⟨hstart, hend⟩, hnames⟩ := h
  rw [names_append_left (endsName_append hend), names_append_right hstart, hnames,
    List.append_nil]

theorem namesIn_of_word {cs : List Char} (h : ∀ c ∈ cs, isWordChar c = true) :
    namesIn cs = [] := by
  induction cs with
  | nil => rfl
  | cons c cs ih =>
      have hat : c ≠ '@' := by
        rintro rfl
        exact absurd (h '@' List.mem_cons_self) (by decide)
      rw [namesIn, if_neg hat, ih fun d hd => h d (List.mem_cons_of_mem c hd)]
      rfl

/-- A plain name has no at sign. -/
theorem names_of_isPlain {name : String} (h : IsPlain name) : names name = [] :=
  namesIn_of_word (List.all_eq_true.mp h.2)

theorem names_parameterName {column : String} (h : IsPlain column) :
    names (parameterName column) = [parameterName column] := by
  have hword := List.all_eq_true.mp h.2
  have htake : column.toList.takeWhile isWordChar = column.toList :=
    List.takeWhile_eq_self_iff.mpr hword
  have hne : column.toList.isEmpty = false := by
    rw [List.isEmpty_eq_false_iff, ne_eq, String.toList_eq_nil_iff]
    exact h.1
  have hlist : (parameterName column).toList = '@' :: column.toList := by
    rw [parameterName, String.toList_append]
    rfl
  rw [names, hlist, namesIn, if_pos rfl, htake, namesOfWord, hne, namesIn_of_word hword,
    ← hlist, String.ofList_toList]
  rfl

/-- Names in texts that are parted by one that parts names. -/
theorem names_intercalate {k : String} (h : partsNames k = true) (texts : List String) :
    names (k.intercalate texts) = texts.flatMap names := by
  induction texts with
  | nil => rfl
  | cons text texts ih =>
      cases texts with
      | nil => simp
      | cons next texts =>
          rw [String.intercalate_cons_cons, names_around h, ih]
          rfl

theorem names_commaSeparated (texts : List String) :
    names (commaSeparated texts) = texts.flatMap names :=
  names_intercalate rfl texts

section Columns

variable {columns : List String}

theorem names_columns (h : ∀ c ∈ columns, IsPlain c) : names (commaSeparated columns) = [] := by
  rw [names_commaSeparated, List.flatMap_eq_nil_iff]
  exact fun c hc => names_of_isPlain (h c hc)

/-- The names in texts that have one parameter each. -/
theorem names_commaSeparated_map (text : String → String)
    (h : ∀ c ∈ columns, names (text c) = [parameterName c]) :
    names (commaSeparated (columns.map text)) = columns.map parameterName := by
  rw [names_commaSeparated, List.flatMap_map, List.map_eq_flatMap]
  exact List.flatMap_congr h

theorem names_parameters (h : ∀ c ∈ columns, IsPlain c) :
    names (commaSeparated (columns.map parameterName)) = columns.map parameterName :=
  names_commaSeparated_map parameterName fun c hc => names_parameterName (h c hc)

theorem names_assignment {column : String} (h : IsPlain column) :
    names (assignment column) = [parameterName column] := by
  rw [assignment, names_around rfl, names_of_isPlain h, names_parameterName h, List.nil_append]

theorem names_assignments (h : ∀ c ∈ columns, IsPlain c) :
    names (commaSeparated (columns.map assignment)) = columns.map parameterName :=
  names_commaSeparated_map assignment fun c hc => names_assignment (h c hc)

theorem names_excluded (h : ∀ c ∈ columns, IsPlain c) :
    names (commaSeparated (columns.map fun c => c ++ " = excluded." ++ c)) = [] := by
  rw [names_commaSeparated, List.flatMap_map, List.flatMap_eq_nil_iff]
  intro c hc
  rw [names_around rfl, names_of_isPlain (h c hc), List.append_nil]

end Columns

namespace ColumnDefinition

/-- The texts of a definition that name what it refers to. -/
def referenceTexts (c : ColumnDefinition) : List String :=
  match c.references with
  | some (table, column) => [table, column]
  | none => []

theorem names_sqlName (type : ColumnType) : names type.sqlName = [] := by
  cases type <;> rfl

theorem names_clauses (c : ColumnDefinition) :
    c.clauses.flatMap names = c.referenceTexts.flatMap names := by
  have hif : ∀ (b : Bool) (text : String), names text = [] →
      (if b = true then [text] else []).flatMap names = [] := by
    intro b text h
    cases b
    · rfl
    · simp [h]
  rw [clauses, List.flatMap_append, List.flatMap_append, List.flatMap_append, List.flatMap_append,
    hif c.isPrimaryKey _ rfl, hif c.isUnique _ rfl, hif c.isRequired _ rfl, referenceTexts,
    List.flatMap_singleton, names_sqlName]
  cases c.references with
  | none => rfl
  | some target =>
      obtain ⟨table, column⟩ := target
      have hend : endsName "REFERENCES " = true := rfl
      have hnone : names "REFERENCES " = [] := rfl
      simp only [List.nil_append, List.flatMap_cons, List.flatMap_nil, List.append_nil]
      rw [names_append_right rfl, names_around rfl, names_append_left hend, hnone,
        List.nil_append]
      exact List.append_nil _

/-- A definition has no names besides those of what it refers to. -/
theorem names_text {c : ColumnDefinition} (h : IsPlain c.name) :
    names c.text = c.referenceTexts.flatMap names := by
  rw [text, names_intercalate rfl, List.flatMap_cons, names_of_isPlain h, List.nil_append,
    names_clauses]

end ColumnDefinition

theorem names_uniqueText (columns : List String) :
    names (uniqueText columns) = columns.flatMap names := by
  have hopen : names "UNIQUE (" = [] := rfl
  rw [uniqueText, names_append_right rfl, names_append_left rfl, names_commaSeparated, hopen,
    List.nil_append]
  exact List.append_nil _

namespace Statement

/-- The columns that a statement names. -/
def columnNames : Statement → List String
  | create _ _ columns _ => columns.map (·.name)
  | insert _ columns conflict =>
    columns ++ conflict.toList.flatMap fun c => c.key :: c.overwritten
  | update _ assigned key => assigned ++ [key]
  | delete _ key | find _ key => [key]

/-- The columns whose parameters stand in a statement, in order. -/
def parameterColumns : Statement → List String
  | create _ _ _ _ => []
  | insert _ columns _ => columns
  | update _ assigned key => assigned ++ [key]
  | delete _ key | find _ key => [key]

/-- The texts that a statement takes over besides the names of its columns. -/
def otherTexts : Statement → List String
  | create _ table columns uniques =>
    table :: (columns.flatMap ColumnDefinition.referenceTexts ++ uniques.flatten)
  | insert table _ _ | update table _ _ | delete table _ | find table _ => [table]

theorem names_create {ifAbsent : Bool} {table : String} {columns : List ColumnDefinition}
    {uniques : List (List String)} (h : ∀ c ∈ columns, IsPlain c.name) :
    names (create ifAbsent table columns uniques).text =
      names table ++ (columns.flatMap ColumnDefinition.referenceTexts).flatMap names ++
        uniques.flatten.flatMap names := by
  have hlines : ∀ lines : List String,
      names (",\n".intercalate (lines.map ("    " ++ ·))) = lines.flatMap names := by
    intro lines
    rw [names_intercalate rfl, List.flatMap_map]
    refine List.flatMap_congr fun line _ => ?_
    rw [names_append_left rfl]
    exact List.nil_append _
  have hcolumns : (columns.map ColumnDefinition.text).flatMap names =
      (columns.flatMap ColumnDefinition.referenceTexts).flatMap names := by
    rw [List.flatMap_map, List.flatMap_assoc]
    exact List.flatMap_congr fun c hc => ColumnDefinition.names_text (h c hc)
  have huniques : (uniques.map uniqueText).flatMap names = uniques.flatten.flatMap names := by
    rw [List.flatMap_map, List.flatten_eq_flatMap, List.flatMap_assoc]
    exact List.flatMap_congr fun u _ => names_uniqueText u
  have hhead : names ("CREATE TABLE " ++ (if ifAbsent then "IF NOT EXISTS " else "") ++ table) =
      names table := by
    cases ifAbsent with
    | false => exact names_append_left (s := "CREATE TABLE ") rfl
    | true => exact names_append_left (s := "CREATE TABLE IF NOT EXISTS ") rfl
  show names ("CREATE TABLE " ++ (if ifAbsent then "IF NOT EXISTS " else "") ++ table ++ " (\n" ++
    ",\n".intercalate ((columns.map ColumnDefinition.text ++ uniques.map uniqueText).map
      ("    " ++ ·)) ++ "\n);") = _
  rw [names_append_right rfl, names_around rfl, hhead, hlines, List.flatMap_append, hcolumns,
    huniques, ← List.append_assoc]
  exact List.append_nil _

theorem names_conflict {c : Conflict} (hk : IsPlain c.key)
    (hc : ∀ column ∈ c.overwritten, IsPlain column) : names c.text = [] := by
  have hhead : names (" ON CONFLICT(" ++ c.key) = [] := by
    rw [names_append_left rfl, names_of_isPlain hk]
    rfl
  have haction : names (if c.overwritten.isEmpty then "DO NOTHING" else "DO UPDATE SET " ++
      commaSeparated (c.overwritten.map fun column => column ++ " = excluded." ++ column)) =
      [] := by
    split
    · rfl
    · rw [names_append_left rfl, names_excluded hc]
      rfl
  show names (" ON CONFLICT(" ++ c.key ++ ") " ++ _) = []
  rw [names_around rfl, hhead, haction, List.append_nil]

theorem names_insertClause {table : String} {columns : List String}
    (h : ∀ c ∈ columns, IsPlain c) :
    names (insertClause table columns) = names table ++ columns.map parameterName := by
  show names ("INSERT INTO " ++ table ++ " (" ++ commaSeparated columns ++ ") VALUES (" ++
    commaSeparated (columns.map parameterName) ++ ")") = _
  rw [names_append_right rfl, names_around rfl, names_around rfl, names_append_left rfl,
    names_columns h, names_parameters h, List.append_nil]
  exact List.append_nil _

theorem names_insert {table : String} {columns : List String} {conflict : Option Conflict}
    (h : ∀ c ∈ (insert table columns conflict).columnNames, IsPlain c) :
    names (insert table columns conflict).text = names table ++ columns.map parameterName := by
  simp only [columnNames, List.mem_append] at h
  show names (insertClause table columns ++ (conflict.map Conflict.text).getD "" ++ ";") = _
  have hend : names ";" = [] := rfl
  rw [names_append_right rfl, hend, List.append_nil]
  cases conflict with
  | none =>
      rw [← names_insertClause fun c hc => h c (Or.inl hc)]
      exact congrArg names String.append_empty
  | some c =>
      have hk : IsPlain c.key := h c.key (Or.inr (by simp))
      have hc : ∀ column ∈ c.overwritten, IsPlain column := fun column hcolumn =>
        h column (Or.inr (by simp [hcolumn]))
      have hstart : startsApart c.text = true := by
        show startsApart (" ON CONFLICT(" ++ c.key ++ ") " ++ _) = true
        rw [String.append_assoc, String.append_assoc, startsApart_append (by decide)]
        rfl
      show names (insertClause table columns ++ c.text) = _
      rw [names_append_right hstart, names_insertClause fun c hc => h c (Or.inl hc),
        names_conflict hk hc, List.append_nil]

theorem names_where {key : String} (h : IsPlain key) (before : String) :
    names (before ++ " WHERE " ++ assignment key ++ ";") =
      names before ++ [parameterName key] := by
  have hend : names ";" = [] := rfl
  rw [names_append_right rfl, names_around rfl, names_assignment h, hend, List.append_nil]

/-- The names in the text of a statement are those of its parameters, behind those that
the texts it takes over bring along. -/
theorem names_text {s : Statement} (h : ∀ c ∈ s.columnNames, IsPlain c) :
    names s.text = s.otherTexts.flatMap names ++ s.parameterColumns.map parameterName := by
  cases s with
  | create ifAbsent table columns uniques =>
      have hc : ∀ c ∈ columns, IsPlain c.name := fun c hc => h c.name (List.mem_map_of_mem hc)
      rw [names_create hc, otherTexts, List.flatMap_cons, List.flatMap_append,
        List.append_assoc]
      exact (List.append_nil _).symm
  | insert table columns conflict =>
      rw [names_insert h, otherTexts, List.flatMap_singleton]
      rfl
  | update table assigned key =>
      simp only [columnNames, List.mem_append, List.mem_singleton] at h
      have hset : names ("UPDATE " ++ table ++ " SET " ++
          commaSeparated (assigned.map assignment)) =
          names table ++ assigned.map parameterName := by
        rw [names_around rfl, names_append_left rfl,
          names_assignments fun c hc => h c (Or.inl hc)]
        rfl
      show names ("UPDATE " ++ table ++ " SET " ++ commaSeparated (assigned.map assignment) ++
        " WHERE " ++ assignment key ++ ";") = _
      rw [names_where (h key (Or.inr rfl)), hset, otherTexts, List.flatMap_singleton,
        parameterColumns, List.map_append, List.append_assoc]
      rfl
  | delete table key =>
      show names ("DELETE FROM " ++ table ++ " WHERE " ++ assignment key ++ ";") = _
      rw [names_where (h key List.mem_cons_self), names_append_left rfl, otherTexts,
        List.flatMap_singleton]
      rfl
  | find table key =>
      show names ("SELECT * FROM " ++ table ++ " WHERE " ++ assignment key ++ ";") = _
      rw [names_where (h key List.mem_cons_self), names_append_left rfl, otherTexts,
        List.flatMap_singleton]
      rfl

end Statement

end Rowsmith.Sql
