import Rowsmith.Proofs.Sql.Reader

/-!
# Statements as commands

The text of every statement on rows with plain names is read as the command that it
stands for.
-/

namespace Rowsmith.Sql
open Lexeme

theorem lexemes_parameterName {column : String} (h : IsPlain column) :
    lexemes (parameterName column) = [symbol '@', word column] := by
  have hat : lexemes "@" = [symbol '@'] := rfl
  rw [parameterName, lexemes_append (Or.inl rfl), hat, lexemes_of_isPlain h]
  rfl

theorem lexemes_assignment {column : String} (h : IsPlain column) :
    lexemes (assignment column) =
      [word column, symbol '=', symbol '@', word column] := by
  have heq : lexemes " = " = [symbol '='] := rfl
  rw [assignment, lexemes_around rfl, heq, lexemes_of_isPlain h,
    lexemes_parameterName h]
  rfl

/-- Texts made of plain names and parted by commas are read one after the other. -/
theorem lexemes_commaSeparated_map {columns : List String}
    (h : ∀ c ∈ columns, IsPlain c) (text : String → String) {write : String → List Lexeme}
    (hw : ∀ c, IsPlain c → lexemes (text c) = write c) :
    lexemes (commaSeparated (columns.map text)) =
      [comma].intercalate (columns.map write) := by
  rw [lexemes_commaSeparated, List.map_map]
  congr 1
  exact List.map_congr_left fun c hc => hw c (h c hc)

/-- The command that a statement on rows stands for. -/
def Statement.command? : Statement → Option Command
  | .create _ _ _ _ => none
  | .insert table columns conflict =>
    some (.insert table columns (columns.map parameterName) (conflict.map fun c =>
      { key := c.key, assigned := c.overwritten.map fun column => (column, column) }))
  | .update table assigned key =>
    some (.update table (assigned.map fun column => (column, parameterName column))
      (key, parameterName key))
  | .delete table key => some (.delete table (key, parameterName key))
  | .find table key => some (.select table (key, parameterName key))

/-- Whether a statement on rows can be read: its names are plain, and no list is empty that
has to hold something. -/
def Statement.IsReadable : Statement → Prop
  | .create _ _ _ _ => False
  | .insert table columns conflict =>
    IsPlain table ∧ columns ≠ [] ∧ (∀ c ∈ columns, IsPlain c) ∧
      ∀ c ∈ conflict, IsPlain c.key ∧ ∀ column ∈ c.overwritten, IsPlain column
  | .update table assigned key =>
    IsPlain table ∧ assigned ≠ [] ∧ (∀ c ∈ assigned, IsPlain c) ∧ IsPlain key
  | .delete table key | .find table key => IsPlain table ∧ IsPlain key

/-- A text is the command that a reader reads from its lexemes. -/
theorem Command.ofText?_eq_some {text : String} {c : Command}
    (h : Reads Reader.command c (lexemes text)) : Command.ofText? text = some c := by
  have hc := h []
  rw [List.append_nil] at hc
  rw [Command.ofText?, hc]

/-- The lexemes of a table and a condition on its key. -/
theorem lexemes_conditional {start table key : String} (hs : endsApart start = true)
    (ht : IsPlain table) (hk : IsPlain key) :
    lexemes (start ++ table ++ " WHERE " ++ assignment key ++ ";") =
      lexemes start ++ ([word table] ++ (lexemes "WHERE" ++
        ([word key, symbol '=', symbol '@', word key, symbol ';'] ++ []))) := by
  have hwhere : lexemes " WHERE " = [word "WHERE"] := rfl
  have hword : lexemes "WHERE" = [word "WHERE"] := rfl
  have hend : lexemes ";" = [symbol ';'] := rfl
  rw [lexemes_append (Or.inr rfl), lexemes_around rfl,
    lexemes_append (Or.inl hs), lexemes_of_isPlain ht, lexemes_assignment hk, hwhere, hword, hend]
  simp only [List.append_assoc, List.cons_append, List.nil_append]

theorem reads_conditional (make : String → String × String → Command) (table key : String) :
    Reads (Reader.conditional make) (make table (key, parameterName key))
      ([word table] ++ (lexemes "WHERE" ++
        ([word key, symbol '=', symbol '@', word key, symbol ';'] ++ []))) :=
  Reads.bind (Reads.name table) (Reads.bind (Reads.phrase "WHERE")
    (Reads.bind (Reads.condition key) (Reads.pure _)))

theorem ofText?_delete {table key : String} (ht : IsPlain table) (hk : IsPlain key) :
    Command.ofText? (Statement.delete table key).text =
      some (.delete table (key, parameterName key)) := by
  have hstart : lexemes "DELETE FROM " = [word "DELETE"] ++ lexemes "FROM" := rfl
  refine Command.ofText?_eq_some ?_
  show Reads _ _ (lexemes ("DELETE FROM " ++ table ++ " WHERE " ++ assignment key ++ ";"))
  rw [lexemes_conditional rfl ht hk, hstart, List.append_assoc]
  refine Reads.bind (Reads.name "DELETE") ?_
  rw [if_neg (by decide), if_neg (by decide), if_pos rfl]
  exact Reads.bind (Reads.phrase "FROM") (reads_conditional .delete table key)

theorem ofText?_find {table key : String} (ht : IsPlain table) (hk : IsPlain key) :
    Command.ofText? (Statement.find table key).text =
      some (.select table (key, parameterName key)) := by
  have hstart : lexemes "SELECT * FROM " = [word "SELECT"] ++ lexemes "* FROM" := rfl
  refine Command.ofText?_eq_some ?_
  show Reads _ _ (lexemes ("SELECT * FROM " ++ table ++ " WHERE " ++ assignment key ++ ";"))
  rw [lexemes_conditional rfl ht hk, hstart, List.append_assoc]
  refine Reads.bind (Reads.name "SELECT") ?_
  rw [if_neg (by decide), if_neg (by decide), if_neg (by decide),
    if_pos rfl]
  exact Reads.bind (Reads.phrase "* FROM") (reads_conditional .select table key)

theorem ofText?_update {table key : String} {assigned : List String} (ht : IsPlain table)
    (hne : assigned ≠ []) (ha : ∀ c ∈ assigned, IsPlain c) (hk : IsPlain key) :
    Command.ofText? (Statement.update table assigned key).text =
      some (.update table (assigned.map fun column => (column, parameterName column))
        (key, parameterName key)) := by
  have hstart : lexemes "UPDATE " = [word "UPDATE"] := rfl
  have hset : lexemes " SET " = lexemes "SET" := rfl
  have hwhere : lexemes " WHERE " = [word "WHERE"] := rfl
  have hend : lexemes ";" = [symbol ';'] := rfl
  have htext : lexemes ("UPDATE " ++ table ++ " SET " ++ commaSeparated (assigned.map assignment)
      ++ " WHERE " ++ assignment key ++ ";") =
      [word "UPDATE"] ++ ([word table] ++ (lexemes "SET" ++
        (([comma].intercalate (assigned.map fun column =>
          [word column, symbol '=', symbol '@', word column]) ++ [word "WHERE"]) ++
        ([word key, symbol '=', symbol '@', word key, symbol ';'] ++ [])))) := by
    rw [lexemes_append (Or.inr rfl), lexemes_around rfl,
      lexemes_around rfl, lexemes_append (Or.inl rfl),
      lexemes_of_isPlain ht, lexemes_assignment hk, hwhere, hend, hset, hstart,
      lexemes_commaSeparated_map ha _ fun c hc => lexemes_assignment hc]
    simp only [List.append_assoc, List.cons_append, List.nil_append]
  refine Command.ofText?_eq_some ?_
  show Reads _ _ (lexemes ("UPDATE " ++ table ++ " SET " ++
    commaSeparated (assigned.map assignment) ++ " WHERE " ++ assignment key ++ ";"))
  rw [htext]
  refine Reads.bind (Reads.name "UPDATE") ?_
  rw [if_neg (by decide), if_pos rfl]
  refine Reads.bind (Reads.name table) (Reads.bind (Reads.phrase "SET") ?_)
  have hitems := Reads.items (by decide : word "WHERE" ≠ comma) hne Reads.assignment
  exact Reads.bind hitems (Reads.bind (Reads.condition key) (Reads.pure _))

/-- The lexemes of what follows an insertion on a conflict, for an action that starts with
its first word. -/
theorem lexemes_conflict {key : String} (hk : IsPlain key) {action : String}
    {rest : List Lexeme} (ha : lexemes action = word "DO" :: rest) :
    lexemes (" ON CONFLICT(" ++ key ++ ") " ++ action ++ ";") =
      [word "ON"] ++ (lexemes "CONFLICT(" ++ ([word key] ++ (lexemes ") DO" ++
        (rest ++ [symbol ';'])))) := by
  have hon : lexemes " ON CONFLICT(" = [word "ON"] ++ lexemes "CONFLICT(" := rfl
  have hclose : lexemes ") " = [symbol ')'] := rfl
  have hdo : lexemes ") DO" = [symbol ')', word "DO"] := rfl
  have hend : lexemes ";" = [symbol ';'] := rfl
  rw [lexemes_append (Or.inr rfl), lexemes_around rfl,
    lexemes_append (Or.inl rfl), lexemes_of_isPlain hk, ha, hon, hclose, hdo, hend]
  simp only [List.append_assoc, List.cons_append, List.nil_append]

theorem reads_nothing (key : String) :
    Reads Reader.conflict { key, assigned := [] }
      (lexemes "CONFLICT(" ++ ([word key] ++ (lexemes ") DO" ++
        ([word "NOTHING"] ++ [symbol ';'])))) := by
  have hend : lexemes ";" ++ [] = [symbol ';'] := rfl
  refine Reads.bind (Reads.phrase "CONFLICT(") (Reads.bind (Reads.name key)
    (Reads.bind (Reads.phrase ") DO") (Reads.bind (Reads.name "NOTHING") ?_)))
  rw [if_pos rfl, ← hend]
  exact Reads.bind (Reads.phrase ";") (Reads.pure _)

theorem reads_overwriting (key : String) (overwritten : List String) (hne : overwritten ≠ []) :
    Reads Reader.conflict
      { key, assigned := overwritten.map fun column => (column, column) }
      (lexemes "CONFLICT(" ++ ([word key] ++ (lexemes ") DO" ++ ([word "UPDATE"] ++
        (lexemes "SET" ++ (([comma].intercalate (overwritten.map fun column =>
          [word column, symbol '=', word "excluded", symbol '.', word column])
            ++ [symbol ';']) ++ [])))))) := by
  refine Reads.bind (Reads.phrase "CONFLICT(") (Reads.bind (Reads.name key)
    (Reads.bind (Reads.phrase ") DO") (Reads.bind (Reads.name "UPDATE") ?_)))
  rw [if_neg (by decide), if_pos rfl]
  refine Reads.bind (Reads.phrase "SET") ?_
  exact Reads.bind (Reads.items (by decide) hne Reads.overwriting) (Reads.pure _)

theorem lexemes_overwriting {column : String} (h : IsPlain column) :
    lexemes (column ++ " = excluded." ++ column) =
      [word column, symbol '=', word "excluded", symbol '.', word column] := by
  have heq : lexemes " = excluded." = [symbol '=', word "excluded", symbol '.'] := rfl
  rw [lexemes_around rfl, lexemes_of_isPlain h, heq]
  rfl

/-- The end of an insertion without what follows on a conflict. -/
theorem reads_insertionEnd_none : Reads Reader.insertionEnd none (lexemes ";") := by
  have hend : lexemes ";" = [symbol ';'] ++ [] := rfl
  rw [hend]
  refine Reads.bind (Reads.next (symbol ';')) ?_
  rw [if_pos rfl]
  exact Reads.pure none

/-- What follows an insertion on a conflict is read. -/
theorem reads_insertionEnd_some {c : Conflict} (hk : IsPlain c.key)
    (hc : ∀ column ∈ c.overwritten, IsPlain column) :
    Reads Reader.insertionEnd
      (some { key := c.key, assigned := c.overwritten.map fun column => (column, column) })
      (lexemes (c.text ++ ";")) := by
  obtain ⟨key, overwritten⟩ := c
  have hon : ∀ {found : Overwriting} {ls : List Lexeme}, Reads Reader.conflict found ls →
      Reads Reader.insertionEnd (some found) ([word "ON"] ++ (ls ++ [])) := by
    intro found ls hr
    refine Reads.bind (Reads.next (word "ON")) ?_
    rw [if_neg (by decide), if_pos rfl]
    exact Reads.bind hr (Reads.pure _)
  cases overwritten with
  | nil =>
      have hnothing : lexemes "DO NOTHING" = word "DO" :: [word "NOTHING"] := rfl
      have htext := lexemes_conflict hk hnothing
      show Reads _ _ (lexemes (" ON CONFLICT(" ++ key ++ ") " ++ "DO NOTHING" ++ ";"))
      rw [htext, ← List.append_nil (lexemes "CONFLICT(" ++ _)]
      exact hon (reads_nothing key)
  | cons column overwritten =>
      have hupdate : lexemes "DO UPDATE SET " =
          word "DO" :: ([word "UPDATE"] ++ lexemes "SET") := rfl
      have haction := lexemes_append (s := "DO UPDATE SET ")
        (t := commaSeparated ((column :: overwritten).map fun c => c ++ " = excluded." ++ c))
        (Or.inl rfl)
      rw [hupdate, lexemes_commaSeparated_map hc _ fun c hc => lexemes_overwriting hc,
        List.cons_append] at haction
      have htext := lexemes_conflict hk haction
      show Reads _ _ (lexemes (" ON CONFLICT(" ++ key ++ ") " ++ ("DO UPDATE SET " ++
        commaSeparated ((column :: overwritten).map fun c => c ++ " = excluded." ++ c)) ++ ";"))
      rw [htext]
      have hread := hon (reads_overwriting key (column :: overwritten) (by simp))
      simpa only [List.append_assoc, List.append_nil] using hread

/-- The end of the text of an insertion. -/
def endText (conflict : Option Conflict) : String :=
  (conflict.map Conflict.text).getD "" ++ ";"

theorem reads_insertionEnd {conflict : Option Conflict}
    (hc : ∀ c ∈ conflict, IsPlain c.key ∧ ∀ column ∈ c.overwritten, IsPlain column) :
    Reads Reader.insertionEnd
      (conflict.map fun c =>
        { key := c.key, assigned := c.overwritten.map fun column => (column, column) })
      (lexemes (endText conflict)) := by
  cases conflict with
  | none =>
      have hempty : endText none = ";" := String.empty_append
      rw [hempty]
      exact reads_insertionEnd_none
  | some c =>
      obtain ⟨hk, hcolumns⟩ := hc c rfl
      exact reads_insertionEnd_some hk hcolumns

theorem startsApart_endText (conflict : Option Conflict) :
    startsApart (endText conflict) = true := by
  cases conflict with
  | none => rfl
  | some c =>
      show startsApart (" ON CONFLICT(" ++ c.key ++ ") " ++ _ ++ ";") = true
      rw [String.append_assoc, String.append_assoc, String.append_assoc,
        startsApart_append (by decide)]
      rfl

/-- The lexemes of an insertion. -/
theorem lexemes_insert {table : String} {columns : List String} (ht : IsPlain table)
    (hc : ∀ c ∈ columns, IsPlain c) {rest : String} (hrest : startsApart rest = true) :
    lexemes (insertClause table columns ++ rest) =
      [word "INSERT"] ++ (lexemes "INTO" ++ ([word table] ++ (lexemes "(" ++
        (([comma].intercalate (columns.map fun c => [word c]) ++ [symbol ')']) ++
        (lexemes "VALUES (" ++
        (([comma].intercalate (columns.map fun c => [symbol '@', word c]) ++
          [symbol ')']) ++ (lexemes rest ++ []))))))) := by
  have hstart : lexemes "INSERT INTO " = [word "INSERT"] ++ lexemes "INTO" := rfl
  have hopen : lexemes " (" = lexemes "(" := rfl
  have hvalues : lexemes ") VALUES (" = [symbol ')'] ++ lexemes "VALUES (" := rfl
  have hclose : lexemes ")" = [symbol ')'] := rfl
  have hnames := lexemes_commaSeparated_map hc (fun c : String => c) fun c hc => lexemes_of_isPlain hc
  rw [List.map_id'] at hnames
  show lexemes ("INSERT INTO " ++ table ++ " (" ++ commaSeparated columns ++ ") VALUES (" ++
    commaSeparated (columns.map parameterName) ++ ")" ++ rest) = _
  rw [lexemes_append (Or.inr hrest), lexemes_append (Or.inr rfl),
    lexemes_around rfl, lexemes_around rfl,
    lexemes_append (Or.inl rfl), lexemes_of_isPlain ht, hnames,
    lexemes_commaSeparated_map hc _ fun c hc => lexemes_parameterName hc, hstart, hopen, hvalues,
    hclose]
  simp only [List.append_assoc, List.append_nil]

theorem ofText?_insert {table : String} {columns : List String} {conflict : Option Conflict}
    (ht : IsPlain table) (hne : columns ≠ []) (hc : ∀ c ∈ columns, IsPlain c)
    (hconflict : ∀ c ∈ conflict, IsPlain c.key ∧ ∀ column ∈ c.overwritten, IsPlain column) :
    Command.ofText? (Statement.insert table columns conflict).text =
      some (.insert table columns (columns.map parameterName) (conflict.map fun c =>
        { key := c.key, assigned := c.overwritten.map fun column => (column, column) })) := by
  refine Command.ofText?_eq_some ?_
  have htext : (Statement.insert table columns conflict).text =
      insertClause table columns ++ endText conflict := String.append_assoc
  rw [htext, lexemes_insert ht hc (startsApart_endText conflict)]
  refine Reads.bind (Reads.name "INSERT") ?_
  rw [if_pos rfl]
  refine Reads.bind (Reads.phrase "INTO") (Reads.bind (Reads.name table)
    (Reads.bind (Reads.phrase "(") ?_))
  have hnames := Reads.items (by decide : symbol ')' ≠ comma) hne Reads.name
  rw [List.map_id'] at hnames
  have hparameters := Reads.items (by decide : symbol ')' ≠ comma) hne Reads.parameter
  exact Reads.bind hnames (Reads.bind (Reads.phrase "VALUES (")
    (Reads.bind hparameters (Reads.bind (reads_insertionEnd hconflict) (Reads.pure _))))

/-- The text of a statement on rows is the command that it stands for. -/
theorem ofText?_text {s : Statement} (hs : s.IsReadable) :
    Command.ofText? s.text = s.command? := by
  cases s with
  | create _ _ _ _ => exact absurd hs id
  | insert table columns conflict =>
      obtain ⟨ht, hne, hc, hconflict⟩ := hs
      exact ofText?_insert ht hne hc hconflict
  | update table assigned key =>
      obtain ⟨ht, hne, ha, hk⟩ := hs
      exact ofText?_update ht hne ha hk
  | delete table key => exact ofText?_delete hs.1 hs.2
  | find table key => exact ofText?_find hs.1 hs.2

end Rowsmith.Sql
