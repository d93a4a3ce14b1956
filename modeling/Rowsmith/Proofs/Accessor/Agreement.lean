import Rowsmith.Proofs.Accessor.Calls
import Rowsmith.Proofs.Sql.ParameterNames

/-!
# Statements and methods agree

The texts of statements, the parameters that methods bind and the readings of rows are
made of the same columns in the same order. The names of parameters in a text are those
that its method binds; other names come only from the texts that a statement takes over.
-/

namespace Rowsmith.Sql
open Schema

variable {resolver : Resolver} {d : Declaration} {t : Table}

/-- A table of plain column names has no other names of columns in its statements. -/
theorem plain_columnNames (ht : extract resolver d = .ok t)
    (hp : ∀ c ∈ t.columns, IsPlain c.name) (operation : Operation) :
    ∀ name ∈ (t.statement operation).columnNames, IsPlain name := by
  have hcolumns : ∀ name ∈ t.columnNames, IsPlain name := by
    intro name hname
    obtain ⟨c, hc, rfl⟩ := List.mem_map.mp hname
    exact hp c hc
  have hkey : IsPlain t.key.name := hp t.key (key_mem_of_extract ht)
  have hothers : ∀ name ∈ t.otherNames, IsPlain name := fun name hname =>
    hcolumns name ((List.filter_sublist.map _).subset hname)
  have hdefinitions : ∀ name ∈ (t.columns.map Column.definition).map (·.name), IsPlain name := by
    rw [List.map_map]
    exact hcolumns
  cases operation with
  | createTable => exact hdefinitions
  | createTableIfNotExists => exact hdefinitions
  | insert =>
      intro name hname
      rcases List.mem_append.mp hname with h | h
      · exact hcolumns name h
      · exact absurd h List.not_mem_nil
  | upsert =>
      intro name hname
      rcases List.mem_append.mp hname with h | h
      · exact hcolumns name h
      · obtain ⟨conflict, hc, hmem⟩ := List.mem_flatMap.mp h
        obtain rfl := List.mem_singleton.mp hc
        rcases List.mem_cons.mp hmem with rfl | hmem
        · exact hkey
        · exact hothers name hmem
  | update =>
      intro name hname
      rcases List.mem_append.mp hname with h | h
      · split at h
        · exact List.mem_singleton.mp h ▸ hkey
        · exact hothers name h
      · exact List.mem_singleton.mp h ▸ hkey
  | delete =>
      intro name hname
      exact List.mem_singleton.mp hname ▸ hkey
  | find =>
      intro name hname
      exact List.mem_singleton.mp hname ▸ hkey

/-- An update has the parameters of all columns. -/
theorem mem_parameterColumns_update (ht : extract resolver d = .ok t) (name : String) :
    name ∈ t.updateStatement.parameterColumns ↔ name ∈ t.columnNames := by
  have hkey : t.key.name ∈ t.columnNames := List.mem_map_of_mem (key_mem_of_extract ht)
  show name ∈ (if t.otherNames.isEmpty then [t.key.name] else t.otherNames) ++ [t.key.name] ↔ _
  constructor
  · intro h
    rcases List.mem_append.mp h with h | h
    · split at h
      · exact List.mem_singleton.mp h ▸ hkey
      · exact (List.filter_sublist.map _).subset h
    · exact List.mem_singleton.mp h ▸ hkey
  · intro h
    obtain ⟨c, hc, rfl⟩ := List.mem_map.mp h
    rcases eq_key_or_mem_of_extract ht hc with rfl | hother
    · exact List.mem_append_right _ List.mem_cons_self
    · have hname : c.name ∈ t.otherNames := List.mem_map_of_mem hother
      rw [if_neg (by rw [List.isEmpty_iff]; exact List.ne_nil_of_mem hname)]
      exact List.mem_append_left _ hname

/-- The text that creates a table, given its lines. -/
def createText (ifAbsent : Bool) (table : String) (lines : List String) : String :=
  "CREATE TABLE " ++ (if ifAbsent then "IF NOT EXISTS " else "") ++ table ++ " (\n"
    ++ ",\n".intercalate (lines.map ("    " ++ ·)) ++ "\n);"

/-- A table is created with a line for each column in order, and one for each list of columns that
are unique together. -/
theorem createStatement_text (t : Table) (ifAbsent : Bool) :
    (t.createStatement ifAbsent).text =
      createText ifAbsent t.name
        (t.columns.map (·.definition.text) ++ t.uniques.map uniqueText) := by
  have hlines : t.columns.map (·.definition.text) =
      (t.columns.map Column.definition).map ColumnDefinition.text := by
    rw [List.map_map]
    rfl
  rw [hlines]
  rfl

end Rowsmith.Sql

namespace Rowsmith.Accessor
open Outcome Schema Source Sql

variable {resolver : Resolver} {d : Declaration} {t : Table}

/-- How the statements, the parameters and the readings of the methods of a table agree. -/
structure Agree (t : Table) (c : Context) (ms : List Method) : Prop where
  operations : ms.map (·.operation) = Operation.all
  /-- The body of a method is nothing but the program of its operation. -/
  bodies : ∀ m ∈ ms, bodyOf (m.tokens c) =
    (program t c.runtime m.operation m.placeholder).flatMap (·.tokens c.runtime)
  calls : ∀ m ∈ ms, callsIn (bodyOf (m.tokens c)) =
    openingCalls m.placeholder ++ (boundBy t m.operation).flatMap (bindingCalls c.runtime) ++
      runningCalls m.operation
  parameters : ∀ m ∈ ms, ∀ {V : Type} (e : Environment V) (arguments : Arguments V),
    (m.command e arguments).parameters.map (·.name) = m.body.bound.map (·.2.parameter)
  names : ∀ m ∈ ms, ∀ name, name ∈ names m.sql ↔
    name ∈ m.body.bound.map (·.2.parameter) ∨ name ∈ m.statement.otherTexts.flatMap names
  create : ∀ m ∈ ms, m.operation ∈ [.createTable, .createTableIfNotExists] →
    m.body.bound = [] ∧
      m.sql = createText (m.operation = .createTableIfNotExists) t.name
        (t.columns.map (·.definition.text) ++ t.uniques.map uniqueText)
  write : ∀ m ∈ ms, m.operation ∈ [.insert, .upsert, .update] →
    List.Forall₂ (fun column p => ∃ property,
      identifierOf t.className column.propertyName = .ok property ∧
        p = (code "dbo ." ++ word property, bindingFor column)) t.columns m.body.bound
  values : ∀ m ∈ ms, m.operation ∈ [.insert, .upsert] → ∃ rest,
    m.sql = "INSERT INTO " ++ t.name ++ " (" ++ commaSeparated (t.columns.map (·.name)) ++
      ") VALUES (" ++ commaSeparated (m.body.bound.map (·.2.parameter)) ++ ")" ++ rest
  key : ∀ m ∈ ms, m.operation ∈ [.delete, .find] →
    m.body.bound = [(word "primary_key", bindingFor t.key)]
  /-- The row that is found has an initializer for each column, which reads at its ordinal, and
  takes defaults exactly if a property has no column. -/
  find : ∀ m ∈ ms, m.operation = .find → ∃ keyType binding readings,
    m.body = .find keyType binding readings t.skipped ∧
      List.Forall₂ (fun p r => r.Reads t.className p.2 p.1) t.columns.zipIdx readings ∧
      (Instruction.answer c.className
        (t.columns.zipIdx.map fun p => (identifier p.1.propertyName, readAt p.1 p.2))
        t.skipped).tokens c.runtime <:+ bodyOf (m.tokens c)

namespace Method.Serves

variable {m : Method} (hs : m.Serves t)

include hs

theorem parameters_write (ho : m.operation ∈ [.insert, .upsert, .update]) :
    m.body.bound.map (·.2.parameter) = t.columnNames.map parameterName := by
  rw [Table.columnNames, List.map_map, ← List.forall₂_eq_eq_eq, List.forall₂_map_left_iff,
    List.forall₂_map_right_iff]
  refine (hs.bound_write ho).flip.imp fun p column hp => ?_
  obtain ⟨property, -, rfl⟩ := hp
  rfl

/-- A finding method reads the columns in order, each at its own ordinal. -/
theorem row_find (ho : m.operation = .find) {runtime : List Token} {c : Context}
    (hc : contextOf t runtime = .ok c) :
    ∃ keyType binding readings, m.body = .find keyType binding readings t.skipped ∧
      List.Forall₂ (fun p r => r.Reads t.className p.2 p.1) t.columns.zipIdx readings ∧
      (Instruction.answer c.className
        (t.columns.zipIdx.map fun p => (identifier p.1.propertyName, readAt p.1 p.2))
        t.skipped).tokens runtime <:+ bodyOf (m.tokens c) := by
  obtain ⟨keyType, binding, readings, hm, -, -, hr⟩ := (ho ▸ hs.body).of_find
  refine ⟨keyType, binding, readings, hm, readingsFrom_reads hr, ?_⟩
  obtain ⟨className, hname, hcontext⟩ := bind_eq_ok_iff.mp hc
  have hclass : identifier t.className = c.className := by
    rw [identifier_eq hname, ← pure_eq_ok_iff.mp hcontext]
  have hclosing : (closing t .find).flatMap (·.tokens runtime) = _ ++ (_ ++ (_ ++ [])) := rfl
  rw [hs.bodyOf_tokens_eq hc, ho, program, List.flatMap_append, List.flatMap_append, hclosing,
    List.append_nil, hclass]
  exact (((List.suffix_append _ _).trans (List.suffix_append _ _)).trans
    (List.suffix_append _ _)).trans (List.suffix_append _ _)

theorem sql_create (ho : m.operation ∈ [.createTable, .createTableIfNotExists]) :
    m.sql = createText (m.operation = .createTableIfNotExists) t.name
      (t.columns.map (·.definition.text) ++ t.uniques.map uniqueText) := by
  rw [Method.sql, hs.statement]
  simp only [List.mem_cons, List.not_mem_nil, or_false] at ho
  rcases ho with ho | ho
  · rw [ho]
    exact createStatement_text t false
  · rw [ho]
    exact createStatement_text t true

theorem sql_insert (ho : m.operation ∈ [.insert, .upsert]) : ∃ rest,
    m.sql = "INSERT INTO " ++ t.name ++ " (" ++ commaSeparated (t.columns.map (·.name)) ++
      ") VALUES (" ++ commaSeparated (m.body.bound.map (·.2.parameter)) ++ ")" ++ rest := by
  have hw : m.operation ∈ [.insert, .upsert, .update] := by
    simp only [List.mem_cons] at ho ⊢
    tauto
  rw [hs.parameters_write hw, Method.sql, hs.statement]
  simp only [List.mem_cons, List.not_mem_nil, or_false] at ho
  rcases ho with ho | ho
  · rw [ho]
    exact ⟨_, String.append_assoc⟩
  · rw [ho]
    exact ⟨_, String.append_assoc⟩

end Method.Serves

/-- The parameters that a method binds are those of its statement. -/
theorem Method.Serves.mem_parameters (ht : extract resolver d = .ok t) {m : Method}
    (hs : m.Serves t) (name : String) :
    name ∈ m.statement.parameterColumns.map parameterName ↔
      name ∈ m.body.bound.map (·.2.parameter) := by
  rw [hs.statement]
  have hkey : m.operation ∈ [.delete, .find] →
      m.body.bound.map (·.2.parameter) = [t.key.name].map parameterName := by
    intro ho
    rw [hs.bound_key ho]
    rfl
  cases ho : m.operation with
  | createTable => rw [hs.bound_create (by simp [ho])]; rfl
  | createTableIfNotExists => rw [hs.bound_create (by simp [ho])]; rfl
  | insert => rw [hs.parameters_write (by simp [ho])]; rfl
  | upsert => rw [hs.parameters_write (by simp [ho])]; rfl
  | update =>
      rw [hs.parameters_write (by simp [ho]), List.mem_map, List.mem_map]
      exact exists_congr fun column =>
        and_congr_left fun _ => mem_parameterColumns_update ht column
  | delete => rw [hkey (by simp [ho])]; rfl
  | find => rw [hkey (by simp [ho])]; rfl

/-- The methods of an extracted table with plain column names agree with their statements. -/
theorem methods_agree (ht : extract resolver d = .ok t) (hp : ∀ c ∈ t.columns, IsPlain c.name)
    {path : String} {runtime : List Token}
    (hr : Phrase.ofText Phrase.wholePath path = .ok runtime) {c : Context}
    (hc : contextOf t runtime = .ok c) {ms : List Method} (hm : methods t = .ok ms) :
    List.Forall₂ (fun p column => ∃ marks, marksOf p = .ok marks ∧
        columnWith resolver p marks = column) (d.properties.filter (·.isColumn)) t.columns ∧
      t.skipped = (d.properties.filter (!·.isColumn)).map (·.name) ∧
      t.columns.filter (·.isPrimaryKey) = [t.key] ∧ Agree t c ms := by
  obtain ⟨hoperations, hserve⟩ := methods_serve hm
  have hruntime : c.runtime = runtime := by
    obtain ⟨className, -, hc⟩ := bind_eq_ok_iff.mp hc
    obtain rfl := pure_eq_ok_iff.mp hc
    rfl
  have hskipped := congrArg Table.skipped (extract_eq_ok_iff.mp ht).2.2
  refine ⟨columns_of_extract ht, hskipped, filter_isPrimaryKey_of_extract ht, ?_⟩
  subst hruntime
  have hcode : ∀ m ∈ ms, bodyOf (m.tokens c) =
      (program t c.runtime m.operation m.placeholder).flatMap (·.tokens c.runtime) :=
    fun m hmem => (hserve m hmem).bodyOf_tokens_eq hc
  constructor
  · exact hoperations
  · exact hcode
  · intro m hmem
    rw [hcode m hmem, callsIn_program (Phrase.dotless_of_ofText hr)]
  · exact fun m _ _ e arguments => m.body.parameters_names e arguments
  · intro m hmem name
    have hplain := plain_columnNames ht hp m.operation
    rw [← (hserve m hmem).statement] at hplain
    rw [Method.sql, Statement.names_text hplain, List.mem_append,
      (hserve m hmem).mem_parameters ht, or_comm]
  · exact fun m hmem ho => ⟨(hserve m hmem).bound_create ho, (hserve m hmem).sql_create ho⟩
  · exact fun m hmem ho => (hserve m hmem).bound_write ho
  · exact fun m hmem ho => (hserve m hmem).sql_insert ho
  · exact fun m hmem ho => (hserve m hmem).bound_key ho
  · exact fun m hmem ho => (hserve m hmem).row_find ho hc

set_option maxRecDepth 100000 in
/-- The methods of members agree with their statements. -/
theorem methods_agree_member : ∃ c ms,
    contextOf memberTable (code ":: table_context") = .ok c ∧ methods memberTable = .ok ms ∧
      List.Forall₂ (fun p column => ∃ marks, marksOf p = .ok marks ∧
        columnWith memberResolver p marks = column)
        (member.properties.filter (·.isColumn)) memberTable.columns ∧
      memberTable.skipped = (member.properties.filter (!·.isColumn)).map (·.name) ∧
      memberTable.columns.filter (·.isPrimaryKey) = [memberTable.key] ∧
      Agree memberTable c ms := by
  have hpath : Phrase.ofText Phrase.wholePath "::table_context" =
      .ok (code ":: table_context") := by rfl
  have hplain : ∀ c ∈ memberTable.columns, IsPlain c.name := by decide
  obtain ⟨u, hu⟩ := exists_unit_member
  obtain ⟨hm, hc, -⟩ := methods_of_ofTable hu
  exact ⟨u.context, u.methods, hc, hm, methods_agree extract_member hplain hpath hc hm⟩

/-- A class whose table has an at sign in its name. -/
def tagged : Declaration :=
  { name := "Tagged"
    annotations := [{ name := "table", positional := [.text "a@b"] }]
    properties := [{ name := "id", type := "u64", annotations := [{ name := "primary_key" }] }] }

/-- The table of the class, with its key as the only column. -/
def taggedTable : Table :=
  { name := "a@b", className := "Tagged", key := memberKey, columns := [memberKey] }

set_option maxRecDepth 100000 in
/-- A name in the text of a statement need not be one of a parameter: the name of the table
may bring it along. -/
theorem exists_unbound_name : ∃ ms, extract plainResolver tagged = .ok taggedTable ∧
    (∀ c ∈ taggedTable.columns, IsPlain c.name) ∧ methods taggedTable = .ok ms ∧
      ∃ m ∈ ms, "@b" ∈ names m.sql ∧ "@b" ∉ m.body.bound.map (·.2.parameter) := by
  have hextract : extract plainResolver tagged = .ok taggedTable := by decide +kernel
  have hmethods : (methods taggedTable).isOk = true := by decide
  rcases hm : methods taggedTable with _ | ms
  · rw [hm] at hmethods
    cases hmethods
  obtain ⟨m, hmem, ho⟩ := exists_method hm .delete
  have hs := (methods_serve hm).2 m hmem
  refine ⟨ms, hextract, by decide, rfl, m, hmem, ?_, ?_⟩
  · rw [Method.sql, hs.statement, ho]
    decide
  · rw [hs.bound_key (by simp [ho])]
    decide

end Rowsmith.Accessor
