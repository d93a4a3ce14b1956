import Rowsmith.Accessor.Run
import Rowsmith.Proofs.Accessor.Column
import Rowsmith.Proofs.Accessor.Method
import Rowsmith.Proofs.Schema.Extraction
import Rowsmith.Proofs.Sql.Store

/-!
# Statements keep rows by key

The statements of a table with plain names, read and run with the parameters of a row,
keep the row under its key: an insertion of an absent key and an insertion or update
store it, an update changes rows that are there only, a deletion removes it, and it is
found as it was stored. No other key is touched.
-/

namespace Rowsmith.Sql
open Accessor Outcome Schema Value

section Bound

variable {V : Type} {e : Environment V} {t : Table} {l : Layout}

/-- A parameter is found by its name where no two parameters share one. -/
theorem valueOf?_of_mem {parameters : List Parameter}
    (hn : (parameters.map (·.name)).Nodup) {p : Parameter} (hp : p ∈ parameters) :
    valueOf? parameters p.name = some p.value := by
  induction parameters with
  | nil => exact absurd hp List.not_mem_nil
  | cons q parameters ih =>
      obtain ⟨hq, hrest⟩ := List.nodup_cons.mp hn
      rcases List.mem_cons.mp hp with rfl | hp
      · simp [valueOf?]
      · have hne : (q.name == p.name) = false := by
          have hmem : p.name ∈ parameters.map (·.name) := List.mem_map_of_mem hp
          simpa using fun hname : q.name = p.name => hq (by simpa only [hname] using hmem)
        rw [valueOf?, List.find?_cons_of_neg (by simp [hne])]
        exact ih hrest hp

/-- Parameters that are named for the columns in order are those of a row. -/
theorem exists_parameters_eq (hl : l.columns.Nodup) {parameters : List Parameter}
    (hnames : parameters.map (·.name) = l.columns.map parameterName) :
    ∃ r : Record l, l.parameters r = parameters := by
  have hn : (parameters.map (·.name)).Nodup := by
    rw [hnames]
    exact hl.map parameterName_injective
  let value (name : String) : SqlValue := (valueOf? parameters name).getD .null
  refine ⟨fun c => value (parameterName c.1), ?_⟩
  calc l.parameters (fun c => value (parameterName c.1))
      = l.columns.map fun c => { name := parameterName c, value := value (parameterName c) } := by
        refine List.map_congr_left fun c hc => ?_
        rw [Record.get_of_mem _ hc]
    _ = (l.columns.map parameterName).map fun name => { name, value := value name } := by
        rw [List.map_map]
        rfl
    _ = parameters.map fun p => { name := p.name, value := value p.name } := by
        rw [← hnames, List.map_map]
        rfl
    _ = parameters.map id := by
        refine List.map_congr_left fun p hp => ?_
        simp only [value, valueOf?_of_mem hn hp, Option.getD_some, id]
    _ = parameters := List.map_id parameters

/-- What a writing method binds are the parameters of a row, whose columns have the values
of their properties. -/
theorem exists_row_of_bindings (hl : l.columns.Nodup) (hcolumns : l.columns = t.columnNames)
    {bindings : List (String × Binding)} (hb : rowBindings t = .ok bindings)
    (values : String → Held V) :
    ∃ r : Record l,
      (MethodBody.write bindings).parameters e (.row values) = l.parameters r ∧
      ∀ c ∈ t.columns, ∀ property, identifierOf t.className c.propertyName = .ok property →
        r.get c.name = (bindingFor c).bound e (values property) := by
  have hbound := parameters_forall₂ e hb values
  have hnames : ((MethodBody.write bindings).parameters e (.row values)).map (·.name) =
      l.columns.map parameterName := by
    rw [hcolumns, Table.columnNames, List.map_map, ← List.forall₂_eq_eq_eq,
      List.forall₂_map_left_iff, List.forall₂_map_right_iff]
    refine hbound.flip.imp fun p c hp => ?_
    obtain ⟨property, -, rfl⟩ := hp
    rfl
  obtain ⟨r, hr⟩ := exists_parameters_eq hl hnames
  refine ⟨r, hr.symm, ?_⟩
  intro c hc property hproperty
  obtain ⟨p, hp, found, hfound, rfl⟩ := exists_of_mem_left hbound hc
  obtain rfl : found = property := by simpa [hproperty, eq_comm] using hfound
  have hmem : c.name ∈ l.columns := by
    rw [hcolumns]
    exact List.mem_map_of_mem hc
  have hn : ((l.parameters r).map (·.name)).Nodup := by
    rw [hr, hnames]
    exact hl.map parameterName_injective
  have hvalue := valueOf?_of_mem hn (hr ▸ hp)
  have hget := valueOf?_parameters r hmem
  rw [show ((bindingFor c).toParameter e (values found)).name = parameterName c.name from rfl,
    hget] at hvalue
  exact Option.some.inj hvalue

end Bound

section Tables

variable {t : Table} {l : Layout}

/-- Whether a store is what another one becomes when a key is set to a row, or to none. -/
def Store.Becomes (s : Store l) (k : KeyValue) (row : Option { r : Record l // r.key = k.1 })
    (after : Store l) : Prop :=
  after.lookup k = row ∧ ∀ other, other ≠ k → after.lookup other = s.lookup other

theorem Store.becomes_insert (s : Store l) (k : KeyValue) (row : { r : Record l // r.key = k.1 }) :
    s.Becomes k (some row) (s.insert k row) :=
  ⟨Finmap.lookup_insert s, fun _ h => Finmap.lookup_insert_of_ne s h⟩

theorem Store.becomes_erase (s : Store l) (k : KeyValue) : s.Becomes k none (s.erase k) :=
  ⟨Finmap.lookup_erase k s, fun _ h => Finmap.lookup_erase_ne h⟩

/-- The statements of a table keep rows by key: with the parameters of a row or a key, each
of them does to a store what its operation is for, and leaves all other keys alone. -/
structure KeepsRows (t : Table) (l : Layout) : Prop where
  insert_absent : ∀ (s : Store l) (r : Record l) (k : KeyValue) (hk : r.key = k.1), k ∉ s →
    ∃ after, runText l t.insertStatement.text (l.parameters r) s = some (after, []) ∧
      s.Becomes k (some ⟨r, hk⟩) after
  insert_present : ∀ (s : Store l) (r : Record l) (k : KeyValue), r.key = k.1 → k ∈ s →
    runText l t.insertStatement.text (l.parameters r) s = none
  upsert : ∀ (s : Store l) (r : Record l) (k : KeyValue) (hk : r.key = k.1),
    ∃ after, runText l t.upsertStatement.text (l.parameters r) s = some (after, []) ∧
      s.Becomes k (some ⟨r, hk⟩) after
  update_present : ∀ (s : Store l) (r : Record l) (k : KeyValue) (hk : r.key = k.1), k ∈ s →
    ∃ after, runText l t.updateStatement.text (l.parameters r) s = some (after, []) ∧
      s.Becomes k (some ⟨r, hk⟩) after
  update_absent : ∀ (s : Store l) (r : Record l) (k : KeyValue), r.key = k.1 → k ∉ s →
    runText l t.updateStatement.text (l.parameters r) s = some (s, [])
  delete : ∀ (s : Store l) (k : KeyValue),
    ∃ after, runText l t.deleteStatement.text [l.keyParameter k.1] s = some (after, []) ∧
      s.Becomes k none after
  find : ∀ (s : Store l) (k : KeyValue),
    runText l t.findStatement.text [l.keyParameter k.1] s =
      some (s, ((s.lookup k).map fun r => r.1.values).toList)

/-- The methods of a table bind rows and keys: a writing method binds the parameters of a
row whose columns have the values of their properties, and a method that takes a key binds
the parameter of the key as it is bound in a row. -/
structure BindsRows (t : Table) (l : Layout) : Prop where
  write : ∀ {V : Type} (e : Environment V) (ms : List Method), methods t = .ok ms →
    ∀ m ∈ ms, m.operation ∈ [Operation.insert, .upsert, .update] →
    ∀ values : String → Held V, ∃ r : Record l,
      m.command e (.row values) =
        { how := .nonQuery, text := (t.statement m.operation).text, parameters := l.parameters r } ∧
      ∀ c ∈ t.columns, ∀ property, identifierOf t.className c.propertyName = .ok property →
        r.get c.name = (bindingFor c).bound e (values property)
  key : ∀ {V : Type} (e : Environment V) (ms : List Method), methods t = .ok ms →
    ∀ m ∈ ms, m.operation ∈ [Operation.delete, .find] → ∀ value : Held V,
      (m.command e (.key value)).text = (t.statement m.operation).text ∧
      (m.command e (.key value)).parameters =
        [l.keyParameter ((bindingFor t.key).bound e value)]

/-- A layout as a table has it. -/
structure Layout.Fits (l : Layout) (t : Table) : Prop where
  table : l.table = t.name
  columns : l.columns = t.columnNames
  key : l.key = t.key.name

/-- The statement that creates an extracted table has the layout of the table. -/
theorem exists_layout {resolver : Resolver} {d : Declaration} (ht : extract resolver d = .ok t)
    (ifAbsent : Bool) :
    ∃ l, Layout.ofCreate? (t.createStatement ifAbsent) = some l ∧ l.Fits t := by
  have hkey : (t.columns.map Column.definition).filter (·.isPrimaryKey) = [t.key.definition] := by
    rw [List.filter_map]
    exact congrArg (List.map Column.definition) (filter_isPrimaryKey_of_extract ht)
  refine ⟨_, Layout.ofCreate?_create hkey ifAbsent t.name t.uniques, rfl, ?_, rfl⟩
  exact List.map_map

/-- What is required of the names of a table. -/
structure PlainNames (t : Table) : Prop where
  table : IsPlain t.name
  columns : ∀ c ∈ t.columns, IsPlain c.name
  nodup : t.columnNames.Nodup

/-- Whether columns are distinct ones of a table, and all of them but its key at most. -/
structure Covers (t : Table) (columns : List String) : Prop where
  nodup : columns.Nodup
  mem : ∀ c ∈ columns, c ∈ t.columnNames
  all : ∀ c ∈ t.columnNames, c = t.key.name ∨ c ∈ columns

section Extracted

variable {resolver : Resolver} {d : Declaration}

theorem key_mem_columnNames (ht : extract resolver d = .ok t) : t.key.name ∈ t.columnNames :=
  List.mem_map_of_mem (key_mem_of_extract ht)

/-- The other columns cover an extracted table. -/
theorem otherNames_covers (ht : extract resolver d = .ok t) (hn : t.columnNames.Nodup) :
    Covers t t.otherNames := by
  have hsub : t.otherNames.Sublist t.columnNames := List.filter_sublist.map _
  refine ⟨hn.sublist hsub, fun c hc => hsub.subset hc, ?_⟩
  intro name hname
  obtain ⟨c, hc, rfl⟩ := List.mem_map.mp hname
  rcases eq_key_or_mem_of_extract ht hc with rfl | hother
  · exact Or.inl rfl
  · exact Or.inr (List.mem_map_of_mem hother)

/-- An update assigns some columns, which cover the table. -/
theorem updateStatement_covers (ht : extract resolver d = .ok t) (hn : t.columnNames.Nodup) :
    ∃ columns, t.updateStatement = .update t.name columns t.key.name ∧ columns ≠ [] ∧
      Covers t columns := by
  have hothers := otherNames_covers ht hn
  cases ho : t.otherNames with
  | nil =>
      refine ⟨[t.key.name], by simp [Table.updateStatement, ho], by simp, ?_⟩
      rw [ho] at hothers
      refine ⟨List.nodup_singleton _, ?_, ?_⟩
      · intro c hc
        rw [List.mem_singleton.mp hc]
        exact key_mem_columnNames ht
      · intro c hc
        exact Or.inl ((hothers.all c hc).resolve_right List.not_mem_nil)
  | cons name names =>
      rw [ho] at hothers
      exact ⟨name :: names, by simp [Table.updateStatement, ho], by simp, hothers⟩

end Extracted

theorem PlainNames.of_mem (hp : PlainNames t) {name : String} (h : name ∈ t.columnNames) :
    IsPlain name := by
  obtain ⟨c, hc, rfl⟩ := List.mem_map.mp h
  exact hp.columns c hc

theorem Covers.has (hl : l.Fits t) {columns : List String} (h : Covers t columns) :
    l.Has columns := by
  refine ⟨h.nodup, fun c hc => ?_⟩
  rw [hl.columns]
  exact h.mem c hc

theorem Covers.all_columns (hl : l.Fits t) {columns : List String} (h : Covers t columns) :
    ∀ c ∈ l.columns, c = l.key ∨ c ∈ columns := by
  rw [hl.columns, hl.key]
  exact h.all

/-- The command of a statement on rows is run on its text. -/
theorem runText_text {s : Statement} {c : Command} (hs : s.IsReadable) (hc : s.command? = some c)
    (parameters : List Parameter) (store : Store l) :
    runText l s.text parameters store = c.run l parameters store := by
  rw [runText, ofText?_text hs, hc]
  rfl

section Texts

variable {resolver : Resolver} {d : Declaration} (ht : extract resolver d = .ok t)
  (hp : PlainNames t) (hl : l.Fits t) (s : Store l)

include ht hp hl

theorem runText_insert (r : Record l) :
    runText l t.insertStatement.text (l.parameters r) s = (s.insert? r none).map (·, []) := by
  have hplain : t.insertStatement.IsReadable :=
    ⟨hp.table, List.ne_nil_of_mem (key_mem_columnNames ht), fun _ hc => hp.of_mem hc,
      fun _ hc => nomatch hc⟩
  rw [runText_text hplain rfl, ← hl.table, ← hl.columns]
  exact run_insert (hl.columns ▸ hp.nodup) r s none

theorem runText_upsert {r : Record l} {k : KeyValue} (hk : r.key = k.1) :
    runText l t.upsertStatement.text (l.parameters r) s = some (s.insert k ⟨r, hk⟩, []) := by
  have hcovers := otherNames_covers ht hp.nodup
  have hplain : t.upsertStatement.IsReadable := by
    refine ⟨hp.table, List.ne_nil_of_mem (key_mem_columnNames ht), fun _ hc => hp.of_mem hc, ?_⟩
    intro c hc
    obtain rfl := Option.mem_some_iff.mp hc
    exact ⟨hp.of_mem (key_mem_columnNames ht), fun _ ho => hp.of_mem (hcovers.mem _ ho)⟩
  rw [runText_text hplain rfl, ← hl.table, ← hl.columns, Option.map_some, ← hl.key,
    run_insert (hl.columns ▸ hp.nodup),
    insert?_overwriting (hcovers.has hl) (hcovers.all_columns hl) hk]
  rfl

theorem runText_update {r : Record l} {k : KeyValue} (hk : r.key = k.1) :
    runText l t.updateStatement.text (l.parameters r) s =
      some (if k ∈ s then s.insert k ⟨r, hk⟩ else s, []) := by
  obtain ⟨columns, hstatement, hne, hcovers⟩ := updateStatement_covers ht hp.nodup
  have hplain : (Statement.update t.name columns t.key.name).IsReadable :=
    ⟨hp.table, hne, fun c hc => hp.of_mem (hcovers.mem c hc),
      hp.of_mem (key_mem_columnNames ht)⟩
  rw [hstatement, runText_text hplain rfl, ← hl.table, ← hl.key]
  exact run_update (hcovers.has hl) (hcovers.all_columns hl) hk

theorem runText_delete (k : KeyValue) :
    runText l t.deleteStatement.text [l.keyParameter k.1] s = some (s.erase k, []) := by
  have hplain : t.deleteStatement.IsReadable := ⟨hp.table, hp.of_mem (key_mem_columnNames ht)⟩
  rw [runText_text hplain rfl, ← hl.table, ← hl.key]
  exact run_delete

theorem runText_find (k : KeyValue) :
    runText l t.findStatement.text [l.keyParameter k.1] s =
      some (s, ((s.lookup k).map fun r => r.1.values).toList) := by
  have hplain : t.findStatement.IsReadable := ⟨hp.table, hp.of_mem (key_mem_columnNames ht)⟩
  rw [runText_text hplain rfl, ← hl.table, ← hl.key]
  exact run_select

/-- The statements of an extracted table with plain names keep rows by key. -/
theorem keepsRows_of_extract : KeepsRows t l where
  insert_absent := by
    intro s r k hk habsent
    refine ⟨s.insert k ⟨r, hk⟩, ?_, s.becomes_insert k ⟨r, hk⟩⟩
    rw [runText_insert ht hp hl, insert?_absent hk (Finmap.lookup_eq_none.mpr habsent)]
    rfl
  insert_present := by
    intro s r k hk hpresent
    rw [runText_insert ht hp hl, insert?_present hk hpresent]
    rfl
  upsert := by
    intro s r k hk
    exact ⟨s.insert k ⟨r, hk⟩, runText_upsert ht hp hl s hk, s.becomes_insert k ⟨r, hk⟩⟩
  update_present := by
    intro s r k hk hpresent
    refine ⟨s.insert k ⟨r, hk⟩, ?_, s.becomes_insert k ⟨r, hk⟩⟩
    rw [runText_update ht hp hl s hk, if_pos hpresent]
  update_absent := by
    intro s r k hk habsent
    rw [runText_update ht hp hl s hk, if_neg habsent]
  delete := by
    intro s k
    exact ⟨s.erase k, runText_delete ht hp hl s k, s.becomes_erase k⟩
  find := by
    intro s k
    exact runText_find ht hp hl s k

end Texts

/-- The methods of a table bind rows and keys. -/
theorem bindsRows_of_fits (hl : l.Fits t) (hn : t.columnNames.Nodup) : BindsRows t l where
  write := by
    intro V e ms hms m hm ho values
    have hserve := (methods_serve hms).2 m hm
    obtain ⟨bindings, hbody, hb⟩ := hserve.body.of_write ho
    obtain ⟨r, hr, hvalues⟩ := exists_row_of_bindings (e := e) (hl.columns ▸ hn) hl.columns hb values
    refine ⟨r, ?_, hvalues⟩
    rw [Method.command, hbody, hr, Method.sql, hserve.statement]
    rfl
  key := by
    intro V e ms hms m hm ho value
    obtain ⟨hstatement, -, hbody⟩ := (methods_serve hms).2 m hm
    refine ⟨congrArg Statement.text hstatement, ?_⟩
    have hparameter : ∀ binding, keyBinding t = .ok binding →
        binding.toParameter e value = l.keyParameter ((bindingFor t.key).bound e value) := by
      intro binding hb
      rw [(bindingOf_eq_ok_iff.mp hb).1, Layout.keyParameter, hl.key]
      rfl
    simp only [List.mem_cons, List.not_mem_nil, or_false] at ho
    rcases ho with ho | ho
    · obtain ⟨keyType, binding, hm, -, hb⟩ := (ho ▸ hbody).of_delete
      rw [Method.command, hm, ← hparameter binding hb]
      rfl
    · obtain ⟨keyType, binding, readings, hm, -, hb, -⟩ := (ho ▸ hbody).of_find
      rw [Method.command, hm, ← hparameter binding hb]
      rfl

/-- What the method of an operation does to a store, given a key and the row with it where it takes
one: the store after it and the rows that it yields, or none where its command is refused. -/
inductive Store.Keeps (s : Store l) (k : KeyValue) : Operation →
    Option { r : Record l // r.key = k.1 } → Option (Store l × List Row) → Prop
  | inserts {row after} (habsent : k ∉ s) (h : s.Becomes k (some row) after) :
      s.Keeps k .insert (some row) (some (after, []))
  | refuses {row} (hpresent : k ∈ s) : s.Keeps k .insert (some row) none
  | upserts {row after} (h : s.Becomes k (some row) after) :
      s.Keeps k .upsert (some row) (some (after, []))
  | updates {row after} (hpresent : k ∈ s) (h : s.Becomes k (some row) after) :
      s.Keeps k .update (some row) (some (after, []))
  | leaves {row} (habsent : k ∉ s) : s.Keeps k .update (some row) (some (s, []))
  | deletes {after} (h : s.Becomes k none after) : s.Keeps k .delete none (some (after, []))
  | finds : s.Keeps k .find none (some (s, ((s.lookup k).map fun r => r.1.values).toList))

/-- Runs the command that a method ran. -/
def runExecuted (l : Layout) (x : Executed) (s : Store l) : Option (Store l × List Row) :=
  runText l x.text x.parameters s

theorem KeepsRows.write (h : KeepsRows t l) {operation : Operation}
    (ho : operation ∈ [Operation.insert, .upsert, .update]) (s : Store l) {k : KeyValue}
    (row : { r : Record l // r.key = k.1 }) :
    s.Keeps k operation (some row)
      (runText l (t.statement operation).text (l.parameters row.1) s) := by
  obtain ⟨r, hk⟩ := row
  simp only [List.mem_cons, List.not_mem_nil, or_false] at ho
  rcases ho with rfl | rfl | rfl
  · show s.Keeps k .insert _ (runText l t.insertStatement.text _ s)
    by_cases hpresent : k ∈ s
    · rw [h.insert_present s r k hk hpresent]
      exact .refuses hpresent
    · obtain ⟨after, hrun, hafter⟩ := h.insert_absent s r k hk hpresent
      rw [hrun]
      exact .inserts hpresent hafter
  · obtain ⟨after, hrun, hafter⟩ := h.upsert s r k hk
    show s.Keeps k .upsert _ (runText l t.upsertStatement.text _ s)
    rw [hrun]
    exact .upserts hafter
  · show s.Keeps k .update _ (runText l t.updateStatement.text _ s)
    by_cases hpresent : k ∈ s
    · obtain ⟨after, hrun, hafter⟩ := h.update_present s r k hk hpresent
      rw [hrun]
      exact .updates hpresent hafter
    · rw [h.update_absent s r k hk hpresent]
      exact .leaves hpresent

theorem KeepsRows.key (h : KeepsRows t l) {operation : Operation}
    (ho : operation ∈ [Operation.delete, .find]) (s : Store l) (k : KeyValue) :
    s.Keeps k operation none
      (runText l (t.statement operation).text [l.keyParameter k.1] s) := by
  simp only [List.mem_cons, List.not_mem_nil, or_false] at ho
  rcases ho with rfl | rfl
  · obtain ⟨after, hrun, hafter⟩ := h.delete s k
    show s.Keeps k .delete _ (runText l t.deleteStatement.text _ s)
    rw [hrun]
    exact .deletes hafter
  · show s.Keeps k .find _ (runText l t.findStatement.text _ s)
    rw [h.find s k]
    exact .finds

/-- Methods that are called with a key keep the row under it: a value of the key's type is bound as
a key that rows can have, and what each method runs does to every store what its operation is
for. -/
theorem methods_keep_row {resolver : Resolver} {d : Declaration} (ht : extract resolver d = .ok t)
    (hp : PlainNames t) (hl : l.Fits t) {ms : List Method} (hms : methods t = .ok ms) {V : Type}
    (e : Environment V) {isValue : String → V → Prop} {v : PropertyValue V}
    (hv : HasValue isValue t.key (some v)) :
    ∃ k : KeyValue, k.1 = (bindingFor t.key).bound e (some v) ∧
      (∀ m ∈ ms, m.operation ∈ [Operation.insert, .upsert, .update] → ∀ values : String → Held V,
        (∀ property, identifierOf t.className t.key.propertyName = .ok property →
          values property = some v) →
        ∃ row : { r : Record l // r.key = k.1 },
          (∀ c ∈ t.columns, ∀ property, identifierOf t.className c.propertyName = .ok property →
            row.1.get c.name = (bindingFor c).bound e (values property)) ∧
          ∀ s : Store l, s.Keeps k m.operation (some row)
            (runExecuted l (m.command e (.row values)) s)) ∧
      ∀ m ∈ ms, m.operation ∈ [Operation.delete, .find] →
        ∀ s : Store l, s.Keeps k m.operation none (runExecuted l (m.command e (.key (some v))) s) := by
  have hkeeps := keepsRows_of_extract ht hp hl
  have hbinds := bindsRows_of_fits hl hp.nodup
  have hkey := key_mem_of_extract ht
  refine ⟨⟨_, isNull_bound hv⟩, rfl, ?_, ?_⟩
  · intro m hm ho values hvalues
    obtain ⟨r, hcommand, hr⟩ := hbinds.write e ms hms m hm ho values
    obtain ⟨p, -, property, hproperty, -⟩ :=
      exists_of_mem_left (((methods_serve hms).2 m hm).bound_write ho) hkey
    have hk : r.key = (bindingFor t.key).bound e (some v) := by
      rw [← hvalues property hproperty, ← hr t.key hkey property hproperty, ← hl.key,
        r.get_of_mem l.key_mem]
      rfl
    refine ⟨⟨r, hk⟩, hr, fun s => ?_⟩
    rw [hcommand]
    exact hkeeps.write ho s ⟨r, hk⟩
  · intro m hm ho s
    obtain ⟨htext, hparameters⟩ := hbinds.key e ms hms m hm ho (some v)
    rw [runExecuted, htext, hparameters]
    exact hkeeps.key ho s _

/-- The statements of an extracted table with plain names keep rows by key, and its methods
bind what they are run with. -/
theorem statements_keep_rows {resolver : Resolver} {d : Declaration}
    (ht : extract resolver d = .ok t) (hp : PlainNames t) (ifAbsent : Bool) :
    ∃ l, Layout.ofCreate? (t.createStatement ifAbsent) = some l ∧ l.Fits t ∧
      KeepsRows t l ∧ BindsRows t l := by
  obtain ⟨l, hcreate, hl⟩ := exists_layout ht ifAbsent
  exact ⟨l, hcreate, hl, keepsRows_of_extract ht hp hl, bindsRows_of_fits hl hp.nodup⟩

theorem memberTable_plainNames : PlainNames memberTable where
  table := by decide
  columns := by decide
  nodup := by decide

/-- The rows of members are kept by key, which is their second column. -/
theorem statements_keep_members :
    ∃ l, Layout.ofCreate? (memberTable.createStatement false) = some l ∧ l.Fits memberTable ∧
      KeepsRows memberTable l ∧ BindsRows memberTable l :=
  statements_keep_rows extract_member memberTable_plainNames false

end Tables

end Rowsmith.Sql
