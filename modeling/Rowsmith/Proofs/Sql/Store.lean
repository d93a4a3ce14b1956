import Mathlib.Data.Finmap
import Rowsmith.Proofs.Sql.Command
import Rowsmith.Value.Reading

/-!
# Stores of rows

The meaning of commands on a table whose rows are kept by their key. A row has a value
for each column, and a store holds every row under the value of its key. A command is
refused where it names what the table does not have, or where two rows would share a
key.
-/

namespace Rowsmith.Sql
open Value

/-- A table as commands see it: its columns in order, one of them the key. -/
structure Layout where
  table : String
  columns : List String
  key : String
  key_mem : key ∈ columns

/-- The layout of a table with some columns and a key among them. -/
def Layout.ofColumns (table : String) (columns : List ColumnDefinition) (key : ColumnDefinition)
    (h : columns.filter (·.isPrimaryKey) = [key]) : Layout where
  table := table
  columns := columns.map (·.name)
  key := key.name
  key_mem := List.mem_map_of_mem (List.mem_of_mem_filter (h ▸ List.mem_singleton_self key))

/-- The layout of the table that a statement creates, if one column is its key. -/
def Layout.ofCreate? : Statement → Option Layout
  | .create _ table columns _ =>
    match h : columns.filter (·.isPrimaryKey) with
    | [key] => some (Layout.ofColumns table columns key h)
    | _ => none
  | _ => none

/-- A value that a key may have; null is none. -/
abbrev KeyValue := { v : SqlValue // v.isNull = false }

/-- A row: a value for each column. -/
abbrev Record (l : Layout) := { column // column ∈ l.columns } → SqlValue

/-- The key of a row. -/
def Record.key {l : Layout} (r : Record l) : SqlValue := r ⟨l.key, l.key_mem⟩

/-- Rows by the value of their key. -/
abbrev Store (l : Layout) := Finmap fun k : KeyValue => { r : Record l // r.key = k.1 }

variable {l : Layout}

namespace Record

/-- The value of a column, if there is such a column. -/
def value? (r : Record l) (column : String) : Option SqlValue :=
  if h : column ∈ l.columns then some (r ⟨column, h⟩) else none

/-- The values in the order of the columns. -/
def values (r : Record l) : Row := l.columns.attach.map r

/-- The row with some columns assigned. -/
def assign (r : Record l) (assigned : List (String × SqlValue)) : Record l :=
  fun column => (assigned.lookup column.1).getD (r column)

end Record

namespace Store

/-- The row with a key; no row has null. -/
def find? (s : Store l) (key : SqlValue) : Option (Record l) :=
  if h : key.isNull = false then (s.lookup ⟨key, h⟩).map (·.1) else none

/-- The store without the row with a key. -/
def remove (s : Store l) (key : SqlValue) : Store l :=
  if h : key.isNull = false then s.erase ⟨key, h⟩ else s

/-- The store with a row in the place of the one with its key; null is no key. -/
def put (s : Store l) (r : Record l) : Option (Store l) :=
  if h : r.key.isNull = false then some (s.insert ⟨r.key, h⟩ ⟨r, rfl⟩) else none

/-- The store with a row changed; its key may change to one that no row has. -/
def change (s : Store l) (before after : Record l) : Option (Store l) :=
  if after.key = before.key then s.put after
  else if (s.find? after.key).isSome then none
  else (s.remove before.key).put after

end Store

/-- The value of a parameter. -/
def valueOf? (parameters : List Parameter) (name : String) : Option SqlValue :=
  (parameters.find? (·.name == name)).map (·.value)

/-- Whether columns are distinct ones of the table. -/
def Layout.Has (l : Layout) (columns : List String) : Prop :=
  columns.Nodup ∧ ∀ c ∈ columns, c ∈ l.columns

instance (columns : List String) : Decidable (l.Has columns) :=
  inferInstanceAs (Decidable (columns.Nodup ∧ ∀ c ∈ columns, c ∈ l.columns))

/-- Assignments with their values. -/
def valuesOf? (value? : String → Option SqlValue) (assigned : List (String × String)) :
    Option (List (String × SqlValue)) :=
  assigned.mapM fun (column, source) => (value? source).map (column, ·)

/-- The store with a row inserted, or with the row changed that has its key. -/
def Store.insert? (s : Store l) (r : Record l) : Option Overwriting → Option (Store l)
  | none => if (s.find? r.key).isSome then none else s.put r
  | some conflict => do
    guard (conflict.key = l.key ∧ l.Has (conflict.assigned.map Prod.fst))
    let assigned ← valuesOf? r.value? conflict.assigned
    match s.find? r.key with
    | none => s.put r
    | some before => s.change before (before.assign assigned)

/-- The value that a condition on the key compares it with. -/
def Layout.condition? (l : Layout) (parameters : List Parameter)
    (condition : String × String) : Option SqlValue :=
  if condition.1 = l.key then valueOf? parameters condition.2 else none

/-- Runs a command: the store after it, and the rows that it yields. None stands for a
command that is refused. -/
def Command.run (l : Layout) (parameters : List Parameter) (s : Store l) :
    Command → Option (Store l × List Row)
  | insert table columns names conflict => do
    guard (table = l.table ∧ l.Has columns ∧ columns.length = names.length)
    let given ← valuesOf? (valueOf? parameters) (columns.zip names)
    let r : Record l := fun column => (given.lookup column.1).getD .null
    return (← s.insert? r conflict, [])
  | update table assigned condition => do
    guard (table = l.table ∧ l.Has (assigned.map Prod.fst))
    let key ← l.condition? parameters condition
    let given ← valuesOf? (valueOf? parameters) assigned
    match s.find? key with
    | none => return (s, [])
    | some before => return (← s.change before (before.assign given), [])
  | delete table condition => do
    guard (table = l.table)
    return (s.remove (← l.condition? parameters condition), [])
  | select table condition => do
    guard (table = l.table)
    let key ← l.condition? parameters condition
    return (s, (s.find? key).toList.map Record.values)

/-- Runs the command that a text is. -/
def runText (l : Layout) (text : String) (parameters : List Parameter) (s : Store l) :
    Option (Store l × List Row) :=
  Command.ofText? text >>= Command.run l parameters s

section Lemmas

theorem Layout.ofCreate?_create {columns : List ColumnDefinition} {key : ColumnDefinition}
    (h : columns.filter (·.isPrimaryKey) = [key]) (ifAbsent : Bool) (table : String)
    (uniques : List (List String)) :
    Layout.ofCreate? (.create ifAbsent table columns uniques) =
      some (Layout.ofColumns table columns key h) := by
  simp only [Layout.ofCreate?]
  split
  · next only heq =>
      obtain rfl : only = key := List.singleton_inj.mp (heq.symm.trans h)
      rfl
  · next hnone => exact absurd h (hnone key)

theorem Record.value?_of_mem (r : Record l) {column : String} (h : column ∈ l.columns) :
    r.value? column = some (r ⟨column, h⟩) :=
  dif_pos h

namespace Store

variable {s : Store l} {r before : Record l} {k : KeyValue}

theorem find?_key (s : Store l) (k : KeyValue) : s.find? k.1 = (s.lookup k).map (·.1) :=
  dif_pos k.2

theorem remove_key (s : Store l) (k : KeyValue) : s.remove k.1 = s.erase k :=
  dif_pos k.2

theorem put_eq (hk : r.key = k.1) : s.put r = some (s.insert k ⟨r, hk⟩) := by
  obtain ⟨v, hv⟩ := k
  obtain rfl : r.key = v := hk
  exact dif_pos hv

theorem change_eq (hb : before.key = k.1) (hk : r.key = k.1) :
    s.change before r = some (s.insert k ⟨r, hk⟩) := by
  rw [change, if_pos (hk.trans hb.symm), put_eq hk]

end Store

/-- Assignments of columns have the values of what they are assigned. -/
theorem valuesOf?_map {value? : String → Option SqlValue} {source : String → String}
    {value : String → SqlValue} (columns : List String)
    (h : ∀ c ∈ columns, value? (source c) = some (value c)) :
    valuesOf? value? (columns.map fun c => (c, source c)) =
      some (columns.map fun c => (c, value c)) := by
  induction columns with
  | nil => rfl
  | cons c columns ih =>
      have hc : value? (source c) = some (value c) := h c List.mem_cons_self
      have hcs := ih fun d hd => h d (List.mem_cons_of_mem c hd)
      rw [valuesOf?] at hcs ⊢
      rw [List.map_cons, List.mapM_cons, hcs]
      simp [hc]

theorem lookup_map (value : String → SqlValue) (columns : List String) (c : String) :
    (columns.map fun d => (d, value d)).lookup c =
      if c ∈ columns then some (value c) else none := by
  induction columns with
  | nil => rfl
  | cons d columns ih =>
      rw [List.map_cons, List.lookup_cons, ih]
      by_cases h : c = d
      · subst h
        simp
      · have hb : (c == d) = false := by simpa using h
        simp [hb, h]

end Lemmas

section Run

/-- The value of a column, null where there is no such column. -/
def Record.get (r : Record l) (column : String) : SqlValue := (r.value? column).getD .null

theorem Record.get_of_mem (r : Record l) {column : String} (h : column ∈ l.columns) :
    r.get column = r ⟨column, h⟩ := by
  rw [get, r.value?_of_mem h, Option.getD_some]

/-- The parameters of a row. -/
def Layout.parameters (l : Layout) (r : Record l) : List Parameter :=
  l.columns.map fun c => { name := parameterName c, value := r.get c }

/-- The parameter of a key. -/
def Layout.keyParameter (l : Layout) (key : SqlValue) : Parameter :=
  { name := parameterName l.key, value := key }

theorem parameterName_injective : Function.Injective parameterName := by
  intro c d h
  have hl := congrArg String.toList h
  rw [parameterName, parameterName, String.toList_append, String.toList_append] at hl
  exact String.toList_injective (List.append_cancel_left hl)

/-- Every column has its parameter. -/
theorem valueOf?_map {columns : List String} (value : String → SqlValue) {c : String}
    (h : c ∈ columns) :
    valueOf? (columns.map fun c => { name := parameterName c, value := value c })
      (parameterName c) = some (value c) := by
  induction columns with
  | nil => exact absurd h List.not_mem_nil
  | cons d columns ih =>
      by_cases hd : d = c
      · subst hd
        simp [valueOf?]
      · have hn : (parameterName d == parameterName c) = false := by
          simpa using fun e => hd (parameterName_injective e)
        have hc : c ∈ columns := (List.mem_cons.mp h).resolve_left (Ne.symm hd)
        rw [List.map_cons, valueOf?, List.find?_cons_of_neg (by simp [hn])]
        exact ih hc

theorem valueOf?_parameters (r : Record l) {c : String} (h : c ∈ l.columns) :
    valueOf? (l.parameters r) (parameterName c) = some (r.get c) :=
  valueOf?_map r.get h

/-- The key parameter of a row. -/
theorem condition?_parameters (r : Record l) :
    l.condition? (l.parameters r) (l.key, parameterName l.key) = some r.key := by
  rw [Layout.condition?, if_pos rfl, valueOf?_parameters r l.key_mem, r.get_of_mem l.key_mem]
  rfl

theorem condition?_keyParameter (key : SqlValue) :
    l.condition? [l.keyParameter key] (l.key, parameterName l.key) = some key := by
  rw [Layout.condition?, if_pos rfl]
  exact valueOf?_map (fun _ => key) (List.mem_singleton_self l.key)

/-- A row with all but its key assigned from another row with the key is that row. -/
theorem assign_eq {before r : Record l} {columns : List String}
    (hkey : before.key = r.key) (hall : ∀ c ∈ l.columns, c = l.key ∨ c ∈ columns) :
    before.assign (columns.map fun c => (c, r.get c)) = r := by
  funext ⟨c, hc⟩
  rw [Record.assign, lookup_map]
  by_cases h : c ∈ columns
  · rw [if_pos h, Option.getD_some, r.get_of_mem hc]
  · obtain rfl : c = l.key := (hall c hc).resolve_right h
    rw [if_neg h, Option.getD_none]
    exact hkey

/-- A command that inserts all columns of a row inserts the row. -/
theorem run_insert (hl : l.columns.Nodup) (r : Record l) (s : Store l)
    (conflict : Option Overwriting) :
    Command.run l (l.parameters r) s
        (.insert l.table l.columns (l.columns.map parameterName) conflict) =
      (s.insert? r conflict).map (·, []) := by
  have hzip : l.columns.zip (l.columns.map parameterName) =
      l.columns.map fun c => (c, parameterName c) := by
    have h := List.zip_map' (f := id) (g := parameterName) (l := l.columns)
    rwa [List.map_id] at h
  have hgiven := valuesOf?_map l.columns fun c hc => valueOf?_parameters r hc
  have hr : (fun column : { column // column ∈ l.columns } =>
      ((l.columns.map fun c => (c, r.get c)).lookup column.1).getD .null) = r := by
    funext ⟨c, hc⟩
    rw [lookup_map, if_pos hc, Option.getD_some, r.get_of_mem hc]
  have hguard : l.table = l.table ∧ l.Has l.columns ∧
      l.columns.length = (l.columns.map parameterName).length :=
    ⟨rfl, ⟨hl, fun _ hc => hc⟩, by rw [List.length_map]⟩
  simp only [Command.run, guard, hguard, hzip, hgiven, hr, Option.bind_some,
    Option.bind_eq_bind]
  cases s.insert? r conflict <;> rfl

theorem Layout.Has.map_fst {columns : List String} (h : l.Has columns) (f : String → String) :
    l.Has ((columns.map fun c => (c, f c)).map Prod.fst) := by
  have hfst : (columns.map fun c => (c, f c)).map Prod.fst = columns := by
    rw [List.map_map]
    exact List.map_id columns
  rwa [hfst]

section Key

variable {r : Record l} {k : KeyValue} {s : Store l}

/-- An insertion stores a row whose key is absent. -/
theorem insert?_absent (hk : r.key = k.1) (h : s.lookup k = none) :
    s.insert? r none = some (s.insert k ⟨r, hk⟩) := by
  rw [Store.insert?, hk, s.find?_key, h]
  exact Store.put_eq hk

/-- An insertion is refused where its key is present. -/
theorem insert?_present (hk : r.key = k.1) (h : k ∈ s) : s.insert? r none = none := by
  obtain ⟨before, hb⟩ := Finmap.mem_iff.mp h
  rw [Store.insert?, hk, s.find?_key, hb]
  rfl

/-- An insertion that overwrites all but the key stores the row. -/
theorem insert?_overwriting {columns : List String} (hcolumns : l.Has columns)
    (hall : ∀ c ∈ l.columns, c = l.key ∨ c ∈ columns) (hk : r.key = k.1) :
    s.insert? r (some { key := l.key, assigned := columns.map fun c => (c, c) }) =
      some (s.insert k ⟨r, hk⟩) := by
  have hvalue : ∀ c ∈ columns, r.value? c = some (r.get c) := by
    intro c hc
    rw [r.value?_of_mem (hcolumns.2 c hc), r.get_of_mem (hcolumns.2 c hc)]
  have hvalues := valuesOf?_map columns hvalue
  have hguard : l.key = l.key ∧ l.Has ((columns.map fun c => (c, c)).map Prod.fst) :=
    ⟨rfl, hcolumns.map_fst id⟩
  simp only [Store.insert?, guard, hguard, hvalues, Option.bind_some, Option.bind_eq_bind, hk,
    s.find?_key]
  cases hb : s.lookup k with
  | none => exact Store.put_eq hk
  | some before =>
      obtain ⟨before, hbefore⟩ := before
      have hassign := assign_eq (hbefore.trans hk.symm) hall
      show s.change before (before.assign _) = _
      rw [hassign]
      exact Store.change_eq hbefore hk

/-- An update that assigns all but the key changes the row that is there. -/
theorem run_update {columns : List String} (hcolumns : l.Has columns)
    (hall : ∀ c ∈ l.columns, c = l.key ∨ c ∈ columns) (hk : r.key = k.1) :
    Command.run l (l.parameters r) s (.update l.table
        (columns.map fun c => (c, parameterName c)) (l.key, parameterName l.key)) =
      some (if k ∈ s then s.insert k ⟨r, hk⟩ else s, []) := by
  have hgiven := valuesOf?_map columns
    fun c hc => valueOf?_parameters r (hcolumns.2 c hc)
  have hguard : l.table = l.table ∧
      l.Has ((columns.map fun c => (c, parameterName c)).map Prod.fst) :=
    ⟨rfl, hcolumns.map_fst parameterName⟩
  simp only [Command.run, guard, hguard, condition?_parameters, hgiven, Option.bind_some,
    Option.bind_eq_bind, hk, s.find?_key]
  cases hb : s.lookup k with
  | none =>
      rw [if_neg (Finmap.lookup_eq_none.mp hb)]
      rfl
  | some before =>
      obtain ⟨before, hbefore⟩ := before
      have hassign := assign_eq (hbefore.trans hk.symm) hall
      have hchange := Store.change_eq (s := s) hbefore hk
      rw [if_pos (Finmap.mem_of_lookup_eq_some hb)]
      simp only [Option.map_some, hassign, hchange]
      rfl

theorem run_delete :
    Command.run l [l.keyParameter k.1] s (.delete l.table (l.key, parameterName l.key)) =
      some (s.erase k, []) := by
  simp only [Command.run, guard, condition?_keyParameter, if_true, Option.bind_some,
    Option.bind_eq_bind, s.remove_key]
  rfl

theorem run_select :
    Command.run l [l.keyParameter k.1] s (.select l.table (l.key, parameterName l.key)) =
      some (s, ((s.lookup k).map fun r => r.1.values).toList) := by
  simp only [Command.run, guard, condition?_keyParameter, if_true, Option.bind_some,
    Option.bind_eq_bind, s.find?_key]
  cases s.lookup k <;> rfl

end Key

end Run

end Rowsmith.Sql
