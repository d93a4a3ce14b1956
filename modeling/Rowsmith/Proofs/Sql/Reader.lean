import Rowsmith.Proofs.Sql.Lexeme

/-!
# Reading commands

The grammar of the statements that write, delete and find rows, as a reader of
lexemes. It goes by positions, so that any word may be a name.
-/

namespace Rowsmith.Sql
open Lexeme

/-- What to do when an inserted key is there already: overwrite columns by the inserted
values of columns, if there are any. -/
structure Overwriting where
  key : String
  assigned : List (String × String)
  deriving DecidableEq, Repr

/-- A command as it is read. Columns are assigned parameters, and a condition compares a
column with a parameter. -/
inductive Command
  | insert (table : String) (columns parameters : List String) (conflict : Option Overwriting)
  | update (table : String) (assigned : List (String × String)) (condition : String × String)
  | delete (table : String) (condition : String × String)
  | select (table : String) (condition : String × String)
  deriving DecidableEq, Repr

/-- A reader takes what it reads off the front of the lexemes. -/
abbrev Reader := StateT (List Lexeme) Option

namespace Reader

/-- Any lexeme. -/
def next : Reader Lexeme
  | [] => none
  | l :: ls => some (l, ls)

/-- A name, which is any word. -/
def name : Reader String := do
  match ← next with
  | .word text => return text
  | .symbol _ => failure

/-- The lexemes of a text. -/
def phrase (text : String) : Reader Unit :=
  (lexemes text).forM fun l => do guard ((← next) = l)

/-- Items parted by commas up to a lexeme, which is taken too. Their number is bounded. -/
def itemsTo {α : Type} (item : Reader α) (stop : Lexeme) : Nat → Reader (List α)
  | 0 => failure
  | n + 1 => do
    let x ← item
    let l ← next
    if l = .comma then return x :: (← itemsTo item stop n)
    else if l = stop then return [x]
    else failure

/-- Items parted by commas up to a lexeme. -/
def items {α : Type} (item : Reader α) (stop : Lexeme) : Reader (List α) := do
  itemsTo item stop (← get).length

/-- The name of a parameter. -/
def parameter : Reader String := do
  phrase "@"
  return parameterName (← name)

/-- A column and the parameter that it is compared with or assigned. -/
def assignment : Reader (String × String) := do
  let column ← name
  phrase "="
  return (column, ← parameter)

/-- A column and the column whose inserted value it is assigned. -/
def overwriting : Reader (String × String) := do
  let column ← name
  phrase "= excluded."
  return (column, ← name)

/-- What follows an insertion on a conflict. -/
def conflict : Reader Overwriting := do
  phrase "CONFLICT("
  let key ← name
  phrase ") DO"
  let action ← name
  if action = "NOTHING" then
    phrase ";"
    return { key, assigned := [] }
  else if action = "UPDATE" then
    phrase "SET"
    return { key, assigned := ← items overwriting (.symbol ';') }
  else failure

/-- The end of an insertion. -/
def insertionEnd : Reader (Option Overwriting) := do
  let l ← next
  if l = .symbol ';' then return none
  else if l = .word "ON" then return some (← conflict)
  else failure

/-- An insertion behind its first word. -/
def insertion : Reader Command := do
  phrase "INTO"
  let table ← name
  phrase "("
  let columns ← items name (.symbol ')')
  phrase "VALUES ("
  let parameters ← items parameter (.symbol ')')
  return .insert table columns parameters (← insertionEnd)

/-- The condition at the end of a command. -/
def condition : Reader (String × String) := do
  let compared ← assignment
  phrase ";"
  return compared

/-- An update behind its first word. -/
def update : Reader Command := do
  let table ← name
  phrase "SET"
  let assigned ← items assignment (.word "WHERE")
  return .update table assigned (← condition)

/-- A deletion or a selection behind its first words. -/
def conditional (make : String → String × String → Command) : Reader Command := do
  let table ← name
  phrase "WHERE"
  return make table (← condition)

/-- A command. -/
def command : Reader Command := do
  let verb ← name
  if verb = "INSERT" then insertion
  else if verb = "UPDATE" then update
  else if verb = "DELETE" then do
    phrase "FROM"
    conditional .delete
  else if verb = "SELECT" then do
    phrase "* FROM"
    conditional .select
  else failure

end Reader

/-- The command that a text is, if it is one as a whole. -/
def Command.ofText? (text : String) : Option Command :=
  match Reader.command (lexemes text) with
  | some (c, []) => some c
  | _ => none

section Reads

variable {α β : Type}

/-- Whether a reader takes exactly some lexemes off the front, and what it reads. -/
def Reads (r : Reader α) (x : α) (ls : List Lexeme) : Prop :=
  ∀ rest, r (ls ++ rest) = some (x, rest)

/-- Whether a reader takes exactly some lexemes off the front where one of certain lexemes is
next, and what it reads. -/
def ReadsBefore (next : Lexeme → Prop) (r : Reader α) (x : α) (ls : List Lexeme) : Prop :=
  ∀ l, next l → ∀ rest, r (ls ++ l :: rest) = some (x, l :: rest)

/-- A reader goes on behind what it has read. -/
theorem Reader.bind_eq {r : Reader α} {x : α} {ls ms : List Lexeme} (hr : r ls = some (x, ms))
    (f : α → Reader β) : (r >>= f) ls = f x ms := by
  show (r ls >>= fun p => f p.1 p.2) = f x ms
  rw [hr]
  rfl

namespace ReadsBefore

variable {next following : Lexeme → Prop} {r : Reader α} {x : α} {ls ms : List Lexeme}

/-- What comes next can be what the rest begins with or what is next behind it. -/
theorem bind {f : α → Reader β} {y : β} (hr : ReadsBefore next r x ls)
    (hf : ReadsBefore following (f x) y ms) (hhead : ∀ l ∈ ms.head?, next l)
    (hbehind : ∀ l, following l → next l) :
    ReadsBefore following (r >>= f) y (ls ++ ms) := by
  intro l hl rest
  have hstep : r (ls ++ (ms ++ l :: rest)) = some (x, ms ++ l :: rest) := by
    cases ms with
    | nil => exact hr l (hbehind l hl) rest
    | cons m ms => exact hr m (hhead m rfl) (ms ++ l :: rest)
  rw [List.append_assoc, Reader.bind_eq hstep]
  exact hf l hl rest

/-- What is next is the first lexeme of the rest. -/
theorem bindReads {f : α → Reader β} {y : β} {l : Lexeme} (hr : ReadsBefore next r x ls)
    (hl : next l) (hf : Reads (f x) y (l :: ms)) : Reads (r >>= f) y (ls ++ l :: ms) := by
  intro rest
  rw [List.append_assoc, List.cons_append, Reader.bind_eq (hr l hl (ms ++ rest))]
  exact hf rest

end ReadsBefore

namespace Reads

theorem pure (x : α) : Reads (Pure.pure x) x [] :=
  fun _ => rfl

theorem bind {r : Reader α} {f : α → Reader β} {x : α} {y : β} {ls ms : List Lexeme}
    (hr : Reads r x ls) (hf : Reads (f x) y ms) : Reads (r >>= f) y (ls ++ ms) := by
  intro rest
  rw [List.append_assoc, Reader.bind_eq (hr (ms ++ rest))]
  exact hf rest

theorem before {r : Reader α} {x : α} {ls : List Lexeme} (hr : Reads r x ls)
    {next : Lexeme → Prop} : ReadsBefore next r x ls :=
  fun l _ rest => hr (l :: rest)

theorem bindBefore {r : Reader α} {f : α → Reader β} {x : α} {y : β} {ls ms : List Lexeme}
    {next : Lexeme → Prop} (hr : Reads r x ls) (hf : ReadsBefore next (f x) y ms) :
    ReadsBefore next (r >>= f) y (ls ++ ms) := by
  intro l hl rest
  rw [List.append_assoc, Reader.bind_eq (hr (ms ++ l :: rest))]
  exact hf l hl rest

theorem next (l : Lexeme) : Reads Reader.next l [l] :=
  fun _ => rfl

theorem name (text : String) : Reads Reader.name text [word text] :=
  fun _ => rfl

theorem guarded {p : Prop} [Decidable p] (h : p) : Reads (guard p) () [] := by
  rw [guard, if_pos h]
  exact pure ()

theorem phrase (text : String) : Reads (Reader.phrase text) () (lexemes text) := by
  unfold Reader.phrase
  induction lexemes text with
  | nil => exact pure ()
  | cons l ls ih =>
      rw [List.forM_eq_forM, List.forM_cons]
      have hl : Reads (do guard ((← Reader.next) = l)) () ([l] ++ []) :=
        bind (next l) (guarded rfl)
      exact bind hl ih

section Items

variable {γ : Type} {item : Reader α} {stop : Lexeme} {value : γ → α} {write : γ → List Lexeme}

/-- Items are read one by one, given how each of them is written. -/
theorem itemsTo (hstop : stop ≠ comma) {cs : List γ} (hne : cs ≠ [])
    (hc : ∀ c ∈ cs, ReadsBefore (fun l => l = comma ∨ l = stop) item (value c) (write c))
    {n : Nat} (hn : cs.length ≤ n) :
    Reads (Reader.itemsTo item stop n) (cs.map value)
      ([comma].intercalate (cs.map write) ++ [stop]) := by
  induction cs generalizing n with
  | nil => exact absurd rfl hne
  | cons c cs ih =>
      rw [List.length_cons] at hn
      obtain ⟨m, rfl⟩ : ∃ m, n = m + 1 := Nat.exists_eq_add_one.mpr (by omega)
      have hfirst := hc c List.mem_cons_self
      cases cs with
      | nil =>
          rw [List.map_singleton, List.map_singleton, List.intercalate_singleton,
            ← List.append_nil [stop]]
          refine hfirst.bindReads (Or.inr rfl) (bind (next stop) ?_)
          rw [if_neg hstop, if_pos rfl]
          exact pure [value c]
      | cons d ds =>
          have hrest := ih (by simp) (fun e he => hc e (List.mem_cons_of_mem c he))
            (n := m) (by omega)
          rw [List.map_cons (f := write), List.map_cons (f := write),
            List.intercalate_cons_cons, ← List.map_cons, List.append_assoc, List.append_assoc]
          refine hfirst.bindReads (Or.inl rfl) (bind (next comma) ?_)
          rw [if_pos rfl, ← List.append_nil (_ ++ [stop])]
          exact bind hrest (pure _)

/-- There are at least as many lexemes as items. -/
theorem length_le (write : γ → List Lexeme) (cs : List γ) (stop : Lexeme) :
    cs.length ≤ ([comma].intercalate (cs.map write) ++ [stop]).length := by
  induction cs with
  | nil => simp
  | cons c cs ih =>
      cases cs with
      | nil => simp
      | cons d ds =>
          rw [List.map_cons, List.map_cons, List.intercalate_cons_cons, ← List.map_cons]
          simp only [List.length_append, List.length_cons, List.length_nil] at ih ⊢
          omega

theorem itemsBefore (hstop : stop ≠ comma) {cs : List γ} (hne : cs ≠ [])
    (hc : ∀ c ∈ cs, ReadsBefore (fun l => l = comma ∨ l = stop) item (value c) (write c)) :
    Reads (Reader.items item stop) (cs.map value)
      ([comma].intercalate (cs.map write) ++ [stop]) := by
  intro rest
  have hn := length_le write cs stop
  exact itemsTo hstop hne hc (by rw [List.length_append]; omega) rest

theorem items (hstop : stop ≠ comma) {cs : List γ} (hne : cs ≠ [])
    (hc : ∀ c, Reads item (value c) (write c)) :
    Reads (Reader.items item stop) (cs.map value)
      ([comma].intercalate (cs.map write) ++ [stop]) :=
  itemsBefore hstop hne fun c _ => (hc c).before

end Items

theorem parameter (column : String) :
    Reads Reader.parameter (parameterName column) [symbol '@', word column] := by
  have hat : lexemes "@" = [symbol '@'] := rfl
  have h : Reads Reader.parameter (parameterName column)
      (lexemes "@" ++ ([word column] ++ [])) :=
    bind (phrase "@") (bind (name column) (pure _))
  rwa [hat] at h

theorem assignment (column : String) :
    Reads Reader.assignment (column, parameterName column)
      [word column, symbol '=', symbol '@', word column] := by
  have heq : lexemes "=" = [symbol '='] := rfl
  have h : Reads Reader.assignment (column, parameterName column)
      ([word column] ++ (lexemes "=" ++ ([symbol '@', word column] ++ []))) :=
    bind (name column) (bind (phrase "=") (bind (parameter column) (pure _)))
  rwa [heq] at h

theorem overwriting (column : String) :
    Reads Reader.overwriting (column, column)
      [word column, symbol '=', word "excluded", symbol '.', word column] := by
  have heq : lexemes "= excluded." = [symbol '=', word "excluded", symbol '.'] := rfl
  have h : Reads Reader.overwriting (column, column)
      ([word column] ++ (lexemes "= excluded." ++ ([word column] ++ []))) :=
    bind (name column) (bind (phrase "= excluded.") (bind (name column) (pure _)))
  rwa [heq] at h

theorem condition (column : String) :
    Reads Reader.condition (column, parameterName column)
      [word column, symbol '=', symbol '@', word column, symbol ';'] := by
  have hend : lexemes ";" = [symbol ';'] := rfl
  have h : Reads Reader.condition (column, parameterName column)
      ([word column, symbol '=', symbol '@', word column] ++ (lexemes ";" ++ [])) :=
    bind (assignment column) (bind (phrase ";") (pure _))
  rwa [hend] at h

end Reads

end Reads

end Rowsmith.Sql
