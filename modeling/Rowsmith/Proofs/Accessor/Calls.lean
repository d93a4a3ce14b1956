import Rowsmith.Proofs.Accessor.Execution
import Rowsmith.Proofs.Source.Dotless

/-!
# Calls of accessors

The calls that stand in the body of a method, in the order in which they are made. A
method opens a command, gives it one text, adds its parameters one by one and runs it
once. Calls inside of groups are left aside: there a user's types may stand.
-/

namespace Rowsmith.Accessor
open Schema Source Sql

/-- A call of a method on a variable. -/
structure Call where
  receiver : String
  method : String
  arguments : List Token

/-- The call that starts at the front of tokens, if there is one. -/
def callAt : List Token → Option Call
  | .word receiver :: .mark '.' _ :: .word method :: .group .parenthesis arguments :: _ =>
    some { receiver, method, arguments }
  | _ => none

/-- The calls among tokens, in order. -/
def callsIn : List Token → List Call
  | [] => []
  | t :: rest => (callAt (t :: rest)).toList ++ callsIn rest

/-- A call needs a dot behind its variable. -/
theorem callAt_eq_none {t : Token} {rest : List Token} (h : ∀ u ∈ rest.head?, u.isDot = false) :
    callAt (t :: rest) = none := by
  unfold callAt
  split
  · next heq =>
      obtain ⟨-, rfl⟩ := List.cons.inj heq
      exact nomatch h _ rfl
  · rfl

/-- Tokens without a dot make no calls. -/
theorem callsIn_append {tokens rest : List Token} (h : Dotless tokens)
    (hrest : ∀ u ∈ rest.head?, u.isDot = false) :
    callsIn (tokens ++ rest) = callsIn rest := by
  induction tokens with
  | nil => rfl
  | cons t tokens ih =>
      have hhead : ∀ u ∈ (tokens ++ rest).head?, u.isDot = false := by
        intro u hu
        cases tokens with
        | nil => exact hrest u hu
        | cons v tokens =>
            obtain rfl := Option.some.inj hu
            exact h v (List.mem_cons_of_mem t List.mem_cons_self)
      rw [List.cons_append, callsIn, callAt_eq_none hhead,
        ih fun u hu => h u (List.mem_cons_of_mem t hu)]
      rfl

/-- The calls that open a command and give it a text. -/
def openingCalls (text : String) : List Call :=
  [{ receiver := "self", method := "connection", arguments := [] },
    { receiver := "command", method := "set_command_text", arguments := textLiteral text }]

/-- The calls that bind a column from a place. -/
def bindingCalls (runtime : List Token) (p : Column × Expression) : List Call :=
  [{ receiver := "self", method := "create_parameter"
     arguments := code "& * command ," ++ textLiteral ("@" ++ p.1.name) ++ code "," ++ runtime
      ++ code ":: ToParameter :: to_parameter"
      ++ parens (code "&" ++ (boundFrom p.1 p.2).tokens runtime) },
    { receiver := "command", method := "add_parameter", arguments := word "parameter" }]

/-- The calls that run a command. -/
def runningCalls : Operation → List Call
  | .find =>
    [{ receiver := "command", method := "execute_reader", arguments := [] },
      { receiver := "reader", method := "read", arguments := [] }]
  | _ => [{ receiver := "command", method := "execute_non_query", arguments := [] }]

section Bodies

variable {runtime : List Token}

theorem dotless_imports (hr : Dotless runtime) :
    Dotless ((imports runtime).flatMap fun path =>
      code "#" ++ brackets (code "allow" ++ parens (code "unused_imports")) ++ code "use" ++ path
        ++ code "as _ ;") := by
  refine dotless_flatMap fun path hpath => ?_
  obtain ⟨name, -, rfl⟩ := List.mem_map.mp hpath
  have hstart : Dotless
      (code "#" ++ brackets (code "allow" ++ parens (code "unused_imports")) ++ code "use") :=
    dotless_of_all rfl
  have hname : Dotless (runtime ++ code "::" ++ word name) :=
    (hr.append (dotless_of_all rfl)).append (dotless_singleton rfl)
  exact (hstart.append hname).append (dotless_of_all rfl)

theorem callsIn_prologue (hr : Dotless runtime) (tableName methodName text : String)
    (rest : List Token) :
    callsIn (prologue runtime tableName methodName text ++ rest) =
      openingCalls text ++ callsIn rest := by
  have himports := dotless_imports hr
  unfold prologue
  generalize (imports runtime).flatMap _ = start at himports ⊢
  simp only [List.append_assoc]
  rw [← List.append_assoc start, callsIn_append (himports.append hr) ?_]
  · rfl
  · intro u hu
    obtain rfl := Option.some.inj hu
    rfl

theorem callsIn_binding (bound : List (Column × Expression)) (rest : List Token) :
    callsIn ((binding bound).flatMap (·.tokens runtime) ++ rest) =
      bound.flatMap (bindingCalls runtime) ++ callsIn rest := by
  induction bound with
  | nil => rfl
  | cons p bound ih =>
      have hfirst : ∀ tokens, callsIn
          ((Instruction.makeParameter (parameterName p.1.name) (boundFrom p.1 p.2)).tokens runtime
            ++ Instruction.addParameter.tokens runtime ++ tokens) =
          bindingCalls runtime p ++ callsIn tokens := fun _ => rfl
      rw [binding] at ih ⊢
      rw [List.flatMap_cons, List.flatMap_cons, List.flatMap_append, List.append_assoc,
        List.append_assoc, ← ih, ← hfirst]
      simp only [List.flatMap_cons, List.flatMap_nil, List.append_nil, List.append_assoc]

theorem callsIn_closing (t : Table) (operation : Operation) :
    callsIn ((closing t operation).flatMap (·.tokens runtime)) = runningCalls operation := by
  cases operation <;> rfl

/-- The calls of a method: it gives its command one text, binds its columns and runs the command
once. -/
theorem callsIn_program (hr : Dotless runtime) (t : Table) (operation : Operation)
    (text : String) :
    callsIn ((program t runtime operation text).flatMap (·.tokens runtime)) =
      openingCalls text ++ (boundBy t operation).flatMap (bindingCalls runtime) ++
        runningCalls operation := by
  rw [program, List.flatMap_append, List.flatMap_append, tokens_opening, callsIn_prologue hr,
    callsIn_binding, callsIn_closing, List.append_assoc]

end Bodies

end Rowsmith.Accessor
