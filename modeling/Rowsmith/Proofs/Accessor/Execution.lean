import Rowsmith.Proofs.Accessor.Expression
import Rowsmith.Proofs.Accessor.RoundTrip

/-!
# Execution of accessors

The statements that the bodies of accessors are made of: how each is written, and what it does to a
command and its reader. The body of every method is written as a program of these statements, and
with the text of its statement in the place of the placeholder, the program runs as the method
does.
-/

namespace Rowsmith.Accessor
open Outcome Schema Source Sql Value

/-- The statements of accessors. -/
inductive Instruction
  /-- Brings the methods of a trait into scope. -/
  | use (path : List Token)
  | trace (table operation : String)
  | openCommand
  | setText (text : String)
  /-- Makes a parameter with a name and what an expression gives. -/
  | makeParameter (name : String) (bound : Expression)
  | addParameter
  | execute
  | openReader
  /-- Goes on to the first row, or ends without one. -/
  | endWithoutRow
  | finish
  /-- Ends with a value whose properties are given, and its other properties by default. -/
  | answer (className : String) (given : List (String × Expression)) (others : List String)

/-- How a statement is written. -/
def Instruction.tokens (runtime : List Token) : Instruction → List Token
  | use path =>
    code "#" ++ brackets (code "allow" ++ parens (code "unused_imports")) ++ code "use" ++ path
      ++ code "as _ ;"
  | trace table operation =>
    runtime ++ code ":: tracing :: debug !"
      ++ parens (code "table =" ++ textLiteral table ++ code ", operation ="
        ++ textLiteral operation ++ code "," ++ textLiteral "executing statement") ++ code ";"
  | openCommand =>
    code "let mut command = self . connection" ++ parens [] ++ code ". create_command" ++ parens []
      ++ code ";"
  | setText text => code "command . set_command_text" ++ parens (textLiteral text) ++ code ";"
  | makeParameter name bound =>
    code "let parameter = self . create_parameter"
      ++ parens (code "& * command ," ++ textLiteral name ++ code "," ++ runtime
        ++ code ":: ToParameter :: to_parameter" ++ parens (code "&" ++ bound.tokens runtime))
      ++ code ";"
  | addParameter => code "command . add_parameter" ++ parens (word "parameter") ++ code ";"
  | execute => code "command . execute_non_query" ++ parens [] ++ code ". await ? ;"
  | openReader =>
    code "let mut reader = command . execute_reader" ++ parens [] ++ code ". await ? ;"
  | endWithoutRow =>
    code "if ! reader . read" ++ parens [] ++ code ". await ?"
      ++ braces (code "return :: core :: result :: Result :: Ok"
        ++ parens (code ":: core :: option :: Option :: None") ++ code ";")
  | finish => code ":: core :: result :: Result :: Ok" ++ parens (parens [])
  | answer className given others =>
    code ":: core :: result :: Result :: Ok"
      ++ parens (code ":: core :: option :: Option :: Some"
        ++ parens (word className
          ++ braces ((given.flatMap fun p =>
              word p.1 ++ code ":" ++ p.2.tokens runtime ++ code ",")
            ++ if others = [] then [] else
              code ".. :: core :: default :: Default :: default" ++ parens [])))

/-- A command that is prepared. -/
structure Prepared where
  text : String := ""
  parameters : List Parameter := []

/-- What the variables of a method hold, and the commands that were run. -/
structure State where
  command : Option Prepared := none
  parameter : Option Parameter := none
  reader : Option (List Row) := none
  row : Option Row := none
  executed : List Executed := []

/-- What a statement leads to. It is stuck where the source would not have been accepted. -/
inductive Progress (V : Type)
  | stuck
  | goesOn (s : State)
  | ends (answer : Read (Answer V)) (executed : List Executed)

/-- Goes on in the state that was reached. -/
def Progress.bind {V : Type} : Progress V → (State → Progress V) → Progress V
  | stuck, _ => stuck
  | goesOn s, next => next s
  | ends answer executed, _ => ends answer executed

@[simp] theorem Progress.bind_goesOn {V : Type} (s : State) (next : State → Progress V) :
    (goesOn s).bind next = next s := rfl

@[simp] theorem Progress.bind_ends {V : Type} (answer : Read (Answer V))
    (executed : List Executed) (next : State → Progress V) :
    (ends answer executed).bind next = ends answer executed := rfl

variable {V : Type} (e : Environment V)

/-- Runs the command that is prepared. -/
def State.launch (how : Running) (connection : Connection) (s : State) : Progress V :=
  match s.command with
  | none => .stuck
  | some c =>
    let executed := s.executed ++ [{ how, text := c.text, parameters := c.parameters }]
    match connection.executeFault with
    | some fault => .ends (.error (.driver fault)) executed
    | none =>
      .goesOn { s with
        executed, reader := match how with | .nonQuery => s.reader | .reader => some connection.rows }

/-- The values of properties, in order; the first error counts. -/
def evalAll (scope : Scope V) : List (String × Expression) → Evaluation (List (String × Held V))
  | [] => .gives []
  | (name, x) :: rest =>
    (x.eval e scope).bind fun d => (evalAll scope rest).bind fun held =>
      .gives ((name, d.held) :: held)

/-- What a statement does. -/
def Instruction.step (connection : Connection) (scope : Scope V) (s : State) :
    Instruction → Progress V
  | use _ | trace _ _ => .goesOn s
  | openCommand => .goesOn { s with command := some {} }
  | setText text =>
    match s.command with
    | some c => .goesOn { s with command := some { c with text } }
    | none => .stuck
  | makeParameter name bound =>
    match s.command, (bound.eval e { scope with row := s.row }).bind Datum.toSql with
    | some _, .gives v => .goesOn { s with parameter := some { name, value := v } }
    | some _, .fails fault => .ends (.error fault) s.executed
    | _, _ => .stuck
  | addParameter =>
    match s.command, s.parameter with
    | some c, some p =>
      .goesOn { s with
        command := some { c with parameters := c.parameters ++ [p] }, parameter := none }
    | _, _ => .stuck
  | execute => s.launch .nonQuery connection
  | openReader => s.launch .reader connection
  | endWithoutRow =>
    match s.reader, connection.readFault with
    | none, _ => .stuck
    | some _, some fault => .ends (.error (.driver fault)) s.executed
    | some [], none => .ends (.ok (.found none)) s.executed
    | some (row :: rest), none => .goesOn { s with row := some row, reader := some rest }
  | finish => .ends (.ok .done) s.executed
  | answer _ given others =>
    match evalAll e { scope with row := s.row } given with
    | .stuck => .stuck
    | .fails fault => .ends (.error fault) s.executed
    | .gives held =>
      .ends (.ok (.found (some (held ++ others.map fun name => (name, none))))) s.executed

/-- What a program does from a state on. -/
def runFrom (connection : Connection) (scope : Scope V) (s : State) :
    List Instruction → Progress V
  | [] => .goesOn s
  | i :: rest => (i.step e connection scope s).bind fun s => runFrom connection scope s rest

/-- Programs are run one after the other. -/
theorem runFrom_append (connection : Connection) (scope : Scope V) (s : State)
    (first rest : List Instruction) :
    runFrom e connection scope s (first ++ rest) =
      (runFrom e connection scope s first).bind fun s => runFrom e connection scope s rest := by
  induction first generalizing s with
  | nil => rfl
  | cons i first ih =>
      rw [List.cons_append, runFrom, runFrom]
      cases i.step e connection scope s with
      | stuck => rfl
      | goesOn s => exact ih s
      | ends answer executed => rfl

/-- The identifier that a text is read as. -/
def identifier (text : String) : String :=
  (Phrase.ofText Phrase.identifier text).toOption.getD text

theorem identifier_eq {className text name : String} (h : identifierOf className text = .ok name) :
    identifier text = name := by
  unfold identifierOf at h
  split at h
  · next found hread =>
      obtain rfl := Except.ok.inj h
      rw [identifier, hread]
      rfl
  · cases h

section Programs

variable (t : Table) (runtime : List Token)

/-- The columns that the method of an operation binds, with the places of their values. -/
def boundBy : Operation → List (Column × Expression)
  | .createTable | .createTableIfNotExists => []
  | .insert | .upsert | .update =>
    t.columns.map fun c => (c, .property (identifier c.propertyName))
  | .delete | .find => [(t.key, .key)]

/-- Prepares a command with a text. -/
def opening (operation : Operation) (text : String) : List Instruction :=
  (["DbConnection", "DbCommand", "DbDataReader", "FromColumn", "ToParameter"].map fun name =>
      .use (runtime ++ code "::" ++ word name))
    ++ [.trace t.name operation.methodName, .openCommand, .setText text]

/-- Binds columns, each from its place. -/
def binding (bound : List (Column × Expression)) : List Instruction :=
  bound.flatMap fun p =>
    [.makeParameter (parameterName p.1.name) (boundFrom p.1 p.2), .addParameter]

/-- Runs the command. A finding method reads the columns in order, each at its own ordinal. -/
def closing : Operation → List Instruction
  | .find =>
    [.openReader, .endWithoutRow,
      .answer (identifier t.className)
        (t.columns.zipIdx.map fun p => (identifier p.1.propertyName, readAt p.1 p.2)) t.skipped]
  | _ => [.execute, .finish]

/-- The program of the method of an operation, with the text that its command is given. -/
def program (operation : Operation) (text : String) : List Instruction :=
  opening t runtime operation text ++ (binding (boundBy t operation) ++ closing t operation)

end Programs

section Written

variable {t : Table} {operation : Operation} {body : MethodBody} {m : Method} {c : Context}
  {runtime : List Token}

theorem boundBy_write (t : Table) (ho : operation ∈ [.insert, .upsert, .update]) :
    boundBy t operation =
      t.columns.map fun c => (c, .property (identifier c.propertyName)) := by
  fin_cases ho <;> rfl

/-- What is bound is a column with its property, or the key. -/
theorem mem_boundBy {p : Column × Expression} (h : p ∈ boundBy t operation) :
    (∃ c ∈ t.columns, p = (c, .property (identifier c.propertyName))) ∨ p = (t.key, .key) := by
  have hwrite : p ∈ t.columns.map (fun c => (c, Expression.property (identifier c.propertyName))) →
      ∃ c ∈ t.columns, p = (c, .property (identifier c.propertyName)) := by
    intro hp
    obtain ⟨c, hc, rfl⟩ := List.mem_map.mp hp
    exact ⟨c, hc, rfl⟩
  cases operation with
  | createTable => exact absurd h List.not_mem_nil
  | createTableIfNotExists => exact absurd h List.not_mem_nil
  | insert => exact .inl (hwrite h)
  | upsert => exact .inl (hwrite h)
  | update => exact .inl (hwrite h)
  | delete => exact .inr (List.mem_singleton.mp h)
  | find => exact .inr (List.mem_singleton.mp h)

/-- The bindings of a row follow from the columns. -/
theorem rowBindings_eq {bindings : List (String × Binding)} (h : rowBindings t = .ok bindings) :
    bindings = t.columns.map fun c => (identifier c.propertyName, bindingFor c) := by
  rw [← List.forall₂_eq_eq_eq, List.forall₂_map_right_iff]
  refine (rowBindings_forall₂ h).flip.imp fun p c hp => ?_
  rw [identifier_eq hp.1, ← hp.2]

/-- A method binds the columns of its operation, each from its place. -/
theorem BodyFor.bound_eq (h : BodyFor t operation body) (runtime : List Token) :
    body.bound = (boundBy t operation).map fun p => (p.2.tokens runtime, bindingFor p.1) := by
  cases h with
  | createTable => rfl
  | createTableIfNotExists => rfl
  | write ho hb =>
      rw [boundBy_write t ho, rowBindings_eq hb, MethodBody.bound, List.map_map, List.map_map]
      rfl
  | delete _ hb =>
      rw [(bindingOf_eq_ok_iff.mp hb).1]
      rfl
  | find _ hb _ =>
      rw [(bindingOf_eq_ok_iff.mp hb).1]
      rfl

theorem tokens_opening (t : Table) (runtime : List Token) (operation : Operation)
    (text : String) :
    (opening t runtime operation text).flatMap (·.tokens runtime) =
      prologue runtime t.name operation.methodName text := by
  have huses : (libraryTraits.map fun name =>
      Instruction.use (runtime ++ code "::" ++ word name)).flatMap (·.tokens runtime) =
      (imports runtime).flatMap fun path =>
        code "#" ++ brackets (code "allow" ++ parens (code "unused_imports")) ++ code "use" ++ path
          ++ code "as _ ;" := by
    rw [imports, List.flatMap_map, List.flatMap_map]
    rfl
  have hopen : code "; let mut command = self . connection" =
    code ";" ++ code "let mut command = self . connection" := rfl
  have hset : code "; command . set_command_text" =
    code ";" ++ code "command . set_command_text" := rfl
  rw [opening, List.flatMap_append]
  refine (congrArg (· ++ _) huses).trans ?_
  simp only [prologue, callEmpty, List.flatMap_cons, List.flatMap_nil, Instruction.tokens,
    List.append_assoc, hopen, hset, List.append_nil]

/-- A parameter is added behind the statement that makes it. -/
theorem code_addParameter :
    code "; command . add_parameter" = code ";" ++ code "command . add_parameter" := rfl

theorem tokens_binding (bound : List (Column × Expression)) (runtime : List Token) :
    (binding bound).flatMap (·.tokens runtime) =
      bound.flatMap fun p => (bindingFor p.1).tokens runtime (p.2.tokens runtime) := by
  rw [binding, List.flatMap_assoc]
  congr 1
  funext p
  simp only [List.flatMap_cons, List.flatMap_nil, Instruction.tokens, Binding.tokens,
    valueTokens_bindingFor, code_addParameter, List.append_assoc, List.append_nil]
  rfl

/-- The initializers of a row are written as its columns are read. -/
theorem tokens_initializers {readings : List Reading} (h : rowReadings t = .ok readings)
    (runtime : List Token) :
    (readings.flatMap fun r => r.tokens runtime ++ code ",") =
      (t.columns.zipIdx.map fun p => (identifier p.1.propertyName, readAt p.1 p.2)).flatMap
        fun p => word p.1 ++ code ":" ++ p.2.tokens runtime ++ code "," := by
  rw [List.flatMap_map, List.flatMap_def, List.flatMap_def]
  congr 1
  rw [← List.forall₂_eq_eq_eq, List.forall₂_map_left_iff, List.forall₂_map_right_iff]
  refine (readingsFrom_reads h).flip.imp fun r p hr => ?_
  rw [Reading.tokens, guardedTokens_reads hr, identifier_eq hr.property]

theorem tokens_closing (h : BodyFor t operation body) (hc : contextOf t runtime = .ok c) :
    (closing t operation).flatMap (·.tokens runtime) = body.ending c := by
  obtain ⟨className, hname, hc⟩ := bind_eq_ok_iff.mp hc
  obtain rfl := pure_eq_ok_iff.mp hc
  cases h with
  | createTable => rfl
  | createTableIfNotExists => rfl
  | write ho _ => fin_cases ho <;> rfl
  | delete _ _ => rfl
  | find _ _ hr =>
      have hrest : (if t.skipped = [] then [] else code ".. :: core :: default :: Default :: default"
          ++ parens []) = if !t.skipped.isEmpty then code ".." ++ Reading.defaultTokens else [] := by
        cases t.skipped <;> rfl
      rw [MethodBody.ending, readRowTokens, tokens_initializers hr, ← hrest,
        ← identifier_eq hname]
      rfl

/-- The body of a method is written as the program of its operation. -/
theorem Method.Serves.bodyOf_tokens_eq (hs : m.Serves t) (hc : contextOf t runtime = .ok c) :
    bodyOf (m.tokens c) =
      (program t runtime m.operation m.placeholder).flatMap (·.tokens runtime) := by
  have hcontext : c.table = t ∧ c.runtime = runtime := by
    obtain ⟨className, -, hc⟩ := bind_eq_ok_iff.mp hc
    obtain rfl := pure_eq_ok_iff.mp hc
    exact ⟨rfl, rfl⟩
  rw [bodyOf_tokens, program, List.flatMap_append, List.flatMap_append, tokens_opening,
    tokens_binding, tokens_closing hs.body hc, hs.body.bound_eq runtime, List.flatMap_map,
    hcontext.1, hcontext.2]

end Written

section Run

variable {V : Type} {e : Environment V} {isValue : String → V → Prop} {t : Table}
  {operation : Operation} {body : MethodBody} {m : Method} {arguments : Arguments V}
  {scope : Scope V} {connection : Connection}

/-- The value in a place that a method binds from. -/
def Arguments.valueAt (arguments : Arguments V) : Expression → Held V
  | .property name => arguments.property name
  | .key => arguments.keyValue
  | _ => Option.none

/-- The places that a method binds from hold the values that it is called with. -/
def Supplies (e : Environment V) (isValue : String → V → Prop) (t : Table)
    (operation : Operation) (arguments : Arguments V) (scope : Scope V) : Prop :=
  ∀ p ∈ boundBy t operation, HasValue isValue p.1 (arguments.valueAt p.2) ∧
    p.2.eval e scope = (arguments.valueAt p.2).inPlace p.1.isOptional

/-- The names in the body of a method, where it is called with arguments. -/
def scopeOf (t : Table) (arguments : Arguments V) : Scope V where
  property name :=
    match t.columns.find? fun c => identifier c.propertyName = name with
    | some c => (arguments.property name).inPlace c.isOptional
    | none => .stuck
  key := arguments.keyValue.inPlace t.key.isOptional

/-- Where properties have names of their own, all places hold the values that a method is called
with. -/
theorem supplies_scopeOf (hnames : (t.columns.map fun c => identifier c.propertyName).Nodup)
    (hvalues : ∀ p ∈ boundBy t operation, HasValue isValue p.1 (arguments.valueAt p.2)) :
    Supplies e isValue t operation arguments (scopeOf t arguments) := by
  intro p hp
  refine ⟨hvalues p hp, ?_⟩
  rcases mem_boundBy hp with ⟨c, hc, rfl⟩ | rfl
  · obtain ⟨found, hfound⟩ : ∃ found, t.columns.find?
        (fun other => identifier other.propertyName = identifier c.propertyName) = some found := by
      rw [← Option.isSome_iff_exists, List.find?_isSome]
      exact ⟨c, hc, decide_eq_true rfl⟩
    have hname := List.find?_some hfound
    obtain rfl : found = c := List.inj_on_of_nodup_map hnames
      (List.mem_of_find?_eq_some hfound) hc (of_decide_eq_true hname)
    simp only [Expression.eval, scopeOf, hfound, Arguments.valueAt]
  · rfl

theorem takeRow_cons (r : Reading) (readings : List Reading) (row : Row) :
    takeRow e (r :: readings) row = r.take e row >>= fun h =>
      takeRow e readings row >>= fun held => pure ((r.property, h) :: held) := by
  rw [takeRow, List.mapM_cons, bind_assoc]
  simp only [pure_bind]
  rfl

/-- The initializers of a row give what its readings take. -/
theorem evalAll_readAt {className : String} {columns : List (Column × Nat)}
    {readings : List Reading}
    (hr : List.Forall₂ (fun p r => r.Reads className p.2 p.1) columns readings)
    (hc : ∀ p ∈ columns, p.1.Coherent) {row : Row} (hrow : scope.row = some row) :
    evalAll e scope (columns.map fun p => (identifier p.1.propertyName, readAt p.1 p.2)) =
      .ofRead (takeRow e readings row) := by
  induction hr with
  | nil => rfl
  | @cons p r columns readings hr _ ih =>
      have hrest := ih fun q hq => hc q (List.mem_cons_of_mem p hq)
      rw [List.map_cons, evalAll, eval_readAt (hc p List.mem_cons_self) hr hrow, hrest,
        takeRow_cons, Evaluation.ofRead_bind, Evaluation.bind_assoc, identifier_eq hr.property]
      simp only [Evaluation.bind_gives, held_initializing, Evaluation.ofRead_bind,
        Evaluation.ofRead_pure]

theorem run_opening (runtime : List Token) (operation : Operation) (text : String) :
    runFrom e connection scope {} (opening t runtime operation text) =
      .goesOn { command := some { text } } := rfl

/-- Bindings add their parameters in order. -/
theorem run_binding {bound : List (Column × Expression)}
    (h : ∀ p ∈ bound, HasValue isValue p.1 (arguments.valueAt p.2) ∧
      p.2.eval e { scope with row := none } = (arguments.valueAt p.2).inPlace p.1.isOptional)
    (text : String) (before : List Parameter) :
    runFrom e connection scope { command := some { text, parameters := before } }
        (binding bound) =
      .goesOn { command := some { text, parameters := before ++ bound.map fun p =>
        (bindingFor p.1).toParameter e (arguments.valueAt p.2) } } := by
  induction bound generalizing before with
  | nil => rw [List.map_nil, List.append_nil]; rfl
  | cons p bound ih =>
      obtain ⟨hvalue, hplace⟩ := h p List.mem_cons_self
      have hbound := eval_boundFrom hvalue hplace
      have hrest := ih fun q hq => h q (List.mem_cons_of_mem p hq)
      rw [binding, List.flatMap_cons, runFrom_append]
      simp only [runFrom, Instruction.step, hbound, Progress.bind_goesOn]
      rw [← binding, hrest, List.append_assoc]
      rfl

/-- A method makes the parameters of the columns of its operation. -/
theorem BodyFor.parameters_eq (h : BodyFor t operation body) (e : Environment V)
    (arguments : Arguments V) :
    body.parameters e arguments = (boundBy t operation).map fun p =>
      (bindingFor p.1).toParameter e (arguments.valueAt p.2) := by
  cases h with
  | createTable => rfl
  | createTableIfNotExists => rfl
  | write ho hb =>
      rw [boundBy_write t ho, rowBindings_eq hb, MethodBody.parameters, List.map_map,
        List.map_map]
      rfl
  | delete _ hb =>
      rw [(bindingOf_eq_ok_iff.mp hb).1]
      rfl
  | find _ hb _ =>
      rw [(bindingOf_eq_ok_iff.mp hb).1]
      rfl

/-- What comes of a command that is run without reading rows. -/
theorem run_nonQuery (text : String) (parameters : List Parameter) :
    runFrom e connection scope { command := some { text, parameters } } [.execute, .finish] =
      .ends (match connection.executeFault with
        | some fault => .error (.driver fault)
        | none => .ok .done) [{ how := .nonQuery, text, parameters }] := by
  cases hfault : connection.executeFault <;>
    simp only [runFrom, Instruction.step, State.launch, hfault, List.nil_append,
      Progress.bind_goesOn, Progress.bind_ends]

/-- What a method ends with runs its command once and gives the method's answer. -/
theorem run_closing (h : BodyFor t operation body) (hc : ∀ c ∈ t.columns, c.Coherent)
    (text : String) (parameters : List Parameter) :
    runFrom e connection scope { command := some { text, parameters } } (closing t operation) =
      .ends (match connection.executeFault with
        | some fault => .error (.driver fault)
        | none => body.answer e connection) [{ how := body.running, text, parameters }] := by
  cases h with
  | createTable => exact run_nonQuery text parameters
  | createTableIfNotExists => exact run_nonQuery text parameters
  | write ho _ => fin_cases ho <;> exact run_nonQuery text parameters
  | delete _ _ => exact run_nonQuery text parameters
  | find _ _ hr =>
      simp only [closing, runFrom, Instruction.step, State.launch, List.nil_append,
        MethodBody.answer, MethodBody.running]
      cases connection.executeFault with
      | some fault => rfl
      | none =>
          simp only [Progress.bind_goesOn]
          cases connection.readFault with
          | some fault => cases connection.rows <;> rfl
          | none =>
              cases connection.rows with
              | nil => rfl
              | cons row rest =>
                  have hcoherent : ∀ p ∈ t.columns.zipIdx, p.1.Coherent :=
                    fun p hp => hc p.1 (List.fst_mem_of_mem_zipIdx hp)
                  have hrow : { scope with row := some row }.row = some row := rfl
                  have hgiven := evalAll_readAt (e := e) (readingsFrom_reads hr) hcoherent hrow
                  simp only [Progress.bind_goesOn, hgiven]
                  cases takeRow e _ row <;> rfl

/-- A method with the text of its statement in place does what its body says, statement by
statement: it runs one command, with the parameters of the method, and ends with its answer. -/
theorem Method.Serves.run_eq {resolver : Resolver} {d : Declaration}
    (ht : extract resolver d = .ok t) (hs : m.Serves t)
    (hsupplies : Supplies e isValue t m.operation arguments scope) (runtime : List Token)
    (connection : Connection) :
    runFrom e connection scope {} (program t runtime m.operation m.sql) =
      .ends (m.run e arguments connection).1 [(m.run e arguments connection).2] := by
  have hplaces : ∀ p ∈ boundBy t m.operation, HasValue isValue p.1 (arguments.valueAt p.2) ∧
      p.2.eval e { scope with row := none } =
        (arguments.valueAt p.2).inPlace p.1.isOptional := by
    intro p hp
    obtain ⟨hvalue, hplace⟩ := hsupplies p hp
    refine ⟨hvalue, ?_⟩
    -- The row has no part in places.
    rcases mem_boundBy hp with ⟨c, -, rfl⟩ | rfl <;> exact hplace
  have hcoherent : ∀ c ∈ t.columns, c.Coherent := fun c hc => coherent_of_extract ht hc
  rw [program, runFrom_append, run_opening, Progress.bind_goesOn, runFrom_append,
    run_binding hplaces, Progress.bind_goesOn, run_closing hs.body hcoherent,
    List.nil_append, ← hs.body.parameters_eq]
  rfl

/-- The methods of a unit are written as the programs of their operations, and with the text of its
statement in the place of its placeholder each of them runs as it is written. -/
theorem methods_run {resolver : Resolver} {d : Declaration} {visibility : String}
    {runtime : List Token} {u : GeneratedUnit} (ht : extract resolver d = .ok t)
    (hu : GeneratedUnit.ofTable t visibility runtime = .ok u)
    (hnames : (t.columns.map fun c => identifier c.propertyName).Nodup) (hm : m ∈ u.methods)
    (hvalues : ∀ p ∈ boundBy t m.operation, HasValue isValue p.1 (arguments.valueAt p.2))
    (connection : Connection) :
    bodyOf (m.tokens u.context) =
        (program t runtime m.operation m.placeholder).flatMap (·.tokens runtime) ∧
      runFrom e connection (scopeOf t arguments) {} (program t runtime m.operation m.sql) =
        .ends (m.run e arguments connection).1 [(m.run e arguments connection).2] := by
  obtain ⟨hmethods, hcontext, -⟩ := methods_of_ofTable hu
  have hs := (methods_serve hmethods).2 m hm
  exact ⟨hs.bodyOf_tokens_eq hcontext,
    hs.run_eq ht (supplies_scopeOf hnames hvalues) runtime connection⟩

set_option maxRecDepth 100000 in
/-- The methods that write members run as they are written. -/
theorem methods_run_member : ∃ u,
    GeneratedUnit.ofTable memberTable "pub" (code ":: table_context") = .ok u ∧
    ∀ m ∈ u.methods, m.operation ∈ [.insert, .upsert, .update] → ∀ connection : Connection,
      runFrom truthEnvironment connection (scopeOf memberTable (.row memberValues)) {}
          (program memberTable (code ":: table_context") m.operation m.sql) =
        .ends (m.run truthEnvironment (.row memberValues) connection).1
          [m.command truthEnvironment (.row memberValues)] := by
  obtain ⟨u, hu⟩ := exists_unit_member
  have hnames : (memberTable.columns.map fun c => identifier c.propertyName).Nodup := by decide
  refine ⟨u, hu, fun m hm ho connection => ?_⟩
  have hvalues : ∀ p ∈ boundBy memberTable m.operation,
      HasValue (fun _ _ => True) p.1 ((Arguments.row memberValues).valueAt p.2) := by
    intro p hp
    rw [boundBy_write memberTable ho] at hp
    obtain ⟨c, hc, rfl⟩ := List.mem_map.mp hp
    have hs := (methods_serve (methods_of_ofTable hu).1).2 m hm
    obtain ⟨q, -, property, hproperty, -⟩ := exists_of_mem_left (hs.bound_write ho) hc
    show HasValue _ c (memberValues (identifier c.propertyName))
    rw [identifier_eq hproperty]
    exact memberValues_hasValue c hc property hproperty
  exact (methods_run extract_member hu hnames hm hvalues connection).2

end Run

end Rowsmith.Accessor
