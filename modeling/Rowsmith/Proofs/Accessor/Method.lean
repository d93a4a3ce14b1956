import Mathlib.Tactic.FinCases
import Rowsmith.Accessor.Rendering
import Rowsmith.Proofs.Accessor.Column
import Rowsmith.Proofs.Schema.Extraction
import Rowsmith.Unit.Basic

/-!
# Methods of a table

What each of the seven methods of a table consists of: its operation fixes its
statement, its placeholder and the form of its body.
-/

namespace Rowsmith.Accessor
open Outcome Schema Sql Source

/-- The bodies that methods of a table have, by operation. -/
inductive BodyFor (t : Table) : Operation → MethodBody → Prop
  | createTable : BodyFor t .createTable .create
  | createTableIfNotExists : BodyFor t .createTableIfNotExists .create
  | write {operation bindings} (ho : operation ∈ [Operation.insert, .upsert, .update])
      (hb : rowBindings t = .ok bindings) : BodyFor t operation (.write bindings)
  | delete {keyType binding} (hk : typeOf t.className t.key.propertyType = .ok keyType)
      (hb : keyBinding t = .ok binding) : BodyFor t .delete (.delete keyType binding)
  | find {keyType binding readings}
      (hk : typeOf t.className t.key.propertyType = .ok keyType)
      (hb : keyBinding t = .ok binding) (hr : rowReadings t = .ok readings) :
      BodyFor t .find (.find keyType binding readings t.skipped)

namespace BodyFor

variable {t : Table} {body : MethodBody}

theorem of_create {operation : Operation} (h : BodyFor t operation body)
    (ho : operation ∈ [Operation.createTable, .createTableIfNotExists]) : body = .create := by
  cases h with
  | createTable => rfl
  | createTableIfNotExists => rfl
  | write hw _ => fin_cases hw <;> simp at ho
  | delete _ _ => simp at ho
  | find _ _ _ => simp at ho

theorem of_write {operation : Operation} (h : BodyFor t operation body)
    (ho : operation ∈ [Operation.insert, .upsert, .update]) :
    ∃ bindings, body = .write bindings ∧ rowBindings t = .ok bindings := by
  cases h with
  | createTable => simp at ho
  | createTableIfNotExists => simp at ho
  | write _ hb => exact ⟨_, rfl, hb⟩
  | delete _ _ => simp at ho
  | find _ _ _ => simp at ho

theorem of_delete (h : BodyFor t .delete body) :
    ∃ keyType binding, body = .delete keyType binding ∧
      typeOf t.className t.key.propertyType = .ok keyType ∧ keyBinding t = .ok binding := by
  cases h with
  | write hw _ => simp at hw
  | delete hk hb => exact ⟨_, _, rfl, hk, hb⟩

theorem of_find (h : BodyFor t .find body) :
    ∃ keyType binding readings, body = .find keyType binding readings t.skipped ∧
      typeOf t.className t.key.propertyType = .ok keyType ∧
      keyBinding t = .ok binding ∧ rowReadings t = .ok readings := by
  cases h with
  | write hw _ => simp at hw
  | find hk hb hr => exact ⟨_, _, _, rfl, hk, hb, hr⟩

end BodyFor

/-- The body of a function, which ends its tokens. -/
def bodyOf (tokens : List Token) : List Token :=
  match tokens.getLast? with
  | some (.group .brace body) => body
  | _ => []

theorem bodyOf_accessorTokens (runtime : List Token) (documentationText name : String)
    (arguments value body : List Token) :
    bodyOf (accessorTokens runtime documentationText name arguments value body) = body := by
  simp only [bodyOf, accessorTokens, braces, List.getLast?_append, List.getLast?_singleton,
    Option.some_or]

/-- What a method binds: the place that each value is taken from, with its binding. -/
def MethodBody.bound : MethodBody → List (List Token × Binding)
  | .create => []
  | .write bindings => bindings.map fun (property, b) => (rowPlace property, b)
  | .delete _ b | .find _ b _ _ => [(keyPlace, b)]

/-- The names of the parameters that a method binds, whatever it is called with. -/
theorem MethodBody.parameters_names {V : Type} (e : Environment V) (body : MethodBody)
    (arguments : Arguments V) :
    (body.parameters e arguments).map (·.name) = body.bound.map (·.2.parameter) := by
  cases body with
  | create => rfl
  | write bindings =>
      rw [parameters, bound, List.map_map, List.map_map]
      rfl
  | delete keyType b => rfl
  | find keyType b readings skipped => rfl

/-- What a method ends with: it runs the command, and reads a row if it is to find one. -/
def MethodBody.ending (c : Context) : MethodBody → List Token
  | .find _ _ readings skipped => readRowTokens c readings (!skipped.isEmpty)
  | _ => executeTokens

/-- The body of a method: it opens a command, binds values and runs the command. -/
theorem bodyOf_tokens (m : Method) (c : Context) :
    bodyOf (m.tokens c) =
      prologue c.runtime c.table.name m.operation.methodName m.placeholder ++
        ((m.body.bound.flatMap fun p => p.2.tokens c.runtime p.1) ++ m.body.ending c) := by
  obtain ⟨operation, documentation, body, statement, placeholder⟩ := m
  cases body with
  | create => exact bodyOf_accessorTokens _ _ _ _ _ _
  | write bindings =>
      rw [MethodBody.bound, List.flatMap_map, ← List.append_assoc]
      exact bodyOf_accessorTokens _ _ _ _ _ _
  | delete keyType b =>
      rw [MethodBody.bound, List.flatMap_singleton, ← List.append_assoc]
      exact bodyOf_accessorTokens _ _ _ _ _ _
  | find keyType b readings skipped =>
      rw [MethodBody.bound, List.flatMap_singleton, ← List.append_assoc]
      exact bodyOf_accessorTokens _ _ _ _ _ _

/-- A method as a table has it for its operation. -/
structure Method.Serves (t : Table) (m : Method) : Prop where
  statement : m.statement = t.statement m.operation
  placeholder : m.placeholder = m.operation.placeholder t.className
  body : BodyFor t m.operation m.body

variable {t : Table} {m : Method}

namespace Method.Serves

variable (hs : m.Serves t)

include hs

theorem bound_create (ho : m.operation ∈ [.createTable, .createTableIfNotExists]) :
    m.body.bound = [] := by
  rw [hs.body.of_create ho]
  rfl

/-- A writing method takes each column from its property and binds it. -/
theorem bound_write (ho : m.operation ∈ [.insert, .upsert, .update]) :
    List.Forall₂ (fun column p => ∃ property,
      identifierOf t.className column.propertyName = .ok property ∧
        p = (rowPlace property, bindingFor column)) t.columns m.body.bound := by
  obtain ⟨bindings, hbody, hb⟩ := hs.body.of_write ho
  rw [hbody, MethodBody.bound, List.forall₂_map_right_iff]
  refine (rowBindings_forall₂ hb).imp fun column p hp => ⟨p.1, hp.1, ?_⟩
  rw [← hp.2]

theorem bound_key (ho : m.operation ∈ [.delete, .find]) :
    m.body.bound = [(keyPlace, bindingFor t.key)] := by
  have hbody := hs.body
  simp only [List.mem_cons, List.not_mem_nil, or_false] at ho
  rcases ho with ho | ho
  · obtain ⟨keyType, binding, hm, -, hb⟩ := (ho ▸ hbody).of_delete
    rw [hm, (bindingOf_eq_ok_iff.mp hb).1]
    rfl
  · obtain ⟨keyType, binding, readings, hm, -, hb, -⟩ := (ho ▸ hbody).of_find
    rw [hm, (bindingOf_eq_ok_iff.mp hb).1]
    rfl

end Method.Serves

theorem createMethod_serves (t : Table) (ifAbsent : Bool) :
    (createMethod t ifAbsent).Serves t := by
  cases ifAbsent with
  | false => exact ⟨rfl, rfl, .createTable⟩
  | true => exact ⟨rfl, rfl, .createTableIfNotExists⟩

theorem writeMethod_serves {operation : Operation}
    (ho : operation ∈ [Operation.insert, .upsert, .update])
    (h : writeMethod t operation = .ok m) : m.operation = operation ∧ m.Serves t := by
  obtain ⟨bindings, hb, hm⟩ := bind_eq_ok_iff.mp h
  obtain rfl := pure_eq_ok_iff.mp hm
  have hs : t.writeStatement operation = t.statement operation := by
    simp only [List.mem_cons, List.not_mem_nil, or_false] at ho
    rcases ho with rfl | rfl | rfl <;> rfl
  exact ⟨rfl, hs, rfl, .write ho hb⟩

theorem deleteMethod_serves (h : deleteMethod t = .ok m) :
    m.operation = .delete ∧ m.Serves t := by
  obtain ⟨keyType, hk, h⟩ := bind_eq_ok_iff.mp h
  obtain ⟨binding, hb, hm⟩ := bind_eq_ok_iff.mp h
  obtain rfl := pure_eq_ok_iff.mp hm
  exact ⟨rfl, rfl, rfl, .delete hk hb⟩

theorem findMethod_serves (h : findMethod t = .ok m) :
    m.operation = .find ∧ m.Serves t := by
  obtain ⟨keyType, hk, h⟩ := bind_eq_ok_iff.mp h
  obtain ⟨binding, hb, h⟩ := bind_eq_ok_iff.mp h
  obtain ⟨readings, hr, hm⟩ := bind_eq_ok_iff.mp h
  obtain rfl := pure_eq_ok_iff.mp hm
  exact ⟨rfl, rfl, rfl, .find hk hb hr⟩

/-- The methods of a table serve it, one for each operation in order. -/
theorem methods_serve {ms : List Method} (h : methods t = .ok ms) :
    ms.map (·.operation) = Operation.all ∧ ∀ m ∈ ms, m.Serves t := by
  obtain ⟨insert, hi, h⟩ := bind_eq_ok_iff.mp h
  obtain ⟨upsert, hp, h⟩ := bind_eq_ok_iff.mp h
  obtain ⟨update, hu, h⟩ := bind_eq_ok_iff.mp h
  obtain ⟨delete, hd, h⟩ := bind_eq_ok_iff.mp h
  obtain ⟨find, hf, hm⟩ := bind_eq_ok_iff.mp h
  obtain rfl := pure_eq_ok_iff.mp hm
  obtain ⟨oi, si⟩ := writeMethod_serves (by decide) hi
  obtain ⟨op, sp⟩ := writeMethod_serves (by decide) hp
  obtain ⟨ou, su⟩ := writeMethod_serves (by decide) hu
  obtain ⟨od, sd⟩ := deleteMethod_serves hd
  obtain ⟨of, sf⟩ := findMethod_serves hf
  constructor
  · simp only [List.map_cons, List.map_nil, oi, op, ou, od, of]
    rfl
  · simp only [List.forall_mem_cons, List.not_mem_nil, false_implies, implies_true, and_true]
    exact ⟨createMethod_serves t false, createMethod_serves t true, si, sp, su, sd, sf⟩

/-- Every operation has a method. -/
theorem exists_method {ms : List Method} (h : methods t = .ok ms) (operation : Operation) :
    ∃ m ∈ ms, m.operation = operation := by
  have ho := Operation.mem_all operation
  rw [← (methods_serve h).1] at ho
  exact List.mem_map.mp ho

/-- A unit holds the methods of its table. -/
theorem methods_of_ofTable {visibility : String} {runtime : List Token} {u : GeneratedUnit}
    (h : GeneratedUnit.ofTable t visibility runtime = .ok u) :
    methods t = .ok u.methods ∧ contextOf t runtime = .ok u.context ∧
      bridges t runtime = .ok u.bridges := by
  obtain ⟨context, hc, h⟩ := bind_eq_ok_iff.mp h
  obtain ⟨ms, hm, h⟩ := bind_eq_ok_iff.mp h
  obtain ⟨pairs, hp, h⟩ := bind_eq_ok_iff.mp h
  obtain ⟨tokens, -, hu⟩ := bind_eq_ok_iff.mp h
  obtain rfl := pure_eq_ok_iff.mp hu
  exact ⟨hm, hc, hp⟩

/-- The context of a unit is that of its table. -/
theorem context_of_ofTable {visibility : String} {runtime : List Token} {u : GeneratedUnit}
    (h : GeneratedUnit.ofTable t visibility runtime = .ok u) :
    u.context.table = t ∧ u.context.runtime = runtime := by
  obtain ⟨className, -, hc⟩ := bind_eq_ok_iff.mp (methods_of_ofTable h).2.1
  rw [← pure_eq_ok_iff.mp hc]
  exact ⟨rfl, rfl⟩

set_option maxRecDepth 100000 in
/-- The table of members, whose columns have all forms, has a unit. -/
theorem exists_unit_member :
    ∃ u, GeneratedUnit.ofTable memberTable "pub" (code ":: table_context") = .ok u :=
  exists_of_isOk (by decide +kernel)

end Rowsmith.Accessor
