import Rowsmith.Accessor.Method
import Rowsmith.Value.Narrowing

/-!
# Running accessors

What a method does on a connection: it runs one command with its parameters, and what it reads
becomes the values of properties. Values of user types are taken to columns and back by an
environment.
-/

namespace Rowsmith.Accessor
open Rowsmith.Schema Rowsmith.Source Rowsmith.Sql Rowsmith.Value

/-- What is known of the types that are no host types, whose values are in `V`. -/
structure Environment (V : Type) where
  /-- The discriminant of a value of an enumeration. -/
  discriminant : V → Int
  /-- The value of an enumeration, given by its type text, with a discriminant. -/
  ofDiscriminant : String → Int → Option V
  /-- Takes a value to its column by a bridge. -/
  toColumn : String → V → HostValue
  /-- Takes a value back from its column by a bridge. -/
  fromColumn : String → HostValue → V

/-- A value of a property: of a host type or of a user type. -/
inductive PropertyValue (V : Type)
  | native (value : HostValue)
  | user (value : V)

/-- The value of a property of optional type; none stands for its absence and for the default of a
property that is left out. -/
abbrev Held (V : Type) := Option (PropertyValue V)

variable {V : Type} (e : Environment V)

/-- A discriminant as a value of its column. -/
def discriminantToSql (type : String) (n : Int) : SqlValue :=
  if type = "i16" then .smallInt (Int16.ofInt n)
  else if type = "i64" then .bigInt (Int64.ofInt n)
  else .integer (Int32.ofInt n)

/-- The value of a column that a value of a property is bound as. -/
def Binding.bound (b : Binding) : Held V → SqlValue
  | none => .null
  | some (.native v) => v.toSql
  | some (.user v) =>
    match b.form with
    | .discriminant type => discriminantToSql type (e.discriminant v)
    | .bridge method => (e.toColumn method v).toSql
    | .plain => .null

/-- The parameter that a binding makes of a value. -/
def Binding.toParameter (b : Binding) (v : Held V) : Parameter :=
  { name := b.parameter, value := b.bound e v }

/-- The integer that a getter gave. -/
def integerOf : HostValue → Int
  | ⟨.i16, v⟩ => v.toInt
  | ⟨.i32, v⟩ => v.toInt
  | ⟨.i64, v⟩ => v.toInt
  | _ => 0

/-- What is narrowed. -/
def narrowedValue : (v : HostValue) → Bool → HostValue
  | ⟨.dateTime, v⟩, true => ⟨.utc, v⟩
  | v, _ => v

/-- A value narrowed to the type that a text names. Where a text names no host type, or one without
such a narrowing, the source would not have been accepted. -/
def narrowTo (name : String) (v : HostValue) : Read HostValue :=
  match HostType.ofTypeText? name with
  | some target =>
    match narrow target v.type with
    | some f => (fun w => ⟨target, w⟩) <$> f v.value
    | none => .error (.conversion ("no narrowing into `" ++ name ++ "`"))
  | none => .error (.conversion ("no narrowing into `" ++ name ++ "`"))

/-- The value of a property made of what the getter gave. -/
def ReadingForm.take (form : ReadingForm) (raw : HostValue) : Read (PropertyValue V) :=
  match form with
  | .discriminant _ _ name =>
    match e.ofDiscriminant name (integerOf raw) with
    | some v => .ok (.user v)
    | none => .error (.invalidEnum name (integerOf raw))
  | .bridge method => .ok (.user (e.fromColumn method raw))
  | .narrowing _ name isInstant => .native <$> narrowTo name (narrowedValue raw isInstant)

/-- The value of a property read from a row. -/
def Reading.take (r : Reading) (row : Row) : Read (Held V) := do
  if r.isNullable && (← row.isNull r.ordinal) then return none
  else
    let raw ← row.get r.getter r.ordinal
    return some (← r.form.take e ⟨getterType r.getter, raw⟩)

/-- The values of properties read from a row, in order; the first error counts. -/
def takeRow (readings : List Reading) (row : Row) : Read (List (String × Held V)) :=
  readings.mapM fun r => do return (r.property, ← r.take e row)

/-- How a command is run. -/
inductive Running
  | nonQuery | reader
  deriving DecidableEq, Repr

/-- A command that was run. -/
structure Executed where
  how : Running
  text : String
  parameters : List Parameter
  deriving DecidableEq

/-- A connection: the rows that a reader yields, and the failures of the driver. -/
structure Connection where
  rows : List Row := []
  executeFault : Option String := none
  readFault : Option String := none

/-- What a method is called with. -/
inductive Arguments (V : Type)
  | none
  | row (property : String → Held V)
  | key (value : Held V)

/-- The value of a property that a method was called with. -/
def Arguments.property : Arguments V → String → Held V
  | .row f, name => f name
  | _, _ => Option.none

/-- The key that a method was called with. -/
def Arguments.keyValue : Arguments V → Held V
  | .key v => v
  | _ => Option.none

/-- What a method gives back. -/
inductive Answer (V : Type)
  | done
  | found (row : Option (List (String × Held V)))

/-- The parameters that a method binds. -/
def MethodBody.parameters (body : MethodBody) (arguments : Arguments V) : List Parameter :=
  match body with
  | .create => []
  | .write bindings =>
    bindings.map fun (property, b) => b.toParameter e (arguments.property property)
  | .delete _ b | .find _ b _ _ => [b.toParameter e arguments.keyValue]

/-- How a method runs its command. -/
def MethodBody.running : MethodBody → Running
  | .find _ _ _ _ => .reader
  | _ => .nonQuery

/-- What a method gives back after its command was run. -/
def MethodBody.answer (body : MethodBody) (connection : Connection) : Read (Answer V) :=
  match body with
  | .find _ _ readings skipped =>
    match connection.readFault, connection.rows with
    | some fault, _ => .error (.driver fault)
    | Option.none, [] => .ok (.found Option.none)
    | Option.none, row :: _ => do
      let columns ← takeRow e readings row
      return .found (some (columns ++ skipped.map fun name => (name, Option.none)))
  | _ => .ok .done

/-- The command that a method runs. -/
def Method.command (m : Method) (arguments : Arguments V) : Executed :=
  { how := m.body.running, text := m.sql, parameters := m.body.parameters e arguments }

/-- Runs a method: what it gives back, and the command that was run. -/
def Method.run (m : Method) (arguments : Arguments V) (connection : Connection) :
    Read (Answer V) × Executed :=
  let result := match connection.executeFault with
    | some fault => .error (.driver fault)
    | Option.none => m.body.answer e connection
  (result, m.command e arguments)

end Rowsmith.Accessor
