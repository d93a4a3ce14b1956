import Rowsmith.Accessor.Rendering
import Rowsmith.Proofs.Accessor.Column
import Rowsmith.Proofs.Schema.Extraction

/-!
# Expressions of accessors

The expressions that accessors bind columns to and read columns with: how each is written, and what
it gives. The expression of a column is written as its binding or its reading is rendered, and gives
what its binding is bound as or what its reading takes.
-/

namespace Rowsmith.Accessor
open Outcome Schema Source Sql Value

/-- What becomes of an expression. It is stuck where the source would not have been accepted. -/
inductive Evaluation (α : Type)
  | stuck
  | fails (fault : DatabaseError)
  | gives (a : α)

namespace Evaluation

variable {α β : Type}

/-- Goes on with what was given. -/
def bind : Evaluation α → (α → Evaluation β) → Evaluation β
  | stuck, _ => stuck
  | fails fault, _ => fails fault
  | gives a, next => next a

/-- What becomes of something that is read. -/
def ofRead : Read α → Evaluation α
  | .ok a => gives a
  | .error fault => fails fault

@[simp] theorem bind_gives (a : α) (next : α → Evaluation β) : (gives a).bind next = next a := rfl

theorem bind_assoc {γ : Type} (x : Evaluation α) (f : α → Evaluation β) (g : β → Evaluation γ) :
    (x.bind f).bind g = x.bind fun a => (f a).bind g := by
  cases x <;> rfl

@[simp] theorem ofRead_ok (a : α) : ofRead (.ok a) = gives a := rfl

@[simp] theorem ofRead_pure (a : α) : ofRead (pure a) = gives a := rfl

theorem ofRead_bind (x : Read α) (f : α → Read β) :
    ofRead (x >>= f) = (ofRead x).bind fun a => ofRead (f a) := by
  cases x <;> rfl

theorem ofRead_map (f : α → β) (x : Read α) :
    ofRead (f <$> x) = (ofRead x).bind fun a => gives (f a) := by
  cases x <;> rfl

end Evaluation

/-- What an expression gives: a value, an optional value, or the default of a type that is left
open. -/
inductive Datum (V : Type)
  | value (v : PropertyValue V)
  | option (v : Option (PropertyValue V))
  | default

variable {V : Type} {e : Environment V} {isValue : String → V → Prop}

/-- The value of a property that a datum is. -/
def Datum.held : Datum V → Held V
  | .value v => some v
  | .option v => v
  | .default => none

/-- The value of a column that a datum is bound as. User types have none. -/
def Datum.toSql : Datum V → Evaluation SqlValue
  | .value (.native v) => .gives v.toSql
  | .option (some (.native v)) => .gives v.toSql
  | .option none => .gives .null
  | _ => .stuck

/-- What the place of a property gives, by whether its type is optional. -/
def Held.inPlace (isOptional : Bool) : Held V → Evaluation (Datum V)
  | some v => .gives (if isOptional then .option (some v) else .value v)
  | none => if isOptional then .gives (.option none) else .stuck

/-- What the initializer of a property gives, by whether its type is optional. -/
def Held.initializing (isOptional : Bool) : Held V → Datum V
  | some v => if isOptional then .option (some v) else .value v
  | none => .default

@[simp] theorem held_initializing (isOptional : Bool) (h : Held V) :
    (h.initializing isOptional).held = h := by
  cases h with
  | none => rfl
  | some v => cases isOptional <;> rfl

/-- An integer cast to the type of a name. -/
def castInteger (type : String) (n : Int) : Evaluation HostValue :=
  match type with
  | "i16" => .gives ⟨.i16, Int16.ofInt n⟩
  | "i32" => .gives ⟨.i32, Int32.ofInt n⟩
  | "i64" => .gives ⟨.i64, Int64.ofInt n⟩
  | _ => .stuck

namespace Datum

/-- What is in an optional value, taken on. -/
def mapped (body : Datum V → Evaluation (Datum V)) : Datum V → Evaluation (Datum V)
  | option none => .gives (.option none)
  | option (some v) => (body (.value v)).bind fun
    | value w => .gives (.option (some w))
    | _ => .stuck
  | _ => .stuck

/-- The discriminant of a value, cast to an integer. -/
def discriminant (e : Environment V) (integer : String) : Datum V → Evaluation (Datum V)
  | value (.user v) =>
    (castInteger integer (e.discriminant v)).bind fun n => .gives (.value (.native n))
  | _ => .stuck

/-- What a bridge makes of a value: it takes one of a user type to its column, and one of the
column back. -/
def crossed (e : Environment V) (method : String) : Datum V → Evaluation (Datum V)
  | value (.user v) => .gives (.value (.native (e.toColumn method v)))
  | value (.native v) => .gives (.value (.user (e.fromColumn method v)))
  | _ => .stuck

/-- The instant of a local time. -/
def instant : Datum V → Evaluation (Datum V)
  | value (.native ⟨.dateTime, t⟩) => .gives (.value (.native ⟨.utc, t⟩))
  | _ => .stuck

/-- A value narrowed to the type that a text names. -/
def narrowed (type : String) : Datum V → Evaluation (Datum V)
  | value (.native v) =>
    (Evaluation.ofRead (narrowTo type v)).bind fun w => .gives (.value (.native w))
  | _ => .stuck

/-- The value of an enumeration with a discriminant. -/
def enumerated (e : Environment V) (integer type : String) : Datum V → Evaluation (Datum V)
  | value (.native n) =>
    if HostType.ofName? integer = some n.type then
      match e.ofDiscriminant type (integerOf n) with
      | some v => .gives (.value (.user v))
      | none => .fails (.invalidEnum type (integerOf n))
    else .stuck
  | _ => .stuck

/-- A value as an optional one. -/
def wrapped : Datum V → Evaluation (Datum V)
  | value v => .gives (.option (some v))
  | _ => .stuck

end Datum

/-- The methods of a row, with what each of them reads. -/
def rowMethods : List (String × Getter) := [
  ("get_i16", .i16), ("get_i32", .i32), ("get_i64", .i64), ("get_f32", .f32), ("get_f64", .f64),
  ("get_decimal", .decimal), ("get_char", .char), ("get_string", .string),
  ("get_datetime", .datetime), ("get_bool", .bool), ("get_bytes", .bytes)]

/-- The method that reads a column of a type. -/
def rowMethod : ColumnType → String
  | .smallInt => "get_i16"
  | .integer => "get_i32"
  | .bigInt => "get_i64"
  | .real => "get_f32"
  | .doublePrecision => "get_f64"
  | .decimal => "get_decimal"
  | .char => "get_char"
  | .varchar | .text => "get_string"
  | .date | .time | .timestamp => "get_datetime"
  | .boolean => "get_bool"
  | .blob => "get_bytes"

theorem name_getter (type : ColumnType) : type.getter.name = rowMethod type := by
  cases type <;> rfl

theorem lookup_rowMethod (type : ColumnType) :
    rowMethods.lookup (rowMethod type) = some type.getter := by
  cases type <;> rfl

/-- The tokens of the type that a text is. -/
def typeTokens (text : String) : List Token :=
  (Phrase.ofText Phrase.wholeType text).toOption.getD []

theorem typeTokens_eq {className text : String} {type : List Token}
    (h : typeOf className text = .ok type) : typeTokens text = type := by
  unfold typeOf at h
  split at h
  · next found hread =>
      obtain rfl := Except.ok.inj h
      rw [typeTokens, hread]
      rfl
  · cases h

/-- The expressions of accessors. -/
inductive Expression
  /-- A property of the row that a method takes. -/
  | property (name : String)
  /-- The key that a method takes. -/
  | key
  /-- The argument of a closure. -/
  | value
  | reference (operand : Expression)
  | parenthesized (operand : Expression)
  /-- An expression applied to what is in an optional one. -/
  | mapped (operand body : Expression)
  /-- A copy of an enumeration's value, cast to an integer. -/
  | discriminant (integer : String) (operand : Expression)
  /-- A call of a bridge. -/
  | bridge (method : String) (operand : Expression)
  /-- A call of a method of the row. -/
  | get (method : String) (ordinal : Nat)
  /-- A local time taken for an instant. -/
  | instant (operand : Expression)
  /-- A value narrowed to a type. -/
  | narrowed (type : String) (operand : Expression)
  /-- The value of an enumeration with a discriminant. -/
  | enumerated (integer type : String) (operand : Expression)
  | default
  | wrapped (operand : Expression)
  /-- The default where a column is null, or else an expression. -/
  | guarded (ordinal : Nat) (otherwise : Expression)

namespace Expression

/-- How an expression is written. -/
def tokens (runtime : List Token) : Expression → List Token
  | property name => code "dbo ." ++ word name
  | key => word "primary_key"
  | value => word "value"
  | reference x => code "&" ++ x.tokens runtime
  | parenthesized x => parens (x.tokens runtime)
  | mapped x body =>
    x.tokens runtime ++ code ". as_ref" ++ parens [] ++ code ". map"
      ++ parens (code "| value |" ++ body.tokens runtime)
  | discriminant integer x =>
    code ":: core :: clone :: Clone :: clone" ++ parens (x.tokens runtime) ++ code "as"
      ++ word integer
  | bridge method x => code "self ." ++ word method ++ parens (x.tokens runtime)
  | get method ordinal =>
    code "reader ." ++ word method ++ parens (ordinalLiteral ordinal) ++ code "?"
  | instant x => x.tokens runtime ++ code ". and_utc" ++ parens []
  | narrowed type x =>
    code "<" ++ typeTokens type ++ code "as" ++ runtime
      ++ code ":: FromColumn < _ >> :: from_column" ++ parens (x.tokens runtime) ++ code "?"
  | enumerated integer type x =>
    braces (code "let value :" ++ word integer ++ code "=" ++ x.tokens runtime ++ code "; <"
      ++ typeTokens type ++ code "as :: core :: convert :: TryFrom <" ++ word integer
      ++ code ">> :: try_from" ++ parens (word "value") ++ code ". map_err"
      ++ parens (code "| _ |" ++ runtime ++ code ":: DbError :: invalid_enum"
        ++ parens (textLiteral type ++ code ", value"))
      ++ code "?")
  | default => code ":: core :: default :: Default :: default" ++ parens []
  | wrapped x => code ":: core :: option :: Option :: Some" ++ parens (x.tokens runtime)
  | guarded ordinal x =>
    code "if reader . is_null" ++ parens (ordinalLiteral ordinal) ++ code "?"
      ++ braces (code ":: core :: default :: Default :: default" ++ parens []) ++ code "else"
      ++ braces (x.tokens runtime)

end Expression

/-- What the names in expressions stand for. -/
structure Scope (V : Type) where
  property : String → Evaluation (Datum V) := fun _ => .stuck
  key : Evaluation (Datum V) := .stuck
  value : Evaluation (Datum V) := .stuck
  row : Option Row := none

/-- What a method of a row gives. -/
def Scope.get (scope : Scope V) (method : String) (ordinal : Nat) : Evaluation (Datum V) :=
  match scope.row, rowMethods.lookup method with
  | some row, some g =>
    (Evaluation.ofRead (row.get g ordinal)).bind fun v =>
      .gives (.value (.native ⟨getterType g, v⟩))
  | _, _ => .stuck

/-- Whether a column of the row is null. -/
def Scope.isNull (scope : Scope V) (ordinal : Nat) : Evaluation Bool :=
  match scope.row with
  | some row => .ofRead (row.isNull ordinal)
  | none => .stuck

/-- What an expression gives. -/
def Expression.eval (e : Environment V) : Expression → Scope V → Evaluation (Datum V)
  | property name, scope => scope.property name
  | key, scope => scope.key
  | value, scope => scope.value
  | reference x, scope | parenthesized x, scope => x.eval e scope
  | mapped x body, scope =>
    (x.eval e scope).bind (Datum.mapped fun d => body.eval e { scope with value := .gives d })
  | discriminant integer x, scope => (x.eval e scope).bind (Datum.discriminant e integer)
  | bridge method x, scope => (x.eval e scope).bind (Datum.crossed e method)
  | get method ordinal, scope => scope.get method ordinal
  | instant x, scope => (x.eval e scope).bind Datum.instant
  | narrowed type x, scope => (x.eval e scope).bind (Datum.narrowed type)
  | enumerated integer type x, scope => (x.eval e scope).bind (Datum.enumerated e integer type)
  | default, _ => .gives .default
  | wrapped x, scope => (x.eval e scope).bind Datum.wrapped
  | guarded ordinal x, scope =>
    (scope.isNull ordinal).bind fun isNull => if isNull then .gives .default else x.eval e scope

/-- The expression that a column is bound to, from the place of its value. -/
def boundFrom (c : Column) (place : Expression) : Expression :=
  let integer := Width.discriminantType c.enumWidth
  if c.isEnum then
    if c.isOptional then .mapped place (.discriminant integer .value)
    else .parenthesized (.discriminant integer (.reference place))
  else if c.needsBridge then
    if c.isOptional then .mapped place (.bridge c.bridgeTo .value)
    else .bridge c.bridgeTo (.reference place)
  else place

/-- The expression for the value of a column that is not null. -/
def takenAt (c : Column) (ordinal : Nat) : Expression :=
  let raw := Expression.get (rowMethod c.columnType) ordinal
  if c.isEnum then .enumerated (Width.discriminantType c.enumWidth) c.baseType raw
  else if c.needsBridge then .bridge c.bridgeFrom raw
  else .narrowed c.baseType
    (if c.columnType = .timestamp && holdsInstant c then .instant raw else raw)

/-- The expression that a property is read with. -/
def readAt (c : Column) (ordinal : Nat) : Expression :=
  if c.isNullable then
    .guarded ordinal (if c.isOptional then .wrapped (takenAt c ordinal) else takenAt c ordinal)
  else takenAt c ordinal

section Written

variable {c : Column} {className : String} {ordinal : Nat} {r : Reading}

/-- A binding is rendered as the expression of its column is written. -/
theorem valueTokens_bindingFor (c : Column) (runtime : List Token) (place : Expression) :
    (bindingFor c).valueTokens (place.tokens runtime) = (boundFrom c place).tokens runtime := by
  cases he : c.isEnum with
  | true =>
      cases ho : c.isOptional <;>
        simp only [Binding.valueTokens, bindingFor, boundFrom, he, ho, if_true, if_false,
          Bool.false_eq_true] <;> rfl
  | false =>
      cases hb : c.needsBridge with
      | false =>
          simp only [Binding.valueTokens, bindingFor, boundFrom, he, hb, if_false,
            Bool.false_eq_true]
      | true =>
          cases ho : c.isOptional <;>
            simp only [Binding.valueTokens, bindingFor, boundFrom, he, hb, ho, if_true, if_false,
              Bool.false_eq_true] <;> rfl

/-- A reading takes a value that is not null as the expression of its column is written. -/
theorem valueTokens_reads (hr : r.Reads className ordinal c) (runtime : List Token) :
    r.valueTokens runtime = (takenAt c ordinal).tokens runtime := by
  obtain ⟨property, position, getter, form, _, _⟩ := r
  obtain ⟨-, rfl, rfl, hform, -, -⟩ := hr
  have hraw : code "reader ." ++ word c.columnType.getter.name ++ parens (ordinalLiteral position)
      ++ code "?" = (Expression.get (rowMethod c.columnType) position).tokens runtime := by
    rw [name_getter]
    rfl
  cases hform with
  | @discriminant type he htype =>
      simp only [Reading.valueTokens, Reading.rawTokens, hraw, takenAt, he, if_true,
        Expression.tokens, typeTokens_eq htype]
  | bridge he hb _ =>
      simp only [Reading.valueTokens, Reading.rawTokens, hraw, takenAt, he, hb, if_true, if_false,
        Bool.false_eq_true, Expression.tokens]
  | @narrowing type he hb htype =>
      simp only [Reading.valueTokens, Reading.rawTokens, hraw, takenAt, he, hb, if_false,
        Bool.false_eq_true, Expression.tokens, typeTokens_eq htype]
      cases c.columnType = .timestamp && holdsInstant c with
      | false => simp only [if_false, Bool.false_eq_true, List.append_nil, Expression.tokens]
      | true => simp only [if_true, Expression.tokens, callEmpty, List.append_assoc]

/-- A reading is rendered as the expression of its column is written. -/
theorem guardedTokens_reads (hr : r.Reads className ordinal c) (runtime : List Token) :
    r.guardedTokens runtime = (readAt c ordinal).tokens runtime := by
  rw [Reading.guardedTokens, valueTokens_reads hr, hr.nullable, hr.optional, hr.ordinal, readAt]
  cases c.isNullable with
  | false => rfl
  | true => cases c.isOptional <;> rfl

end Written

section Given

variable {c : Column} {className : String} {ordinal : Nat} {r : Reading}

/-- An integer cast to the type of an enumeration's column. -/
theorem castInteger_discriminantType (w : Option Width) (n : Int) :
    ∃ v, castInteger (Width.discriminantType w) n = .gives v ∧
      v.toSql = discriminantToSql (Width.discriminantType w) n := by
  cases w with
  | none => exact ⟨_, rfl, rfl⟩
  | some w => cases w <;> exact ⟨_, rfl, rfl⟩

/-- The getter of an enumeration's column gives an integer of the type it is cast to. -/
theorem ofName?_discriminantType (w : Option Width) :
    HostType.ofName? (Width.discriminantType w) = some (getterType (Width.columnType w).getter) := by
  cases w with
  | none => rfl
  | some w => cases w <;> rfl

/-- Where there is no value, none is bound. -/
theorem eval_boundFrom_none (ho : c.isOptional = true) {place : Expression} {scope : Scope V}
    (hplace : place.eval e scope = .gives (.option none)) :
    (boundFrom c place).eval e scope = .gives (.option none) := by
  simp only [boundFrom, ho, if_true]
  split
  · simp only [Expression.eval, hplace, Evaluation.bind_gives, Datum.mapped]
  · split
    · simp only [Expression.eval, hplace, Evaluation.bind_gives, Datum.mapped]
    · exact hplace

/-- The expression of a column gives what its binding is bound as. -/
theorem eval_boundFrom {h : Held V} (hv : HasValue isValue c h) {place : Expression}
    {scope : Scope V} (hplace : place.eval e scope = h.inPlace c.isOptional) :
    ((boundFrom c place).eval e scope).bind Datum.toSql = .gives ((bindingFor c).bound e h) := by
  match h, hv with
  | none, ho =>
      have ho : c.isOptional = true := ho
      simp only [Held.inPlace, ho, if_true] at hplace
      rw [eval_boundFrom_none ho hplace]
      rfl
  | some (.native v), ⟨he, hb, _⟩ =>
      simp only [boundFrom, he, hb, if_false, Bool.false_eq_true, hplace, Held.inPlace]
      cases c.isOptional <;> rfl
  | some (.user v), ⟨huser, _⟩ =>
      obtain ⟨n, hcast, hn⟩ := castInteger_discriminantType c.enumWidth (e.discriminant v)
      cases he : c.isEnum with
      | true =>
          have hbound : (bindingFor c).bound e (some (.user v)) = n.toSql := by
            simp only [Binding.bound, bindingFor, he, if_true, hn]
          rw [hbound]
          cases ho : c.isOptional <;>
            simp only [boundFrom, he, ho, if_true, if_false, Bool.false_eq_true, Expression.eval,
              hplace, Held.inPlace, Evaluation.bind_gives, Datum.mapped, Datum.discriminant,
              hcast, Datum.toSql]
      | false =>
          have hb : c.needsBridge = true := huser.resolve_left (by simp [he])
          have hbound : (bindingFor c).bound e (some (.user v)) =
              (e.toColumn c.bridgeTo v).toSql := by
            simp only [Binding.bound, bindingFor, he, hb, if_true, if_false, Bool.false_eq_true]
          rw [hbound]
          cases ho : c.isOptional <;>
            simp only [boundFrom, he, hb, ho, if_true, if_false, Bool.false_eq_true,
              Expression.eval, hplace, Held.inPlace, Evaluation.bind_gives, Datum.mapped,
              Datum.crossed, Datum.toSql]

theorem narrowedValue_false (v : HostValue) : narrowedValue v false = v := by
  obtain ⟨type, _⟩ := v
  cases type <;> rfl

/-- A column of times holds instants only where its getter gives local times. -/
theorem instant_getter {raw : (getterType c.columnType.getter).Carrier}
    (h : (c.columnType = .timestamp && holdsInstant c) = true) :
    Datum.instant (V := V) (.value (.native ⟨getterType c.columnType.getter, raw⟩)) =
      .gives (.value (.native (narrowedValue ⟨getterType c.columnType.getter, raw⟩ true))) := by
  obtain ⟨htype, -⟩ := Bool.and_eq_true_iff.mp h
  rw [decide_eq_true_eq] at htype
  generalize c.columnType = type at raw htype
  subst htype
  rfl

/-- The expression for a value that is not null gives what the form of its reading takes. -/
theorem eval_takenAt (hc : c.Coherent) {form : ReadingForm} (hform : FormFor className c form)
    (ordinal : Nat) {scope : Scope V} {row : Row} (hrow : scope.row = some row) :
    (takenAt c ordinal).eval e scope =
      (Evaluation.ofRead (row.get c.columnType.getter ordinal)).bind fun raw =>
        (Evaluation.ofRead (form.take e ⟨getterType c.columnType.getter, raw⟩)).bind fun v =>
          .gives (.value v) := by
  have hraw : scope.get (rowMethod c.columnType) ordinal =
      (Evaluation.ofRead (row.get c.columnType.getter ordinal)).bind fun raw =>
        .gives (.value (.native ⟨getterType c.columnType.getter, raw⟩)) := by
    simp only [Scope.get, hrow, lookup_rowMethod]
  cases hform with
  | discriminant he _ =>
      have htype := ofName?_discriminantType c.enumWidth
      rw [← hc.enum_type he] at htype
      simp only [takenAt, he, if_true, Expression.eval, hraw, Evaluation.bind_assoc,
        Evaluation.bind_gives, Datum.enumerated, htype, ReadingForm.take]
      congr 1
      funext raw
      cases e.ofDiscriminant c.baseType (integerOf ⟨getterType c.columnType.getter, raw⟩) <;> rfl
  | bridge he hb _ =>
      simp only [takenAt, he, hb, if_true, if_false, Bool.false_eq_true, Expression.eval, hraw,
        Evaluation.bind_assoc, Evaluation.bind_gives, Datum.crossed, ReadingForm.take,
        Evaluation.ofRead_ok]
  | narrowing he hb _ =>
      simp only [takenAt, he, hb, if_false, Bool.false_eq_true, ReadingForm.take]
      cases hinstant : c.columnType = .timestamp && holdsInstant c with
      | false =>
          simp only [if_false, Bool.false_eq_true, Expression.eval, hraw, Evaluation.bind_assoc,
            Evaluation.bind_gives, Datum.narrowed, narrowedValue_false, Evaluation.ofRead_map]
      | true =>
          simp only [if_true, Expression.eval, hraw, Evaluation.bind_assoc, Evaluation.bind_gives,
            instant_getter hinstant, Datum.narrowed, Evaluation.ofRead_map]

/-- Looking for null first changes nothing: it fails only where the getter fails as well. -/
theorem ofRead_isNull_bind {α : Type} (row : Row) (g : Getter) (ordinal : Nat)
    (next : (getterType g).Carrier → Evaluation α) :
    ((Evaluation.ofRead (row.isNull ordinal)).bind fun _ =>
      (Evaluation.ofRead (row.get g ordinal)).bind next) =
        (Evaluation.ofRead (row.get g ordinal)).bind next := by
  cases hvalue : row.value ordinal with
  | error fault => simp only [Row.isNull, Row.get, hvalue]; rfl
  | ok v => simp only [Row.isNull, hvalue]; rfl

/-- A value that is not null is given as the place of its property takes it. -/
theorem eval_wrapped {x : Expression} {scope : Scope V} {read : Evaluation (PropertyValue V)}
    (hx : x.eval e scope = read.bind fun v => .gives (.value v)) (isOptional : Bool) :
    (if isOptional then .wrapped x else x : Expression).eval e scope =
      read.bind fun v => .gives (Held.initializing isOptional (some v)) := by
  cases isOptional with
  | false => exact hx
  | true =>
      simp only [if_true, Expression.eval, hx, Evaluation.bind_assoc, Evaluation.bind_gives,
        Datum.wrapped, Held.initializing]

/-- The expression of a column gives what its reading takes. -/
theorem eval_readAt (hc : c.Coherent) (hr : r.Reads className ordinal c) {scope : Scope V}
    {row : Row} (hrow : scope.row = some row) :
    (readAt c ordinal).eval e scope =
      (Evaluation.ofRead (r.take e row)).bind fun h => .gives (h.initializing c.isOptional) := by
  obtain ⟨property, position, getter, form, isNullable, isOptional⟩ := r
  obtain ⟨-, rfl, rfl, hform, rfl, -⟩ := hr
  have htaken := eval_takenAt (e := e) hc hform position hrow
  have hisNull : scope.isNull position = .ofRead (row.isNull position) := by
    rw [Scope.isNull, hrow]
  rw [← Evaluation.bind_assoc] at htaken
  have hgiven := eval_wrapped htaken c.isOptional
  rw [Evaluation.bind_assoc] at hgiven
  simp only [Reading.take, Evaluation.ofRead_bind, Evaluation.bind_assoc]
  cases hn : c.isNullable with
  | true =>
      simp only [readAt, hn, if_true, Expression.eval, hisNull, hgiven]
      congr 1
      funext isNull
      cases isNull with
      | true => rfl
      | false =>
          simp only [Bool.and_false, if_false, Bool.false_eq_true, Evaluation.ofRead_bind,
            Evaluation.bind_assoc, Evaluation.ofRead_pure, Evaluation.bind_gives]
  | false =>
      have ho : c.isOptional = false := by
        cases ho : c.isOptional with
        | false => rfl
        | true => rw [hc.optional_nullable ho] at hn; cases hn
      simp only [ho, if_false, Bool.false_eq_true] at hgiven
      simp only [readAt, hn, ho, if_false, Bool.false_eq_true, hgiven, Bool.false_and,
        Evaluation.ofRead_bind, Evaluation.bind_assoc, Evaluation.ofRead_pure,
        Evaluation.bind_gives, ofRead_isNull_bind]

end Given

end Rowsmith.Accessor
