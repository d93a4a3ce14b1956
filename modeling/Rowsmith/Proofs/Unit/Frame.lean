import Rowsmith.Proofs.Accessor.Agreement
import Rowsmith.Proofs.Unit.Delivery
import Rowsmith.Proofs.Unit.Leaves

/-!
# What substitutions leave alone

The text of a unit stays as it is around the arguments of its methods exactly when no
placeholder's literal stands there. Templates hold none: it is the names that a unit writes
out, and what it takes over from its declaration, that may.
-/

namespace Rowsmith.Accessor
open Schema Source Sql Text

/-- What is taken over into the form of a binding. -/
def BindingForm.given : BindingForm → List Token
  | .plain => []
  | .discriminant type => word type
  | .bridge method => word method

/-- What is taken over into the form of a reading. -/
def ReadingForm.given : ReadingForm → List Token
  | .discriminant integer type _ => word integer ++ type
  | .bridge method => word method
  | .narrowing type _ _ => type

/-- The names that the form of a reading writes out. -/
def ReadingForm.names : ReadingForm → List String
  | .discriminant _ _ name => [name]
  | .bridge _ | .narrowing _ _ _ => []

namespace MethodBody

/-- What is taken over into a body, given the identifier of the class. -/
def given (className : String) : MethodBody → List Token
  | .create => []
  | .write bindings =>
    word className ++ bindings.flatMap fun p => word p.1 ++ p.2.form.given
  | .delete keyType b => keyType ++ b.form.given
  | .find keyType b readings _ =>
    word className ++ (keyType ++ (b.form.given ++
      readings.flatMap fun r => word r.property ++ r.form.given))

/-- The names that a body writes out: of parameters, and of enumerations. -/
def names : MethodBody → List String
  | .create => []
  | .write bindings => bindings.map (·.2.parameter)
  | .delete _ b => [b.parameter]
  | .find _ b readings _ => b.parameter :: readings.flatMap (·.form.names)

end MethodBody

/-- What is taken over into a bridge. -/
def Bridge.given (b : Bridge) : List Token :=
  word b.toColumn ++ (b.type ++ (b.host ++ word b.fromColumn))

/-- A method with no text for its command. -/
def Method.cleared (m : Method) : Method := { m with placeholder := "" }

section Leaves

variable {P : Token → Prop}

theorem eachLeaf_callEmpty : EachLeaf P callEmpty := by
  rw [callEmpty, eachLeaf_parens]
  exact eachLeaf_nil

variable (hP : Templated P) {runtime : List Token} (hr : EachLeaf P runtime)

include hP

theorem eachLeaf_fixedWord {w : String} (h : isIdentifierWord w.toList = true) :
    EachLeaf P (word w) :=
  eachLeaf_word.mpr (hP.word w h)

include hr

theorem eachLeaf_imports : ∀ path ∈ imports runtime, EachLeaf P path := by
  intro path hpath
  obtain ⟨name, hmem, rfl⟩ := List.mem_map.mp hpath
  have hname : ∀ name ∈ libraryTraits, isIdentifierWord name.toList = true := by decide
  rw [eachLeaf_append, eachLeaf_append]
  have hseparator : EachLeaf P (code "::") := hP.code (isTemplate_of_eq rfl (by decide))
  exact ⟨⟨hr, hseparator⟩, eachLeaf_fixedWord hP (hname name hmem)⟩

/-- Of the leaves of a prologue the name of the table counts. -/
theorem eachLeaf_prologue {tableName methodName text : String}
    (hm : methodName.toList.getLast? ≠ some '_') (ht : text.toList.getLast? ≠ some '_') :
    EachLeaf P (prologue runtime tableName methodName text) ↔
      P (.literal (stringLiteral tableName)) := by
  have himports : ∀ path ∈ imports runtime, EachLeaf P path := eachLeaf_imports hP hr
  have hevent := hP.literal "executing statement" (by decide)
  simp (disch := exact isTemplate_of_eq rfl (by decide)) only [prologue, eachLeaf_append,
    eachLeaf_flatMap, eachLeaf_parens, eachLeaf_brackets, eachLeaf_textLiteral, hP.code, hr,
    eachLeaf_callEmpty, hP.literal methodName hm, hP.literal text ht, hevent, true_and, and_true]
  exact and_iff_right himports

theorem eachLeaf_binding {b : Binding} {place : List Token} :
    EachLeaf P (b.tokens runtime place) ↔
      P (.literal (stringLiteral b.parameter)) ∧ EachLeaf P place ∧ EachLeaf P b.form.given := by
  have hvalue : EachLeaf P (b.valueTokens place) ↔ EachLeaf P place ∧ EachLeaf P b.form.given := by
    have hword := eachLeaf_fixedWord hP (w := "value") (by decide)
    obtain ⟨parameter, form, isOptional⟩ := b
    cases form with
    | plain => simp [Binding.valueTokens, BindingForm.given]
    | discriminant type =>
        cases isOptional <;>
        simp (disch := exact isTemplate_of_eq rfl (by decide)) only [Binding.valueTokens,
          BindingForm.given, eachLeaf_append, eachLeaf_parens, hP.code, hword, eachLeaf_callEmpty,
          true_and, and_true, if_true, if_false, Bool.false_eq_true]
    | bridge method =>
        cases isOptional <;>
        simp (disch := exact isTemplate_of_eq rfl (by decide)) only [Binding.valueTokens,
          BindingForm.given, eachLeaf_append, eachLeaf_parens, hP.code, hword, eachLeaf_callEmpty,
          true_and, if_true, if_false, Bool.false_eq_true, and_comm]
  have hword := eachLeaf_fixedWord hP (w := "parameter") (by decide)
  simp (disch := exact isTemplate_of_eq rfl (by decide)) only [Binding.tokens, eachLeaf_append,
    eachLeaf_parens, eachLeaf_textLiteral, hP.code, hr, hword, hvalue, true_and, and_true]

theorem eachLeaf_reading {r : Reading} :
    EachLeaf P (r.tokens runtime) ↔ EachLeaf P (word r.property ++ r.form.given) ∧
      ∀ name ∈ r.form.names, P (.literal (stringLiteral name)) := by
  have hraw : EachLeaf P r.rawTokens := by
    have hgetter : isIdentifierWord r.getter.name.toList = true := by
      cases r.getter <;> decide
    have hname := eachLeaf_fixedWord hP hgetter
    simp (disch := exact isTemplate_of_eq rfl (by decide)) only [Reading.rawTokens,
      eachLeaf_append, eachLeaf_parens, hP.code, hname, hP.ordinalLiteral, and_true]
  have hdefault : EachLeaf P Reading.defaultTokens := by
    simp (disch := exact isTemplate_of_eq rfl (by decide)) only [Reading.defaultTokens,
      eachLeaf_append, hP.code, eachLeaf_callEmpty, and_true]
  have hvalue : EachLeaf P (r.valueTokens runtime) ↔ EachLeaf P r.form.given ∧
      ∀ name ∈ r.form.names, P (.literal (stringLiteral name)) := by
    have hword := eachLeaf_fixedWord hP (w := "value") (by decide)
    obtain ⟨property, ordinal, getter, form, isNullable, isOptional⟩ := r
    cases form with
    | discriminant integer type name =>
        simp (disch := exact isTemplate_of_eq rfl (by decide)) only [Reading.valueTokens,
          ReadingForm.given, ReadingForm.names, eachLeaf_append, eachLeaf_parens, eachLeaf_braces,
          eachLeaf_textLiteral, hP.code, hr, hword, hraw, true_and, and_true,
          List.forall_mem_singleton]
        tauto
    | bridge method =>
        simp (disch := exact isTemplate_of_eq rfl (by decide)) only [Reading.valueTokens,
          ReadingForm.given, ReadingForm.names, eachLeaf_append, eachLeaf_parens, hP.code, hraw,
          true_and, and_true, List.not_mem_nil, false_implies, implies_true]
    | narrowing type name isInstant =>
        cases isInstant <;>
        simp (disch := exact isTemplate_of_eq rfl (by decide)) only [Reading.valueTokens,
          ReadingForm.given, ReadingForm.names, eachLeaf_append, eachLeaf_parens, hP.code, hr, hraw,
          eachLeaf_callEmpty, eachLeaf_nil, true_and, and_true, List.not_mem_nil, false_implies,
          implies_true, if_true, if_false, Bool.false_eq_true]
  have hguarded : EachLeaf P (r.guardedTokens runtime) ↔ EachLeaf P (r.valueTokens runtime) := by
    rw [Reading.guardedTokens]
    split
    · split <;>
      simp (disch := exact isTemplate_of_eq rfl (by decide)) only [eachLeaf_append,
        eachLeaf_parens, eachLeaf_braces, hP.code, hP.ordinalLiteral, hdefault, true_and]
    · rfl
  simp (disch := exact isTemplate_of_eq rfl (by decide)) only [Reading.tokens, eachLeaf_append,
    hP.code, hguarded, hvalue, and_true, and_assoc]

omit hr in
theorem eachLeaf_readRow {c : Context} {readings : List Reading} {hasRest : Bool} :
    EachLeaf P (readRowTokens c readings hasRest) ↔ EachLeaf P (word c.className) ∧
      ∀ r ∈ readings, EachLeaf P (r.tokens c.runtime) := by
  cases hasRest <;>
  simp (disch := exact isTemplate_of_eq rfl (by decide)) only [readRowTokens, okTokens,
    Reading.defaultTokens, eachLeaf_append, eachLeaf_flatMap, eachLeaf_parens, eachLeaf_braces,
    hP.code, eachLeaf_callEmpty, eachLeaf_nil, true_and, and_true, if_true, if_false,
    Bool.false_eq_true]

omit hr in
theorem eachLeaf_execute : EachLeaf P executeTokens := by
  simp (disch := exact isTemplate_of_eq rfl (by decide)) only [executeTokens, okTokens,
    eachLeaf_append, eachLeaf_parens, hP.code, eachLeaf_callEmpty, and_true]

theorem eachLeaf_accessor {documentationText name : String} {arguments value body : List Token}
    (hd : documentationText.toList.getLast? ≠ some '_') (hn : isIdentifierWord name.toList = true) :
    EachLeaf P (accessorTokens runtime documentationText name arguments value body) ↔
      EachLeaf P arguments ∧ EachLeaf P value ∧ EachLeaf P body := by
  simp (disch := exact isTemplate_of_eq rfl (by decide)) only [accessorTokens, resultType,
    eachLeaf_append, eachLeaf_parens, eachLeaf_braces, hP.code, hP.documentation hd,
    eachLeaf_fixedWord hP hn, hr, true_and, and_true, and_assoc]

theorem eachLeaf_helper : EachLeaf P (parameterHelper runtime) := by
  have hdocumentation : EachLeaf P
      (fixedDocumentation "Create a parameter on `command` carrying `name` and `value`.") :=
    hP.fixedDocumentation (notMem_of_eq rfl (by decide)) (notMem_of_eq rfl (by decide))
  have hname := eachLeaf_fixedWord hP (w := "name") (by decide)
  have hvalue := eachLeaf_fixedWord hP (w := "value") (by decide)
  simp (disch := exact isTemplate_of_eq rfl (by decide)) only [parameterHelper, eachLeaf_append,
    eachLeaf_parens, eachLeaf_braces, hP.code, hdocumentation, hr, hname, hvalue,
    eachLeaf_callEmpty, and_true]

omit hr

theorem eachLeaf_bridge {b : Bridge} : EachLeaf P b.tokens ↔ EachLeaf P b.given := by
  have hto : ∀ text : String, (text ++ "` into its column value.").toList.getLast? = some '.' :=
    getLast?_toList_append rfl
  have hfrom : ∀ text : String, (text ++ "`.").toList.getLast? = some '.' :=
    getLast?_toList_append rfl
  have hdot : some '.' ≠ some '_' := by decide
  have htoDocumentation := hP.documentation ((hto ("Convert a `" ++ b.name)).trans_ne hdot)
  have hfromDocumentation :=
    hP.documentation ((hfrom ("Convert a column value back into a `" ++ b.name)).trans_ne hdot)
  simp (disch := exact isTemplate_of_eq rfl (by decide)) only [Bridge.tokens, Bridge.given,
    eachLeaf_append, eachLeaf_parens, hP.code, htoDocumentation, hfromDocumentation, true_and,
    and_true, and_assoc]
  tauto

/-- Of the leaves of a method without a text count what it takes over and the names that it
writes out. -/
theorem eachLeaf_cleared {m : Method} (c : Context) (hr : EachLeaf P c.runtime)
    (hd : m.documentation.toList.getLast? ≠ some '_') :
    EachLeaf P (m.cleared.tokens c) ↔ EachLeaf P (m.body.given c.className) ∧
      ∀ name ∈ c.table.name :: m.body.names, P (.literal (stringLiteral name)) := by
  have hoperation : isIdentifierWord m.operation.methodName.toList = true ∧
      m.operation.methodName.toList.getLast? ≠ some '_' := by
    cases m.operation <;> decide
  have hprologue : EachLeaf P (prologue c.runtime c.table.name m.operation.methodName "") ↔
      P (.literal (stringLiteral c.table.name)) :=
    eachLeaf_prologue hP hr hoperation.2 (by simp)
  have hplace : EachLeaf P keyPlace :=
    eachLeaf_fixedWord hP (by decide)
  have haccessor : ∀ arguments value body : List Token,
      EachLeaf P (accessorTokens c.runtime m.documentation m.operation.methodName arguments value
        body) ↔ EachLeaf P arguments ∧ EachLeaf P value ∧ EachLeaf P body :=
    fun _ _ _ => eachLeaf_accessor hP hr hd hoperation.1
  obtain ⟨operation, documentation, body, statement, placeholder⟩ := m
  cases body with
  | create =>
      simp only [Method.tokens, Method.cleared, MethodBody.given, MethodBody.names, haccessor,
        eachLeaf_append, eachLeaf_nil, eachLeaf_callEmpty, eachLeaf_execute hP, hprologue,
        List.forall_mem_singleton, true_and, and_true]
  | write bindings =>
      simp (disch := exact isTemplate_of_eq rfl (by decide)) only [Method.tokens, Method.cleared,
        MethodBody.given, MethodBody.names, haccessor, eachLeaf_append, eachLeaf_flatMap, hP.code,
        eachLeaf_callEmpty, eachLeaf_execute hP, hprologue, eachLeaf_binding hP hr, rowPlace,
        List.forall_mem_cons, List.forall_mem_map, true_and, and_true]
      constructor
      · rintro ⟨hclass, htable, hbindings⟩
        exact ⟨⟨hclass, fun p hp => (hbindings p hp).2⟩, htable, fun p hp => (hbindings p hp).1⟩
      · rintro ⟨⟨hclass, hgiven⟩, htable, hnames⟩
        exact ⟨hclass, htable, fun p hp => ⟨hnames p hp, hgiven p hp⟩⟩
  | delete keyType b =>
      simp (disch := exact isTemplate_of_eq rfl (by decide)) only [Method.tokens, Method.cleared,
        MethodBody.given, MethodBody.names, haccessor, eachLeaf_append, hP.code, eachLeaf_callEmpty,
        eachLeaf_execute hP, hprologue, eachLeaf_binding hP hr, hplace, List.forall_mem_cons,
        List.not_mem_nil, false_implies, implies_true, true_and, and_true]
      constructor
      · rintro ⟨hkey, htable, hparameter, hform⟩
        exact ⟨⟨hkey, hform⟩, htable, hparameter⟩
      · rintro ⟨⟨hkey, hform⟩, htable, hparameter⟩
        exact ⟨hkey, htable, hparameter, hform⟩
  | find keyType b readings skipped =>
      simp (disch := exact isTemplate_of_eq rfl (by decide)) only [Method.tokens, Method.cleared,
        MethodBody.given, MethodBody.names, haccessor, eachLeaf_append, eachLeaf_flatMap, hP.code,
        eachLeaf_readRow hP, eachLeaf_reading hP hr, hprologue, eachLeaf_binding hP hr, hplace,
        List.forall_mem_cons, List.forall_mem_flatMap, true_and, and_true]
      constructor
      · rintro ⟨hkey, hclass, ⟨htable, hparameter, hform⟩, -, hreadings⟩
        exact ⟨⟨hclass, hkey, hform, fun r hr => (hreadings r hr).1⟩, htable, hparameter,
          fun r hr => (hreadings r hr).2⟩
      · rintro ⟨⟨hclass, hkey, hform, hgiven⟩, htable, hparameter, hnames⟩
        exact ⟨hkey, hclass, ⟨htable, hparameter, hform⟩, hclass,
          fun r hr => ⟨hgiven r hr, hnames r hr⟩⟩

end Leaves

section Names

variable {t : Table} {m : Method}

theorem flatMap_formNames {className : String} {columns : List Column} {readings : List Reading}
    (h : List.Forall₂ (fun c r => FormFor className c r.form) columns readings) :
    readings.flatMap (·.form.names) = (columns.filter (·.isEnum)).map Column.baseType := by
  induction h with
  | nil => rfl
  | @cons c r columns readings hform _ ih =>
      rw [List.flatMap_cons, ih]
      generalize r.form = form at hform
      cases hform with
      | discriminant he _ => simp [ReadingForm.names, he]
      | bridge he _ _ => simp [ReadingForm.names, he]
      | narrowing he _ _ => simp [ReadingForm.names, he]

namespace Method.Serves

variable (hs : m.Serves t)

include hs

theorem names_create (ho : m.operation ∈ [.createTable, .createTableIfNotExists]) :
    m.body.names = [] := by
  rw [hs.body.of_create ho]
  rfl

theorem names_write (ho : m.operation ∈ [.insert, .upsert, .update]) :
    m.body.names = t.columnNames.map parameterName := by
  have hparameters := hs.parameters_write ho
  obtain ⟨bindings, hbody, -⟩ := hs.body.of_write ho
  rw [hbody, MethodBody.bound, List.map_map] at hparameters
  rw [hbody, ← hparameters]
  rfl

theorem names_delete (ho : m.operation = .delete) : m.body.names = [parameterName t.key.name] := by
  obtain ⟨keyType, binding, hbody, -, hb⟩ := (ho ▸ hs.body).of_delete
  rw [hbody, (bindingOf_eq_ok_iff.mp hb).1]
  rfl

theorem names_find (ho : m.operation = .find) : m.body.names =
    parameterName t.key.name :: (t.columns.filter (·.isEnum)).map Column.baseType := by
  obtain ⟨keyType, binding, readings, hbody, -, hb, hr⟩ := (ho ▸ hs.body).of_find
  rw [hbody, (bindingOf_eq_ok_iff.mp hb).1, MethodBody.names,
    flatMap_formNames (rowReadings_forall₂ hr)]
  rfl

end Method.Serves

end Names

end Rowsmith.Accessor

namespace Rowsmith.Schema
open Rowsmith.Sql

/-- The names that a unit of a table writes out. -/
def Table.writtenNames (t : Table) : List String :=
  t.name :: (t.key.name :: t.columnNames).map parameterName ++
    (t.columns.filter (·.isEnum)).map Column.baseType

end Rowsmith.Schema

namespace Rowsmith.GeneratedUnit
open Accessor Outcome Schema Source Sql Text Rowsmith.Unit

variable (u : GeneratedUnit)

/-- What is taken over into a unit. -/
def given : List Token :=
  u.visibility ++ (u.context.runtime ++ (word u.baseName ++ (u.bridges.flatMap Bridge.given ++
    u.methods.flatMap fun m => m.body.given u.context.className)))

/-- A unit with no texts for its commands. -/
def cleared : GeneratedUnit := { u with methods := u.methods.map Method.cleared }

/-- The text around the arguments that are the texts of commands. -/
def surroundings : List (List Char) := u.front :: u.gaps.map Prod.snd

/-- Whether substitutions change nothing but those arguments. -/
def KeepsOthers : Prop :=
  u.render.toList =
    fill (fun m => substituteChars (stringLiteral m.placeholder).toList u.insertions) u.front u.gaps

/-- Of the leaves of a unit without texts count what it takes over and the names that it writes
out. -/
theorem eachLeaf_tokens_cleared {P : Token → Prop} (hP : Templated P)
    (hd : ∀ m ∈ u.methods, m.documentation.toList.getLast? ≠ some '_') :
    EachLeaf P u.cleared.tokens ↔ EachLeaf P u.given ∧ ∀ m ∈ u.methods,
      ∀ name ∈ u.context.table.name :: m.body.names, P (.literal (stringLiteral name)) := by
  have hdocumentation : EachLeaf P (documentation u.documentationText) := by
    refine hP.documentation ?_
    have hend : u.documentationText.toList.getLast? = some '.' := getLast?_toList_append rfl _
    rw [hend]
    decide
  have htokens : EachLeaf P u.cleared.tokens ↔ EachLeaf P u.context.runtime ∧
      EachLeaf P u.visibility ∧ EachLeaf P (word u.baseName) ∧ EachLeaf P u.cleared.members := by
    have heq : u.cleared.tokens = documentation u.documentationText ++ code "#" ++
        brackets (u.context.runtime ++ code ":: async_trait") ++ u.visibility ++ code "trait" ++
        word u.baseName ++ code ": :: core :: marker :: Send + :: core :: marker :: Sync" ++
        braces u.cleared.members := rfl
    simp (disch := exact isTemplate_of_eq rfl (by decide)) only [heq, eachLeaf_append,
      eachLeaf_brackets, eachLeaf_braces, hP.code, hdocumentation, true_and, and_true, and_assoc]
  have hmembers : EachLeaf P u.context.runtime → (EachLeaf P u.cleared.members ↔
      (∀ b ∈ u.bridges, EachLeaf P b.given) ∧ ∀ m ∈ u.methods,
        EachLeaf P (m.body.given u.context.className) ∧
          ∀ name ∈ u.context.table.name :: m.body.names, P (.literal (stringLiteral name))) := by
    intro hr
    have heq : u.cleared.members = u.otherMembers ++
        (u.methods.map Method.cleared).flatMap (·.tokens u.context) := u.cleared.members_eq.2
    have hconnection : EachLeaf P
        (fixedDocumentation "Connection the accessors open commands on.") :=
      hP.fixedDocumentation (notMem_of_eq rfl (by decide)) (notMem_of_eq rfl (by decide))
    have hwrap : EachLeaf P (fixedDocumentation "Wrap a connection.") :=
      hP.fixedDocumentation (notMem_of_eq rfl (by decide)) (notMem_of_eq rfl (by decide))
    have hother : EachLeaf P u.otherMembers ↔ ∀ b ∈ u.bridges, EachLeaf P b.given := by
      simp (disch := exact isTemplate_of_eq rfl (by decide)) only [otherMembers, members,
        eachLeaf_append, eachLeaf_parens, eachLeaf_flatMap, hP.code, hconnection, hwrap, hr,
        eachLeaf_bridge hP, eachLeaf_helper hP hr, List.not_mem_nil, false_implies, implies_true,
        true_and, and_true]
    rw [heq, eachLeaf_append, hother, eachLeaf_flatMap, List.forall_mem_map]
    exact and_congr_right fun _ =>
      forall₂_congr fun m hm => eachLeaf_cleared hP u.context hr (hd m hm)
  simp only [htokens, given, eachLeaf_append, eachLeaf_flatMap]
  constructor
  · rintro ⟨hr, hvisibility, hname, hm⟩
    obtain ⟨hbridges, hmethods⟩ := (hmembers hr).mp hm
    exact ⟨⟨hvisibility, hr, hname, hbridges, fun m hm => (hmethods m hm).1⟩,
      fun m hm => (hmethods m hm).2⟩
  · rintro ⟨⟨hvisibility, hr, hname, hbridges, hgiven⟩, hnames⟩
    exact ⟨hr, hvisibility, hname, (hmembers hr).mpr
      ⟨hbridges, fun m hm => ⟨hgiven m hm, hnames m hm⟩⟩⟩

/-- A method declares the same without a text for its command. -/
theorem dropLast_tokens_cleared (m : Method) (c : Context) :
    (m.cleared.tokens c).dropLast = (m.tokens c).dropLast := by
  have haccessor : ∀ arguments value body other : List Token,
      (accessorTokens c.runtime m.documentation m.operation.methodName arguments value
        body).dropLast =
      (accessorTokens c.runtime m.documentation m.operation.methodName arguments value
        other).dropLast := by
    intro arguments value body other
    simp only [accessorTokens, braces, List.dropLast_concat]
  obtain ⟨operation, documentation, body, statement, placeholder⟩ := m
  cases body with
  | create => exact haccessor _ _ _ _
  | write bindings => exact haccessor _ _ _ _
  | delete keyType b => exact haccessor _ _ _ _
  | find keyType b readings skipped => exact haccessor _ _ _ _

theorem dropLast_cleared : u.cleared.tokens.dropLast = u.tokens.dropLast := by
  simp only [tokens, braces, List.dropLast_concat]
  rfl

/-- Clearing the texts of commands changes nothing around them. -/
theorem surroundings_cleared : u.cleared.surroundings = u.surroundings := by
  have hbefore : ∀ (m : Method) (c : Context), m.cleared.textBefore c = m.textBefore c := by
    intro m c
    rw [Method.textBefore, Method.textBefore, dropLast_tokens_cleared]
    rfl
  have hgaps : ∀ (ms : List Method) (start : List Char),
      (gapsFrom u.context start (ms.map Method.cleared)).1 = (gapsFrom u.context start ms).1 ∧
        (gapsFrom u.context start (ms.map Method.cleared)).2.map Prod.snd =
          (gapsFrom u.context start ms).2.map Prod.snd := by
    intro ms
    induction ms with
    | nil => exact fun _ => ⟨rfl, rfl⟩
    | cons m ms ih =>
        intro start
        obtain ⟨hfirst, hrest⟩ := ih (m.textBehind u.context).toList
        have hbehind : m.cleared.textBehind u.context = m.textBehind u.context := rfl
        simp only [List.map_cons, gapsFrom, hbefore, hbehind, hfirst, hrest]
        exact ⟨trivial, trivial⟩
  have hstart : u.cleared.startText = u.startText := by
    rw [startText, startText, dropLast_cleared]
    rfl
  obtain ⟨hfront, hbehind⟩ := hgaps u.methods u.startText
  rw [surroundings, surroundings, front, gaps, hstart]
  exact congrArg₂ List.cons hfront hbehind

/-- A placeholder's literal stands around the arguments exactly if it stands in a unit without
texts for its commands. -/
theorem spared_surroundings_iff {body : List Char} (hm : Marked body) :
    (∀ x ∈ u.surroundings, ¬ quoted body <:+: x) ↔
      ¬ quoted body <:+: (Token.textAll u.cleared.tokens).toList := by
  have hempty : ∀ p ∈ u.cleared.gaps, (stringLiteral p.1.placeholder).toList = quoted [] := by
    intro p hp
    have hmethod : p.1 ∈ u.cleared.methods := by
      rw [← u.cleared.map_fst_gaps]
      exact List.mem_map_of_mem hp
    obtain ⟨m, -, hcleared⟩ := List.mem_map.mp hmethod
    rw [← hcleared, Method.cleared, stringLiteral, String.toList_ofList]
    rfl
  have hnone : ¬ ∃ p ∈ u.cleared.gaps, quoted body <:+: (stringLiteral p.1.placeholder).toList := by
    rintro ⟨p, hp, hi⟩
    rw [hempty p hp] at hi
    have hbody : body = [] := eq_of_quoted_infix hm.quote List.not_mem_nil hi
    have hhead := hm.head
    rw [hbody] at hhead
    cases hhead
  let value (m : Method) : List Char := (stringLiteral m.placeholder).toList
  have hsealed : ∀ p ∈ u.cleared.gaps, Sealed (value p.1) := by
    intro p hp
    show Sealed (stringLiteral p.1.placeholder).toList
    rw [hempty p hp]
    exact sealed_quoted []
  have hwhole : quoted body <:+: (Token.textAll u.cleared.tokens).toList ↔
      ∃ x ∈ u.cleared.front :: u.cleared.gaps.map Prod.snd, quoted body <:+: x := by
    rw [u.cleared.toList_textAll_tokens, quoted_infix_fill_iff hm hsealed]
    exact or_iff_left hnone
  rw [hwhole, ← surroundings, u.surroundings_cleared]
  simp only [not_exists, not_and]

section Tables

variable {t : Table} {visibility : String} {runtime : List Token} {u : GeneratedUnit}
  (h : ofTable t visibility runtime = .ok u)

include h

theorem getLast?_documentation :
    ∀ m ∈ u.methods, m.documentation.toList.getLast? ≠ some '_' := by
  have hends : ∀ before behind : String, behind.toList.getLast? = some '.' →
      (before ++ behind).toList.getLast? ≠ some '_' := by
    intro before behind hbehind
    rw [getLast?_toList_append hbehind before]
    decide
  have hwrite : ∀ {operation : Operation} {m : Method}, writeMethod t operation = .ok m →
      m.documentation.toList.getLast? ≠ some '_' := by
    intro operation m hm
    obtain ⟨bindings, -, hm⟩ := bind_eq_ok_iff.mp hm
    rw [← pure_eq_ok_iff.mp hm]
    exact hends _ "` row." rfl
  obtain ⟨insert, hi, h⟩ := bind_eq_ok_iff.mp (methods_of_ofTable h).1
  obtain ⟨upsert, hp, h⟩ := bind_eq_ok_iff.mp h
  obtain ⟨update, hu, h⟩ := bind_eq_ok_iff.mp h
  obtain ⟨delete, hd, h⟩ := bind_eq_ok_iff.mp h
  obtain ⟨find, hf, hms⟩ := bind_eq_ok_iff.mp h
  rw [← pure_eq_ok_iff.mp hms]
  simp only [List.forall_mem_cons, List.not_mem_nil, false_implies, implies_true, and_true]
  refine ⟨hends _ "` table." rfl, hends _ "` table." rfl, hwrite hi, hwrite hp, hwrite hu, ?_, ?_⟩
  · obtain ⟨keyType, -, hd⟩ := bind_eq_ok_iff.mp hd
    obtain ⟨binding, -, hd⟩ := bind_eq_ok_iff.mp hd
    rw [← pure_eq_ok_iff.mp hd]
    exact hends _ "` row with the given key." rfl
  · obtain ⟨keyType, -, hf⟩ := bind_eq_ok_iff.mp hf
    obtain ⟨binding, -, hf⟩ := bind_eq_ok_iff.mp hf
    obtain ⟨readings, -, hf⟩ := bind_eq_ok_iff.mp hf
    rw [← pure_eq_ok_iff.mp hf]
    exact hends _ "` row with the given key, `None` when absent." rfl

/-- The names that a unit writes out are those of its table. -/
theorem forall_names_iff {Q : String → Prop} :
    (∀ m ∈ u.methods, ∀ name ∈ u.context.table.name :: m.body.names, Q name) ↔
      ∀ name ∈ t.writtenNames, Q name := by
  have hserve : ∀ m ∈ u.methods, m.Serves t := (methods_serve (methods_of_ofTable h).1).2
  have hmethod : ∀ o, ∃ m ∈ u.methods, m.operation = o := exists_method (methods_of_ofTable h).1
  rw [(context_of_ofTable h).1, Table.writtenNames]
  simp only [List.map_cons, List.cons_append, List.forall_mem_cons, List.forall_mem_append]
  constructor
  · intro hall
    obtain ⟨insert, hinsert, hi⟩ := hmethod .insert
    obtain ⟨find, hfind, hf⟩ := hmethod .find
    have hcolumns := (hall insert hinsert).2
    have hread := (hall find hfind).2
    rw [(hserve insert hinsert).names_write (by simp [hi])] at hcolumns
    rw [(hserve find hfind).names_find hf, List.forall_mem_cons] at hread
    exact ⟨(hall insert hinsert).1, hread.1, hcolumns, hread.2⟩
  · rintro ⟨htable, hkey, hcolumns, henums⟩ m hm
    refine ⟨htable, ?_⟩
    have hs := hserve m hm
    cases ho : m.operation with
    | createTable =>
        rw [hs.names_create (by simp [ho])]
        exact nofun
    | createTableIfNotExists =>
        rw [hs.names_create (by simp [ho])]
        exact nofun
    | insert => rwa [hs.names_write (by simp [ho])]
    | upsert => rwa [hs.names_write (by simp [ho])]
    | update => rwa [hs.names_write (by simp [ho])]
    | delete =>
        rw [hs.names_delete ho, List.forall_mem_singleton]
        exact hkey
    | find =>
        rw [hs.names_find ho, List.forall_mem_cons]
        exact ⟨hkey, henums⟩

theorem forall_insertions_iff {Q : List Char → Prop} :
    (∀ i ∈ u.insertions, Q i.pattern) ↔
      ∀ o : Operation, Q (quoted (o.placeholder t.className).toList) := by
  have hpattern : ∀ m ∈ u.methods,
      (insertionOf m).pattern = quoted (m.operation.placeholder t.className).toList := by
    intro m hm
    rw [← (serves_of_ofTable h hm).placeholder]
    rfl
  have hinsertions : u.insertions = u.methods.map insertionOf := rfl
  rw [hinsertions, List.forall_mem_map]
  constructor
  · intro hall o
    obtain ⟨m, hm, rfl⟩ := exists_method (methods_of_ofTable h).1 o
    rw [← hpattern m hm]
    exact hall m hm
  · intro hall m hm
    rw [hpattern m hm]
    exact hall m.operation

/-- Substitutions change nothing but the arguments exactly if no placeholder's literal stands
around them. -/
theorem keepsOthers_iff_surroundings (hq : '"' ∉ t.className.toList) :
    u.KeepsOthers ↔ ∀ o : Operation, ∀ x ∈ u.surroundings,
      ¬ quoted (o.placeholder t.className).toList <:+: x := by
  rw [KeepsOthers, render_eq h hq, fill_substituteChars_eq_iff]
  exact forall_insertions_iff h (Q := fun p => ∀ x ∈ u.surroundings, ¬ p <:+: x)

end Tables

/-- The units in which no placeholder's literal stands but as the argument of its method. -/
structure Undisturbed (t : Table) (u : GeneratedUnit) : Prop where
  /-- No name that is written out ends as a placeholder. -/
  names : ∀ name ∈ t.writtenNames, ∀ o : Operation,
    ¬ quoted (o.placeholder t.className).toList <:+ (stringLiteral name).toList
  given : ∀ l ∈ Token.leavesAll u.given, ∀ o : Operation,
    ¬ quoted (o.placeholder t.className).toList <:+: l.text.toList

/-- Where the name of the class prints as itself, the names that end as a placeholder are the
placeholder, and what goes on with it behind a quote to its end. -/
theorem suffix_stringLiteral_iff_of_plain {className : String} (hp : Plain className.toList)
    (o : Operation) (name : String) :
    quoted (o.placeholder className).toList <:+ (stringLiteral name).toList ↔
      name = o.placeholder className ∨ '"' :: (o.placeholder className).toList <:+ name.toList := by
  have hplain : Plain (o.placeholder className).toList := by
    intro c hc
    rw [toList_placeholder, List.mem_append] at hc
    rcases hc with hc | hc
    · exact plain_stem o c hc
    · exact plain_ending_iff.mpr hp c hc
  rw [quoted_suffix_stringLiteral_iff, quote_suffix_literalBody_iff hplain, List.suffix_cons_iff,
    List.cons_inj_right, String.toList_inj, eq_comm]

section Undisturbed

variable {t : Table} {visibility : String} {runtime : List Token} {u : GeneratedUnit}
  (h : ofTable t visibility runtime = .ok u) (hq : '"' ∉ t.className.toList)

include h hq

/-- Of the leaves of a unit without texts those that may hold a placeholder's literal are names
and what is taken over. -/
theorem spared_cleared_iff (o : Operation) :
    EachLeaf (fun l => ¬ quoted (o.placeholder t.className).toList <:+: l.text.toList)
        u.cleared.tokens ↔
      (∀ l ∈ Token.leavesAll u.given,
        ¬ quoted (o.placeholder t.className).toList <:+: l.text.toList) ∧
      ∀ name ∈ t.writtenNames,
        ¬ quoted (o.placeholder t.className).toList <:+ (stringLiteral name).toList := by
  have hm := marked_placeholder hq o
  rw [eachLeaf_tokens_cleared u (lenient_spared hm).templated (getLast?_documentation h),
    forall_names_iff h]
  simp only [EachLeaf, Token.text, quoted_infix_stringLiteral_iff hm]

theorem undisturbed_of_keepsOthers (hk : u.KeepsOthers) : Undisturbed t u := by
  rw [keepsOthers_iff_surroundings h hq] at hk
  have hspared : ∀ o : Operation,
      EachLeaf (fun l => ¬ quoted (o.placeholder t.className).toList <:+: l.text.toList)
        u.cleared.tokens := by
    intro o l hl hi
    have hnot := (spared_surroundings_iff u (marked_placeholder hq o)).mp (hk o)
    exact hnot (hi.trans (infix_textAll u.cleared.tokens l hl))
  constructor
  · exact fun name hname o => ((spared_cleared_iff h hq o).mp (hspared o)).2 name hname
  · exact fun l hl o => ((spared_cleared_iff h hq o).mp (hspared o)).1 l hl

theorem keepsOthers_of_undisturbed (hgiven : EachLeaf Tight u.given) (hu : Undisturbed t u) :
    u.KeepsOthers := by
  rw [keepsOthers_iff_surroundings h hq]
  have htight : EachLeaf Tight u.cleared.tokens := by
    rw [eachLeaf_tokens_cleared u lenient_tight.templated (getLast?_documentation h)]
    exact ⟨hgiven, fun _ _ name _ => tight_stringLiteral name⟩
  intro o
  have hm := marked_placeholder hq o
  have hspared := (spared_cleared_iff h hq o).mpr
    ⟨fun l hl => hu.given l hl o, fun name hname => hu.names name hname o⟩
  exact (spared_surroundings_iff u hm).mpr (not_infix_textAll hm htight hspared)

end Undisturbed

/-- Substitutions change nothing but the arguments exactly if no placeholder's literal stands
around them. Where leaves that are taken over end what they begin, that is so exactly if none
stands in such a leaf, and no name that is written out ends as one. -/
theorem keepsOthers_iff {t : Table} {visibility : String} {runtime : List Token}
    {u : GeneratedUnit} (h : ofTable t visibility runtime = .ok u)
    (hq : '"' ∉ t.className.toList) :
    (u.KeepsOthers ↔ ∀ o : Operation, ∀ x ∈ u.surroundings,
      ¬ quoted (o.placeholder t.className).toList <:+: x) ∧
    (EachLeaf Tight u.given → (u.KeepsOthers ↔ Undisturbed t u)) :=
  ⟨keepsOthers_iff_surroundings h hq, fun hgiven =>
    ⟨undisturbed_of_keepsOthers h hq, keepsOthers_of_undisturbed h hq hgiven⟩⟩

section Traced

set_option maxRecDepth 100000 in
theorem bare_given_member : ∃ u,
    ofTable memberTable "pub" (code ":: table_context") = .ok u ∧
      ∀ l ∈ Token.leavesAll u.given, '"' ∉ l.text.toList := by
  have hall : (fun u : GeneratedUnit => (Token.leavesAll u.given).all fun l =>
      '"' ∉ l.text.toList) <$> ofTable memberTable "pub" (code ":: table_context") = .ok true := by
    decide +kernel
  obtain ⟨u, hu, hbare⟩ := map_eq_ok_iff.mp hall
  exact ⟨u, hu, fun l hl => of_decide_eq_true (List.all_eq_true.mp hbare l hl)⟩

set_option maxRecDepth 100000 in
/-- The unit of members, whose columns have all forms, keeps what stands around its arguments. -/
theorem keepsOthers_member : ∃ u,
    ofTable memberTable "pub" (code ":: table_context") = .ok u ∧
      '"' ∉ memberTable.className.toList ∧ EachLeaf Tight u.given ∧ Undisturbed memberTable u ∧
      u.KeepsOthers := by
  obtain ⟨u, hu, hbare⟩ := bare_given_member
  have hquote : '"' ∉ memberTable.className.toList := by decide
  have hgiven : EachLeaf Tight u.given := fun l hl => lenient_tight.bare l (hbare l hl)
  have hnames : ∀ name ∈ memberTable.writtenNames, ∀ o ∈ Operation.all,
      ¬ quoted (o.placeholder memberTable.className).toList <:+ (stringLiteral name).toList := by
    decide
  have hundisturbed : Undisturbed memberTable u := {
    names := fun name hname o => hnames name hname o (Operation.mem_all o)
    given := fun l hl _ => not_infix_of_quote_notMem (hbare l hl) }
  exact ⟨u, hu, hquote, hgiven, hundisturbed,
    ((keepsOthers_iff hu hquote).2 hgiven).mpr hundisturbed⟩

/-- A class whose table has the name of a placeholder. -/
def traced : Declaration :=
  { keyed "User" with
    annotations := [{ name := "table", positional := [.text "__SQL_INSERT_User__"] }] }

/-- The table of that class. -/
def tracedTable : Table := { keyedTable "User" with name := "__SQL_INSERT_User__" }

set_option maxRecDepth 100000 in
/-- The trace events of a table with the name of a placeholder lose it. -/
theorem not_keepsOthers_traced : extract plainResolver traced = .ok tracedTable ∧
    ∃ u, ofTable tracedTable "pub" (code ":: table_context") = .ok u ∧ ¬ u.KeepsOthers := by
  have hextract : extract plainResolver traced = .ok tracedTable := by decide +kernel
  obtain ⟨u, hu⟩ : ∃ u, ofTable tracedTable "pub" (code ":: table_context") = .ok u :=
    exists_of_isOk (by decide)
  have hquote : '"' ∉ tracedTable.className.toList := by decide
  have hname : quoted (Operation.insert.placeholder tracedTable.className).toList <:+
      (stringLiteral tracedTable.name).toList := by
    decide
  refine ⟨hextract, u, hu, fun hk => ?_⟩
  exact (undisturbed_of_keepsOthers hu hquote hk).names tracedTable.name List.mem_cons_self
    .insert hname

end Traced

end Rowsmith.GeneratedUnit
