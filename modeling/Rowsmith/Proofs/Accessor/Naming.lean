import Rowsmith.Proofs.Accessor.Method
import Rowsmith.Proofs.Schema.BridgeName

/-!
# Where generation ends for good

A method that is to be named by a text which is no identifier ends the generation for good. The
first stage that names bridges is the binding of a row, column by column; where it passes, no
later stage ends this way.
-/

namespace Rowsmith.Accessor
open Outcome Schema Source Sql

/-- A computation that yields a result or reports an error. -/
def Orderly {α : Type} (x : Make α) : Prop := ∀ name, x ≠ .error (.unnameable name)

section Orderly

variable {α β : Type}

theorem orderly_ok (a : α) : Orderly (.ok a) := nofun

theorem orderly_pure (a : α) : Orderly (pure a) := nofun

theorem orderly_error (e : GenerationError) : Orderly (.error (.error e) : Make α) := nofun

theorem orderly_bind {x : Make α} {f : α → Make β} (hx : Orderly x)
    (hf : ∀ a, x = .ok a → Orderly (f a)) : Orderly (x >>= f) := by
  intro name h
  rcases bind_eq_error_iff.mp h with h | ⟨a, ha, h⟩
  · exact hx name h
  · exact hf a ha name h

theorem orderly_mapM {f : α → Make β} {xs : List α} (h : ∀ x ∈ xs, Orderly (f x)) :
    Orderly (xs.mapM f) := by
  intro name hstop
  obtain ⟨i, x, hx, hfault, -⟩ := mapM_eq_error_iff.mp hstop
  exact h x (List.mem_of_getElem? hx) name hfault

theorem orderly_identifierOf (className text : String) : Orderly (identifierOf className text) := by
  unfold identifierOf
  split
  · exact orderly_ok _
  · exact orderly_error _

theorem orderly_typeOf (className text : String) : Orderly (typeOf className text) := by
  unfold typeOf
  split
  · exact orderly_ok _
  · exact orderly_error _

theorem orderly_visibilityOf (className text : String) :
    Orderly (visibilityOf className text) := by
  unfold visibilityOf
  split
  · exact orderly_ok _
  · exact orderly_error _

theorem orderly_hostTypeOf (className : String) (runtime : List Token) (type : ColumnType) :
    Orderly (hostTypeOf className runtime type) := by
  unfold hostTypeOf
  dsimp only
  split
  · exact orderly_ok _
  · exact orderly_error _

theorem orderly_methodOf {name : String} (h : isMethodName name = true) :
    Orderly (methodOf name) := by
  rw [methodOf, if_pos h]
  exact orderly_ok name

theorem methodOf_eq_unnameable_iff {name method : String} :
    methodOf name = .error (.unnameable method) ↔ method = name ∧ isMethodName name = false := by
  unfold methodOf
  split
  · next h => simp [h]
  · next h => simp [h, eq_comm]

end Orderly

section Columns

variable {c : Column}

/-- The bridges of a column, if it has any, can be named. -/
def Named (c : Column) : Prop :=
  c.needsBridge = true → isNameable (foldType c.propertyType) = true

/-- The binding of a column ends for good exactly where its bridge cannot be named. -/
theorem bindingOf_eq_unnameable_iff (hc : c.Coherent) {name : String} :
    bindingOf c = .error (.unnameable name) ↔ name = c.bridgeTo ∧ ¬ Named c := by
  cases hb : c.needsBridge with
  | false =>
      have hnamed : Named c := fun h => absurd (hb.symm.trans h) Bool.false_ne_true
      have hok : bindingOf c = .ok (bindingFor c) :=
        bindingOf_eq_ok_iff.mpr ⟨rfl, fun _ h => absurd (hb.symm.trans h) Bool.false_ne_true⟩
      simp [hok, hnamed]
  | true =>
      have he := hc.isEnum_of_needsBridge hb
      have hnamed : ¬ Named c ↔ isMethodName c.bridgeTo = false := by
        rw [Named, isMethodName_bridgeTo hc hb, ← Bool.not_eq_true]
        exact not_congr ⟨fun h => h hb, fun h _ => h⟩
      rw [hnamed, ← methodOf_eq_unnameable_iff]
      simp only [bindingOf, he, hb, if_true, if_false, Bool.false_eq_true]
      cases methodOf c.bridgeTo with
      | ok method => simp [bind, Except.bind, Functor.map, Except.map, pure, Except.pure]
      | error stop => simp [bind, Except.bind, Functor.map, Except.map]

/-- The binding of a column is made exactly where its bridge can be named. -/
theorem exists_bindingOf_iff (hc : c.Coherent) : (∃ b, bindingOf c = .ok b) ↔ Named c := by
  constructor
  · rintro ⟨b, hb⟩ hbridge
    rw [← isMethodName_bridgeTo hc hbridge]
    exact (bindingOf_eq_ok_iff.mp hb).2 (hc.isEnum_of_needsBridge hbridge) hbridge
  · intro h
    exact ⟨bindingFor c, bindingOf_eq_ok_iff.mpr
      ⟨rfl, fun _ hb => (isMethodName_bridgeTo hc hb).trans (h hb)⟩⟩

theorem orderly_bindingOf (hc : c.Coherent) (h : Named c) : Orderly (bindingOf c) := by
  obtain ⟨b, hb⟩ := (exists_bindingOf_iff hc).mpr h
  rw [hb]
  exact orderly_ok b

theorem orderly_readingOf (className : String) (ordinal : Nat) (hc : c.Coherent) (h : Named c) :
    Orderly (readingOf className ordinal c) := by
  refine orderly_bind (orderly_identifierOf _ _) fun _ _ => orderly_bind ?_ fun _ _ =>
    orderly_pure _
  unfold readingForm
  split
  · exact orderly_bind (orderly_typeOf _ _) fun _ _ => orderly_pure _
  · split
    · next hb =>
        exact orderly_bind (orderly_methodOf (isMethodName_bridgeFrom hc hb (h hb)))
          fun _ _ => orderly_pure _
    · exact orderly_bind (orderly_typeOf _ _) fun _ _ => orderly_pure _

theorem orderly_bridgeOf (className : String) (runtime : List Token) (hc : c.Coherent)
    (hb : c.needsBridge = true) (h : Named c) : Orderly (bridgeOf className runtime c) := by
  have hto := (isMethodName_bridgeTo hc hb).trans (h hb)
  have hfrom := isMethodName_bridgeFrom hc hb (h hb)
  exact orderly_bind (orderly_methodOf hto) fun _ _ => orderly_bind (orderly_methodOf hfrom)
    fun _ _ => orderly_bind (orderly_typeOf _ _) fun _ _ =>
      orderly_bind (orderly_hostTypeOf _ _ _) fun _ _ => orderly_pure _

theorem orderly_addClaims (className : String) (standing claims : List (String × String)) :
    Orderly (addClaims className standing claims) := by
  induction claims generalizing standing with
  | nil => exact orderly_pure standing
  | cons claim claims ih =>
      obtain ⟨name, type⟩ := claim
      rw [addClaims]
      split
      · exact orderly_error _
      · exact ih _

theorem orderly_claimNames (className : String) {columns : List Column}
    (h : ∀ c ∈ columns, c.Coherent ∧ c.needsBridge = true ∧ Named c)
    (standing : List (String × String)) :
    Orderly (claimNames className standing columns) := by
  induction columns generalizing standing with
  | nil => exact orderly_pure standing
  | cons c columns ih =>
      obtain ⟨hc, hb, hnamed⟩ := h c List.mem_cons_self
      have hto := (isMethodName_bridgeTo hc hb).trans (hnamed hb)
      have hfrom := isMethodName_bridgeFrom hc hb (hnamed hb)
      have hclaims : Orderly (claimsOf c) := orderly_bind (orderly_methodOf hto) fun _ _ =>
        orderly_bind (orderly_methodOf hfrom) fun _ _ => orderly_pure _
      exact orderly_bind hclaims fun _ _ => orderly_bind (orderly_addClaims _ _ _) fun _ _ =>
        ih (fun other ho => h other (List.mem_cons_of_mem c ho)) _

end Columns

section Table

variable {t : Table} (hcoherent : ∀ c ∈ t.columns, c.Coherent)
include hcoherent

/-- A table whose bridges cannot all be named: the first that cannot be is that of a column
whose property, like those before it, has an identifier. -/
def Unnameable (t : Table) (name : String) : Prop :=
  ∃ (i : Nat) (c : Column), t.columns[i]? = some c ∧ name = c.bridgeTo ∧ ¬ Named c ∧
    (∃ property, identifierOf t.className c.propertyName = .ok property) ∧
    ∀ j < i, ∀ b, t.columns[j]? = some b → Named b ∧
      ∃ property, identifierOf t.className b.propertyName = .ok property

theorem rowBindings_eq_unnameable_iff {name : String} :
    rowBindings t = .error (.unnameable name) ↔ Unnameable t name := by
  rw [rowBindings, mapM_eq_error_iff, Unnameable]
  refine exists_congr fun i => exists_congr fun c => and_congr_right fun hc => ?_
  have hstop : (do return (← identifierOf t.className c.propertyName, ← bindingOf c) : Make _) =
      .error (.unnameable name) ↔ (name = c.bridgeTo ∧ ¬ Named c) ∧
        ∃ property, identifierOf t.className c.propertyName = .ok property := by
    have hcoherent := hcoherent c (List.mem_of_getElem? hc)
    rw [bind_eq_error_iff, or_iff_right (orderly_identifierOf _ _ name),
      ← bindingOf_eq_unnameable_iff hcoherent]
    constructor
    · rintro ⟨property, hproperty, h⟩
      rcases bind_eq_error_iff.mp h with h | ⟨b, -, h⟩
      · exact ⟨h, property, hproperty⟩
      · cases h
    · rintro ⟨h, property, hproperty⟩
      exact ⟨property, hproperty, bind_eq_error_iff.mpr (Or.inl h)⟩
  have hgo : ∀ b, b ∈ t.columns → ((∃ p, (do
      return (← identifierOf t.className b.propertyName, ← bindingOf b) : Make _) = .ok p) ↔
        Named b ∧ ∃ property, identifierOf t.className b.propertyName = .ok property) := by
    intro b hb
    rw [← exists_bindingOf_iff (hcoherent b hb)]
    constructor
    · rintro ⟨p, hp⟩
      obtain ⟨property, hproperty, hp⟩ := bind_eq_ok_iff.mp hp
      obtain ⟨binding, hbinding, -⟩ := bind_eq_ok_iff.mp hp
      exact ⟨⟨binding, hbinding⟩, property, hproperty⟩
    · rintro ⟨⟨binding, hbinding⟩, property, hproperty⟩
      exact ⟨(property, binding), by rw [hproperty, hbinding]; rfl⟩
  rw [hstop, and_assoc, and_assoc]
  refine and_congr_right fun _ => and_congr_right fun _ => and_congr_right fun _ => ?_
  exact forall₂_congr fun j _ => forall₂_congr fun b hb => hgo b (List.mem_of_getElem? hb)

/-- Where a row is bound, the bridges of all columns can be named. -/
theorem named_of_rowBindings {bindings : List (String × Binding)}
    (h : rowBindings t = .ok bindings) : ∀ c ∈ t.columns, Named c := by
  intro c hc
  obtain ⟨p, -, hp⟩ := exists_of_mem_left (mapM_eq_ok_iff.mp h) hc
  obtain ⟨_, -, hp⟩ := bind_eq_ok_iff.mp hp
  obtain ⟨b, hb, -⟩ := bind_eq_ok_iff.mp hp
  exact (exists_bindingOf_iff (hcoherent c hc)).mp ⟨b, hb⟩

omit hcoherent in
theorem orderly_readingsFrom (className : String) (ordinal : Nat) {columns : List Column}
    (h : ∀ c ∈ columns, c.Coherent ∧ Named c) :
    Orderly (readingsFrom className ordinal columns) := by
  induction columns generalizing ordinal with
  | nil => exact orderly_pure []
  | cons c columns ih =>
      obtain ⟨hc, hnamed⟩ := h c List.mem_cons_self
      exact orderly_bind (orderly_readingOf className ordinal hc hnamed) fun _ _ =>
        orderly_bind (ih _ fun other ho => h other (List.mem_cons_of_mem c ho))
          fun _ _ => orderly_pure _

theorem orderly_bridges (runtime : List Token) (h : ∀ c ∈ t.columns, Named c) :
    Orderly (bridges t runtime) := by
  have hbridged : ∀ c ∈ t.bridgedColumns, c.Coherent ∧ c.needsBridge = true ∧ Named c := by
    intro c hc
    obtain ⟨hmem, hb⟩ := Table.mem_columns_of_mem_bridgedColumns hc
    exact ⟨hcoherent c hmem, hb, h c hmem⟩
  refine orderly_bind (orderly_claimNames t.className hbridged []) fun _ _ =>
    orderly_mapM fun c hc => ?_
  obtain ⟨hc, hb, hnamed⟩ := hbridged c hc
  exact orderly_bridgeOf t.className runtime hc hb hnamed

/-- The methods of a table end for good exactly where the binding of a row does. -/
theorem methods_eq_unnameable_iff (hkey : t.key ∈ t.columns) {name : String} :
    methods t = .error (.unnameable name) ↔ Unnameable t name := by
  rw [← rowBindings_eq_unnameable_iff hcoherent]
  cases hrow : rowBindings t with
  | error stop =>
      have hmethods : methods t = .error stop := by
        simp only [methods, writeMethod, hrow]
        rfl
      rw [hmethods, Except.error.injEq, Except.error.injEq]
  | ok bindings =>
      have hnamed := named_of_rowBindings hcoherent hrow
      have hbinding : Orderly (keyBinding t) :=
        orderly_bindingOf (hcoherent _ hkey) (hnamed _ hkey)
      have hreadings : Orderly (rowReadings t) :=
        orderly_readingsFrom _ _ fun c hc => ⟨hcoherent c hc, hnamed c hc⟩
      have hwrite : ∀ operation, Orderly (writeMethod t operation) := by
        intro operation
        rw [writeMethod, hrow]
        exact orderly_pure _
      have hdelete : Orderly (deleteMethod t) := orderly_bind (orderly_typeOf _ _) fun _ _ =>
        orderly_bind hbinding fun _ _ => orderly_pure _
      have hfind : Orderly (findMethod t) := orderly_bind (orderly_typeOf _ _) fun _ _ =>
        orderly_bind hbinding fun _ _ => orderly_bind hreadings fun _ _ => orderly_pure _
      have horderly : Orderly (methods t) := orderly_bind (hwrite _) fun _ _ =>
        orderly_bind (hwrite _) fun _ _ => orderly_bind (hwrite _) fun _ _ =>
          orderly_bind hdelete fun _ _ => orderly_bind hfind fun _ _ => orderly_pure _
      exact iff_of_false (horderly name) nofun

/-- The unit of a table ends for good exactly where the binding of a row does, once the class
has an identifier. -/
theorem ofTable_eq_unnameable_iff (hkey : t.key ∈ t.columns) {visibility : String}
    {runtime : List Token} {name : String} :
    GeneratedUnit.ofTable t visibility runtime = .error (.unnameable name) ↔
      (∃ className, identifierOf t.className t.className = .ok className) ∧
        Unnameable t name := by
  have hcontext : Orderly (contextOf t runtime) :=
    orderly_bind (orderly_identifierOf _ _) fun _ _ => orderly_pure _
  rw [GeneratedUnit.ofTable, bind_eq_error_iff, or_iff_right (hcontext name),
    ← methods_eq_unnameable_iff hcoherent hkey]
  constructor
  · rintro ⟨context, hc, h⟩
    obtain ⟨className, hclass, -⟩ := bind_eq_ok_iff.mp hc
    refine ⟨⟨className, hclass⟩, ?_⟩
    rcases bind_eq_error_iff.mp h with h | ⟨ms, hms, h⟩
    · exact h
    · obtain ⟨insert, hinsert, -⟩ := bind_eq_ok_iff.mp hms
      obtain ⟨bindings, hrow, -⟩ := bind_eq_ok_iff.mp hinsert
      have hbridges := orderly_bridges hcoherent runtime (named_of_rowBindings hcoherent hrow)
      have hrest : Orderly (do
          let bridges ← bridges t runtime
          let visibility ← visibilityOf t.className visibility
          return ({ context, visibility, bridges, methods := ms } : GeneratedUnit)) :=
        orderly_bind hbridges fun _ _ => orderly_bind (orderly_visibilityOf _ _) fun _ _ =>
          orderly_pure _
      exact absurd h (hrest name)
  · rintro ⟨⟨className, hclass⟩, h⟩
    refine ⟨{ table := t, runtime, className }, ?_, bind_eq_error_iff.mpr (Or.inl h)⟩
    rw [contextOf, hclass]
    rfl

end Table

end Rowsmith.Accessor
