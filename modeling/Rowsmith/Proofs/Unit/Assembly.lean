import Mathlib.Data.List.Lattice
import Mathlib.Data.List.Pairwise
import Rowsmith.Derive.Class
import Rowsmith.Proofs.Accessor.Bridge
import Rowsmith.Proofs.Accessor.Method

/-!
# Tables that have a unit

The unit of a table is assembled in stages. The methods look at the names of properties, at the
type of the key and at the types that columns hold as they are; the bridges look at the types they
go between and at their own names. Together they look at every text that the source takes over, so
these texts alone decide whether there is a unit.
-/

namespace Rowsmith.Source
open Outcome

/-- A text that is the whole of a phrase. -/
def Phrase.Accepts {α : Type} (phrase : Phrase α) (text : String) : Prop :=
  Succeeds (Phrase.ofText phrase text)

instance {α : Type} (phrase : Phrase α) (text : String) : Decidable (Phrase.Accepts phrase text) :=
  inferInstanceAs (Decidable (Succeeds (Phrase.ofText phrase text)))

end Rowsmith.Source

namespace Rowsmith.Schema

/-- The names of the methods that take values of a column to it and back. -/
def Column.bridgeMethods (c : Column) : List String := [c.bridgeTo, c.bridgeFrom]

/-- Bridged columns of one type share their methods. -/
theorem bridgeMethods_eq {b c : Column} (hb : b.Coherent) (hc : c.Coherent)
    (hbridged : b.needsBridge = true ∧ c.needsBridge = true) (htype : b.baseType = c.baseType) :
    b.bridgeMethods = c.bridgeMethods := by
  have hhost : b.columnType.hostType = c.columnType.hostType := by
    rw [hb.hostType hbridged.1, hc.hostType hbridged.2]
  have hnames := bridgeNames_eq htype hhost
  rw [Column.bridgeMethods, Column.bridgeMethods, Column.bridgeTo, Column.bridgeTo,
    Column.bridgeFrom, Column.bridgeFrom, hnames]

namespace Table

/-- The first columns of types have types of their own. -/
theorem pairwise_firstOfEachType (seen : List String) (columns : List Column) :
    (firstOfEachType seen columns).Pairwise fun b c => b.baseType ≠ c.baseType := by
  induction columns generalizing seen with
  | nil => exact List.Pairwise.nil
  | cons c columns ih =>
      rw [firstOfEachType]
      split
      · exact ih seen
      · refine List.pairwise_cons.mpr ⟨fun b hb heq => ?_, ih _⟩
        have hmem := List.mem_map_of_mem (f := Column.baseType) hb
        rw [firstOfEachType_baseTypes, List.mem_eraseDups, List.mem_filter] at hmem
        simp [heq] at hmem

variable {t : Table}

/-- What the type of a bridged column decides holds of all of them if it holds of the first columns
of types. -/
theorem forall_bridgedColumns_iff {P : Column → Prop}
    (hP : ∀ b ∈ t.columns, ∀ c ∈ t.columns, b.needsBridge = true ∧ c.needsBridge = true →
      b.baseType = c.baseType → P b → P c) :
    (∀ c ∈ t.bridgedColumns, P c) ↔ ∀ c ∈ t.columns, c.needsBridge = true → P c := by
  constructor
  · intro h c hc hb
    obtain ⟨first, hfirst, htype⟩ := exists_bridgedColumn hc hb
    obtain ⟨hmem, hbridged⟩ := mem_columns_of_mem_bridgedColumns hfirst
    exact hP first hmem c hc ⟨hbridged, hb⟩ htype (h first hfirst)
  · intro h c hc
    obtain ⟨hmem, hb⟩ := mem_columns_of_mem_bridgedColumns hc
    exact h c hmem hb

/-- No two methods of bridges share a name if the two of each column differ and columns of
different types share none. -/
theorem nodup_bridgeMethods_iff (hcoherent : ∀ c ∈ t.columns, c.Coherent) :
    (t.bridgedColumns.flatMap Column.bridgeMethods).Nodup ↔
      (∀ c ∈ t.columns, c.needsBridge = true → c.bridgeTo ≠ c.bridgeFrom) ∧
      ∀ b ∈ t.columns, ∀ c ∈ t.columns, b.needsBridge = true ∧ c.needsBridge = true →
        b.baseType ≠ c.baseType → ∀ name ∈ b.bridgeMethods, name ∉ c.bridgeMethods := by
  have hmethods : ∀ b ∈ t.columns, ∀ c ∈ t.columns, b.needsBridge = true ∧ c.needsBridge = true →
      b.baseType = c.baseType → b.bridgeMethods = c.bridgeMethods := fun b hb c hc =>
    bridgeMethods_eq (hcoherent b hb) (hcoherent c hc)
  have hown : (∀ c ∈ t.bridgedColumns, c.bridgeMethods.Nodup) ↔
      ∀ c ∈ t.columns, c.needsBridge = true → c.bridgeTo ≠ c.bridgeFrom := by
    rw [forall_bridgedColumns_iff fun b hb c hc hbridged htype h =>
      hmethods b hb c hc hbridged htype ▸ h]
    simp [Column.bridgeMethods]
  rw [List.nodup_flatMap, hown]
  refine and_congr_right fun _ => ?_
  constructor
  · intro h b hb c hc hbridged htype name hname
    -- The types are those of two first columns, which have the same methods as these two.
    obtain ⟨first, hfirst, htype₁⟩ := exists_bridgedColumn hb hbridged.1
    obtain ⟨second, hsecond, htype₂⟩ := exists_bridgedColumn hc hbridged.2
    obtain ⟨hmem₁, hbridged₁⟩ := mem_columns_of_mem_bridgedColumns hfirst
    obtain ⟨hmem₂, hbridged₂⟩ := mem_columns_of_mem_bridgedColumns hsecond
    have hne : first ≠ second := by
      rintro rfl
      exact htype (htype₁.symm.trans htype₂)
    rw [← hmethods first hmem₁ b hb ⟨hbridged₁, hbridged.1⟩ htype₁] at hname
    rw [← hmethods second hmem₂ c hc ⟨hbridged₂, hbridged.2⟩ htype₂]
    have hsymm : Std.Symm (Function.onFun List.Disjoint Column.bridgeMethods) :=
      ⟨fun _ _ h => List.Disjoint.symm h⟩
    exact fun hname' => h.forall hfirst hsecond hne hname hname'
  · intro h
    refine (pairwise_firstOfEachType [] _).imp_of_mem fun {b c} hb hc htype => ?_
    obtain ⟨hmemb, hbridgedb⟩ := mem_columns_of_mem_bridgedColumns hb
    obtain ⟨hmemc, hbridgedc⟩ := mem_columns_of_mem_bridgedColumns hc
    exact fun name hname => h b hmemb c hmemc ⟨hbridgedb, hbridgedc⟩ htype name hname

end Table

end Rowsmith.Schema

namespace Rowsmith.Accessor
open Outcome Schema Source Sql Derive

section Stages

variable {className text name : String} {c : Column} {t : Table}

theorem succeeds_identifierOf_iff :
    Succeeds (identifierOf className text) ↔ Phrase.Accepts Phrase.identifier text := by
  unfold identifierOf Phrase.Accepts
  cases Phrase.ofText Phrase.identifier text <;> simp

theorem succeeds_typeOf_iff :
    Succeeds (typeOf className text) ↔ Phrase.Accepts Phrase.wholeType text := by
  unfold typeOf Phrase.Accepts
  cases Phrase.ofText Phrase.wholeType text <;> simp

theorem succeeds_visibilityOf_iff :
    Succeeds (visibilityOf className text) ↔ Phrase.Accepts Phrase.visibility text := by
  unfold visibilityOf Phrase.Accepts
  cases Phrase.ofText Phrase.visibility text <;> simp

theorem succeeds_methodOf_iff : Succeeds (methodOf name) ↔ isMethodName name = true := by
  simp [Succeeds, methodOf_eq_ok_iff]

theorem succeeds_contextOf_iff {runtime : List Token} :
    Succeeds (contextOf t runtime) ↔ Phrase.Accepts Phrase.identifier t.className := by
  rw [contextOf, succeeds_bind_pure_iff, succeeds_identifierOf_iff]

/-- The host type of texts is always found in the library at its own path. -/
theorem succeeds_hostTypeOf {type : ColumnType} (h : type.hostType = "String") :
    Succeeds (hostTypeOf className defaultRuntime type) := by
  have hread : Phrase.Accepts Phrase.wholeType (String.ofList (qualifyFrom
      (Token.textAll defaultRuntime ++ "::types::").toList [] "String".toList)) := by
    decide +kernel
  obtain ⟨tokens, htokens⟩ := hread
  rw [hostTypeOf, h]
  exact ⟨tokens, by simp only [htokens]⟩

theorem succeeds_bindingOf_iff (hc : c.Coherent) :
    Succeeds (bindingOf c) ↔ (c.needsBridge = true → isMethodName c.bridgeTo = true) := by
  simp only [Succeeds, bindingOf_eq_ok_iff, exists_eq_left]
  exact ⟨fun h hb => h (hc.isEnum_of_needsBridge hb) hb, fun h _ hb => h hb⟩

/-- A column is read through its bridge or else into its type. -/
theorem succeeds_readingForm_iff (hc : c.Coherent) :
    Succeeds (readingForm className c) ↔
      if c.needsBridge then isMethodName c.bridgeFrom = true
      else Phrase.Accepts Phrase.wholeType c.baseType := by
  cases hb : c.needsBridge with
  | true =>
      have he := hc.isEnum_of_needsBridge hb
      simp only [readingForm, he, hb, if_true, if_false, Bool.false_eq_true,
        succeeds_bind_pure_iff, succeeds_methodOf_iff]
  | false =>
      cases he : c.isEnum <;>
        simp only [readingForm, he, hb, if_true, if_false, Bool.false_eq_true,
          succeeds_bind_pure_iff, succeeds_typeOf_iff]

theorem succeeds_readingsFrom_iff {columns : List Column} (hcoherent : ∀ c ∈ columns, c.Coherent)
    (ordinal : Nat) : Succeeds (readingsFrom className ordinal columns) ↔
      ∀ c ∈ columns, Phrase.Accepts Phrase.identifier c.propertyName ∧
        if c.needsBridge then isMethodName c.bridgeFrom = true
        else Phrase.Accepts Phrase.wholeType c.baseType := by
  induction columns generalizing ordinal with
  | nil => simp [readingsFrom]
  | cons c columns ih =>
      obtain ⟨hc, hrest⟩ := List.forall_mem_cons.mp hcoherent
      have hreading : Succeeds (readingOf className ordinal c) ↔
          Phrase.Accepts Phrase.identifier c.propertyName ∧
            if c.needsBridge then isMethodName c.bridgeFrom = true
            else Phrase.Accepts Phrase.wholeType c.baseType := by
        rw [readingOf, succeeds_bind_iff_and fun _ _ => succeeds_bind_pure_iff,
          succeeds_identifierOf_iff, succeeds_readingForm_iff hc]
      rw [readingsFrom, succeeds_bind_iff_and fun _ _ => succeeds_bind_pure_iff, hreading,
        ih hrest, List.forall_mem_cons]

theorem succeeds_rowBindings_iff (hcoherent : ∀ c ∈ t.columns, c.Coherent) :
    Succeeds (rowBindings t) ↔ ∀ c ∈ t.columns,
      Phrase.Accepts Phrase.identifier c.propertyName ∧
        (c.needsBridge = true → isMethodName c.bridgeTo = true) := by
  rw [rowBindings, succeeds_mapM_iff]
  refine forall₂_congr fun c hc => ?_
  rw [succeeds_bind_iff_and fun _ _ => succeeds_bind_pure_iff, succeeds_identifierOf_iff,
    succeeds_bindingOf_iff (hcoherent c hc)]

/-- The methods of a table are made if the row and the key can be bound, the row can be read, and
the key has a type. -/
theorem succeeds_methods_iff : Succeeds (methods t) ↔ Succeeds (rowBindings t) ∧
    Phrase.Accepts Phrase.wholeType t.key.propertyType ∧ Succeeds (keyBinding t) ∧
      Succeeds (rowReadings t) := by
  have hwrite : ∀ operation, Succeeds (writeMethod t operation) ↔ Succeeds (rowBindings t) :=
    fun operation => by rw [writeMethod, succeeds_bind_pure_iff]
  have hdelete : Succeeds (deleteMethod t) ↔
      Phrase.Accepts Phrase.wholeType t.key.propertyType ∧ Succeeds (keyBinding t) := by
    rw [deleteMethod, succeeds_bind_iff_and fun _ _ => succeeds_bind_pure_iff, succeeds_typeOf_iff]
  have hfind : Succeeds (findMethod t) ↔ Phrase.Accepts Phrase.wholeType t.key.propertyType ∧
      Succeeds (keyBinding t) ∧ Succeeds (rowReadings t) := by
    rw [findMethod, succeeds_bind_iff_and fun _ _ => succeeds_bind_iff_and fun _ _ =>
      succeeds_bind_pure_iff, succeeds_typeOf_iff]
  rw [methods, succeeds_bind_iff_and fun _ _ => succeeds_bind_iff_and fun _ _ =>
    succeeds_bind_iff_and fun _ _ => succeeds_bind_iff_and fun _ _ => succeeds_bind_pure_iff,
    hwrite, hwrite, hwrite, hdelete, hfind]
  tauto

end Stages

section Bridges

variable {className : String} {standing : List (String × String)} {t : Table} {c : Column}

theorem claimsOf_eq_ok_iff {claims : List (String × String)} :
    claimsOf c = .ok claims ↔ (∀ name ∈ c.bridgeMethods, isMethodName name = true) ∧
      claims = c.bridgeMethods.map fun name => (name, c.baseType) := by
  simp only [claimsOf, bind_eq_ok_iff, methodOf_eq_ok_iff, pure_eq_ok_iff, Column.bridgeMethods,
    List.forall_mem_cons, List.map_cons, List.map_nil]
  constructor
  · rintro ⟨_, ⟨rfl, hto⟩, _, ⟨rfl, hfrom⟩, rfl⟩
    exact ⟨⟨hto, hfrom, by simp⟩, rfl⟩
  · rintro ⟨⟨hto, hfrom, -⟩, rfl⟩
    exact ⟨_, ⟨rfl, hto⟩, _, ⟨rfl, hfrom⟩, rfl⟩

/-- Claims stand beside each other if no name is claimed twice. -/
theorem succeeds_addClaims_iff {claims : List (String × String)}
    (hstanding : (standing.map Prod.fst).Nodup) :
    Succeeds (addClaims className standing claims) ↔
      ((standing ++ claims).map Prod.fst).Nodup := by
  constructor
  · rintro ⟨after, h⟩
    obtain ⟨rfl, hnodup⟩ := of_addClaims h
    exact hnodup hstanding
  · intro h
    induction claims generalizing standing with
    | nil => simp [addClaims]
    | cons claim claims ih =>
        obtain ⟨name, type⟩ := claim
        -- The claim goes over to those that stand, so that the others are claimed beside it.
        have hassoc : standing ++ (name, type) :: claims =
            (standing ++ [(name, type)]) ++ claims := by simp
        rw [hassoc] at h
        have hnext : ((standing ++ [(name, type)]).map Prod.fst).Nodup := by
          rw [List.map_append] at h
          exact h.of_append_left
        have hlookup : standing.lookup name = none := (nodup_claim_iff.mp hnext).2
        simp only [addClaims, hlookup]
        exact ih hnext h

/-- Columns claim the names of their methods if these are names and no two of them are the same. -/
theorem succeeds_claimNames_iff {columns : List Column}
    (hstanding : (standing.map Prod.fst).Nodup) :
    Succeeds (claimNames className standing columns) ↔
      (∀ c ∈ columns, ∀ name ∈ c.bridgeMethods, isMethodName name = true) ∧
        (standing.map Prod.fst ++ columns.flatMap Column.bridgeMethods).Nodup := by
  induction columns generalizing standing with
  | nil => simpa [claimNames] using hstanding
  | cons c columns ih =>
      have hadded : (standing ++ c.bridgeMethods.map fun name => (name, c.baseType)).map Prod.fst =
          standing.map Prod.fst ++ c.bridgeMethods := by
        simp [List.map_map, Function.comp_def]
      simp only [claimNames, succeeds_bind_iff, claimsOf_eq_ok_iff, List.forall_mem_cons,
        List.flatMap_cons, ← List.append_assoc]
      constructor
      · rintro ⟨_, ⟨hnames, rfl⟩, after, hafter, hrest⟩
        obtain ⟨rfl, hnodup⟩ := of_addClaims hafter
        obtain ⟨hall, happend⟩ := (ih (hnodup hstanding)).mp hrest
        rw [hadded] at happend
        exact ⟨⟨hnames, hall⟩, happend⟩
      · rintro ⟨⟨hnames, hall⟩, happend⟩
        rw [← hadded] at happend
        obtain ⟨after, hafter⟩ : Succeeds (addClaims className standing
            (c.bridgeMethods.map fun name => (name, c.baseType))) :=
          (succeeds_addClaims_iff hstanding).mpr happend.of_append_left
        obtain ⟨rfl, hnodup⟩ := of_addClaims hafter
        exact ⟨_, ⟨hnames, rfl⟩, _, hafter, (ih (hnodup hstanding)).mpr ⟨hall, happend⟩⟩

theorem succeeds_bridgeOf_iff (hhost : c.columnType.hostType = "String") :
    Succeeds (bridgeOf className defaultRuntime c) ↔
      (∀ name ∈ c.bridgeMethods, isMethodName name = true) ∧
        Phrase.Accepts Phrase.wholeType c.baseType := by
  rw [bridgeOf, succeeds_bind_iff_and fun _ _ => succeeds_bind_iff_and fun _ _ =>
    succeeds_bind_iff_and fun _ _ => succeeds_bind_pure_iff, succeeds_methodOf_iff,
    succeeds_methodOf_iff, succeeds_typeOf_iff, iff_true_intro (succeeds_hostTypeOf hhost)]
  simp [Column.bridgeMethods, and_assoc]

/-- The bridges of a table are made if their methods have names of their own and their types are
types. -/
theorem succeeds_bridges_iff (hcoherent : ∀ c ∈ t.columns, c.Coherent) :
    Succeeds (bridges t defaultRuntime) ↔
      (∀ c ∈ t.columns, c.needsBridge = true →
        (∀ name ∈ c.bridgeMethods, isMethodName name = true) ∧
          Phrase.Accepts Phrase.wholeType c.baseType) ∧
      (t.bridgedColumns.flatMap Column.bridgeMethods).Nodup := by
  have hbridgeOf : ∀ c ∈ t.bridgedColumns, Succeeds (bridgeOf t.className defaultRuntime c) ↔
      (∀ name ∈ c.bridgeMethods, isMethodName name = true) ∧
        Phrase.Accepts Phrase.wholeType c.baseType := by
    intro c hc
    obtain ⟨hmem, hbridged⟩ := Table.mem_columns_of_mem_bridgedColumns hc
    exact succeeds_bridgeOf_iff ((hcoherent c hmem).hostType hbridged)
  have hsame : ∀ b ∈ t.columns, ∀ c ∈ t.columns, b.needsBridge = true ∧ c.needsBridge = true →
      b.baseType = c.baseType →
      ((∀ name ∈ b.bridgeMethods, isMethodName name = true) ∧
        Phrase.Accepts Phrase.wholeType b.baseType) →
      (∀ name ∈ c.bridgeMethods, isMethodName name = true) ∧
        Phrase.Accepts Phrase.wholeType c.baseType := by
    intro b hb c hc hbridged htype h
    rwa [bridgeMethods_eq (hcoherent b hb) (hcoherent c hc) hbridged htype, htype] at h
  rw [bridges, succeeds_bind_iff_and fun _ _ => succeeds_mapM_iff,
    succeeds_claimNames_iff (by simp), forall₂_congr hbridgeOf,
    ← Table.forall_bridgedColumns_iff hsame]
  simp only [List.map_nil, List.nil_append]
  exact ⟨fun h => ⟨h.2, h.1.2⟩, fun h => ⟨⟨fun c hc => (h.1 c hc).1, h.2⟩, h.1⟩⟩

end Bridges

end Rowsmith.Accessor

namespace Rowsmith
open Accessor Derive Outcome Schema Source Sql

/-- A table whose texts a unit can be assembled from, with a visibility. -/
structure Schema.Table.Assembles (t : Table) (visibility : String) : Prop where
  className : Phrase.Accepts Phrase.identifier t.className
  properties : ∀ c ∈ t.columns, Phrase.Accepts Phrase.identifier c.propertyName
  /-- The type of the key with its nullable marker. -/
  key : Phrase.Accepts Phrase.wholeType t.key.propertyType
  types : ∀ c ∈ t.columns, Phrase.Accepts Phrase.wholeType c.baseType
  bridges : ∀ c ∈ t.columns, c.needsBridge = true →
    ∀ name ∈ c.bridgeMethods, isMethodName name = true
  /-- The two bridges of a type differ. -/
  directions : ∀ c ∈ t.columns, c.needsBridge = true → c.bridgeTo ≠ c.bridgeFrom
  /-- Different types share no bridge. -/
  apart : ∀ b ∈ t.columns, ∀ c ∈ t.columns, b.needsBridge = true ∧ c.needsBridge = true →
    b.baseType ≠ c.baseType → ∀ name ∈ b.bridgeMethods, name ∉ c.bridgeMethods
  visibility : Phrase.Accepts Phrase.visibility visibility

namespace GeneratedUnit

variable {t : Table} {visibility : String}

theorem succeeds_ofTable_iff (hcoherent : ∀ c ∈ t.columns, c.Coherent) (hkey : t.key ∈ t.columns) :
    Succeeds (ofTable t visibility defaultRuntime) ↔ t.Assembles visibility := by
  rw [ofTable, succeeds_bind_iff_and fun _ _ => succeeds_bind_iff_and fun _ _ =>
    succeeds_bind_iff_and fun _ _ => succeeds_bind_pure_iff, succeeds_contextOf_iff,
    succeeds_methods_iff, succeeds_visibilityOf_iff, succeeds_bridges_iff hcoherent,
    Table.nodup_bridgeMethods_iff hcoherent, succeeds_rowBindings_iff hcoherent, keyBinding,
    succeeds_bindingOf_iff (hcoherent _ hkey), rowReadings, succeeds_readingsFrom_iff hcoherent]
  constructor
  · rintro ⟨hclass, ⟨hbindings, htype, -, hreadings⟩, ⟨hbridges, hown, hapart⟩, hvisibility⟩
    refine ⟨hclass, fun c hc => (hbindings c hc).1, htype, fun c hc => ?_,
      fun c hc hb => (hbridges c hc hb).1, hown, hapart, hvisibility⟩
    -- The readings look at the types of the columns that have no bridge, the bridges at the others.
    cases hb : c.needsBridge with
    | true => exact (hbridges c hc hb).2
    | false => simpa [hb] using (hreadings c hc).2
  · intro h
    have hto : ∀ c ∈ t.columns, c.needsBridge = true → isMethodName c.bridgeTo = true :=
      fun c hc hb => h.bridges c hc hb _ (by simp [Column.bridgeMethods])
    have hfrom : ∀ c ∈ t.columns, c.needsBridge = true → isMethodName c.bridgeFrom = true :=
      fun c hc hb => h.bridges c hc hb _ (by simp [Column.bridgeMethods])
    refine ⟨h.className, ⟨fun c hc => ⟨h.properties c hc, hto c hc⟩, h.key, hto _ hkey,
      fun c hc => ⟨h.properties c hc, ?_⟩⟩,
      ⟨fun c hc hb => ⟨h.bridges c hc hb, h.types c hc⟩, h.directions, h.apart⟩, h.visibility⟩
    split
    · next hb => exact hfrom c hc hb
    · exact h.types c hc

/-- An extracted table has a unit exactly when its class and properties have names, its types are
types, its bridges have names of their own and the visibility is one. The unit then holds the seven
statements of the table in order. -/
theorem exists_ofTable_iff {resolver : Resolver} {d : Declaration}
    (ht : extract resolver d = .ok t) (visibility : String) :
    (Succeeds (ofTable t visibility defaultRuntime) ↔ t.Assembles visibility) ∧
      ∀ u, ofTable t visibility defaultRuntime = .ok u →
        u.methods.map (fun m => (m.operation, m.placeholder, m.sql)) =
          Operation.all.map fun o => (o, o.placeholder t.className, (t.statement o).text) := by
  refine ⟨succeeds_ofTable_iff (fun c hc => coherent_of_extract ht hc) (key_mem_of_extract ht),
    fun u hu => ?_⟩
  obtain ⟨hoperations, hserves⟩ := methods_serve (methods_of_ofTable hu).1
  rw [← hoperations, List.map_map]
  refine List.map_congr_left fun m hm => ?_
  have hm := hserves m hm
  simp only [Function.comp_apply, hm.placeholder, Method.sql, hm.statement]

set_option maxRecDepth 100000 in
/-- The table of members has a unit that is public, and none with a visibility that is no such
thing. -/
theorem exists_ofTable_member :
    memberTable.Assembles "pub" ∧ ¬ Succeeds (ofTable memberTable "public" defaultRuntime) ∧
      ∃ u, ofTable memberTable "pub" defaultRuntime = .ok u ∧
        u.methods.map (fun m => (m.operation, m.placeholder, m.sql)) =
          Operation.all.map fun o =>
            (o, o.placeholder memberTable.className, (memberTable.statement o).text) := by
  obtain ⟨u, hu⟩ := exists_unit_member
  obtain ⟨hiff, hmethods⟩ := exists_ofTable_iff extract_member "pub"
  refine ⟨hiff.mp ⟨u, hu⟩, ?_, u, hu, hmethods u hu⟩
  rw [(exists_ofTable_iff extract_member "public").1]
  intro h
  exact absurd h.visibility (by decide +kernel)

end GeneratedUnit

end Rowsmith
