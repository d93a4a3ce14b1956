import Rowsmith.Proofs.Unit.Assembly

/-!
# Bridges that clash

The bridged columns of a table claim the names of their methods in order, and the first name that
is claimed again is reported with the two types that claim it. Two types may share a bridge, but the
two bridges of one type may also have one name, and then that type is reported twice.
-/

namespace Rowsmith.Schema

/-- The claims of columns on the names of methods, each with the type that makes it. -/
def bridgeClaims (columns : List Column) : List (String × String) :=
  columns.flatMap fun c => c.bridgeMethods.map fun name => (name, c.baseType)

/-- The first name in a list of claims that is claimed again, with the types of both claims. -/
def ClashesFirst (claims : List (String × String)) (name first second : String) : Prop :=
  ∃ before after, claims = before ++ (name, second) :: after ∧
    (before.map Prod.fst).Nodup ∧ (name, first) ∈ before

theorem bridgeClaims_append (before after : List Column) :
    bridgeClaims (before ++ after) = bridgeClaims before ++ bridgeClaims after :=
  List.flatMap_append

theorem bridgeClaims_cons (c : Column) (columns : List Column) :
    bridgeClaims (c :: columns) =
      (c.bridgeTo, c.baseType) :: (c.bridgeFrom, c.baseType) :: bridgeClaims columns := rfl

theorem map_fst_bridgeClaims (columns : List Column) :
    (bridgeClaims columns).map Prod.fst = columns.flatMap Column.bridgeMethods := by
  simp [bridgeClaims, List.map_flatMap, Function.comp_def]

theorem mem_bridgeClaims {columns : List Column} {name type : String} :
    (name, type) ∈ bridgeClaims columns ↔
      ∃ c ∈ columns, name ∈ c.bridgeMethods ∧ c.baseType = type := by
  simp [bridgeClaims]

/-- A claim is made by a column as its first or as its second one. -/
theorem exists_of_bridgeClaims_eq {columns : List Column} {before after : List (String × String)}
    {name type : String} (h : bridgeClaims columns = before ++ (name, type) :: after) :
    ∃ earlier c later, columns = earlier ++ c :: later ∧ c.baseType = type ∧
      name ∈ c.bridgeMethods ∧ (before = bridgeClaims earlier ∨
        before = bridgeClaims earlier ++ [(c.bridgeTo, c.baseType)] ∧ name = c.bridgeFrom) := by
  induction columns generalizing before with
  | nil => simp [bridgeClaims] at h
  | cons c columns ih =>
      rw [bridgeClaims_cons] at h
      match before with
      | [] =>
          obtain ⟨hclaim, -⟩ := List.cons.inj h
          obtain ⟨rfl, rfl⟩ := Prod.mk.inj hclaim
          exact ⟨[], c, columns, rfl, rfl, by simp [Column.bridgeMethods], Or.inl rfl⟩
      | [claim] =>
          obtain ⟨rfl, hrest⟩ := List.cons.inj h
          obtain ⟨hclaim, -⟩ := List.cons.inj hrest
          obtain ⟨rfl, rfl⟩ := Prod.mk.inj hclaim
          exact ⟨[], c, columns, rfl, rfl, by simp [Column.bridgeMethods], Or.inr ⟨rfl, rfl⟩⟩
      | claim :: other :: before =>
          obtain ⟨rfl, hbehind⟩ := List.cons.inj h
          obtain ⟨rfl, hrest⟩ := List.cons.inj hbehind
          obtain ⟨earlier, d, later, rfl, htype, hname, hbefore⟩ := ih hrest
          refine ⟨c :: earlier, d, later, rfl, htype, hname, ?_⟩
          rcases hbefore with rfl | ⟨rfl, hfrom⟩
          · exact Or.inl rfl
          · exact Or.inr ⟨rfl, hfrom⟩

namespace Table

/-- Two types of bridged columns have a bridge of one name. -/
def SharesBridge (t : Table) : Prop :=
  ∃ b ∈ t.columns, ∃ c ∈ t.columns, (b.needsBridge = true ∧ c.needsBridge = true) ∧
    b.baseType ≠ c.baseType ∧ ∃ name ∈ b.bridgeMethods, name ∈ c.bridgeMethods

/-- The first column of a type, at which names are claimed again for the first time, and only by
the two bridges of this type. -/
def ClashesAlone (t : Table) (c : Column) : Prop :=
  ∃ earlier later, t.bridgedColumns = earlier ++ c :: later ∧
    (earlier.flatMap Column.bridgeMethods).Nodup ∧ c.bridgeTo = c.bridgeFrom ∧
      c.bridgeTo ∉ earlier.flatMap Column.bridgeMethods

variable {t : Table}

/-- A column that clashes alone is reported twice, by the names of its two bridges. -/
theorem ClashesAlone.clashesFirst {c : Column} (h : t.ClashesAlone c) :
    ClashesFirst (bridgeClaims t.bridgedColumns) c.bridgeTo c.baseType c.baseType := by
  obtain ⟨earlier, later, hsplit, hnodup, hsame, hnew⟩ := h
  refine ⟨bridgeClaims earlier ++ [(c.bridgeTo, c.baseType)], bridgeClaims later, ?_, ?_, ?_⟩
  · rw [hsplit, bridgeClaims_append, bridgeClaims_cons, ← hsame]
    simp
  · rw [List.map_append, map_fst_bridgeClaims]
    exact List.Nodup.append hnodup (by simp) (by simpa using hnew)
  · simp

/-- A clash is one of two types, where no column clashes alone. -/
theorem exists_two_of_clashesFirst {name first second : String}
    (halone : ∀ c, ¬ t.ClashesAlone c)
    (h : ClashesFirst (bridgeClaims t.bridgedColumns) name first second) :
    ∃ b c, b.baseType = first ∧ c.baseType = second ∧ b.baseType ≠ c.baseType ∧
      [b, c].Sublist t.bridgedColumns ∧ name ∈ b.bridgeMethods ∧ name ∈ c.bridgeMethods := by
  obtain ⟨before, after, heq, hnodup, hfirst⟩ := h
  obtain ⟨earlier, c, later, hsplit, rfl, hname, hbefore⟩ := exists_of_bridgeClaims_eq heq
  have htwo : (name, first) ∈ bridgeClaims earlier →
      ∃ b d, b.baseType = first ∧ d.baseType = c.baseType ∧ b.baseType ≠ d.baseType ∧
        [b, d].Sublist t.bridgedColumns ∧ name ∈ b.bridgeMethods ∧ name ∈ d.bridgeMethods := by
    intro hmem
    obtain ⟨b, hb, hshared, rfl⟩ := mem_bridgeClaims.mp hmem
    have hapart := pairwise_firstOfEachType [] (t.columns.filter (·.needsBridge))
    have hsub : [b, c].Sublist t.bridgedColumns := by
      rw [hsplit]
      exact (List.singleton_sublist.mpr hb).append (List.singleton_sublist.mpr List.mem_cons_self)
    have hne : b.baseType ≠ c.baseType := List.rel_of_pairwise_cons (hapart.sublist hsub)
      (List.mem_singleton_self c)
    exact ⟨b, c, rfl, rfl, hne, hsub, hshared, hname⟩
  rcases hbefore with rfl | ⟨rfl, rfl⟩
  · exact htwo hfirst
  · rcases List.mem_append.mp hfirst with hmem | hown
    · exact htwo hmem
    · -- The column would clash alone: the names before it are all different.
      obtain ⟨hsame, -⟩ := Prod.mk.inj (List.mem_singleton.mp hown)
      rw [List.map_append, map_fst_bridgeClaims, List.nodup_append] at hnodup
      have hnew : c.bridgeTo ∉ earlier.flatMap Column.bridgeMethods :=
        fun hmem => hnodup.2.2 _ hmem c.bridgeTo (by simp) rfl
      exact absurd ⟨earlier, later, hsplit, hnodup.1, hsame.symm, hnew⟩ (halone c)

end Table

end Rowsmith.Schema

namespace Rowsmith.Accessor
open Derive Outcome Schema Source

section Claims

variable {className : String} {standing : List (String × String)} {stop : Stop}

theorem addClaims_append (first second : List (String × String)) :
    addClaims className standing (first ++ second) =
      addClaims className standing first >>= fun next => addClaims className next second := by
  induction first generalizing standing with
  | nil => rfl
  | cons claim first ih =>
      obtain ⟨name, type⟩ := claim
      rw [List.cons_append, addClaims, addClaims]
      cases standing.lookup name with
      | none => exact ih
      | some other => rfl

/-- Columns whose bridges can be named make their claims one after the other. -/
theorem claimNames_eq {columns : List Column}
    (hnames : ∀ c ∈ columns, ∀ name ∈ c.bridgeMethods, isMethodName name = true) :
    claimNames className standing columns =
      addClaims className standing (bridgeClaims columns) := by
  induction columns generalizing standing with
  | nil => rfl
  | cons c columns ih =>
      obtain ⟨hc, hrest⟩ := List.forall_mem_cons.mp hnames
      have hclaims := claimsOf_eq_ok_iff.mpr ⟨hc, rfl⟩
      have hnext : ∀ next, claimNames className next columns =
          addClaims className next (bridgeClaims columns) := fun next => ih hrest
      rw [claimNames, hclaims, ok_bind, bridgeClaims, List.flatMap_cons, addClaims_append]
      simp only [hnext, bridgeClaims]

/-- Claims fail at the first name that is claimed again, by a claim that stands or by one of
them. -/
theorem addClaims_eq_error_iff {claims : List (String × String)}
    (hstanding : (standing.map Prod.fst).Nodup) :
    addClaims className standing claims = .error stop ↔
      ∃ name first second before after, claims = before ++ (name, second) :: after ∧
        ((standing ++ before).map Prod.fst).Nodup ∧ (name, first) ∈ standing ++ before ∧
          stop = .error (.sharedBridge className name first second) := by
  induction claims generalizing standing with
  | nil => simp [addClaims, pure, Except.pure]
  | cons claim claims ih =>
      obtain ⟨name, type⟩ := claim
      rw [addClaims]
      cases hlookup : standing.lookup name with
      | some other =>
          have hmem : (name, other) ∈ standing := mem_of_lookup hlookup
          constructor
          · rintro ⟨⟩
            exact ⟨name, other, type, [], claims, rfl, by simpa using hstanding,
              by simpa using hmem, rfl⟩
          · rintro ⟨again, first, second, before, after, heq, hnodup, hfirst, rfl⟩
            -- A claim that has been passed would be on a name that stands.
            cases before with
            | nil =>
                obtain ⟨hclaim, rfl⟩ := List.cons.inj heq
                obtain ⟨rfl, rfl⟩ := Prod.mk.inj hclaim
                rw [List.append_nil] at hfirst
                have hclaims := List.inj_on_of_nodup_map hstanding hmem hfirst rfl
                rw [(Prod.mk.inj hclaims).2]
            | cons passed before =>
                obtain ⟨rfl, -⟩ := List.cons.inj heq
                rw [List.map_append, List.nodup_append] at hnodup
                exact absurd rfl (hnodup.2.2 _ (List.mem_map_of_mem hmem) name (by simp))
      | none =>
          have hnew : name ∉ standing.map Prod.fst := lookup_eq_none_iff_notMem.mp hlookup
          refine (ih (nodup_claim_iff.mpr ⟨hstanding, hlookup⟩)).trans ?_
          simp only [List.append_assoc, List.singleton_append]
          constructor
          · rintro ⟨again, first, second, before, after, rfl, hnodup, hfirst, rfl⟩
            exact ⟨again, first, second, (name, type) :: before, after, rfl, hnodup, hfirst, rfl⟩
          · rintro ⟨again, first, second, before, after, heq, hnodup, hfirst, rfl⟩
            cases before with
            | nil =>
                obtain ⟨hclaim, -⟩ := List.cons.inj heq
                obtain ⟨rfl, rfl⟩ := Prod.mk.inj hclaim
                rw [List.append_nil] at hfirst
                exact absurd (List.mem_map_of_mem (f := Prod.fst) hfirst) hnew
            | cons passed before =>
                obtain ⟨rfl, rfl⟩ := List.cons.inj heq
                exact ⟨again, first, second, before, after, rfl, hnodup, hfirst, rfl⟩

end Claims

/-- Bridges that can be named and go between types. -/
structure BridgesRead (t : Table) : Prop where
  names : ∀ c ∈ t.columns, c.needsBridge = true → ∀ name ∈ c.bridgeMethods, isMethodName name = true
  types : ∀ c ∈ t.columns, c.needsBridge = true → Phrase.Accepts Phrase.wholeType c.baseType

/-- Whether the bridges of a table fail only by a name that two of its types share, and then report
these, the type whose column comes first before the other. -/
structure ReportsTwo (t : Table) : Prop where
  fails_iff : ¬ Succeeds (bridges t defaultRuntime) ↔ t.SharesBridge
  reports : ∀ stop, bridges t defaultRuntime = .error stop → ∃ name b c,
    stop = .error (.sharedBridge t.className name b.baseType c.baseType) ∧
      b.baseType ≠ c.baseType ∧ [b, c].Sublist t.bridgedColumns ∧
        name ∈ b.bridgeMethods ∧ name ∈ c.bridgeMethods

variable {resolver : Resolver} {d : Declaration} {t : Table}

section Extracted

variable (ht : extract resolver d = .ok t) (hread : BridgesRead t)

include ht hread

/-- Where bridges can be named and go between types, they fail exactly at the first name that is
claimed again. -/
theorem bridges_eq_error_iff {stop : Stop} :
    bridges t defaultRuntime = .error stop ↔ ∃ name first second,
      ClashesFirst (bridgeClaims t.bridgedColumns) name first second ∧
        stop = .error (.sharedBridge t.className name first second) := by
  have hmethods : ∀ c ∈ t.bridgedColumns, ∀ name ∈ c.bridgeMethods, isMethodName name = true := by
    intro c hc
    obtain ⟨hmem, hbridged⟩ := Table.mem_columns_of_mem_bridgedColumns hc
    exact hread.names c hmem hbridged
  have hmade : Succeeds (t.bridgedColumns.mapM (bridgeOf t.className defaultRuntime)) := by
    refine succeeds_mapM_iff.mpr fun c hc => ?_
    obtain ⟨hmem, hbridged⟩ := Table.mem_columns_of_mem_bridgedColumns hc
    have hhost := (coherent_of_extract ht hmem).hostType hbridged
    exact (succeeds_bridgeOf_iff hhost).mpr ⟨hmethods c hc, hread.types c hmem hbridged⟩
  obtain ⟨made, hmade⟩ := hmade
  rw [bridges, claimNames_eq hmethods, bind_eq_error_iff, hmade]
  simp only [reduceCtorEq, and_false, exists_false, or_false]
  rw [addClaims_eq_error_iff (by simp)]
  simp only [List.nil_append, ClashesFirst]
  constructor
  · rintro ⟨name, first, second, before, after, heq, hnodup, hfirst, rfl⟩
    exact ⟨name, first, second, ⟨before, after, heq, hnodup, hfirst⟩, rfl⟩
  · rintro ⟨name, first, second, ⟨before, after, heq, hnodup, hfirst⟩, rfl⟩
    exact ⟨name, first, second, before, after, heq, hnodup, hfirst, rfl⟩

/-- Bridges fail if the two of one type have one name, or if two types share a bridge. -/
theorem not_succeeds_bridges_iff : ¬ Succeeds (bridges t defaultRuntime) ↔
    (∃ c ∈ t.columns, c.needsBridge = true ∧ c.bridgeTo = c.bridgeFrom) ∨ t.SharesBridge := by
  have hcoherent : ∀ c ∈ t.columns, c.Coherent := fun c hc => coherent_of_extract ht hc
  rw [succeeds_bridges_iff hcoherent, Table.nodup_bridgeMethods_iff hcoherent,
    and_iff_right fun c hc hb => ⟨hread.names c hc hb, hread.types c hc hb⟩, not_and_or]
  refine or_congr ?_ ?_
  · push Not
    exact Iff.rfl
  · push Not
    exact Iff.rfl

/-- A type whose two bridges are the first to clash is reported twice. -/
theorem reports_of_clashesAlone {c : Column} (hc : t.ClashesAlone c) :
    bridges t defaultRuntime =
        .error (.error (.sharedBridge t.className c.bridgeTo c.baseType c.baseType)) ∧
      ¬ ReportsTwo t := by
  have herror : bridges t defaultRuntime =
      .error (.error (.sharedBridge t.className c.bridgeTo c.baseType c.baseType)) :=
    (bridges_eq_error_iff ht hread).mpr ⟨_, _, _, hc.clashesFirst, rfl⟩
  refine ⟨herror, fun h => ?_⟩
  obtain ⟨name, first, second, hstop, hne, -⟩ := h.reports _ herror
  simp only [Stop.error.injEq, GenerationError.sharedBridge.injEq] at hstop
  exact hne (hstop.2.2.1.symm.trans hstop.2.2.2)

/-- Where no type clashes alone, two types are reported. -/
theorem reportsTwo_of_not_clashesAlone (hnone : ∀ c, ¬ t.ClashesAlone c) : ReportsTwo t := by
  have hreports : ∀ stop, bridges t defaultRuntime = .error stop → ∃ name b c,
      stop = .error (.sharedBridge t.className name b.baseType c.baseType) ∧
        b.baseType ≠ c.baseType ∧ [b, c].Sublist t.bridgedColumns ∧
          name ∈ b.bridgeMethods ∧ name ∈ c.bridgeMethods := by
    intro stop hstop
    obtain ⟨name, _, _, hclash, rfl⟩ := (bridges_eq_error_iff ht hread).mp hstop
    obtain ⟨b, c, rfl, rfl, htwo⟩ := Table.exists_two_of_clashesFirst hnone hclash
    exact ⟨name, b, c, rfl, htwo⟩
  refine ⟨⟨fun hfail => ?_, fun h => (not_succeeds_bridges_iff ht hread).mpr (Or.inr h)⟩, hreports⟩
  cases hbridges : bridges t defaultRuntime with
  | ok bs => exact absurd ⟨bs, hbridges⟩ hfail
  | error stop =>
      obtain ⟨name, b, c, -, hne, hsub, hb, hc⟩ := hreports stop hbridges
      have hmem : ∀ e ∈ [b, c], e ∈ t.columns ∧ e.needsBridge = true :=
        fun e he => Table.mem_columns_of_mem_bridgedColumns (hsub.subset he)
      obtain ⟨hbmem, hbridgedb⟩ := hmem b (by simp)
      obtain ⟨hcmem, hbridgedc⟩ := hmem c (by simp)
      exact ⟨b, hbmem, c, hcmem, ⟨hbridgedb, hbridgedc⟩, hne, name, hb, hc⟩

end Extracted

/-- The bridges of an extracted table that can be named and go between types fail exactly if the two
of one type have one name or two types share one. They report two types by a name that these share
unless the bridges of one type are the first to clash, which then is reported twice. -/
theorem reportsTwo_iff (ht : extract resolver d = .ok t) (hread : BridgesRead t) :
    (¬ Succeeds (bridges t defaultRuntime) ↔
      (∃ c ∈ t.columns, c.needsBridge = true ∧ c.bridgeTo = c.bridgeFrom) ∨ t.SharesBridge) ∧
    (∀ c, t.ClashesAlone c → bridges t defaultRuntime =
      .error (.error (.sharedBridge t.className c.bridgeTo c.baseType c.baseType))) ∧
    (ReportsTwo t ↔ ∀ c, ¬ t.ClashesAlone c) :=
  ⟨not_succeeds_bridges_iff ht hread, fun _ hc => (reports_of_clashesAlone ht hread hc).1,
    fun h _ hc => (reports_of_clashesAlone ht hread hc).2 h,
    reportsTwo_of_not_clashesAlone ht hread⟩

/-- A class of sites with properties of the given names and types behind their key. -/
def site (properties : List (String × String)) : Declaration :=
  { name := "Site"
    properties := { name := "id", type := "i32", annotations := [{ name := "primary_key" }] } ::
      properties.map fun (name, type) => { name, type } }

/-- The table of the class, where the types have no columns of their own. -/
def siteTable (properties : List (String × String)) : Table :=
  let key : Column := { name := "id", propertyName := "id", propertyType := "i32"
                        columnType := .integer, isPrimaryKey := true }
  { name := "Site"
    className := "Site"
    key
    columns := key :: properties.map fun (name, type) =>
      { name, propertyName := name, propertyType := type, columnType := .text
        needsBridge := true } }

/-- Two spellings of a type share their bridges, and both are reported. -/
theorem reportsTwo_site :
    let t := siteTable [("home", "Url"), ("mirror", "URL")]
    extract plainResolver (site [("home", "Url"), ("mirror", "URL")]) = .ok t ∧
      BridgesRead t ∧ ReportsTwo t ∧ t.SharesBridge := by
  intro t
  have ht : extract plainResolver (site [("home", "Url"), ("mirror", "URL")]) = .ok t := by
    decide +kernel
  have hmethods : ∀ c ∈ t.columns, c.needsBridge = true →
      c.bridgeMethods = ["url_to_string_converter", "string_to_url_converter"] := by
    decide +kernel
  have hread : BridgesRead t := by
    refine ⟨fun c hc hb => ?_, by decide +kernel⟩
    rw [hmethods c hc hb]
    decide +kernel
  have htwo : ReportsTwo t := by
    refine (reportsTwo_iff ht hread).2.2.mpr ?_
    rintro c ⟨earlier, later, hsplit, -, hsame, -⟩
    obtain ⟨hmem, hb⟩ := Table.mem_columns_of_mem_bridgedColumns (t := t) (c := c)
      (by simp [hsplit])
    obtain ⟨hto, hrest⟩ := List.cons.inj (hmethods c hmem hb)
    obtain ⟨hfrom, -⟩ := List.cons.inj hrest
    exact absurd (hto.symm.trans (hsame.trans hfrom)) (by decide)
  refine ⟨ht, hread, htwo, ?_⟩
  have hshared : ∀ b ∈ t.columns, ∀ c ∈ t.columns, b.needsBridge = true ∧ c.needsBridge = true →
      "url_to_string_converter" ∈ b.bridgeMethods ∧ "url_to_string_converter" ∈ c.bridgeMethods :=
    fun b hb c hc h => by simp [hmethods b hb h.1, hmethods c hc h.2]
  obtain ⟨b, hb, c, hc, h, htype⟩ : ∃ b ∈ t.columns, ∃ c ∈ t.columns,
      (b.needsBridge = true ∧ c.needsBridge = true) ∧ b.baseType ≠ c.baseType := by
    decide +kernel
  exact ⟨b, hb, c, hc, h, htype, _, hshared b hb c hc h⟩

/-- A type whose two bridges have one name fails without another, and is reported twice. -/
theorem not_reportsTwo_site :
    let t := siteTable [("kind", "StringToString")]
    extract plainResolver (site [("kind", "StringToString")]) = .ok t ∧ BridgesRead t ∧
      ¬ t.SharesBridge ∧ ¬ ReportsTwo t ∧
      bridges t defaultRuntime = .error (.error (.sharedBridge "Site"
        "string_to_string_to_string_converter" "StringToString" "StringToString")) := by
  intro t
  have ht : extract plainResolver (site [("kind", "StringToString")]) = .ok t := by decide +kernel
  have hmethods : ∀ c ∈ t.columns, c.needsBridge = true → c.baseType = "StringToString" ∧
      c.bridgeMethods = ["string_to_string_to_string_converter",
        "string_to_string_to_string_converter"] := by
    decide +kernel
  have hread : BridgesRead t := by
    refine ⟨fun c hc hb => ?_, fun c hc hb => ?_⟩
    · rw [(hmethods c hc hb).2]
      decide +kernel
    · rw [(hmethods c hc hb).1]
      decide +kernel
  obtain ⟨kind, hkind⟩ : ∃ c, t.bridgedColumns = [c] :=
    List.length_eq_one_iff.mp (by decide +kernel)
  obtain ⟨hmem, hb⟩ :=
    Table.mem_columns_of_mem_bridgedColumns (t := t) (c := kind) (by simp [hkind])
  obtain ⟨htype, hboth⟩ := hmethods kind hmem hb
  obtain ⟨hto, hfrom⟩ := List.cons.inj hboth
  have hsame : kind.bridgeTo = kind.bridgeFrom := hto.trans (List.cons.inj hfrom).1.symm
  have hclash : t.ClashesAlone kind := ⟨[], [], hkind, by simp, hsame, by simp⟩
  obtain ⟨herror, hnot⟩ := reports_of_clashesAlone ht hread hclash
  refine ⟨ht, hread, ?_, hnot, ?_⟩
  · rintro ⟨b, hb, c, hc, h, hne, -⟩
    exact hne ((hmethods b hb h.1).1.trans (hmethods c hc h.2).1.symm)
  · rw [herror, htype, hto]
    rfl

end Rowsmith.Accessor
