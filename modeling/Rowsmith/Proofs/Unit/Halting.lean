import Rowsmith.Derive.Class
import Rowsmith.Proofs.Accessor.Naming
import Rowsmith.Proofs.Unit.Batch

/-!
# Classes that end the generation

One class may end the generation for good, alone, in a batch or from an annotated struct. These
are the classes with an unnameable bridge, and all others have a result, an error included.
-/

namespace Rowsmith
open Accessor Outcome Schema Source Derive

/-- A class that ends the generation for good at a name: its table is extracted, and the first
of its bridges that cannot be named is to have that name. -/
def Halts (resolver : Resolver) (d : Declaration) (name : String) : Prop :=
  ∃ t, extract resolver d = .ok t ∧
    (∃ className, identifierOf t.className t.className = .ok className) ∧ Unnameable t name

section Runs

variable {resolver : Resolver} {runtime : List Token} {d : Declaration} {name : String}

theorem generate_halts_iff :
    generate resolver runtime d = .error (.unnameable name) ↔ Halts resolver d name := by
  rw [generate_eq_unnameable_iff]
  refine exists_congr fun t => and_congr_right fun ht => ?_
  exact ofTable_eq_unnameable_iff (fun c hc => coherent_of_extract ht hc) (key_mem_of_extract ht)

/-- Sinks report errors, and none ends the generation. -/
theorem generateInto_halts_iff {σ : Type} [Sink σ] (sink : σ) :
    generateInto resolver runtime sink d = .error (.unnameable name) ↔
      Halts resolver d name := by
  rw [← @generate_halts_iff resolver runtime, generateInto, bind_eq_error_iff]
  refine or_iff_left ?_
  rintro ⟨unit, -, h⟩
  cases hadd : Sink.add sink unit.fileName unit.render with
  | ok next => rw [hadd] at h; cases h
  | error e => rw [hadd] at h; cases h

/-- Where a batch ends: before its first class that ends the generation, each class has its
outcome, and from that one on none has. -/
def HaltsAt (resolver : Resolver) (ds : List Declaration) (names : List String)
    (name : String) : Prop :=
  ∃ before d after, ds = before ++ d :: after ∧ Halts resolver d name ∧
    (∀ b ∈ before, ∀ other, ¬ Halts resolver b other) ∧ names = before.map (·.name)

/-- A class that does not end the generation is passed. -/
theorem haltsAt_cons_iff (hd : ∀ other, ¬ Halts resolver d other) {ds : List Declaration}
    {names : List String} :
    HaltsAt resolver (d :: ds) (d.name :: names) name ↔ HaltsAt resolver ds names name := by
  constructor
  · rintro ⟨before, b, after, hds, hb, hbefore, hnames⟩
    cases before with
    | nil =>
        obtain ⟨rfl, rfl⟩ := List.cons.inj hds
        exact absurd hb (hd name)
    | cons first before =>
        obtain ⟨rfl, rfl⟩ := List.cons.inj hds
        exact ⟨before, b, after, rfl, hb,
          fun other ho => hbefore other (List.mem_cons_of_mem d ho), (List.cons.inj hnames).2⟩
  · rintro ⟨before, b, after, rfl, hb, hbefore, rfl⟩
    exact ⟨d :: before, b, after, rfl, hb, List.forall_mem_cons.mpr ⟨hd, hbefore⟩, rfl⟩

/-- A batch ends for good exactly at the first class that does. -/
theorem generateAll_halted_iff {σ : Type} [Sink σ] (sink : σ) (ds : List Declaration) :
    (generateAll resolver runtime sink ds).halted = some name ↔
      HaltsAt resolver ds ((generateAll resolver runtime sink ds).outcomes.map Prod.fst)
        name := by
  induction ds generalizing sink with
  | nil => simp [generateAll, HaltsAt]
  | cons d ds ih =>
      have hpass : ∀ outcome, generateInto resolver runtime sink d = outcome →
          (∀ other, outcome ≠ .error (.unnameable other)) →
            ∀ other, ¬ Halts resolver d other := by
        rintro outcome rfl hne other hd
        exact hne other ((generateInto_halts_iff sink).mpr hd)
      rw [generateAll]
      cases hinto : generateInto resolver runtime sink d with
      | ok next =>
          have hd := hpass _ hinto fun other h => by cases h
          exact (ih next).trans (haltsAt_cons_iff hd).symm
      | error stop =>
          cases stop with
          | error e =>
              have hd := hpass _ hinto fun other h => by cases h
              exact (ih sink).trans (haltsAt_cons_iff hd).symm
          | unnameable method =>
              have hd : Halts resolver d method := (generateInto_halts_iff sink).mp hinto
              constructor
              · intro h
                obtain rfl : method = name := Option.some.inj h
                exact ⟨[], d, ds, rfl, hd, by simp, rfl⟩
              · rintro ⟨before, b, after, hds, hb, hbefore, -⟩
                cases before with
                | nil =>
                    obtain ⟨rfl, rfl⟩ := List.cons.inj hds
                    have hname := (@generateInto_halts_iff resolver runtime d name σ _ sink).mpr hb
                    rw [hinto] at hname
                    cases hname
                    rfl
                | cons first before =>
                    obtain ⟨rfl, rfl⟩ := List.cons.inj hds
                    exact absurd hd (hbefore d List.mem_cons_self method)

/-- An annotated struct ends the generation exactly where its class does. -/
theorem expand_halts_iff (item : Item) :
    expand item = .error (.unnameable name) ↔
      ∃ c, ofItem item = .ok c ∧ Halts c.hints.resolve c.declaration name := by
  unfold expand
  cases hc : ofItem item with
  | error faults => simp [Except.mapError, bind, Except.bind]
  | ok c =>
      simp only [Except.ok.injEq, exists_eq_left', ← @generate_halts_iff _ c.runtime]
      show Except.mapError _ (do (← generate c.hints.resolve c.runtime c.declaration).reread) =
        _ ↔ _
      cases hg : generate c.hints.resolve c.runtime c.declaration with
      | error stop => cases stop <;> simp [Except.mapError, bind, Except.bind]
      | ok unit =>
          cases hr : tokenize unit.render <;>
            simp [Except.mapError, bind, Except.bind, GeneratedUnit.reread, hr]

end Runs

/-- Generation ends for good exactly at the classes with an unnameable bridge: alone, in a batch,
which gives no outcome from there on, and from an annotated struct. -/
theorem generation_halts_iff (resolver : Resolver) (runtime : List Token) :
    (∀ (σ : Type) [Sink σ] (sink : σ) (d : Declaration) (name : String),
      generateInto resolver runtime sink d = .error (.unnameable name) ↔
        Halts resolver d name) ∧
    (∀ (σ : Type) [Sink σ] (sink : σ) (ds : List Declaration) (name : String),
      (generateAll resolver runtime sink ds).halted = some name ↔
        HaltsAt resolver ds ((generateAll resolver runtime sink ds).outcomes.map Prod.fst)
          name) ∧
    ∀ (item : Item) (name : String), expand item = .error (.unnameable name) ↔
      ∃ c, ofItem item = .ok c ∧ Halts c.hints.resolve c.declaration name :=
  ⟨fun _ _ sink _ _ => generateInto_halts_iff sink,
    fun _ _ sink ds _ => generateAll_halted_iff sink ds, fun item _ => expand_halts_iff item⟩

section Scene

/-- A class with a property of a type whose name goes on with a digit behind a low line. -/
def scene : Declaration :=
  { name := "Scene"
    properties := [
      { name := "id", type := "i32", annotations := [{ name := "primary_key" }] },
      { name := "shape", type := "_3d" }] }

set_option maxRecDepth 100000 in
/-- The class ends the generation, as a struct, alone and before another class. -/
theorem scene_halts :
    (∃ item, Phrase.ofText Phrase.item "struct Scene { #[primary_key] id: i32, shape: _3d }" =
        .ok item ∧ expand item = .error (.unnameable "3_d_to_string_converter")) ∧
      generateInto plainResolver (code ":: table_context") ({} : MemorySink) scene =
        .error (.unnameable "3_d_to_string_converter") ∧
      (generateAll plainResolver (code ":: table_context") ({} : MemorySink)
        [scene, member]).outcomes = [] := by
  refine ⟨?_, by decide +kernel, by decide +kernel⟩
  have h : (match Phrase.ofText Phrase.item
      "struct Scene { #[primary_key] id: i32, shape: _3d }" with
    | .ok item => match expand item with
      | .error (.unnameable name) => name == "3_d_to_string_converter"
      | _ => false
    | .error _ => false) = true := by decide +kernel
  split at h
  · next item hitem =>
      refine ⟨item, hitem, ?_⟩
      split at h
      · next name hname => rw [hname, beq_iff_eq.mp h]
      · cases h
  · cases h

end Scene

end Rowsmith
