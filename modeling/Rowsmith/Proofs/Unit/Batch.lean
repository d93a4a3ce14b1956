import Rowsmith.Proofs.Accessor.Method
import Rowsmith.Proofs.Schema.Extraction
import Rowsmith.Unit.Sink

/-!
# Batches of classes

Each class of a batch fares as it does alone, and the memory behind a batch holds the files of the
classes that succeed, written in order. The run is followed class by class: one step adds one
outcome and at most one file.
-/

namespace Rowsmith
open Outcome Rowsmith.Accessor Rowsmith.Schema Rowsmith.Source

namespace MemorySink

/-- A memory with files written to it in order. -/
def insertAll (sink : MemorySink) (files : List (String × String)) : MemorySink :=
  files.foldl (fun s file => s.insert file.1 file.2) sink

@[simp] theorem insertAll_nil (sink : MemorySink) : sink.insertAll [] = sink := rfl

@[simp] theorem insertAll_cons (sink : MemorySink) (file : String × String)
    (files : List (String × String)) :
    sink.insertAll (file :: files) = (sink.insert file.1 file.2).insertAll files := rfl

/-- Of the files with a name the one written last counts, and else the one that was there. -/
theorem get?_insertAll (sink : MemorySink) (files : List (String × String)) (name : String) :
    (sink.insertAll files).get? name = (files.reverse.lookup name).or (sink.get? name) := by
  induction files generalizing sink with
  | nil => simp
  | cons file files ih =>
      obtain ⟨written, source⟩ := file
      rw [insertAll_cons, ih, get?_insert, List.reverse_cons, List.lookup_append]
      by_cases h : name = written
      · cases files.reverse.lookup name <;> simp [h]
      · cases files.reverse.lookup name <;> simp [List.lookup_cons, beq_eq_false_iff_ne.2 h, h]

end MemorySink

section Classes

variable (resolver : Resolver) (runtime : List Token)

/-- The file of a class: its name and its source, if the class has a unit. -/
def fileOf? (d : Declaration) : Option (String × String) :=
  match generate resolver runtime d with
  | .ok unit => some (unit.fileName, unit.render)
  | .error _ => none

/-- The files of the classes that have a unit, in order. -/
def filesOf (ds : List Declaration) : List (String × String) :=
  ds.filterMap (fileOf? resolver runtime)

/-- What becomes of a class that is written to an empty memory alone. -/
inductive FaresAlone (d : Declaration) : Option GenerationError → Prop
  | written {unit : GeneratedUnit} (hunit : generate resolver runtime d = .ok unit)
      (halone : generateInto resolver runtime ({} : MemorySink) d =
        .ok { files := [(unit.fileName, unit.render)] }) : FaresAlone d none
  | failed {e : GenerationError} (hunit : generate resolver runtime d = .error (.error e))
      (halone : generateInto resolver runtime ({} : MemorySink) d = .error (.error e)) :
      FaresAlone d (some e)

/-- A batch in which every class fares as it does alone, whatever the others do. -/
structure Isolates (sink : MemorySink) (ds : List Declaration) (batch : Batch MemorySink) :
    Prop where
  halted : batch.halted = none
  outcomes : List.Forall₂ (fun d entry => entry.1 = d.name ∧
    FaresAlone resolver runtime d entry.2) ds batch.outcomes
  sink : batch.sink = sink.insertAll (filesOf resolver runtime ds)

end Classes

section Run

variable {resolver : Resolver} {runtime : List Token} {d : Declaration}

/-- A memory takes the file of every unit. -/
theorem generateInto_memory (sink : MemorySink) :
    generateInto resolver runtime sink d =
      (fun unit => sink.insert unit.fileName unit.render) <$> generate resolver runtime d := by
  unfold generateInto
  cases generate resolver runtime d <;> rfl

/-- A memory refuses no file. -/
theorem generateInto_eq_error_iff {sink : MemorySink} {stop : Stop} :
    generateInto resolver runtime sink d = .error stop ↔
      generate resolver runtime d = .error stop := by
  rw [generateInto_memory]
  cases generate resolver runtime d with
  | ok unit => simp [Functor.map, Except.map]
  | error e => simp [Functor.map, Except.map]

/-- A class has a unit if it has a table, and the source of the table's unit can be read. -/
theorem generate_eq_ok_iff {unit : GeneratedUnit} :
    generate resolver runtime d = .ok unit ↔ ∃ t, extract resolver d = .ok t ∧
      GeneratedUnit.ofTable t d.visibility runtime = .ok unit ∧
        ∃ tokens, unit.reread = .ok tokens := by
  have hmap : ∀ t, (extract resolver d).mapError Stop.error = .ok t ↔
      extract resolver d = .ok t := by
    intro t
    cases extract resolver d <;> simp [Except.mapError]
  simp only [generate, bind_eq_ok_iff, hmap, pure_eq_ok_iff]
  refine exists_congr fun t => and_congr_right fun _ => ?_
  constructor
  · rintro ⟨u, hu, tokens, htokens, rfl⟩
    exact ⟨hu, tokens, htokens⟩
  · rintro ⟨hu, tokens, htokens⟩
    exact ⟨unit, hu, tokens, htokens, rfl⟩

/-- Generation ends for good only where the unit of an extracted table does. -/
theorem generate_eq_unnameable_iff {method : String} :
    generate resolver runtime d = .error (.unnameable method) ↔
      ∃ t, extract resolver d = .ok t ∧
        GeneratedUnit.ofTable t d.visibility runtime = .error (.unnameable method) := by
  unfold generate
  cases extract resolver d with
  | error e => simp [Except.mapError, bind, Except.bind]
  | ok t =>
      cases hu : GeneratedUnit.ofTable t d.visibility runtime with
      | error stop => simp [Except.mapError, bind, Except.bind, hu]
      | ok unit =>
          cases hr : tokenize unit.render <;>
            simp [Except.mapError, bind, Except.bind, pure, Except.pure, hu,
              GeneratedUnit.reread, hr]

/-- One class adds its outcome, and its file if it has one, whatever the memory holds. -/
theorem generateAll_cons (sink : MemorySink) (ds : List Declaration)
    (hd : ∀ method, generate resolver runtime d ≠ .error (.unnameable method)) :
    ∃ outcome, FaresAlone resolver runtime d outcome ∧
      generateAll resolver runtime sink (d :: ds) =
        (generateAll resolver runtime
          (sink.insertAll (fileOf? resolver runtime d).toList) ds).after d.name outcome := by
  have hinto (sink : MemorySink) : generateInto resolver runtime sink d =
      (fun unit => sink.insert unit.fileName unit.render) <$> generate resolver runtime d :=
    generateInto_memory sink
  rw [generateAll, fileOf?, hinto]
  cases hg : generate resolver runtime d with
  | ok unit =>
      refine ⟨none, .written hg ?_, rfl⟩
      rw [hinto, hg]
      rfl
  | error stop =>
      cases stop with
      | error e =>
          refine ⟨some e, .failed hg ?_, rfl⟩
          rw [hinto, hg]
          rfl
      | unnameable method => exact absurd hg (hd method)

theorem isolates_generateAll (sink : MemorySink) (ds : List Declaration)
    (h : ∀ d ∈ ds, ∀ method, generate resolver runtime d ≠ .error (.unnameable method)) :
    Isolates resolver runtime sink ds (generateAll resolver runtime sink ds) := by
  induction ds generalizing sink with
  | nil => exact ⟨rfl, .nil, rfl⟩
  | cons d ds ih =>
      obtain ⟨outcome, hfares, hstep⟩ := generateAll_cons sink ds (h d List.mem_cons_self)
      have hrest := ih (sink.insertAll (fileOf? resolver runtime d).toList)
        fun e he => h e (List.mem_cons_of_mem d he)
      rw [hstep]
      refine ⟨hrest.halted, .cons ⟨rfl, hfares⟩ hrest.outcomes, ?_⟩
      refine hrest.sink.trans ?_
      rw [filesOf, filesOf, List.filterMap_cons]
      cases fileOf? resolver runtime d <;> rfl

/-- A class that fails has no file. -/
theorem filesOf_filter (ds : List Declaration) :
    filesOf resolver runtime (ds.filter fun d => (generate resolver runtime d).isOk) =
      filesOf resolver runtime ds := by
  rw [filesOf, filesOf, List.filterMap_filter]
  congr 1
  funext d
  cases hg : generate resolver runtime d <;> simp [fileOf?, hg, Except.isOk, Except.toBool]

end Run

/-- Every class of a batch fares as it does alone. The memory holds the files of those that
succeed, the latest one of each name, and otherwise what was there; the classes that fail might
as well have been left out. -/
theorem generateAll_isolated {resolver : Resolver} {runtime : List Token} (sink : MemorySink)
    (ds : List Declaration)
    (h : ∀ d ∈ ds, ∀ method, generateInto resolver runtime ({} : MemorySink) d ≠
      .error (.unnameable method)) :
    Isolates resolver runtime sink ds (generateAll resolver runtime sink ds) ∧
      (∀ name, (generateAll resolver runtime sink ds).sink.get? name =
        ((filesOf resolver runtime ds).reverse.lookup name).or (sink.get? name)) ∧
      (generateAll resolver runtime sink ds).sink =
        (generateAll resolver runtime sink
          (ds.filter fun d => (generate resolver runtime d).isOk)).sink := by
  have hgenerate : ∀ d ∈ ds, ∀ method,
      generate resolver runtime d ≠ .error (.unnameable method) :=
    fun d hd method hg => h d hd method (generateInto_eq_error_iff.mpr hg)
  have hall := isolates_generateAll sink ds hgenerate
  have hkept := isolates_generateAll sink
    (ds.filter fun d => (generate resolver runtime d).isOk)
    fun d hd => hgenerate d (List.mem_of_mem_filter hd)
  refine ⟨hall, ?_, ?_⟩
  · intro name
    rw [hall.sink, MemorySink.get?_insertAll]
  · rw [hall.sink, hkept.sink, filesOf_filter]

section Members

/-- Generation of the class of members does not end for good. -/
theorem generate_member_ne (method : String) :
    generate memberResolver (code ":: table_context") member ≠ .error (.unnameable method) := by
  obtain ⟨u, hu⟩ := exists_unit_member
  rw [Ne, generate_eq_unnameable_iff]
  rintro ⟨t, ht, hunnameable⟩
  obtain rfl : memberTable = t := Except.ok.inj (extract_member.symm.trans ht)
  cases hunnameable.symm.trans hu

/-- A class without a key fails by itself. -/
theorem generate_keyless (resolver : Resolver) (runtime : List Token) (name : String) :
    generate resolver runtime { name } = .error (.error (.missingKey name)) := by
  rfl

/-- A class without a key before the class of members, on a memory that is not empty. -/
theorem generateAll_isolated_member :
    let sink : MemorySink := { files := [("member.rs", "")] }
    let ds : List Declaration := [{ name := "Keyless" }, member]
    let runtime := code ":: table_context"
    (∀ d ∈ ds, ∀ method, generateInto memberResolver runtime ({} : MemorySink) d ≠
      .error (.unnameable method)) ∧
    Isolates memberResolver runtime sink ds (generateAll memberResolver runtime sink ds) ∧
      (∀ name, (generateAll memberResolver runtime sink ds).sink.get? name =
        ((filesOf memberResolver runtime ds).reverse.lookup name).or (sink.get? name)) ∧
      (generateAll memberResolver runtime sink ds).sink =
        (generateAll memberResolver runtime sink
          (ds.filter fun d => (generate memberResolver runtime d).isOk)).sink := by
  intro sink ds runtime
  have h : ∀ d ∈ ds, ∀ method, generateInto memberResolver runtime ({} : MemorySink) d ≠
      .error (.unnameable method) := by
    intro d hd method hinto
    have hgenerate := generateInto_eq_error_iff.mp hinto
    rcases List.mem_pair.mp hd with rfl | rfl
    · rw [generate_keyless] at hgenerate
      cases hgenerate
    · exact generate_member_ne method hgenerate
  exact ⟨h, generateAll_isolated sink ds h⟩

end Members

end Rowsmith
