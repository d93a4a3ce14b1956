import Mathlib.Data.List.Dedup
import Rowsmith.Proofs.Unit.Rereading

/-!
# Lost classes

A memory keeps one file of each name, so a batch keeps the sources of all its classes exactly when
their files have different names. The name of a class is folded on the way to the name of its
file, so that classes of different names may succeed and yet leave one file.
-/

namespace Rowsmith
open Accessor Outcome Schema Source Text

namespace MemorySink

variable {name source other : String} {files : List (String × String)}

theorem mem_map_insertFile : other ∈ (insertFile name source files).map Prod.fst ↔
    other = name ∨ other ∈ files.map Prod.fst := by
  induction files with
  | nil => simp [insertFile]
  | cons f files ih =>
      obtain ⟨n, s⟩ := f
      rw [insertFile]
      split
      · simp
      · split
        · next heq => simp [heq]
        · simp only [List.map_cons, List.mem_cons, ih, or_left_comm]

/-- A file is put in its place. -/
theorem pairwise_insertFile (h : (files.map Prod.fst).Pairwise (· < ·)) :
    ((insertFile name source files).map Prod.fst).Pairwise (· < ·) := by
  induction files with
  | nil => simp [insertFile]
  | cons f files ih =>
      obtain ⟨n, s⟩ := f
      rw [List.map_cons, List.pairwise_cons] at h
      obtain ⟨hfirst, hrest⟩ := h
      rw [insertFile]
      split
      · next hlt =>
          rw [List.map_cons, List.map_cons, List.pairwise_cons, List.pairwise_cons]
          refine ⟨fun other hother => ?_, hfirst, hrest⟩
          rcases List.mem_cons.mp hother with rfl | hother
          · exact hlt
          · exact String.lt_trans hlt (hfirst other hother)
      · next hlt =>
          split
          · next heq =>
              rw [List.map_cons, List.pairwise_cons, ← heq]
              exact ⟨hfirst, hrest⟩
          · next hne =>
              rw [List.map_cons, List.pairwise_cons]
              refine ⟨fun other hother => ?_, ih hrest⟩
              rcases mem_map_insertFile.mp hother with rfl | hother
              · exact Std.lt_of_le_of_ne (String.not_lt.mp hlt) hne
              · exact hfirst other hother

/-- Files that are written keep a memory in order, and add their names. -/
theorem insertAll_names {sink : MemorySink} (h : sink.names.Pairwise (· < ·))
    (files : List (String × String)) : (sink.insertAll files).names.Pairwise (· < ·) ∧
      ∀ name, name ∈ (sink.insertAll files).names ↔
        name ∈ files.map Prod.fst ∨ name ∈ sink.names := by
  induction files generalizing sink with
  | nil => exact ⟨h, fun name => by simp⟩
  | cons file files ih =>
      have hstep : (sink.insert file.1 file.2).names.Pairwise (· < ·) := pairwise_insertFile h
      obtain ⟨hsorted, hnames⟩ := ih hstep
      refine ⟨hsorted, fun name => ?_⟩
      have hfile : name ∈ (sink.insert file.1 file.2).names ↔ name = file.1 ∨ name ∈ sink.names :=
        mem_map_insertFile
      rw [insertAll_cons, hnames, hfile, List.map_cons, List.mem_cons, or_left_comm, or_assoc]

/-- An empty memory comes to hold as many files as there are different names. -/
theorem size_insertAll (files : List (String × String)) :
    (({} : MemorySink).insertAll files).size = (files.map Prod.fst).dedup.length := by
  have hempty : ({} : MemorySink).names.Pairwise (· < ·) := .nil
  obtain ⟨hsorted, hnames⟩ := insertAll_names hempty files
  have hnodup : (({} : MemorySink).insertAll files).names.Nodup := hsorted.nodup
  have hperm : (({} : MemorySink).insertAll files).names.Perm (files.map Prod.fst).dedup := by
    rw [List.perm_ext_iff_of_nodup hnodup (List.nodup_dedup _)]
    intro name
    rw [hnames, List.mem_dedup]
    exact or_iff_left List.not_mem_nil
  rw [← hperm.length_eq, names, List.length_map, size]

/-- Where names differ, each file is kept. -/
theorem get?_insertAll_of_mem (hn : (files.map Prod.fst).Nodup) (hmem : (name, source) ∈ files)
    (sink : MemorySink) : (sink.insertAll files).get? name = some source := by
  have hlookup : files.reverse.lookup name = some source := by
    obtain ⟨before, after, rfl⟩ := List.append_of_mem hmem
    rw [List.map_append, List.map_cons, List.nodup_append, List.nodup_cons] at hn
    rw [List.lookup_eq_some_iff]
    refine ⟨after.reverse, before.reverse, by simp, fun p hp => bne_iff_ne.mpr fun heq => ?_⟩
    have hlater : p.1 ∈ after.map Prod.fst := List.mem_map_of_mem (List.mem_reverse.mp hp)
    exact hn.2.1.1 (heq ▸ hlater)
  rw [get?_insertAll, hlookup, Option.some_or]

end MemorySink

section Batches

/-- The name of the file of a class, given the name of the class, if that is an identifier. -/
def fileNameOf? (className : String) : Option String :=
  match identifierOf className className with
  | .ok name => some (snakeCase (plainName name ++ "TableContextBase") ++ ".rs")
  | .error _ => none

variable (resolver : Resolver) (runtime : List Token)

/-- The classes of a batch that succeed. -/
def succeeded (ds : List Declaration) : List Declaration :=
  ds.filter fun d => (generate resolver runtime d).isOk

/-- A batch that loses nothing: the memory has as many files as classes succeeded, and the source
of each under the name of its file. -/
structure KeepsAll (ds : List Declaration) (batch : Batch MemorySink) : Prop where
  count : batch.sink.size = (batch.outcomes.filter (·.2.isNone)).length
  stored : ∀ d ∈ ds, ∀ unit, generate resolver runtime d = .ok unit →
    batch.sink.get? unit.fileName = some unit.render

end Batches

section Runs

variable {resolver : Resolver} {runtime : List Token}

/-- The classes that succeed are those that have a file. -/
theorem length_filter_outcomes {ds : List Declaration}
    {outcomes : List (String × Option GenerationError)}
    (h : List.Forall₂ (fun d entry => entry.1 = d.name ∧ FaresAlone resolver runtime d entry.2) ds
      outcomes) :
    (outcomes.filter (·.2.isNone)).length = (filesOf resolver runtime ds).length := by
  induction h with
  | nil => rfl
  | @cons d entry ds outcomes hentry _ ih =>
      obtain ⟨name, outcome⟩ := entry
      obtain ⟨-, hfares⟩ := hentry
      cases hfares with
      | written hunit _ => simpa [filesOf, fileOf?, hunit] using ih
      | failed hunit _ => simpa [filesOf, fileOf?, hunit] using ih

/-- A batch that does not end for good ends at none of its classes. -/
theorem generate_ne_of_halted {sink : MemorySink} {ds : List Declaration}
    (h : (generateAll resolver runtime sink ds).halted = none) :
    ∀ d ∈ ds, ∀ method, generate resolver runtime d ≠ .error (.unnameable method) := by
  induction ds generalizing sink with
  | nil => exact fun d hd => absurd hd List.not_mem_nil
  | cons d ds ih =>
      rw [generateAll, generateInto_memory] at h
      cases hd : generate resolver runtime d with
      | ok unit =>
          rw [hd] at h
          refine List.forall_mem_cons.mpr ⟨fun method heq => ?_, ih h⟩
          rw [hd] at heq
          cases heq
      | error stop =>
          rw [hd] at h
          cases stop with
          | error e =>
              refine List.forall_mem_cons.mpr ⟨fun method heq => ?_, ih h⟩
              rw [hd] at heq
              cases heq
          | unnameable method => cases h

/-- The file of a class that has a unit is named by the name of the class alone. -/
theorem fileNameOf?_eq {d : Declaration} {unit : GeneratedUnit}
    (h : generate resolver runtime d = .ok unit) : fileNameOf? d.name = some unit.fileName := by
  obtain ⟨t, ht, hu, -⟩ := generate_eq_ok_iff.mp h
  obtain ⟨className, hname, hc⟩ := bind_eq_ok_iff.mp (methods_of_ofTable hu).2.1
  rw [className_of_extract ht] at hname
  rw [fileNameOf?, hname, GeneratedUnit.fileName, GeneratedUnit.baseName, ← pure_eq_ok_iff.mp hc]

/-- The files of a batch are named by the names of the classes that succeed. -/
theorem map_fileNameOf?_succeeded (ds : List Declaration) :
    (succeeded resolver runtime ds).map (fileNameOf? ·.name) =
      (filesOf resolver runtime ds).map fun file => some file.1 := by
  induction ds with
  | nil => rfl
  | cons d ds ih =>
      cases hd : generate resolver runtime d with
      | ok unit =>
          simpa [succeeded, filesOf, fileOf?, hd, Except.isOk, Except.toBool,
            fileNameOf?_eq hd] using ih
      | error stop =>
          simpa [succeeded, filesOf, fileOf?, hd, Except.isOk, Except.toBool] using ih

/-- A batch on an empty memory leaves as many files as its classes that succeed have names of
files, and loses none of them exactly when these names are different. -/
theorem keepsAll_iff {ds : List Declaration}
    (h : (generateAll resolver runtime ({} : MemorySink) ds).halted = none) :
    (generateAll resolver runtime ({} : MemorySink) ds).sink.size =
        ((succeeded resolver runtime ds).map (fileNameOf? ·.name)).dedup.length ∧
      (KeepsAll resolver runtime ds (generateAll resolver runtime ({} : MemorySink) ds) ↔
        ((succeeded resolver runtime ds).map (fileNameOf? ·.name)).Nodup) := by
  have hall := isolates_generateAll {} ds (generate_ne_of_halted h)
  have hnames : (succeeded resolver runtime ds).map (fileNameOf? ·.name) =
      ((filesOf resolver runtime ds).map Prod.fst).map some := by
    rw [map_fileNameOf?_succeeded, List.map_map]
    rfl
  have hsize : (generateAll resolver runtime ({} : MemorySink) ds).sink.size =
      ((filesOf resolver runtime ds).map Prod.fst).dedup.length := by
    rw [hall.sink, MemorySink.size_insertAll]
  rw [hnames, List.dedup_map_of_injective (Option.some_injective _), List.length_map,
    List.nodup_map_iff (Option.some_injective _)]
  refine ⟨hsize, fun hkeeps => ?_, fun hn => ⟨?_, ?_⟩⟩
  · have hcount := hkeeps.count
    rw [hsize, length_filter_outcomes hall.outcomes, ← List.length_map Prod.fst] at hcount
    rw [← List.dedup_eq_self]
    exact (List.dedup_sublist _).eq_of_length hcount
  · rw [hsize, hn.dedup, length_filter_outcomes hall.outcomes, List.length_map]
  · intro d hd unit hunit
    rw [hall.sink]
    refine MemorySink.get?_insertAll_of_mem hn (List.mem_filterMap.mpr ⟨d, hd, ?_⟩) _
    rw [fileOf?, hunit]

/-- Of two classes with the same file the later one is left. -/
theorem generateAll_same_file {d e : Declaration} {first second : GeneratedUnit}
    (hd : generate resolver runtime d = .ok first) (he : generate resolver runtime e = .ok second)
    (hfile : first.fileName = second.fileName) :
    generateAll resolver runtime ({} : MemorySink) [d, e] = {
      outcomes := [(d.name, none), (e.name, none)]
      sink := { files := [(second.fileName, second.render)] } } := by
  have hinsert : (({} : MemorySink).insert first.fileName first.render).insert second.fileName
      second.render = { files := [(second.fileName, second.render)] } := by
    simp [MemorySink.insert, MemorySink.insertFile, hfile]
  simp only [generateAll, generateInto_memory, hd, he, map_ok, hinsert, Batch.after]

end Runs

section Folded

open GeneratedUnit Sql Text Rowsmith.Unit

/-- Names of classes that are folded into the same name of a file. -/
def foldedNames : List String := ["Url", "URL"]

set_option maxRecDepth 100000 in
theorem deliverable_folded : ∀ name ∈ foldedNames, Deliverable (keyedTable name) := by
  have hplain : ∀ name ∈ foldedNames, Plain name.toList := by decide
  have hapart : ∀ name ∈ foldedNames, Operation.all.Pairwise fun o later =>
      ¬ quoted (later.placeholder name).toList <:+: ((keyedTable name).statement o).text.toList := by
    decide +kernel
  have hfence : ∀ name ∈ foldedNames, ∀ o ∈ Operation.all,
      fenceLength ((keyedTable name).statement o).text.toList ≤ 255 ∧
        returnsPaired ((keyedTable name).statement o).text.toList = true := by
    decide +kernel
  exact fun name hname => {
    plain := hplain name hname
    apart := hapart name hname
    fenced := fun o => (hfence name hname o (Operation.mem_all o)).1
    returns := fun o => (hfence name hname o (Operation.mem_all o)).2 }

set_option maxRecDepth 100000 in
/-- Each of the classes is generated, for the same file. -/
theorem exists_generate_folded : ∀ name ∈ foldedNames, ∃ unit,
    generate plainResolver (code ":: table_context") (keyed name) = .ok unit ∧
      unit.fileName = "url_table_context_base.rs" := by
  have hextract : ∀ name ∈ foldedNames,
      extract plainResolver (keyed name) = .ok (keyedTable name) := by decide +kernel
  have hunit : ∀ name ∈ foldedNames, (fun u : GeneratedUnit =>
      (u.fileName, (Token.leavesAll u.given).all Token.isSimple)) <$>
        ofTable (keyedTable name) "pub" (code ":: table_context") =
      .ok ("url_table_context_base.rs", true) := by decide +kernel
  have hnames : ∀ name ∈ foldedNames, ∀ written ∈ (keyedTable name).writtenNames,
      ∀ o ∈ Operation.all, ¬ quoted (o.placeholder name).toList <:+
        (stringLiteral written).toList := by decide +kernel
  intro name hname
  obtain ⟨u, hu, hfile⟩ := map_eq_ok_iff.mp (hunit name hname)
  obtain ⟨hfile, hsimple⟩ := Prod.mk.inj hfile
  obtain ⟨tokens, hreread⟩ := exists_reread_of_simple hu (deliverable_folded name hname)
    (List.all_eq_true.mp hsimple)
    fun written hwritten o => hnames name hname written hwritten o (Operation.mem_all o)
  exact ⟨u, generate_eq_ok_iff.mpr ⟨_, hextract name hname, hu, tokens, hreread⟩, hfile⟩

/-- Of a class without a key and one with a key, the one that succeeds is kept. -/
theorem keepsAll_keyless :
    let ds : List Declaration := [{ name := "Keyless" }, keyed "Url"]
    let batch := generateAll plainResolver (code ":: table_context") ({} : MemorySink) ds
    batch.halted = none ∧ KeepsAll plainResolver (code ":: table_context") ds batch := by
  intro ds batch
  obtain ⟨unit, hunit, -⟩ := exists_generate_folded "Url" (by decide)
  have hkeyless := generate_keyless plainResolver (code ":: table_context") "Keyless"
  have hhalted : batch.halted = none := by
    refine (isolates_generateAll {} ds fun d hd method hstop => ?_).halted
    rcases List.mem_pair.mp hd with rfl | rfl
    · rw [hkeyless] at hstop
      cases hstop
    · rw [hunit] at hstop
      cases hstop
  have hnames : ((succeeded plainResolver (code ":: table_context") ds).map
      (fileNameOf? ·.name)).Nodup := by
    have hone : succeeded plainResolver (code ":: table_context") ds = [keyed "Url"] := by
      rw [succeeded, List.filter_cons_of_neg, List.filter_cons_of_pos, List.filter_nil]
      · rw [hunit]
        rfl
      · rw [hkeyless]
        exact Bool.false_ne_true
    rw [hone]
    exact List.nodup_singleton _
  exact ⟨hhalted, (keepsAll_iff hhalted).2.mpr hnames⟩

/-- Two classes of different names succeed, and one file is left. -/
theorem not_keepsAll_folded :
    let ds := foldedNames.map keyed
    let batch := generateAll plainResolver (code ":: table_context") ({} : MemorySink) ds
    (ds.map (·.name)).Nodup ∧ batch.halted = none ∧
      batch.outcomes = [("Url", none), ("URL", none)] ∧ batch.sink.size = 1 ∧
      ¬ KeepsAll plainResolver (code ":: table_context") ds batch := by
  intro ds batch
  obtain ⟨first, hfirst, hfile⟩ := exists_generate_folded "Url" (by decide)
  obtain ⟨second, hsecond, hsame⟩ := exists_generate_folded "URL" (by decide)
  have hbatch : batch = {
      outcomes := [("Url", none), ("URL", none)]
      sink := { files := [(second.fileName, second.render)] } } :=
    generateAll_same_file hfirst hsecond (hfile.trans hsame.symm)
  have houtcomes : batch.outcomes = [("Url", none), ("URL", none)] :=
    congrArg Batch.outcomes hbatch
  have hsize : batch.sink.size = 1 := congrArg (fun b => b.sink.size) hbatch
  have hnames : (ds.map (·.name)).Nodup := by
    have hds : ds.map (·.name) = foldedNames := rfl
    rw [hds]
    decide
  refine ⟨hnames, congrArg Batch.halted hbatch, houtcomes, hsize, fun hkeeps => ?_⟩
  have hcount := hsize.symm.trans hkeeps.count
  rw [houtcomes] at hcount
  exact absurd hcount (by decide)

end Folded

end Rowsmith
