import Rowsmith.Unit.Basic

/-!
# Sinks

Units are written to a sink: a memory that keeps the latest source of each file, or a directory. Of
many classes each succeeds or fails alone.
-/

namespace Rowsmith
open Rowsmith.Accessor Rowsmith.Schema Rowsmith.Source

/-- A place that files are written to. -/
class Sink (σ : Type) where
  /-- Writes a file with a name and a source. -/
  add : σ → String → String → Except GenerationError σ

/-- Files in memory, in ascending order of their names. -/
structure MemorySink where
  files : List (String × String) := []
  deriving DecidableEq, Repr

namespace MemorySink

/-- Files with one file put in its place. -/
def insertFile (name source : String) : List (String × String) → List (String × String)
  | [] => [(name, source)]
  | (n, s) :: rest =>
    if name < n then (name, source) :: (n, s) :: rest
    else if n = name then (name, source) :: rest
    else (n, s) :: insertFile name source rest

/-- Keeps a file; the latest source of a name counts. -/
def insert (sink : MemorySink) (name source : String) : MemorySink :=
  { files := insertFile name source sink.files }

/-- The source of a file. -/
def get? (sink : MemorySink) (name : String) : Option String := sink.files.lookup name

/-- The names of the files in order. -/
def names (sink : MemorySink) : List String := sink.files.map Prod.fst

/-- The number of files. -/
def size (sink : MemorySink) : Nat := sink.files.length

/-- Whether there is no file. -/
def isEmpty (sink : MemorySink) : Bool := sink.files.isEmpty

theorem lookup_insertFile (files : List (String × String)) (name source other : String) :
    (insertFile name source files).lookup other =
      if other = name then some source else files.lookup other := by
  induction files with
  | nil =>
    by_cases h : other = name <;> simp [insertFile, h, List.lookup_cons, beq_eq_false_iff_ne.2]
  | cons f rest ih =>
    obtain ⟨n, s⟩ := f
    have hit (t : String) (later : List (String × String)) :
        ((t, source) :: later).lookup other =
        if other = t then some source else later.lookup other := by
      by_cases h : other = t
      · simp [h]
      · simp [List.lookup_cons, beq_eq_false_iff_ne.2 h, h]
    simp only [insertFile]
    split
    · exact hit name _
    · split
      · next h =>
        subst h
        rw [hit n]
        by_cases h : other = n
        · simp [h]
        · simp [List.lookup_cons, beq_eq_false_iff_ne.2 h]
      · next h =>
        by_cases e : other = n
        · subst e
          simp [h]
        · simp [List.lookup_cons, beq_eq_false_iff_ne.2 e, ih]

theorem get?_insert (sink : MemorySink) (name source other : String) :
    (sink.insert name source).get? other =
      if other = name then some source else sink.get? other :=
  lookup_insertFile _ _ _ _

end MemorySink

instance : Sink MemorySink where
  add sink name source := .ok (sink.insert name source)

/-- The unit of a declaration, known to be readable again. -/
def generate (resolver : Resolver) (runtime : List Token) (d : Declaration) :
    Make GeneratedUnit := do
  let table ← (extract resolver d).mapError Stop.error
  let unit ← GeneratedUnit.ofTable table d.visibility runtime
  let _ ← unit.reread
  return unit

/-- Generates a class and writes its unit to a sink. -/
def generateInto {σ : Type} [Sink σ] (resolver : Resolver) (runtime : List Token) (sink : σ)
    (d : Declaration) : Make σ := do
  let unit ← generate resolver runtime d
  (Sink.add sink unit.fileName unit.render).mapError Stop.error

/-- What became of a list of classes: the outcome of each in order, the sink after them, and the
name of the method, if any, that cannot be named and so ends the work at its class. -/
structure Batch (σ : Type) where
  outcomes : List (String × Option GenerationError) := []
  sink : σ
  halted : Option String := none

namespace Batch

/-- The outcomes of later classes behind the one of a first class. -/
def after {σ : Type} (later : Batch σ) (name : String)
    (outcome : Option GenerationError) : Batch σ :=
  { later with outcomes := (name, outcome) :: later.outcomes }

end Batch

/-- Generates classes one after the other. A class that fails leaves the sink as it was. -/
def generateAll {σ : Type} [Sink σ] (resolver : Resolver) (runtime : List Token) (sink : σ) :
    List Declaration → Batch σ
  | [] => { sink }
  | d :: rest =>
    match generateInto resolver runtime sink d with
    | .ok next => (generateAll resolver runtime next rest).after d.name none
    | .error (.error e) => (generateAll resolver runtime sink rest).after d.name (some e)
    | .error (.unnameable method) => { sink, halted := some method }

end Rowsmith
