import Rowsmith.Text.ClusterBreak

/-!
# Clusters

A text falls into extended grapheme clusters, the units a reader takes for characters. The rules
look at the next character and at a short memory of the cluster so far.
-/

namespace Rowsmith.Text

/-- What the rules remember of the text before a border. -/
structure ClusterMemory where
  last : ClusterRole
  /-- A consonant is open; the flag says whether a linker followed it. -/
  conjunct : Option Bool
  /-- A pictograph is open; the flag says whether a joiner followed it. -/
  pictograph : Option Bool
  /-- An odd number of regional indicators stands at the end. -/
  oddRegional : Bool

/-- The memory after a character. -/
def ClusterMemory.after (before : Option ClusterMemory) (c : Char) : ClusterMemory where
  last := clusterRole c
  conjunct :=
    if isConjunctConsonant c then some false
    else match before.bind (·.conjunct) with
      | some linked =>
        if isConjunctLinker c then some true
        else if isConjunctExtend c then some linked
        else none
      | none => none
  pictograph :=
    match clusterRole c, before.bind (·.pictograph) with
    | .pictograph, _ => some false
    | .extending, some false => some false
    | .joiner, some false => some true
    | _, _ => none
  oddRegional := clusterRole c == .regional && !(before.any (·.oddRegional))

/-- Whether a character goes on with the cluster before it. -/
def ClusterMemory.joins (before : ClusterMemory) (c : Char) : Bool :=
  match before.last, clusterRole c with
  | .carriageReturn, .lineFeed => true
  | .carriageReturn, _ | .lineFeed, _ | .control, _ => false
  | _, .carriageReturn | _, .lineFeed | _, .control => false
  | .hangulL, .hangulL | .hangulL, .hangulV | .hangulL, .hangulLV | .hangulL, .hangulLVT => true
  | .hangulLV, .hangulV | .hangulLV, .hangulT | .hangulV, .hangulV | .hangulV, .hangulT => true
  | .hangulLVT, .hangulT | .hangulT, .hangulT => true
  | _, .extending | _, .joiner | _, .spacing => true
  | .leading, _ => true
  | .joiner, .pictograph => before.pictograph == some true
  | .regional, .regional => before.oddRegional
  | _, _ => before.conjunct == some true && isConjunctConsonant c

/-- The clusters of a text, given the open cluster in reverse. -/
def clustersFrom (before : ClusterMemory) (current : List Char) : List Char → List (List Char)
  | [] => [current.reverse]
  | c :: rest =>
    if before.joins c then clustersFrom (.after (some before) c) (c :: current) rest
    else current.reverse :: clustersFrom (.after (some before) c) [c] rest

/-- The clusters of a text, in order. -/
def clusters : List Char → List (List Char)
  | [] => []
  | c :: rest => clustersFrom (.after none c) [c] rest

theorem clustersFrom_flatten (before : ClusterMemory) (current rest : List Char) :
    (clustersFrom before current rest).flatten = current.reverse ++ rest := by
  induction rest generalizing before current with
  | nil => simp [clustersFrom]
  | cons c rest ih =>
    unfold clustersFrom
    split <;> simp [ih]

/-- The clusters of a text make up the text. -/
theorem clusters_flatten (cs : List Char) : (clusters cs).flatten = cs := by
  cases cs <;> simp [clusters, clustersFrom_flatten]

end Rowsmith.Text
