import Rowsmith.Text.Word

/-!
# Words at the end of a name

A last word in camel case stays the end of the last word of the whole name: whatever stands before
it, its clusters are its letters, the first of which may stand behind others, and no word ends
among them.
-/

namespace Rowsmith.Text

section Clusters

/-- Whether a character joins no cluster but one that asks for more, and asks for none itself. -/
def StandsAlone (c : Char) : Prop :=
  clusterRole c = .plain ∧ isConjunctConsonant c = false ∧ isConjunctLinker c = false ∧
    isConjunctExtend c = false

instance (c : Char) : Decidable (StandsAlone c) :=
  inferInstanceAs (Decidable (_ ∧ _ ∧ _ ∧ _))

/-- What is remembered behind such a character asks for no more. -/
theorem StandsAlone.joins_after {c d : Char} (hc : StandsAlone c) (hd : StandsAlone d)
    (before : Option ClusterMemory) : (ClusterMemory.after before c).joins d = false := by
  obtain ⟨hrole, hconsonant, hlinker, hextend⟩ := hc
  have hconjunct : (ClusterMemory.after before c).conjunct = none := by
    simp only [ClusterMemory.after, hconsonant, hlinker, hextend]
    cases before.bind (·.conjunct) <;> rfl
  have hlast : (ClusterMemory.after before c).last = .plain := hrole
  simp [ClusterMemory.joins, hlast, hd.1, hconjunct]

/-- Such characters are clusters of their own behind another one. -/
theorem clustersFrom_after {c : Char} {cs : List Char} (hc : StandsAlone c)
    (hcs : ∀ d ∈ cs, StandsAlone d) (before : Option ClusterMemory) (current : List Char) :
    clustersFrom (.after before c) current cs = current.reverse :: cs.map fun d => [d] := by
  induction cs generalizing before c current with
  | nil => rfl
  | cons d cs ih =>
      have hd := hcs d List.mem_cons_self
      have hrest := fun e he => hcs e (List.mem_cons_of_mem d he)
      rw [clustersFrom, hc.joins_after hd before, if_neg (by decide), ih hd hrest]
      rfl

end Clusters

section Words

/-- Whether no word ends among clusters. -/
def isUnbroken : List (List Char) → Bool
  | [] => true
  | cluster :: rest => !isSeparator cluster && !endsWord cluster rest && isUnbroken rest

theorem wordsFrom_of_isUnbroken {cs : List (List Char)} (h : isUnbroken cs = true)
    (word : List Char) : wordsFrom word cs = [word ++ cs.flatten] := by
  induction cs generalizing word with
  | nil => simp [wordsFrom]
  | cons cluster rest ih =>
      simp only [isUnbroken, Bool.and_eq_true, Bool.not_eq_true'] at h
      rw [wordsFrom, h.1.1, if_neg (by decide), h.1.2, if_neg (by decide), ih h.2,
        List.flatten_cons, List.append_assoc]

/-- No word ends between a cluster that is not made of digits and a letter in lower case. -/
theorem endsWord_cons {cluster next : List Char} (hcluster : isDigitCluster cluster = false)
    (hupper : isUpperCluster next = false) (hdigit : isDigitCluster next = false)
    (rest : List (List Char)) : endsWord cluster (next :: rest) = false := by
  rw [endsWord, hcluster, hupper, hdigit]
  simp

end Words

end Rowsmith.Text
