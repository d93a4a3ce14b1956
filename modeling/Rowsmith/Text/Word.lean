import Rowsmith.Text.Cluster
import Rowsmith.Text.LetterCase

/-!
# Words of a name

A name falls into words at separators, where the case of letters rises, around digits, and before
the last capital of a run that goes on in lower case. Its snake case form joins the words in lower
case by low lines.
-/

namespace Rowsmith.Text

/-- A cluster with two cases that stands in the upper one. -/
def isUpperCluster (cluster : List Char) : Bool :=
  uppercase cluster != lowercase cluster && cluster == uppercase cluster

/-- A cluster with two cases that stands in the lower one. -/
def isLowerCluster (cluster : List Char) : Bool :=
  uppercase cluster != lowercase cluster && cluster == lowercase cluster

/-- A cluster of decimal digits. -/
def isDigitCluster (cluster : List Char) : Bool :=
  cluster.all Char.isDigit

/-- A cluster that parts two words and belongs to neither. -/
def isSeparator (cluster : List Char) : Bool :=
  cluster == ['_'] || cluster == ['-'] || cluster == [' ']

/-- Whether a word ends after a cluster, given the clusters that follow. -/
def endsWord (cluster : List Char) : List (List Char) → Bool
  | [] => false
  | next :: rest =>
    (isLowerCluster cluster && (isUpperCluster next || isDigitCluster next))
      || (isUpperCluster cluster && isDigitCluster next)
      || (isDigitCluster cluster && (isLowerCluster next || isUpperCluster next))
      || (isUpperCluster cluster && isUpperCluster next && (rest.head?.any isLowerCluster))

/-- The words of a list of clusters, given the open word. -/
def wordsFrom (current : List Char) : List (List Char) → List (List Char)
  | [] => [current]
  | cluster :: rest =>
    if isSeparator cluster then current :: wordsFrom [] rest
    else if endsWord cluster rest then (current ++ cluster) :: wordsFrom [] rest
    else wordsFrom (current ++ cluster) rest

/-- The words of a name; two separators in a row enclose an empty word. -/
def wordsOf (cs : List Char) : List (List Char) :=
  wordsFrom [] (clusters cs)

/-- The words of a name in lower case, joined by low lines. -/
def snakeCase (name : String) : String :=
  String.ofList (['_'].intercalate ((wordsOf name.toList).map lowercase))

end Rowsmith.Text
