import Rowsmith.Source.Grammar

/-!
# Precedence

Binary operators bind in eleven ranks. An operator of a higher rank takes its operands first; of
one rank, assignments group from the right and all others from the left.
-/

namespace Rowsmith.Source

/-- The ranks of operators, from the weakest on. -/
inductive Precedence
  | none | assignment | range | disjunction | conjunction | comparison | bitwiseOr | bitwiseXor
  | bitwiseAnd | shift | sum | product | cast
  deriving DecidableEq, Repr

namespace Precedence

/-- The place of a rank. -/
def rank : Precedence → Nat
  | none => 0
  | assignment => 1
  | range => 2
  | disjunction => 3
  | conjunction => 4
  | comparison => 5
  | bitwiseOr => 6
  | bitwiseXor => 7
  | bitwiseAnd => 8
  | shift => 9
  | sum => 10
  | product => 11
  | cast => 12

end Precedence

/-- The binary operators, each before those that it begins with. -/
def binaryOperators : List (String × Precedence) := [
  ("+=", .assignment), ("-=", .assignment), ("*=", .assignment), ("/=", .assignment),
  ("%=", .assignment), ("^=", .assignment), ("&=", .assignment), ("|=", .assignment),
  ("<<=", .assignment), (">>=", .assignment), ("&&", .conjunction), ("||", .disjunction),
  ("<<", .shift), (">>", .shift), ("==", .comparison), ("<=", .comparison), ("!=", .comparison),
  (">=", .comparison), ("+", .sum), ("-", .sum), ("*", .product), ("/", .product),
  ("%", .product), ("^", .bitwiseXor), ("&", .bitwiseAnd), ("|", .bitwiseOr), ("<", .comparison),
  (">", .comparison)]

namespace Token

/-- The binary operator at the front. -/
def binaryOperator? (tokens : List Token) : Option (String × Precedence) :=
  binaryOperators.find? fun (op, _) => startsOperator op.toList tokens

/-- Whether a plain assignment stands at the front. -/
def startsAssignment (tokens : List Token) : Bool :=
  startsOperator ['='] tokens && !startsOperator ['=', '>'] tokens

/-- The rank of the operator at the front. -/
def precedence (tokens : List Token) : Precedence :=
  match binaryOperator? tokens with
  | some (_, p) => p
  | none =>
    if startsAssignment tokens then .assignment
    else if startsOperator ['.', '.'] tokens then .range
    else if startsWord "as" tokens then .cast
    else .none

end Token

end Rowsmith.Source
