import Rowsmith.Failure
import Rowsmith.Source.SyntaxFault

/-!
# Faults of annotated structs

Why a declaration in source text yields no accessors. All faults of attributes are reported, in
order.
-/

namespace Rowsmith.Derive
open Rowsmith.Source

/-- What a declaration declares, if not a struct with named fields. -/
inductive OtherShape
  | enumeration | union | noFields | oneUnnamed | unnamed
  deriving DecidableEq, Repr

/-- The text of a shape that is not supported. -/
def OtherShape.message : OtherShape → String
  | enumeration => "Unsupported shape `enum`. Expected struct with named fields."
  | union => "Unsupported shape `union`. Expected struct with named fields."
  | noFields => "Unsupported shape `no fields`. Expected named fields."
  | oneUnnamed => "Unsupported shape `one unnamed field`. Expected named fields."
  | unnamed => "Unsupported shape `unnamed fields`. Expected named fields."

/-- Why a declaration in source text yields no accessors. -/
inductive Fault
  | shape (found : OtherShape)
  | generic
  /-- The arguments of an attribute are malformed. -/
  | arguments (fault : SyntaxFault)
  /-- The target of a named argument is no plain name. -/
  | argumentName
  | runtime (fault : SyntaxFault)
  | generation (error : GenerationError)
  deriving DecidableEq, Repr

/-- The text of a fault. -/
def Fault.message : Fault → String
  | shape found => found.message
  | generic => "#[derive(Table)] does not support generic structs"
  | arguments fault => fault.message
  | argumentName => "expected `name = value` with a plain name"
  | runtime fault => "invalid runtime path: " ++ fault.message
  | generation error => error.message

end Rowsmith.Derive
