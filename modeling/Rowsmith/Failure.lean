/-!
# Failures of generation

Why a class yields no accessors. Each failure concerns one class.
-/

namespace Rowsmith

/-- Why a class yields no accessors. -/
inductive GenerationError
  | missingKey (className : String)
  | severalKeys (className : String) (columns : List String)
  | invalidLength (property value : String)
  | sharedBridge (className name first second : String)
  | unreadable (className reason : String)
  | unwritable (path : String)
  deriving DecidableEq, Repr

/-- The text of a failure. -/
def GenerationError.message : GenerationError → String
  | missingKey className =>
    "class `" ++ className ++ "` has no primary key; mark one property with #[primary_key]"
  | severalKeys className columns =>
    "class `" ++ className ++ "` declares more than one primary key: " ++ ", ".intercalate columns
  | invalidLength property value =>
    "invalid varchar length `" ++ value ++ "` on `" ++ property
      ++ "`: expected an integer in 0..=255"
  | sharedBridge className name first second =>
    "conversion bridge `" ++ name ++ "` of `" ++ className ++ "` is shared by `" ++ first
      ++ "` and `" ++ second ++ "`"
  | unreadable className reason =>
    "generated source for `" ++ className ++ "` does not parse: " ++ reason
  | unwritable path => "cannot write `" ++ path ++ "`"

/-- How generation stops: with an error, or for good, when a method is to be named by a text that
is no identifier. -/
inductive Stop
  | error (error : GenerationError)
  | unnameable (name : String)
  deriving DecidableEq, Repr

end Rowsmith
