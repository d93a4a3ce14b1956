import Rowsmith.Derive.Annotation
import Rowsmith.Unit.Sink

/-!
# Annotated structs

A struct with named fields is a declaration, together with the enumerations that its fields note
and the path of the library that its accessors use.
-/

namespace Rowsmith.Derive
open Rowsmith.Accessor Rowsmith.Schema Rowsmith.Source Rowsmith.Text

/-- The path of the library, unless a struct names another. -/
def defaultRuntime : List Token := code ":: table_context"

/-- A declaration from source text. -/
structure Class where
  declaration : Declaration
  hints : Hints
  runtime : List Token

/-- Whether the accessors use the library at its own path. -/
def Class.hasDefaultRuntime (c : Class) : Bool :=
  Token.textAll c.runtime == Token.textAll defaultRuntime

/-- The text of a type without blanks. -/
def typeText (type : List Token) : String := dropBlanks (Token.textAll type)

/-- The enumeration that an annotation notes, if it is one that does. -/
def noteEnumeration (hints : Hints) (base : String) (a : Annotation) : Hints :=
  if a.is "skip" then hints
  else if a.is "enumeration" then
    hints.insert base ((a.argument? "repr" 0).bind fun argument =>
      Width.ofTypeText? argument.asText)
  else hints

/-- The property of a field, and the hints with what the field notes. -/
def propertyOf (hints : Hints) (field : Field) : Except Fault (Property × Hints) := do
  let type := typeText field.type
  let (base, nullable) := stripNullable type
  let annotations ← (field.attributes.filter (isNamed fieldAttributes)).mapM annotationOf
  let isSkipped := annotations.any (·.is "skip")
  let property : Property :=
    { name := field.name, type, nullable
      access := if isSkipped then .readOnly else .readWrite
      annotations }
  return (property, annotations.foldl (noteEnumeration · base ·) hints)

/-- The annotations of a struct and the faults of its attributes. -/
def classAnnotations : List Attribute → List Annotation × List Fault
  | [] => ([], [])
  | a :: rest =>
    let (annotations, faults) := classAnnotations rest
    match annotationOf a with
    | .ok first => (first :: annotations, faults)
    | .error fault => (annotations, fault :: faults)

/-- The properties of fields with the hints they note, and the first fault of each other field. -/
def classProperties (hints : Hints) : List Field → (List Property × List Fault) × Hints
  | [] => (([], []), hints)
  | field :: rest =>
    match propertyOf hints field with
    | .ok (property, hints) =>
      let ((properties, faults), hints) := classProperties hints rest
      ((property :: properties, faults), hints)
    | .error fault =>
      let ((properties, faults), hints) := classProperties hints rest
      ((properties, fault :: faults), hints)

/-- The path of the library that a declaration names. -/
def runtimeOf (d : Declaration) : Except Fault (List Token) :=
  match (d.annotationsNamed "table").findSome? (·.named? "runtime") with
  | none => .ok defaultRuntime
  | some argument =>
    match Phrase.ofText Phrase.wholePath argument.asText with
    | .ok path => .ok path
    | .error fault => .error (.runtime fault)

/-- The fields of a struct, if a declaration is one with named fields. -/
def namedFieldsOf : Shape → Except OtherShape (List Field)
  | .named fields => .ok fields
  | .unnamed 1 => .error .oneUnnamed
  | .unnamed _ => .error .unnamed
  | .unit => .error .noFields
  | .enumeration => .error .enumeration
  | .union => .error .union

/-- The class that a struct with the given fields declares, or all its faults. -/
def ofFields (item : Item) (fields : List Field) : Except (List Fault) Class :=
  let (annotations, classFaults) :=
    classAnnotations (item.attributes.filter (isNamed classAttributes))
  let ((properties, fieldFaults), hints) := classProperties {} fields
  let declaration : Declaration :=
    { name := item.name, visibility := Token.textAll item.visibility, annotations, properties }
  let faults := classFaults ++ fieldFaults
  match runtimeOf declaration with
  | .ok runtime =>
    if faults.isEmpty then .ok { declaration, hints, runtime } else .error faults
  | .error fault => .error (faults ++ [fault])

/-- The class that an item declares, or all its faults. -/
def ofItem (item : Item) : Except (List Fault) Class :=
  match namedFieldsOf item.shape with
  | .error shape => .error [.shape shape]
  | .ok fields => if item.isGeneric then .error [.generic] else ofFields item fields

/-- How the generation from an item stops. -/
inductive DeriveStop
  | faults (faults : List Fault)
  | unnameable (name : String)

/-- The tokens of the unit that is generated for an item. -/
def expand (item : Item) : Except DeriveStop (List Token) := do
  let c ← (ofItem item).mapError DeriveStop.faults
  let made := do (← generate c.hints.resolve c.runtime c.declaration).reread
  made.mapError fun
    | .error e => .faults [.generation e]
    | .unnameable name => .unnameable name

end Rowsmith.Derive
