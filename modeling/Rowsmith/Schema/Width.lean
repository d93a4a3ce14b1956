import Rowsmith.Schema.ColumnType

/-!
# Widths of enumerations

An enumeration is held by its discriminant, an integer of some width; without a known width it is
held like one of 32 bits.
-/

namespace Rowsmith.Schema

/-- The width of an integer type. -/
inductive Width
  | w8 | w16 | w32 | w64
  deriving DecidableEq, Repr

/-- The folded texts of the integer types and their widths. -/
def integerTypes : List (String × Width) := [
  ("i8", .w8), ("u8", .w8), ("i16", .w16), ("u16", .w16), ("i32", .w32), ("u32", .w32),
  ("i64", .w64), ("u64", .w64), ("isize", .w64), ("usize", .w64)]

namespace Width

/-- The width of the integer type that a text names. -/
def ofTypeText? (text : String) : Option Width :=
  integerTypes.lookup (normalize text)

/-- The column type that holds a discriminant. -/
def columnType : Option Width → ColumnType
  | some w8 | some w16 => .smallInt
  | some w64 => .bigInt
  | some w32 | none => .integer

/-- The integer type that a discriminant is cast to. -/
def discriminantType : Option Width → String
  | some w8 | some w16 => "i16"
  | some w64 => "i64"
  | some w32 | none => "i32"

end Width

/-- What is known of a type: a plain one, an enumeration, or a nullable one. -/
inductive Resolution
  | scalar
  | enumeration (width : Option Width)
  | nullable (inner : Resolution)
  deriving DecidableEq, Repr

namespace Resolution

/-- The width of an enumeration, which may be unknown; none for other types. -/
def enumWidth? : Resolution → Option (Option Width)
  | scalar => none
  | enumeration width => some width
  | nullable inner => inner.enumWidth?

/-- Whether the outermost type is nullable. -/
def isNullable : Resolution → Bool
  | nullable _ => true
  | _ => false

end Resolution

/-- Tells what is known of a type text. -/
abbrev Resolver := String → Resolution

/-- Knows of no type. -/
def plainResolver : Resolver := fun _ => .scalar

/-- The enumerations that are known, by folded type text, the latest first. -/
structure Hints where
  entries : List (String × Option Width) := []
  deriving DecidableEq, Repr

namespace Hints

/-- Notes an enumeration; a later note on a type takes the place of an earlier one. -/
def insert (h : Hints) (text : String) (width : Option Width) : Hints :=
  { entries := (normalize text, width) :: h.entries }

/-- What the notes tell of a type. -/
def resolve (h : Hints) : Resolver := fun text =>
  match h.entries.lookup (normalize text) with
  | some width => .enumeration width
  | none => .scalar

/-- Whether nothing has been noted. -/
def isEmpty (h : Hints) : Bool := h.entries.isEmpty

@[simp] theorem resolve_empty (text : String) : resolve {} text = .scalar := rfl

theorem resolve_insert (h : Hints) (text other : String) (width : Option Width) :
    (h.insert text width).resolve other =
      if normalize other = normalize text then .enumeration width else h.resolve other := by
  simp only [insert, resolve, List.lookup_cons]
  by_cases e : normalize other = normalize text
  · simp [e]
  · simp only [beq_eq_false_iff_ne.2 e, if_neg e]

end Hints

end Rowsmith.Schema
