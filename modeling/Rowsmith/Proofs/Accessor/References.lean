import Rowsmith.Derive.Annotation
import Rowsmith.Proofs.Accessor.Agreement
import Rowsmith.Proofs.Schema.ExtractionFailure

/-!
# References of columns

A column refers to what the last annotation says that gives both a table and a field. Each of the
two is looked up by its name and else at a position of its own, and positions count only the
arguments without names. A field behind a named table is therefore not found, and the reference is
lost without notice.
-/

namespace Rowsmith.Sql

/-- The text of a reference behind the definition of a column. -/
def referenceText : Option (String × String) → String
  | some (table, field) => " REFERENCES " ++ table ++ "(" ++ field ++ ")"
  | none => ""

/-- A clause behind all others is the end of a definition. -/
theorem ColumnDefinition.text_of_clauses {c c' : ColumnDefinition} {clause : String}
    (hclauses : c'.clauses = c.clauses ++ [clause]) (hname : c'.name = c.name) :
    c'.text = c.text ++ (" " ++ clause) := by
  rw [text, hname, hclauses, ← List.cons_append,
    String.intercalate_append_of_ne_nil (by simp) (by simp), String.intercalate_singleton, text,
    String.append_assoc]

/-- A reference is written behind all else that defines a column. -/
theorem ColumnDefinition.text_eq (c : ColumnDefinition) :
    c.text = { c with references := none }.text ++ referenceText c.references := by
  cases hreferences : c.references with
  | none =>
      show c.text = { c with references := none }.text ++ ""
      rw [String.append_empty, ← hreferences]
  | some reference =>
      obtain ⟨table, field⟩ := reference
      have hclauses : c.clauses = { c with references := none }.clauses ++
          ["REFERENCES " ++ table ++ "(" ++ field ++ ")"] := by
        simp [clauses, hreferences]
      have htext : " REFERENCES " ++ table ++ "(" ++ field ++ ")" =
          " " ++ ("REFERENCES " ++ table ++ "(" ++ field ++ ")") := by
        simp only [String.append_assoc]
        rfl
      show c.text = _ ++ (" REFERENCES " ++ table ++ "(" ++ field ++ ")")
      rw [htext]
      exact text_of_clauses hclauses rfl

end Rowsmith.Sql

namespace Rowsmith.Schema
open Outcome Sql

/-- An argument as it is written, behind a name or on its own. -/
structure WrittenArgument where
  name? : Option String
  value : Argument
  deriving DecidableEq, Repr

/-- An argument that is meant for a word: it has no name or goes by the word. -/
def WrittenArgument.IsFor (w : WrittenArgument) (word : String) : Prop :=
  ∀ name ∈ w.name?, canonicalName name = canonicalName word

instance (w : WrittenArgument) (word : String) : Decidable (w.IsFor word) :=
  inferInstanceAs (Decidable (∀ name ∈ w.name?, canonicalName name = canonicalName word))

namespace Annotation

/-- Adds an argument as it is written. -/
def addWritten (a : Annotation) (w : WrittenArgument) : Annotation :=
  match w.name? with
  | some name => a.addNamed name w.value
  | none => a.addPositional w.value

/-- The annotation of a name that is written with arguments in order. -/
def ofWritten (name : String) (written : List WrittenArgument) : Annotation :=
  written.foldl addWritten { name }

variable {a : Annotation} {name : String}

theorem length_addWritten (a : Annotation) (w : WrittenArgument) :
    (a.addWritten w).positional.length + (a.addWritten w).named.length =
      a.positional.length + a.named.length + 1 := by
  unfold addWritten
  cases w.name? with
  | some name => simp [addNamed, Nat.add_assoc]
  | none => simp [addPositional, Nat.add_right_comm]

/-- No written argument gets lost. -/
theorem length_ofWritten (name : String) (written : List WrittenArgument) :
    (ofWritten name written).positional.length + (ofWritten name written).named.length =
      written.length := by
  have hfold : ∀ a : Annotation, (written.foldl addWritten a).positional.length +
      (written.foldl addWritten a).named.length =
        a.positional.length + a.named.length + written.length := by
    induction written with
    | nil => exact fun a => rfl
    | cons w written ih =>
        intro a
        rw [List.foldl_cons, ih, length_addWritten, List.length_cons]
        omega
  rw [ofWritten, hfold]
  exact Nat.zero_add _

/-- An argument that is found is among the named ones or stands at its position. -/
theorem argument?_cases {index : Nat} {argument : Argument}
    (h : a.argument? name index = some argument) :
    (∃ entry ∈ a.named, canonicalName entry.1 = canonicalName name) ∨
      index < a.positional.length := by
  rcases Option.or_eq_some_iff.mp (Option.orElse_eq_or.symm.trans h) with h | ⟨-, h⟩
  · obtain ⟨entry, hentry, -⟩ := Option.map_eq_some_iff.mp h
    exact Or.inl ⟨entry, List.mem_of_find?_eq_some hentry,
      by simpa using List.find?_some hentry⟩
  · exact Or.inr (List.getElem?_eq_some_iff.mp h).1

theorem reference?_eq_some_iff {reference : String × String} :
    a.reference? = some reference ↔ a.is "foreign_key" = true ∧
      ∃ table field, a.argument? "table" 0 = some table ∧ a.argument? "field" 1 = some field ∧
        (table.asText, field.asText) = reference := by
  rw [reference?]
  by_cases his : a.is "foreign_key" = true
  · rw [if_pos his]
    cases htable : a.argument? "table" 0 with
    | none => simp
    | some table =>
        cases hfield : a.argument? "field" 1 with
        | none => simp
        | some field => simp [his]
  · rw [if_neg his]
    simp [his]

/-- An annotation with fewer than two arguments refers to nothing: a named argument gives one of
table and field at most, and the field's position is the second. -/
theorem reference?_eq_none (h : a.positional.length + a.named.length < 2) :
    a.reference? = none := by
  by_contra hne
  obtain ⟨reference, hreference⟩ := Option.ne_none_iff_exists'.mp hne
  obtain ⟨-, table, field, htable, hfield, -⟩ := reference?_eq_some_iff.mp hreference
  -- Where both are named, one argument would have two names.
  rcases argument?_cases hfield with ⟨entry, hentry, hname⟩ | hpositional
  · have hnamed : 0 < a.named.length := List.length_pos_of_mem hentry
    rcases argument?_cases htable with ⟨other, hother, hname'⟩ | hpositional
    · obtain ⟨only, honly⟩ := List.length_eq_one_iff.mp (by omega : a.named.length = 1)
      rw [honly, List.mem_singleton] at hentry hother
      subst hentry hother
      exact absurd (hname.symm.trans hname') (by decide)
    · omega
  · omega

/-- A table and a field behind it are found, unless the table alone is named. -/
theorem reference?_ofWritten {table field : WrittenArgument}
    (his : (ofWritten name [table, field]).is "foreign_key" = true) (htable : table.IsFor "table")
    (hfield : field.IsFor "field") :
    (ofWritten name [table, field]).reference? =
      if table.name?.isSome && field.name?.isNone then none
      else some (table.value.asText, field.value.asText) := by
  obtain ⟨tableName, table⟩ := table
  obtain ⟨fieldName, field⟩ := field
  have hword : canonicalName "field" ≠ canonicalName "table" := by decide
  rw [reference?, if_pos his]
  cases tableName with
  | none =>
      cases fieldName with
      | none => rfl
      | some fieldName =>
          have hf : canonicalName fieldName = canonicalName "field" := hfield _ rfl
          simp [ofWritten, addWritten, addNamed, addPositional, argument?, named?, hf, hword]
  | some tableName =>
      have ht : canonicalName tableName = canonicalName "table" := htable _ rfl
      cases fieldName with
      | none =>
          simp [ofWritten, addWritten, addNamed, addPositional, argument?, named?, ht, hword.symm]
      | some fieldName =>
          have hf : canonicalName fieldName = canonicalName "field" := hfield _ rfl
          simp [ofWritten, addWritten, addNamed, argument?, named?, ht, hf, hword.symm]

end Annotation

namespace Marks
open Annotation

variable {property : String} {m m' : Marks}

/-- Annotations take the reference of a column to the last one that they give. -/
theorem foldlM_reference {annotations : List Annotation}
    (h : annotations.foldlM (annotate property) m = .ok m') :
    m'.reference = (annotations.filterMap reference?).getLast?.or m.reference ∧
      m'.isForeignKey = (m.isForeignKey || annotations.any (·.is "foreign_key")) := by
  induction annotations generalizing m with
  | nil =>
      obtain rfl := pure_eq_ok_iff.mp h
      simp
  | cons a annotations ih =>
      rw [List.foldlM_cons] at h
      obtain ⟨m₁, hm₁, hrest⟩ := bind_eq_ok_iff.mp h
      obtain ⟨-, rfl⟩ := annotate_eq_ok_iff.mp hm₁
      obtain ⟨hreferences, hforeigns⟩ := ih hrest
      constructor
      · rw [hreferences, reference_after, List.filterMap_cons]
        cases a.reference? with
        | none => rfl
        | some first =>
            show _ = (first :: _).getLast?.or m.reference
            rw [List.getLast?_cons]
            cases (annotations.filterMap reference?).getLast? <;> rfl
      · rw [hforeigns, isForeignKey_after, List.any_cons, Bool.or_assoc]

end Marks

/-- What the annotations of a property refer to: what the last one does that gives both a table and
a field. -/
def Property.reference? (p : Property) : Option (String × String) :=
  (p.annotations.filterMap Annotation.reference?).getLast?

/-- The annotations of a property that are to make a reference. -/
def Property.foreignKeys (p : Property) : List Annotation :=
  p.annotations.filter (·.is "foreign_key")

/-- Only the annotations that are to make a reference do. -/
theorem Property.reference?_eq (p : Property) :
    p.reference? = (p.foreignKeys.filterMap Annotation.reference?).getLast? := by
  have honly : (fun a : Annotation => if a.is "foreign_key" = true then a.reference? else none) =
      Annotation.reference? := by
    funext a
    by_cases h : a.is "foreign_key" = true
    · rw [if_pos h]
    · rw [if_neg h, Annotation.reference?, if_neg h]
  rw [reference?, foreignKeys, List.filterMap_filter, honly]

theorem Property.reference?_of_foreignKeys {p : Property} {a : Annotation}
    (h : p.foreignKeys = [a]) : p.reference? = a.reference? := by
  rw [reference?_eq, h]
  cases ha : a.reference? <;> simp [ha]

theorem Property.any_of_reference? {p : Property} (h : p.reference?.isSome = true) :
    p.annotations.any (·.is "foreign_key") = true := by
  obtain ⟨reference, hreference⟩ := Option.isSome_iff_exists.mp h
  obtain ⟨a, hmem, ha⟩ := List.mem_filterMap.mp (List.mem_of_getLast? hreference)
  have hforeign := Annotation.reference?_eq_some_iff.mp ha
  exact List.any_eq_true.mpr ⟨a, hmem, hforeign.1⟩

/-- A column that refers to what the annotations of its property say. -/
structure Column.Refers (p : Property) (c : Column) : Prop where
  foreign : c.isForeignKey = p.annotations.any (·.is "foreign_key")
  table : c.referenceTable = p.reference?.map Prod.fst
  field : c.referenceField = p.reference?.map Prod.snd
  references : c.references = p.reference?
  text : c.definition.text =
    { c.definition with references := none }.text ++ referenceText c.references
  /-- One annotation with a table and then a field makes a reference, unless the table alone is
  named. -/
  given : ∀ name table field, p.foreignKeys = [.ofWritten name [table, field]] →
    table.IsFor "table" → field.IsFor "field" →
    c.references = if table.name?.isSome && field.name?.isNone then none
      else some (table.value.asText, field.value.asText)
  /-- One annotation with fewer arguments makes none. -/
  few : ∀ name written, p.foreignKeys = [.ofWritten name written] → written.length < 2 →
    c.references = none

theorem refers_columnWith (resolver : Resolver) {p : Property} {m : Marks}
    (h : marksOf p = .ok m) : (columnWith resolver p m).Refers p := by
  obtain ⟨hreference, hforeign⟩ := Marks.foldlM_reference h
  have hreference : m.reference = p.reference? := hreference.trans Option.or_none
  have hforeign : m.isForeignKey = p.annotations.any (·.is "foreign_key") :=
    hforeign.trans (Bool.false_or _)
  have hreferences : (columnWith resolver p m).references = p.reference? := by
    simp only [Column.references, columnWith, hreference, hforeign]
    cases hp : p.reference? with
    | none => rfl
    | some reference => simp [Property.any_of_reference? (p := p) (by simp [hp])]
  constructor
  · exact hforeign
  · exact congrArg (Option.map Prod.fst) hreference
  · exact congrArg (Option.map Prod.snd) hreference
  · exact hreferences
  · exact ColumnDefinition.text_eq _
  · intro name table field hkeys htable hfield
    have hmem : Annotation.ofWritten name [table, field] ∈ p.foreignKeys :=
      hkeys ▸ List.mem_singleton_self _
    rw [hreferences, Property.reference?_of_foreignKeys hkeys,
      Annotation.reference?_ofWritten (List.mem_filter.mp hmem).2 htable hfield]
  · intro name written hkeys hfew
    have hlength := Annotation.length_ofWritten name written
    rw [hreferences, Property.reference?_of_foreignKeys hkeys]
    exact Annotation.reference?_eq_none (hlength.trans_lt hfew)

end Rowsmith.Schema

namespace Rowsmith.Derive
open Outcome Schema Source

/-- How an expression is written as an argument of an attribute: an assignment gives it a name. -/
def writtenOf? : Expression → Option WrittenArgument
  | .assignment (some name) value _ => some ⟨some name, argumentOf value⟩
  | .assignment none _ _ => none
  | e => some ⟨none, argumentOf e⟩

theorem addArgument_eq_ok_iff {a b : Annotation} {e : Expression} :
    addArgument a e = .ok b ↔ ∃ w, writtenOf? e = some w ∧ a.addWritten w = b := by
  cases e with
  | assignment target value tokens =>
      cases target <;> simp [addArgument, writtenOf?, Annotation.addWritten]
  | _ => simp [addArgument, writtenOf?, Annotation.addWritten]

theorem foldlM_addArgument_eq_ok_iff {es : List Expression} {a b : Annotation} :
    es.foldlM addArgument a = .ok b ↔
      ∃ written, List.Forall₂ (fun e w => writtenOf? e = some w) es written ∧
        written.foldl Annotation.addWritten a = b := by
  induction es generalizing a with
  | nil => simp
  | cons e es ih =>
      simp only [List.foldlM_cons, bind_eq_ok_iff, addArgument_eq_ok_iff, ih,
        List.forall₂_cons_left_iff]
      constructor
      · rintro ⟨_, ⟨w, hw, rfl⟩, written, hwritten, rfl⟩
        exact ⟨w :: written, ⟨w, written, hw, hwritten, rfl⟩, rfl⟩
      · rintro ⟨_, ⟨w, written, hw, hwritten, rfl⟩, rfl⟩
        exact ⟨_, ⟨w, hw, rfl⟩, written, hwritten, rfl⟩

/-- The annotation of an attribute has the arguments of the attribute as they are written. -/
theorem annotationOf_eq_ok_iff {source : Attribute} {delimiter : Delimiter}
    {tokens : List Token} {es : List Expression} {a : Annotation}
    (hcontent : source.content = .arguments delimiter tokens)
    (hread : Phrase.whole Phrase.argumentList tokens = .ok es) :
    annotationOf source = .ok a ↔
      ∃ written, List.Forall₂ (fun e w => writtenOf? e = some w) es written ∧
        .ofWritten source.name written = a := by
  rw [annotationOf, hcontent]
  simp only [hread]
  exact foldlM_addArgument_eq_ok_iff

end Rowsmith.Derive

namespace Rowsmith.Accessor
open Outcome Schema Sql

variable {resolver : Resolver} {d : Declaration} {t : Table}

/-- Every column of a table refers to what the annotations of its property say, and the text that
creates the table has the text of each column. -/
theorem refers_of_extract (ht : extract resolver d = .ok t) :
    List.Forall₂ Column.Refers d.columnProperties t.columns ∧
      ∀ ifAbsent, (t.createStatement ifAbsent).text =
        createText ifAbsent t.name
          (t.columns.map (·.definition.text) ++ t.uniques.map uniqueText) := by
  refine ⟨(columns_of_extract ht).imp fun p c hc => ?_, createStatement_text t⟩
  obtain ⟨m, hm, rfl⟩ := hc
  exact refers_columnWith resolver hm

/-- A class of orders that are placed by users, with the arguments that refer to these. -/
def order (written : List WrittenArgument) : Declaration :=
  { name := "Order"
    properties := [
      { name := "id", type := "i64", annotations := [{ name := "primary_key" }] },
      { name := "user_id", type := "i64", annotations := [.ofWritten "foreign_key" written] }] }

/-- The table of the class, with what its last column refers to. -/
def orderTable (reference : Option (String × String)) : Table :=
  { name := "Order"
    className := "Order"
    key := { name := "id", propertyName := "id", propertyType := "i64", columnType := .bigInt
             isPrimaryKey := true }
    columns := [
      { name := "id", propertyName := "id", propertyType := "i64", columnType := .bigInt
        isPrimaryKey := true },
      { name := "user_id", propertyName := "user_id", propertyType := "i64", columnType := .bigInt
        isForeignKey := true, referenceTable := reference.map Prod.fst
        referenceField := reference.map Prod.snd }] }

/-- A field may be named behind a table that is not. -/
theorem refers_order :
    let named := order [⟨none, .text "users"⟩, ⟨some "field", .text "id"⟩]
    extract plainResolver named = .ok (orderTable (some ("users", "id"))) ∧
      List.Forall₂ Column.Refers named.columnProperties
        (orderTable (some ("users", "id"))).columns ∧
      ((orderTable (some ("users", "id"))).createStatement false).text =
        "CREATE TABLE Order (\n    id BIGINT PRIMARY KEY,\n" ++
          "    user_id BIGINT NOT NULL REFERENCES users(id)\n);" := by
  intro named
  have ht : extract plainResolver named = .ok (orderTable (some ("users", "id"))) := by
    decide +kernel
  exact ⟨ht, (refers_of_extract ht).1, by decide +kernel⟩

/-- A field behind a named table is not found: the column is marked as a foreign key and refers to
nothing. -/
theorem not_refers_order :
    extract plainResolver (order [⟨some "table", .text "users"⟩, ⟨none, .text "id"⟩]) =
        .ok (orderTable none) ∧
      ((orderTable none).createStatement false).text =
        "CREATE TABLE Order (\n    id BIGINT PRIMARY KEY,\n    user_id BIGINT NOT NULL\n);" := by
  decide +kernel

end Rowsmith.Accessor
