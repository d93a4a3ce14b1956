import Rowsmith.Proofs.Schema.Extraction

/-!
# Lookups of types

A lookup sees a type text without its blanks and with its ASCII letters in lower case. Texts that
agree in that form have the same column type, the same width and the same notes on them. The tables
of host types and of integer types are written on their own; they agree on which types are integers,
and the width of an integer type has the column type that the integer type itself has.
-/

namespace Rowsmith.Schema
open Text

/-- Whether two texts are the same but for blanks and the case of ASCII letters. -/
def SpeltAlike (s t : String) : Prop := (dropBlanks s).toLower = (dropBlanks t).toLower

section Spelling

theorem toList_toLower_dropBlanks (text : String) :
    (dropBlanks text).toLower.toList = (text.toList.filter (!isBlank ·)).map Char.toLower := by
  show (String.map Char.toLower (dropBlanks text)).toList = _
  rw [String.toList_map, toList_dropBlanks]

theorem speltAlike_iff {s t : String} : SpeltAlike s t ↔
    (s.toList.filter (!isBlank ·)).map Char.toLower =
      (t.toList.filter (!isBlank ·)).map Char.toLower := by
  rw [SpeltAlike, ← String.toList_inj, toList_toLower_dropBlanks, toList_toLower_dropBlanks]

instance (s t : String) : Decidable (SpeltAlike s t) := decidable_of_iff _ speltAlike_iff.symm

theorem foldLetter_eq (c : Char) : foldLetter c = c.toLower := by
  by_cases h : 'A' ≤ c ∧ c ≤ 'Z'
  · have hall : ∀ n ≤ 90, 65 ≤ n → Char.ofNat (n + 32) = (Char.ofNat n).toLower := by decide
    rw [foldLetter, if_pos h]
    simpa using hall c.toNat h.2 h.1
  · have hval : ¬ (c.val ≥ 'A'.val ∧ c.val ≤ 'Z'.val) := h
    rw [foldLetter, if_neg h]
    symm
    exact dif_neg hval

/-- The folded spelling of a text is made from its form without blanks and capitals. -/
theorem normalize_eq (text : String) :
    normalize text = primitivePaths.foldl (fun t path => replace t path "")
      (withoutStart "::" (dropBlanks text).toLower) := by
  have hcompact : (dropBlanks text).toLower =
      String.ofList ((text.toList.filter (!isBlank ·)).map foldLetter) := by
    apply String.toList_injective
    rw [toList_toLower_dropBlanks, String.toList_ofList]
    exact List.map_congr_left fun c _ => (foldLetter_eq c).symm
  rw [hcompact, normalize]

theorem SpeltAlike.normalize_eq {s t : String} (h : SpeltAlike s t) :
    normalize s = normalize t := by
  rw [Schema.normalize_eq s, Schema.normalize_eq t, h]

end Spelling

namespace Hints

/-- Notes enumerations, one after the other. -/
def insertAll (h : Hints) (notes : List (String × Option Width)) : Hints :=
  notes.foldl (fun h note => h.insert note.1 note.2) h

/-- Whether two sets of hints tell the same of texts that are spelt alike. -/
def Alike (h k : Hints) : Prop := ∀ s t, SpeltAlike s t → h.resolve s = k.resolve t

theorem Alike.refl (h : Hints) : Alike h h := by
  intro s t hst
  simp only [resolve, hst.normalize_eq]

/-- A note keeps hints alike, in whatever spelling it is taken. -/
theorem Alike.insert {h k : Hints} (hk : Alike h k) {s t : String} (hst : SpeltAlike s t)
    (width : Option Width) : Alike (h.insert s width) (k.insert t width) := by
  intro x y hxy
  rw [resolve_insert, resolve_insert, hxy.normalize_eq, hst.normalize_eq, hk x y hxy]

/-- Notes of the same widths on texts that are spelt alike keep hints alike. -/
theorem Alike.insertAll {notes others : List (String × Option Width)}
    (hnotes : List.Forall₂ (fun m n => SpeltAlike m.1 n.1 ∧ m.2 = n.2) notes others)
    {h k : Hints} (hk : Alike h k) : Alike (h.insertAll notes) (k.insertAll others) := by
  induction hnotes generalizing h k with
  | nil => exact hk
  | @cons note other _ _ hnote _ ih =>
      obtain ⟨hspelt, hwidth⟩ := hnote
      have hnext := ih (hk.insert hspelt note.2)
      rw [hwidth] at hnext
      rwa [Hints.insertAll, List.foldl_cons, hwidth]

end Hints

section Tables

/-- The column types that hold integers. -/
def ColumnType.integral : List ColumnType := [.smallInt, .integer, .bigInt]

theorem mapHostType_eq_native_iff {text : String} {c : ColumnType} :
    mapHostType text = ⟨c, false⟩ ↔ nativeType? text = some c := by
  rcases mapHostType_cases text with ⟨type, hn, hm⟩ | ⟨hn, hm⟩
  · rw [hn, hm]
    simp
  · rw [hn, hm]
    simp

/-- An integer type is a host type, held in the column of its width. -/
theorem lookup_nativeTypes {key : String} {w : Width} (h : integerTypes.lookup key = some w) :
    nativeTypes.lookup key = some (Width.columnType (some w)) := by
  have hall : ∀ entry ∈ integerTypes,
      nativeTypes.lookup entry.1 = some (Width.columnType (some entry.2)) := by decide
  exact hall _ (mem_of_lookup h)

/-- A host type in an integer column is an integer type, whose width has that column. -/
theorem exists_width {key : String} {c : ColumnType} (h : nativeTypes.lookup key = some c)
    (hc : c ∈ ColumnType.integral) :
    ∃ w, integerTypes.lookup key = some w ∧ Width.columnType (some w) = c := by
  have hall : ∀ entry ∈ nativeTypes, entry.2 ∈ ColumnType.integral →
      (integerTypes.lookup entry.1).map (fun w => Width.columnType (some w)) = some entry.2 := by
    decide
  exact Option.map_eq_some_iff.mp (hall _ (mem_of_lookup h) hc)

end Tables

/-- Texts that are spelt alike are looked up alike: they are held in the same way, have the same
width, and are resolved in the same way after any notes, even if the notes are only spelt alike. A
text with a width is held as it is in the column of that width, and a text that is held as it is in
an integer column has a width with that column. -/
theorem lookups_agree :
    (∀ s t : String, SpeltAlike s t →
      mapHostType s = mapHostType t ∧ Width.ofTypeText? s = Width.ofTypeText? t ∧
        ∀ notes others : List (String × Option Width),
          List.Forall₂ (fun m n => SpeltAlike m.1 n.1 ∧ m.2 = n.2) notes others →
            (Hints.insertAll {} notes).resolve s = (Hints.insertAll {} others).resolve t) ∧
    (∀ (t : String) (w : Width), Width.ofTypeText? t = some w →
      mapHostType t = ⟨Width.columnType (some w), false⟩) ∧
    (∀ (t : String) (c : ColumnType), mapHostType t = ⟨c, false⟩ → c ∈ ColumnType.integral →
      ∃ w, Width.ofTypeText? t = some w ∧ Width.columnType (some w) = c) := by
  refine ⟨fun s t hst => ⟨?_, ?_, ?_⟩, ?_, ?_⟩
  · unfold mapHostType nativeType?
    rw [hst.normalize_eq]
  · rw [Width.ofTypeText?, Width.ofTypeText?, hst.normalize_eq]
  · intro notes others hnotes
    exact (Hints.Alike.refl {}).insertAll hnotes s t hst
  · intro t w hw
    exact mapHostType_eq_native_iff.mpr (lookup_nativeTypes hw)
  · intro t c ht hc
    exact exists_width (mapHostType_eq_native_iff.mp ht) hc

/-- Neither blanks nor capitals in the path of a word change what is looked up for it. -/
theorem lookups_agree_word :
    let spaced := "Core :: Primitive :: U16"
    let plain := "core::primitive::u16"
    let notes := [("Status", some Width.w8), ("CORE::primitive::u16", none)]
    let others := [(" status", some Width.w8), ("Core::Primitive::U16", none)]
    SpeltAlike spaced plain ∧
    List.Forall₂ (fun m n => SpeltAlike m.1 n.1 ∧ m.2 = n.2) notes others ∧
    mapHostType spaced = mapHostType plain ∧
    Width.ofTypeText? spaced = Width.ofTypeText? plain ∧
    (Hints.insertAll {} notes).resolve spaced = (Hints.insertAll {} others).resolve plain ∧
    Width.ofTypeText? plain = some .w16 ∧ mapHostType plain = ⟨.smallInt, false⟩ ∧
    ∃ w, Width.ofTypeText? plain = some w ∧ Width.columnType (some w) = .smallInt := by
  intro spaced plain notes others
  obtain ⟨hspelling, hheld, hwidth⟩ := lookups_agree
  have hspelt : SpeltAlike spaced plain := by decide
  have hnotes : List.Forall₂ (fun m n => SpeltAlike m.1 n.1 ∧ m.2 = n.2) notes others := by decide
  have hplain : Width.ofTypeText? plain = some .w16 := by decide
  obtain ⟨hmap, hsame, hhints⟩ := hspelling spaced plain hspelt
  have hnative := hheld plain .w16 hplain
  exact ⟨hspelt, hnotes, hmap, hsame, hhints notes others hnotes, hplain, hnative,
    hwidth plain .smallInt hnative (by decide)⟩

end Rowsmith.Schema
