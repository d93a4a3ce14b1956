import Rowsmith.Proofs.Derive.EnumerationWidth
import Rowsmith.Proofs.Source.Apart
import Rowsmith.Proofs.Source.TypeSpacing

/-!
# Texts of declared types

A property holds the type of its field as a text without blanks, which is read again where the type
is written. The text of a plain type is read as that type unless words or numbers stand next to
each other in it: without the blank between them they become one word.
-/

namespace Rowsmith.Derive
open Outcome Schema Source

/-- Whether tokens are those of a type, as they are printed when they are read as one. -/
def IsType (type : List Token) : Prop := Phrase.whole Phrase.wholeType type = .ok type

/-- Whether a text has the tokens of a type, but for the spacing of marks, and is read as it. -/
def KeepsType (type : List Token) (text : String) : Prop :=
  ∃ tokens, tokenize text = some tokens ∧
    Token.unspacedAll tokens = Token.unspacedAll type ∧
    Phrase.whole Phrase.wholeType tokens = .ok type

theorem typeText_eq (type : List Token) : typeText type = String.ofList (compact type) := rfl

/-- The text of a bare type is read as that type exactly when no words or numbers stand next to each
other in it and the type does not depend on the spacing of its marks. -/
theorem keepsType_typeText_iff_of_bare {type : List Token} (hbare : isBareAll type = true) :
    KeepsType type (typeText type) ↔ isApartAll type = true ∧
      Phrase.whole Phrase.wholeType (respacedAll type) = .ok type := by
  rw [typeText_eq]
  constructor
  · rintro ⟨tokens, htokens, heq, hread⟩
    have hapart := isApartAll_of_compact (partsNothing_compact hbare) htokens heq
    rw [tokenize_compact hbare hapart] at htokens
    obtain rfl := Option.some.inj htokens
    exact ⟨hapart, hread⟩
  · rintro ⟨hapart, hread⟩
    exact ⟨respacedAll type, tokenize_compact hbare hapart, unspacedAll_respacedAll type, hread⟩

/-- The text of a plain type is read as that type exactly when no words or numbers stand next to
each other in it. -/
theorem keepsType_typeText_iff {type : List Token} (htype : IsType type)
    (hplain : isPlainAll type = true) :
    KeepsType type (typeText type) ↔ isApartAll type = true := by
  rw [keepsType_typeText_iff_of_bare (isBareAll_of_isPlainAll hplain)]
  exact and_iff_left ((alike_respacedAll hplain).whole_type.mp htype)

/-- No type is kept in which a blank stands inside of a literal, and none in which words or numbers
stand next to each other, whatever else there is in it but comments. -/
theorem KeepsType.solid_and_apart {type : List Token} (h : KeepsType type (typeText type)) :
    isSolidAll type = true ∧
      ((∀ c ∈ (typeText type).toList, PartsNothing c) → isApartAll type = true) := by
  obtain ⟨tokens, htokens, heq, -⟩ := h
  refine ⟨?_, fun hparts => isApartAll_of_compact ?_ htokens heq⟩
  · rw [← isSolidAll_unspaced, ← heq, isSolidAll_unspaced]
    refine isSolidAll_of_tokenize htokens fun c hc => ?_
    rw [typeText_eq, String.toList_ofList, compact, List.mem_filter] at hc
    simpa using hc.2
  · rwa [typeText_eq, String.toList_ofList] at hparts

/-- Each field that an accepted struct declares with a plain type has it kept by the text of its
property exactly when no words or numbers stand next to each other in the type. With braces the
spacing of marks counts as well, and with other literals there is no blank inside of them. -/
theorem keepsTypes_iff {item : Item} {fields : List Field} {c : Class}
    (hshape : item.shape = .named fields) (hitem : ofItem item = .ok c) :
    List.Forall₂ (fun field p => p.name = field.name ∧
        (IsType field.type → isPlainAll field.type = true →
          (KeepsType field.type p.type ↔ isApartAll field.type = true)) ∧
        (isBareAll field.type = true →
          (KeepsType field.type p.type ↔ isApartAll field.type = true ∧
            Phrase.whole Phrase.wholeType (respacedAll field.type) = .ok field.type)) ∧
        (KeepsType field.type p.type → isSolidAll field.type = true ∧
          ((∀ c ∈ p.type.toList, PartsNothing c) → isApartAll field.type = true)))
      fields c.declaration.properties := by
  refine (declaredBy_of_ofItem hshape hitem).imp fun field p hp => ?_
  rw [hp.type]
  exact ⟨hp.name, keepsType_typeText_iff, keepsType_typeText_iff_of_bare,
    KeepsType.solid_and_apart⟩

instance (type : List Token) : Decidable (IsType type) :=
  match h : Phrase.whole Phrase.wholeType type with
  | .ok found => decidable_of_iff (found = type) (by rw [IsType, h, Except.ok.injEq])
  | .error _ => .isFalse (by simp [IsType, h])

/-- Generic, array, function and reference types are kept. -/
theorem keepsTypes_row : ∃ item fields c, structOf?
      "struct Row \x7b map: Map<K, Vec<[u8; 4]>>, order: fn(&K) -> bool, at: &\x27static [X] \x7d" =
        some (item, fields) ∧
      ofItem item = .ok c ∧
      List.Forall₂ (fun field p => KeepsType field.type p.type) fields
        c.declaration.properties := by
  obtain ⟨item, fields, hread, hrow⟩ := exists_structOf
    "struct Row \x7b map: Map<K, Vec<[u8; 4]>>, order: fn(&K) -> bool, at: &\x27static [X] \x7d"
    (fun (item, fields) => decide (Succeeds (ofItem item) ∧ ∀ field ∈ fields,
      IsType field.type ∧ isPlainAll field.type = true ∧ isApartAll field.type = true))
    (by decide +kernel)
  obtain ⟨⟨c, hitem⟩, hfields⟩ := of_decide_eq_true hrow
  have hshape := (structOf?_eq_some_iff.mp hread).2
  refine ⟨item, fields, c, hread, hitem,
    imp_of_mem (keepsTypes_iff hshape hitem) fun field hfield p h => ?_⟩
  obtain ⟨htype, hplain, hapart⟩ := hfields field hfield
  exact (h.2.1 htype hplain).mpr hapart

/-- A mutable reference becomes one to another type, and one with a lifetime no type at all. -/
theorem not_keepsTypes_link : ∃ item fields c, structOf?
      "struct Link \x7b target: &mut Node, label: &\x27static str \x7d" = some (item, fields) ∧
      ofItem item = .ok c ∧ (∀ field ∈ fields, IsType field.type) ∧
      (fields.map fun field =>
          (Phrase.ofText Phrase.wholeType (typeText field.type)).toOption.map Token.textAll) =
        [some "& mutNode", none] ∧
      ∀ held ∈ fields.zip c.declaration.properties, ¬ KeepsType held.1.type held.2.type := by
  obtain ⟨item, fields, hread, hlink⟩ := exists_structOf
    "struct Link \x7b target: &mut Node, label: &\x27static str \x7d"
    (fun (item, fields) => decide (Succeeds (ofItem item) ∧
      (fields.map fun field =>
          (Phrase.ofText Phrase.wholeType (typeText field.type)).toOption.map Token.textAll) =
        [some "& mutNode", none] ∧
      ∀ field ∈ fields,
        IsType field.type ∧ isPlainAll field.type = true ∧ isApartAll field.type = false))
    (by decide +kernel)
  obtain ⟨⟨c, hitem⟩, htexts, hfields⟩ := of_decide_eq_true hlink
  have hshape := (structOf?_eq_some_iff.mp hread).2
  refine ⟨item, fields, c, hread, hitem, fun field hfield => (hfields field hfield).1, htexts, ?_⟩
  rintro ⟨field, p⟩ hheld hkeeps
  obtain ⟨htype, hplain, hapart⟩ := hfields field (List.of_mem_zip hheld).1
  have hp := (List.forall₂_zip (declaredBy_of_ofItem hshape hitem) hheld).type
  rw [hp, keepsType_typeText_iff htype hplain, hapart] at hkeeps
  cases hkeeps

end Rowsmith.Derive
