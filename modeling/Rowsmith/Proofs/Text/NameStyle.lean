import Mathlib.Data.List.Infix
import Rowsmith.Proofs.Text.Word

/-!
# Styles of names

Words of lower case letters are written as one name in five styles. Each style shows where its
words end: a separator stands between them, or the next one begins with a capital. So the name
falls into its words again, and its snake case form is the same in every style.
-/

namespace Rowsmith.Text

/-- The styles in which words are written as one name. -/
inductive NameStyle
  | snake | pascal | camel | screaming | kebab
  deriving DecidableEq, Repr

/-- A word with its first letter in upper case. -/
def withCapital : List Char → List Char
  | [] => []
  | c :: rest => c.toUpper :: rest

/-- The characters of a name in a style. -/
def NameStyle.write : NameStyle → List (List Char) → List Char
  | snake, words => ['_'].intercalate words
  | pascal, words => words.flatMap withCapital
  | camel, [] => []
  | camel, first :: words => first ++ words.flatMap withCapital
  | screaming, words => ['_'].intercalate (words.map (·.map Char.toUpper))
  | kebab, words => ['-'].intercalate words

/-- A word of two or more lower case ASCII letters. -/
structure IsWord (word : List Char) : Prop where
  long : 2 ≤ word.length
  lower : ∀ c ∈ word, c.isLower = true

instance (word : List Char) : Decidable (IsWord word) :=
  decidable_of_iff (2 ≤ word.length ∧ word.all Char.isLower = true)
    ⟨fun h => ⟨h.1, List.all_eq_true.mp h.2⟩, fun h => ⟨h.long, List.all_eq_true.mpr h.lower⟩⟩

section Letters

variable {c : Char}

/-- What holds of the 26 letters holds of every lower case letter. -/
@[elab_as_elim]
theorem of_isLower {P : Char → Prop} {c : Char} (hc : c.isLower = true)
    (h : ∀ n : Fin 26, P (Char.ofNat (n + 97))) : P c := by
  obtain ⟨hfrom, hto⟩ : decide (c.val ≥ 'a'.val) = true ∧ decide (c.val ≤ 'z'.val) = true :=
    Bool.and_eq_true_iff.mp hc
  have hlow : 97 ≤ c.toNat := UInt32.le_iff_toNat_le.mp (of_decide_eq_true hfrom)
  have hhigh : c.toNat ≤ 122 := UInt32.le_iff_toNat_le.mp (of_decide_eq_true hto)
  have hletter := h ⟨c.toNat - 97, by omega⟩
  rwa [Nat.sub_add_cancel hlow, Char.ofNat_toNat] at hletter

theorem standsAlone_of_isLower (hc : c.isLower = true) :
    StandsAlone c ∧ StandsAlone c.toUpper :=
  of_isLower hc (by decide)

theorem isLowerCluster_of_isLower (hc : c.isLower = true) :
    isLowerCluster [c] = true ∧ isUpperCluster [c] = false ∧ isDigitCluster [c] = false :=
  of_isLower hc (by decide)

theorem isUpperCluster_of_isLower (hc : c.isLower = true) :
    isLowerCluster [c.toUpper] = false ∧ isUpperCluster [c.toUpper] = true ∧
      isDigitCluster [c.toUpper] = false :=
  of_isLower hc (by decide)

theorem isSeparator_of_isLower (hc : c.isLower = true) :
    isSeparator [c] = false ∧ isSeparator [c.toUpper] = false :=
  of_isLower hc (by decide)

theorem toLower_of_isLower (hc : c.isLower = true) :
    (c.toNat < 128 ∧ c.toLower = c) ∧ c.toUpper.toNat < 128 ∧ c.toUpper.toLower = c :=
  of_isLower hc (by decide)

end Letters

section Ascii

/-- Characters that stand alone are clusters of their own. -/
theorem clusters_of_standsAlone {cs : List Char} (h : ∀ c ∈ cs, StandsAlone c) :
    clusters cs = cs.map fun c => [c] := by
  cases cs with
  | nil => rfl
  | cons c cs =>
      have hrest := fun d hd => h d (List.mem_cons_of_mem c hd)
      exact clustersFrom_after (h c List.mem_cons_self) hrest none [c]

theorem lowerAfter_of_ascii {cs : List Char} (h : ∀ c ∈ cs, c.toNat < 128)
    (before : List Char) : lowerAfter before cs = cs.map Char.toLower := by
  induction cs generalizing before with
  | nil => rfl
  | cons c cs ih =>
      have hc := h c List.mem_cons_self
      rw [lowerAfter, if_neg (by omega), lowerForms, if_pos hc,
        ih fun d hd => h d (List.mem_cons_of_mem c hd)]
      rfl

end Ascii

section Words

variable {block rest : List (List Char)} {last : List Char}

/-- What stands behind a block makes no difference to where its words end, but at its last
cluster, as long as no lower case letter comes next. -/
theorem endsWord_append (cluster : List Char) (hblock : block ≠ [])
    (hrest : rest.head?.any isLowerCluster = false) :
    endsWord cluster (block ++ rest) = endsWord cluster block := by
  obtain ⟨next, block, rfl⟩ := List.exists_cons_of_ne_nil hblock
  cases block with
  | nil =>
      simp only [List.cons_append, List.nil_append, endsWord, hrest, List.head?_nil,
        Option.any_none]
  | cons second block => rfl

theorem isUnbroken_cons {cluster : List Char} :
    isUnbroken (cluster :: block) = true ↔
      isSeparator cluster = false ∧ endsWord cluster block = false ∧ isUnbroken block = true := by
  simp only [isUnbroken, Bool.and_eq_true, Bool.not_eq_true', and_assoc]

/-- The words of an unbroken block with more behind it: only its last cluster may end one. -/
theorem wordsFrom_append (h : isUnbroken (block ++ [last]) = true)
    (hrest : rest.head?.any isLowerCluster = false) (current : List Char) :
    wordsFrom current (block ++ last :: rest) =
      if endsWord last rest then (current ++ (block ++ [last]).flatten) :: wordsFrom [] rest
      else wordsFrom (current ++ (block ++ [last]).flatten) rest := by
  induction block generalizing current with
  | nil =>
      have hlast := (isUnbroken_cons.mp h).1
      rw [List.nil_append, List.nil_append, wordsFrom, hlast, if_neg (by decide),
        List.flatten_singleton]
  | cons cluster block ih =>
      rw [List.cons_append] at h
      obtain ⟨hcluster, hends, hblock⟩ := isUnbroken_cons.mp h
      have hbehind : endsWord cluster (block ++ last :: rest) = false := by
        rw [List.append_cons, endsWord_append cluster (by simp) hrest, hends]
      rw [List.cons_append, wordsFrom, hcluster, if_neg (by decide), hbehind, if_neg (by decide),
        ih hblock, List.cons_append, List.flatten_cons, List.append_assoc]

end Words

section Blocks

/-- The characters of a text, each as a cluster. -/
def letters (cs : List Char) : List (List Char) := cs.map fun c => [c]

theorem flatten_letters (cs : List Char) : (letters cs).flatten = cs := by
  induction cs with
  | nil => rfl
  | cons c cs ih => exact congrArg (c :: ·) ih

theorem letters_append (cs ds : List Char) : letters (cs ++ ds) = letters cs ++ letters ds :=
  List.map_append

theorem wordsFrom_of_unbroken {cs : List Char} (h : isUnbroken (letters cs) = true) :
    wordsFrom [] (letters cs) = [cs] := by
  rw [wordsFrom_of_isUnbroken h, flatten_letters, List.nil_append]

/-- The words of unbroken letters with more behind them: only the last letter may end one. -/
theorem wordsFrom_letters {front : List Char} {c : Char} {rest : List (List Char)}
    (h : isUnbroken (letters (front ++ [c])) = true)
    (hrest : rest.head?.any isLowerCluster = false) :
    wordsFrom [] (letters (front ++ [c]) ++ rest) =
      if endsWord [c] rest then (front ++ [c]) :: wordsFrom [] rest
      else wordsFrom (front ++ [c]) rest := by
  have hlast : letters (front ++ [c]) = letters front ++ [[c]] := letters_append front [c]
  have hflatten : (letters front ++ [[c]]).flatten = front ++ [c] := by
    rw [← hlast, flatten_letters]
  rw [hlast] at h ⊢
  rw [List.append_assoc, List.singleton_append, wordsFrom_append h hrest, hflatten,
    List.nil_append]

/-- No word ends among lower case letters, nor behind a letter before them. -/
theorem isUnbroken_lower {c : Char} (hc : isSeparator [c] = false ∧ isDigitCluster [c] = false)
    {cs : List Char} (hcs : ∀ d ∈ cs, d.isLower = true) : isUnbroken (letters (c :: cs)) = true := by
  induction cs generalizing c with
  | nil => exact isUnbroken_cons.mpr ⟨hc.1, rfl, rfl⟩
  | cons d cs ih =>
      have hd := hcs d List.mem_cons_self
      obtain ⟨-, hupper, hdigit⟩ := isLowerCluster_of_isLower hd
      exact isUnbroken_cons.mpr ⟨hc.1, endsWord_cons hc.2 hupper hdigit _,
        ih ⟨(isSeparator_of_isLower hd).1, hdigit⟩ fun e he => hcs e (List.mem_cons_of_mem d he)⟩

/-- No word ends among capitals. -/
theorem isUnbroken_upper {cs : List Char} (hcs : ∀ d ∈ cs, d.isLower = true) :
    isUnbroken (letters (cs.map Char.toUpper)) = true := by
  induction cs with
  | nil => rfl
  | cons c cs ih =>
      have hrest := fun d hd => hcs d (List.mem_cons_of_mem c hd)
      obtain ⟨hlower, -, hdigit⟩ := isUpperCluster_of_isLower (hcs c List.mem_cons_self)
      have hends : endsWord [c.toUpper] (letters (cs.map Char.toUpper)) = false := by
        cases cs with
        | nil => rfl
        | cons d cs =>
            obtain ⟨-, -, hnext⟩ := isUpperCluster_of_isLower (hrest d List.mem_cons_self)
            have hthird : (letters (cs.map Char.toUpper)).head?.any isLowerCluster = false := by
              cases cs with
              | nil => rfl
              | cons e cs => exact (isUpperCluster_of_isLower (hrest e (by simp))).1
            show endsWord [c.toUpper] ([d.toUpper] :: letters (cs.map Char.toUpper)) = false
            rw [endsWord, hlower, hdigit, hnext, hthird]
            simp
      exact isUnbroken_cons.mpr
        ⟨(isSeparator_of_isLower (hcs c List.mem_cons_self)).2, hends, ih hrest⟩

/-- Blocks with a separator between them are the words of the whole. -/
theorem wordsFrom_separated {separator : Char} (hseparator : separator = '_' ∨ separator = '-')
    {blocks : List (List Char)} (hne : blocks ≠ [])
    (hblocks : ∀ block ∈ blocks, block ≠ [] ∧ isUnbroken (letters block) = true) :
    wordsFrom [] (letters ([separator].intercalate blocks)) = blocks := by
  have hcut : isLowerCluster [separator] = false ∧ isUpperCluster [separator] = false ∧
      isDigitCluster [separator] = false ∧ isSeparator [separator] = true := by
    rcases hseparator with rfl | rfl <;> decide
  obtain ⟨hlower, hupper, hdigit, hparts⟩ := hcut
  induction blocks with
  | nil => exact absurd rfl hne
  | cons block blocks ih =>
      obtain ⟨hblock, hunbroken⟩ := hblocks block List.mem_cons_self
      cases blocks with
      | nil => rw [List.intercalate_singleton, wordsFrom_of_unbroken hunbroken]
      | cons next blocks =>
          have hrest := ih (List.cons_ne_nil next blocks) fun b hb =>
            hblocks b (List.mem_cons_of_mem block hb)
          obtain ⟨front, c, rfl⟩ := block.eq_nil_or_concat'.resolve_left hblock
          have hends : ∀ more, endsWord [c] ([separator] :: more) = false := by
            intro more
            rw [endsWord, hlower, hupper, hdigit]
            simp
          have hsplit : letters ([separator].intercalate ((front ++ [c]) :: next :: blocks)) =
              letters (front ++ [c]) ++
                [separator] :: letters ([separator].intercalate (next :: blocks)) := by
            rw [List.intercalate_cons_cons, letters_append, letters_append, List.append_assoc]
            rfl
          rw [hsplit, wordsFrom_letters hunbroken (by simp [hlower]), hends, if_neg (by decide),
            wordsFrom, hparts, if_pos rfl, hrest]

/-- A word with a capital is unbroken, begins with one and ends with a lower case letter. -/
theorem exists_withCapital {word : List Char} (h : IsWord word) :
    ∃ capital middle c, withCapital word = capital :: (middle ++ [c]) ∧
      isUpperCluster [capital] = true ∧ isLowerCluster [capital] = false ∧ c.isLower = true ∧
      isUnbroken (letters (capital :: (middle ++ [c]))) = true := by
  obtain ⟨hlong, hlower⟩ := h
  match word with
  | [] => exact absurd hlong (by decide)
  | [_] => exact absurd hlong (Nat.not_succ_le_self 1)
  | first :: second :: rest =>
      obtain ⟨middle, c, hend⟩ := (second :: rest).eq_nil_or_concat'.resolve_left (by simp)
      have hfirst := hlower first List.mem_cons_self
      have hrest : ∀ d ∈ middle ++ [c], d.isLower = true := by
        rw [← hend]
        exact fun d hd => hlower d (List.mem_cons_of_mem first hd)
      obtain ⟨hlow, hupper, hdigit⟩ := isUpperCluster_of_isLower hfirst
      exact ⟨first.toUpper, middle, c, by rw [withCapital, hend], hupper, hlow, hrest c (by simp),
        isUnbroken_lower ⟨(isSeparator_of_isLower hfirst).2, hdigit⟩ hrest⟩

/-- Words that begin with capitals are those of the whole, behind unbroken letters that end in
lower case. -/
theorem wordsFrom_capitals {front : List Char} {c : Char} (hc : c.isLower = true)
    (hfirst : isUnbroken (letters (front ++ [c])) = true) {words : List (List Char)}
    (hwords : ∀ word ∈ words, IsWord word) :
    wordsFrom [] (letters (front ++ [c] ++ words.flatMap withCapital)) =
      (front ++ [c]) :: words.map withCapital := by
  induction words generalizing front c with
  | nil => rw [List.flatMap_nil, List.append_nil, wordsFrom_of_unbroken hfirst]; rfl
  | cons word words ih =>
      obtain ⟨capital, middle, last, hword, hupper, hlower, hlast, hunbroken⟩ :=
        exists_withCapital (hwords word List.mem_cons_self)
      have hrest := @ih (capital :: middle) last hlast hunbroken fun w hw =>
        hwords w (List.mem_cons_of_mem word hw)
      have hends : ∀ more, endsWord [c] ([capital] :: more) = true := by
        intro more
        rw [endsWord, (isLowerCluster_of_isLower hc).1, hupper]
        rfl
      rw [List.flatMap_cons, List.map_cons, hword, letters_append]
      show wordsFrom [] (letters (front ++ [c]) ++ [capital] :: _) = _
      rw [wordsFrom_letters hfirst (by simp [hlower]), hends, if_pos rfl]
      exact congrArg ((front ++ [c]) :: ·) hrest

end Blocks

section Written

variable {words : List (List Char)}

theorem mem_intercalate {separator c : Char} (h : c ∈ [separator].intercalate words) :
    c = separator ∨ ∃ word ∈ words, c ∈ word := by
  induction words with
  | nil => exact absurd h List.not_mem_nil
  | cons word words ih =>
      cases words with
      | nil =>
          rw [List.intercalate_singleton] at h
          exact Or.inr ⟨word, List.mem_cons_self, h⟩
      | cons next words =>
          rw [List.intercalate_cons_cons, List.mem_append, List.mem_append,
            List.mem_singleton] at h
          rcases h with (h | h) | h
          · exact Or.inr ⟨word, List.mem_cons_self, h⟩
          · exact Or.inl h
          · rcases ih h with h | ⟨other, hother, h⟩
            · exact Or.inl h
            · exact Or.inr ⟨other, List.mem_cons_of_mem word hother, h⟩

theorem mem_withCapital {word : List Char} {c : Char} (h : c ∈ withCapital word) :
    ∃ d ∈ word, c = d ∨ c = d.toUpper := by
  cases word with
  | nil => exact absurd h List.not_mem_nil
  | cons first rest =>
      rcases List.mem_cons.mp h with rfl | h
      · exact ⟨first, List.mem_cons_self, Or.inr rfl⟩
      · exact ⟨c, List.mem_cons_of_mem first h, Or.inl rfl⟩

/-- A name has the letters of its words, in either case, and separators. -/
theorem mem_write {style : NameStyle} {c : Char} (h : c ∈ style.write words) :
    (c = '_' ∨ c = '-') ∨ ∃ word ∈ words, ∃ d ∈ word, c = d ∨ c = d.toUpper := by
  have hcapitals : ∀ {words : List (List Char)}, c ∈ words.flatMap withCapital →
      ∃ word ∈ words, ∃ d ∈ word, c = d ∨ c = d.toUpper := fun h => by
    obtain ⟨word, hword, hc⟩ := List.mem_flatMap.mp h
    exact ⟨word, hword, mem_withCapital hc⟩
  cases style with
  | snake =>
      rcases mem_intercalate h with h | ⟨word, hword, hc⟩
      · exact Or.inl (Or.inl h)
      · exact Or.inr ⟨word, hword, c, hc, Or.inl rfl⟩
  | pascal => exact Or.inr (hcapitals h)
  | camel =>
      cases words with
      | nil => exact absurd h List.not_mem_nil
      | cons first words =>
          rcases List.mem_append.mp h with h | h
          · exact Or.inr ⟨first, List.mem_cons_self, c, h, Or.inl rfl⟩
          · obtain ⟨word, hword, hc⟩ := hcapitals h
            exact Or.inr ⟨word, List.mem_cons_of_mem first hword, hc⟩
  | screaming =>
      rcases mem_intercalate h with h | ⟨capitals, hcapitals, hc⟩
      · exact Or.inl (Or.inl h)
      · obtain ⟨word, hword, rfl⟩ := List.mem_map.mp hcapitals
        obtain ⟨d, hd, rfl⟩ := List.mem_map.mp hc
        exact Or.inr ⟨word, hword, d, hd, Or.inr rfl⟩
  | kebab =>
      rcases mem_intercalate h with h | ⟨word, hword, hc⟩
      · exact Or.inl (Or.inr h)
      · exact Or.inr ⟨word, hword, c, hc, Or.inl rfl⟩

theorem standsAlone_of_mem_write {style : NameStyle} (hwords : ∀ word ∈ words, IsWord word) :
    ∀ c ∈ style.write words, StandsAlone c := by
  intro c hc
  rcases mem_write hc with (rfl | rfl) | ⟨word, hword, d, hd, rfl | rfl⟩
  · decide
  · decide
  · exact (standsAlone_of_isLower ((hwords word hword).lower c hd)).1
  · exact (standsAlone_of_isLower ((hwords word hword).lower d hd)).2

theorem IsWord.ne_nil {word : List Char} (h : IsWord word) : word ≠ [] := by
  rintro rfl
  exact absurd h.long (by decide)

theorem IsWord.isUnbroken {word : List Char} (h : IsWord word) :
    isUnbroken (letters word) = true := by
  obtain ⟨c, rest, rfl⟩ := List.exists_cons_of_ne_nil h.ne_nil
  have hc := h.lower c List.mem_cons_self
  exact isUnbroken_lower ⟨(isSeparator_of_isLower hc).1, (isLowerCluster_of_isLower hc).2.2⟩
    fun d hd => h.lower d (List.mem_cons_of_mem c hd)

/-- The words into which a name falls. -/
def NameStyle.blocks : NameStyle → List (List Char) → List (List Char)
  | snake, words | kebab, words => words
  | pascal, words => words.map withCapital
  | camel, [] => []
  | camel, first :: words => first :: words.map withCapital
  | screaming, words => words.map (·.map Char.toUpper)

/-- A name falls into the words that it was written from. -/
theorem wordsOf_write {style : NameStyle} (hne : words ≠ [])
    (hwords : ∀ word ∈ words, IsWord word) :
    wordsOf (style.write words) = style.blocks words := by
  have hblocks : ∀ word ∈ words, word ≠ [] ∧ Text.isUnbroken (letters word) = true :=
    fun word hword => ⟨(hwords word hword).ne_nil, (hwords word hword).isUnbroken⟩
  rw [wordsOf, clusters_of_standsAlone (standsAlone_of_mem_write hwords)]
  cases style with
  | snake => exact wordsFrom_separated (Or.inl rfl) hne hblocks
  | kebab => exact wordsFrom_separated (Or.inr rfl) hne hblocks
  | screaming =>
      refine wordsFrom_separated (Or.inl rfl) (by simpa [NameStyle.blocks] using hne) ?_
      intro block hblock
      obtain ⟨word, hword, rfl⟩ := List.mem_map.mp hblock
      exact ⟨by simpa using (hwords word hword).ne_nil, isUnbroken_upper (hwords word hword).lower⟩
  | pascal =>
      obtain ⟨first, rest, rfl⟩ := List.exists_cons_of_ne_nil hne
      obtain ⟨capital, middle, c, hfirst, -, -, hc, hunbroken⟩ :=
        exists_withCapital (hwords first List.mem_cons_self)
      have hall := @wordsFrom_capitals (capital :: middle) c hc hunbroken rest fun w hw =>
        hwords w (List.mem_cons_of_mem first hw)
      simp only [NameStyle.write, NameStyle.blocks, List.flatMap_cons, List.map_cons, hfirst]
      exact hall
  | camel =>
      obtain ⟨first, rest, rfl⟩ := List.exists_cons_of_ne_nil hne
      have hfirst := hwords first List.mem_cons_self
      obtain ⟨front, c, rfl⟩ := first.eq_nil_or_concat'.resolve_left hfirst.ne_nil
      exact wordsFrom_capitals (hfirst.lower c (by simp)) hfirst.isUnbroken fun w hw =>
        hwords w (List.mem_cons_of_mem _ hw)

section LowerCase

variable {word : List Char} (h : IsWord word)

include h

theorem lowercase_word : lowercase word = word := by
  have hsmall := fun c hc => (toLower_of_isLower (h.lower c hc)).1
  rw [lowercase, lowerAfter_of_ascii fun c hc => (hsmall c hc).1,
    List.map_congr_left fun c hc => (hsmall c hc).2, List.map_id']

theorem lowercase_upper : lowercase (word.map Char.toUpper) = word := by
  have hcapital := fun c hc => (toLower_of_isLower (h.lower c hc)).2
  rw [lowercase, lowerAfter_of_ascii (List.forall_mem_map.mpr fun c hc => (hcapital c hc).1),
    List.map_map]
  exact (List.map_congr_left fun c hc => (hcapital c hc).2).trans (List.map_id word)

theorem lowercase_withCapital : lowercase (withCapital word) = word := by
  obtain ⟨c, rest, rfl⟩ := List.exists_cons_of_ne_nil h.ne_nil
  have hcapital := (toLower_of_isLower (h.lower c List.mem_cons_self)).2
  have hsmall := fun d hd => (toLower_of_isLower (h.lower d (List.mem_cons_of_mem c hd))).1
  rw [withCapital, lowercase,
    lowerAfter_of_ascii (List.forall_mem_cons.mpr ⟨hcapital.1, fun d hd => (hsmall d hd).1⟩),
    List.map_cons, hcapital.2, List.map_congr_left fun d hd => (hsmall d hd).2, List.map_id']

end LowerCase

/-- In lower case the words of a name are those that it was written from. -/
theorem map_lowercase_blocks {style : NameStyle} (hwords : ∀ word ∈ words, IsWord word) :
    (style.blocks words).map lowercase = words := by
  have hplain : ∀ {words : List (List Char)}, (∀ word ∈ words, IsWord word) →
      words.map lowercase = words := fun h => by
    rw [List.map_congr_left fun w hw => lowercase_word (h w hw), List.map_id']
  have hcapital : ∀ {words : List (List Char)}, (∀ word ∈ words, IsWord word) →
      (words.map withCapital).map lowercase = words := fun h => by
    rw [List.map_map]
    exact (List.map_congr_left fun w hw => lowercase_withCapital (h w hw)).trans (List.map_id _)
  cases style with
  | snake => exact hplain hwords
  | kebab => exact hplain hwords
  | pascal => exact hcapital hwords
  | screaming =>
      rw [NameStyle.blocks, List.map_map]
      exact (List.map_congr_left fun w hw => lowercase_upper (hwords w hw)).trans (List.map_id _)
  | camel =>
      cases words with
      | nil => rfl
      | cons first words =>
          obtain ⟨hfirst, hrest⟩ := List.forall_mem_cons.mp hwords
          rw [NameStyle.blocks, List.map_cons, lowercase_word hfirst, hcapital hrest]

/-- The snake case form of a name is that of its words, whatever the style. -/
theorem snakeCase_write (style : NameStyle) (hne : words ≠ [])
    (hwords : ∀ word ∈ words, IsWord word) :
    (snakeCase (String.ofList (style.write words))).toList = ['_'].intercalate words := by
  rw [snakeCase, String.toList_ofList, String.toList_ofList, wordsOf_write hne hwords,
    map_lowercase_blocks hwords]

end Written

end Rowsmith.Text
