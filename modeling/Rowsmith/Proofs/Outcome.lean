import Mathlib.Data.List.Forall2

/-!
# Outcomes of staged computations

A computation in stages succeeds exactly when each of its stages does, and a
traversal exactly when it does at every element. What a traversal yields is
related to what it visits one by one.
-/

namespace Rowsmith.Outcome

variable {ε α β γ : Type}

theorem bind_eq_ok_iff {x : Except ε α} {f : α → Except ε β} {b : β} :
    x >>= f = .ok b ↔ ∃ a, x = .ok a ∧ f a = .ok b := by
  cases x with
  | error fault => simp [bind, Except.bind]
  | ok a => simp [bind, Except.bind]

theorem bind_eq_error_iff {x : Except ε α} {f : α → Except ε β} {fault : ε} :
    x >>= f = .error fault ↔ x = .error fault ∨ ∃ a, x = .ok a ∧ f a = .error fault := by
  cases x with
  | error other => simp [bind, Except.bind]
  | ok a => simp [bind, Except.bind]

theorem map_eq_ok_iff {x : Except ε α} {f : α → β} {b : β} :
    f <$> x = .ok b ↔ ∃ a, x = .ok a ∧ f a = b := by
  cases x with
  | error fault => simp [Functor.map, Except.map]
  | ok a => simp [Functor.map, Except.map]

@[simp] theorem pure_eq_ok_iff {a b : α} : (pure a : Except ε α) = .ok b ↔ a = b := by
  simp [pure, Except.pure]

@[simp] theorem ok_bind (a : α) (f : α → Except ε β) : Except.ok a >>= f = f a := rfl

@[simp] theorem map_ok (a : α) (f : α → β) : f <$> (Except.ok a : Except ε α) = .ok (f a) := rfl

/-- A computation that is checked to succeed has a result. -/
theorem exists_of_isOk {x : Except ε α} (h : x.isOk = true) : ∃ a, x = .ok a := by
  cases x with
  | error fault => cases h
  | ok a => exact ⟨a, rfl⟩

/-- A computation that has a result. -/
def Succeeds (x : Except ε α) : Prop := ∃ a, x = .ok a

@[simp] theorem succeeds_ok (a : α) : Succeeds (.ok a : Except ε α) := ⟨a, rfl⟩

@[simp] theorem succeeds_pure (a : α) : Succeeds (pure a : Except ε α) := ⟨a, rfl⟩

@[simp] theorem not_succeeds_error (fault : ε) : ¬ Succeeds (.error fault : Except ε α) := by
  rintro ⟨a, h⟩
  cases h

instance (x : Except ε α) : Decidable (Succeeds x) :=
  match x with
  | .ok a => .isTrue (succeeds_ok a)
  | .error fault => .isFalse (not_succeeds_error fault)

theorem succeeds_bind_iff {x : Except ε α} {f : α → Except ε β} :
    Succeeds (x >>= f) ↔ ∃ a, x = .ok a ∧ Succeeds (f a) := by
  simp only [Succeeds, bind_eq_ok_iff]
  constructor
  · rintro ⟨b, a, ha, hb⟩
    exact ⟨a, ha, b, hb⟩
  · rintro ⟨a, ha, b, hb⟩
    exact ⟨b, a, ha, hb⟩

/-- A stage and the one behind it succeed, where its result makes no difference to that. -/
theorem succeeds_bind_iff_and {x : Except ε α} {f : α → Except ε β} {P : Prop}
    (hf : ∀ a, x = .ok a → (Succeeds (f a) ↔ P)) : Succeeds (x >>= f) ↔ Succeeds x ∧ P := by
  rw [succeeds_bind_iff]
  constructor
  · rintro ⟨a, ha, h⟩
    exact ⟨⟨a, ha⟩, (hf a ha).mp h⟩
  · rintro ⟨⟨a, ha⟩, h⟩
    exact ⟨a, ha, (hf a ha).mpr h⟩

theorem succeeds_bind_pure_iff {x : Except ε α} {g : α → β} :
    Succeeds (x >>= fun a => pure (g a)) ↔ Succeeds x := by
  rw [succeeds_bind_iff_and (P := True) fun _ _ => by simp, and_true]

/-- What holds at the start and at every step of a fold holds of its result. -/
theorem foldlM_induction {f : β → α → Except ε β} (P : β → Prop) {xs : List α} {b b' : β}
    (start : P b) (step : ∀ x y a, P x → f x a = .ok y → P y) (h : xs.foldlM f b = .ok b') :
    P b' := by
  induction xs generalizing b with
  | nil =>
      rw [List.foldlM_nil, pure_eq_ok_iff] at h
      exact h ▸ start
  | cons a xs ih =>
      rw [List.foldlM_cons] at h
      obtain ⟨b₁, hb, hrest⟩ := bind_eq_ok_iff.mp h
      exact ih (step b b₁ a start hb) hrest

/-- The results of a traversal are those of its elements, one by one. -/
theorem mapM_eq_ok_iff {f : α → Except ε β} {xs : List α} {ys : List β} :
    xs.mapM f = .ok ys ↔ List.Forall₂ (fun x y => f x = .ok y) xs ys := by
  induction xs generalizing ys with
  | nil =>
      rw [List.mapM_nil, List.forall₂_nil_left_iff, pure_eq_ok_iff]
      exact eq_comm
  | cons x xs ih =>
      rw [List.mapM_cons, List.forall₂_cons_left_iff, bind_eq_ok_iff]
      constructor
      · rintro ⟨y, hy, h⟩
        obtain ⟨rest, hrest, hys⟩ := bind_eq_ok_iff.mp h
        exact ⟨y, rest, hy, ih.mp hrest, (pure_eq_ok_iff.mp hys).symm⟩
      · rintro ⟨y, rest, hy, hrest, rfl⟩
        exact ⟨y, hy, bind_eq_ok_iff.mpr ⟨rest, ih.mpr hrest, rfl⟩⟩

/-- A traversal succeeds exactly when it does at every element. -/
theorem succeeds_mapM_iff {f : α → Except ε β} {xs : List α} :
    Succeeds (xs.mapM f) ↔ ∀ x ∈ xs, Succeeds (f x) := by
  induction xs with
  | nil => simp
  | cons x xs ih =>
      have hrest : ∀ y, f x = .ok y → (Succeeds (do let ys ← xs.mapM f; pure (y :: ys)) ↔
          ∀ z ∈ xs, Succeeds (f z)) := by
        intro y _
        rw [← ih, succeeds_bind_pure_iff]
      rw [List.mapM_cons, succeeds_bind_iff_and hrest, List.forall_mem_cons]

/-- A traversal fails as the first element does at which it fails. -/
theorem mapM_eq_error_iff {f : α → Except ε β} {xs : List α} {fault : ε} :
    xs.mapM f = .error fault ↔ ∃ (i : Nat) (x : α), xs[i]? = some x ∧ f x = .error fault ∧
      ∀ j < i, ∀ y, xs[j]? = some y → ∃ b, f y = .ok b := by
  induction xs with
  | nil => simp [pure, Except.pure]
  | cons x xs ih =>
      rw [List.mapM_cons, bind_eq_error_iff]
      constructor
      · rintro (hx | ⟨b, hb, hrest⟩)
        · exact ⟨0, x, rfl, hx, fun j hj => absurd hj (Nat.not_lt_zero j)⟩
        · have htail : xs.mapM f = .error fault := by
            rcases bind_eq_error_iff.mp hrest with h | ⟨bs, _, h⟩
            · exact h
            · cases h
          obtain ⟨i, y, hy, hfault, hbefore⟩ := ih.mp htail
          refine ⟨i + 1, y, hy, hfault, fun j hj z hz => ?_⟩
          cases j with
          | zero =>
              obtain rfl : x = z := by simpa using hz
              exact ⟨b, hb⟩
          | succ j => exact hbefore j (Nat.lt_of_succ_lt_succ hj) z hz
      · rintro ⟨i, y, hy, hfault, hbefore⟩
        cases i with
        | zero =>
            obtain rfl : x = y := by simpa using hy
            exact Or.inl hfault
        | succ i =>
            obtain ⟨b, hb⟩ := hbefore 0 (Nat.succ_pos i) x rfl
            have htail : xs.mapM f = .error fault :=
              ih.mpr ⟨i, y, hy, hfault, fun j hj => hbefore (j + 1) (Nat.succ_lt_succ hj)⟩
            exact Or.inr ⟨b, hb, bind_eq_error_iff.mpr (Or.inl htail)⟩

/-- The first element of a list that has a fault has this one. -/
def FirstFault (bad : α → ε → Prop) (xs : List α) (fault : ε) : Prop :=
  ∃ before x after, xs = before ++ x :: after ∧ bad x fault ∧ ∀ y ∈ before, ∀ other, ¬ bad y other

theorem not_firstFault_nil {bad : α → ε → Prop} {fault : ε} : ¬ FirstFault bad [] fault := by
  rintro ⟨before, x, after, h, -⟩
  simp at h

theorem firstFault_cons_iff {bad : α → ε → Prop} {x : α} {xs : List α} {fault : ε} :
    FirstFault bad (x :: xs) fault ↔
      bad x fault ∨ ((∀ other, ¬ bad x other) ∧ FirstFault bad xs fault) := by
  constructor
  · rintro ⟨before, y, after, h, hbad, hbefore⟩
    cases before with
    | nil =>
        obtain ⟨rfl, rfl⟩ := List.cons.inj h
        exact Or.inl hbad
    | cons z before =>
        obtain ⟨rfl, rfl⟩ := List.cons.inj h
        obtain ⟨hx, hrest⟩ := List.forall_mem_cons.mp hbefore
        exact Or.inr ⟨hx, before, y, after, rfl, hbad, hrest⟩
  · rintro (hbad | ⟨hx, before, y, after, rfl, hbad, hbefore⟩)
    · exact ⟨[], x, xs, rfl, hbad, by simp⟩
    · exact ⟨x :: before, y, after, rfl, hbad, List.forall_mem_cons.mpr ⟨hx, hbefore⟩⟩

/-- Among elements without faults there is no first one. -/
theorem exists_firstFault_iff {bad : α → ε → Prop} {xs : List α} :
    (∃ fault, FirstFault bad xs fault) ↔ ∃ x ∈ xs, ∃ fault, bad x fault := by
  induction xs with
  | nil => simp [not_firstFault_nil]
  | cons x xs ih =>
      simp only [firstFault_cons_iff, exists_or, List.exists_mem_cons_iff]
      rw [← ih]
      constructor
      · rintro (h | ⟨fault, -, h⟩)
        · exact Or.inl h
        · exact Or.inr ⟨fault, h⟩
      · rintro (h | ⟨fault, h⟩)
        · exact Or.inl h
        · by_cases hx : ∃ other, bad x other
          · exact Or.inl hx
          · exact Or.inr ⟨fault, fun other hother => hx ⟨other, hother⟩, h⟩

/-- A fold whose steps fail by their elements alone fails as the first of them that has a fault. -/
theorem foldlM_eq_error_iff {f : β → α → Except ε β} {bad : α → ε → Prop}
    (hbad : ∀ b x fault, f b x = .error fault ↔ bad x fault) {xs : List α} {b : β} {fault : ε} :
    xs.foldlM f b = .error fault ↔ FirstFault bad xs fault := by
  induction xs generalizing b with
  | nil => simp [not_firstFault_nil, pure, Except.pure]
  | cons x xs ih =>
      rw [List.foldlM_cons, bind_eq_error_iff, firstFault_cons_iff, hbad]
      refine or_congr_right ⟨?_, ?_⟩
      · rintro ⟨b', hb', h⟩
        refine ⟨fun other hother => ?_, ih.mp h⟩
        rw [(hbad b x other).mpr hother] at hb'
        cases hb'
      · rintro ⟨hnone, h⟩
        rcases hx : f b x with other | b'
        · exact absurd ((hbad b x other).mp hx) (hnone other)
        · exact ⟨b', rfl, ih.mpr h⟩

/-- A traversal fails as the first element that has a fault. -/
theorem mapM_eq_error_iff_firstFault {f : α → Except ε β} {xs : List α} {fault : ε} :
    xs.mapM f = .error fault ↔ FirstFault (fun x fault => f x = .error fault) xs fault := by
  induction xs with
  | nil => simp [not_firstFault_nil, pure, Except.pure]
  | cons x xs ih =>
      rw [List.mapM_cons, bind_eq_error_iff, firstFault_cons_iff]
      refine or_congr_right ⟨?_, ?_⟩
      · rintro ⟨y, hy, h⟩
        constructor
        · intro other hother
          rw [hother] at hy
          cases hy
        · rcases bind_eq_error_iff.mp h with h | ⟨ys, -, h⟩
          · exact ih.mp h
          · cases h
      · rintro ⟨hnone, h⟩
        rcases hx : f x with other | y
        · exact absurd hx (hnone other)
        · exact ⟨y, rfl, bind_eq_error_iff.mpr (Or.inl (ih.mpr h))⟩

theorem exists_of_mem_left {R : α → β → Prop} {xs : List α} {ys : List β}
    (h : List.Forall₂ R xs ys) {x : α} (hx : x ∈ xs) : ∃ y ∈ ys, R x y := by
  induction h with
  | nil => simp at hx
  | @cons a b xs ys hab _ ih =>
      rcases List.mem_cons.mp hx with rfl | hx
      · exact ⟨b, List.mem_cons_self, hab⟩
      · obtain ⟨y, hy, hr⟩ := ih hx
        exact ⟨y, List.mem_cons_of_mem b hy, hr⟩

theorem exists_of_mem_right {R : α → β → Prop} {xs : List α} {ys : List β}
    (h : List.Forall₂ R xs ys) {y : β} (hy : y ∈ ys) : ∃ x ∈ xs, R x y :=
  exists_of_mem_left h.flip hy

/-- A relation on lists one by one may use that it relates elements of the first. -/
theorem imp_of_mem {R S : α → β → Prop} {xs : List α} {ys : List β} (h : List.Forall₂ R xs ys)
    (himp : ∀ x ∈ xs, ∀ y, R x y → S x y) : List.Forall₂ S xs ys := by
  induction h with
  | nil => exact .nil
  | @cons a b xs ys hab _ ih =>
      exact .cons (himp a List.mem_cons_self b hab)
        (ih fun x hx => himp x (List.mem_cons_of_mem a hx))

/-- What is related to the first of two lists one by one is what is related to the second,
where the relation of their elements settles it. -/
theorem forall₂_congr_left {R : α → β → Prop} {S : β → γ → Prop} {T : α → γ → Prop}
    {xs : List α} {ys : List β} {zs : List γ} (h : List.Forall₂ R xs ys)
    (hiff : ∀ x ∈ xs, ∀ y, R x y → ∀ z, S y z ↔ T x z) :
    List.Forall₂ S ys zs ↔ List.Forall₂ T xs zs := by
  induction h generalizing zs with
  | nil => rw [List.forall₂_nil_left_iff, List.forall₂_nil_left_iff]
  | @cons x y xs ys hxy _ ih =>
      rw [List.forall₂_cons_left_iff, List.forall₂_cons_left_iff]
      have hrest : ∀ rest, List.Forall₂ S ys rest ↔ List.Forall₂ T xs rest := fun rest =>
        ih fun a ha => hiff a (List.mem_cons_of_mem x ha)
      simp only [hiff x List.mem_cons_self y hxy, hrest]

theorem forall₂_comp {R : α → β → Prop} {S : β → γ → Prop} {T : α → γ → Prop} {xs : List α}
    {ys : List β} {zs : List γ} (hfirst : List.Forall₂ R xs ys) (hsecond : List.Forall₂ S ys zs)
    (hcomp : ∀ x y z, R x y → S y z → T x z) : List.Forall₂ T xs zs := by
  induction hfirst generalizing zs with
  | nil =>
      cases hsecond
      exact .nil
  | cons hxy _ ih =>
      cases hsecond with
      | cons hyz hrest => exact .cons (hcomp _ _ _ hxy hyz) (ih hrest)

/-- A relation that the elements of the first of two related lists settle holds of the lists exactly
when it does of all those elements. -/
theorem forall₂_iff_forall_mem {R S : α → β → Prop} {P : α → Prop} {xs : List α} {ys : List β}
    (h : List.Forall₂ R xs ys) (hiff : ∀ x y, R x y → (S x y ↔ P x)) :
    List.Forall₂ S xs ys ↔ ∀ x ∈ xs, P x := by
  constructor
  · intro hs
    exact ((List.forall₂_and_left _ _).mp
      (List.Forall₂.mp (fun x y hr hs => ⟨(hiff x y hr).mp hs, hr⟩) h hs)).1
  · intro hp
    exact ((List.forall₂_and_left _ _).mpr ⟨hp, h⟩).imp fun x y hpr => (hiff x y hpr.2).mpr hpr.1

theorem exists_getElem? {R : α → β → Prop} {xs : List α} {ys : List β}
    (h : List.Forall₂ R xs ys) {i : Nat} {x : α} (hx : xs[i]? = some x) :
    ∃ y, ys[i]? = some y ∧ R x y := by
  induction h generalizing i with
  | nil => simp at hx
  | @cons a b xs ys hab _ ih =>
      cases i with
      | zero =>
          obtain rfl : a = x := by simpa using hx
          exact ⟨b, rfl, hab⟩
      | succ i => exact ih hx

end Rowsmith.Outcome
