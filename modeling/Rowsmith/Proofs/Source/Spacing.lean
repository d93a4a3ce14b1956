import Rowsmith.Source.Phrase.Path

/-!
# The spacing of marks

Two lists of tokens that differ in the spacing of their marks only are read alike, as long as the
operators that are looked for where a type is read stand at the same places in both. Such lists are
related here, with the tests of tokens that do not tell them apart and the phrases that read the
same off both.
-/

namespace Rowsmith.Source

/-- The operators of several marks that are looked for where a type is read. -/
def typeOperators : List (List Char) :=
  [[':', ':'], ['-', '>'], ['<', '='], ['<', '<', '='], ['+', '='], ['!', '='], ['.', '.', '.']]

/-- The group at the front of tokens. -/
def groupAt : List Token → Option (Delimiter × List Token)
  | .group d body :: _ => some (d, body)
  | _ => none

/-- Tokens that differ in the spacing of marks, operators left as they are. Braces, what stands
behind a semicolon and the group behind a bang or a hash are the same. -/
inductive Alike : List Token → List Token → Prop
  | refl (ts : List Token) : Alike ts ts
  | word (w : String) {ts us : List Token} (h : Alike ts us) : Alike (.word w :: ts) (.word w :: us)
  | literal (l : String) {ts us : List Token} (h : Alike ts us) :
      Alike (.literal l :: ts) (.literal l :: us)
  | mark (c : Char) (first second : Spacing) {ts us : List Token}
      (hoperator : ∀ op ∈ typeOperators, Token.startsOperator op (.mark c first :: ts) =
        Token.startsOperator op (.mark c second :: us))
      (hlifetime : c.toNat = 0x27 → first = second)
      (hlength : c = ';' → ts = us) (hgroup : c = '!' ∨ c = '#' → groupAt ts = groupAt us)
      (h : Alike ts us) : Alike (.mark c first :: ts) (.mark c second :: us)
  | group (d : Delimiter) {body other ts us : List Token} (hbrace : d = .brace → body = other)
      (hbody : Alike body other) (h : Alike ts us) :
      Alike (.group d body :: ts) (.group d other :: us)

namespace Alike

variable {ts us : List Token}

theorem tail (h : Alike ts us) : Alike ts.tail us.tail := by
  cases h with
  | refl => exact .refl _
  | word _ h => exact h
  | literal _ h => exact h
  | mark _ _ _ _ _ _ _ h => exact h
  | group _ _ _ h => exact h

theorem drop (h : Alike ts us) (k : Nat) : Alike (ts.drop k) (us.drop k) := by
  induction k generalizing ts us with
  | zero => exact h
  | succ k ih => simpa only [List.drop_tail, Nat.add_comm] using ih h.tail

theorem of_word {w : String} (h : Alike (.word w :: ts) us) :
    ∃ left, us = .word w :: left ∧ Alike ts left := by
  cases h with
  | refl => exact ⟨ts, rfl, .refl ts⟩
  | word _ h => exact ⟨_, rfl, h⟩

theorem of_literal {l : String} (h : Alike (.literal l :: ts) us) :
    ∃ left, us = .literal l :: left ∧ Alike ts left := by
  cases h with
  | refl => exact ⟨ts, rfl, .refl ts⟩
  | literal _ h => exact ⟨_, rfl, h⟩

theorem of_quote {c : Char} (hc : c.toNat = 0x27) (h : Alike (.mark c .joint :: ts) us) :
    ∃ left, us = .mark c .joint :: left ∧ Alike ts left := by
  cases h with
  | refl => exact ⟨ts, rfl, .refl ts⟩
  | mark _ _ second _ hlifetime _ _ h => exact ⟨_, by rw [hlifetime hc], h⟩

theorem of_nil (h : Alike [] us) : us = [] := by
  cases h
  rfl

theorem of_groupAt (h : Alike ts us) (hgroup : groupAt ts = groupAt us) :
    groupAt ts = none ∨ ∃ d body after left, ts = .group d body :: after ∧
      us = .group d body :: left ∧ Alike after left := by
  cases h with
  | refl =>
      match ts with
      | .group d body :: after => exact Or.inr ⟨d, body, after, after, rfl, rfl, .refl _⟩
      | [] => exact Or.inl rfl
      | .word _ :: _ => exact Or.inl rfl
      | .mark _ _ :: _ => exact Or.inl rfl
      | .literal _ :: _ => exact Or.inl rfl
  | group d hbrace hbody h =>
      simp only [groupAt, Option.some.injEq, Prod.mk.injEq, true_and] at hgroup
      obtain rfl := hgroup
      exact Or.inr ⟨d, _, _, _, rfl, rfl, h⟩
  | _ => exact Or.inl rfl

theorem symm (h : Alike ts us) : Alike us ts := by
  induction h with
  | refl => exact .refl _
  | word w _ ih => exact .word w ih
  | literal l _ ih => exact .literal l ih
  | mark c first second hoperator hlifetime hlength hgroup _ ih =>
      exact .mark c second first (fun op hop => (hoperator op hop).symm)
        (fun hc => (hlifetime hc).symm) (fun hc => (hlength hc).symm)
        (fun hc => (hgroup hc).symm) ih
  | group d hbrace _ _ ihbody ih => exact .group d (fun hd => (hbrace hd).symm) ihbody ih

theorem length_eq (h : Alike ts us) : ts.length = us.length := by
  induction h with
  | refl => rfl
  | group _ _ _ _ _ ih => exact congrArg (· + 1) ih
  | _ => exact congrArg (· + 1) (by assumption)

theorem weightAll_eq (h : Alike ts us) : Token.weightAll ts = Token.weightAll us := by
  induction h with
  | refl => rfl
  | group _ _ _ _ ihbody ih => simp only [Token.weightAll, Token.weight, ihbody, ih]
  | _ => simp_all only [Token.weightAll, Token.weight]

end Alike

/-- Whether a test of tokens does not see the spacing that alike tokens differ in. -/
def Agrees (test : List Token → Bool) : Prop := ∀ ⦃ts us⦄, Alike ts us → test ts = test us

namespace Agrees

variable {test other : List Token → Bool}

theorem and (h : Agrees test) (hother : Agrees other) :
    Agrees fun ts => test ts && other ts :=
  fun ts us ht => by
    show (test ts && other ts) = (test us && other us)
    rw [h ht, hother ht]

theorem or (h : Agrees test) (hother : Agrees other) :
    Agrees fun ts => test ts || other ts :=
  fun ts us ht => by
    show (test ts || other ts) = (test us || other us)
    rw [h ht, hother ht]

theorem not (h : Agrees test) : Agrees fun ts => !test ts :=
  fun _ _ ht => congrArg (!·) (h ht)

theorem behind (h : Agrees test) (k : Nat) : Agrees fun ts => test (ts.drop k) :=
  fun _ _ ht => h (ht.drop k)

theorem any {α : Type} (tests : α → List Token → Bool) (xs : List α) (h : ∀ x, Agrees (tests x)) :
    Agrees fun ts => xs.any (tests · ts) := by
  intro ts us ht
  simp only [fun x => h x ht]

theorem const (b : Bool) : Agrees fun _ => b := fun _ _ _ => rfl

theorem startsWord (w : String) : Agrees (Token.startsWord w) := by
  intro ts us h
  cases h <;> rfl

theorem startsAnyWord : Agrees Token.startsAnyWord := by
  intro ts us h
  cases h <;> rfl

theorem startsIdentifier : Agrees Token.startsIdentifier := by
  intro ts us h
  cases h <;> rfl

theorem startsGroup (d : Delimiter) : Agrees (Token.startsGroup d) :=
  fun _ _ h => by cases h <;> rfl

theorem isEmpty : Agrees List.isEmpty := by
  intro ts us h
  cases h <;> rfl

theorem startsMark (c : Char) : Agrees (Token.startsOperator [c]) := by
  intro ts us h
  cases h <;> rfl

theorem startsOperator {op : List Char} (hop : op ∈ typeOperators) :
    Agrees (Token.startsOperator op) := by
  intro ts us h
  cases h with
  | mark _ _ _ hoperator => exact hoperator op hop
  | refl => rfl
  | _ =>
      simp only [typeOperators, List.mem_cons, List.not_mem_nil, or_false] at hop
      rcases hop with rfl | rfl | rfl | rfl | rfl | rfl | rfl <;> rfl

theorem startsLifetime : Agrees Token.startsLifetime := by
  intro ts us h
  cases h with
  | mark c first second hoperator hlifetime hlength hgroup h =>
      by_cases hc : c.toNat = 0x27
      · obtain rfl := hlifetime hc
        cases first <;> cases h <;> rfl
      · have hnone : ∀ (s : Spacing) (rest : List Token),
            Token.startsLifetime (.mark c s :: rest) = false := by
          intro s rest
          unfold Token.startsLifetime
          split
          · next heq =>
              obtain ⟨⟨rfl, -⟩, -⟩ := by simpa using heq
              simpa using hc
          · rfl
        rw [hnone, hnone]
  | _ => rfl

theorem startsLiteral : Agrees Token.startsLiteral := by
  intro ts us h
  cases h with
  | @mark c first second ts us hoperator hlifetime hlength hgroup h =>
      by_cases hc : c = '-'
      · subst hc
        cases h with
        | refl => rcases ts with _ | ⟨_ | _ | _ | _, ts⟩ <;> rfl
        | _ => rfl
      · have hnone : ∀ (s : Spacing) (rest : List Token),
            Token.startsLiteral (.mark c s :: rest) = false := by
          intro s rest
          unfold Token.startsLiteral
          split
          · next heq => cases heq
          · next heq => cases heq
          · next heq => exact absurd (by simpa using congrArg List.head? heq) (by simp [hc])
          · rfl
        rw [hnone, hnone]
  | _ => rfl

end Agrees

/-- Whether what a phrase reads off tokens it reads off alike ones too. -/
def Carries {α : Type} (p : Phrase α) : Prop :=
  ∀ ⦃ts us x rest⦄, Alike ts us → p ts = .ok (x, rest) →
    ∃ left, p us = .ok (x, left) ∧ Alike rest left

namespace Carries

variable {α β : Type} {p q : Phrase α} {test : List Token → Bool}

theorem pure (x : α) : Carries (Pure.pure x) := by
  intro ts us y rest h hy
  cases hy
  exact ⟨us, rfl, h⟩

theorem throw (fault : SyntaxFault) : Carries (throw fault : Phrase α) := by
  intro ts us x rest _ h
  cases h

theorem bind {f : α → Phrase β} (hp : Carries p) (hf : ∀ x, Carries (f x)) :
    Carries (p >>= f) := by
  intro ts us y rest h hy
  change (p ts >>= fun found => f found.1 found.2) = .ok (y, rest) at hy
  show ∃ left, (p us >>= fun found => f found.1 found.2) = .ok (y, left) ∧ Alike rest left
  cases hfound : p ts with
  | error fault =>
      rw [hfound] at hy
      cases hy
  | ok found =>
      rw [hfound] at hy
      obtain ⟨left, hleft, hrest⟩ := hp h hfound
      rw [hleft]
      exact hf found.1 hrest hy

theorem map {f : α → β} (hp : Carries p) : Carries (f <$> p) := by
  rw [map_eq_pure_bind]
  exact bind hp fun x => pure (f x)

theorem ite {c : Prop} [Decidable c] (hp : Carries p) (hq : Carries q) :
    Carries (if c then p else q) := by
  split
  · exact hp
  · exact hq

/-- Two phrases that go on alike. -/
theorem iteBind {c : Prop} [Decidable c] {k : α → Phrase β} (hp : Carries p) (hq : Carries q)
    (hk : ∀ x, Carries (k x)) : Carries (if c then p >>= k else q >>= k) :=
  ite (bind hp hk) (bind hq hk)

theorem peek (h : Agrees test) : Carries (Phrase.peek test) := by
  intro ts us x rest ht hx
  cases hx
  exact ⟨us, congrArg (fun b => Except.ok (b, us)) (h ht).symm, ht⟩

/-- A phrase that goes by a test of the tokens. -/
theorem peekIte (h : Agrees test) (hp : Carries p) (hq : Carries q) :
    Carries (Phrase.peek test >>= fun b => if b then p else q) :=
  bind (peek h) fun _ => ite hp hq

/-- A phrase that goes by the number of tokens. -/
theorem sized {k : List Token → Phrase α}
    (hk : ∀ ts us : List Token, ts.length = us.length → k ts = k us) (h : ∀ ts, Carries (k ts)) :
    Carries (Phrase.rest >>= k) := by
  intro ts us x rest ht hx
  change k ts ts = .ok (x, rest) at hx
  show ∃ left, k us us = .ok (x, left) ∧ Alike rest left
  rw [hk ts us ht.length_eq] at hx
  exact h us ht hx

theorem drop (k : Nat) : Carries (modify (·.drop k) : Phrase PUnit) := by
  intro ts us x rest h hx
  cases hx
  exact ⟨us.drop k, rfl, h.drop k⟩

end Carries

namespace Phrase

/-- Whether an operator is one mark or one of the operators of types. -/
def IsTypeOperator (op : String) : Prop := op.toList ∈ typeOperators ∨ op.toList.length = 1

instance (op : String) : Decidable (IsTypeOperator op) :=
  inferInstanceAs (Decidable (_ ∨ _))

theorem agrees_startsOperator {op : String} (h : IsTypeOperator op) :
    Agrees (Token.startsOperator op.toList) := by
  rcases h with h | h
  · exact Agrees.startsOperator h
  · obtain ⟨c, hc⟩ := List.length_eq_one_iff.mp h
    rw [hc]
    exact Agrees.startsMark c

theorem rest_bind {α : Type} (k : List Token → Phrase α) (ts : List Token) :
    (rest >>= k) ts = k ts ts := rfl

theorem carries_peekOperator {op : String} (h : IsTypeOperator op) : Carries (peekOperator op) :=
  Carries.peek (agrees_startsOperator h)

theorem carries_peekWord (w : String) : Carries (peekWord w) :=
  Carries.peek (Agrees.startsWord w)

theorem carries_peekGroup (d : Delimiter) : Carries (peekGroup d) :=
  Carries.peek (Agrees.startsGroup d)

theorem carries_atEnd : Carries atEnd := Carries.peek Agrees.isEmpty

theorem carries_expected {α : Type} (text : String) : Carries (expected text : Phrase α) :=
  Carries.bind carries_atEnd fun _ => Carries.throw _

theorem carries_operator {op : String} (h : IsTypeOperator op) : Carries (operator op) :=
  Carries.bind (carries_peekOperator h) fun _ =>
    Carries.ite (Carries.bind (Carries.drop _) fun _ => Carries.pure _) (Carries.throw _)

theorem carries_operator? {op : String} (h : IsTypeOperator op) : Carries (operator? op) :=
  Carries.bind (carries_peekOperator h) fun _ =>
    Carries.ite (carries_operator h) (Carries.pure _)

theorem carries_anyWord : Carries anyWord := by
  intro ts us x rest h hx
  cases h with
  | refl => exact ⟨rest, hx, .refl _⟩
  | word w h =>
      cases hx
      exact ⟨_, rfl, h⟩
  | _ => cases hx

theorem carries_identifier : Carries identifier := by
  intro ts us x rest h hx
  cases h with
  | refl => exact ⟨rest, hx, .refl _⟩
  | @word w ts us h =>
      have hread : ∀ tokens, identifier (.word w :: tokens) =
          if isIdentifier w then .ok (w, tokens)
          else .error (.expected ("identifier, found keyword `" ++ w ++ "`") false) := by
        intro tokens
        show (if isIdentifier w = true then _ else _ : Phrase String) _ = _
        split <;> rfl
      rw [hread] at hx ⊢
      split at hx
      · cases hx
        exact ⟨us, by rw [if_pos (by assumption)], h⟩
      · cases hx
  | _ => cases hx

theorem carries_keyword (w : String) : Carries (keyword w) :=
  Carries.bind (carries_peekWord w) fun _ => Carries.ite carries_anyWord (carries_expected _)

theorem carries_keyword? (w : String) : Carries (keyword? w) :=
  Carries.bind (carries_peekWord w) fun _ => Carries.ite carries_anyWord (Carries.pure _)

theorem lifetime_eq_ok {ts rest x : List Token} (h : lifetime ts = .ok (x, rest)) :
    ∃ c w, c.toNat = 0x27 ∧ ts = .mark c .joint :: .word w :: rest ∧
      x = [.mark c .joint, .word w] := by
  match ts with
  | .mark c .joint :: .word w :: tokens =>
      by_cases hc : c.toNat = 0x27
      · have hread : lifetime (.mark c .joint :: .word w :: tokens) =
            .ok ([.mark c .joint, .word w], tokens) := by
          show (if c.toNat = 0x27 then _ else _ : Phrase (List Token)) _ = _
          rw [if_pos hc]
          rfl
        rw [hread] at h
        cases h
        exact ⟨c, w, hc, rfl, rfl⟩
      · have hread : lifetime (.mark c .joint :: .word w :: tokens) =
            .error (.expected "lifetime" false) := by
          show (if c.toNat = 0x27 then _ else _ : Phrase (List Token)) _ = _
          rw [if_neg hc]
          rfl
        rw [hread] at h
        cases h
  | [] => cases h
  | [.mark _ .joint] => cases h
  | .mark _ .joint :: .mark _ _ :: _ => cases h
  | .mark _ .joint :: .literal _ :: _ => cases h
  | .mark _ .joint :: .group _ _ :: _ => cases h
  | .mark _ .alone :: _ => cases h
  | .word _ :: _ => cases h
  | .literal _ :: _ => cases h
  | .group _ _ :: _ => cases h

theorem carries_lifetime : Carries lifetime := by
  intro ts us x rest h hx
  obtain ⟨c, w, hc, rfl, rfl⟩ := lifetime_eq_ok hx
  obtain ⟨behind, rfl, hbehind⟩ := h.of_quote hc
  obtain ⟨left, rfl, hleft⟩ := hbehind.of_word
  refine ⟨left, ?_, hleft⟩
  show (if c.toNat = 0x27 then _ else _ : Phrase (List Token)) _ = _
  rw [if_pos hc]
  rfl

theorem carries_lifetime? : Carries lifetime? :=
  Carries.peekIte Agrees.startsLifetime carries_lifetime (Carries.pure _)

theorem inside_group {α : Type} (d : Delimiter) (body : Phrase α) (tokens after : List Token) :
    inside d body (.group d tokens :: after) =
      match body tokens with
      | .ok (found, []) => .ok (found, after)
      | .ok (_, _ :: _) => .error (.leftover (some d))
      | .error fault => .error fault := by
  show (if d = d then _ else _ : Phrase α) _ = _
  rw [if_pos rfl]
  rcases hbody : body tokens with fault | ⟨found, _ | ⟨t, left⟩⟩
  all_goals
    show ((body tokens >>= fun found => _ : Except SyntaxFault _) >>= _ : Except SyntaxFault _) = _
    rw [hbody]
    rfl

/-- What stands in braces is the same in alike tokens. -/
theorem carries_inside {α : Type} {d : Delimiter} {body : Phrase α}
    (hbody : d ≠ .brace → Carries body) : Carries (inside d body) := by
  intro ts us x rest h hx
  cases h with
  | refl => exact ⟨rest, hx, .refl _⟩
  | @group e tokens other ts us hbrace htokens h =>
      by_cases hd : e = d
      · subst hd
        rw [inside_group] at hx
        rcases hread : body tokens with fault | ⟨found, _ | ⟨t, left⟩⟩
        · rw [hread] at hx
          cases hx
        · rw [hread] at hx
          cases hx
          by_cases hd : e = .brace
          · obtain rfl := hbrace hd
            exact ⟨us, by rw [inside_group, hread], h⟩
          · obtain ⟨left, hleft, hnil⟩ := hbody hd htokens hread
            obtain rfl := hnil.of_nil
            exact ⟨us, by rw [inside_group, hleft], h⟩
        · rw [hread] at hx
          cases hx
      · have hread : inside d body (.group e tokens :: ts) = expected (groupName d)
            (.group e tokens :: ts) := by
          show (if e = d then _ else _ : Phrase α) _ = _
          rw [if_neg hd]
        rw [hread] at hx
        cases hx
  | _ => cases hx

/-- Whether what a phrase reads off tokens it reads off alike ones with the same group at the
front. -/
def CarriesAtGroup {α : Type} (p : Phrase α) : Prop :=
  ∀ ⦃ts us x rest⦄, Alike ts us → groupAt ts = groupAt us → p ts = .ok (x, rest) →
    ∃ left, p us = .ok (x, left) ∧ Alike rest left

/-- The group behind a bang or a hash is the same in alike tokens. -/
theorem carries_behindMark {α : Type} {op : String} {mark : Char} (hop : op.toList = [mark])
    (hmark : mark = '!' ∨ mark = '#') {k : List Token → Phrase α}
    (hk : ∀ marks, CarriesAtGroup (k marks)) : Carries (operator op >>= k) := by
  have hfail : ∀ tokens, Token.startsOperator [mark] tokens = false →
      (operator op >>= k) tokens = .error (.missing op) := by
    intro tokens htokens
    show ((if Token.startsOperator op.toList tokens = true then _ else _ :
      Phrase (List Token)) >>= k) tokens = _
    rw [hop, htokens]
    rfl
  have hread : ∀ (s : Spacing) (tokens : List Token),
      (operator op >>= k) (.mark mark s :: tokens) = k (operatorMarks [mark]) tokens := by
    intro s tokens
    show ((if Token.startsOperator op.toList (.mark mark s :: tokens) = true then _ else _ :
      Phrase (List Token)) >>= k) _ = _
    rw [hop, if_pos (by simp [Token.startsOperator])]
    show k _ ((Token.mark mark s :: tokens).drop op.length) = _
    rw [← String.length_toList, hop]
    rfl
  intro ts us x rest h hx
  cases h with
  | refl => exact ⟨rest, hx, .refl _⟩
  | @mark c first second ts us hoperator hlifetime hlength hgroup h =>
      by_cases hc : mark = c
      · subst hc
        rw [hread] at hx ⊢
        exact hk _ h (hgroup hmark) hx
      · have hother : Token.startsOperator [mark] (.mark c first :: ts) = false :=
          beq_eq_false_iff_ne.mpr hc
        rw [hfail _ hother] at hx
        cases hx
  | _ =>
      rw [hfail _ rfl] at hx
      cases hx

theorem carriesAtGroup_inside {α β : Type} {d : Delimiter} {body : Phrase α} {k : α → Phrase β}
    (hk : ∀ found, Carries (k found)) : CarriesAtGroup (inside d body >>= k) := by
  intro ts us x rest h hgroup hx
  rcases h.of_groupAt hgroup with hnone | ⟨e, tokens, after, left, rfl, rfl, hleft⟩
  · match ts with
    | .group _ _ :: _ => cases hnone
    | [] => cases hx
    | .word _ :: _ => cases hx
    | .mark _ _ :: _ => cases hx
    | .literal _ :: _ => cases hx
  · by_cases hd : e = d
    · subst hd
      change (inside e body (.group e tokens :: after) >>= fun found => k found.1 found.2) = _ at hx
      show ∃ left', (inside e body (.group e tokens :: left) >>= fun found =>
        k found.1 found.2) = .ok (x, left') ∧ _
      rw [inside_group] at hx ⊢
      rcases hread : body tokens with fault | ⟨found, _ | ⟨t, more⟩⟩
      · rw [hread] at hx
        cases hx
      · rw [hread] at hx
        exact hk found hleft hx
      · rw [hread] at hx
        cases hx
    · change ((if e = d then _ else _ : Phrase α) >>= k) (.group e tokens :: after) = _ at hx
      rw [if_neg hd] at hx
      cases hx

theorem carriesAtGroup_anyGroup {α : Type} {k : Delimiter × List Token → Phrase α}
    (hk : ∀ found, Carries (k found)) : CarriesAtGroup (anyGroup >>= k) := by
  intro ts us x rest h hgroup hx
  rcases h.of_groupAt hgroup with hnone | ⟨d, body, after, left, rfl, rfl, hleft⟩
  · match ts with
    | .group _ _ :: _ => cases hnone
    | [] => cases hx
    | .word _ :: _ => cases hx
    | .mark _ _ :: _ => cases hx
    | .literal _ :: _ => cases hx
  · exact hk (d, body) hleft hx

theorem carries_listUntil {α : Type} {stop : List Token → Bool} (hstop : Agrees stop)
    {item : Phrase α} (hitem : Carries item) {separator : Phrase (List Token)}
    (hseparator : Carries separator) (fuel : Nat) :
    Carries (listUntil stop item separator fuel) := by
  induction fuel with
  | zero => exact Carries.pure _
  | succ fuel ih =>
      refine Carries.peekIte hstop (Carries.pure _) (Carries.bind hitem fun found => ?_)
      refine Carries.peekIte hstop (Carries.pure _) (Carries.bind hseparator fun mark => ?_)
      exact Carries.bind ih fun _ => Carries.pure _

theorem carries_commaList {α : Type} {stop : List Token → Bool} (hstop : Agrees stop)
    {item : Phrase α} (hitem : Carries item) : Carries (commaList stop item) :=
  Carries.sized (fun ts us h => by rw [h]) fun _ =>
    carries_listUntil hstop hitem (carries_operator (by decide)) _

theorem carries_literal : Carries literal := by
  intro ts us x rest h hx
  rw [literal, rest_bind] at hx
  split at hx
  · next l tokens =>
      cases hx
      obtain ⟨left, rfl, hleft⟩ := h.of_literal
      exact ⟨left, rfl, hleft⟩
  · next w tokens =>
      split at hx
      · next hw =>
          cases hx
          obtain ⟨left, rfl, hleft⟩ := h.of_word
          refine ⟨left, ?_, hleft⟩
          rw [literal, rest_bind]
          simp only [if_pos hw]
          rfl
      · cases hx
  · next s l tokens =>
      split at hx
      · next hl =>
          cases hx
          obtain ⟨s', left, rfl, hleft⟩ : ∃ s' left, us = .mark '-' s' :: .literal l :: left ∧
              Alike rest left := by
            cases h with
            | refl => exact ⟨s, rest, rfl, .refl _⟩
            | mark _ _ s' _ _ _ _ h =>
                obtain ⟨left, rfl, hleft⟩ := h.of_literal
                exact ⟨s', left, rfl, hleft⟩
          refine ⟨left, ?_, hleft⟩
          rw [literal, rest_bind]
          simp only [if_pos hl]
          rfl
      · cases hx
  · cases hx

end Phrase

end Rowsmith.Source
