import Rowsmith.Source.Phrase.Statement

/-!
# Paths hold no dots

Whatever a phrase of a path or a type yields has no dot outside of groups. Each phrase
of the grammar is followed once; the phrases that nest in it are assumed to be so, and
the whole grammar is reached by induction on its depth.
-/

namespace Rowsmith.Source

/-- Whether a token is a dot. -/
def Token.isDot : Token → Bool
  | .mark c _ => c == '.'
  | _ => false

/-- Whether no token is a dot; what stands in groups is left aside. -/
def Dotless (tokens : List Token) : Prop := ∀ t ∈ tokens, t.isDot = false

theorem dotless_nil : Dotless [] := by
  intro t h
  exact absurd h List.not_mem_nil

theorem dotless_singleton {t : Token} (h : t.isDot = false) : Dotless [t] := by
  intro u hu
  rwa [List.mem_singleton.mp hu]

theorem Dotless.append {a b : List Token} (ha : Dotless a) (hb : Dotless b) :
    Dotless (a ++ b) := by
  intro t h
  rcases List.mem_append.mp h with h | h
  · exact ha t h
  · exact hb t h

theorem dotless_of_all {tokens : List Token} (h : tokens.all (!·.isDot) = true) :
    Dotless tokens := by
  intro t ht
  simpa only [Bool.not_eq_true'] using List.all_eq_true.mp h t ht

theorem dotless_flatMap {α : Type} {f : α → List Token} {xs : List α}
    (h : ∀ x ∈ xs, Dotless (f x)) : Dotless (xs.flatMap f) := by
  intro t ht
  obtain ⟨x, hx, hm⟩ := List.mem_flatMap.mp ht
  exact h x hx t hm

theorem dotless_operatorMarks {marks : List Char} (h : marks.all (· != '.') = true) :
    Dotless (operatorMarks marks) := by
  induction marks with
  | nil => exact dotless_nil
  | cons c marks ih =>
      simp only [List.all_cons, Bool.and_eq_true, bne_iff_ne, ne_eq] at h
      have hc : ∀ spacing, (Token.mark c spacing).isDot = false :=
        fun _ => beq_eq_false_iff_ne.mpr h.1
      cases marks with
      | nil => exact dotless_singleton (hc .alone)
      | cons d marks => exact (dotless_singleton (hc .joint)).append (ih h.2)

/-- Whether all that a phrase yields has a property. -/
def Yields {α : Type} (P : α → Prop) (p : Phrase α) : Prop :=
  ∀ tokens x rest, p tokens = .ok (x, rest) → P x

namespace Yields

variable {α β : Type} {P : α → Prop} {Q : β → Prop}

theorem pure {x : α} (h : P x) : Yields P (Pure.pure x) := by
  intro tokens y rest hy
  cases hy
  exact h

theorem throw (fault : SyntaxFault) : Yields P (throw fault) := by
  intro tokens x rest h
  cases h

theorem bind {p : Phrase α} {f : α → Phrase β} (hp : Yields P p)
    (hf : ∀ x, P x → Yields Q (f x)) : Yields Q (p >>= f) := by
  intro tokens y rest h
  change (p tokens >>= fun found => f found.1 found.2) = .ok (y, rest) at h
  cases hfound : p tokens with
  | error fault =>
      rw [hfound] at h
      cases h
  | ok found =>
      rw [hfound] at h
      exact hf found.1 (hp tokens found.1 found.2 hfound) found.2 y rest h

/-- Nothing needs to be known of what a first phrase yields. -/
theorem after {p : Phrase α} {f : α → Phrase β} (hf : ∀ x, Yields Q (f x)) :
    Yields Q (p >>= f) :=
  bind (fun _ _ _ _ => trivial : Yields (fun _ => True) p) fun x _ => hf x

theorem map {p : Phrase α} {f : α → β} (hp : Yields P p) (hf : ∀ x, P x → Q (f x)) :
    Yields Q (f <$> p) := by
  rw [map_eq_pure_bind]
  exact bind hp fun x hx => pure (hf x hx)

theorem ite {c : Prop} [Decidable c] {p q : Phrase α} (hp : Yields P p) (hq : Yields P q) :
    Yields P (if c then p else q) := by
  split
  · exact hp
  · exact hq

/-- Two phrases that go on alike. -/
theorem iteBind {c : Prop} [Decidable c] {p q : Phrase α} {k : α → Phrase β} (hp : Yields P p)
    (hq : Yields P q) (hk : ∀ x, P x → Yields Q (k x)) :
    Yields Q (if c then p >>= k else q >>= k) :=
  ite (bind hp hk) (bind hq hk)

end Yields

namespace Phrase

theorem yields_expected {α : Type} {P : α → Prop} (text : String) :
    Yields P (expected text) :=
  Yields.after fun _ => Yields.throw _

theorem yields_anyWord : Yields Dotless anyWord := by
  refine Yields.after fun tokens => ?_
  split
  · exact Yields.after fun _ => Yields.pure (dotless_singleton rfl)
  · exact yields_expected "ident"

theorem yields_operator {op : String} (h : op.toList.all (· != '.') = true) :
    Yields Dotless (operator op) := by
  refine Yields.after fun here => ?_
  split
  · exact Yields.after fun _ => Yields.pure (dotless_operatorMarks h)
  · exact Yields.throw _

theorem yields_operator? {op : String} (h : op.toList.all (· != '.') = true) :
    Yields Dotless (operator? op) := by
  refine Yields.after fun here => ?_
  split
  · exact yields_operator h
  · exact Yields.pure dotless_nil

theorem yields_keyword (w : String) : Yields Dotless (keyword w) := by
  refine Yields.after fun here => ?_
  split
  · exact yields_anyWord
  · exact yields_expected _

theorem yields_keyword? (w : String) : Yields Dotless (keyword? w) := by
  refine Yields.after fun here => ?_
  split
  · exact yields_anyWord
  · exact Yields.pure dotless_nil

theorem yields_word {p : Phrase String} : Yields Dotless (word <$> p) :=
  Yields.map (fun _ _ _ _ => trivial : Yields (fun _ => True) p)
    fun _ _ => dotless_singleton rfl

theorem yields_lifetime : Yields Dotless lifetime := by
  refine Yields.after fun tokens => ?_
  split
  · split
    · next c w _ hc =>
        refine Yields.after fun _ => Yields.pure ?_
        have hdot : (Token.mark c .joint).isDot = false := by
          refine beq_eq_false_iff_ne.mpr ?_
          rintro rfl
          exact absurd hc (by decide)
        exact (dotless_singleton hdot).append (dotless_singleton rfl)
    · exact yields_expected "lifetime"
  · exact yields_expected "lifetime"

theorem yields_lifetime? : Yields Dotless lifetime? := by
  refine Yields.after fun here => ?_
  split
  · exact yields_lifetime
  · exact Yields.pure dotless_nil

/-- Whether all items of a list are dotless, and their separators. -/
def DotlessItems {α : Type} (tokensOf : α → List Token) (items : List (α × List Token)) : Prop :=
  ∀ p ∈ items, Dotless (tokensOf p.1) ∧ Dotless p.2

theorem yields_listUntil {α : Type} (tokensOf : α → List Token) {item : Phrase α}
    {separator : Phrase (List Token)} (hi : Yields (fun x => Dotless (tokensOf x)) item)
    (hs : Yields Dotless separator) (stop : List Token → Bool) (fuel : Nat) :
    Yields (DotlessItems tokensOf) (listUntil stop item separator fuel) := by
  induction fuel with
  | zero => exact Yields.pure fun _ h => absurd h List.not_mem_nil
  | succ fuel ih =>
      refine Yields.after fun here => ?_
      split
      · exact Yields.pure fun _ h => absurd h List.not_mem_nil
      · refine Yields.bind hi fun x hx => Yields.after fun there => ?_
        split
        · refine Yields.pure fun p hp => ?_
          rw [List.mem_singleton.mp hp]
          exact ⟨hx, dotless_nil⟩
        · refine Yields.bind hs fun mark hmark => Yields.bind ih fun items hitems => ?_
          refine Yields.pure fun p hp => ?_
          rcases List.mem_cons.mp hp with rfl | hp
          · exact ⟨hx, hmark⟩
          · exact hitems p hp

theorem yields_commaList {α : Type} (tokensOf : α → List Token) {item : Phrase α}
    (hi : Yields (fun x => Dotless (tokensOf x)) item) (stop : List Token → Bool) :
    Yields (DotlessItems tokensOf) (commaList stop item) :=
  Yields.after fun _ => yields_listUntil tokensOf hi (yields_operator rfl) stop _

theorem dotless_listTokens {items : List (List Token × List Token)}
    (h : DotlessItems id items) : Dotless (listTokens items) :=
  dotless_flatMap fun p hp => (h p hp).1.append (h p hp).2

/-- A group is no dot, whatever stands in it. -/
theorem dotless_group (delimiter : Delimiter) (body : List Token) :
    Dotless [.group delimiter body] :=
  dotless_singleton rfl

section Nested

variable {n : Nested} (hn : ∀ plus, Yields (fun t => Dotless t.tokens) (n.type plus))
  (hb : Yields Dotless n.block)

theorem yields_boundLifetimes? : Yields Dotless boundLifetimes? := by
  refine Yields.after fun here => ?_
  split
  · refine Yields.bind (yields_keyword "for") fun head hhead => ?_
    refine Yields.bind (yields_operator rfl) fun left hleft => ?_
    refine Yields.bind (yields_commaList id yields_lifetime _) fun items hitems => ?_
    refine Yields.bind (yields_operator rfl) fun right hright => ?_
    exact Yields.pure (((hhead.append hleft).append (dotless_listTokens hitems)).append hright)
  · exact Yields.pure dotless_nil

theorem yields_literal : Yields (fun found => Dotless found.1) literal := by
  refine Yields.after fun tokens => ?_
  split
  · exact Yields.after fun _ => Yields.pure (dotless_singleton rfl)
  · split
    · exact Yields.after fun _ => Yields.pure (dotless_singleton rfl)
    · exact yields_expected "literal"
  · split
    · exact Yields.after fun _ => Yields.pure
        ((dotless_operatorMarks rfl).append (dotless_singleton rfl))
    · exact yields_expected "literal"
  · exact yields_expected "literal"

include hb in
theorem yields_constantArgument : Yields Dotless (constantArgument n) := by
  refine Yields.after fun here => ?_
  split
  · exact Yields.bind yields_literal fun found hfound => Yields.pure hfound
  · refine Yields.after fun there => ?_
    split
    · exact hb
    · exact Yields.throw _

include hn

theorem yields_result? : Yields Dotless (result? n) := by
  refine Yields.after fun here => ?_
  split
  · refine Yields.bind (yields_operator rfl) fun arrow harrow => ?_
    exact Yields.bind (hn false) fun t ht => Yields.pure (harrow.append ht)
  · exact Yields.pure dotless_nil

theorem yields_traitArguments : Yields Dotless (traitArguments n) := by
  refine Yields.after fun _ => Yields.after fun items => ?_
  exact Yields.bind (yields_result? hn) fun result hresult =>
    Yields.pure ((dotless_group .parenthesis _).append hresult)

omit hn in
theorem yields_segment {arguments : Phrase (List Token)} (ha : Yields Dotless arguments)
    (inExpression : Bool) :
    Yields (fun p => Dotless p.tokens) (segment arguments inExpression) := by
  have harguments : ∀ head : List Token, Dotless head → Yields (fun p => Dotless p.tokens) (do
      if ← peekArguments inExpression then
        return { tokens := head ++ (← arguments), single := true, rooted := false, plain := false,
                 closed := true : PathPhrase }
      else
        return { tokens := head, single := true, rooted := false, plain := true,
                 closed := false }) := by
    intro head hhead
    refine Yields.after fun here => ?_
    split
    · exact Yields.bind ha fun found hfound => Yields.pure (hhead.append hfound)
    · exact Yields.pure hhead
  refine Yields.after fun special => ?_
  split
  · exact Yields.bind yields_anyWord fun head hhead => Yields.pure hhead
  · refine Yields.after fun here => ?_
    split
    · exact Yields.bind yields_anyWord harguments
    · exact Yields.bind yields_word harguments

omit hn in
theorem yields_segmentsAfter {arguments : Phrase (List Token)} (ha : Yields Dotless arguments)
    (inExpression : Bool) (fuel : Nat) (path : PathPhrase) (hp : Dotless path.tokens) :
    Yields (fun p => Dotless p.tokens) (segmentsAfter arguments inExpression path fuel) := by
  induction fuel generalizing path with
  | zero => exact Yields.pure hp
  | succ fuel ih =>
      refine Yields.after fun here => ?_
      split
      · refine Yields.bind (yields_operator rfl) fun colons hcolons => ?_
        refine Yields.bind (yields_segment ha inExpression) fun next hnext => ?_
        exact ih _ ((hp.append hcolons).append hnext)
      · exact Yields.pure hp

omit hn in
theorem yields_pathOf {arguments : Phrase (List Token)} (ha : Yields Dotless arguments)
    (inExpression : Bool) :
    Yields (fun p => Dotless p.tokens) (pathOf arguments inExpression) := by
  refine Yields.bind (yields_operator? rfl) fun root hroot => ?_
  refine Yields.bind (yields_segment ha inExpression) fun first hfirst => ?_
  refine Yields.after fun here => ?_
  exact yields_segmentsAfter ha inExpression _ _ (hroot.append hfirst)

section Bounds

variable {arguments : Phrase (List Token)} (ha : Yields Dotless arguments)

include ha

theorem yields_traitBound : Yields Dotless (traitBound n arguments) := by
  refine Yields.bind yields_boundLifetimes? fun lifetimes hlifetimes => ?_
  refine Yields.bind (yields_operator? rfl) fun maybe hmaybe => ?_
  refine Yields.iteBind yields_boundLifetimes? (Yields.pure dotless_nil) fun inner hinner => ?_
  refine Yields.bind (yields_pathOf ha false) fun path hpath => ?_
  refine Yields.after fun here => ?_
  refine Yields.iteBind (yields_traitArguments hn) (Yields.pure dotless_nil) fun tail htail => ?_
  refine Yields.ite (Yields.after fun _ => ?_) ?_ <;>
    exact Yields.pure ((((hlifetimes.append hmaybe).append hinner).append hpath).append htail)

theorem yields_bound : Yields (fun found => Dotless found.1) (bound n arguments) := by
  refine Yields.after fun isLifetime => Yields.ite ?_ (Yields.after fun isUse => Yields.ite ?_
    (Yields.after fun isGroup => Yields.ite ?_ ?_))
  · exact Yields.bind yields_lifetime fun found hfound => Yields.pure hfound
  · exact Yields.throw _
  · exact Yields.after fun body => Yields.pure (dotless_group .parenthesis body)
  · exact Yields.bind (yields_traitBound hn ha) fun found hfound => Yields.pure hfound

theorem yields_boundsFrom (plus : Bool) (fuel : Nat) :
    Yields (fun found => Dotless found.1) (boundsFrom n arguments plus fuel) := by
  induction fuel with
  | zero => exact Yields.pure dotless_nil
  | succ fuel ih =>
      refine Yields.bind (yields_bound hn ha) fun found hfound => ?_
      refine Yields.after fun here => Yields.ite ?_ (Yields.pure hfound)
      refine Yields.bind (yields_operator rfl) fun mark hmark => ?_
      refine Yields.after fun there => Yields.ite ?_ (Yields.pure (hfound.append hmark))
      exact Yields.bind ih fun more hmore => Yields.pure ((hfound.append hmark).append hmore)

theorem yields_bounds (plus : Bool) :
    Yields (fun found => Dotless found.1) (bounds n arguments plus) :=
  Yields.after fun _ => yields_boundsFrom hn ha plus _

theorem yields_boundsUntil (stop : List Token → Bool) (fuel : Nat) :
    Yields Dotless (boundsUntil n arguments stop fuel) := by
  induction fuel with
  | zero => exact Yields.pure dotless_nil
  | succ fuel ih =>
      refine Yields.after fun here => Yields.ite (Yields.pure dotless_nil) ?_
      refine Yields.bind (yields_bound hn ha) fun found hfound => ?_
      refine Yields.after fun there => Yields.ite ?_ (Yields.pure hfound)
      refine Yields.bind (yields_operator rfl) fun mark hmark => ?_
      exact Yields.bind ih fun more hmore => Yields.pure ((hfound.append hmark).append hmore)

include hb

theorem yields_genericArgument :
    Yields (fun found => Dotless found.2) (genericArgument n arguments) := by
  refine Yields.after fun isLifetime => Yields.ite ?_ ?_
  · exact Yields.bind yields_lifetime fun found hfound => Yields.pure hfound
  refine Yields.after fun isLiteral => Yields.after fun isBlock => Yields.ite ?_ ?_
  · exact Yields.bind (yields_constantArgument hb) fun found hfound => Yields.pure hfound
  refine Yields.bind (hn true) fun type htype => Yields.after fun isEquals => Yields.ite ?_ ?_
  · refine Yields.bind (yields_operator rfl) fun equals hequals => ?_
    refine Yields.after fun valueLiteral => Yields.after fun valueBlock => ?_
    refine Yields.iteBind (yields_constantArgument hb)
      (Yields.map (hn true) fun _ ht => ht) fun value hvalue => ?_
    exact Yields.pure ((htype.append hequals).append hvalue)
  refine Yields.after fun isColon => Yields.ite ?_ (Yields.pure htype)
  refine Yields.bind (yields_operator rfl) fun colon hcolon => Yields.after fun here => ?_
  exact Yields.bind (yields_boundsUntil hn ha _ _) fun found hfound =>
    Yields.pure ((htype.append hcolon).append hfound)

omit hn hb ha in
theorem dotless_orderedArguments {items : List ((Bool × List Token) × List Token)}
    (h : DotlessItems Prod.snd items) : Dotless (orderedArguments items) := by
  have hpart : ∀ keep : (Bool × List Token) × List Token → Bool,
      Dotless ((items.filter keep).flatMap fun p => p.1.2 ++ p.2) := by
    intro keep
    refine dotless_flatMap fun p hp => ?_
    have hitem := h p (List.mem_filter.mp hp).1
    exact hitem.1.append hitem.2
  refine ((hpart _).append ?_).append (hpart _)
  split
  · exact dotless_operatorMarks rfl
  · exact dotless_nil

end Bounds

include hb

theorem yields_genericArgumentsWithin (depth : Nat) :
    Yields Dotless (genericArgumentsWithin n depth) := by
  induction depth with
  | zero => exact Yields.throw _
  | succ depth ih =>
      refine Yields.bind (yields_operator? rfl) fun colons hcolons => ?_
      refine Yields.bind (yields_operator rfl) fun left hleft => ?_
      refine Yields.bind (yields_commaList Prod.snd (yields_genericArgument hn hb ih) _)
        fun items hitems => ?_
      refine Yields.bind (yields_operator rfl) fun right hright => ?_
      exact Yields.pure (((hcolons.append hleft).append (dotless_orderedArguments hitems)).append
        hright)

theorem yields_genericArguments : Yields Dotless (genericArguments n) :=
  Yields.after fun _ => yields_genericArgumentsWithin hn hb _

theorem yields_path (inExpression : Bool) :
    Yields (fun p => Dotless p.tokens) (path n inExpression) :=
  yields_pathOf (yields_genericArguments hn hb) inExpression

theorem yields_qualifiedPath (inExpression : Bool) :
    Yields (fun found => Dotless found.1.tokens) (qualifiedPath n inExpression) := by
  refine Yields.after fun here => Yields.ite ?_ ?_
  · refine Yields.bind (yields_operator rfl) fun left hleft => ?_
    refine Yields.bind (hn true) fun qualifier hqualifier => Yields.after fun isAs => ?_
    have hrest : ∀ target, Dotless target →
        Yields (fun found => Dotless found.1.tokens) (do
          let right ← operator ">"
          let colons ← operator "::"
          let first ← segment (genericArguments n) inExpression
          let head := left ++ qualifier.tokens ++ target ++ right ++ colons ++ first.tokens
          let whole ← segmentsAfter (genericArguments n) inExpression { first with tokens := head }
            (← rest).length
          return (whole, true)) := by
      intro target htarget
      refine Yields.bind (yields_operator rfl) fun right hright => ?_
      refine Yields.bind (yields_operator rfl) fun colons hcolons => ?_
      refine Yields.bind (yields_segment (yields_genericArguments hn hb) _) fun first hfirst => ?_
      refine Yields.after fun here => ?_
      exact Yields.bind (yields_segmentsAfter (yields_genericArguments hn hb) _ _ _
        (((((hleft.append hqualifier).append htarget).append hright).append hcolons).append hfirst))
        fun whole hwhole => Yields.pure hwhole
    refine Yields.ite ?_ (hrest [] dotless_nil)
    exact Yields.bind (yields_keyword "as") fun head hhead =>
      Yields.bind (yields_path hn hb false) fun p hp => hrest _ (hhead.append hp)
  · exact Yields.bind (yields_path hn hb inExpression) fun found hfound => Yields.pure hfound

theorem yields_objectBounds (plus : Bool) (fault : String) :
    Yields Dotless (objectBounds n plus fault) := by
  refine Yields.bind (yields_bounds hn (yields_genericArguments hn hb) plus) fun found hfound => ?_
  exact Yields.ite (Yields.pure hfound) (Yields.throw _)

theorem yields_boundsBehindPlus (fuel : Nat) : Yields Dotless (boundsBehindPlus n fuel) := by
  induction fuel with
  | zero => exact Yields.pure dotless_nil
  | succ fuel ih =>
      refine Yields.after fun here => Yields.ite ?_ (Yields.pure dotless_nil)
      refine Yields.bind (yields_operator rfl) fun mark hmark => ?_
      refine Yields.bind (yields_bound hn (yields_genericArguments hn hb)) fun next hnext => ?_
      exact Yields.bind ih fun more hmore => Yields.pure ((hmark.append hnext).append hmore)

theorem yields_laterBounds : Yields Dotless (laterBounds n) := by
  refine Yields.after fun here => Yields.ite ?_ (Yields.pure dotless_nil)
  refine Yields.bind (yields_operator rfl) fun mark hmark => Yields.after fun there => ?_
  refine Yields.ite ?_ (Yields.pure hmark)
  exact Yields.bind (yields_bounds hn (yields_genericArguments hn hb) true) fun found hfound =>
    Yields.pure (hmark.append hfound)

theorem yields_parenType (plus : Bool) :
    Yields (fun t => Dotless t.tokens) (parenType n plus) := by
  have hbody : ∀ body : List Token, Dotless (parens body) := dotless_group .parenthesis
  have hmore : ∀ (body : List Token) (form : TypeForm),
      Yields (fun t => Dotless t.tokens) (do
        return { tokens := parens body ++ (← boundsBehindPlus n (← rest).length), form
                 : TypePhrase }) :=
    fun body form => Yields.after fun here =>
      Yields.bind (yields_boundsBehindPlus hn hb _) fun more hmore =>
        Yields.pure ((hbody body).append hmore)
  refine Yields.after fun maybe => Yields.after fun found => Yields.ite (hmore _ _) ?_
  exact Yields.after fun here => Yields.ite (hmore _ _) (Yields.pure (hbody _))

omit hb in
theorem yields_functionType : Yields Dotless (functionType n) := by
  refine Yields.bind (yields_keyword? "unsafe") fun safety hsafety => Yields.after fun here => ?_
  have hrest : ∀ linkage, Dotless linkage → Yields Dotless (do
      let head ← keyword "fn"
      let arguments ← inside .parenthesis (commaList List.isEmpty (functionTypeArgument n))
      return safety ++ linkage ++ head ++ parens (listTokens arguments) ++ (← result? n)) := by
    intro linkage hlinkage
    refine Yields.bind (yields_keyword "fn") fun head hhead => Yields.after fun arguments => ?_
    exact Yields.bind (yields_result? hn) fun result hresult => Yields.pure
      ((((hsafety.append hlinkage).append hhead).append (dotless_group _ _)).append hresult)
  refine Yields.ite ?_ (hrest [] dotless_nil)
  refine Yields.bind yields_anyWord fun word hword => Yields.after fun tokens => ?_
  split
  · exact Yields.after fun _ => hrest _ (hword.append (dotless_singleton rfl))
  · exact hrest _ (hword.append dotless_nil)

theorem yields_pathType (lifetimes : List Token) (hl : Dotless lifetimes) (plus : Bool) :
    Yields (fun t => Dotless t.tokens) (pathType n lifetimes plus) := by
  refine Yields.bind (yields_qualifiedPath hn hb false) fun found hfound => ?_
  refine Yields.after fun isMacro => Yields.ite (Yields.pure hfound) (Yields.ite ?_ ?_)
  · refine Yields.bind (yields_operator rfl) fun bang hbang => Yields.after fun body => ?_
    exact Yields.pure ((hfound.append hbang).append (dotless_group _ _))
  refine Yields.after fun isPlus => Yields.ite ?_ (Yields.ite ?_ (Yields.pure hfound))
  · exact Yields.bind (yields_laterBounds hn hb) fun more hmore =>
      Yields.pure ((hl.append hfound).append hmore)
  · exact Yields.pure (hl.append hfound)

omit hb in
theorem yields_pointerType : Yields Dotless (pointerType n) := by
  refine Yields.bind (yields_operator rfl) fun star hstar => ?_
  have hrest : ∀ access, Dotless access → Yields Dotless (do
      return star ++ access ++ (← n.type false).tokens) :=
    fun access haccess => Yields.bind (hn false) fun t ht =>
      Yields.pure ((hstar.append haccess).append ht)
  refine Yields.after fun isConst => Yields.after fun isMut => ?_
  refine Yields.ite (Yields.bind yields_anyWord hrest) ?_
  exact Yields.iteBind yields_anyWord (yields_expected _) hrest

omit hb in
theorem yields_referenceType : Yields Dotless (referenceType n) := by
  refine Yields.bind (yields_operator rfl) fun mark hmark => ?_
  refine Yields.bind yields_lifetime? fun lifetime hlifetime => ?_
  refine Yields.bind (yields_keyword? "mut") fun access haccess => ?_
  exact Yields.bind (hn false) fun t ht =>
    Yields.pure (((hmark.append hlifetime).append haccess).append ht)

/-- Reads of types are dotless where the types and blocks that nest in them are. -/
theorem yields_type (plus : Bool) : Yields (fun t => Dotless t.tokens) (type n plus) := by
  have hbounds : ∀ head : List Token, Dotless head → ∀ (plus : Bool) (fault : String),
      Yields (fun t => Dotless t.tokens) (do
        return plainType (head ++ (← objectBounds n plus fault))) :=
    fun head hhead plus fault => Yields.bind (yields_objectBounds hn hb plus fault)
      fun found hfound => Yields.pure (hhead.append hfound)
  refine Yields.after fun _ => Yields.ite ?_ ?_
  · refine Yields.bind yields_boundLifetimes? fun lifetimes hlifetimes => ?_
    refine Yields.after fun _ => Yields.ite ?_ (Yields.after fun _ => Yields.ite ?_ ?_)
    · exact Yields.bind (yields_functionType hn) fun found hfound =>
        Yields.pure (hlifetimes.append hfound)
    · exact yields_pathType hn hb lifetimes hlifetimes plus
    · exact yields_expected _
  refine Yields.after fun _ => Yields.ite (yields_parenType hn hb plus) ?_
  refine Yields.after fun _ => Yields.ite ?_ ?_
  · exact Yields.bind (yields_functionType hn) fun found hfound => Yields.pure hfound
  refine Yields.after fun _ => Yields.ite (yields_pathType hn hb [] dotless_nil plus) ?_
  refine Yields.after fun _ => Yields.ite ?_ ?_
  · refine Yields.bind (yields_keyword "dyn") fun head hhead => ?_
    refine Yields.bind (yields_operator? rfl) fun star hstar => ?_
    exact hbounds _ (hhead.append hstar) plus _
  refine Yields.after fun _ => Yields.ite ?_ ?_
  · exact Yields.bind (Yields.map (fun _ _ _ _ => trivial : Yields (fun _ => True) _)
      fun _ _ => dotless_group .bracket _) fun found hfound => Yields.pure hfound
  refine Yields.after fun _ => Yields.ite ?_ ?_
  · exact Yields.bind (yields_pointerType hn) fun found hfound => Yields.pure hfound
  refine Yields.after fun _ => Yields.ite ?_ ?_
  · exact Yields.bind (yields_referenceType hn) fun found hfound => Yields.pure hfound
  refine Yields.after fun _ => Yields.ite ?_ ?_
  · exact Yields.bind (yields_operator rfl) fun found hfound => Yields.pure hfound
  refine Yields.after fun _ => Yields.ite ?_ ?_
  · exact Yields.bind (yields_keyword "impl") fun head hhead => hbounds _ hhead plus _
  refine Yields.after fun _ => Yields.ite ?_ ?_
  · exact Yields.bind yields_anyWord fun found hfound => Yields.pure hfound
  refine Yields.after fun _ => Yields.ite ?_ (yields_expected _)
  exact Yields.bind (yields_objectBounds hn hb true _) fun found hfound => Yields.pure hfound

end Nested

theorem yields_block (n : Nested) : Yields Dotless (block n) :=
  Yields.map (fun _ _ _ _ => trivial : Yields (fun _ => True) _)
    fun body _ => dotless_group .brace body

/-- The phrases of the whole grammar, by induction on how deep they nest. -/
theorem yields_nested (depth : Nat) :
    (∀ plus, Yields (fun t => Dotless t.tokens) ((nested depth).type plus)) ∧
      Yields Dotless (nested depth).block := by
  induction depth with
  | zero => exact ⟨fun _ => Yields.throw _, Yields.throw _⟩
  | succ depth ih => exact ⟨yields_type ih.1 ih.2, yields_block (nested depth)⟩

theorem yields_wholePath : Yields Dotless wholePath := by
  refine Yields.after fun tokens => ?_
  obtain ⟨hn, hb⟩ := yields_nested (Token.weightAll tokens + 1)
  exact Yields.map (yields_path hn hb false) fun _ hp => hp

/-- The tokens that the text of a path is read as hold no dot. -/
theorem dotless_of_ofText {text : String} {tokens : List Token}
    (h : ofText wholePath text = .ok tokens) : Dotless tokens := by
  unfold ofText at h
  split at h
  · next read _ =>
      unfold whole at h
      cases hrun : wholePath.run read with
      | error fault =>
          rw [hrun] at h
          cases h
      | ok found =>
          obtain ⟨path, left⟩ := found
          rw [hrun] at h
          have hpath : Dotless path := yields_wholePath read path left hrun
          change (if left.isEmpty then Except.ok path else .error (SyntaxFault.leftover none)) =
            .ok tokens at h
          split at h
          · exact Except.ok.inj h ▸ hpath
          · cases h
  · cases h

end Phrase

end Rowsmith.Source
