import Rowsmith.Proofs.Source.Spacing
import Rowsmith.Source.Phrase.Statement

/-!
# Types and the spacing of marks

Each phrase of a type is followed once; the phrases that nest in it are assumed to carry over, and
the whole grammar is reached by induction on its depth. What a type holds of other phrases, the
length of an array and the braces of a constant, has to be the same in both lists of tokens.
-/

namespace Rowsmith.Source

namespace Phrase

section Nested

variable {n : Nested} (hn : ∀ plus, Carries (n.type plus)) (hb : Carries n.block)

theorem carries_boundLifetimes? : Carries boundLifetimes? :=
  Carries.bind (carries_peekWord "for") fun _ => Carries.ite
    (Carries.bind (carries_keyword "for") fun _ =>
      Carries.bind (carries_operator (by decide)) fun _ =>
        Carries.bind (carries_commaList (Agrees.startsMark '>') carries_lifetime) fun _ =>
          Carries.bind (carries_operator (by decide)) fun _ => Carries.pure _)
    (Carries.pure _)

include hb in
theorem carries_constantArgument : Carries (constantArgument n) :=
  Carries.peekIte Agrees.startsLiteral
    (Carries.bind carries_literal fun _ => Carries.pure _)
    (Carries.bind (carries_peekGroup .brace) fun _ => Carries.ite hb (Carries.throw _))

theorem agrees_arguments (inExpression : Bool) : Agrees fun tokens =>
    (!inExpression && Token.startsOperator ['<'] tokens
        && !Token.startsOperator ['<', '='] tokens && !Token.startsOperator ['<', '<', '='] tokens)
      || (Token.startsOperator [':', ':'] tokens && Token.startsOperator ['<'] (tokens.drop 2)) :=
  ((((Agrees.const _).and (Agrees.startsMark '<')).and
    (Agrees.startsOperator (by decide)).not).and (Agrees.startsOperator (by decide)).not).or
      ((Agrees.startsOperator (by decide)).and ((Agrees.startsMark '<').behind 2))

include hn

theorem carries_result? : Carries (result? n) :=
  Carries.bind (carries_peekOperator (by decide)) fun _ => Carries.ite
    (Carries.bind (carries_operator (by decide)) fun _ =>
      Carries.bind (hn false) fun _ => Carries.pure _)
    (Carries.pure _)

theorem carries_traitArguments : Carries (traitArguments n) :=
  Carries.bind (carries_operator? (by decide)) fun _ =>
    Carries.bind (carries_inside fun _ => carries_commaList Agrees.isEmpty (Carries.map (hn true)))
      fun _ => Carries.bind (carries_result? hn) fun _ => Carries.pure _

omit hn in
theorem carries_segment {arguments : Phrase (List Token)} (ha : Carries arguments)
    (inExpression : Bool) : Carries (segment arguments inExpression) := by
  have harguments : ∀ head : List Token, Carries (do
      if ← peekArguments inExpression then
        return { tokens := head ++ (← arguments), single := true, rooted := false, plain := false,
                 closed := true : PathPhrase }
      else
        return { tokens := head, single := true, rooted := false, plain := true,
                 closed := false }) := fun head =>
    Carries.peekIte (agrees_arguments inExpression)
      (Carries.bind ha fun _ => Carries.pure _) (Carries.pure _)
  refine Carries.peekIte (Agrees.any _ _ fun w => Agrees.startsWord w)
    (Carries.bind carries_anyWord fun _ => Carries.pure _) ?_
  exact Carries.bind (carries_peekWord "Self") fun _ =>
    Carries.iteBind carries_anyWord (Carries.map carries_identifier) harguments

omit hn in
theorem carries_segmentsAfter {arguments : Phrase (List Token)} (ha : Carries arguments)
    (inExpression : Bool) (fuel : Nat) (path : PathPhrase) :
    Carries (segmentsAfter arguments inExpression path fuel) := by
  induction fuel generalizing path with
  | zero => exact Carries.pure _
  | succ fuel ih =>
      refine Carries.peekIte ((Agrees.startsOperator (by decide)).and
        ((Agrees.startsGroup .parenthesis).behind 2).not) ?_ (Carries.pure _)
      refine Carries.bind (carries_operator (by decide)) fun _ => ?_
      exact Carries.bind (carries_segment ha inExpression) fun _ => ih _

omit hn in
theorem carries_pathOf {arguments : Phrase (List Token)} (ha : Carries arguments)
    (inExpression : Bool) : Carries (pathOf arguments inExpression) := by
  refine Carries.bind (carries_operator? (by decide)) fun root => ?_
  refine Carries.bind (carries_segment ha inExpression) fun first => ?_
  exact Carries.sized (fun ts us h => by rw [h]) fun _ =>
    carries_segmentsAfter ha inExpression _ _

section Bounds

variable {arguments : Phrase (List Token)} (ha : Carries arguments)

include ha

theorem carries_traitBound : Carries (traitBound n arguments) := by
  refine Carries.bind carries_boundLifetimes? fun lifetimes => ?_
  refine Carries.bind (carries_operator? (by decide)) fun maybe => ?_
  refine Carries.iteBind carries_boundLifetimes? (Carries.pure _) fun inner => ?_
  refine Carries.bind (carries_pathOf ha false) fun path => ?_
  refine Carries.bind (Carries.peek ((Agrees.startsGroup .parenthesis).or
    ((Agrees.startsOperator (by decide)).and ((Agrees.startsGroup .parenthesis).behind 2))))
    fun _ => ?_
  refine Carries.iteBind (carries_traitArguments hn) (Carries.pure _) fun tail => ?_
  exact Carries.ite (Carries.bind (Carries.throw _) fun _ => Carries.pure _) (Carries.pure _)

theorem carries_bound : Carries (bound n arguments) := by
  refine Carries.peekIte Agrees.startsLifetime
    (Carries.bind carries_lifetime fun _ => Carries.pure _) ?_
  refine Carries.bind (carries_peekWord "use") fun _ => Carries.ite (Carries.throw _) ?_
  refine Carries.bind (carries_peekGroup .parenthesis) fun _ => Carries.ite ?_ ?_
  · exact Carries.bind (carries_inside fun _ => carries_traitBound hn ha) fun _ => Carries.pure _
  · exact Carries.bind (carries_traitBound hn ha) fun _ => Carries.pure _

omit ha hn in
theorem agrees_startsBound : Agrees startsBound :=
  (((Agrees.startsAnyWord.or (Agrees.startsOperator (by decide))).or (Agrees.startsMark '?')).or
    Agrees.startsLifetime).or (Agrees.startsGroup .parenthesis)

theorem carries_boundsFrom (plus : Bool) (fuel : Nat) :
    Carries (boundsFrom n arguments plus fuel) := by
  induction fuel with
  | zero => exact Carries.pure _
  | succ fuel ih =>
      refine Carries.bind (carries_bound hn ha) fun found => ?_
      refine Carries.bind (carries_peekOperator (by decide)) fun _ =>
        Carries.ite ?_ (Carries.pure _)
      refine Carries.bind (carries_operator (by decide)) fun mark => ?_
      exact Carries.peekIte agrees_startsBound
        (Carries.bind ih fun _ => Carries.pure _) (Carries.pure _)

theorem carries_bounds (plus : Bool) : Carries (bounds n arguments plus) :=
  Carries.sized (fun ts us h => by rw [h]) fun _ => carries_boundsFrom hn ha plus _

theorem carries_boundsUntil {stop : List Token → Bool} (hstop : Agrees stop) (fuel : Nat) :
    Carries (boundsUntil n arguments stop fuel) := by
  induction fuel with
  | zero => exact Carries.pure _
  | succ fuel ih =>
      refine Carries.peekIte hstop (Carries.pure _) ?_
      refine Carries.bind (carries_bound hn ha) fun found => ?_
      refine Carries.bind (carries_peekOperator (by decide)) fun _ =>
        Carries.ite ?_ (Carries.pure _)
      exact Carries.bind (carries_operator (by decide)) fun mark =>
        Carries.bind ih fun _ => Carries.pure _

include hb

theorem carries_genericArgument : Carries (genericArgument n arguments) := by
  refine Carries.peekIte (Agrees.startsLifetime.and ((Agrees.startsMark '+').behind 2).not)
    (Carries.bind carries_lifetime fun _ => Carries.pure _) ?_
  refine Carries.bind (Carries.peek Agrees.startsLiteral) fun _ =>
    Carries.bind (carries_peekGroup .brace) fun _ => Carries.ite ?_ ?_
  · exact Carries.bind (carries_constantArgument hb) fun _ => Carries.pure _
  refine Carries.bind (hn true) fun type => ?_
  refine Carries.bind (carries_peekOperator (by decide)) fun _ => Carries.ite ?_ ?_
  · refine Carries.bind (carries_operator (by decide)) fun equals => ?_
    refine Carries.bind (Carries.peek Agrees.startsLiteral) fun _ =>
      Carries.bind (carries_peekGroup .brace) fun _ => ?_
    exact Carries.iteBind (carries_constantArgument hb) (Carries.map (hn true)) fun _ =>
      Carries.pure _
  refine Carries.bind (carries_peekOperator (by decide)) fun _ =>
    Carries.ite ?_ (Carries.pure _)
  refine Carries.bind (carries_operator (by decide)) fun colon => ?_
  exact Carries.sized (fun ts us h => by rw [h]) fun _ =>
    Carries.bind (carries_boundsUntil hn ha
      ((Agrees.startsMark ',').or (Agrees.startsMark '>')) _) fun _ => Carries.pure _

end Bounds

include hb

theorem carries_genericArgumentsWithin (depth : Nat) :
    Carries (genericArgumentsWithin n depth) := by
  induction depth with
  | zero => exact Carries.throw _
  | succ depth ih =>
      refine Carries.bind (carries_operator? (by decide)) fun colons => ?_
      refine Carries.bind (carries_operator (by decide)) fun left => ?_
      refine Carries.bind (carries_commaList (Agrees.startsMark '>')
        (carries_genericArgument hn hb ih)) fun items => ?_
      exact Carries.bind (carries_operator (by decide)) fun right => Carries.pure _

theorem carries_genericArguments : Carries (genericArguments n) :=
  Carries.sized (fun ts us h => by rw [h]) fun _ => carries_genericArgumentsWithin hn hb _

theorem carries_path (inExpression : Bool) : Carries (path n inExpression) :=
  carries_pathOf (carries_genericArguments hn hb) inExpression

theorem carries_qualifiedPath (inExpression : Bool) : Carries (qualifiedPath n inExpression) := by
  refine Carries.bind (carries_peekOperator (by decide)) fun _ => Carries.ite ?_ ?_
  · refine Carries.bind (carries_operator (by decide)) fun left => ?_
    refine Carries.bind (hn true) fun qualifier => ?_
    have hrest : ∀ target : List Token, Carries (do
          let right ← operator ">"
          let colons ← operator "::"
          let first ← segment (genericArguments n) inExpression
          let head := left ++ qualifier.tokens ++ target ++ right ++ colons ++ first.tokens
          let whole ← segmentsAfter (genericArguments n) inExpression { first with tokens := head }
            (← rest).length
          return (whole, true)) := by
      intro target
      refine Carries.bind (carries_operator (by decide)) fun right => ?_
      refine Carries.bind (carries_operator (by decide)) fun colons => ?_
      refine Carries.bind (carries_segment (carries_genericArguments hn hb) inExpression)
        fun first => ?_
      exact Carries.sized (fun ts us h => by rw [h]) fun _ =>
        Carries.bind (carries_segmentsAfter (carries_genericArguments hn hb) inExpression _ _)
          fun _ => Carries.pure _
    refine Carries.bind (carries_peekWord "as") fun _ => Carries.ite ?_ (hrest [])
    exact Carries.bind (carries_keyword "as") fun head =>
      Carries.bind (carries_path hn hb false) fun p => hrest _
  · exact Carries.bind (carries_path hn hb inExpression) fun _ => Carries.pure _

theorem carries_objectBounds (plus : Bool) (fault : String) :
    Carries (objectBounds n plus fault) :=
  Carries.bind (carries_bounds hn (carries_genericArguments hn hb) plus) fun _ =>
    Carries.ite (Carries.pure _) (Carries.throw _)

theorem carries_boundsBehindPlus (fuel : Nat) : Carries (boundsBehindPlus n fuel) := by
  induction fuel with
  | zero => exact Carries.pure _
  | succ fuel ih =>
      refine Carries.bind (carries_peekOperator (by decide)) fun _ =>
        Carries.ite ?_ (Carries.pure _)
      refine Carries.bind (carries_operator (by decide)) fun mark => ?_
      refine Carries.bind (carries_bound hn (carries_genericArguments hn hb)) fun next => ?_
      exact Carries.bind ih fun _ => Carries.pure _

theorem carries_laterBounds : Carries (laterBounds n) := by
  refine Carries.bind (carries_peekOperator (by decide)) fun _ =>
    Carries.ite ?_ (Carries.pure _)
  refine Carries.bind (carries_operator (by decide)) fun mark => ?_
  exact Carries.peekIte agrees_startsBound
    (Carries.bind (carries_bounds hn (carries_genericArguments hn hb) true) fun _ =>
      Carries.pure _) (Carries.pure _)

theorem carries_parenthesizedType : Carries (parenthesizedType n) := by
  refine Carries.bind carries_atEnd fun _ => Carries.ite (Carries.pure _) ?_
  refine Carries.peekIte Agrees.startsLifetime
    (Carries.bind (carries_objectBounds hn hb _ _) fun _ => Carries.pure _) ?_
  refine Carries.bind (carries_peekOperator (by decide)) fun _ => Carries.ite
    (Carries.bind (carries_traitBound hn (carries_genericArguments hn hb)) fun _ =>
      Carries.pure _) ?_
  refine Carries.bind (hn true) fun first => ?_
  refine Carries.bind (carries_peekOperator (by decide)) fun _ =>
    Carries.ite ?_ (Carries.pure _)
  refine Carries.bind (carries_operator (by decide)) fun comma => ?_
  exact Carries.bind (carries_commaList Agrees.isEmpty (Carries.map (hn true))) fun _ =>
    Carries.pure _

theorem carries_parenType (plus : Bool) : Carries (parenType n plus) := by
  have hmore : ∀ (body : List Token) (form : TypeForm), Carries (do
      return { tokens := parens body ++ (← boundsBehindPlus n (← rest).length), form
               : TypePhrase }) := fun body form =>
    Carries.sized (fun ts us h => by rw [h]) fun _ =>
      Carries.bind (carries_boundsBehindPlus hn hb _) fun _ => Carries.pure _
  refine Carries.bind (Carries.peek ?_) fun maybe => ?_
  · intro ts us h
    cases h with
    | group d _ hbody h => cases d <;> first | exact Agrees.startsMark '?' hbody | rfl
    | _ => rfl
  refine Carries.bind (carries_inside fun _ => carries_parenthesizedType hn hb) fun found => ?_
  refine Carries.ite (hmore _ _) ?_
  exact Carries.bind (carries_peekOperator (by decide)) fun _ =>
    Carries.ite (hmore _ _) (Carries.pure _)

omit hn hb in
/-- What stands in the brackets of an attribute is the same in alike tokens. -/
theorem carries_attributesFrom (fuel : Nat) : Carries (attributesFrom n fuel) := by
  induction fuel with
  | zero => exact Carries.pure _
  | succ fuel ih =>
      refine Carries.bind (carries_peekOperator (by decide)) fun _ =>
        Carries.ite ?_ (Carries.pure _)
      exact carries_behindMark rfl (by decide) fun _ => carriesAtGroup_inside fun _ =>
        Carries.bind ih fun _ => Carries.pure _

omit hn hb in
theorem carries_attributeTokens : Carries (attributeTokens n) :=
  Carries.bind (Carries.sized (fun ts us h => by rw [h]) fun _ => carries_attributesFrom _)
    fun _ => Carries.pure _

omit hb in
theorem carries_functionTypeArgument : Carries (functionTypeArgument n) := by
  have hnamed : Agrees fun tokens => (Token.startsIdentifier tokens ||
      Token.startsWord "_" tokens || Token.startsWord "self" tokens)
        && Token.startsOperator [':'] (tokens.drop 1)
        && !Token.startsOperator [':', ':'] (tokens.drop 1) :=
    (((Agrees.startsIdentifier.or (Agrees.startsWord "_")).or (Agrees.startsWord "self")).and
      ((Agrees.startsMark ':').behind 1)).and
        ((Agrees.startsOperator (by decide)).behind 1).not
  refine Carries.bind carries_attributeTokens fun attributes => ?_
  refine Carries.bind (Carries.peek hnamed) fun named => ?_
  have hrest : ∀ name : List Token, Carries (do
      if ← peekOperator "..." then return attributes ++ name ++ (← operator "...")
      else return attributes ++ name ++ (← n.type true).tokens) := fun name =>
    Carries.bind (carries_peekOperator (by decide)) fun _ => Carries.ite
      (Carries.bind (carries_operator (by decide)) fun _ => Carries.pure _)
      (Carries.bind (hn true) fun _ => Carries.pure _)
  refine Carries.ite ?_ (hrest [])
  exact Carries.bind carries_anyWord fun _ =>
    Carries.bind (carries_operator (by decide)) fun _ => hrest _

omit hn hb in
/-- A literal that may come next. -/
theorem carries_literal? {α : Type} {k : List Token → Phrase α} (hk : ∀ name, Carries (k name)) :
    Carries (do
      match ← rest with
      | .literal l :: tokens => set tokens; k [.literal l]
      | _ => k []) := by
  intro ts us x rest h hx
  rw [rest_bind] at hx ⊢
  cases h with
  | literal l h => exact hk [.literal l] h hx
  | refl => exact ⟨rest, hx, .refl _⟩
  | word w h => exact hk [] (.word w h) hx
  | mark c first second hoperator hlifetime hlength hgroup h =>
      exact hk [] (.mark c first second hoperator hlifetime hlength hgroup h) hx
  | group d hbrace hbody h => exact hk [] (.group d hbrace hbody h) hx

omit hb in
theorem carries_functionType : Carries (functionType n) := by
  refine Carries.bind (carries_keyword? "unsafe") fun safety => ?_
  refine Carries.bind (carries_peekWord "extern") fun _ => ?_
  have hrest : ∀ linkage : List Token, Carries (do
      let head ← keyword "fn"
      let arguments ← inside .parenthesis (commaList List.isEmpty (functionTypeArgument n))
      return safety ++ linkage ++ head ++ parens (listTokens arguments) ++ (← result? n)) := by
    intro linkage
    refine Carries.bind (carries_keyword "fn") fun head => ?_
    refine Carries.bind (carries_inside fun _ => carries_commaList Agrees.isEmpty
      (carries_functionTypeArgument hn)) fun arguments => ?_
    exact Carries.bind (carries_result? hn) fun _ => Carries.pure _
  refine Carries.ite ?_ (hrest [])
  exact Carries.bind carries_anyWord fun word => carries_literal? fun name => hrest (word ++ name)

omit hn hb in
/-- The length of an array is the same in alike tokens. -/
theorem carries_behindItem {α : Type} (k : List Token → Phrase α) (item : α) :
    Carries (do
      if ← peekOperator ";" then
        let mark ← operator ";"
        k mark
      else return item) := by
  intro ts us x rest h hx
  cases h with
  | refl => exact ⟨rest, hx, .refl _⟩
  | @mark c first second ts us hoperator hlifetime hlength hgroup h =>
      by_cases hc : c = ';'
      · subst hc
        obtain rfl := hlength rfl
        exact ⟨rest, hx, .refl _⟩
      · have hread : ∀ (s : Spacing) (tokens : List Token), (do
            if ← peekOperator ";" then
              let mark ← operator ";"
              k mark
            else return item : Phrase α) (.mark c s :: tokens) =
          .ok (item, .mark c s :: tokens) := by
          intro s tokens
          show (if Token.startsOperator [';'] (.mark c s :: tokens) = true then _ else _ :
            Phrase α) _ = _
          rw [if_neg (by simpa [Token.startsOperator] using Ne.symm hc)]
          rfl
        rw [hread] at hx
        cases hx
        exact ⟨_, hread second us, .mark c first second hoperator hlifetime hlength hgroup h⟩
  | literal l h =>
      cases hx
      exact ⟨_, rfl, .literal l h⟩
  | word w h =>
      cases hx
      exact ⟨_, rfl, .word w h⟩
  | group d hbrace hbody h =>
      cases hx
      exact ⟨_, rfl, .group d hbrace hbody h⟩

theorem carries_pathType (lifetimes : List Token) (plus : Bool) :
    Carries (pathType n lifetimes plus) := by
  refine Carries.bind (carries_qualifiedPath hn hb false) fun found => ?_
  refine Carries.bind (Carries.peek ((Agrees.startsMark '!').and
    (Agrees.startsOperator (by decide)).not)) fun isMacro => ?_
  refine Carries.ite (Carries.pure _) (Carries.ite
    (carries_behindMark rfl (by decide) fun _ =>
      carriesAtGroup_anyGroup fun _ => Carries.pure _) ?_)
  refine Carries.bind (Carries.peek ((Agrees.startsMark '+').and
    (Agrees.startsOperator (by decide)).not)) fun isPlus => ?_
  refine Carries.ite ?_ (Carries.ite (Carries.pure _) (Carries.pure _))
  exact Carries.bind (carries_laterBounds hn hb) fun _ => Carries.pure _

omit hb in
theorem carries_bracketType : Carries (bracketType n) :=
  Carries.map (carries_inside fun _ => Carries.bind (hn true) fun _ => carries_behindItem _ _)

omit hb in
theorem carries_pointerType : Carries (pointerType n) := by
  refine Carries.bind (carries_operator (by decide)) fun star => ?_
  have hrest : ∀ access : List Token, Carries (do
      return star ++ access ++ (← n.type false).tokens) :=
    fun access => Carries.bind (hn false) fun _ => Carries.pure _
  refine Carries.bind (carries_peekWord "const") fun _ =>
    Carries.bind (carries_peekWord "mut") fun _ => ?_
  refine Carries.ite (Carries.bind carries_anyWord hrest) ?_
  exact Carries.iteBind carries_anyWord (carries_expected _) hrest

omit hb in
theorem carries_referenceType : Carries (referenceType n) :=
  Carries.bind (carries_operator (by decide)) fun _ => Carries.bind carries_lifetime? fun _ =>
    Carries.bind (carries_keyword? "mut") fun _ =>
      Carries.bind (hn false) fun _ => Carries.pure _

omit hn hb in
theorem agrees_startsTypePath : Agrees startsTypePath :=
  Agrees.startsIdentifier.or (Agrees.any _ _ fun w => Agrees.startsWord w)

/-- Reads of types carry over where those of the types and blocks that nest in them do. -/
theorem carries_type (plus : Bool) : Carries (type n plus) := by
  have hfunction : Carries peekFunctionType :=
    Carries.peek (Agrees.any _ _ fun w => Agrees.startsWord w)
  have hplain : ∀ {p : Phrase (List Token)}, Carries p → Carries (do return plainType (← p)) :=
    fun hp => Carries.bind hp fun _ => Carries.pure _
  refine Carries.bind (carries_peekWord "for") fun _ => Carries.ite ?_ ?_
  · refine Carries.bind carries_boundLifetimes? fun lifetimes => ?_
    refine Carries.bind hfunction fun _ => Carries.ite ?_ (Carries.peekIte agrees_startsTypePath
      (carries_pathType hn hb lifetimes plus) (carries_expected _))
    exact Carries.bind (carries_functionType hn) fun _ => Carries.pure _
  refine Carries.bind (carries_peekGroup _) fun _ => Carries.ite (carries_parenType hn hb plus) ?_
  refine Carries.bind hfunction fun _ => Carries.ite (hplain (carries_functionType hn)) ?_
  refine Carries.peekIte ((agrees_startsTypePath.or (Agrees.startsOperator (by decide))).or
    (Agrees.startsMark '<')) (carries_pathType hn hb [] plus) ?_
  refine Carries.bind (carries_peekWord "dyn") fun _ => Carries.ite ?_ ?_
  · refine Carries.bind (carries_keyword "dyn") fun head => ?_
    refine Carries.bind (carries_operator? (by decide)) fun star => ?_
    exact Carries.bind (carries_objectBounds hn hb plus _) fun _ => Carries.pure _
  refine Carries.bind (carries_peekGroup _) fun _ =>
    Carries.ite (hplain (carries_bracketType hn)) ?_
  refine Carries.bind (carries_peekOperator (by decide)) fun _ =>
    Carries.ite (hplain (carries_pointerType hn)) ?_
  refine Carries.bind (carries_peekOperator (by decide)) fun _ =>
    Carries.ite (hplain (carries_referenceType hn)) ?_
  refine Carries.peekIte ((Agrees.startsMark '!').and ((Agrees.startsMark '=').behind 1).not)
    (hplain (carries_operator (by decide))) ?_
  refine Carries.bind (carries_peekWord "impl") fun _ => Carries.ite ?_ ?_
  · refine Carries.bind (carries_keyword "impl") fun head => ?_
    exact Carries.bind (carries_objectBounds hn hb plus _) fun _ => Carries.pure _
  refine Carries.bind (carries_peekWord "_") fun _ => Carries.ite (hplain carries_anyWord) ?_
  exact Carries.peekIte Agrees.startsLifetime (hplain (carries_objectBounds hn hb true _))
    (carries_expected _)

end Nested

theorem carries_block (n : Nested) : Carries (block n) :=
  Carries.map (carries_inside fun h => absurd rfl h)

/-- The phrases of the whole grammar, by induction on how deep they nest. -/
theorem carries_nested (depth : Nat) :
    (∀ plus, Carries ((nested depth).type plus)) ∧ Carries (nested depth).block := by
  induction depth with
  | zero => exact ⟨fun _ => Carries.throw _, Carries.throw _⟩
  | succ depth ih => exact ⟨carries_type ih.1 ih.2, carries_block (nested depth)⟩

theorem carries_wholeType : Carries wholeType := by
  intro ts us x rest h hx
  obtain ⟨hn, -⟩ := carries_nested (Token.weightAll ts + 1)
  change (TypePhrase.tokens <$> (nested (Token.weightAll ts + 1)).type true) ts =
    .ok (x, rest) at hx
  show ∃ left, (TypePhrase.tokens <$> (nested (Token.weightAll us + 1)).type true) us =
    .ok (x, left) ∧ Alike rest left
  rw [← h.weightAll_eq]
  exact Carries.map (hn true) h hx

end Phrase

theorem whole_eq_ok_iff {α : Type} {p : Phrase α} {ts : List Token} {x : α} :
    Phrase.whole p ts = .ok x ↔ p ts = .ok (x, []) := by
  show (p ts >>= fun found => if found.2.isEmpty then Pure.pure found.1 else _) = .ok x ↔ _
  rcases p ts with fault | ⟨y, _ | ⟨t, left⟩⟩
  · exact iff_of_false (by rintro ⟨⟩) (by rintro ⟨⟩)
  · constructor
    · rintro ⟨⟩
      rfl
    · rintro ⟨⟩
      rfl
  · exact iff_of_false (by rintro ⟨⟩) (by rintro ⟨⟩)

theorem Carries.whole {α : Type} {p : Phrase α} (hp : Carries p) {ts us : List Token} {x : α}
    (h : Alike ts us) (hx : Phrase.whole p ts = .ok x) : Phrase.whole p us = .ok x := by
  obtain ⟨left, hleft, hnil⟩ := hp h (whole_eq_ok_iff.mp hx)
  obtain rfl := hnil.of_nil
  exact whole_eq_ok_iff.mpr hleft

/-- Alike tokens are read as the same type. -/
theorem Alike.whole_type {ts us type : List Token} (h : Alike ts us) :
    Phrase.whole Phrase.wholeType ts = .ok type ↔ Phrase.whole Phrase.wholeType us = .ok type :=
  ⟨Phrase.carries_wholeType.whole h, Phrase.carries_wholeType.whole h.symm⟩

end Rowsmith.Source
