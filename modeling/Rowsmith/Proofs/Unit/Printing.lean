import Rowsmith.Proofs.Accessor.Calls
import Rowsmith.Proofs.Unit.Gaps
import Rowsmith.Unit.Basic

/-!
# Printed units

The text of a unit is a text with a gap for each method: the argument of the call that
gives the command its text. In the gaps stand the literals of placeholders.
-/

namespace Rowsmith.Source.Token
open Rowsmith.Source

/-- Whether a space stands behind tokens. -/
def EndsApart (tokens : List Token) : Prop := tokens.getLast?.any (!·.isJoint) = true

theorem EndsApart.append {b : List Token} (h : EndsApart b) (a : List Token) :
    EndsApart (a ++ b) := by
  unfold EndsApart at h ⊢
  cases hb : b.getLast? with
  | none => simp [hb] at h
  | some t => rwa [List.getLast?_append, hb, Option.some_or, ← hb]

/-- Lists of tokens print one behind the other. -/
theorem textAll_append {a b : List Token} (ha : EndsApart a) (hb : b ≠ []) :
    textAll (a ++ b) = textAll a ++ " " ++ textAll b := by
  obtain ⟨u, b, rfl⟩ := List.exists_cons_of_ne_nil hb
  induction a with
  | nil => cases ha
  | cons t a ih =>
      cases a with
      | nil =>
          have ht : t.isJoint = false := by simpa [EndsApart] using ha
          rw [List.singleton_append, textAll, textAll, ht]
          rfl
      | cons v a =>
          have htail : EndsApart (v :: a) := by
            unfold EndsApart at ha ⊢
            rwa [List.getLast?_cons_cons] at ha
          have hrest := ih htail
          rw [List.cons_append] at hrest
          rw [List.cons_append, List.cons_append, textAll, textAll, hrest]
          simp only [String.append_assoc]

theorem textAll_parens (body : List Token) :
    textAll (parens body) = "(" ++ textAll body ++ ")" := by
  rw [parens, textAll, text]

theorem endsApart_braces (body : List Token) : EndsApart (braces body) := rfl

theorem textAll_braces {body : List Token} (h : body ≠ []) :
    textAll (braces body) = "\x7b " ++ textAll body ++ " \x7d" := by
  rw [braces, textAll, text, if_neg (by simpa using h)]

end Rowsmith.Source.Token

namespace Rowsmith.Accessor
open Schema Source Sql Text Token

/-- What a method begins with, up to the text of its command. -/
def openingTokens (runtime : List Token) (tableName methodName : String) : List Token :=
  (prologue runtime tableName methodName "").dropLast.dropLast

theorem exists_prologue_eq (runtime : List Token) (tableName methodName : String) :
    ∃ start, ∀ text, prologue runtime tableName methodName text =
      start ++ code "; command . set_command_text" ++ parens (textLiteral text) ++ code ";" :=
  ⟨_, fun _ => rfl⟩

/-- The text of the command is the argument behind the opening, which ends with the name of
the method that takes it. -/
theorem prologue_eq (runtime : List Token) (tableName methodName text : String) :
    EndsApart (openingTokens runtime tableName methodName) ∧
      prologue runtime tableName methodName text =
        openingTokens runtime tableName methodName ++ (parens (textLiteral text) ++ code ";") := by
  obtain ⟨start, hprologue⟩ := exists_prologue_eq runtime tableName methodName
  have hopening : openingTokens runtime tableName methodName =
      start ++ code "; command . set_command_text" := by
    have hend : code ";" = [.mark ';' .alone] := rfl
    rw [openingTokens, hprologue, hend, List.dropLast_concat, parens, List.dropLast_concat]
  have hname : EndsApart (code "; command . set_command_text") := rfl
  rw [hopening, hprologue, List.append_assoc]
  exact ⟨hname.append start, rfl⟩

/-- The body of an accessor stands behind what declares it. -/
theorem exists_accessorTokens_eq (runtime : List Token) (documentationText name : String)
    (arguments value : List Token) : ∃ head, EndsApart head ∧ ∀ body,
      accessorTokens runtime documentationText name arguments value body = head ++ braces body := by
  have herror : EndsApart (code ":: DbError >") := rfl
  exact ⟨_, (herror.append _).append _, fun _ => rfl⟩

namespace Method

variable (m : Method) (c : Context)

/-- What a method goes on with behind the text of its command. -/
def closingTokens : List Token :=
  code ";" ++ ((m.body.bound.flatMap fun p => p.2.tokens c.runtime p.1) ++ m.body.ending c)

/-- The text of a method up to the argument that is the text of its command. -/
def textBefore : String :=
  textAll (m.tokens c).dropLast ++ " \x7b "
    ++ textAll (openingTokens c.runtime c.table.name m.operation.methodName) ++ " "

/-- The text of a method behind that argument. -/
def textBehind : String := " " ++ textAll (m.closingTokens c) ++ " \x7d"

theorem exists_head : ∃ head, EndsApart head ∧
    m.tokens c = head ++ braces (bodyOf (m.tokens c)) := by
  have haccessor : ∀ (arguments value body : List Token),
      m.tokens c = accessorTokens c.runtime m.documentation m.operation.methodName arguments
        value body → ∃ head, EndsApart head ∧ m.tokens c = head ++ braces (bodyOf (m.tokens c)) := by
    intro arguments value body htokens
    obtain ⟨head, hhead, hall⟩ := exists_accessorTokens_eq c.runtime m.documentation
      m.operation.methodName arguments value
    refine ⟨head, hhead, ?_⟩
    rw [htokens, bodyOf_accessorTokens, hall]
  obtain ⟨operation, documentation, body, statement, placeholder⟩ := m
  cases body with
  | create => exact haccessor _ _ _ rfl
  | write bindings => exact haccessor _ _ _ rfl
  | delete keyType b => exact haccessor _ _ _ rfl
  | find keyType b readings skipped => exact haccessor _ _ _ rfl

/-- The body of a method around the text of its command. -/
theorem bodyOf_eq : bodyOf (m.tokens c) =
    openingTokens c.runtime c.table.name m.operation.methodName ++
      (parens (textLiteral m.placeholder) ++ m.closingTokens c) := by
  have hprologue := (prologue_eq c.runtime c.table.name m.operation.methodName m.placeholder).2
  rw [bodyOf_tokens, hprologue, closingTokens]
  simp only [List.append_assoc]

theorem textAll_tokens : textAll (m.tokens c) =
    m.textBefore c ++ "(" ++ stringLiteral m.placeholder ++ ")" ++ m.textBehind c := by
  obtain ⟨head, hhead, htokens⟩ := m.exists_head c
  have hopening := (prologue_eq c.runtime c.table.name m.operation.methodName "").1
  have hparens : EndsApart (parens (textLiteral m.placeholder)) := rfl
  have hliteral : textAll (textLiteral m.placeholder) = stringLiteral m.placeholder := by
    rw [textLiteral, textAll, text]
  have hdrop : (m.tokens c).dropLast = head := by
    rw [htokens, braces, List.dropLast_concat]
  have hclosing : m.closingTokens c ≠ [] := List.cons_ne_nil _ _
  have hbody : textAll (braces (bodyOf (m.tokens c))) = "\x7b " ++
      (textAll (openingTokens c.runtime c.table.name m.operation.methodName) ++ " " ++
        ("(" ++ stringLiteral m.placeholder ++ ")" ++ " " ++ textAll (m.closingTokens c))) ++
      " \x7d" := by
    rw [bodyOf_eq, textAll_braces (by simp [parens]), textAll_append hopening (by simp [parens]),
      textAll_append hparens hclosing, textAll_parens, hliteral]
  have hbrace : " \x7b " = " " ++ "\x7b " := rfl
  rw [textBefore, textBehind, hdrop, htokens, textAll_append hhead (by simp [braces]), hbody,
    hbrace]
  simp only [String.append_assoc]

end Method

end Rowsmith.Accessor

namespace Rowsmith.GeneratedUnit
open Accessor Schema Source Sql Text Token Rowsmith.Unit

/-- The text up to the first gap, and the gaps of methods with what stands behind each, given
the text before the methods. -/
def gapsFrom (c : Context) (start : List Char) :
    List Method → List Char × List (Method × List Char)
  | [] => (start ++ " \x7d".toList, [])
  | m :: ms =>
    let later := gapsFrom c (m.textBehind c).toList ms
    (start ++ ' ' :: (m.textBefore c).toList, (m, later.1) :: later.2)

theorem map_fst_gapsFrom (c : Context) (start : List Char) (ms : List Method) :
    (gapsFrom c start ms).2.map Prod.fst = ms := by
  induction ms generalizing start with
  | nil => rfl
  | cons m ms ih => rw [gapsFrom, List.map_cons, ih]

theorem fill_gapsFrom (c : Context) (value : Method → List Char) (start : List Char)
    (ms : List Method) :
    fill value (gapsFrom c start ms).1 (gapsFrom c start ms).2 =
      start ++ (ms.flatMap fun m => ' ' :: ((m.textBefore c).toList ++ '(' :: (value m ++
        ')' :: (m.textBehind c).toList))) ++ " \x7d".toList := by
  induction ms generalizing start with
  | nil => simp [gapsFrom, fill]
  | cons m ms ih => simp [gapsFrom, fill, ih]

theorem endsApart_tokens (m : Method) (c : Context) : EndsApart (m.tokens c) := by
  obtain ⟨head, -, htokens⟩ := m.exists_head c
  rw [htokens]
  exact (endsApart_braces _).append head

/-- Methods print one behind the other. -/
theorem textAll_methods {start : List Token} (hs : EndsApart start) (c : Context)
    (ms : List Method) :
    (textAll (start ++ ms.flatMap (·.tokens c))).toList =
      (textAll start).toList ++ ms.flatMap fun m => ' ' :: (textAll (m.tokens c)).toList := by
  induction ms generalizing start with
  | nil => simp
  | cons m ms ih =>
      have hm := endsApart_tokens m c
      have hne : m.tokens c ≠ [] := by
        intro hnil
        rw [hnil] at hm
        cases hm
      have hspace : " ".toList = [' '] := rfl
      rw [List.flatMap_cons, ← List.append_assoc, ih (hm.append start), textAll_append hs hne,
        String.toList_append, String.toList_append, hspace, List.flatMap_cons]
      simp only [List.append_assoc, List.cons_append, List.nil_append]

variable (u : GeneratedUnit)

/-- The members of the trait besides the methods. -/
def otherMembers : List Token := ({ u with methods := [] } : GeneratedUnit).members

theorem members_eq : EndsApart u.otherMembers ∧
    u.members = u.otherMembers ++ u.methods.flatMap (·.tokens u.context) := by
  have hhelper : EndsApart (parameterHelper u.context.runtime) := (endsApart_braces _).append _
  rw [otherMembers, members, members, List.flatMap_nil, List.append_nil]
  exact ⟨hhelper.append _, rfl⟩

/-- The text of the unit before its methods. -/
def startText : List Char :=
  (textAll u.tokens.dropLast ++ " \x7b " ++ textAll u.otherMembers).toList

/-- The text of the unit up to its first gap. -/
def front : List Char := (gapsFrom u.context u.startText u.methods).1

/-- The gaps of the unit, one for the argument of each method, with the text behind each. -/
def gaps : List (Method × List Char) := (gapsFrom u.context u.startText u.methods).2

theorem map_fst_gaps : u.gaps.map Prod.fst = u.methods :=
  map_fst_gapsFrom u.context u.startText u.methods

/-- A unit prints as a text whose gaps hold the literals of the placeholders. -/
theorem toList_textAll_tokens : (textAll u.tokens).toList =
    fill (fun m => (stringLiteral m.placeholder).toList) u.front u.gaps := by
  obtain ⟨hother, hmembers⟩ := u.members_eq
  have hhead : ∃ head, EndsApart head ∧ u.tokens = head ++ braces u.members := by
    have hbounds : EndsApart (code ": :: core :: marker :: Send + :: core :: marker :: Sync") := rfl
    exact ⟨_, hbounds.append _, rfl⟩
  obtain ⟨head, hhead, htokens⟩ := hhead
  have hdrop : u.tokens.dropLast = head := by
    rw [htokens, braces, List.dropLast_concat]
  have hne : u.members ≠ [] := by
    intro hnil
    rw [hmembers, List.append_eq_nil_iff] at hnil
    rw [hnil.1] at hother
    cases hother
  have hmethods := textAll_methods hother u.context u.methods
  have hbrace : " \x7b " = " " ++ "\x7b " := rfl
  rw [front, gaps, fill_gapsFrom, startText, hdrop, htokens, textAll_append hhead (by simp [braces]),
    textAll_braces hne, hmembers, hbrace]
  simp only [String.toList_append, List.append_assoc, hmethods, Method.textAll_tokens]
  rfl

end Rowsmith.GeneratedUnit
