import Rowsmith.Source.Phrase.Pattern
import Rowsmith.Source.Precedence

/-!
# Expressions

An expression is an atom with trailers, marks in front of it, and operators between such operands.
Where a block follows, as behind `if`, a path takes no braces.
-/

namespace Rowsmith.Source
namespace Phrase

variable (n : Nested)

/-- Reads expressions parted by commas in a group. -/
def expressionsIn (delimiter : Delimiter) : Phrase (List (Expression × List Token)) :=
  inside delimiter (commaList List.isEmpty (n.expression true))

/-- The tokens of expressions and their separators. -/
def expressionTokens (items : List (Expression × List Token)) : List Token :=
  listTokens (items.map fun (e, separator) => (e.tokens, separator))

/-- Whether an expression may begin here, behind a word that takes one. -/
def startsExpression (tokens : List Token) : Bool :=
  let marked (op : List Char) : Bool :=
    Token.startsOperator op tokens && !Token.startsOperator (op ++ ['=']) tokens
  (Token.startsAnyWord tokens && !Token.startsWord "as" tokens)
    || Token.startsLiteral tokens
    || match tokens with
      | .group _ _ :: _ => true
      | _ => marked ['!'] || marked ['-'] || marked ['*'] || marked ['|'] || marked ['&']
        || Token.startsOperator ['.', '.'] tokens
        || (marked ['<'] && !Token.startsOperator ['<', '<', '='] tokens)
        || Token.startsOperator [':', ':'] tokens || Token.startsLifetime tokens
        || Token.startsOperator ['#'] tokens

/-- Reads the fields of a struct expression. -/
def structFields : Nat → Phrase (List Token)
  | 0 => return []
  | fuel + 1 => do
    if ← atEnd then return []
    if ← peekOperator ".." then
      let dots ← operator ".."
      if ← atEnd then return dots else return dots ++ (← n.expression true).tokens
    let attributes ← attributeTokens n
    let isNumbered ← peek fun tokens => match tokens with
      | .literal _ :: _ => true
      | _ => false
    let member ← if isNumbered then Prod.fst <$> literal else word <$> identifier
    let value ← if isNumbered || (← peekOperator ":") then
        pure ((← operator ":") ++ (← n.expression true).tokens)
      else pure []
    let field := attributes ++ member ++ value
    if ← atEnd then return field
    let comma ← operator ","
    return field ++ comma ++ (← structFields fuel)

/-- The expression that a path is. -/
def pathExpression (path : PathPhrase) (isQualified : Bool) : Expression :=
  .path (if isQualified then none else path.identifier?.map plainName) path.tokens

/-- Reads a path, the call of a macro, or a struct. -/
def pathAtom (allowStruct : Bool) : Phrase Expression := do
  let (path, isQualified) ← qualifiedPath n true
  let isMacro ← peek fun tokens =>
    Token.startsOperator ['!'] tokens && !Token.startsOperator ['!', '='] tokens
  if !isQualified && isMacro && path.plain then
    let bang ← operator "!"
    let (delimiter, body) ← anyGroup
    let tokens := path.tokens ++ bang ++ [Token.group delimiter body]
    return if delimiter = .brace then .bracedCall tokens else .other tokens
  else if allowStruct && (← peekGroup .brace) then
    let fields ← inside .brace (do structFields n ((← rest).length + 1))
    return .other (path.tokens ++ braces fields)
  else return pathExpression path isQualified

/-- Reads what stands in parentheses: an expression or a tuple. -/
def parenthesizedAtom : Phrase Expression := do
  let items ← expressionsIn n .parenthesis
  return .other (parens (expressionTokens items))

/-- Reads what stands in brackets: elements, or one element and a count. -/
def bracketBody : Phrase (List Token) := do
  if ← atEnd then return []
  let first ← n.expression true
  if ← peekOperator ";" then
    let mark ← operator ";"
    return first.tokens ++ mark ++ (← n.expression true).tokens
  else if ← atEnd then return first.tokens
  else if ← peekOperator "," then
    let comma ← operator ","
    let items ← commaList List.isEmpty (n.expression true)
    return first.tokens ++ comma ++ expressionTokens items
  else expected "`,` or `;`"

/-- Reads an argument of a closure. -/
def closureArgument : Phrase (List Token) := do
  let attributes ← attributeTokens n
  let name ← n.pattern false
  let type ← if ← peekOperator ":" then
      pure ((← operator ":") ++ (← n.type true).tokens)
    else pure []
  return attributes ++ name ++ type

/-- Reads a closure. -/
def closure (allowStruct : Bool) : Phrase Expression := do
  let lifetimes ← boundLifetimes?
  let constant ← keyword? "const"
  let static ← keyword? "static"
  let async ← keyword? "async"
  let move ← keyword? "move"
  let left ← operator "|"
  let arguments ← commaList (Token.startsOperator ['|']) (closureArgument n)
  let right ← operator "|"
  let head := lifetimes ++ constant ++ static ++ async ++ move ++ left ++ listTokens arguments
    ++ right
  if ← peekOperator "->" then
    let arrow ← operator "->"
    let type ← n.type true
    return .other (head ++ arrow ++ type.tokens ++ (← n.block))
  else return .other (head ++ (← n.expression allowStruct).tokens)

/-- Reads the condition and the branches of `if`, in at most `fuel` steps. -/
def branches : Nat → Phrase (List Token)
  | 0 => return []
  | fuel + 1 => do
    let head ← keyword "if"
    let condition ← n.expression false
    let body ← n.block
    let done := head ++ condition.tokens ++ body
    if ← peekWord "else" then
      let other ← anyWord
      if ← peekWord "if" then return done ++ other ++ (← branches fuel)
      else if ← peekGroup .brace then return done ++ other ++ (← n.block)
      else expected "`if` or curly braces"
    else return done

/-- Reads one arm of a match. -/
def matchArm (body : Phrase Expression) : Phrase (List Token) := do
  let attributes ← attributeTokens n
  let head ← n.pattern true
  let guard ← if ← peekWord "if" then pure ((← anyWord) ++ (← n.expression true).tokens)
    else pure []
  let arrow ← operator "=>"
  let value ← body
  let comma ← if !value.isBlock && !(← atEnd) then operator "," else operator? ","
  return attributes ++ head ++ guard ++ arrow ++ value.tokens ++ comma

/-- Reads the arms of a match, in at most `fuel` steps. -/
def matchArms (body : Phrase Expression) : Nat → Phrase (List Token)
  | 0 => return []
  | fuel + 1 => do
    if ← atEnd then return []
    let first ← matchArm n body
    return first ++ (← matchArms body fuel)

/-- Reads a loop or a block behind its label, or a branch or match. -/
def blockAtom (armBody : Phrase Expression) : Phrase Expression := do
  if ← peekWord "if" then return .block (← branches n ((← rest).length + 1))
  else if ← peekWord "while" then
    let head ← anyWord
    let condition ← n.expression false
    return .block (head ++ condition.tokens ++ (← n.block))
  else if ← peekWord "for" then
    let head ← anyWord
    let item ← n.pattern true
    let inside ← keyword "in"
    let source ← n.expression false
    return .block (head ++ item ++ inside ++ source.tokens ++ (← n.block))
  else if ← peekWord "match" then
    let head ← anyWord
    let subject ← n.expression false
    let arms ← inside .brace (do matchArms n armBody ((← rest).length + 1))
    return .block (head ++ subject.tokens ++ braces arms)
  else
    let heads ← ["loop", "unsafe", "const", "try"].mapM keyword?
    return .block (heads.flatten ++ (← n.block))

/-- Whether an expression that ends with a block comes next. -/
def startsBlockAtom (tokens : List Token) : Bool :=
  let behind := tokens.drop 1
  ["if", "while", "loop", "match", "unsafe"].any (Token.startsWord · tokens)
    || (Token.startsWord "for" tokens && !Token.startsOperator ['<'] behind)
    || (["try", "const"].any (Token.startsWord · tokens) && Token.startsGroup .brace behind)
    || Token.startsGroup .brace tokens

/-- Whether a closure comes next. -/
def startsClosure (tokens : List Token) : Bool :=
  let behind := tokens.drop 1
  Token.startsOperator ['|'] tokens || Token.startsWord "move" tokens
    || Token.startsWord "static" tokens
    || (Token.startsWord "for" tokens && Token.startsOperator ['<'] behind)
    || (Token.startsWord "const" tokens && !Token.startsGroup .brace behind)
    || (Token.startsWord "async" tokens
      && (Token.startsOperator ['|'] behind || Token.startsWord "move" behind))

/-- Whether a path comes next; one from `try` on has to be a macro or have more segments. -/
def startsPathAtom (tokens : List Token) : Bool :=
  let behind := tokens.drop 1
  startsTypePath tokens || [[':', ':'], ['<']].any (Token.startsOperator · tokens)
    || (Token.startsWord "try" tokens
      && [['!'], [':', ':']].any (Token.startsOperator · behind))

/-- Whether an asynchronous block comes next. -/
def startsAsyncBlock (tokens : List Token) : Bool :=
  let behind := tokens.drop 1
  Token.startsWord "async" tokens
    && (Token.startsGroup .brace behind
      || (Token.startsWord "move" behind && Token.startsGroup .brace (behind.drop 1)))

/-- Reads a word that leaves a loop or function, with its label and value. -/
def jump (allowStruct : Bool) : Phrase Expression := do
  let isReturn ← peekWord "return"
  let isContinue ← peekWord "continue"
  let head ← anyWord
  let label ← if isReturn then pure [] else lifetime?
  let hasValue ← peek fun tokens => startsExpression tokens
    && (allowStruct || isReturn || !Token.startsGroup .brace tokens)
  if !isContinue && hasValue then return .other (head ++ label ++ (← n.expression true).tokens)
  else return .other (head ++ label)

/-- Whether a range without an end stops here. -/
def endsRange (allowStruct : Bool) (tokens : List Token) : Bool :=
  tokens.isEmpty
    || [[','], [';'], ['?'], ['='], ['+'], ['/'], ['%'], ['^'], ['>']].any
      (Token.startsOperator · tokens)
    || (Token.startsOperator ['.'] tokens && !Token.startsOperator ['.', '.'] tokens)
    || (!allowStruct && Token.startsGroup .brace tokens)
    || Token.startsWord "as" tokens

/-- Reads the numbers that a floating point literal stands for behind a point. The flag says that
another member follows. -/
def numberedMembers (literal : String) : Phrase (List Token × Bool) := do
  let parts := literal.splitOn "."
  let open_ := literal.endsWith "."
  let kept := if open_ then parts.dropLast else parts
  if kept.all (fun part => !part.isEmpty && part.all Char.isDigit) then
    return ([Token.mark '.' .alone].intercalate (kept.map fun part => [Token.literal part]), open_)
  else throw (.refused "expected unsuffixed integer")

/-- Reads a member behind a point. -/
def memberTrailer (e : Expression) (dot : List Token) : Phrase Expression := do
  if ← peekWord "await" then return .other (e.tokens ++ dot ++ (← anyWord))
  match ← rest with
  | .literal l :: tokens =>
    match literalValue l with
    | .integer _ => set tokens; return .other (e.tokens ++ dot ++ [.literal l])
    | _ => expected "identifier or integer"
  | _ =>
    let member ← if ← peek Token.startsIdentifier then word <$> identifier
      else expected "identifier or integer"
    let arguments ← if ← peekOperator "::" then genericArguments n else pure []
    if !arguments.isEmpty || (← peekGroup .parenthesis) then
      let items ← expressionsIn n .parenthesis
      return .other (e.tokens ++ dot ++ member ++ arguments ++ parens (expressionTokens items))
    else return .other (e.tokens ++ dot ++ member)

/-- Reads calls, members, indices and question marks behind an atom, in at most `fuel` steps. -/
def trailers : Nat → Expression → Phrase Expression
  | 0, e => return e
  | fuel + 1, e => do
    let isDot ← peek fun tokens =>
      Token.startsOperator ['.'] tokens && !Token.startsOperator ['.', '.'] tokens
    if ← peekGroup .parenthesis then
      let items ← expressionsIn n .parenthesis
      trailers fuel (.call e.name? (items.map (·.1.name?))
        (e.tokens ++ parens (expressionTokens items)))
    else if isDot && !e.isRange then
      let dot ← operator "."
      match ← rest with
      | .literal l :: tokens =>
        if Token.isNumber l && literalValue l = .other then
          set tokens
          let (members, more) ← numberedMembers l
          let field := Expression.other (e.tokens ++ dot ++ members)
          if more then trailers fuel (← memberTrailer n field (operatorMarks ['.']))
          else trailers fuel field
        else trailers fuel (← memberTrailer n e dot)
      | _ => trailers fuel (← memberTrailer n e dot)
    else if ← peekGroup .bracket then
      let index ← inside .bracket (n.expression true)
      trailers fuel (.other (e.tokens ++ brackets index.tokens))
    else if !e.isRange && (← peekOperator "?") then
      trailers fuel (.other (e.tokens ++ (← operator "?")))
    else return e

/-- Refuses what may not follow a cast. -/
def checkCast : Phrase Unit := do
  let refuse (what : String) : Phrase Unit :=
    throw (.refused ("casts cannot be followed by " ++ what))
  let isDot ← peek fun tokens =>
    Token.startsOperator ['.'] tokens && !Token.startsOperator ['.', '.'] tokens
  if isDot then
    let behind := (← rest).drop 1
    if Token.startsWord "await" behind then refuse "`.await`"
    else if Token.startsIdentifier behind && (Token.startsGroup .parenthesis (behind.drop 1)
        || Token.startsOperator [':', ':'] (behind.drop 1)) then refuse "a method call"
    else refuse "a field access"
  else if ← peekOperator "?" then refuse "the `?` operator"
  else if ← peekGroup .bracket then refuse "indexing"
  else if ← peekGroup .parenthesis then refuse "a function call"

mutual

/-- Reads an operand: an atom with its trailers, behind the marks in front of it. -/
def operand (allowStruct : Bool) : Nat → Phrase Expression
  | 0 => throw (.refused "expression nested too deeply")
  | fuel + 1 => do
    let attributes ← attributeTokens n
    if ← peekOperator "&" then
      let mark ← operator "&"
      let isRaw ← peek fun tokens => Token.startsWord "raw" tokens
        && (Token.startsWord "mut" (tokens.drop 1) || Token.startsWord "const" (tokens.drop 1))
      let access ← if isRaw then pure ((← anyWord) ++ (← anyWord)) else keyword? "mut"
      return .other (attributes ++ mark ++ access ++ (← operand allowStruct fuel).tokens)
    else if ← peekOperator "*" then
      return .other (attributes ++ (← operator "*") ++ (← operand allowStruct fuel).tokens)
    else if ← peekOperator "!" then
      return .other (attributes ++ (← operator "!") ++ (← operand allowStruct fuel).tokens)
    else if ← peekOperator "-" then
      return .other (attributes ++ (← operator "-") ++ (← operand allowStruct fuel).tokens)
    else
      let e ← atom allowStruct fuel
      return (← trailers n (← rest).length e).withAttributes attributes

/-- Reads an atom. -/
def atom (allowStruct : Bool) : Nat → Phrase Expression
  | 0 => throw (.refused "expression nested too deeply")
  | fuel + 1 => do
    if ← peek Token.startsLiteral then
      let (tokens, value) ← literal
      return .literal value tokens
    else if ← peek startsAsyncBlock then
      let head ← keyword "async"
      let move ← keyword? "move"
      return .other (head ++ move ++ (← n.block))
    else if ← peek startsBlockAtom then blockAtom n (statementExpression fuel)
    else if ← peek startsClosure then closure n allowStruct
    else if ← peek startsPathAtom then pathAtom n allowStruct
    else if ← peekGroup .parenthesis then parenthesizedAtom n
    else if (← peekWord "break") || (← peekWord "continue") || (← peekWord "return") then
      jump n allowStruct
    else if ← peekGroup .bracket then
      return .other (brackets (← inside .bracket (bracketBody n)))
    else if ← peekWord "let" then
      let head ← anyWord
      let name ← n.pattern true
      let equals ← operator "="
      let first ← operand false fuel
      let source ← operators false .comparison first fuel
      return .other (head ++ name ++ equals ++ source.tokens)
    else if ← peekOperator ".." then return .range (← rangeTail allowStruct fuel)
    else if ← peekWord "_" then return .other (← anyWord)
    else if ← peek Token.startsLifetime then
      let label ← lifetime
      let colon ← operator ":"
      if ← peek startsBlockAtom then
        return .block (label ++ colon ++ (← blockAtom n (statementExpression fuel)).tokens)
      else throw (.refused "expected loop or block expression")
    else expected "an expression"

/-- Reads the limits and the end of a range. -/
def rangeTail (allowStruct : Bool) : Nat → Phrase (List Token)
  | 0 => throw (.refused "expression nested too deeply")
  | fuel + 1 => do
    let closed ← peekOperator "..="
    let limits ← rangeOperator
    if !closed && (← peek (endsRange allowStruct)) then return limits
    else return limits ++ (← rightOperand allowStruct .range fuel).tokens

/-- Reads the operand on the right of an operator with what binds to it more tightly. -/
def rightOperand (allowStruct : Bool) (precedence : Precedence) : Nat → Phrase Expression
  | 0 => throw (.refused "expression nested too deeply")
  | fuel + 1 => do
    let first ← operand allowStruct fuel
    tighterOperators allowStruct precedence first fuel

/-- Reads the operators that bind more tightly than the one on the left. -/
def tighterOperators (allowStruct : Bool) (precedence : Precedence) (e : Expression) :
    Nat → Phrase Expression
  | 0 => return e
  | fuel + 1 => do
    let next := Token.precedence (← rest)
    if precedence.rank < next.rank || (next = precedence && precedence = .assignment) then
      let before := (← rest).length
      let more ← operators allowStruct next e fuel
      if (← rest).length = before then return more
      else tighterOperators allowStruct precedence more fuel
    else return e

/-- Reads the operators of at least the given rank behind an operand. -/
def operators (allowStruct : Bool) (base : Precedence) (e : Expression) : Nat → Phrase Expression
  | 0 => return e
  | fuel + 1 => do
    if e.isRange then return e
    match Token.binaryOperator? (← rest) with
    | some (op, precedence) =>
      if precedence.rank < base.rank then return e
      else if precedence = .comparison && e.isComparison then
        throw (.refused "comparison operators cannot be chained")
      else
        let mark ← operator op
        let right ← rightOperand allowStruct precedence fuel
        let tokens := e.tokens ++ mark ++ right.tokens
        operators allowStruct base
          (if precedence = .comparison then .comparison tokens else .other tokens) fuel
    | none =>
      if base.rank ≤ Precedence.assignment.rank && (← peek Token.startsAssignment) then
        let equals ← operator "="
        let right ← rightOperand allowStruct .assignment fuel
        operators allowStruct base
          (.assignment e.name? right (e.tokens ++ equals ++ right.tokens)) fuel
      else if base.rank ≤ Precedence.range.rank && (← peekOperator "..") then
        operators allowStruct base (.range (e.tokens ++ (← rangeTail allowStruct fuel))) fuel
      else if base.rank ≤ Precedence.cast.rank && (← peekWord "as") then
        let mark ← anyWord
        let type ← n.type false
        checkCast
        operators allowStruct base (.other (e.tokens ++ mark ++ type.tokens)) fuel
      else return e

/-- Reads an expression that stands as a statement, or as the value of an arm: one that ends with
a block goes on only behind a point or a question mark. -/
def statementExpression : Nat → Phrase Expression
  | 0 => throw (.refused "expression nested too deeply")
  | fuel + 1 => do
    let attributes ← attributeTokens n
    if ← peek startsBlockAtom then
      let e ← blockAtom n (statementExpression fuel)
      let goesOn ← peek fun tokens => Token.startsOperator ['?'] tokens
        || (Token.startsOperator ['.'] tokens && !Token.startsOperator ['.', '.'] tokens)
      if goesOn then
        let trailed ← trailers n (← rest).length e
        return (← operators true .none trailed fuel).withAttributes attributes
      else return e.withAttributes attributes
    else
      let first ← operand true fuel
      return (← operators true .none first fuel).withAttributes attributes

end

/-- Steps that suffice for the rest: a few for each token. -/
def stepBound : Phrase Nat := do
  return 4 * ((← rest).length + 2)

/-- Reads an expression; the flag allows the braces of a struct behind a path. -/
def expression (allowStruct : Bool) : Phrase Expression := do
  let steps ← stepBound
  let first ← operand n allowStruct steps
  operators n allowStruct .none first steps

end Phrase
end Rowsmith.Source
