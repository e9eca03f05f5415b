import BrowserScript.Script.Grammar.Class
import BrowserScript.Script.Grammar.Literal
import BrowserScript.Script.Grammar.Object

/-!
Expressions without an operator, and arrow functions. What stands in parentheses is read as a list
of expressions; an arrow behind it makes it a list of parameters.
-/

set_option autoImplicit false

namespace BrowserScript.Script.Reader

/-- The binary operator at the current token. -/
def binaryOpHere : Reader (Option BinaryOp) := do
  match ← token with
  | .mark text => return BinaryOp.ofText? text
  | .word "instanceof" => return some .isInstanceOf
  | .word "in" => return if (← context).allowIn then some .isIn else none
  | _ => return none

def isUnaryOrAwait : Expr → Bool
  | .unary .. | .await .. => true
  | _ => false

/-- Notes an unbracketed `&&` or `||` beside `??`. -/
def noteMixedNullish (op : BinaryOp) (pos : Nat) (left right : Expr) : Reader Unit := do
  if op = .nullish then
    for e in [left, right] do
      match e with
      | .binary operandPos operandOp _ _ =>
        noteIf operandOp.isLogical .mixedNullish operandPos
      | _ => pure ()
  else if op.isLogical then
    match left with
    | .binary _ .nullish _ _ => note .mixedNullish pos
    | _ => pure ()

/-- Goes on behind an operand with the operators that bind more tightly than `limit`; `bound` is
an upper bound of their number. -/
def climb (parts : Parts) : Nat → Expr → Nat → Reader Expr
  | 0, _, _ => raiseEnd
  | bound + 1, left, limit => do
    match ← binaryOpHere with
    | none => return left
    | some op =>
      if op.precedence ≤ limit then return left
      advance
      if op = .exp && isUnaryOrAwait left then raiseHere .exponentOfUnary
      let operand ← parts.unary
      let rightLimit := if op = .exp then op.precedence - 1 else op.precedence
      let right ← climb parts bound operand rightLimit
      noteMixedNullish op left.pos left right
      climb parts bound (.binary left.pos op left right) limit

def climbFrom (parts : Parts) (left : Expr) : Reader Expr := do
  climb parts (← get).bound left 0

/-- Reads the body of an arrow function; says whether it is an expression. -/
def readArrowBody (parts : Parts) (kind : FunctionKind) (params : List Pattern) :
    Reader (Bool × List Stmt) := do
  if ← isMark "\x7b" then return (false, ← readFunctionBody parts kind params)
  else
    let value ← withinBody kind parts.assignment
    return (true, [.ret value.pos (some value)])

/-- Reads the rest of an arrow function behind its arrow. -/
def readArrowRest (parts : Parts) (start : Nat) (isAsync : Bool) (params : List Pattern) :
    Reader Expr := do
  let (isExpr, body) ← readArrowBody parts { isAsync, isArrow := true } params
  return .arrow start isAsync params isExpr body

/-- Does an operator follow an arrow function whose body is a block? -/
def atOperatorMark : Reader Bool := do
  match ← token with
  | .mark text => return (BinaryOp.ofText? text).isSome
  | _ => return false

def isBlockArrow : Expr → Bool
  | .arrow _ _ _ isExpr _ => !isExpr
  | _ => false

/-- Is the item a name, or a spread of one? -/
def isNameItem : Expr → Bool
  | .ident .. | .spread _ (.ident ..) => true
  | _ => false

/-- Reads an arrow function whose parameters are the items in front of it. -/
def readInnerArrow (parts : Parts) (start : Nat) (items : List Expr) : Reader Expr := do
  let params ← takeAsParams none items
  readArrowRest parts start false params

/-- Reads an item in parentheses behind others, which come in reverse. An arrow behind it takes
all of them as parameters, if the first one is a name, and makes another item. -/
def readParenItem (parts : Parts) (before : List Expr) : Reader (List Expr) := do
  let start ← tokenStart
  modify fun s => { s with arrowStart := some start }
  let items := (← readItem parts) :: before
  if (← eatMark "=>") && items.getLast?.any isNameItem then
    return (← readInnerArrow parts start items.reverse) :: items
  else return items

/-- Reads items up to a closing parenthesis, and the place of a comma in front of it. -/
def readParenItemsFrom (parts : Parts) :
    Nat → List Expr → Option Nat → Reader (List Expr × Option Nat)
  | 0, _, _ => raiseEnd
  | bound + 1, items, comma => do
    if (← isEof) || (← isMark ")") then return (items.reverse, comma)
    let items ← readParenItem parts items
    if ← isMark ")" then readParenItemsFrom parts bound items none
    else
      expectMark ","
      let comma ← previousStart
      readParenItemsFrom parts bound items (if ← isMark ")" then some comma else none)

/-- Reads what stands in parentheses, and the place of a comma behind it. -/
def readParenItems (parts : Parts) : Reader (List Expr × Option Nat) := do
  expectMark "("
  let found ← readParenItemsFrom parts (← get).bound [] none
  expectMark ")"
  return found

/-- Notes properties that only a pattern may have. -/
def noteInitializedProperties (items : List Expr) : Reader Unit :=
  for e in items do
    match e with
    | .object _ properties | .spread _ (.object _ properties) =>
      for p in properties do
        match p with
        | .initialized pos _ _ => note .shorthandValue pos
        | _ => pure ()
    | _ => pure ()

/-- Refuses spreads in an expression. -/
def refuseSpreads (items : List Expr) : Reader Unit :=
  for e in items do
    match e with
    | .spread _ value => raise .spreadInParens value.pos
    | _ => pure ()

/-- Reads an arrow function from its arrow on, when its head has been read. -/
def readParenArrow (parts : Parts) (start : Nat) (isAsync canBeArrow : Bool)
    (items : List Expr) (comma : Option Nat) : Reader Expr := do
  if ← lineBreak then raise .lineBreakBeforeArrow start
  if !canBeArrow then raise .arrowNotAllowed start
  expectMark "=>"
  let params ← takeAsParams comma items
  let arrow ← readArrowRest parts start isAsync params
  if isBlockArrow arrow && (← atOperatorMark) then
    note .semicolonExpected (← tokenStart)
    let e ← climbFrom parts arrow
    unless ← atStatementEnd do note .semicolonExpected (← tokenStart)
    return e
  else return arrow

/-- Reads an expression in parentheses, or an arrow function, or a call of `async`. -/
def readParens (parts : Parts) (canBeArrow : Bool) (asyncPos : Option Nat) : Reader Expr := do
  let start := asyncPos.getD (← here)
  let (items, comma) ← withIn true (readParenItems parts)
  if ← isMark "=>" then readParenArrow parts start asyncPos.isSome canBeArrow items comma
  else
    noteInitializedProperties items
    match asyncPos with
    | some pos => return .call pos (.ident pos { name := "async" }) items
    | none =>
      refuseSpreads items
      match items with
      | [] => raise .emptyParens start
      | [e] => return .paren start e
      | e :: _ => return .paren start (.seq e.pos items)

/-- Does `of` follow, other than as the parameter of an arrow function? -/
def atOf : Reader Bool := do
  if ← isWord "of" then return !(← peek).token.isMark "=>" else return false

/-- Reads a name, or an arrow function whose head is a name. -/
def readNameExpr (parts : Parts) (canBeArrow : Bool) : Reader Expr := do
  let c ← context
  let (pos, name) ← readIdent (!c.inGenerator) (!c.inAsync)
  if name = "async" && canBeArrow && !(← lineBreak) && (← atName) then
    if c.inLoopHead then
      if ← atOf then
        noteIf (!c.inAwaitLoopHead) .asyncOf pos
        return .ident pos { name }
    let (paramPos, id) ← readBindingName false
    expectMark "=>"
    readArrowRest parts pos true [.ident paramPos id]
  else if canBeArrow && !(← lineBreak) && (← isMark "=>") then
    advance
    noteIf (c.strict && isEvalOrArguments name) .evalOrArguments pos
    readArrowRest parts pos false [.ident pos { name }]
  else return .ident pos { name }

/-- Reads an expression that starts with the word `async`, if it is more than that name. -/
def readAsyncExpr? (parts : Parts) (canBeArrow : Bool) : Reader (Option Expr) := do
  let next ← peek
  if next.lineBreak then return none
  else if next.token.isWord "function" then return some (← readFunctionExpr parts true)
  else if canBeArrow && next.token.isMark "(" then
    let start ← here
    advance
    return some (← readParens parts canBeArrow (some start))
  else return none

def readLiteral (pos : Nat) (value : Lit) : Reader Expr := do
  advance
  return .lit pos value

/-- Reads an expression that starts with a word. -/
def readWordExpr (parts : Parts) (pos : Nat) (canBeArrow : Bool) (word : String) :
    Reader Expr := do
  match word with
  | "this" =>
    advance
    return .this pos
  | "null" => readLiteral pos .null
  | "true" => readLiteral pos (.bool true)
  | "false" => readLiteral pos (.bool false)
  | "function" => readFunctionExpr parts false
  | "class" => readClassExpr parts
  | _ =>
    let found ← if word = "async" then readAsyncExpr? parts canBeArrow else pure none
    match found with
    | some e => return e
    | none =>
      if word = "let" || !(← context).reserves word then readNameExpr parts canBeArrow
      else raiseHere .expressionExpected

/-- Reads an expression without operators. -/
def readPrimary (parts : Parts) : Reader Expr := do
  let pos ← here
  let canBeArrow := (← get).arrowStart = some pos
  match ← token with
  | .number value _ => readLiteral pos (.number value)
  | .bigint digits _ => readLiteral pos (.bigint digits)
  | .string value _ => readLiteral pos (.string value)
  | .word word => readWordExpr parts pos canBeArrow word
  | .mark "[" => readArray parts
  | .mark "\x7b" => readObject parts
  | .mark "(" => readParens parts canBeArrow none
  | .mark "/" | .mark "/=" => readRegexLiteral
  | .mark "`" =>
    let (quasis, values) ← readTemplate parts false
    return .template pos quasis values
  | .mark "#" =>
    advance
    return .privateName pos (← readPlainName)
  | _ => raiseHere .expressionExpected

end BrowserScript.Script.Reader
