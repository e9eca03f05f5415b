import BrowserScript.Script.Grammar.Primary

/-!
Expressions with operators, from the ones that bind most tightly to assignments.
-/

set_option autoImplicit false

namespace BrowserScript.Script.Reader

/-- Reads arguments behind the opening parenthesis, whose place is given where a comma may not end
them. -/
def readArgsFrom (parts : Parts) (noComma : Option Nat) : Nat → Bool → Reader (List Expr)
  | 0, _ => raiseEnd
  | bound + 1, isFirst => do
    if (← isEof) || (← isMark ")") then return []
    unless isFirst do
      expectMark ","
      if ← isMark ")" then
        match noComma with
        | some pos => raise .trailingImportComma pos
        | none => return []
    let item ← readItem parts
    return item :: (← readArgsFrom parts noComma bound false)

/-- Reads arguments with their parentheses. -/
def readArgs (parts : Parts) (refuseComma : Bool) : Reader (List Expr) := do
  let start ← here
  expectMark "("
  let noComma := if refuseComma then some start else none
  let args ← readArgsFrom parts noComma (← get).bound true
  expectMark ")"
  return args

def isOptional : Expr → Bool
  | .optional .. => true
  | _ => false

def isSuperBase : Expr → Bool
  | .superBase _ => true
  | _ => false

def isImportBase : Expr → Bool
  | .importBase _ => true
  | _ => false

/-- An access that is part of an optional chain. -/
def chained (inChain : Bool) (pos : Nat) (e : Expr) : Expr :=
  if inChain then .optional pos e else e

/-- Refuses a property of `super` outside of methods, and an optional or private one anywhere. -/
def checkSuperAccess (base access : Expr) (isQuestioned allowCall : Bool) : Reader Unit := do
  if isSuperBase base then
    if !(← context).allowSuper then raiseHere .superAccess
    if isQuestioned then raiseHere (if allowCall then .superAccess else .superCall)
    match access with
    | .privateMember .. => raiseHere .superPrivateName
    | _ => return

/-- Goes on behind the question mark of an optional access, and behind its point as well where a
bracket follows that. -/
def eatQuestion : Reader Bool := do
  if !(← isMark "?") then return false
  if !(← peek).token.isMark "." then return false
  advance
  let next := (← peek).token
  if next.isMark "[" || next.isMark "(" then advance
  return true

/-- Reads the name behind a point. -/
def readMemberName (start : Nat) (base : Expr) : Reader Expr := do
  if ← isMark "#" then return .privateMember start base (← readPrivateName)
  else return .member start base (← readPlainName)

/-- A base that is a word of its own must not stand alone. -/
def refuseBareBase (base : Expr) (allowCall : Bool) : Reader Unit := do
  if isSuperBase base then raiseHere (if allowCall then .superAccess else .superCall)
  if isImportBase base then raiseHere .importNotAllowed

/-- Reads one access, call or template behind a base, if there is one. -/
def readSubscript (parts : Parts) (start : Nat) (allowCall : Bool) (base : Expr) :
    Reader (Option Expr) := do
  let isQuestioned ← eatQuestion
  let inChain := isQuestioned || isOptional base
  if ← eatMark "[" then
    let key ← withIn true (readExpression parts)
    expectMark "]"
    let access := .index start base key
    checkSuperAccess base access isQuestioned allowCall
    return some (chained inChain start access)
  else if (isQuestioned || allowCall) && (← isMark "(") then
    let args ← readArgs parts (isImportBase base)
    return some (chained inChain start (.call start base args))
  else if ← eatMark "." then
    let access ← readMemberName start base
    noteIf (isImportBase base) .importMetaOutside start
    checkSuperAccess base access isQuestioned allowCall
    return some (chained inChain start access)
  else
    refuseBareBase base allowCall
    if ← isMark "`" then
      let (quasis, values) ← readTemplate parts true
      noteIf (isOptional base) .optionalTagged base.pos
      return some (.tagged start base quasis values)
    else return none

/-- Reads what follows a base; `bound` limits the number of accesses. -/
def readSubscripts (parts : Parts) (start : Nat) (allowCall : Bool) :
    Nat → Expr → Reader Expr
  | 0, _ => raiseEnd
  | bound + 1, base => do
    match ← readSubscript parts start allowCall base with
    | none => return base
    | some e => readSubscripts parts start allowCall bound e

def readAccess (parts : Parts) (start : Nat) (allowCall : Bool) (base : Expr) : Reader Expr := do
  readSubscripts parts start allowCall (← get).bound base

/-- Reads an expression that starts with `import`, behind that word. -/
def readImport (parts : Parts) (start : Nat) (allowCall : Bool) : Reader Expr := do
  if ← eatMark "." then
    match ← readPlainName with
    | "meta" =>
      note .importMetaOutside start
      readAccess parts start allowCall (.importMeta start)
    | "source" | "defer" => readAccess parts start allowCall (.importBase start)
    | _ => raiseUnexpected "meta"
  else if ← isMark "(" then readAccess parts start allowCall (.importBase start)
  else raiseUnexpected "`.` or `(`"

/-- Reads what follows the word `new`. -/
def readNew (parts : Parts) (start : Nat) : Reader Expr := do
  if ← eatMark "." then
    unless ← eatWord "target" do raiseUnexpected "target"
    let c ← context
    noteIf (!c.inOrdinaryFunction && !c.inParams && !c.inClass) .newTargetOutside start
    readAccess parts start false (.newTarget start)
  else
    let callee ← parts.callee
    if isArrow callee then return callee
    if isOptional callee then raise .optionalConstructor callee.pos
    if ← isMark "(" then
      let args ← readArgs parts false
      readAccess parts start false (.newCall start callee args)
    else return .newCall start callee []

/-- Reads an expression with accesses, but without calls that are not constructions. -/
def readCallee (parts : Parts) : Reader Expr := do
  let start ← here
  if ← eatWord "new" then readNew parts start
  else if ← eatWord "super" then readAccess parts start false (.superBase start)
  else if ← eatWord "import" then readImport parts start false
  else
    let base ← readPrimary parts
    if isArrow base then return base else readAccess parts start false base

/-- Reads an expression with accesses and calls. -/
def readLeftHandSide (parts : Parts) : Reader Expr := do
  let start ← here
  if ← eatWord "super" then readAccess parts start true (.superBase start)
  else if ← eatWord "import" then readImport parts start true
  else
    let callee ← readCallee parts
    if isArrow callee then return callee
    if ← isMark "(" then
      let args ← readArgs parts false
      readAccess parts start true (chained (isOptional callee) start (.call start callee args))
    else return callee

/-- The unary operator at the current token. -/
def unaryOpHere : Reader (Option UnaryOp) := do
  match ← token with
  | .mark text => return (UnaryOp.all.find? fun op => !op.isWord && op.text = text)
  | .word text => return (UnaryOp.all.find? fun op => op.isWord && op.text = text)
  | _ => return none

/-- The counting operator at the current token. -/
def updateOpHere : Reader (Option UpdateOp) := do
  match ← token with
  | .mark "++" => return some .increment
  | .mark "--" => return some .decrement
  | _ => return none

/-- Reads what follows a unary operator; an operand that cannot be read is only noted. -/
def readUnaryRest (parts : Parts) (start : Nat) (op : UnaryOp) : Reader Expr := do
  let operandStart ← here
  let arg ←
    try parts.unary
    catch fault => do
      note fault.fault fault.pos
      pure (.invalid (operandStart - 1))
  match op, arg with
  | .delete, .ident pos _ => noteIf (← context).strict .deleteName pos
  | _, _ => pure ()
  return .unary start op arg

/-- Reads what follows the word `await`, which is a name where no operand can follow; the flag says
whether the rules for the top of a script have been checked. -/
def readAwaitRest (parts : Parts) (start : Nat) (checkedTop : Bool) : Reader Expr := do
  let c ← context
  if ← isMark "*" then raiseHere .awaitStar
  if (← isMark ")") || (← isMark "]") || (← isMark ",") || (← atStatementEnd) then
    noteIf c.inAsync .asyncAwaitName start
    return .ident start { name := "await" }
  else
    noteIf (c.isTop && !checkedTop) .topLevelAwait start
    noteIf (c.inFunction && !c.inAsync) .awaitInFunction start
    noteIf (c.inParams && !c.inFunction) .awaitInParams start
    return .await start (← parts.unary)

/-- Reads an expression with the operators of one operand. -/
def readUnary (parts : Parts) : Reader Expr := do
  let start ← here
  match ← updateOpHere with
  | some op =>
    advance
    let arg ← parts.unary
    checkTarget arg
    return .update start true op arg
  | none =>
    match ← unaryOpHere with
    | some op =>
      advance
      readUnaryRest parts start op
    | none =>
      if ← eatWord "await" then readAwaitRest parts start false
      else
        let e ← readLeftHandSide parts
        if isArrow e then return e
        if ← lineBreak then return e
        match ← updateOpHere with
        | some op =>
          checkTarget e
          advance
          return .update start false op e
        | none => return e

/-- Reads the first operand of an expression. When it is missing before an operator, the fault is
noted and reading goes on; at the end of the text, and at text that is no token, that counts. -/
def readFirstOperand (parts : Parts) : Reader Expr :=
  try readUnary parts
  catch fault => do
    demandToken
    if (← binaryOpHere).isSome || (← isWord "in") then
      note .expressionExpected (← tokenStart)
      return .invalid fault.pos
    else throw fault

/-- Reads an expression with the operators of two operands. -/
def readBinary (parts : Parts) : Reader Expr := do
  let left ← readFirstOperand parts
  if isArrow left then return left else climbFrom parts left

/-- Reads an expression up to the operator of three operands. -/
def readConditional (parts : Parts) : Reader Expr := do
  let test ← readBinary parts
  if isArrow test then return test
  else if ← eatMark "?" then
    let yes ← withIn true parts.assignment
    expectMark ":"
    let no ← parts.assignment
    return .cond test.pos test yes no
  else return test

/-- Words at which no expression starts. -/
def wordsInsideOnly : List String :=
  ["in", "instanceof", "break", "case", "catch", "const", "continue", "debugger", "default", "do",
    "else", "export", "extends", "finally", "for", "if", "return", "switch", "throw", "try", "var",
    "while", "with"]

/-- Can an expression start with this token? -/
def startsExpression : Token → Bool
  | .eof => true
  | .mark text => ["(", "[", "\x7b", "!", "~", "+", "-", "++", "--", "`", "#"].contains text
  | .word name => !wordsInsideOnly.contains name
  | _ => true

/-- Reads what follows the word `yield` in a generator. -/
def readYieldRest (parts : Parts) (start : Nat) : Reader Expr := do
  let c ← context
  if c.inParams && !c.inFunction then raise .yieldInParams start
  let startsOperand := (← isMark "*") || (← isMark "/") || (← isMark "/=") ||
    startsExpression (← token)
  if (← atStatementEnd) || !startsOperand then return .yield start false none
  else
    let isDelegate ← eatMark "*"
    return .yield start isDelegate (some (← parts.assignment))

/-- Expressions that are never the target of an assignment, not even a faulty one. -/
def isNeverTarget : Expr → Bool
  | .cond .. | .binary .. | .unary .. | .update .. => true
  | _ => false

/-- Can a pattern stand on the left of an assignment? -/
def isTarget : Pattern → Bool
  | .ident .. | .array .. | .object .. | .invalid _ => true
  | .expr e =>
    match e with
    | .member .. | .index .. | .privateMember .. | .optional .. | .paren .. | .invalid _ => true
    | _ => false
  | _ => false

/-- The assignment operator at the current token. -/
def assignOpHere : Reader (Option AssignOp) := do
  match ← token with
  | .mark text => return AssignOp.ofText? text
  | _ => return none

/-- Takes an expression as the target of an assignment. -/
def readTarget (op : AssignOp) (e : Expr) : Reader Pattern := do
  let target ←
    match op with
    | .assign => takeAsPattern .target e
    | .combine _ => do
      noteIf (!e.isSimpleTarget (← context).strict) .cannotAssign e.pos
      pure (asWhole e)
  unless isTarget target do raise .invalidTarget e.pos
  return target

/-- Words with which the head of an arrow function may start. -/
def maySignalArrow : Token → Bool
  | .mark "(" => true
  | .word name => name ≠ "let" && name ≠ "await" && !reservedWords.contains name
  | _ => false

/-- Reads an assignment, or an expression that binds more tightly. -/
def readAssignment (parts : Parts) : Reader Expr := do
  demandToken
  let start ← here
  if (← context).inGenerator && (← isWord "yield") then
    advance
    readYieldRest parts start
  else
    let arrowStart := if maySignalArrow (← token) then some start else none
    modify fun s => { s with arrowStart }
    let left ← readConditional parts
    if isArrow left || isNeverTarget left then return left
    match ← assignOpHere with
    | none => return left
    | some op =>
      let target ← readTarget op left
      advance
      return .assign start op target (← parts.assignment)

end BrowserScript.Script.Reader
