import BrowserScript.Script.Grammar.State

/-!
The parts that constructs of the grammar are made of. A construct is read by a function of the
readers for its parts; the readers for nested parts are tied together at the end, in
`BrowserScript.Script.Grammar.Document`.
-/

set_option autoImplicit false

namespace BrowserScript.Script

/-- Readers for the nested parts of a construct. -/
structure Parts where
  assignment : Reader Expr
  unary : Reader Expr
  leftHandSide : Reader Expr
  /-- What follows `new`. -/
  callee : Reader Expr
  /-- A statement; the flag says whether declarations are allowed. -/
  statement : (allowDeclaration : Bool) → Reader Stmt
  /-- A binding pattern; the flag refuses the name `let`. -/
  pattern : (refuseLet : Bool) → Reader Pattern

namespace Reader

/-- Is the expression an arrow function that starts where one may start? -/
def isArrow : Expr → Bool
  | .arrow .. => true
  | _ => false

/-- One expression, or several with commas between them. -/
def readExpression (parts : Parts) : Reader Expr := do
  let first ← parts.assignment
  if ← isMark "," then
    let others ← many do
      if ← eatMark "," then return some (← parts.assignment) else return none
    return .seq first.pos (first :: others)
  else return first

/-- Is the current token a name that may be used here? -/
def atName : Reader Bool := do
  match ← token with
  | .word name => return !(← context).reserves name
  | _ => return false

/-- Words that strict code does not admit as names. -/
def isStrictWord (name : String) : Bool :=
  ("yield" :: "static" :: "let" :: strictReservedWords).contains name

/-- Reads a name that binds or is used; the flags admit `yield` and `await`. -/
def readIdent (admitYield admitAwait : Bool) : Reader (Nat × String) := do
  demandToken
  match ← token with
  | .word name =>
    advance
    let pos ← previousStart
    let c ← context
    noteIf (name = "enum" || (c.strict && isStrictWord name)) (.strictName name) pos
    if name = "await" && c.inStaticBlock then raise .nameExpected pos
    else if name = "await" && c.inAsync then raise .asyncAwaitName pos
    else if name ≠ "enum" && reservedWords.contains name then raise .nameExpected pos
    else if (name = "yield" && !admitYield) || (name = "await" && !admitAwait) then
      raise .nameExpected pos
    noteIf (name = "arguments" && c.inField) .argumentsInField pos
    return (pos, name)
  | _ => raiseHere .nameExpected

def isEvalOrArguments (name : String) : Bool := name = "eval" || name = "arguments"

/-- Reads the name of a binding. -/
def readBindingName (refuseLet : Bool) : Reader (Nat × Ident) := do
  if refuseLet && (← isWord "let") then
    raiseUnexpected "let is reserved in const, let, class declaration"
  let (pos, name) ← readIdent true true
  let c ← context
  noteIf (c.strict && isEvalOrArguments name) .evalOrArguments pos
  noteIf (c.inAsync && name = "await") .nameExpected pos
  noteIf (c.inGenerator && name = "yield") .nameExpected pos
  return (pos, { name })

/-- Reads any word, reserved or not. -/
def readPlainName : Reader String := do
  demandToken
  match ← token with
  | .word name =>
    advance
    return name
  | _ => raiseHere .nameExpected

/-- Reads a private name; nothing may stand between its mark and the word. -/
def readPrivateName : Reader String := do
  advance
  let pos ← previousStart
  if (← here) ≠ (← get).previousEnd then raise .spaceAfterHash pos
  readPlainName

/-- Reads the key of a property. -/
def readKey (parts : Parts) : Reader Key := do
  demandToken
  match ← token with
  | .string value _ =>
    advance
    return .string value
  | .number value _ =>
    advance
    return .number value
  | .bigint digits _ =>
    let pos ← tokenStart
    advance
    return .bigint pos digits
  | .word name =>
    advance
    return .ident name
  | .mark "[" =>
    advance
    let value ← withIn true parts.assignment
    expectMark "]"
    return .computed value
  | _ =>
    raiseUnexpected "identifier, string literal, numeric literal or [ for the computed key"

end Reader

end BrowserScript.Script
