import BrowserScript.Script.Grammar.Pattern

/-!
Blocks and functions.
-/

set_option autoImplicit false

namespace BrowserScript.Script.Reader

/-- Is this the text of the directive that turns strict rules on? -/
def isStrictDirective : Token → Bool
  | .string _ raw => raw = "'use strict'" || raw = "\"use strict\""
  | _ => false

/-- Is this a statement that consists of one string? -/
def isStringStatement : Stmt → Bool
  | .expr _ (.lit _ (.string _)) => true
  | _ => false

/-- The place of the first strict directive among the string statements that a body starts with,
which come with whether their text is the directive's. -/
def strictDirective (statements : List (Stmt × Bool × Nat)) : Option Nat :=
  ((statements.takeWhile fun (s, _) => isStringStatement s).find? fun (_, strict, _) =>
    strict).map fun (_, _, pos) => pos

/-- Notes that the text ends where a brace should close. -/
def noteMissingBrace : Reader Unit := do
  let got ← described
  note (.expected "'\x7d'" got) (← tokenStart)

/-- Is this the end of a body in braces? The end of the text in place of the brace is a fault. -/
def atClosingBrace : Reader Bool := do
  if ← isEof then
    noteMissingBrace
    return true
  else isMark "\x7d"

/-- Reads a statement of a body, with whether its first token is that of the strict directive, and
its place. -/
def readBodyStatement (parts : Parts) (atEnd : Reader Bool) :
    Reader (Option (Stmt × Bool × Nat)) := do
  if ← atEnd then return none
  let directive := isStrictDirective (← token)
  let pos ← tokenStart
  let statement ← parts.statement true
  return some (statement, directive, pos)

/-- Reads statements up to the end of their body. When the first one is the
strict directive, the others are strict. -/
def readStatements (parts : Parts) (allowDirectives : Bool) (atEnd : Reader Bool) :
    Reader (List Stmt × Option Nat) := do
  match ← readBodyStatement parts atEnd with
  | none => return ([], none)
  | some (first, directive, pos) =>
    let strict := allowDirectives && directive && isStringStatement first
    let others ← within (fun c => { c with strict := c.strict || strict })
      (many (readBodyStatement parts atEnd))
    let statements := (first, directive, pos) :: others
    return (statements.map (·.1), strictDirective statements)

/-- Reads a block with its braces; answers also with the place of a strict directive. -/
def readBlockWithDirective (parts : Parts) (allowDirectives : Bool) :
    Reader (List Stmt × Option Nat) := do
  expectMark "\x7b"
  let result ← within (fun c => { c with isTop := false })
    (readStatements parts allowDirectives atClosingBrace)
  unless ← isEof do advance
  return result

def readBlock (parts : Parts) : Reader (List Stmt) :=
  (·.1) <$> readBlockWithDirective parts false

/-- What sets one kind of function apart from another. -/
structure FunctionKind where
  isAsync : Bool := false
  isGenerator : Bool := false
  isArrow : Bool := false
  deriving Repr

/-- Parameters that are plain names. -/
def areSimpleParams (params : List Pattern) : Bool :=
  params.all fun p => match p with
    | .ident .. => true
    | _ => false

/-- Reads a body in the context of its function, with no labels of the code around it. -/
def withinBody {α : Type} (kind : FunctionKind) (body : Reader α) : Reader α := do
  let before ← get
  modify fun s => { s with labels := [], arrowStart := none }
  let change (c : Context) :=
    { c with
      inAsync := kind.isAsync
      inGenerator := kind.isGenerator
      inStaticBlock := false
      inFunction := true
      inOrdinaryFunction := c.inOrdinaryFunction || !kind.isArrow
      allowBreak := false
      allowContinue := false
      isTop := false }
  try within change body
  finally modify fun s => { s with labels := before.labels, arrowStart := before.arrowStart }

/-- Reads the body of a function between braces. -/
def readFunctionBody (parts : Parts) (kind : FunctionKind) (params : List Pattern) :
    Reader (List Stmt) :=
  withinBody kind do
    let allowIn := (← context).allowIn || !kind.isArrow
    let (body, directive) ← withIn allowIn (readBlockWithDirective parts (!kind.isArrow))
    match directive with
    | some pos => noteIf (!areSimpleParams params) .lateStrict pos
    | none => pure ()
    return body

/-- Reads one parameter; a rest parameter comes with its place. -/
def readParam (parts : Parts) : Reader (Pattern × Option Nat) := do
  let start ← here
  if ← eatMark "..." then
    let arg ← parts.pattern false
    if ← eatMark "=" then
      let value ← parts.assignment
      note .restWithValue arg.pos
      return (.rest start (.assign arg.pos arg value), some start)
    else return (.rest start arg, some start)
  else
    let target ← parts.pattern false
    if ← eatMark "=" then return (.assign start target (← parts.assignment), none)
    else return (target, none)

/-- Reads parameters up to a closing parenthesis; `rest` is the place of a rest parameter that has
been read. -/
def readParamsFrom (param : Reader (Pattern × Option Nat)) :
    Nat → Option Nat → Reader (List Pattern)
  | 0, _ => raiseEnd
  | bound + 1, rest => do
    if (← isEof) || (← isMark ")") then return []
    match rest with
    | some pos => note .restParamNotLast pos
    | none => pure ()
    let (first, restPos) ← param
    unless ← isMark ")" do
      expectMark ","
      if restPos.isSome then noteIf (← isMark ")") .commaAfterRest (← previousStart)
    return first :: (← readParamsFrom param bound (restPos.or rest))

def readParams (param : Reader (Pattern × Option Nat)) : Reader (List Pattern) := do
  readParamsFrom param (← get).bound none

/-- Reads parameters in parentheses and the body behind them. The parameters may be checked. -/
def readParamsAndBody (parts : Parts) (start : Nat) (kind : FunctionKind) (allowSuper : Bool)
    (check : List Pattern → Reader Unit) : Reader Function :=
  within (fun c => { c with allowSuper, inField := false }) do
    expectMark "("
    let params ← within (fun c =>
      { c with
        inParams := true
        inFunction := false
        inAsync := kind.isAsync
        inGenerator := kind.isGenerator }) do
      let params ← readParams (readParam parts)
      check params
      return params
    expectMark ")"
    let body ← readFunctionBody parts kind params
    return .mk start kind.isAsync kind.isGenerator params body

/-- A getter has no parameter. The fault is noted at the key. -/
def checkGetterParams (keyPos : Nat) (params : List Pattern) : Reader Unit :=
  noteIf (!params.isEmpty) .getterParams keyPos

/-- A setter has one parameter, which is no rest. -/
def checkSetterParams (keyPos : Nat) (params : List Pattern) : Reader Unit := do
  noteIf (params.length ≠ 1) .setterParams keyPos
  match params with
  | .rest pos _ :: _ => note .setterRest pos
  | _ => return

/-- Reads what follows `function`: a star, a name, and the rest of the function. The name of an
expression may be left out, and is read by the rules that hold inside. -/
def readFunction (parts : Parts) (start : Nat) (isAsync isExpr : Bool) :
    Reader (Option Ident × Function) := do
  let isGenerator ← eatMark "*"
  let inside (c : Context) :=
    { c with inAsync := isAsync, inGenerator := isGenerator, inField := false }
  let name ←
    if isExpr then
      within inside do
        if ← atName then return some (← readBindingName false).2 else return none
    else
      within (fun c => { c with inField := false }) do
        return some (← readBindingName false).2
  let function ← readParamsAndBody parts start { isAsync, isGenerator } false fun _ => return
  return (name, function)

/-- Is the token behind the current one `function`, on the same line? -/
def beforeFunction : Reader Bool := do
  let next ← peek
  return next.token.isWord "function" && !next.lineBreak

/-- Reads a function expression from its first word on. -/
def readFunctionExpr (parts : Parts) (isAsync : Bool) : Reader Expr := do
  let start ← here
  if isAsync then advance
  advance
  let (name, function) ← readFunction parts start isAsync true
  return .function start name function

/-- Reads a function declaration from its first word on. -/
def readFunctionDeclaration (parts : Parts) (isAsync : Bool) : Reader Stmt := do
  let start ← here
  if isAsync then advance
  advance
  let (name, function) ← readFunction parts start isAsync false
  return .function start (name.getD default) function

end BrowserScript.Script.Reader
