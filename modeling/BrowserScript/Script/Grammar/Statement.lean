import BrowserScript.Script.Grammar.Expression

/-!
Statements and declarations.
-/

set_option autoImplicit false

namespace BrowserScript.Script.Reader

/-- Reads an expression in which `in` is an operator. -/
def readFullExpression (parts : Parts) : Reader Expr := withIn true (readExpression parts)

/-- Reads an expression in parentheses, as the head of a statement. -/
def readHead (parts : Parts) : Reader Expr := do
  expectMark "("
  let e ← readFullExpression parts
  expectMark ")"
  return e

/-- Reads the body of a loop. -/
def readLoopBody (parts : Parts) : Reader Stmt :=
  within (fun c => { c with allowBreak := true, allowContinue := true })
    (parts.statement false)

/-- Does this token, behind `let`, make it the start of a declaration? -/
def followsLet : Token → Bool
  | .word name => name = "enum" || !reservedWords.contains name
  | .mark text => text = "[" || text = "\x7b"
  | _ => false

/-- Reads the value of a declarator, if it has one. -/
def readDeclaratorValue (parts : Parts) (start : Nat) (kind : VarKind) (inLoop : Bool)
    (target : Pattern) : Reader (Option Expr) := do
  if inLoop && ((← isWord "in") || (← isWord "of")) then return none
  else if ← eatMark "=" then return some (← parts.assignment)
  else if kind = .const && !inLoop then
    note .constWithoutValue start
    return none
  else
    match target with
    | .ident .. => return none
    | _ => raise .patternWithoutValue start

def readDeclarator (parts : Parts) (kind : VarKind) (inLoop : Bool) : Reader Declarator := do
  let start ← here
  let target ← parts.pattern (kind ≠ .var)
  let value ← readDeclaratorValue parts start kind inLoop target
  return .mk start target value

/-- Reads declarators; a comma must not be the last of them. -/
def readDeclarators (parts : Parts) (kind : VarKind) (inLoop : Bool) (wordEnd : Nat) :
    Nat → Reader (List Declarator)
  | 0 => raiseEnd
  | bound + 1 => do
    if (← isMark ";") || (← isEof) then
      let s ← get
      note .trailingComma (if s.previousEnd = wordEnd then wordEnd else s.previousStart)
      return []
    let first ← readDeclarator parts kind inLoop
    if ← eatMark "," then
      return first :: (← readDeclarators parts kind inLoop wordEnd bound)
    else return [first]

/-- Reads a part whose faults do not matter. -/
def attempt {α : Type} (part : Reader α) : Reader Unit :=
  try
    let _ ← part
    return
  catch _ => return

/-- Skips tokens up to the end of a statement, or up to text that is no token. -/
def skipTokens : Nat → Reader Unit
  | 0 => return
  | bound + 1 => do
    unless ← eatSemicolon do
      advance
      match ← token with
      | .stray _ => return
      | _ => skipTokens bound

/-- Skips what stands between a declaration and its end. -/
def skipStatement (parts : Parts) : Reader Unit := do
  attempt (readExpression parts)
  skipTokens (← get).bound

/-- The kind of declaration that a word starts. -/
def varKindOf : Token → VarKind
  | .word "const" => .const
  | .word "let" => .letVar
  | _ => .var

/-- Reads a declaration of variables from its first word on. The declarations in the head of a
loop end where the head goes on. -/
def readDeclaration (parts : Parts) (inLoop : Bool) : Reader Stmt := do
  let start ← here
  let kind := varKindOf (← token)
  advance
  let s ← get
  let change (c : Context) : Context :=
    if kind = .var && inLoop then c else { c with allowIn := true }
  let declarators ← within change (readDeclarators parts kind inLoop s.previousEnd s.bound)
  unless inLoop do
    unless ← eatSemicolon do
      note .semicolonExpected (← tokenStart)
      skipStatement parts
  return .declaration start kind declarators

/-- What the head of a loop holds. -/
inductive LoopHead where
  | counted (init : Stmt) (test update : Option Expr)
  | overKeys (kind : Option VarKind) (target : Pattern) (init : Option Expr) (object : Expr)
  | overItems (kind : Option VarKind) (target : Pattern) (iterable : Expr)

/-- Reads the rest of a head with three parts, behind the first semicolon; the second one may be
left out. -/
def readCountedHead (parts : Parts) (init : Stmt) : Reader LoopHead := do
  let test ←
    if ← eatMark ";" then pure none
    else do
      let test ← readFullExpression parts
      let _ ← eatMark ";"
      pure (some test)
  let update ← if ← isMark ")" then pure none else some <$> readFullExpression parts
  return .counted init test update

/-- Reads the rest of a head that goes through something, from the word `in` or `of` on. -/
def readEachHead (parts : Parts) (kind : Option VarKind) (target : Pattern)
    (init : Option Expr) : Reader LoopHead := do
  if ← eatWord "of" then return .overItems kind target (← withIn true parts.assignment)
  else
    advance
    return .overKeys kind target init (← readFullExpression parts)

/-- Notes what a declaration in the head of a loop that goes through something must not have. -/
def checkLoopDeclarators (isIn : Bool) : List Declarator → Reader Unit
  | [.mk _ target value] => do
    noteIf (((← context).strict || !isIn) && value.isSome) .loopValue target.pos
  | declarators =>
    for d in declarators.drop 1 do
      let .mk _ target _ := d
      note .oneBindingExpected target.pos

/-- Does a declaration start here? -/
def atDeclaration : Reader Bool := do
  if (← isWord "const") || (← isWord "var") then return true
  else if ← isWord "let" then return followsLet (← peek).token
  else return false

/-- Reads a head that starts with a declaration. -/
def readDeclarationHead (parts : Parts) : Reader LoopHead := do
  let declaration ← readDeclaration parts true
  if (← isWord "of") || (← isWord "in") then
    match declaration with
    | .declaration _ kind declarators =>
      checkLoopDeclarators (← isWord "in") declarators
      match declarators with
      | .mk _ target value :: _ => readEachHead parts (some kind) target value
      | [] => raiseHere .expressionExpected
    | _ => raiseHere .expressionExpected
  else
    expectMark ";"
    readCountedHead parts declaration

/-- Reads what stands in the parentheses of a loop. -/
def readLoopHead (parts : Parts) : Reader LoopHead := do
  if ← atDeclaration then readDeclarationHead parts
  else if ← eatMark ";" then readCountedHead parts (.empty (← previousStart))
  else
    let e ← withIn false (readExpression parts)
    if (← isWord "of") || (← isWord "in") then
      readEachHead parts none (← takeAsPattern .target e) none
    else
      expectMark ";"
      readCountedHead parts (.expr e.pos e)

/-- Reads a `for` loop behind its first word. -/
def readFor (parts : Parts) (start : Nat) : Reader Stmt := do
  let awaitPos ← here
  let isAwait ← eatWord "await"
  expectMark "("
  let head ← within (fun c => { c with inLoopHead := true, inAwaitLoopHead := isAwait })
    (readLoopHead parts)
  expectMark ")"
  let body ← readLoopBody parts
  match head with
  | .overItems kind target iterable => return .forOf start isAwait kind target iterable body
  | .overKeys kind target init object =>
    if isAwait then raise .awaitLoop awaitPos
    return .forIn start kind target init object body
  | .counted init test update =>
    if isAwait then raise .awaitLoop awaitPos
    return .forLoop start init test update body

/-- Reads `break` or `continue` behind that word. -/
def readJump (start : Nat) (isBreak : Bool) : Reader Stmt := do
  let label ←
    if ← eatSemicolon then pure none
    else do
      let name ← readLabel
      expectSemicolon
      pure (some name)
  let s ← get
  let isUnknown := label.any fun name => !s.labels.contains name
  if isBreak then
    if isUnknown then note .breakLabel start
    else noteIf (!s.context.allowBreak) .breakOutside start
    return .breakTo start label
  else
    if !s.context.allowContinue then note .continueOutside start
    else noteIf isUnknown .continueLabel start
    return .continueTo start label
where
  readLabel : Reader String := do
    let c ← context
    return (← readIdent (!c.inGenerator) (!c.inAsync)).2

/-- Reads `catch` with its block, if it is there. -/
def readCatch (parts : Parts) : Reader (Option Nat × Option Pattern × List Stmt) := do
  let start ← here
  if ← eatWord "catch" then
    let param ←
      if ← eatMark "(" then do
        let param ← parts.pattern false
        expectMark ")"
        pure (some param)
      else pure none
    return (some start, param, ← readBlock parts)
  else return (none, none, [])

/-- Reads `finally` with its block, if it is there. -/
def readFinally (parts : Parts) : Reader (Option (List Stmt)) := do
  if ← eatWord "finally" then return some (← readBlock parts) else return none

def readTry (parts : Parts) (start : Nat) : Reader Stmt := do
  let block ← readBlock parts
  let handlerPos ← here
  let (catchPos, param, handler) ← readCatch parts
  let finalizer ← readFinally parts
  noteIf (catchPos.isNone && finalizer.isNone) .semicolonExpected handlerPos
  return .tryBlock start block catchPos param handler finalizer.isSome (finalizer.getD [])

/-- Reads `catch` or `finally` without a `try`. -/
def readStrayHandler (parts : Parts) (start : Nat) : Reader Stmt := do
  note .semicolonExpected start
  attempt (readCatch parts)
  attempt (readFinally parts)
  return .expr start (.invalid start)

/-- Reads the cases of a `switch` statement. -/
def readCases (parts : Parts) : Nat → Bool → Reader (List Case)
  | 0, _ => raiseEnd
  | bound + 1, hasDefault => do
    let isCase ← eatWord "case"
    let isDefault ← if isCase then pure false else eatWord "default"
    if !isCase && !isDefault then return []
    if isDefault && hasDefault then raiseHere .multipleDefaults
    let test ← if isCase then some <$> readFullExpression parts else pure none
    expectMark ":"
    let body ← many do
      if (← isEof) || (← isWord "case") || (← isWord "default") || (← isMark "\x7d") then
        return none
      else return some (← parts.statement true)
    return .mk test body :: (← readCases parts bound (hasDefault || isDefault))

def readSwitch (parts : Parts) (start : Nat) : Reader Stmt := do
  let discriminant ← readHead parts
  expectMark "\x7b"
  let cases ← within (fun c => { c with allowBreak := true }) do
    readCases parts (← get).bound false
  expectMark "\x7d"
  return .switch start discriminant cases

def readIf (parts : Parts) (start : Nat) : Reader Stmt := do
  let test ← readHead parts
  let yes ← parts.statement false
  let no ← if ← eatWord "else" then some <$> parts.statement false else pure none
  return .ifElse start test yes no

def readDo (parts : Parts) (start : Nat) : Reader Stmt := do
  let body ← readLoopBody parts
  expectWord "while"
  let test ← readHead parts
  let _ ← eatSemicolon
  return .doLoop start body test

def readReturn (parts : Parts) (start : Nat) : Reader Stmt :=
  try
    let arg ← if ← atStatementEnd then pure none else some <$> readFullExpression parts
    expectSemicolon
    return .ret start arg
  finally do noteIf (!(← context).inFunction) .returnOutside start

def readThrow (parts : Parts) (start : Nat) : Reader Stmt := do
  if ← lineBreak then raiseHere .lineBreakAfterThrow
  let arg ← readFullExpression parts
  expectSemicolon
  return .throwValue start arg

def readWith (parts : Parts) (start : Nat) : Reader Stmt := do
  let object ← readHead parts
  let body ← within (fun c => { c with inFunction := true }) (parts.statement false)
  return .withObject start object body

/-- Reads the statement behind a label and its colon. -/
def readLabeled (parts : Parts) (pos : Nat) (label : String) : Reader Stmt :=
  within (fun c => { c with allowBreak := true }) do
    let isKnown := (← get).labels.contains label
    modify fun s => { s with labels := label :: s.labels }
    let body ←
      if ← isWord "function" then do
        let f ← readFunctionDeclaration parts false
        match f with
        | .function functionPos _ (.mk _ isAsync isGenerator _ _) =>
          noteIf (← context).strict .strictLabeledFunction functionPos
          noteIf (isAsync || isGenerator) .labeledGenerator functionPos
        | _ => pure ()
        pure f
      else parts.statement false
    noteIf isKnown (.duplicateLabel label) pos
    modify fun s => { s with labels := s.labels.erase label }
    return .labeled pos label body

/-- Ends a statement that is an expression. -/
def endExpressionStatement (parts : Parts) (start : Nat) (e : Expr) : Reader Stmt := do
  if ← eatSemicolon then return .expr start e
  else if ← atOperatorMark then
    note .semicolonExpected (← tokenStart)
    return .expr start (← climbFrom parts e)
  else raiseHere .statementEndExpected

/-- Reads a statement that starts with an expression. -/
def readExpressionStatement (parts : Parts) (start : Nat) : Reader Stmt := do
  let e ← readFullExpression parts
  match e with
  | .ident pos id =>
    if ← eatMark ":" then readLabeled parts pos id.name
    else endExpressionStatement parts start e
  | _ => endExpressionStatement parts start e

/-- Reads a statement that starts with `import` or `export`, which only modules have; but an
expression may start with `import`. -/
def readImportStatement (parts : Parts) (start : Nat) : Reader Stmt := do
  let next := (← peek).token
  if (← isWord "import") && (next.isMark "(" || next.isMark ".") then
    let e ← readExpression parts
    let _ ← eatSemicolon
    return .expr start e
  else raiseHere .importOrExport

/-- Does a name follow the current word on its line? -/
def beforeName : Reader Bool := do
  let next ← peek
  match next.token with
  | .word name => return !next.lineBreak && !(← context).reserves name
  | _ => return false

/-- Reads a declaration of resources from the word `using` on. Scripts have no such declarations. -/
def readResources (parts : Parts) (start : Nat) : Reader Stmt := do
  advance
  let declarators ← readDeclarators parts .var false 0 (← get).bound
  note .resourceDeclaration start
  return .declaration start .var declarators

/-- Reads a statement that starts with `await`. -/
def readAwaitStatement (parts : Parts) (start : Nat) : Reader Stmt := do
  noteIf (← context).isTop .topLevelAwait start
  if (← peek).token.isWord "using" then
    advance
    if ← beforeName then readResources parts start
    else
      let e ← readAwaitRest parts start true
      let e ← withIn true (climbFrom parts e)
      let _ ← eatSemicolon
      return .expr start e
  else readExpressionStatement parts start

/-- Reads a block, an empty statement, or an expression, from its first token on. -/
def readPlainStatement (parts : Parts) (start : Nat) : Reader Stmt := do
  match ← token with
  | .mark "\x7b" => return .block start (← readBlock parts)
  | .mark ";" =>
    advance
    return .empty start
  | _ => readExpressionStatement parts start

/-- Reads a statement that starts with a word which may start a declaration. -/
def readDeclarationStatement (parts : Parts) (allowDeclaration : Bool) (start : Nat)
    (word : String) : Reader Stmt := do
  match word with
  | "function" =>
    noteIf (!allowDeclaration) .declarationNotAllowed start
    readFunctionDeclaration parts false
  | "class" =>
    noteIf (!allowDeclaration) .declarationNotAllowed start
    readClassDeclaration parts
  | "var" => readDeclaration parts false
  | "const" =>
    if allowDeclaration then readDeclaration parts false else readExpressionStatement parts start
  | "let" =>
    if !allowDeclaration then readExpressionStatement parts start
    else if followsLet (← peek).token then readDeclaration parts false
    else readExpressionStatement parts start
  | "async" =>
    if ← beforeFunction then readFunctionDeclaration parts true
    else readExpressionStatement parts start
  | "using" =>
    if !allowDeclaration then readExpressionStatement parts start
    else if ← beforeName then readResources parts start
    else readExpressionStatement parts start
  | "await" =>
    if allowDeclaration || (← context).isTop then readAwaitStatement parts start
    else readExpressionStatement parts start
  | _ => readExpressionStatement parts start

/-- Reads a statement that starts with a word. -/
def readWordStatement (parts : Parts) (allowDeclaration : Bool) (start : Nat)
    (word : String) : Reader Stmt := do
  match word with
  | "import" | "export" => readImportStatement parts start
  | "break" =>
    advance
    readJump start true
  | "continue" =>
    advance
    readJump start false
  | "debugger" =>
    advance
    expectSemicolon
    return .debugger start
  | "do" =>
    advance
    readDo parts start
  | "for" =>
    advance
    readFor parts start
  | "if" =>
    advance
    readIf parts start
  | "return" =>
    advance
    readReturn parts start
  | "switch" =>
    advance
    readSwitch parts start
  | "throw" =>
    advance
    readThrow parts start
  | "try" =>
    advance
    readTry parts start
  | "catch" | "finally" => readStrayHandler parts start
  | "while" =>
    advance
    let test ← readHead parts
    return .whileLoop start test (← readLoopBody parts)
  | "with" =>
    noteIf (← context).strict .strictWith start
    advance
    readWith parts start
  | _ => readDeclarationStatement parts allowDeclaration start word

/-- Reads a statement. -/
def readStatement (parts : Parts) (allowDeclaration : Bool) : Reader Stmt := do
  demandToken
  let start ← here
  match ← token with
  | .word word => readWordStatement parts allowDeclaration start word
  | _ => readPlainStatement parts start

end BrowserScript.Script.Reader
