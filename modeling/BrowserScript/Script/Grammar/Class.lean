import BrowserScript.Script.Grammar.Function

/-!
Classes.
-/

set_option autoImplicit false

namespace BrowserScript.Script.Reader

/-- Reads the key of a member, which may be private. -/
def readMemberKey (parts : Parts) : Reader Key := do
  let start ← here
  if ← isMark "#" then
    let name ← readPrivateName
    noteIf (name = "constructor") .privateConstructor start
    return .privateName name
  else readKey parts

def isConstructorKey : Key → Bool
  | .ident name | .string name => name = "constructor"
  | _ => false

/-- Does the current token show that the key before it belongs to a field? A field without a value
may end where a statement may. -/
def atFieldEnd (lineBreakEnds : Bool) : Reader Bool := do
  if (← isMark "=") || (← isMark "\x7d") then return true
  else if lineBreakEnds then atStatementEnd
  else isMark ";"

/-- Reads a field behind its key. -/
def readField (parts : Parts) (start keyPos : Nat) (isStatic : Bool) (key : Key) :
    Reader Member := do
  if isConstructorKey key then raise .fieldConstructor keyPos
  within (fun c => { c with allowIn := true, inField := true }) do
    let value ← if ← eatMark "=" then some <$> parts.assignment else pure none
    unless ← eatSemicolon do note .semicolonExpected (← tokenStart)
    return .field start isStatic key value

/-- Reads a method behind its key. -/
def readMethod (parts : Parts) (start : Nat) (isStatic : Bool) (kind : MethodKind)
    (function : FunctionKind) (key : Key) (check : List Pattern → Reader Unit) :
    Reader Member := do
  let function ← readParamsAndBody parts start function true check
  return .method start isStatic kind key function

/-- Reads one parameter of a constructor, where a rest parameter has no value. -/
def readConstructorParam (parts : Parts) : Reader (Pattern × Option Nat) := do
  let start ← here
  if ← eatMark "..." then return (.rest start (← parts.pattern false), some start)
  else readParam parts

/-- Reads a constructor behind its key. -/
def readConstructor (parts : Parts) (start : Nat) (key : Key) : Reader Member := do
  expectMark "("
  let params ← readParams (readConstructorParam parts)
  expectMark ")"
  let body ← readFunctionBody parts {} params
  return .method start false .constructor key (.mk start false false params body)

/-- Reads a getter or a setter behind its first word. -/
def readAccessor (parts : Parts) (start wordPos : Nat) (isStatic isGetter : Bool) :
    Reader Member := do
  let key ← readMemberKey parts
  noteIf (isConstructorKey key) .accessorConstructor wordPos
  if isGetter then readMethod parts start isStatic .getter {} key (checkGetterParams wordPos)
  else readMethod parts start isStatic .setter {} key (checkSetterParams wordPos)

/-- Reads an asynchronous method behind its first word. -/
def readAsyncMethod (parts : Parts) (start : Nat) (isStatic : Bool) : Reader Member := do
  let isGenerator ← eatMark "*"
  let keyPos ← here
  let key ← readMemberKey parts
  if isConstructorKey key then raise .asyncConstructor keyPos
  readMethod parts start isStatic .method { isAsync := true, isGenerator } key fun _ => return

/-- Reads a generator behind its star. -/
def readGeneratorMethod (parts : Parts) (start : Nat) (isStatic : Bool) : Reader Member := do
  let key ← readMemberKey parts
  noteIf (isConstructorKey key) .generatorConstructor start
  readMethod parts start isStatic .method { isGenerator := true } key fun _ => return

/-- Reads a member that starts with a key, or with a word that is one or says what follows. -/
def readKeyedMember (parts : Parts) (start : Nat) (isStatic : Bool) : Reader Member := do
  let keyPos ← here
  let key ← readMemberKey parts
  if ← isMark "(" then
    if isConstructorKey key && !isStatic then readConstructor parts start key
    else readMethod parts start isStatic .method {} key fun _ => return
  else
    let starOnNextLine := (← lineBreak) && (← isMark "*")
    let accessor : Option Bool ←
      match key with
      | .ident name =>
        if (name = "get" || name = "set") && !(← atFieldEnd false) && !starOnNextLine then
          pure (some (name = "get" : Bool))
        else pure none
      | _ => pure none
    match accessor with
    | some isGetter => readAccessor parts start keyPos isStatic isGetter
    | none =>
      if ← atFieldEnd true then readField parts start keyPos isStatic key
      else
        match key with
        | .ident "async" => readAsyncMethod parts start isStatic
        | _ => raiseUnexpected "* for generator, private key, identifier or async"

/-- Reads a member of a class; `static` may also be its key. -/
def readMember (parts : Parts) : Reader Member := do
  let start ← here
  if ← eatMark ";" then return .empty
  let isStatic ← eatWord "static"
  if isStatic && (← isMark "(") then
    readMethod parts start false .method {} (.ident "static") fun _ => return
  else if isStatic && (← atFieldEnd false) then
    readField parts start start false (.ident "static")
  else if isStatic && (← isMark "\x7b") then
    let body ← within (fun c => { c with inStaticBlock := true, inField := true })
      (readBlock parts)
    return .staticBlock start body
  else if ← eatMark "*" then readGeneratorMethod parts start isStatic
  else readKeyedMember parts start isStatic

def isConstructor : Member → Bool
  | .method _ _ .constructor _ _ => true
  | _ => false

def memberPos : Member → Nat
  | .method pos .. | .field pos .. | .staticBlock pos _ => pos
  | .empty => 0

/-- Reads the members up to a closing brace, or up to the end of the text. Each constructor that
follows another is a fault. -/
def readMembers (parts : Parts) : Nat → Bool → Reader (List Member)
  | 0, _ => raiseEnd
  | bound + 1, hasConstructor => do
    if (← isEof) || (← isMark "\x7d") then return []
    let member ← within (fun c => { c with allowSuper := true }) (readMember parts)
    noteIf (hasConstructor && isConstructor member) .duplicateConstructor (memberPos member)
    return member :: (← readMembers parts bound (hasConstructor || isConstructor member))

/-- What follows the word `class`. -/
structure ClassParts where
  name : Option Ident
  superclass : Option Expr
  members : List Member

/-- Reads a class from its first word on. All its code is strict. -/
def readClass (parts : Parts) (needsName : Bool) : Reader ClassParts :=
  within (fun c => { c with strict := true }) do
    advance
    let name ←
      if needsName || (← atName) then some <$> (·.2) <$> readBindingName true else pure none
    let superclass ← if ← eatWord "extends" then some <$> parts.leftHandSide else pure none
    if ← eatWord "extends" then
      note .secondExtends (← previousStart)
      let _ ← parts.leftHandSide
    expectMark "\x7b"
    let members ← within (fun c => { c with inClass := true })
      (readMembers parts (← get).bound false)
    if ← isEof then noteMissingBrace else expectMark "\x7d"
    return { name, superclass, members }

def readClassExpr (parts : Parts) : Reader Expr := do
  let start ← here
  let c ← readClass parts false
  return .classExpr start c.name c.superclass c.members

def readClassDeclaration (parts : Parts) : Reader Stmt := do
  let start ← here
  let c ← readClass parts true
  return .classDecl start (c.name.getD default) c.superclass c.members

end BrowserScript.Script.Reader
