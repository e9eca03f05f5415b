import BrowserScript.Script.Grammar.Function

/-!
Array and object literals. Some of them are only patterns: the places of the commas behind their
last members are kept, because a pattern refuses such a comma behind a rest.
-/

set_option autoImplicit false

namespace BrowserScript.Script.Reader

/-- Keeps the place of the comma behind the last member of a literal. -/
def keepTrailingComma (start : Nat) (comma : Option Nat) : Reader Unit :=
  match comma with
  | some pos => modify fun s => { s with trailingCommas := (start, pos) :: s.trailingCommas }
  | none => return

/-- Reads an expression, or a spread. -/
def readItem (parts : Parts) : Reader Expr := do
  let start ← here
  if ← eatMark "..." then return .spread start (← withIn true parts.assignment)
  else withIn true parts.assignment

/-- Reads an array literal from its bracket on. -/
def readArray (parts : Parts) : Reader Expr := do
  let start ← here
  expectMark "["
  let items ← many do
    if (← isEof) || (← isMark "]") then return none
    else if ← eatMark "," then return some Expr.hole
    else
      let item ← readItem parts
      unless ← isMark "]" do
        expectMark ","
        if ← isMark "]" then keepTrailingComma start (some (← previousStart))
      return some item
  expectMark "]"
  return .array start items

/-- Reads the rest of a method behind its key. -/
def readMethodProperty (parts : Parts) (start : Nat) (kind : MethodKind) (function : FunctionKind)
    (key : Key) (check : List Pattern → Reader Unit) : Reader Property := do
  let function ← readParamsAndBody parts start function true check
  return .method start kind key function

/-- Reads a property that starts with `get`, `set` or `async`, behind that word. -/
def readWordProperty (parts : Parts) (start : Nat) (word : String) : Reader Property := do
  let isGenerator ← if word = "async" then eatMark "*" else pure false
  let keyPos ← here
  let key ← readKey parts
  if word = "get" then
    readMethodProperty parts start .getter {} key (checkGetterParams keyPos)
  else if word = "set" then
    readMethodProperty parts start .setter {} key (checkSetterParams keyPos)
  else
    readMethodProperty parts start .method { isAsync := true, isGenerator } key fun _ => return

/-- Reads a property that starts with a name, behind that name. -/
def readNamedProperty (parts : Parts) (start : Nat) (name : String) : Reader Property := do
  if ← eatMark "?" then note .optionalMember (← previousStart)
  if ← eatMark "=" then return .initialized start { name } (← withIn true parts.assignment)
  else if (← isMark ",") || (← isMark "\x7d") then return .shorthand start { name }
  else if name = "get" || name = "set" || name = "async" then readWordProperty parts start name
  else raiseUnexpected "... , *,  (, [, :, , ?, = or an identifier"

/-- Reads a property of an object literal. -/
def readProperty (parts : Parts) : Reader Property := do
  let start ← here
  if ← eatMark "..." then return .spread start (← withIn true parts.assignment)
  if ← eatMark "*" then
    let key ← readKey parts
    return ← readMethodProperty parts start .method { isGenerator := true } key fun _ => return
  let key ← readKey parts
  if ← eatMark ":" then return .keyValue start key (← withIn true parts.assignment)
  if ← isMark "(" then readMethodProperty parts start .method {} key fun _ => return
  else
    match key with
    | .ident name => readNamedProperty parts start name
    | _ => raiseUnexpected "identifier"

/-- Reads an object literal from its brace on. -/
def readObject (parts : Parts) : Reader Expr := do
  let start ← here
  let (properties, comma) ← readBraced (readProperty parts)
  keepTrailingComma start comma
  return .object start properties

end BrowserScript.Script.Reader
