import BrowserScript.Script.Grammar.Parts

/-!
Patterns: what declarations and parameters bind, and what assignments assign to. A target of an
assignment or the head of an arrow function is first read as an expression and then taken as a
pattern.
-/

set_option autoImplicit false

namespace BrowserScript.Script

namespace Reader

/-- Reads a pattern with the value it falls back on. -/
def readElement (parts : Parts) : Reader Pattern := do
  let start ← here
  let target ← parts.pattern false
  if ← eatMark "=" then return .assign start target (← withIn true parts.assignment)
  else return target

/-- Reads an element of an array pattern and the comma behind it; a rest comes with its place. -/
def readArrayElement (parts : Parts) : Reader (Pattern × Option Nat) := do
  let start ← here
  let isRest ← eatMark "..."
  let item ← if isRest then .rest start <$> parts.pattern false else readElement parts
  unless ← isMark "]" do
    expectMark ","
    if isRest then noteIf (← isMark "]") .commaAfterRest (← previousStart)
  return (item, if isRest then some start else none)

/-- Reads elements of an array pattern; `rest` is the place of a rest that has been read, which no
element may follow. -/
def readArrayElements (parts : Parts) : Nat → Option Nat → Reader (List Pattern)
  | 0, _ => raiseEnd
  | bound + 1, rest => do
    if (← isEof) || (← isMark "]") then return []
    if ← eatMark "," then return .hole :: (← readArrayElements parts bound rest)
    match rest with
    | some pos => note .restNotLast pos
    | none => pure ()
    let (item, restPos) ← readArrayElement parts
    return item :: (← readArrayElements parts bound (restPos.or rest))

/-- Reads an array pattern, from its bracket on. -/
def readArrayPattern (parts : Parts) : Reader Pattern := do
  let start ← here
  advance
  let items ← readArrayElements parts (← get).bound none
  expectMark "]"
  return .array start items

/-- Reads a property of an object pattern. -/
def readPatternProperty (parts : Parts) : Reader PatternProperty := do
  let start ← here
  if ← eatMark "..." then return .rest start (← parts.pattern false)
  let key ← readKey parts
  if ← eatMark ":" then return .keyValue key (← readElement parts)
  match key with
  | .ident name =>
    if ← eatMark "=" then
      return .assign start { name } (some (← withIn true parts.assignment))
    else return .assign start { name } none
  | _ => raiseUnexpected "an identifier"

/-- A rest property must be the last one, and a name. -/
def checkRestProperties (trailingComma : Option Nat) : List PatternProperty → Reader Unit
  | [] => return
  | [.rest pos arg] =>
    match arg with
    | .ident .. =>
      match trailingComma with
      | some comma => note .commaAfterRest comma
      | none => return
    | _ => raise .restNotName pos
  | [_] => return
  | .rest pos _ :: rest => do
    note .restNotLast pos
    checkRestProperties trailingComma rest
  | _ :: rest => checkRestProperties trailingComma rest

/-- Reads the members between braces; answers with the place of a comma behind the last one. -/
def readBraced {α : Type} (member : Reader α) : Reader (List α × Option Nat) := do
  expectMark "\x7b"
  let members ← many do
    if ← eatMark "\x7d" then return none
    else
      let value ← member
      if ← isMark "\x7d" then return some (value, none)
      else
        expectMark ","
        if ← isMark "\x7d" then return some (value, some (← previousStart))
        else return some (value, none)
  return (members.map (·.1), members.getLast?.bind (·.2))

def readObjectPattern (parts : Parts) : Reader Pattern := do
  let start ← here
  let (properties, trailingComma) ← readBraced (readPatternProperty parts)
  checkRestProperties trailingComma properties
  return .object start properties

/-- Reads a binding pattern. -/
def readPattern (parts : Parts) (refuseLet : Bool) : Reader Pattern := do
  demandToken
  match ← token with
  | .word _ =>
    let (pos, id) ← readBindingName refuseLet
    return .ident pos id
  | .mark "[" => readArrayPattern parts
  | .mark "\x7b" => readObjectPattern parts
  | _ => raiseUnexpected "yield, an identifier, [ or \x7b"

end Reader

/-- Can an expression be assigned to? -/
def Expr.isSimpleTarget (strict : Bool) : Expr → Bool
  | .ident _ id => !(strict && Reader.isEvalOrArguments id.name)
  | .paren _ inner => inner.isSimpleTarget strict
  | .member .. | .index .. | .privateMember .. | .invalid .. => true
  | _ => false

namespace Reader

/-- Notes a target that cannot be assigned to. -/
def checkTarget (e : Expr) : Reader Unit := do
  noteIf (!e.isSimpleTarget (← context).strict) .notAssignable e.pos

/-- Why an expression is taken as a pattern: as the target of an assignment or a part of one, or
as a parameter or a part of one. -/
inductive PatternRole where
  | target
  | targetPart
  | param
  | paramPart
  deriving DecidableEq, Repr

def PatternRole.part : PatternRole → PatternRole
  | .target | .targetPart => .targetPart
  | .param | .paramPart => .paramPart

def noteAsPattern (e : Expr) : Reader Pattern := do
  note .notPattern e.pos
  return .invalid e.pos

def isAssignExpr : Expr → Bool
  | .assign .. => true
  | _ => false

/-- Expressions that are taken as a part of a target whole. -/
def isWholeTarget : Expr → Bool
  | .member .. | .index .. | .privateMember .. | .call .. | .newCall .. | .lit .. | .ident ..
  | .function .. | .classExpr .. | .paren .. | .template .. => true
  | _ => false

def asWhole : Expr → Pattern
  | .ident pos id => .ident pos id
  | e => .expr e

/-- The number of holes at the end of a list. -/
def trailingHoles (items : List Expr) : Nat :=
  (items.reverse.takeWhile fun e => match e with | .hole => true | _ => false).length

/-- Takes the elements of an array as patterns; only the last one may be a rest. -/
def itemsAsPatterns (convert : Expr → Reader Pattern) (restAllowed : Bool) (comma : Option Nat) :
    List Expr → Reader (List Pattern)
  | [] => return []
  | .hole :: rest => do return .hole :: (← itemsAsPatterns convert restAllowed comma rest)
  | .spread pos value :: rest => do
    if restAllowed && rest.isEmpty then
      noteIf (isAssignExpr value) .restWithValue pos
      match comma with
      | some comma => note .commaAfterRest comma
      | none => pure ()
      return [.rest pos (← convert value)]
    else
      note .restNotLast pos
      itemsAsPatterns convert restAllowed comma rest
  | e :: rest => do
    let pattern ← convert e
    return pattern :: (← itemsAsPatterns convert restAllowed comma rest)

/-- Takes a property of an object as a property of a pattern. -/
def propertyAsPattern (convert : Expr → Reader Pattern) (role : PatternRole)
    (isLast : Bool) (comma : Option Nat) : Property → Reader PatternProperty
  | .shorthand pos id => return .assign pos id none
  | .keyValue _ key value => do return .keyValue key (← convert value)
  | .initialized pos id value => return .assign pos id (some value)
  | .method pos .. => raise .notPattern pos
  | .spread pos value => do
    if !isLast then note .restNotLast pos
    else
      match comma with
      | some comma => note .commaAfterRest comma
      | none => pure ()
    let arg ←
      if role.part = .paramPart then
        match value with
        | .ident namePos id => pure (.ident namePos id)
        | _ => do
          note .restNotName pos
          pure (.invalid pos)
      else convert value
    match arg with
    | .assign .. => note .restWithValue pos
    | _ => pure ()
    return .rest pos arg

def propertiesAsPatterns (convert : Expr → Reader Pattern) (role : PatternRole)
    (comma : Option Nat) : List Property → Reader (List PatternProperty)
  | [] => return []
  | p :: rest => do
    let first ← propertyAsPattern convert role rest.isEmpty comma p
    return first :: (← propertiesAsPatterns convert role comma rest)

/-- Takes an expression apart as a pattern. -/
def partsAsPattern (convert : Expr → Reader Pattern) (role : PatternRole) :
    Expr → Reader Pattern
  | .assign pos .assign target value => return .assign pos target value
  | .object pos properties => do
    let comma := (← get).trailingCommas.lookup pos
    return .object pos (← propertiesAsPatterns convert role comma properties)
  | .ident pos id => return .ident pos id
  | .array pos items => do
    let holes := trailingHoles items
    let comma := (← get).trailingCommas.lookup pos
    let kept := items.take (items.length - holes)
    return .array pos (← itemsAsPatterns convert (holes = 0) comma kept)
  | .invalid pos => return .invalid pos
  | e => noteAsPattern e

/-- Takes an expression as a pattern; the number bounds the nesting. -/
def asPattern : Nat → PatternRole → Expr → Reader Pattern
  | 0, _, _ => raiseEnd
  | depth + 1, role, e => do
    let convert := asPattern depth role.part
    match role, e with
    | .target, .object .. | .target, .array .. => partsAsPattern convert role e
    | .target, _ =>
      checkTarget e
      return asWhole e
    | .targetPart, _ =>
      if isWholeTarget e then
        noteIf (!e.isSimpleTarget (← context).strict) .cannotAssign e.pos
        return asWhole e
      else partsAsPattern convert role e
    | _, _ => partsAsPattern convert role e

def takeAsPattern (role : PatternRole) (e : Expr) : Reader Pattern := do
  asPattern (← get).bound role e

mutual

/-- Notes the names `eval` and `arguments` among what a parameter binds. -/
def checkStrictParam : Pattern → Reader Unit
  | .ident pos id => noteIf (isEvalOrArguments id.name) .evalOrArguments pos
  | .array _ items => checkStrictParams items
  | .object _ properties => checkStrictProperties properties
  | .rest _ arg => checkStrictParam arg
  | .assign _ left _ => checkStrictParam left
  | _ => return

def checkStrictParams : List Pattern → Reader Unit
  | [] => return
  | p :: rest => do
    checkStrictParam p
    checkStrictParams rest

def checkStrictProperties : List PatternProperty → Reader Unit
  | [] => return
  | .keyValue _ value :: rest => do
    checkStrictParam value
    checkStrictProperties rest
  | .assign pos id _ :: rest => do
    noteIf (isEvalOrArguments id.name) .evalOrArguments pos
    checkStrictProperties rest
  | .rest _ arg :: rest => do
    checkStrictParam arg
    checkStrictProperties rest

end

/-- Takes what stands in parentheses as patterns. -/
def itemsAsParams (comma : Option Nat) : List Expr → Reader (List Pattern)
  | [] => return []
  | .spread pos value :: rest => do
    if rest.isEmpty then
      noteIf (isAssignExpr value) .restWithValue pos
      match comma with
      | some comma => note .commaAfterRest comma
      | none => pure ()
      return [.rest pos (← takeAsPattern .param value)]
    else
      note .restParamNotLast pos
      itemsAsParams comma rest
  | e :: rest => do
    let pattern ← takeAsPattern .param e
    return pattern :: (← itemsAsParams comma rest)

/-- Takes what stands in parentheses as the parameters of an arrow function. -/
def takeAsParams (comma : Option Nat) (items : List Expr) : Reader (List Pattern) := do
  let params ← itemsAsParams comma items
  if (← context).strict then checkStrictParams params
  return params

end Reader

end BrowserScript.Script
