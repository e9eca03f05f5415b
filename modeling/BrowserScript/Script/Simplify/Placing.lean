import BrowserScript.Script.Simplify.Desk

/-!
What becomes of a declaration once its value is simple: nothing is left of it if the name is not
used or if its value takes the place of its uses, an object that is only taken apart becomes
variables for its properties, and otherwise it stays.
-/

set_option autoImplicit false

namespace BrowserScript.Script

/-- What is left of a declarator, in order. -/
inductive Remainder where
  | declarator (d : Declarator)
  | effect (value : Expr)

namespace Desk

/-- Does an expression name anything? Names that keep their spelling may mean something else at
another place. -/
def namesSomething (e : Expr) : Bool := Search.findsInExpr { ident := fun _ => true } e

/-- Puts the value of a name on the desk, if it may stand in the place of the uses. -/
def takeUp (id : Ident) (value : Expr) : Work Bool := do
  let d ← get
  let u := d.table.of id
  if (d.isVeiled && namesSomething value) || !u.isConstant || u.isReadBeforeDeclared || u.isReadElsewhere || u.isLoopName || u.isParam ||
      u.isCatchParam then
    return false
  else if value.isSmall u.reads then
    set { d with values := d.values.insert id value }
    return true
  else match value with
    | .ident _ other =>
      if other ≠ id && d.table.isSteady other && (u.isLocal || u.reads = 1) then
        set { d with values := d.values.insert id value }
        return true
      else return false
    | value =>
      if u.reads = 1 && !u.isUsedInLoop && !u.isRecursive &&
          ((u.isLocal && value.isFixed d.table) || value.isFixedAnywhere d.table) then
        set { d with moves := d.moves.insert id value }
        return true
      else return false

/-- The properties of an object that is written out, if each may become a variable. -/
def plainProperties? : List Property → Option (List (String × Expr))
  | [] => some []
  | .keyValue _ (.ident name) value :: rest =>
    if value.isPlainProperty && name ≠ "__proto__" then
      (plainProperties? rest).map ((name, value) :: ·)
    else none
  | .shorthand pos id :: rest => (plainProperties? rest).map ((id.name, .ident pos id) :: ·)
  | _ => none

/-- Is an object used for nothing but reading some of its properties? -/
def isTakenApart (u : Usage) (names : List String) : Bool :=
  u.isConstant && !u.isReadBeforeDeclared && !u.isReadElsewhere && !u.isLoopName &&
    u.memberWrites = 0 && u.calls = 0 && u.members.length = u.reads && names.eraseDups == names &&
    u.members.all names.contains

/-- Makes variables of the properties of an object. -/
def takeApart (id : Ident) (properties : List (String × Expr)) : Work (List (Ident × Expr)) := do
  let u ← usage id
  let taken ← properties.mapM fun (name, value) => do
    let own : Ident := ⟨id.name ++ "_" ++ name, ← newScope⟩
    change own fun _ => { u with reads := u.members.count name, members := [] }
    return (name, own, value)
  modify fun d => { d with
    properties := d.properties.insert id (taken.map fun (name, own, _) => (name, own)) }
  return taken.map (·.2)

/-- What is left of the declaration of a name with a value. -/
def placeValue (pos : Nat) (id : Ident) (value : Expr) : Work (List Remainder) := do
  let u ← usage id
  if u.isUnused then return value.effects.map .effect
  if ← takeUp id value then return []
  return [.declarator (.mk pos (.ident pos id) (some value))]

/-- What is left of a declarator whose value is simple. -/
def place (kind : VarKind) (d : Declarator) : Work (List Remainder) := do
  match d with
  | .mk pos (.ident p id) (some value) =>
    let u ← usage id
    if u.isUnused then return value.effects.map .effect
    if ← takeUp id value then return []
    match value with
    | .object _ properties =>
      match plainProperties? properties with
      | some properties =>
        if isTakenApart u (properties.map (·.1)) then
          return (← (← takeApart id properties).mapM fun (own, value) =>
            placeValue pos own value).flatten
        else return [.declarator d]
      | none => return [.declarator d]
    | _ => return [.declarator (.mk pos (.ident p id) (some value))]
  | .mk pos (.ident _ id) none =>
    let u ← usage id
    if u.isUnused then return []
    else if kind ≠ .const && u.declared = 1 && u.initialized = 0 && u.writes = 0 &&
        u.updates = 0 && !u.isParam then
      modify fun d => { d with values := d.values.insert id (.undefined pos) }
      return []
    else return [.declarator d]
  | d => return [.declarator d]

/-- Statements for what is left of a declaration. -/
def statements (pos : Nat) (kind : VarKind) : List Remainder → List Stmt
  | [] => []
  | .effect value :: rest => .expr pos value :: statements pos kind rest
  | .declarator d :: rest =>
    match statements pos kind rest with
    | .declaration p k ds :: rest => .declaration p k (d :: ds) :: rest
    | rest => .declaration pos kind [d] :: rest

/-- What is left of the declaration of a function. -/
def placeFunction (pos : Nat) (name : Ident) (fn : Function) : Work (List Stmt) := do
  let d ← get
  let u := d.table.of name
  let outside := u.reads - u.ownReads
  if outside = 0 && u.writes = 0 && u.updates = 0 then return []
  else if d.isVeiled || u.writes > 0 || u.updates > 0 || u.declared ≠ 1 || u.isReadElsewhere then
    return [.function pos name fn]
  else if u.calls > 0 && u.ownReads = 0 && (outside > 1 && fn.isShort) then
    set { d with functions := d.functions.insert name (.function pos none fn) }
    return [.function pos name fn]
  else if outside = 1 && (u.calls > 0 || (!u.isUsedInLoop && u.isLocal)) then
    let own := if u.ownReads > 0 then some name else none
    set { d with moves := d.moves.insert name (.function pos own fn) }
    return []
  else return [.function pos name fn]

/-- What is left of the declaration of a class. -/
def placeClass (pos : Nat) (name : Ident) (superclass : Option Expr) (members : List Member) :
    Work (List Stmt) := do
  let d ← get
  let u := d.table.of name
  if superclass.isSome || anyMemberEffect members then
    return [.classDecl pos name superclass members]
  else if u.isUnused then return []
  else if !d.isVeiled && u.isConstant && u.reads = 1 && u.ownReads = 0 && !u.isReadBeforeDeclared &&
      !u.isReadElsewhere && !u.isUsedInLoop && u.isLocal then
    set { d with moves := d.moves.insert name (.classExpr pos none none members) }
    return []
  else return [.classDecl pos name superclass members]

end Desk

end BrowserScript.Script
