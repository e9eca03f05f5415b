import BrowserScript.Script.Declared
import BrowserScript.Script.Walk
import Std.Data.HashMap

/-!
How the bindings of a script are used: a census taken in one walk in the order of the text. It says
how often a binding is declared, read and written, and whether all of that happens in the function
that declares it, once and behind the declaration.
-/

set_option autoImplicit false

namespace BrowserScript.Script

/-- What is known about one binding. -/
structure Usage where
  /-- How often it is declared. -/
  declared : Nat := 0
  isParam : Bool := false
  isCatchParam : Bool := false
  isFunction : Bool := false
  /-- Declared in the head of a loop. -/
  isLoopName : Bool := false
  /-- How many of its declarations give it a value. -/
  initialized : Nat := 0
  /-- How often its value is used. -/
  reads : Nat := 0
  /-- Plain assignments. -/
  writes : Nat := 0
  /-- Assignments of other forms, which may depend on the old value. -/
  updates : Nat := 0
  calls : Nat := 0
  /-- The members read from it by name. -/
  members : List String := []
  memberWrites : Nat := 0
  /-- The functions in which it is declared and used; the script itself is number zero. -/
  homes : List Nat := []
  places : List Nat := []
  isUsedInLoop : Bool := false
  isReadBeforeDeclared : Bool := false
  isRecursive : Bool := false
  /-- Reads inside of its own declaration. -/
  ownReads : Nat := 0
  /-- The branch of the script in which it is declared. -/
  branch : Nat := 0
  /-- Read outside of that branch, where its declaration may not have run. -/
  isReadElsewhere : Bool := false
  /-- The branches around each read in front of the declaration. -/
  earlyPaths : List (List Nat) := []
  deriving Repr, Inhabited

namespace Usage

/-- Never gets another value than that of its declaration. -/
def isConstant (u : Usage) : Bool :=
  u.writes = 0 && u.updates = 0 && u.declared = 1 && u.initialized ≤ 1

/-- Is it used only in the function that declares it? -/
def isLocal (u : Usage) : Bool := u.places.all u.homes.contains

def isUnused (u : Usage) : Bool := u.reads = 0 && u.writes = 0 && u.updates = 0

end Usage

abbrev UsageTable := Std.HashMap Ident Usage

namespace UsageTable

def of (table : UsageTable) (id : Ident) : Usage := table.getD id {}

end UsageTable

namespace Census

/-- The census while it is taken. -/
structure State where
  table : UsageTable := ∅
  /-- The number of functions entered so far. -/
  functions : Nat := 0
  /-- The function around this place. -/
  here : Nat := 0
  inLoop : Bool := false
  /-- The bindings whose declarations are around this place. -/
  declaring : List Ident := []
  /-- The number of branches entered so far. -/
  branches : Nat := 0
  /-- The branches around this place, the innermost first. -/
  path : List Nat := [0]

abbrev Count := StateM State

def change (id : Ident) (f : Usage → Usage) : Count Unit :=
  modify fun s => { s with table := s.table.insert id (f (s.table.of id)) }

/-- How a name is declared. -/
inductive Role where
  | var (isInitialized isLoopName : Bool)
  | param
  | catchParam
  | function
  deriving DecidableEq

def declare (role : Role) (id : Ident) : Count Unit := do
  let s ← get
  change id fun u =>
    let u :=
      { u with
        declared := u.declared + 1
        homes := s.here :: u.homes
        branch := s.path.headD 0
        isReadElsewhere :=
          u.isReadElsewhere || u.earlyPaths.any (!·.contains (s.path.headD 0)) }
    match role with
    | .var isInitialized isLoopName =>
      { u with
        initialized := u.initialized + if isInitialized then 1 else 0
        isLoopName := u.isLoopName || isLoopName }
    | .param => { u with isParam := true }
    | .catchParam => { u with isCatchParam := true }
    | .function => { u with isFunction := true }

/-- Notes a use of any kind. -/
def use (id : Ident) (f : Usage → Usage) : Count Unit := do
  let s ← get
  change id fun u => f
    { u with
      places := if u.places.contains s.here then u.places else s.here :: u.places
      isUsedInLoop := u.isUsedInLoop || s.inLoop }

def read (id : Ident) : Count Unit := do
  let s ← get
  let inside := s.declaring.contains id
  use id fun u =>
    { u with
      reads := u.reads + 1
      isReadElsewhere := u.isReadElsewhere || !s.path.contains u.branch
      earlyPaths := if u.declared = 0 then s.path :: u.earlyPaths else u.earlyPaths
      ownReads := u.ownReads + if inside then 1 else 0
      isRecursive := u.isRecursive || inside
      isReadBeforeDeclared := u.isReadBeforeDeclared || u.declared = 0 }

def write (id : Ident) : Count Unit := use id fun u => { u with writes := u.writes + 1 }

def update (id : Ident) : Count Unit := use id fun u => { u with updates := u.updates + 1 }

/-- Does something, and leaves the place as it was. -/
def within (place : State → State) (act : Count Unit) : Count Unit := do
  let s ← get
  set (place s)
  act
  modify fun t =>
    { t with here := s.here, inLoop := s.inLoop, declaring := s.declaring, path := s.path }

/-- Inside of something that may not run. -/
def branched (s : State) : State :=
  { s with branches := s.branches + 1, path := (s.branches + 1) :: s.path }

def inBranch (act : Count Unit) : Count Unit := within branched act

def inFunction (act : Count Unit) : Count Unit :=
  within (fun s =>
    { branched s with functions := s.functions + 1, here := s.functions + 1 }) act

def inLoop (act : Count Unit) : Count Unit :=
  within (fun s => { branched s with inLoop := true }) act

def inDeclaration (id : Ident) (act : Count Unit) : Count Unit :=
  within (fun s => { s with declaring := id :: s.declaring }) act

/-- What the names of a pattern are. -/
inductive Meeting where
  | declares (role : Role)
  | updates

def Meeting.apply : Meeting → Ident → Count Unit
  | .declares role, id => declare role id
  | .updates, id => update id

mutual

def visitor : Nat → Meeting → Visitor Count
  | 0, _ => { expr := pure, pattern := pure, function := pure, stmt := pure, stmts := pure }
  | fuel + 1, meeting =>
    { expr := fun e => do countExpr fuel e; return e
      pattern := fun p => do countPattern fuel meeting p; return p
      function := fun f => do countFunction fuel none f; return f
      stmt := fun s => do countStmt fuel s; return s
      stmts := fun body => do body.forM (countStmt fuel); return body
      ident := fun id => do meeting.apply id; return id
      shorthand := fun pos id => do read id; return .shorthand pos id }

def countPattern : Nat → Meeting → Pattern → Count Unit
  | 0, _, _ => pure ()
  | fuel + 1, meeting, p =>
    match p with
    | .expr target => countTarget fuel target
    | p => discard <| p.mapParts (visitor fuel meeting)

/-- An expression that is assigned to. -/
def countTarget : Nat → Expr → Count Unit
  | 0, _ => pure ()
  | fuel + 1, e =>
    match e with
    | .member _ (.ident _ id) _ => do
      read id
      change id fun u => { u with memberWrites := u.memberWrites + 1 }
    | .index _ (.ident _ id) key => do
      read id
      change id fun u => { u with memberWrites := u.memberWrites + 1 }
      countExpr fuel key
    | .paren _ inner => countTarget fuel inner
    | .ident _ id => update id
    | e => countExpr fuel e

/-- Parameters and body of a function, with the name it has for itself. -/
def countFunction : Nat → Option Ident → Function → Count Unit
  | 0, _, _ => pure ()
  | fuel + 1, name, .mk _ _ _ params body => inFunction do
    name.toList.forM (declare .function)
    params.forM (countPattern fuel (.declares .param))
    body.forM (countStmt fuel)

def countExpr : Nat → Expr → Count Unit
  | 0, _ => pure ()
  | fuel + 1, e =>
    match e with
    | .ident _ id => read id
    | .function _ (some name) function =>
      inDeclaration name (countFunction fuel (some name) function)
    | .arrow pos isAsync params _ body =>
      countFunction fuel none (.mk pos isAsync false params body)
    | .classExpr pos (some name) superclass members => do
      declare (.var true false) name
      inDeclaration name <| discard <|
        (Expr.classExpr pos none superclass members).mapParts (visitor fuel .updates)
    | .call _ callee args => do
      match callee with
      | .ident _ id => change id fun u => { u with calls := u.calls + 1 }
      | .member _ (.ident _ id) _ =>
        change id fun u => { u with memberWrites := u.memberWrites + 1 }
      | _ => pure ()
      countExpr fuel callee
      args.forM (countExpr fuel)
    | .member _ (.ident _ id) name => do
      read id
      change id fun u => { u with members := name :: u.members }
    | .assign _ op target value => do
      match target, op with
      | .ident _ id, .assign => write id
      | .ident _ id, _ => do read id; update id
      | target, _ => countPattern fuel .updates target
      countExpr fuel value
    | .update _ _ _ (.ident _ id) => do read id; update id
    | .update _ _ _ arg => countTarget fuel arg
    | .unary _ .delete arg => countTarget fuel arg
    | e => discard <| e.mapParts (visitor fuel .updates)

def countStmt : Nat → Stmt → Count Unit
  | 0, _ => pure ()
  | fuel + 1, s =>
    match s with
    | .declaration _ _ declarators => declarators.forM fun d => do
      countPattern fuel (.declares (.var d.value.isSome false)) d.target
      match d.target, d.value with
      | .ident _ id, some value => inDeclaration id (countExpr fuel value)
      | _, some value => countExpr fuel value
      | _, none => pure ()
    | .function _ name function => do
      declare .function name
      inDeclaration name (countFunction fuel none function)
    | .classDecl pos name superclass members => do
      declare (.var true false) name
      inDeclaration name <| discard <|
        (Expr.classExpr pos none superclass members).mapParts (visitor fuel .updates)
    | .forLoop _ init test update body => do
      match init with
      | .declaration _ _ declarators => declarators.forM fun d => do
        countPattern fuel (.declares (.var d.value.isSome true)) d.target
        d.value.toList.forM (countExpr fuel)
      | init => countStmt fuel init
      inLoop do
        test.toList.forM (countExpr fuel)
        update.toList.forM (countExpr fuel)
        countStmt fuel body
    | .forIn _ kind target init object body => do
      init.toList.forM (countExpr fuel)
      countExpr fuel object
      inLoop do
        match kind with
        | some _ => countPattern fuel (.declares (.var true true)) target
        | none => countPattern fuel .updates target
        countStmt fuel body
    | .forOf _ _ kind target iterable body => do
      countExpr fuel iterable
      inLoop do
        match kind with
        | some _ => countPattern fuel (.declares (.var true true)) target
        | none => countPattern fuel .updates target
        countStmt fuel body
    | .whileLoop _ test body | .doLoop _ body test => inLoop do
      countExpr fuel test
      countStmt fuel body
    | .tryBlock _ block _ param handler _ finalizer => do
      inBranch (block.forM (countStmt fuel))
      inBranch do
        param.toList.forM (countPattern fuel (.declares .catchParam))
        handler.forM (countStmt fuel)
      finalizer.forM (countStmt fuel)
    | .ifElse _ test yes no => do
      countExpr fuel test
      inBranch (countStmt fuel yes)
      inBranch (no.toList.forM (countStmt fuel))
    | .switch _ discriminant cases => do
      countExpr fuel discriminant
      inBranch <| cases.forM fun
        | .mk test body => do
          test.toList.forM (countExpr fuel)
          inBranch (body.forM (countStmt fuel))
    | .labeled _ _ body => inBranch (countStmt fuel body)
    | s => discard <| s.mapParts (visitor fuel .updates)

end

/-- The census of a script. -/
def take (statements : List Stmt) : UsageTable :=
  let fuel := 2 * weightOfStmts statements + 2
  ((statements.forM (countStmt fuel)).run {}).2.table

end Census

end BrowserScript.Script
