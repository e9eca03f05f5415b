import BrowserScript.Script.Declared
import BrowserScript.Script.Search
import BrowserScript.Script.Simplify.Effect
import Std.Data.HashSet

/-!
Bindings that nothing reads. A binding is live if code that runs by itself reads it, or if the
body of a live function or class does. What declares a binding that is not live goes; the values
it would have got are still computed.
-/

set_option autoImplicit false

namespace BrowserScript.Script

/-- A place where a name stands, and the function or class in whose declaration it is. -/
structure Mention where
  id : Ident
  owner : Option Ident
  isWrite : Bool
  deriving Repr

namespace Mention

/-- The mentions met so far, and the declaration that is being read. -/
structure Reading where
  owner : Option Ident := none
  mentions : List Mention := []

abbrev Read := StateM Reading

def note (id : Ident) (isWrite : Bool) : Read Unit :=
  modify fun r => { r with mentions := ⟨id, r.owner, isWrite⟩ :: r.mentions }

/-- Reads the declaration of a function or class. -/
def inside {α : Type} (owner : Ident) (read : Read α) : Read α := do
  let outer := (← get).owner
  modify fun r => { r with owner := some owner }
  let value ← read
  modify fun r => { r with owner := outer }
  return value

/-- Is this a function, which runs only when it is called? -/
def isFunction : Expr → Bool
  | .function .. | .arrow .. => true
  | _ => false

mutual

/-- Notes all names in a tree. The names a declaration binds are no mentions. -/
def visitor : Nat → Bool → Visitor Read
  | 0, _ => { expr := pure, pattern := pure, function := pure, stmt := pure, stmts := pure }
  | fuel + 1, declares =>
    { expr := fun e => do visitExpr fuel e; return e
      pattern := fun p => do visitPattern fuel declares p; return p
      function := fun f => do visitFunction fuel f; return f
      stmt := fun s => do visitStmt fuel s; return s
      stmts := fun body => do body.forM (visitStmt fuel); return body
      ident := fun id => do
        if declares then pure () else note id false
        return id }

def visitExpr : Nat → Expr → Read Unit
  | 0, _ => pure ()
  | fuel + 1, e =>
    match e with
    | .ident _ id => note id false
    | .assign _ .assign (.ident _ id) value => do
      note id true
      visitExpr fuel value
    | .function _ _ function => visitFunction fuel function
    | .arrow pos isAsync params _ body => visitFunction fuel (.mk pos isAsync false params body)
    | .classExpr pos _ superclass members =>
      discard <| (Expr.classExpr pos none superclass members).mapParts (visitor fuel false)
    | e => discard <| e.mapParts (visitor fuel false)

def visitPattern : Nat → Bool → Pattern → Read Unit
  | 0, _, _ => pure ()
  | fuel + 1, declares, p =>
    match p with
    | .ident _ id => if declares then pure () else note id false
    | .expr target => visitExpr fuel target
    | p => discard <| p.mapParts (visitor fuel declares)

def visitFunction : Nat → Function → Read Unit
  | 0, _ => pure ()
  | fuel + 1, .mk _ _ _ params body => do
    params.forM (visitPattern fuel true)
    body.forM (visitStmt fuel)

def visitDeclarator : Nat → Declarator → Read Unit
  | 0, _ => pure ()
  | fuel + 1, .mk _ target value => do
    visitPattern fuel true target
    match target, value with
    | .ident _ id, some value =>
      if isFunction value then inside id (visitExpr fuel value) else visitExpr fuel value
    | _, value => value.toList.forM (visitExpr fuel)

def visitStmt : Nat → Stmt → Read Unit
  | 0, _ => pure ()
  | fuel + 1, s =>
    match s with
    | .declaration _ _ declarators => declarators.forM (visitDeclarator fuel)
    | .function _ name function => inside name (visitFunction fuel function)
    | .classDecl pos name superclass members => inside name do
      discard <| (Expr.classExpr pos none superclass members).mapParts (visitor fuel false)
    | .forIn _ kind target init object body => do
      visitPattern fuel kind.isSome target
      init.toList.forM (visitExpr fuel)
      visitExpr fuel object
      visitStmt fuel body
    | .forOf _ _ kind target iterable body => do
      visitPattern fuel kind.isSome target
      visitExpr fuel iterable
      visitStmt fuel body
    | .tryBlock _ body _ param handler _ finalizer => do
      body.forM (visitStmt fuel)
      param.toList.forM (visitPattern fuel true)
      handler.forM (visitStmt fuel)
      finalizer.forM (visitStmt fuel)
    | s => discard <| s.mapParts (visitor fuel false)

end

def all (statements : List Stmt) : List Mention :=
  let fuel := 2 * weightOfStmts statements + 2
  ((statements.forM (visitStmt fuel)).run {}).2.mentions

end Mention

/-- The bindings that are live, and those that are given values. -/
structure Liveness where
  live : Std.HashSet Ident
  written : Std.HashSet Ident

namespace Liveness

/-- Adds what the bodies of live functions read, until nothing new is found. -/
def grow (mentions : List Mention) : Nat → Std.HashSet Ident → Std.HashSet Ident
  | 0, live => live
  | fuel + 1, live =>
    let next := mentions.foldl (fun live m =>
      if !m.isWrite && m.owner.all live.contains then live.insert m.id else live) live
    if next.size = live.size then live else grow mentions fuel next

def ofScript (statements : List Stmt) : Liveness :=
  let mentions := Mention.all statements
  { live := grow mentions (mentions.length + 1) ∅
    written := .ofList ((mentions.filter (·.isWrite)).map (·.id)) }

/-- Can the declaration of a binding go? -/
def isIdle (l : Liveness) (id : Ident) : Bool := !l.live.contains id && !l.written.contains id

def isIdleDeclarator (l : Liveness) : Declarator → Bool
  | .mk _ (.ident _ id) _ => l.isIdle id
  | _ => false

/-- A statement without declarations of idle bindings. -/
def reduced (l : Liveness) : Stmt → Stmt
  | .function pos name function => if l.isIdle name then .empty pos else .function pos name function
  | .classDecl pos name superclass members =>
    if l.isIdle name && superclass.isNone && !anyMemberEffect members then .empty pos
    else .classDecl pos name superclass members
  | .declaration pos kind declarators =>
    if declarators.all l.isIdleDeclarator then
      match Expr.ofParts pos (declarators.filterMap (·.value)) with
      | none => .empty pos
      | some values => .expr pos values
    else .declaration pos kind (declarators.filter fun d =>
      !(l.isIdleDeclarator d && !d.value.any Expr.hasEffect))
  | s => s

/-- The head of a loop keeps its form. -/
def reducedHead (l : Liveness) : Stmt → Stmt
  | .declaration pos kind declarators =>
    match declarators.filter fun d => !(l.isIdleDeclarator d && !d.value.any Expr.hasEffect) with
    | [] => .empty pos
    | declarators => .declaration pos kind declarators
  | s => s

def visitor (l : Liveness) : Nat → Visitor Id
  | 0 => { expr := pure, pattern := pure, function := pure, stmt := pure, stmts := pure }
  | fuel + 1 =>
    let visitStmt := fun (s : Stmt) =>
      match s with
      | .forLoop pos init test update body => do
        let v := visitor l fuel
        return .forLoop pos (l.reducedHead (← init.mapParts v)) (← visitOption v.expr test)
          (← visitOption v.expr update) (← v.stmt body)
      | s => do return l.reduced (← s.mapParts (visitor l fuel))
    { expr := fun e => do
        match ← e.mapParts (visitor l fuel) with
        | .assign pos .assign (.ident p id) value =>
          if id.scope ≠ 0 && !l.live.contains id then return value
          else return .assign pos .assign (.ident p id) value
        | .function pos (some name) function =>
          if l.isIdle name then return .function pos none function
          else return .function pos (some name) function
        | e => return e
      pattern := (·.mapParts (visitor l fuel))
      function := (·.mapParts (visitor l fuel))
      stmt := visitStmt
      stmts := (·.mapM visitStmt) }

end Liveness

/-- Drops what is idle, again and again, for what is dropped may have read something else. -/
def dropIdle : Nat → List Stmt → List Stmt
  | 0, statements => statements
  | fuel + 1, statements =>
    let l := Liveness.ofScript statements
    let next := (l.visitor (weightOfStmts statements + 1)).stmts statements
    let next := next.filter fun | .empty _ => false | _ => true
    if weightOfStmts next < weightOfStmts statements then dropIdle fuel next else next

/-- A script without what is never read. The names in it may be used unseen if it calls `eval`. -/
def dropUnused (statements : List Stmt) : List Stmt :=
  if Search.directEval.findsInStmts statements then statements
  else dropIdle (weightOfStmts statements) statements

end BrowserScript.Script
