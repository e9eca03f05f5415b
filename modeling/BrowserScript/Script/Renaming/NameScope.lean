import BrowserScript.Script.Declared
import BrowserScript.Script.Walk

/-!
The scopes of a script as a tree: which bindings each scope declares, in the order of the text,
and which bindings are used in it or in a scope inside of it.
-/

set_option autoImplicit false

namespace BrowserScript.Script

inductive NameScope where
  | mk (declared used : List Ident) (inner : List NameScope)
  deriving Inhabited

namespace NameScope

/-- A scope while it is read. A block hands the names of its `var` declarations on to the function
around it. -/
structure Builder where
  isBlock : Bool
  declared : List Ident := []
  handedOn : List Ident := []
  used : List Ident := []
  inner : List NameScope := []

abbrev Build := StateM Builder

def use (id : Ident) : Build Unit := modify fun b => { b with used := b.used ++ [id] }

/-- Declares a name in this scope. -/
def declareHere (id : Ident) : Build Unit :=
  modify fun b =>
    { b with declared := if b.declared.contains id then b.declared else b.declared ++ [id] }

/-- Declares a name for the function around this place. -/
def declareForFunction (id : Ident) : Build Unit := do
  if (← get).isBlock then modify fun b => { b with handedOn := b.handedOn ++ [id] }
  else declareHere id

/-- Reads a scope inside of this one. -/
def within (isBlock : Bool) (read : Build Unit) : Build Unit := do
  let ((), b) := read.run { isBlock }
  modify fun outer => { outer with inner := outer.inner ++ [.mk b.declared b.used b.inner] }
  b.handedOn.forM declareForFunction

/-- How the names of a pattern are met. -/
inductive PatternRole where
  | target
  | declaresForFunction
  | declaresHere
  deriving DecidableEq

def PatternRole.meet (role : PatternRole) (id : Ident) : Build Unit :=
  match role with
  | .target => use id
  | .declaresForFunction => do declareForFunction id; use id
  | .declaresHere => do declareHere id; use id

def PatternRole.ofKind : Option VarKind → PatternRole
  | none => .target
  | some .var => .declaresForFunction
  | some _ => .declaresHere

mutual

def visitor : Nat → PatternRole → Visitor Build
  | 0, _ => { expr := pure, pattern := pure, function := pure, stmt := pure, stmts := pure }
  | fuel + 1, role =>
    { expr := fun e => do readExpr fuel e; return e
      pattern := fun p => do readPattern fuel role p; return p
      function := fun f => do within false (readFunction fuel f); return f
      stmt := fun s => do readStmt fuel s; return s
      stmts := fun body => do within true (body.forM (readStmt fuel)); return body
      ident := fun id => do role.meet id; return id }

def readPattern : Nat → PatternRole → Pattern → Build Unit
  | 0, _, _ => pure ()
  | fuel + 1, role, p =>
    match p with
    | .expr target => readExpr fuel target
    | _ => discard <| p.mapParts (visitor fuel role)

def readFunction : Nat → Function → Build Unit
  | 0, _ => pure ()
  | fuel + 1, .mk _ _ _ params body => do
    params.forM (readPattern fuel .declaresHere)
    body.forM (readStmt fuel)

def readExpr : Nat → Expr → Build Unit
  | 0, _ => pure ()
  | fuel + 1, e =>
    match e with
    | .function _ (some name) function => within false do
      declareHere name
      within false (readFunction fuel function)
    | .arrow pos isAsync params _ body =>
      within false (readFunction fuel (.mk pos isAsync false params body))
    | .classExpr pos (some name) superclass members => within false do
      declareHere name
      discard <| (Expr.classExpr pos none superclass members).mapParts (visitor fuel .target)
    | _ => discard <| e.mapParts (visitor fuel .target)

def readStmt : Nat → Stmt → Build Unit
  | 0, _ => pure ()
  | fuel + 1, s =>
    match s with
    | .declaration _ kind declarators =>
      declarators.forM fun d => do
        readPattern fuel (.ofKind (some kind)) d.target
        d.value.toList.forM (readExpr fuel)
    | .function _ name function => do
      declareForFunction name
      use name
      within false (readFunction fuel function)
    | .classDecl pos name superclass members => do
      declareHere name
      discard <| (Expr.classExpr pos none superclass members).mapParts (visitor fuel .target)
    | .forLoop .. => within true (discard <| s.mapParts (visitor fuel .target))
    | .forIn _ kind target init object body => within true do
      readPattern fuel (.ofKind kind) target
      init.toList.forM (readExpr fuel)
      readExpr fuel object
      within true (readStmt fuel body)
    | .forOf _ _ kind target iterable body => within true do
      readPattern fuel (.ofKind kind) target
      readExpr fuel iterable
      within true (readStmt fuel body)
    | .switch .. => within true (discard <| s.mapParts
        { visitor fuel .target with
          stmts := fun body => do body.forM (readStmt fuel); return body })
    | .tryBlock _ block _ param handler _ finalizer => do
      within true (block.forM (readStmt fuel))
      within true do
        param.toList.forM (readPattern fuel .declaresHere)
        handler.forM (readStmt fuel)
      within true (finalizer.forM (readStmt fuel))
    | _ => discard <| s.mapParts (visitor fuel .target)

end

/-- The outermost scope of a script. -/
def ofScript (statements : List Stmt) : NameScope :=
  let fuel := 2 * weightOfStmts statements + 2
  let ((), b) := (statements.forM (readStmt fuel)).run { isBlock := false }
  .mk b.declared b.used b.inner

mutual

/-- All bindings that a scope or one inside of it declares. -/
def allDeclared : NameScope → List Ident
  | .mk declared _ inner => declared ++ allDeclaredIn inner

def allDeclaredIn : List NameScope → List Ident
  | [] => []
  | s :: rest => s.allDeclared ++ allDeclaredIn rest

end

mutual

/-- All bindings that occur in a scope or in one inside of it. -/
def allUsed : NameScope → List Ident
  | .mk declared used inner => declared ++ used ++ allUsedIn inner

def allUsedIn : List NameScope → List Ident
  | [] => []
  | s :: rest => s.allUsed ++ allUsedIn rest

end

end NameScope

end BrowserScript.Script
