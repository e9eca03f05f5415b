import BrowserScript.Script.Weight

/-!
Walking through trees. A visitor says what becomes of the parts of a node, and `mapParts` rebuilds
a node from what became of its parts, which are visited in the order in which they run. A walk is
a visitor that visits the parts of each part in turn.
-/

set_option autoImplicit false

namespace BrowserScript.Script

variable {m : Type → Type} [Monad m]

/-- What becomes of the parts of a node. -/
structure Visitor (m : Type → Type) [Monad m] where
  expr : Expr → m Expr
  pattern : Pattern → m Pattern
  function : Function → m Function
  /-- A statement that stands alone, as the body of a loop does. -/
  stmt : Stmt → m Stmt
  /-- The statements of a block or a function body. -/
  stmts : List Stmt → m (List Stmt)
  /-- A name that is no expression or pattern of its own. -/
  ident : Ident → m Ident := pure
  /-- A property whose key and value are one name. -/
  shorthand : Nat → Ident → m Property := fun pos id => return .shorthand pos (← ident id)
  /-- A part of an object pattern whose key and target are one name. -/
  shortTarget : Nat → Ident → Option Expr → m PatternProperty := fun pos id value =>
    return .assign pos (← ident id) value

/-- Visits what is there. -/
def visitOption {α : Type} (f : α → m α) : Option α → m (Option α)
  | none => pure none
  | some x => return some (← f x)

def Key.mapParts (v : Visitor m) : Key → m Key
  | .computed value => return .computed (← v.expr value)
  | key => pure key

def Property.mapParts (v : Visitor m) : Property → m Property
  | .keyValue pos key value => return .keyValue pos (← key.mapParts v) (← v.expr value)
  | .shorthand pos id => v.shorthand pos id
  | .initialized pos id value => return .initialized pos (← v.ident id) (← v.expr value)
  | .method pos kind key function =>
    return .method pos kind (← key.mapParts v) (← v.function function)
  | .spread pos value => return .spread pos (← v.expr value)

def Member.mapParts (v : Visitor m) : Member → m Member
  | .method pos isStatic kind key function =>
    return .method pos isStatic kind (← key.mapParts v) (← v.function function)
  | .field pos isStatic key value =>
    return .field pos isStatic (← key.mapParts v) (← visitOption v.expr value)
  | .staticBlock pos body => return .staticBlock pos (← v.stmts body)
  | .empty => pure .empty

def PatternProperty.mapParts (v : Visitor m) : PatternProperty → m PatternProperty
  | .keyValue key value => return .keyValue (← key.mapParts v) (← v.pattern value)
  | .assign pos id value => do v.shortTarget pos id (← visitOption v.expr value)
  | .rest pos arg => return .rest pos (← v.pattern arg)

def Pattern.mapParts (v : Visitor m) : Pattern → m Pattern
  | .array pos items => return .array pos (← items.mapM v.pattern)
  | .object pos properties => return .object pos (← properties.mapM (·.mapParts v))
  | .rest pos arg => return .rest pos (← v.pattern arg)
  | .assign pos left value => return .assign pos (← v.pattern left) (← v.expr value)
  | .expr target => return .expr (← v.expr target)
  | .ident pos id => return .ident pos (← v.ident id)
  | p => pure p

def Function.mapParts (v : Visitor m) : Function → m Function
  | .mk pos isAsync isGenerator params body =>
    return .mk pos isAsync isGenerator (← params.mapM v.pattern) (← v.stmts body)

def Declarator.mapParts (v : Visitor m) : Declarator → m Declarator
  | .mk pos target value => return .mk pos (← v.pattern target) (← visitOption v.expr value)

def Case.mapParts (v : Visitor m) : Case → m Case
  | .mk test body => return .mk (← visitOption v.expr test) (← v.stmts body)

/-- The body of an arrow function; one that is an expression stays one. -/
def mapArrowBody (v : Visitor m) (isExpr : Bool) (body : List Stmt) : m (List Stmt) :=
  match isExpr, body with
  | true, [.ret pos (some value)] => return [.ret pos (some (← v.expr value))]
  | _, _ => v.stmts body

def Expr.mapParts (v : Visitor m) : Expr → m Expr
  | .template pos quasis values => return .template pos quasis (← values.mapM v.expr)
  | .tagged pos tag quasis values =>
    return .tagged pos (← v.expr tag) quasis (← values.mapM v.expr)
  | .array pos items => return .array pos (← items.mapM v.expr)
  | .object pos properties => return .object pos (← properties.mapM (·.mapParts v))
  | .function pos name fn =>
    return .function pos (← visitOption v.ident name) (← v.function fn)
  | .classExpr pos name superclass members =>
    return .classExpr pos (← visitOption v.ident name) (← visitOption v.expr superclass)
      (← members.mapM (·.mapParts v))
  | .arrow pos isAsync params isExpr body =>
    return .arrow pos isAsync (← params.mapM v.pattern) isExpr (← mapArrowBody v isExpr body)
  | .unary pos op arg => return .unary pos op (← v.expr arg)
  | .update pos isBefore op arg => return .update pos isBefore op (← v.expr arg)
  | .binary pos op left right => return .binary pos op (← v.expr left) (← v.expr right)
  | .assign pos op target value => return .assign pos op (← v.pattern target) (← v.expr value)
  | .cond pos test yes no => return .cond pos (← v.expr test) (← v.expr yes) (← v.expr no)
  | .call pos callee args => return .call pos (← v.expr callee) (← args.mapM v.expr)
  | .newCall pos callee args => return .newCall pos (← v.expr callee) (← args.mapM v.expr)
  | .member pos base name => return .member pos (← v.expr base) name
  | .index pos base key => return .index pos (← v.expr base) (← v.expr key)
  | .privateMember pos base name => return .privateMember pos (← v.expr base) name
  | .optional pos chain => return .optional pos (← v.expr chain)
  | .seq pos exprs => return .seq pos (← exprs.mapM v.expr)
  | .paren pos inner => return .paren pos (← v.expr inner)
  | .yield pos isDelegate arg => return .yield pos isDelegate (← visitOption v.expr arg)
  | .await pos arg => return .await pos (← v.expr arg)
  | .spread pos value => return .spread pos (← v.expr value)
  | .ident pos id => return .ident pos (← v.ident id)
  | e => pure e

def Stmt.mapParts (v : Visitor m) : Stmt → m Stmt
  | .expr pos value => return .expr pos (← v.expr value)
  | .block pos body => return .block pos (← v.stmts body)
  | .declaration pos kind declarators =>
    return .declaration pos kind (← declarators.mapM (·.mapParts v))
  | .function pos name fn => return .function pos (← v.ident name) (← v.function fn)
  | .classDecl pos name superclass members =>
    return .classDecl pos (← v.ident name) (← visitOption v.expr superclass)
      (← members.mapM (·.mapParts v))
  | .ret pos arg => return .ret pos (← visitOption v.expr arg)
  | .ifElse pos test yes no =>
    return .ifElse pos (← v.expr test) (← v.stmt yes) (← visitOption v.stmt no)
  | .forLoop pos init test update body =>
    return .forLoop pos (← v.stmt init) (← visitOption v.expr test) (← visitOption v.expr update)
      (← v.stmt body)
  | .forIn pos kind target init object body =>
    return .forIn pos kind (← v.pattern target) (← visitOption v.expr init) (← v.expr object)
      (← v.stmt body)
  | .forOf pos isAwait kind target iterable body =>
    return .forOf pos isAwait kind (← v.pattern target) (← v.expr iterable) (← v.stmt body)
  | .whileLoop pos test body => return .whileLoop pos (← v.expr test) (← v.stmt body)
  | .doLoop pos body test => return .doLoop pos (← v.stmt body) (← v.expr test)
  | .switch pos discriminant cases =>
    return .switch pos (← v.expr discriminant) (← cases.mapM (·.mapParts v))
  | .throwValue pos arg => return .throwValue pos (← v.expr arg)
  | .tryBlock pos body catchPos param handler hasFinally finalizer =>
    return .tryBlock pos (← v.stmts body) catchPos (← visitOption v.pattern param)
      (← v.stmts handler) hasFinally (← v.stmts finalizer)
  | .labeled pos label body => return .labeled pos label (← v.stmt body)
  | .withObject pos object body => return .withObject pos (← v.expr object) (← v.stmt body)
  | s => pure s

end BrowserScript.Script
