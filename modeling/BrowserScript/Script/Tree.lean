import BrowserScript.Script.Operator

/-!
Script trees. A node that an error message may point at carries the offset of its first
character. Names carry a scope number, so that equal names of different bindings can be told
apart; a tree that has just been read has scope zero everywhere.
-/

set_option autoImplicit false

namespace BrowserScript.Script

structure Ident where
  name : String
  scope : Nat := 0
  deriving DecidableEq, Repr, Inhabited, Hashable

inductive Lit where
  | null
  | bool (value : Bool)
  | number (value : Float)
  | string (value : String)
  | bigint (digits : String)
  | regex (pattern flags : String)
  deriving BEq, Repr, Inhabited

/-- A piece of template text; one with an invalid escape has no value. -/
structure Quasi where
  value : Option String
  raw : String
  deriving DecidableEq, Repr, Inhabited

inductive VarKind where
  | var
  | letVar
  | const
  deriving DecidableEq, Repr, Inhabited

inductive MethodKind where
  | method
  | getter
  | setter
  | constructor
  deriving DecidableEq, Repr, Inhabited

mutual

inductive Expr where
  | this (pos : Nat)
  | ident (pos : Nat) (id : Ident)
  | lit (pos : Nat) (value : Lit)
  | template (pos : Nat) (quasis : List Quasi) (exprs : List Expr)
  | tagged (pos : Nat) (tag : Expr) (quasis : List Quasi) (exprs : List Expr)
  | array (pos : Nat) (items : List Expr)
  | object (pos : Nat) (properties : List Property)
  | function (pos : Nat) (name : Option Ident) (function : Function)
  | classExpr (pos : Nat) (name : Option Ident) (superclass : Option Expr) (members : List Member)
  /-- An arrow whose body is an expression has that expression as its one `return`. -/
  | arrow (pos : Nat) (isAsync : Bool) (params : List Pattern) (isExpr : Bool) (body : List Stmt)
  | unary (pos : Nat) (op : UnaryOp) (arg : Expr)
  | update (pos : Nat) (isBefore : Bool) (op : UpdateOp) (arg : Expr)
  | binary (pos : Nat) (op : BinaryOp) (left right : Expr)
  | assign (pos : Nat) (op : AssignOp) (target : Pattern) (value : Expr)
  | cond (pos : Nat) (test yes no : Expr)
  | call (pos : Nat) (callee : Expr) (args : List Expr)
  | newCall (pos : Nat) (callee : Expr) (args : List Expr)
  | member (pos : Nat) (object : Expr) (name : String)
  | index (pos : Nat) (object : Expr) (key : Expr)
  | privateMember (pos : Nat) (object : Expr) (name : String)
  | superBase (pos : Nat)
  | importBase (pos : Nat)
  | optional (pos : Nat) (chain : Expr)
  | seq (pos : Nat) (exprs : List Expr)
  | paren (pos : Nat) (inner : Expr)
  | yield (pos : Nat) (isDelegate : Bool) (arg : Option Expr)
  | await (pos : Nat) (arg : Expr)
  | newTarget (pos : Nat)
  | importMeta (pos : Nat)
  | privateName (pos : Nat) (name : String)
  /-- A missing element of an array. -/
  | hole
  /-- Stands in an array or among arguments only. -/
  | spread (pos : Nat) (value : Expr)
  /-- Stands where a fault has been noted. -/
  | invalid (pos : Nat)

inductive Key where
  | ident (name : String)
  | string (text : String)
  | number (value : Float)
  | bigint (pos : Nat) (digits : String)
  | computed (value : Expr)
  | privateName (name : String)

inductive Property where
  | keyValue (pos : Nat) (key : Key) (value : Expr)
  | shorthand (pos : Nat) (id : Ident)
  /-- `name = value`, which only a pattern may hold. -/
  | initialized (pos : Nat) (id : Ident) (value : Expr)
  | method (pos : Nat) (kind : MethodKind) (key : Key) (function : Function)
  | spread (pos : Nat) (value : Expr)

inductive Function where
  | mk (pos : Nat) (isAsync isGenerator : Bool) (params : List Pattern) (body : List Stmt)

inductive Member where
  | method (pos : Nat) (isStatic : Bool) (kind : MethodKind) (key : Key) (function : Function)
  | field (pos : Nat) (isStatic : Bool) (key : Key) (value : Option Expr)
  | staticBlock (pos : Nat) (body : List Stmt)
  | empty

inductive Pattern where
  | ident (pos : Nat) (id : Ident)
  | array (pos : Nat) (items : List Pattern)
  | object (pos : Nat) (properties : List PatternProperty)
  | rest (pos : Nat) (arg : Pattern)
  | assign (pos : Nat) (left : Pattern) (default : Expr)
  /-- Any other target of an assignment. -/
  | expr (target : Expr)
  /-- A missing element of an array pattern. -/
  | hole
  /-- Stands where a fault has been noted. -/
  | invalid (pos : Nat)

inductive PatternProperty where
  | keyValue (key : Key) (value : Pattern)
  | assign (pos : Nat) (id : Ident) (default : Option Expr)
  | rest (pos : Nat) (arg : Pattern)

inductive Declarator where
  | mk (pos : Nat) (target : Pattern) (value : Option Expr)

inductive Case where
  | mk (test : Option Expr) (body : List Stmt)

inductive Stmt where
  | expr (pos : Nat) (value : Expr)
  | block (pos : Nat) (body : List Stmt)
  | empty (pos : Nat)
  | debugger (pos : Nat)
  | declaration (pos : Nat) (kind : VarKind) (declarators : List Declarator)
  | function (pos : Nat) (name : Ident) (function : Function)
  | classDecl (pos : Nat) (name : Ident) (superclass : Option Expr) (members : List Member)
  | ret (pos : Nat) (arg : Option Expr)
  | ifElse (pos : Nat) (test : Expr) (yes : Stmt) (no : Option Stmt)
  /-- The head holds nothing, an expression or a declaration. -/
  | forLoop (pos : Nat) (init : Stmt) (test update : Option Expr) (body : Stmt)
  /-- A kind makes the target a declaration, which may have an initial value. -/
  | forIn (pos : Nat) (kind : Option VarKind) (target : Pattern) (init : Option Expr)
      (object : Expr) (body : Stmt)
  | forOf (pos : Nat) (isAwait : Bool) (kind : Option VarKind) (target : Pattern)
      (iterable : Expr) (body : Stmt)
  | whileLoop (pos : Nat) (test : Expr) (body : Stmt)
  | doLoop (pos : Nat) (body : Stmt) (test : Expr)
  | switch (pos : Nat) (discriminant : Expr) (cases : List Case)
  | throwValue (pos : Nat) (arg : Expr)
  /-- `catchPos` is there when the statement has a `catch`. -/
  | tryBlock (pos : Nat) (block : List Stmt) (catchPos : Option Nat) (param : Option Pattern)
      (handler : List Stmt) (hasFinally : Bool) (finalizer : List Stmt)
  | labeled (pos : Nat) (label : String) (body : Stmt)
  | breakTo (pos : Nat) (label : Option String)
  | continueTo (pos : Nat) (label : Option String)
  | withObject (pos : Nat) (object : Expr) (body : Stmt)

end

/-- Where an expression starts. -/
def Expr.pos : Expr → Nat
  | .this pos | .ident pos _ | .lit pos _ | .template pos _ _ | .tagged pos _ _ _ => pos
  | .array pos _ | .object pos _ | .function pos _ _ | .classExpr pos _ _ _ => pos
  | .arrow pos _ _ _ _ | .unary pos _ _ | .update pos _ _ _ | .binary pos _ _ _ => pos
  | .assign pos _ _ _ | .cond pos _ _ _ | .call pos _ _ | .newCall pos _ _ => pos
  | .member pos _ _ | .index pos _ _ | .privateMember pos _ _ | .superBase pos => pos
  | .importBase pos | .optional pos _ | .seq pos _ | .paren pos _ | .yield pos _ _ => pos
  | .await pos _ | .newTarget pos | .importMeta pos | .privateName pos _ => pos
  | .hole => 0
  | .spread pos _ | .invalid pos => pos

def Pattern.pos : Pattern → Nat
  | .ident pos _ | .array pos _ | .object pos _ | .rest pos _ | .assign pos _ _ => pos
  | .expr target => target.pos
  | .hole => 0
  | .invalid pos => pos

instance : Inhabited Expr := ⟨.hole⟩
instance : Inhabited Pattern := ⟨.hole⟩
instance : Inhabited Stmt := ⟨.empty 0⟩

end BrowserScript.Script
