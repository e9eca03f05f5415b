import BrowserScript.Script.Printer
import BrowserScript.Script.Search
import BrowserScript.Script.Simplify.Usage
import BrowserScript.Script.Simplify.Value

/-!
Which values are worth putting in the place of a name, and which may be put there: those that are
the same wherever and whenever they are computed.
-/

set_option autoImplicit false

namespace BrowserScript.Script

/-- A value that is written about as shortly as a name is, however often it is. -/
def Expr.isSmall (reads : Nat) : Expr → Bool
  | .lit _ (.string text) => reads ≤ 1 || text.utf8ByteSize ≤ 3
  | .lit _ (.regex _ _) => false
  | .lit _ _ | .unary _ .void (.lit _ _) | .unary _ .bang (.lit _ _) => true
  | _ => false

/-- A name that stands for one value wherever it can be read. -/
def UsageTable.isSteady (table : UsageTable) (id : Ident) : Bool :=
  let u := table.of id
  id.scope ≠ 0 && u.isConstant && (u.isFunction || !u.isReadBeforeDeclared) &&
    (u.isFunction || u.isParam || u.initialized = 1)

/-! ## What a function uses besides its parameters -/

/-- The object that a function is called on, its list of arguments, and what else depends on how
it is called. -/
def Search.callContext : Search where
  expr
    | .this _ | .newTarget _ | .superBase _ | .yield .. | .await .. => true
    | _ => false
  ident := fun id => id.isGlobal "arguments"
  intoFunctions := false

def Search.functions : Search where
  expr
    | .function .. | .arrow .. | .classExpr .. => true
    | _ => false
  stmt
    | .function .. | .classDecl .. => true
    | _ => false

/-- Only returns a value, or only evaluates an expression. -/
def isSingleStep : List Stmt → Bool
  | [.ret _ (some _)] | [.expr _ _] => true
  | _ => false

/-! ## Values that may be moved -/

mutual

/-- Can it be computed somewhere else in the same function, at another time? -/
def Expr.isFixed (table : UsageTable) : Expr → Bool
  | .lit _ (.regex _ _) => false
  | .lit _ _ | .unary _ .void (.lit _ _) | .unary _ .bang (.lit _ _) => true
  | .ident _ id => table.isSteady id
  | .function .. | .arrow .. => true
  | .array _ items => areFixed table items
  | .object _ properties => areFixedProperties table properties
  | _ => false

def areFixed (table : UsageTable) : List Expr → Bool
  | [] => true
  | e :: rest => e.isFixed table && areFixed table rest

def areFixedProperties (table : UsageTable) : List Property → Bool
  | [] => true
  | property :: rest =>
    (match property with
      | .keyValue _ (.computed _) _ | .initialized .. | .spread .. => false
      | .keyValue _ _ value => value.isFixed table
      | .shorthand _ id => table.isSteady id
      | .method _ _ (.computed _) _ => false
      | .method .. => true) && areFixedProperties table rest

end

/-- Can it be computed in another function? -/
def Expr.isFixedAnywhere (table : UsageTable) : Expr → Bool
  | .lit _ (.regex _ _) => false
  | .lit _ _ | .unary _ .void (.lit _ _) | .unary _ .bang (.lit _ _) => true
  | .ident _ id => table.isSteady id
  | .function _ _ (.mk _ false false _ body) => isSingleStep body
  | .arrow _ false _ _ body => isSingleStep body && !Search.callContext.findsInStmts body
  | _ => false

/-- Values of properties that may become variables of their own. -/
def Expr.isPlainProperty : Expr → Bool
  | .ident .. | .lit .. | .arrow .. | .classExpr .. => true
  | .function _ _ (.mk _ _ _ _ body) => !Search.callContext.findsInStmts body
  | .unary _ .void arg | .unary _ .typeof arg | .unary _ .bang arg => arg.isPlainProperty
  | .array _ items => allPlain items
  | .object _ properties => allPlainProperties properties
  | _ => false
where
  allPlain : List Expr → Bool
    | [] => true
    | e :: rest => e.isPlainProperty && allPlain rest
  allPlainProperties : List Property → Bool
    | [] => true
    | .keyValue _ (.computed _) _ :: _ => false
    | .keyValue _ _ value :: rest => value.isPlainProperty && allPlainProperties rest
    | .shorthand _ _ :: rest => allPlainProperties rest
    | _ => false

/-! ## Functions that may be copied -/

/-- Gives every name that the script declares one letter. -/
def letterVisitor : Nat → Visitor Id
  | 0 => { expr := pure, pattern := pure, function := pure, stmt := pure, stmts := pure }
  | fuel + 1 =>
    { expr := (·.mapParts (letterVisitor fuel))
      pattern := (·.mapParts (letterVisitor fuel))
      function := (·.mapParts (letterVisitor fuel))
      stmt := (·.mapParts (letterVisitor fuel))
      stmts := (·.mapM (·.mapParts (letterVisitor fuel)))
      ident := fun id => if id.scope = 0 then id else { id with name := "a" } }

/-- How long the text of an expression is when every name takes one letter. -/
def Expr.textSize (e : Expr) : Nat :=
  let short := (letterVisitor (e.weight + 1)).expr e
  (printScript [.expr 0 short]).utf8ByteSize - 1

/-- The names of parameters that are nothing else. -/
def plainParams? : List Pattern → Option (List Ident)
  | [] => some []
  | .ident _ id :: rest => (plainParams? rest).map (id :: ·)
  | _ => none

/-- A function so short that a copy of it is not much longer than a call. -/
def Function.isShort : Function → Bool
  | .mk _ false false params body =>
    (plainParams? params).isSome &&
      (match body with
        | [] => true
        | [.ret _ (some e)] | [.expr _ e] => e.textSize < 8 + 2 * params.length
        | _ => false) &&
      !Search.callContext.findsInStmts body && !Search.functions.findsInStmts body
  | _ => false

end BrowserScript.Script
