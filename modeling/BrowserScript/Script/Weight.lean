import BrowserScript.Script.Tree

/-!
The weight of a tree: how many nodes it has. It bounds how deep a walk through the tree can go.
-/

set_option autoImplicit false

namespace BrowserScript.Script

mutual

def Expr.weight : Expr → Nat
  | .template _ _ values => 1 + weightOfExprs values
  | .tagged _ tag _ values => 1 + tag.weight + weightOfExprs values
  | .array _ items => 1 + weightOfExprs items
  | .object _ properties => 1 + weightOfProperties properties
  | .function _ _ function => 1 + function.weight
  | .classExpr _ _ superclass members => 1 + weightOfOption superclass + weightOfMembers members
  | .arrow _ _ params _ body => 1 + weightOfPatterns params + weightOfStmts body
  | .unary _ _ arg | .update _ _ _ arg | .paren _ arg | .spread _ arg | .await _ arg
  | .optional _ arg => 1 + arg.weight
  | .binary _ _ left right => 1 + left.weight + right.weight
  | .assign _ _ target value => 1 + target.weight + value.weight
  | .cond _ test yes no => 1 + test.weight + yes.weight + no.weight
  | .call _ callee args => 1 + callee.weight + weightOfExprs args
  | .newCall _ callee args => 1 + callee.weight + weightOfExprs args
  | .member _ base _ => 1 + base.weight
  | .index _ base key => 1 + base.weight + key.weight
  | .privateMember _ base _ => 1 + base.weight
  | .seq _ exprs => 1 + weightOfExprs exprs
  | .yield _ _ arg => 1 + weightOfOption arg
  | .this _ | .ident _ _ | .lit _ _ | .superBase _ | .importBase _ | .newTarget _
  | .importMeta _ | .privateName _ _ | .hole | .invalid _ => 1

def weightOfOption : Option Expr → Nat
  | none => 0
  | some e => e.weight

def weightOfExprs : List Expr → Nat
  | [] => 0
  | e :: rest => e.weight + weightOfExprs rest

def Key.weight : Key → Nat
  | .computed value => 1 + value.weight
  | _ => 1

def Property.weight : Property → Nat
  | .keyValue _ key value => 1 + key.weight + value.weight
  | .shorthand _ _ => 1
  | .initialized _ _ value => 1 + value.weight
  | .method _ _ key function => 1 + key.weight + function.weight
  | .spread _ value => 1 + value.weight

def weightOfProperties : List Property → Nat
  | [] => 0
  | p :: rest => p.weight + weightOfProperties rest

def Function.weight : Function → Nat
  | .mk _ _ _ params body => 1 + weightOfPatterns params + weightOfStmts body

def Member.weight : Member → Nat
  | .method _ _ _ key function => 1 + key.weight + function.weight
  | .field _ _ key value => 1 + key.weight + weightOfOption value
  | .staticBlock _ body => 1 + weightOfStmts body
  | .empty => 1

def weightOfMembers : List Member → Nat
  | [] => 0
  | m :: rest => m.weight + weightOfMembers rest

def Pattern.weight : Pattern → Nat
  | .array _ items => 1 + weightOfPatterns items
  | .object _ properties => 1 + weightOfPatternProperties properties
  | .rest _ arg => 1 + arg.weight
  | .assign _ left value => 1 + left.weight + value.weight
  | .expr target => 1 + target.weight
  | .ident _ _ | .hole | .invalid _ => 1

def weightOfPatterns : List Pattern → Nat
  | [] => 0
  | p :: rest => p.weight + weightOfPatterns rest

def PatternProperty.weight : PatternProperty → Nat
  | .keyValue key value => 1 + key.weight + value.weight
  | .assign _ _ value => 1 + weightOfOption value
  | .rest _ arg => 1 + arg.weight

def weightOfPatternProperties : List PatternProperty → Nat
  | [] => 0
  | p :: rest => p.weight + weightOfPatternProperties rest

def Declarator.weight : Declarator → Nat
  | .mk _ target value => 1 + target.weight + weightOfOption value

def weightOfDeclarators : List Declarator → Nat
  | [] => 0
  | d :: rest => d.weight + weightOfDeclarators rest

def weightOfCases : List Case → Nat
  | [] => 0
  | .mk test body :: rest => 1 + weightOfOption test + weightOfStmts body + weightOfCases rest

def Stmt.weight : Stmt → Nat
  | .expr _ value => 1 + value.weight
  | .block _ body => 1 + weightOfStmts body
  | .declaration _ _ declarators => 1 + weightOfDeclarators declarators
  | .function _ _ function => 1 + function.weight
  | .classDecl _ _ superclass members => 1 + weightOfOption superclass + weightOfMembers members
  | .ret _ arg => 1 + weightOfOption arg
  | .ifElse _ test yes no => 1 + test.weight + yes.weight + weightOfBranch no
  | .forLoop _ init test update body =>
    1 + init.weight + weightOfOption test + weightOfOption update + body.weight
  | .forIn _ _ target init object body =>
    1 + target.weight + weightOfOption init + object.weight + body.weight
  | .forOf _ _ _ target iterable body => 1 + target.weight + iterable.weight + body.weight
  | .whileLoop _ test body => 1 + test.weight + body.weight
  | .doLoop _ body test => 1 + body.weight + test.weight
  | .switch _ discriminant cases => 1 + discriminant.weight + weightOfCases cases
  | .throwValue _ arg => 1 + arg.weight
  | .tryBlock _ block _ param handler _ finalizer =>
    1 + weightOfStmts block + weightOfParam param + weightOfStmts handler +
      weightOfStmts finalizer
  | .labeled _ _ body => 1 + body.weight
  | .withObject _ object body => 1 + object.weight + body.weight
  | .empty _ | .debugger _ | .breakTo _ _ | .continueTo _ _ => 1

def weightOfBranch : Option Stmt → Nat
  | none => 0
  | some s => s.weight

def weightOfParam : Option Pattern → Nat
  | none => 0
  | some p => p.weight

def weightOfStmts : List Stmt → Nat
  | [] => 0
  | s :: rest => s.weight + weightOfStmts rest

end

end BrowserScript.Script
