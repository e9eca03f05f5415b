import BrowserScript.Script.Tree

/-!
The language baseline of the output is the edition of 2015. Scripts are not lowered to it, so
whatever is newer has to be found. The constructs of a script are listed in the order in which its
trees are walked: each construct before its parts.
-/

set_option autoImplicit false

namespace BrowserScript.Script

inductive NewerFeature where
  | exponentiation
  | exponentiationAssignment
  | nullishCoalescing
  | logicalAssignment
  | optionalChaining
  | asyncFunction
  | asyncArrow
  | awaitExpression
  | awaitLoop
  | objectSpread
  | objectRest
  | catchWithoutBinding
  | bigInteger
  | dynamicImport
  | classField
  | regexFlag
  deriving DecidableEq, Repr, Inhabited

/-- The name of a feature, with the edition that brought it. -/
def NewerFeature.text : NewerFeature → String
  | .exponentiation => "exponentiation operator (ES2016)"
  | .exponentiationAssignment => "exponentiation assignment (ES2016)"
  | .nullishCoalescing => "nullish coalescing operator (ES2020)"
  | .logicalAssignment => "logical assignment (ES2021)"
  | .optionalChaining => "optional chaining (ES2020)"
  | .asyncFunction => "async function (ES2017)"
  | .asyncArrow => "async arrow function (ES2017)"
  | .awaitExpression => "await expression (ES2017)"
  | .awaitLoop => "for await loop (ES2018)"
  | .objectSpread => "object spread (ES2018)"
  | .objectRest => "object rest pattern (ES2018)"
  | .catchWithoutBinding => "optional catch binding (ES2019)"
  | .bigInteger => "BigInt literal (ES2020)"
  | .dynamicImport => "dynamic import (ES2020)"
  | .classField => "class field (ES2022)"
  | .regexFlag => "regular expression flag newer than ES2015"

/-- A use of a newer feature, and where it stands. -/
structure NewerUse where
  feature : NewerFeature
  pos : Nat
  deriving DecidableEq, Repr, Inhabited

/-- The flags of regular expressions that the baseline knows. -/
def baselineRegexFlags : List Char := ['g', 'i', 'm', 'u', 'y']

def BinaryOp.newerFeature? : BinaryOp → Option NewerFeature
  | .exp => some .exponentiation
  | .nullish => some .nullishCoalescing
  | _ => none

def AssignOp.newerFeature? : AssignOp → Option NewerFeature
  | .combine .exp => some .exponentiationAssignment
  | .combine .and | .combine .or | .combine .nullish => some .logicalAssignment
  | _ => none

def Lit.newerFeature? : Lit → Option NewerFeature
  | .bigint _ => some .bigInteger
  | .regex _ flags =>
    if flags.toList.all baselineRegexFlags.contains then none else some .regexFlag
  | _ => none

def Key.isPrivate : Key → Bool
  | .privateName _ => true
  | _ => false

/-- The use of a feature, when there is one. -/
def useAt (pos : Nat) (feature : Option NewerFeature) : List NewerUse :=
  (feature.map (⟨·, pos⟩)).toList

mutual

def Expr.newerUses : Expr → List NewerUse
  | .lit pos value => useAt pos value.newerFeature?
  | .template _ _ values => newerInExprs values
  | .tagged _ tag _ values => tag.newerUses ++ newerInExprs values
  | .array _ items => newerInExprs items
  | .object _ properties => newerInProperties properties
  | .function _ _ function => function.newerUses
  | .classExpr _ _ superclass members => newerInMembers members ++ newerInOption superclass
  | .arrow pos isAsync params _ body =>
    useAt pos (if isAsync then some .asyncArrow else none) ++ newerInPatterns params ++
      newerInStmts body
  | .unary _ _ arg | .update _ _ _ arg | .paren _ arg | .spread _ arg => arg.newerUses
  | .binary pos op left right => useAt pos op.newerFeature? ++ left.newerUses ++ right.newerUses
  | .assign pos op target value =>
    useAt pos op.newerFeature? ++ target.newerUses ++ value.newerUses
  | .cond _ test yes no => test.newerUses ++ yes.newerUses ++ no.newerUses
  | .call _ callee args => callee.newerUses ++ newerInExprs args
  | .newCall _ callee args => callee.newerUses ++ newerInExprs args
  | .member _ object _ => object.newerUses
  | .index _ object key => object.newerUses ++ key.newerUses
  | .privateMember _ object _ => object.newerUses
  | .importBase pos => useAt pos (some .dynamicImport)
  | .optional pos chain => useAt pos (some .optionalChaining) ++ chain.newerUses
  | .seq _ exprs => newerInExprs exprs
  | .yield _ _ arg => newerInOption arg
  | .await pos arg => useAt pos (some .awaitExpression) ++ arg.newerUses
  | .this _ | .ident _ _ | .superBase _ | .newTarget _ | .importMeta _ | .privateName _ _
  | .hole | .invalid _ => []

def newerInOption : Option Expr → List NewerUse
  | none => []
  | some e => e.newerUses

def newerInExprs : List Expr → List NewerUse
  | [] => []
  | e :: rest => e.newerUses ++ newerInExprs rest

def Key.newerUses : Key → List NewerUse
  | .bigint pos _ => useAt pos (some .bigInteger)
  | .computed value => value.newerUses
  | _ => []

def Property.newerUses : Property → List NewerUse
  | .keyValue _ key value => key.newerUses ++ value.newerUses
  | .shorthand _ _ => []
  | .initialized _ _ value => value.newerUses
  | .method _ _ key function => key.newerUses ++ function.newerUses
  | .spread pos value => useAt pos (some .objectSpread) ++ value.newerUses

def newerInProperties : List Property → List NewerUse
  | [] => []
  | p :: rest => p.newerUses ++ newerInProperties rest

def Function.newerUses : Function → List NewerUse
  | .mk pos isAsync _ params body =>
    useAt pos (if isAsync then some .asyncFunction else none) ++ newerInPatterns params ++
      newerInStmts body

def Member.newerUses : Member → List NewerUse
  | .method pos _ _ key function =>
    useAt pos (if key.isPrivate then some .classField else none) ++ key.newerUses ++
      function.newerUses
  | .field pos _ key value =>
    useAt pos (some .classField) ++ key.newerUses ++ newerInOption value
  | .staticBlock pos body => useAt pos (some .classField) ++ newerInStmts body
  | .empty => []

def newerInMembers : List Member → List NewerUse
  | [] => []
  | m :: rest => m.newerUses ++ newerInMembers rest

def Pattern.newerUses : Pattern → List NewerUse
  | .array _ items => newerInPatterns items
  | .object _ properties => newerInPatternProperties properties
  | .rest _ arg => arg.newerUses
  | .assign _ left value => left.newerUses ++ value.newerUses
  | .expr target => target.newerUses
  | .ident _ _ | .hole | .invalid _ => []

def newerInPatterns : List Pattern → List NewerUse
  | [] => []
  | p :: rest => p.newerUses ++ newerInPatterns rest

def PatternProperty.newerUses : PatternProperty → List NewerUse
  | .keyValue key value => key.newerUses ++ value.newerUses
  | .assign _ _ value => newerInOption value
  | .rest pos arg => useAt pos (some .objectRest) ++ arg.newerUses

def newerInPatternProperties : List PatternProperty → List NewerUse
  | [] => []
  | p :: rest => p.newerUses ++ newerInPatternProperties rest

def Declarator.newerUses : Declarator → List NewerUse
  | .mk _ target value => target.newerUses ++ newerInOption value

def newerInDeclarators : List Declarator → List NewerUse
  | [] => []
  | d :: rest => d.newerUses ++ newerInDeclarators rest

def newerInCases : List Case → List NewerUse
  | [] => []
  | .mk test body :: rest => newerInOption test ++ newerInStmts body ++ newerInCases rest

/-- A `do` loop is walked through its test first. -/
def Stmt.newerUses : Stmt → List NewerUse
  | .expr _ value => value.newerUses
  | .block _ body => newerInStmts body
  | .declaration _ _ declarators => newerInDeclarators declarators
  | .function _ _ function => function.newerUses
  | .classDecl _ _ superclass members => newerInMembers members ++ newerInOption superclass
  | .ret _ arg => newerInOption arg
  | .ifElse _ test yes no => test.newerUses ++ yes.newerUses ++ newerInBranch no
  | .forLoop _ init test update body =>
    init.newerUses ++ newerInOption test ++ newerInOption update ++ body.newerUses
  | .forIn _ _ target init object body =>
    target.newerUses ++ newerInOption init ++ object.newerUses ++ body.newerUses
  | .forOf pos isAwait _ target iterable body =>
    useAt pos (if isAwait then some .awaitLoop else none) ++ target.newerUses ++
      iterable.newerUses ++ body.newerUses
  | .whileLoop _ test body => test.newerUses ++ body.newerUses
  | .doLoop _ body test => test.newerUses ++ body.newerUses
  | .switch _ discriminant cases => discriminant.newerUses ++ newerInCases cases
  | .throwValue _ arg => arg.newerUses
  | .tryBlock _ block catchPos param handler _ finalizer =>
    newerInStmts block ++
      useAt (catchPos.getD 0)
        (if catchPos.isSome && param.isNone then some .catchWithoutBinding else none) ++
      newerInParam param ++ newerInStmts handler ++ newerInStmts finalizer
  | .labeled _ _ body => body.newerUses
  | .withObject _ object body => object.newerUses ++ body.newerUses
  | .empty _ | .debugger _ | .breakTo _ _ | .continueTo _ _ => []

def newerInBranch : Option Stmt → List NewerUse
  | none => []
  | some s => s.newerUses

def newerInParam : Option Pattern → List NewerUse
  | none => []
  | some p => p.newerUses

def newerInStmts : List Stmt → List NewerUse
  | [] => []
  | s :: rest => s.newerUses ++ newerInStmts rest

end

end BrowserScript.Script
