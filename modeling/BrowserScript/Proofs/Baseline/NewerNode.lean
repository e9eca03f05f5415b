import BrowserScript.Script.Baseline

/-!
The nodes of a script tree, and which of them are newer than the baseline. `Node` puts the kinds of
trees together, `Within` says that a node stands somewhere in another one, at any depth, and
`NewerNode` has one rule for each construct that the baseline does not know. Nodes are smaller than
the nodes they are parts of, so a property of all nodes can be proved from the parts up
(`Node.induction`).
-/

set_option autoImplicit false
set_option relaxedAutoImplicit false

namespace BrowserScript.Script

/-! ### Nodes and their parts -/

/-- A place in a tree, of any kind. -/
inductive Node where
  | expr (value : Expr)
  | key (name : Key)
  | property (item : Property)
  | function (fn : Function)
  | member (item : Member)
  | pattern (target : Pattern)
  | patternProperty (item : PatternProperty)
  | declarator (item : Declarator)
  | switchCase (branch : Case)
  /-- The clause of a `try` statement, which has a place if it is there. -/
  | catchClause (pos : Option Nat) (param : Option Pattern) (handler : List Stmt)
  | stmt (statement : Stmt)

def Expr.subnodes : Expr → List Node
  | .template _ _ values => values.map .expr
  | .tagged _ tag _ values => .expr tag :: values.map .expr
  | .array _ items => items.map .expr
  | .object _ properties => properties.map .property
  | .function _ _ fn => [.function fn]
  | .classExpr _ _ superclass members => members.map .member ++ superclass.toList.map .expr
  | .arrow _ _ params _ body => params.map .pattern ++ body.map .stmt
  | .unary _ _ arg | .update _ _ _ arg | .paren _ arg | .spread _ arg | .await _ arg
  | .optional _ arg => [.expr arg]
  | .binary _ _ left right => [.expr left, .expr right]
  | .assign _ _ target value => [.pattern target, .expr value]
  | .cond _ test yes no => [.expr test, .expr yes, .expr no]
  | .call _ callee args | .newCall _ callee args => .expr callee :: args.map .expr
  | .member _ base _ | .privateMember _ base _ => [.expr base]
  | .index _ base key => [.expr base, .expr key]
  | .seq _ exprs => exprs.map .expr
  | .yield _ _ arg => arg.toList.map .expr
  | .this _ | .ident _ _ | .lit _ _ | .superBase _ | .importBase _ | .newTarget _ | .importMeta _
  | .privateName _ _ | .hole | .invalid _ => []

def Key.subnodes : Key → List Node
  | .computed value => [.expr value]
  | .ident _ | .string _ | .number _ | .bigint _ _ | .privateName _ => []

def Property.subnodes : Property → List Node
  | .keyValue _ key value => [.key key, .expr value]
  | .shorthand _ _ => []
  | .initialized _ _ value => [.expr value]
  | .method _ _ key fn => [.key key, .function fn]
  | .spread _ value => [.expr value]

def Function.subnodes : Function → List Node
  | .mk _ _ _ params body => params.map .pattern ++ body.map .stmt

def Member.subnodes : Member → List Node
  | .method _ _ _ key fn => [.key key, .function fn]
  | .field _ _ key value => .key key :: value.toList.map .expr
  | .staticBlock _ body => body.map .stmt
  | .empty => []

def Pattern.subnodes : Pattern → List Node
  | .array _ items => items.map .pattern
  | .object _ properties => properties.map .patternProperty
  | .rest _ arg => [.pattern arg]
  | .assign _ left value => [.pattern left, .expr value]
  | .expr target => [.expr target]
  | .ident _ _ | .hole | .invalid _ => []

def PatternProperty.subnodes : PatternProperty → List Node
  | .keyValue key value => [.key key, .pattern value]
  | .assign _ _ value => value.toList.map .expr
  | .rest _ arg => [.pattern arg]

def Declarator.subnodes : Declarator → List Node
  | .mk _ target value => .pattern target :: value.toList.map .expr

def Case.subnodes : Case → List Node
  | .mk test body => test.toList.map .expr ++ body.map .stmt

def Stmt.subnodes : Stmt → List Node
  | .expr _ value => [.expr value]
  | .block _ body => body.map .stmt
  | .declaration _ _ declarators => declarators.map .declarator
  | .function _ _ fn => [.function fn]
  | .classDecl _ _ superclass members => members.map .member ++ superclass.toList.map .expr
  | .ret _ arg => arg.toList.map .expr
  | .ifElse _ test yes no => .expr test :: .stmt yes :: no.toList.map .stmt
  | .forLoop _ init test update body =>
    .stmt init :: (test.toList.map .expr ++ update.toList.map .expr ++ [.stmt body])
  | .forIn _ _ target init object body =>
    .pattern target :: (init.toList.map .expr ++ [.expr object, .stmt body])
  | .forOf _ _ _ target iterable body => [.pattern target, .expr iterable, .stmt body]
  | .whileLoop _ test body | .doLoop _ body test => [.expr test, .stmt body]
  | .switch _ discriminant cases => .expr discriminant :: cases.map .switchCase
  | .throwValue _ arg => [.expr arg]
  | .tryBlock _ body catchPos param handler _ finalizer =>
    body.map .stmt ++ .catchClause catchPos param handler :: finalizer.map .stmt
  | .labeled _ _ body => [.stmt body]
  | .withObject _ object body => [.expr object, .stmt body]
  | .empty _ | .debugger _ | .breakTo _ _ | .continueTo _ _ => []

/-- The nodes that a node is made of, in the order in which they are walked. -/
def Node.subnodes : Node → List Node
  | .expr value => value.subnodes
  | .key name => name.subnodes
  | .property item => item.subnodes
  | .function fn => fn.subnodes
  | .member item => item.subnodes
  | .pattern target => target.subnodes
  | .patternProperty item => item.subnodes
  | .declarator item => item.subnodes
  | .switchCase branch => branch.subnodes
  | .catchClause _ param handler => param.toList.map .pattern ++ handler.map .stmt
  | .stmt statement => statement.subnodes

/-- A node stands in another one, or is that node. -/
inductive Within : Node → Node → Prop
  | here (node : Node) : Within node node
  | part {inner part node : Node} (hpart : part ∈ node.subnodes) (hinner : Within inner part) :
    Within inner node

/-- A node stands in a script, at any depth. -/
def InScript (node : Node) (statements : List Stmt) : Prop :=
  ∃ statement ∈ statements, Within node (.stmt statement)

namespace Node

attribute [local simp] subnodes

attribute [local grind =] expr.sizeOf_spec key.sizeOf_spec property.sizeOf_spec
  function.sizeOf_spec member.sizeOf_spec pattern.sizeOf_spec patternProperty.sizeOf_spec
  declarator.sizeOf_spec switchCase.sizeOf_spec catchClause.sizeOf_spec stmt.sizeOf_spec
  Option.some.sizeOf_spec

attribute [local grind →] List.sizeOf_lt_of_mem

theorem sizeOf_lt_of_mem_subnodes {part node : Node} (h : part ∈ node.subnodes) :
    sizeOf part < sizeOf node := by
  cases node with
  | expr value => cases value <;> simp [Expr.subnodes] at h ⊢ <;> grind
  | key name => cases name <;> simp [Key.subnodes] at h ⊢ <;> grind
  | property item => cases item <;> simp [Property.subnodes] at h ⊢ <;> grind
  | function fn => cases fn; simp [Function.subnodes] at h ⊢; grind
  | member item => cases item <;> simp [Member.subnodes] at h ⊢ <;> grind
  | pattern target => cases target <;> simp [Pattern.subnodes] at h ⊢ <;> grind
  | patternProperty item => cases item <;> simp [PatternProperty.subnodes] at h ⊢ <;> grind
  | declarator item => cases item; simp [Declarator.subnodes] at h ⊢; grind
  | switchCase branch => cases branch; simp [Case.subnodes] at h ⊢; grind
  | catchClause pos param handler => simp at h ⊢; grind
  | stmt statement => cases statement <;> simp [Stmt.subnodes] at h ⊢ <;> grind

/-- What holds of a node whenever it holds of its parts holds of every node. -/
theorem induction {motive : Node → Prop}
    (node : ∀ node : Node, (∀ part ∈ node.subnodes, motive part) → motive node) (root : Node) :
    motive root :=
  node root fun part _ ↦ induction node part
termination_by sizeOf root
decreasing_by exact sizeOf_lt_of_mem_subnodes ‹_›

end Node

/-! ### Newer nodes -/

/-- A node is newer than the baseline, with the feature it uses and the place of that use. An async
method is a function of its own, and accessors that stand for a field are no part of the trees. -/
inductive NewerNode : Node → NewerUse → Prop
  | exponentiation (pos : Nat) (left right : Expr) :
    NewerNode (.expr (.binary pos .exp left right)) ⟨.exponentiation, pos⟩
  | nullishCoalescing (pos : Nat) (left right : Expr) :
    NewerNode (.expr (.binary pos .nullish left right)) ⟨.nullishCoalescing, pos⟩
  | exponentiationAssignment (pos : Nat) (target : Pattern) (value : Expr) :
    NewerNode (.expr (.assign pos (.combine .exp) target value)) ⟨.exponentiationAssignment, pos⟩
  | logicalAssignment {op : BinaryOp} (hop : op = .and ∨ op = .or ∨ op = .nullish) (pos : Nat)
    (target : Pattern) (value : Expr) :
    NewerNode (.expr (.assign pos (.combine op) target value)) ⟨.logicalAssignment, pos⟩
  | optionalChain (pos : Nat) (chain : Expr) :
    NewerNode (.expr (.optional pos chain)) ⟨.optionalChaining, pos⟩
  | asyncFunction (pos : Nat) (isGenerator : Bool) (params : List Pattern) (body : List Stmt) :
    NewerNode (.function (.mk pos true isGenerator params body)) ⟨.asyncFunction, pos⟩
  | asyncArrow (pos : Nat) (params : List Pattern) (isExpr : Bool) (body : List Stmt) :
    NewerNode (.expr (.arrow pos true params isExpr body)) ⟨.asyncArrow, pos⟩
  | awaitExpression (pos : Nat) (arg : Expr) :
    NewerNode (.expr (.await pos arg)) ⟨.awaitExpression, pos⟩
  | awaitLoop (pos : Nat) (kind : Option VarKind) (target : Pattern) (iterable : Expr)
    (body : Stmt) :
    NewerNode (.stmt (.forOf pos true kind target iterable body)) ⟨.awaitLoop, pos⟩
  | objectSpread (pos : Nat) (value : Expr) :
    NewerNode (.property (.spread pos value)) ⟨.objectSpread, pos⟩
  | objectRest (pos : Nat) (arg : Pattern) :
    NewerNode (.patternProperty (.rest pos arg)) ⟨.objectRest, pos⟩
  | bareCatch (pos : Nat) (handler : List Stmt) :
    NewerNode (.catchClause (some pos) none handler) ⟨.catchWithoutBinding, pos⟩
  | bigInteger (pos : Nat) (digits : String) :
    NewerNode (.expr (.lit pos (.bigint digits))) ⟨.bigInteger, pos⟩
  | bigIntegerKey (pos : Nat) (digits : String) :
    NewerNode (.key (.bigint pos digits)) ⟨.bigInteger, pos⟩
  | dynamicImport (pos : Nat) : NewerNode (.expr (.importBase pos)) ⟨.dynamicImport, pos⟩
  | classField (pos : Nat) (isStatic : Bool) (key : Key) (value : Option Expr) :
    NewerNode (.member (.field pos isStatic key value)) ⟨.classField, pos⟩
  | privateMethod (pos : Nat) (isStatic : Bool) (kind : MethodKind) (name : String)
    (function : Function) :
    NewerNode (.member (.method pos isStatic kind (.privateName name) function))
      ⟨.classField, pos⟩
  | staticBlock (pos : Nat) (body : List Stmt) :
    NewerNode (.member (.staticBlock pos body)) ⟨.classField, pos⟩
  | regexFlag {flags : String} {flag : Char} (hflag : flag ∈ flags.toList)
    (hnewer : flag ∉ ['g', 'i', 'm', 'u', 'y']) (pos : Nat) (pattern : String) :
    NewerNode (.expr (.lit pos (.regex pattern flags))) ⟨.regexFlag, pos⟩

end BrowserScript.Script
