import BrowserScript.Script.Tree

/-!
The names that patterns and statements declare. A `var` or a function declaration belongs to the
function around it, however deep in blocks it stands; any other declaration belongs to its block.
-/

set_option autoImplicit false

namespace BrowserScript.Script

mutual

/-- The names a pattern binds, in order. -/
def Pattern.names : Pattern → List Ident
  | .ident _ id => [id]
  | .array _ items => namesOfPatterns items
  | .object _ properties => namesOfProperties properties
  | .rest _ arg => arg.names
  | .assign _ left _ => left.names
  | .expr _ | .hole | .invalid _ => []

def namesOfPatterns : List Pattern → List Ident
  | [] => []
  | p :: rest => p.names ++ namesOfPatterns rest

def PatternProperty.names : PatternProperty → List Ident
  | .keyValue _ value => value.names
  | .assign _ id _ => [id]
  | .rest _ arg => arg.names

def namesOfProperties : List PatternProperty → List Ident
  | [] => []
  | p :: rest => p.names ++ namesOfProperties rest

end

def Declarator.target : Declarator → Pattern
  | .mk _ target _ => target

def Declarator.value : Declarator → Option Expr
  | .mk _ _ value => value

/-- The names that some declarators bind. -/
def declaredBy (declarators : List Declarator) : List Ident :=
  declarators.flatMap (·.target.names)

mutual

/-- The names that a statement declares for the function around it. -/
def Stmt.varNames : Stmt → List Ident
  | .declaration _ .var declarators => declaredBy declarators
  | .function _ name _ => [name]
  | .block _ body => varNamesOf body
  | .ifElse _ _ yes no => yes.varNames ++ varNamesOfBranch no
  | .forLoop _ init _ _ body => init.varNames ++ body.varNames
  | .forIn _ kind target _ _ body =>
    (if kind = some .var then target.names else []) ++ body.varNames
  | .forOf _ _ kind target _ body =>
    (if kind = some .var then target.names else []) ++ body.varNames
  | .whileLoop _ _ body | .doLoop _ body _ | .labeled _ _ body | .withObject _ _ body =>
    body.varNames
  | .switch _ _ cases => varNamesOfCases cases
  | .tryBlock _ block _ _ handler _ finalizer =>
    varNamesOf block ++ varNamesOf handler ++ varNamesOf finalizer
  | .declaration .. | .classDecl .. | .expr .. | .empty .. | .debugger .. | .ret ..
  | .throwValue .. | .breakTo .. | .continueTo .. => []

def varNamesOfBranch : Option Stmt → List Ident
  | none => []
  | some s => s.varNames

def varNamesOfCases : List Case → List Ident
  | [] => []
  | .mk _ body :: rest => varNamesOf body ++ varNamesOfCases rest

def varNamesOf : List Stmt → List Ident
  | [] => []
  | s :: rest => s.varNames ++ varNamesOf rest

end

/-- The names that a statement declares for its block alone. -/
def Stmt.blockNames : Stmt → List Ident
  | .declaration _ .var _ => []
  | .declaration _ _ declarators => declaredBy declarators
  | .classDecl _ name _ _ => [name]
  | _ => []

def blockNamesOf (statements : List Stmt) : List Ident := statements.flatMap (·.blockNames)

/-- The cases of a `switch` are one block. -/
def blockNamesOfCases (cases : List Case) : List Ident :=
  cases.flatMap fun
    | .mk _ body => blockNamesOf body

end BrowserScript.Script
