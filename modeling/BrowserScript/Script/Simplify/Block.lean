import BrowserScript.Script.Declared
import BrowserScript.Script.Search
import BrowserScript.Script.Simplify.Effect

/-!
Rules for lists of statements that look at nothing but their form: blocks that declare nothing of
their own are opened, what can never be reached goes, and declarations are moved together.
-/

set_option autoImplicit false

namespace BrowserScript.Script

/-- A statement that is only there to make the code strict. -/
def Stmt.isDirective : Stmt → Bool
  | .expr _ (.lit _ (.string text)) => text = "use strict"
  | _ => false

def Stmt.isEmpty : Stmt → Bool
  | .empty _ => true
  | _ => false

/-- Does a statement declare something for its block alone? -/
def Stmt.isBlockBound : Stmt → Bool
  | .declaration _ .var _ => false
  | .declaration .. | .classDecl .. | .function .. => true
  | _ => false

/-- Statements as one. -/
def Stmt.ofList (pos : Nat) : List Stmt → Stmt
  | [] => .empty pos
  | [s] => if s.isBlockBound then .block pos [s] else s
  | body => .block pos body

/-- The statements that a statement consists of. -/
def Stmt.toList : Stmt → List Stmt
  | .block pos body => if body.any (·.isBlockBound) then [.block pos body] else body
  | .empty _ => []
  | s => [s]

/-! ## What cannot be reached -/

/-- Never goes on with the next statement. -/
def Stmt.leaves : Stmt → Bool
  | .ret .. | .throwValue .. | .breakTo .. | .continueTo .. => true
  | .block _ body => anyLeaves body
  | .ifElse _ _ yes (some no) => yes.leaves && no.leaves
  | _ => false
where
  anyLeaves : List Stmt → Bool
    | [] => false
    | s :: rest => s.leaves || anyLeaves rest

/-- The `var` declarations that have to stay of statements that never run. -/
def remains (statements : List Stmt) : List Stmt :=
  let functions := statements.filter fun | .function .. => true | _ => false
  let names := (varNamesOf (statements.filter fun | .function .. => false | _ => true)).eraseDups
  let declarators := names.map fun id => Declarator.mk 0 (.ident 0 id) none
  (if declarators.isEmpty then [] else [.declaration 0 .var declarators]) ++ functions

/-- Drops the statements behind one that never goes on. -/
def dropUnreachable : List Stmt → List Stmt
  | [] => []
  | s :: rest => if s.leaves then s :: remains rest else s :: dropUnreachable rest

/-! ## Declarations without a value -/

def Declarator.isBare : Declarator → Bool
  | .mk _ _ value => value.isNone

/-- The lists of `var` declarators in some statements, in the order of the text. -/
def Stmt.varLists : Stmt → List (List Declarator)
  | .declaration _ .var declarators => [declarators]
  | .block _ body => varListsOf body
  | .ifElse _ _ yes no => yes.varLists ++ varListsOfBranch no
  | .forLoop _ init _ _ body => init.varLists ++ body.varLists
  | .forIn _ _ _ _ _ body | .forOf _ _ _ _ _ body | .whileLoop _ _ body | .doLoop _ body _
  | .labeled _ _ body | .withObject _ _ body => body.varLists
  | .switch _ _ cases => varListsOfCases cases
  | .tryBlock _ body _ _ handler _ finalizer =>
    varListsOf body ++ varListsOf handler ++ varListsOf finalizer
  | _ => []
where
  varListsOf : List Stmt → List (List Declarator)
    | [] => []
    | s :: rest => s.varLists ++ varListsOf rest
  varListsOfBranch : Option Stmt → List (List Declarator)
    | none => []
    | some s => s.varLists
  varListsOfCases : List Case → List (List Declarator)
    | [] => []
    | .mk _ body :: rest => varListsOf body ++ varListsOfCases rest

/-- Is there a bare declarator behind one with a value, or a list of bare ones behind another
list? -/
def isScattered : List (List Declarator) → Bool
  | [] => false
  | list :: rest =>
    (list.dropWhile Declarator.isBare).any Declarator.isBare ||
      rest.any (·.all Declarator.isBare) || isScattered rest

/-- Does a declaration without a value stand behind another kind of statement? -/
def standsBehind (kind : VarKind) : Bool → List Stmt → Bool
  | _, [] => false
  | behind, s :: rest =>
    match s with
    | .declaration _ k declarators =>
      if k = kind && declarators.any (·.isBare) then behind || standsBehind kind behind rest
      else standsBehind kind true rest
    | .expr _ (.lit _ (.string _)) => standsBehind kind behind rest
    | _ => standsBehind kind true rest

/-- Takes the bare `var` declarators out of all statements of a function, or puts some into the
first list that has a value. -/
structure VarMove where
  taken : List Declarator := []
  isTaking : Bool

/-- Visits the lists of `var` declarators. -/
def varMover : Nat → Visitor (StateM VarMove)
  | 0 => { expr := pure, pattern := pure, function := pure, stmt := pure, stmts := pure }
  | fuel + 1 =>
    let visitStmt := fun (s : Stmt) => do
      match s with
      | .declaration pos .var declarators =>
        let move ← get
        if move.isTaking then
          set { move with taken := move.taken ++ declarators.filter Declarator.isBare }
          match declarators.filter (!·.isBare) with
          | [] => return .empty pos
          | rest => return .declaration pos .var rest
        else if declarators.isEmpty || declarators.any Declarator.isBare then return s
        else
          set { move with taken := [] }
          return .declaration pos .var (move.taken ++ declarators)
      | .function .. | .classDecl .. => return s
      | _ => s.mapParts (varMover fuel)
    { expr := pure
      pattern := pure
      function := pure
      stmt := visitStmt
      stmts := (·.mapM visitStmt) }

/-- Puts statements behind the directives in front. -/
def behindDirectives (new statements : List Stmt) : List Stmt :=
  statements.takeWhile (·.isDirective) ++ new ++ statements.dropWhile (·.isDirective)

/-- One declaration without values is enough for a function. -/
def gatherVars (statements : List Stmt) : List Stmt :=
  if standsBehind .var false statements ||
      isScattered (statements.flatMap (·.varLists)) then
    let fuel := weightOfStmts statements + 1
    let (body, move) := ((varMover fuel).stmts statements).run { isTaking := true }
    let (body, move) := ((varMover fuel).stmts body).run { move with isTaking := false }
    if move.taken.isEmpty then body
    else behindDirectives [.declaration 0 .var move.taken] body
  else statements

/-- One declaration without values is enough for a block. -/
def gatherLets (statements : List Stmt) : List Stmt :=
  if standsBehind .letVar false statements then
    let bare := statements.flatMap fun
      | .declaration _ .letVar declarators => declarators.filter (·.isBare)
      | _ => []
    let rest := statements.filterMap fun
      | .declaration pos .letVar declarators =>
        match declarators.filter (!·.isBare) with
        | [] => none
        | rest => some (.declaration pos .letVar rest)
      | s => some s
    behindDirectives [.declaration 0 .letVar bare] rest
  else statements

/-! ## Joining declarations -/

/-- Can a declaration be joined with what follows it? -/
def areJoinable : Stmt → Stmt → Bool
  | .declaration _ a _, .declaration _ b _ => a = b
  | .declaration _ .var _, .forLoop _ init _ _ _ =>
    match init with
    | .empty _ | .declaration _ .var _ => true
    | _ => false
  | _, _ => false

def anyJoinable : List Stmt → Bool
  | a :: b :: rest => areJoinable a b || anyJoinable (b :: rest)
  | _ => false

/-- Joins declarations of one kind, and a `var` declaration with the head of a loop behind it.
Directives move to the front of the declaration that is being joined. -/
def joinFrom (pending : Option (Nat × VarKind × List Declarator)) : List Stmt → List Stmt
  | [] => flush pending
  | s :: rest =>
    match s, pending with
    | .declaration pos kind declarators, some (start, k, before) =>
      if k = kind then joinFrom (some (start, k, before ++ declarators)) rest
      else flush pending ++ joinFrom (some (pos, kind, declarators)) rest
    | .declaration pos kind declarators, none => joinFrom (some (pos, kind, declarators)) rest
    | .forLoop pos (.empty _) test update body, some (start, .var, before) =>
      .forLoop pos (.declaration start .var before) test update body :: joinFrom none rest
    | .forLoop pos (.declaration _ .var declarators) test update body,
        some (start, .var, before) =>
      .forLoop pos (.declaration start .var (before ++ declarators)) test update body ::
        joinFrom none rest
    | s, _ =>
      if s.isDirective then s :: joinFrom pending rest
      else flush pending ++ s :: joinFrom none rest
where
  flush : Option (Nat × VarKind × List Declarator) → List Stmt
    | none => []
    | some (pos, kind, declarators) => [.declaration pos kind declarators]

def joinDeclarations (statements : List Stmt) : List Stmt :=
  if anyJoinable statements then joinFrom none statements else statements

/-! ## All of it -/

/-- The rules for a list of statements, in order. -/
def tidyList (joining : Bool) (statements : List Stmt) : List Stmt :=
  let reached := dropUnreachable statements
  let opened := reached.flatMap (·.toList)
  let gathered := gatherVars (gatherLets opened)
  let joined := if joining then joinDeclarations gathered else gathered
  joined.filter (!·.isEmpty)

end BrowserScript.Script
