import BrowserScript.Script.Printer
import BrowserScript.Script.Renaming.Alphabet
import BrowserScript.Script.Renaming.NameScope
import BrowserScript.Script.Search
import Std.Data.HashMap

/-!
Renaming: every binding of a script gets the shortest name that is free. A name is free for a
binding if it is no reserved word, is not the name of anything outside of the script, and belongs
to no other binding that is used where this one is declared. Scopes are served from the outside to
the inside, and the bindings of a scope in the order of the text.
-/

set_option autoImplicit false

namespace BrowserScript.Script

/-- A new name and the binding that has it. -/
structure NewName where
  name : String
  id : Ident
  deriving Repr

/-- What keeps names from being chosen. -/
structure NameRules where
  alphabet : Alphabet
  /-- The names that belong to the world around the script. -/
  outside : List String

namespace NameRules

/-- Can a binding of a scope have this name? -/
def isFree (rules : NameRules) (visible : List Ident) (given : List NewName)
    (name : String) : Bool :=
  !unusableNames.contains name && !rules.outside.contains name &&
    !given.any fun new => new.name = name && visible.contains new.id

/-- The number of the first free name from number `n` on. -/
def firstFree (rules : NameRules) (visible : List Ident) (given : List NewName) :
    Nat → Nat → Nat
  | 0, n => n
  | fuel + 1, n =>
    if rules.isFree visible given (rules.alphabet.name n) then n
    else firstFree rules visible given fuel (n + 1)

/-- Names the bindings of one scope, in order, from number `n` on. -/
def nameAll (rules : NameRules) (visible : List Ident) :
    List Ident → Nat → List NewName → List NewName
  | [], _, given => given
  | id :: rest, n, given =>
    if id.scope = 0 || id.name = "arguments" || id.name = "eval" then
      nameAll rules visible rest n given
    else
      let fuel := unusableNames.length + rules.outside.length + given.length + 1
      let n := rules.firstFree visible given fuel n
      nameAll rules visible rest (n + 1) (given ++ [⟨rules.alphabet.name n, id⟩])

mutual

/-- The names of a scope and all scopes inside of it; `given` holds those of the scopes around. -/
def nameScope (rules : NameRules) (given : List NewName) : NameScope → List NewName
  | .mk declared used inner =>
    let visible := (NameScope.mk declared used inner).allUsed
    let names := rules.nameAll visible declared 0 given
    names.drop given.length ++ nameScopes rules names inner

def nameScopes (rules : NameRules) (given : List NewName) : List NameScope → List NewName
  | [] => []
  | s :: rest => nameScope rules given s ++ nameScopes rules given rest

end

end NameRules

/-- The new names of bindings. -/
abbrev NameTable := Std.HashMap Ident String

namespace NameTable

def rename (table : NameTable) (id : Ident) : Ident :=
  match table.get? id with
  | some name => { id with name }
  | none => id

/-- A name that stands for a key as well is written out if only the value is renamed. -/
def property (table : NameTable) (pos : Nat) (id : Ident) : Property :=
  let new := table.rename id
  if new.name = id.name then .shorthand pos id else .keyValue pos (.ident id.name) (.ident pos new)

def target (table : NameTable) (pos : Nat) (id : Ident) (value : Option Expr) :
    PatternProperty :=
  let new := table.rename id
  if new.name = id.name then .assign pos id value
  else
    match value with
    | none => .keyValue (.ident id.name) (.ident pos new)
    | some value => .keyValue (.ident id.name) (.assign pos (.ident pos new) value)

/-- Applies new names in all parts of a node. -/
def visitor (table : NameTable) : Nat → Visitor Id
  | 0 => { expr := pure, pattern := pure, function := pure, stmt := pure, stmts := pure }
  | fuel + 1 =>
    { expr := (·.mapParts (visitor table fuel))
      pattern := (·.mapParts (visitor table fuel))
      function := (·.mapParts (visitor table fuel))
      stmt := (·.mapParts (visitor table fuel))
      stmts := (·.mapM (·.mapParts (visitor table fuel)))
      ident := fun id => pure (table.rename id)
      shorthand := fun pos id => pure (table.property pos id)
      shortTarget := fun pos id value => pure (table.target pos id value) }

end NameTable

/-- Notes the names that stand for bindings of the script's own, and the labels. -/
def ownNameVisitor : Nat → Visitor (StateM (List String))
  | 0 => { expr := pure, pattern := pure, function := pure, stmt := pure, stmts := pure }
  | fuel + 1 =>
    let visitStmt := fun (s : Stmt) => do
      match s with
      | .labeled _ label _ | .breakTo _ (some label) | .continueTo _ (some label) =>
        modify (label :: ·)
      | _ => pure ()
      s.mapParts (ownNameVisitor fuel)
    { expr := (·.mapParts (ownNameVisitor fuel))
      pattern := (·.mapParts (ownNameVisitor fuel))
      function := (·.mapParts (ownNameVisitor fuel))
      stmt := visitStmt
      stmts := (·.mapM visitStmt)
      ident := fun id => do
        if id.scope ≠ 0 then modify (id.name :: ·)
        return id }

/-- The letters of names that will be replaced do not count. -/
def alphabetFor (statements : List Stmt) : Alphabet :=
  let visitor := ownNameVisitor (weightOfStmts statements + 1)
  .ofText [printScript statements] (((visitor.stmts statements).run []).2)

/-- Names the bindings that are declared in a tree of scopes; the other names that occur in it are
taken. -/
def NameTable.ofScope (alphabet : Alphabet) (scope : NameScope) : NameTable :=
  let declared := scope.allDeclared
  let outside := (scope.allUsed.filter (!declared.contains ·)).map (·.name)
  let names := NameRules.nameScope ⟨alphabet, outside.eraseDups⟩ [] scope
  .ofList (names.map fun new => (new.id, new.name))

/-- Renames a function whose names cannot be used unseen, and leaves all others alone. -/
def renameFunctions (alphabet : Alphabet) : Nat → Visitor Id
  | 0 => { expr := pure, pattern := pure, function := pure, stmt := pure, stmts := pure }
  | fuel + 1 =>
    let renameUnit := fun (e : Expr) =>
      if Search.dynamicNames.findsInExpr e then e.mapParts (renameFunctions alphabet fuel)
      else
        let table := NameTable.ofScope alphabet (.ofScript [.expr 0 e])
        e.mapParts (table.visitor (e.weight + 1))
    { expr := fun e =>
        match e with
        | .function .. | .arrow .. => renameUnit e
        | _ => e.mapParts (renameFunctions alphabet fuel)
      pattern := (·.mapParts (renameFunctions alphabet fuel))
      function := fun f =>
        match renameUnit (.function 0 none f) with
        | .function _ _ f => f
        | _ => f
      stmt := (·.mapParts (renameFunctions alphabet fuel))
      stmts := (·.mapM (·.mapParts (renameFunctions alphabet fuel))) }

/-- Renames the bindings of a script. Where names may be used unseen, only functions apart from
that are served. -/
def renameScript (statements : List Stmt) : List Stmt :=
  let alphabet := alphabetFor statements
  let fuel := weightOfStmts statements + 1
  if Search.dynamicNames.findsInStmts statements then
    (renameFunctions alphabet fuel).stmts statements
  else ((NameTable.ofScope alphabet (.ofScript statements)).visitor fuel).stmts statements

end BrowserScript.Script
