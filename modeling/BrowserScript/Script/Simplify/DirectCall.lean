import BrowserScript.Script.Simplify.Desk

/-!
Functions that are called where they are written. If the body does nothing but evaluate one
expression after the other, the call is that sequence: parameters and variables become variables of
the function around, and a parameter that stands for a steady value is replaced by it. Any other
body stays a function, but takes over the arguments that are short values.
-/

set_option autoImplicit false

namespace BrowserScript.Script

/-- A function and the arguments of its only call. -/
structure DirectCall where
  pos : Nat
  params : List Ident
  body : List Stmt
  args : List Expr

/-- A body that runs straight to its end. -/
structure Straight where
  /-- The variables it declares. -/
  names : List Ident := []
  effects : List Expr := []
  result : Expr

namespace Straight

/-- The variables of a declaration, with their values. -/
def declared? : List Declarator → Option (List (Ident × Option Expr))
  | [] => some []
  | .mk _ (.ident _ id) value :: rest => (declared? rest).map ((id, value) :: ·)
  | _ => none

/-- The assignments that a declaration makes. In a loop a variable without a value has to forget
what it was before. -/
def assignments (pos : Nat) (inLoop : Bool) (names : List (Ident × Option Expr)) : List Expr :=
  names.filterMap fun (id, value) =>
    match value with
    | some value => some (.assign pos .assign (.ident pos id) value)
    | none =>
      if inLoop then some (.assign pos .assign (.ident pos id) (.undefined pos)) else none

def ofBody? (pos : Nat) (inLoop : Bool) : List Stmt → Option Straight
  | [] => some { result := .undefined pos }
  | [.ret _ value] => some { result := value.getD (.undefined pos) }
  | s :: rest =>
    match s with
    | .expr p e =>
      if (Stmt.expr p e).isDirective then none
      else (ofBody? pos inLoop rest).map fun t => { t with effects := e.parts ++ t.effects }
    | .declaration _ _ declarators => do
      let names ← declared? declarators
      let t ← ofBody? pos inLoop rest
      return { t with
        names := names.map (·.1) ++ t.names
        effects := assignments pos inLoop names ++ t.effects }
    | _ => none

end Straight

/-- What becomes of a parameter. -/
inductive Binding where
  /-- Its value takes its place. -/
  | substituted (value : Expr)
  /-- It becomes a variable. -/
  | assigned (value : Expr)
  /-- Nothing reads it. -/
  | unused (effects : List Expr)

namespace DirectCall

/-- Parameters and arguments, side by side. -/
def pairs (c : DirectCall) : List (Ident × Option Expr) :=
  c.params.zipIdx.map fun (id, i) => (id, c.args[i]?)

/-- The effects of the arguments without a parameter. -/
def surplus (c : DirectCall) : List Expr := effectsOf (c.args.drop c.params.length)

/-- A name that stands for the value of its declaration and never for another one. -/
def isInitialized (table : UsageTable) : Expr → Bool
  | .ident _ id => table.isSteady id && !(table.of id).isParam
  | _ => false

def binding (table : UsageTable) (pos : Nat) (id : Ident) (arg : Option Expr) : Binding :=
  let u := table.of id
  match arg with
  | none =>
    if u.isUnused then .unused []
    else if u.isConstant then .substituted (.undefined pos)
    else .assigned (.undefined pos)
  | some value =>
    if u.isUnused then .unused value.effects
    else if u.isConstant && (value.isSmall u.reads || isInitialized table value) then
      .substituted value
    else .assigned value

/-- Replaces the call by a sequence, if the body is straight. -/
def sequence? (c : DirectCall) : Work (Option Expr) := do
  let d ← get
  match Straight.ofBody? c.pos d.inLoop c.body with
  | none => return none
  | some straight =>
    let bindings := c.pairs.map fun (id, arg) => (id, binding d.table c.pos id arg)
    let assigned := bindings.filterMap fun
      | (id, .assigned _) => some id
      | _ => none
    let names := (assigned ++ straight.names).eraseDups
    if !names.isEmpty && (!d.canHoist || (d.inLoop && Search.functions.findsInStmts c.body)) then
      return none
    let values := bindings.filterMap fun
      | (id, .substituted value) => some (id, value)
      | _ => none
    let first := bindings.flatMap fun
      | (id, .assigned value) => [.assign c.pos .assign (.ident c.pos id) value]
      | (_, .unused effects) => effects
      | _ => []
    let rest ← Desk.substituteAll values (straight.effects ++ [straight.result])
    assigned.forM fun id => Desk.change id fun u =>
      { u with writes := u.writes + 1, isParam := false }
    straight.names.forM fun id => Desk.change id fun u =>
      { u with writes := u.writes + u.initialized, initialized := 0 }
    modify fun d => { d with hoisted := d.hoisted ++ names }
    let e ← Desk.merging (Merging.mergeSeq c.pos ((first ++ c.surplus ++ rest).flatMap (·.parts)))
    return some e

/-- What is passed for a parameter that nothing reads. -/
def placeholder (pos : Nat) (value : Expr) : Expr :=
  (Expr.ofParts pos value.effects).getD (.lit pos (.number 0))

/-- Moves short arguments into the body. -/
def shorten (c : DirectCall) : Work (List Stmt × List Expr) := do
  let table := (← get).table
  let plans := c.pairs.map fun (id, arg) =>
    let u := table.of id
    let value := arg.getD (.undefined c.pos)
    if !u.isUnused && u.isConstant && (arg.isNone || (u.reads = 1 && value.isSmall 2)) then
      (id, some value, arg.map fun _ => Expr.lit c.pos (.number 0))
    else if u.isUnused then (id, none, arg.map (placeholder c.pos))
    else (id, none, arg)
  let values := plans.filterMap fun (id, value, _) => value.map (id, ·)
  let body ← Desk.substitute values c.body
  values.forM fun (id, _) => Desk.change id fun u => { u with reads := 0 }
  return (body, plans.filterMap (·.2.2) ++ c.surplus)

end DirectCall

/-- Simplifies a call of a function that is written where it is called. -/
def directCall (pos : Nat) (callee : Expr) (args : List Expr) : Work Expr := do
  if args.any Expr.isSpread || (← get).isVeiled then return .call pos callee args
  match callee with
  | .function p name (.mk q false false params body) =>
    let recursive ← name.elim (pure false) fun id => return (← Desk.usage id).reads > 0
    match plainParams? params with
    | some ids =>
      if recursive || Search.callContext.findsInStmts body then return .call pos callee args
      let c : DirectCall := ⟨pos, ids, body, args⟩
      match ← c.sequence? with
      | some e => return e
      | none =>
        let (body, args) ← c.shorten
        return .call pos (.function p name (.mk q false false params body)) args
    | none => return .call pos callee args
  | .arrow p false params isExpr body =>
    match plainParams? params with
    | some ids =>
      let c : DirectCall := ⟨pos, ids, body, args⟩
      match ← c.sequence? with
      | some e => return e
      | none =>
        let (body, args) ← c.shorten
        return .call pos (.arrow p false params isExpr body) args
    | none => return .call pos callee args
  | callee => return .call pos callee args

end BrowserScript.Script
