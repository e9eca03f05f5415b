import BrowserScript.Script.PureName
import BrowserScript.Script.Simplify.Value

/-!
What evaluating an expression does besides giving a value. Reading a name of the world around the
script may fail, so it counts as an effect, as reading a property does. `effects` keeps of an
expression whose value is not used what has to run all the same.
-/

set_option autoImplicit false

namespace BrowserScript.Script

/-- Names of the world around that are always there. -/
def constantGlobals : List String := ["undefined", "NaN", "Infinity", "arguments"]

/-- Can reading the name fail? -/
def Ident.isUncertain (id : Ident) : Bool := id.scope = 0 && !constantGlobals.contains id.name

/-- Is this one of the helpers whose calls have no effect of their own? -/
def Expr.isPureHelper : Expr → Bool
  | .ident _ id => pureNames.contains id.name
  | _ => false

/-- A function that does nothing, whatever it is called with. -/
def Expr.doesNothing : Expr → Bool
  | .function _ _ (.mk _ false false params []) => params.all fun
    | .ident _ _ => true
    | _ => false
  | .arrow _ false params _ [] => params.all fun
    | .ident _ _ => true
    | _ => false
  | _ => false

def Expr.isSpread : Expr → Bool
  | .spread .. => true
  | _ => false

mutual

/-- May evaluating this do anything that can be noticed? -/
def Expr.hasEffect : Expr → Bool
  | .ident _ id => id.isUncertain
  | .lit _ _ | .this _ | .function .. | .arrow .. | .newTarget _ | .privateName _ _ | .hole
  | .superBase _ | .importBase _ | .importMeta _ | .invalid _ => false
  | .template _ _ values => anyEffect values
  | .array _ items => anyEffect items
  | .object _ properties => anyPropertyEffect properties
  | .classExpr _ _ superclass members => superclass.isSome || anyMemberEffect members
  | .unary _ op arg =>
    match op, arg with
    | .delete, _ => true
    | .typeof, .ident _ _ => false
    | _, arg => arg.hasEffect
  | .binary _ _ left right => left.hasEffect || right.hasEffect
  | .cond _ test yes no => test.hasEffect || yes.hasEffect || no.hasEffect
  | .call _ callee args => !callee.doesNothing || anyEffect args
  | .seq _ exprs => anyEffect exprs
  | .paren _ inner => inner.hasEffect
  | .newCall .. | .member .. | .index .. | .privateMember .. | .optional .. | .update ..
  | .assign .. | .yield .. | .await .. | .spread .. | .tagged .. => true

def anyEffect : List Expr → Bool
  | [] => false
  | e :: rest => e.hasEffect || anyEffect rest

def Key.hasEffect : Key → Bool
  | .computed value => value.hasEffect
  | _ => false

def anyPropertyEffect : List Property → Bool
  | [] => false
  | .keyValue _ key value :: rest => key.hasEffect || value.hasEffect || anyPropertyEffect rest
  | .shorthand _ id :: rest => id.isUncertain || anyPropertyEffect rest
  | .initialized .. :: _ | .spread .. :: _ => true
  | .method _ _ key _ :: rest => key.hasEffect || anyPropertyEffect rest

def anyMemberEffect : List Member → Bool
  | [] => false
  | .method _ _ _ key _ :: rest => key.hasEffect || anyMemberEffect rest
  | .field _ isStatic key _ :: rest => isStatic || key.hasEffect || anyMemberEffect rest
  | .staticBlock _ _ :: _ => true
  | .empty :: rest => anyMemberEffect rest

end

/-- The expressions of a sequence. -/
def Expr.parts : Expr → List Expr
  | .seq _ exprs => exprs
  | e => [e]

/-- Expressions one after the other. -/
def Expr.ofParts (pos : Nat) : List Expr → Option Expr
  | [] => none
  | [e] => some e
  | exprs => some (.seq pos exprs)

/-- A second expression that runs only if the first is true or, for `or`, false. A negation in
front changes the operator instead. -/
def guarded (pos : Nat) (op : BinaryOp) (test next : Expr) : Expr :=
  match op, test with
  | .and, .unary _ .bang test => .binary pos .or test next
  | .or, .unary _ .bang test => .binary pos .and test next
  | op, test => .binary pos op test next

mutual

/-- What has to run of an expression whose value is not used, in order. -/
def Expr.effects : Expr → List Expr
  | .ident pos id => if id.isUncertain then [.ident pos id] else []
  | .template _ _ values => effectsOf values
  | .tagged pos tag quasis values =>
    if tag.isPureHelper then effectsOf values else [.tagged pos tag quasis values]
  | .array pos items =>
    if items.any (·.isSpread) then [.array pos items]
    else effectsOf items
  | .object pos properties =>
    if properties.any fun | .spread .. => true | .initialized .. => true | _ => false then
      [.object pos properties]
    else propertyEffects properties
  | .unary pos op arg =>
    match op, arg with
    | .delete, arg => [.unary pos .delete arg]
    | .typeof, .ident _ _ => []
    | _, arg => arg.effects
  | .binary pos op left right =>
    if op = .and || op = .or then
      match Expr.ofParts pos right.effects with
      | none => left.effects
      | some right => [guarded pos op left right]
    else left.effects ++ right.effects
  | .cond pos test yes no =>
    match Expr.ofParts pos yes.effects, Expr.ofParts pos no.effects with
    | none, none => test.effects
    | some yes, none => [guarded pos .and test yes]
    | none, some no => [guarded pos .or test no]
    | some yes, some no => [.cond pos test yes no]
  | .call pos callee args =>
    if (callee.isPureHelper || callee.doesNothing) &&
        !args.any (·.isSpread) then
      effectsOf args
    else [.call pos callee args]
  | .seq _ exprs => effectsOf exprs
  | .paren _ inner => inner.effects
  | .classExpr pos name superclass members =>
    if superclass.isSome || anyMemberEffect members then
      [.classExpr pos name superclass members]
    else []
  | .lit _ _ | .this _ | .function .. | .arrow .. | .newTarget _ | .privateName _ _ | .hole
  | .superBase _ | .importBase _ | .importMeta _ | .invalid _ => []
  | .newCall pos callee args => [.newCall pos callee args]
  | .member pos base name => [.member pos base name]
  | .index pos base key => [.index pos base key]
  | .privateMember pos base name => [.privateMember pos base name]
  | .optional pos chain => [.optional pos chain]
  | .update pos isBefore op arg => [.update pos isBefore op arg]
  | .assign pos op target value => [.assign pos op target value]
  | .yield pos isDelegate arg => [.yield pos isDelegate arg]
  | .await pos arg => [.await pos arg]
  | .spread pos value => [.spread pos value]

def effectsOf : List Expr → List Expr
  | [] => []
  | e :: rest => e.effects ++ effectsOf rest

def keyEffects : Key → List Expr
  | .computed value => value.effects
  | _ => []

def propertyEffects : List Property → List Expr
  | [] => []
  | .keyValue _ key value :: rest => keyEffects key ++ value.effects ++ propertyEffects rest
  | .shorthand pos id :: rest =>
    (if id.isUncertain then [.ident pos id] else []) ++ propertyEffects rest
  | .method _ _ key _ :: rest => keyEffects key ++ propertyEffects rest
  | .initialized .. :: rest | .spread .. :: rest => propertyEffects rest

end

end BrowserScript.Script
