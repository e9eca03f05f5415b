import BrowserScript.Script.Simplify.Effect

/-!
Carrying a value to the place where it is used. The value of `x` is taken along while the next
expressions are evaluated, in the order in which they are: it is put down where `x` is read, and it
stays where it was if something has to be evaluated before that might change the value or be
changed by computing it later.
-/

set_option autoImplicit false

namespace BrowserScript.Script

/-- What comes of carrying a value through a tree. -/
inductive Placement (α : Type) where
  | placed (result : α)
  /-- The tree does not use the value, and computing the value may as well happen behind it. -/
  | passed
  | stuck
  deriving Repr

namespace Placement

variable {α β : Type}

def map (f : α → β) : Placement α → Placement β
  | .placed x => .placed (f x)
  | .passed => .passed
  | .stuck => .stuck

/-- Goes on to what is evaluated next. -/
def orElse (first : Placement α) (next : Unit → Placement α) : Placement α :=
  match first with
  | .passed => next ()
  | first => first

/-- Nothing goes past here. -/
def orStuck (p : Placement α) : Placement α := p.orElse fun _ => .stuck

def isPassed : Placement α → Bool
  | .passed => true
  | _ => false

end Placement

/-- A value on its way. -/
structure Parcel where
  /-- The name that is looked for. -/
  id : Ident
  /-- What is put down in its place. -/
  value : Expr
  /-- The names that may be read before the value is computed. -/
  mayPass : Ident → Bool

/-- As the function of a call, a member must not bring its object along, and a name that only now
turns out to be that of a helper does not make the call one that can go. -/
def Expr.asCallee (e : Expr) : Expr :=
  match e with
  | .member pos .. | .index pos .. | .privateMember pos .. => .seq pos [.lit pos (.number 0), e]
  | .ident pos _ => if e.isPureHelper then .paren pos e else e
  | e => e

namespace Parcel

variable (p : Parcel)

/-- A name that is called. -/
def placeCallee (id : Ident) : Placement Expr :=
  if id = p.id then .placed p.value.asCallee
  else if p.mayPass id || id.scope = 0 then .passed
  else .stuck

mutual

def place : Expr → Placement Expr
  | .ident _ id =>
    if id = p.id then .placed p.value else if p.mayPass id then .passed else .stuck
  | .lit _ _ | .this _ | .function .. | .arrow .. | .newTarget _ | .privateName _ _ | .hole
  | .superBase _ | .importBase _ | .importMeta _ => .passed
  | .classExpr _ _ superclass members =>
    if superclass.isSome || anyMemberEffect members then .stuck else .passed
  | .template pos quasis values => (placeList values).map (.template pos quasis ·)
  | .tagged pos tag quasis values =>
    ((place tag).map (.tagged pos · quasis values)).orElse fun _ =>
      ((placeList values).map (.tagged pos tag quasis ·)).orStuck
  | .array pos items => (placeList items).map (.array pos ·)
  | .object pos properties => (placeProperties properties).map (.object pos ·)
  | .unary pos op arg =>
    if op = .delete then .stuck else (place arg).map (.unary pos op ·)
  | .update pos isBefore op arg =>
    match arg with
    | .ident .. => .stuck
    | arg => (placeOwner arg).map (.update pos isBefore op ·) |>.orStuck
  | .binary pos op left right =>
    ((place left).map (.binary pos op · right)).orElse fun _ =>
      if op.isLogical then (if (place right).isPassed then .passed else .stuck)
      else (place right).map (.binary pos op left ·)
  | .cond pos test yes no =>
    ((place test).map (.cond pos · yes no)).orElse fun _ =>
      if (place yes).isPassed && (place no).isPassed then .passed else .stuck
  | .assign pos op target value =>
    match target, op with
    | .ident _ id, .assign =>
      if id = p.id then .stuck else ((place value).map (.assign pos op target ·)).orStuck
    | .ident _ id, _ =>
      if id = p.id || !p.mayPass id then .stuck
      else ((place value).map (.assign pos op target ·)).orStuck
    | .expr owner, .assign =>
      ((placeOwner owner).map fun e => .assign pos op (.expr e) value).orElse fun _ =>
        ((place value).map (.assign pos op target ·)).orStuck
    | .expr owner, _ => ((placeOwner owner).map fun e => .assign pos op (.expr e) value).orStuck
    | _, _ => ((place value).map (.assign pos op target ·)).orStuck
  | .call pos callee args =>
    let first := match callee with
      | .ident _ id => p.placeCallee id
      | callee => place callee
    (first.map (Expr.call pos · args)).orElse fun _ =>
      ((placeList args).map (.call pos callee ·)).orStuck
  | .newCall pos callee args =>
    ((place callee).map (.newCall pos · args)).orElse fun _ =>
      ((placeList args).map (.newCall pos callee ·)).orStuck
  | .member pos base name => ((place base).map (.member pos · name)).orStuck
  | .index pos base key =>
    ((place base).map (.index pos · key)).orElse fun _ =>
      ((place key).map (.index pos base ·)).orStuck
  | .privateMember pos base name => ((place base).map (.privateMember pos · name)).orStuck
  | .seq pos exprs => (placeList exprs).map (.seq pos ·)
  | .paren pos inner => (place inner).map (.paren pos ·)
  | .yield pos isDelegate (some arg) => ((place arg).map (.yield pos isDelegate <| some ·)).orStuck
  | .await pos arg => ((place arg).map (.await pos ·)).orStuck
  | .spread pos value => ((place value).map (.spread pos ·)).orStuck
  | .optional .. | .yield _ _ none | .invalid _ => .stuck

/-- The object, and the key, of a member that is assigned to. -/
def placeOwner : Expr → Placement Expr
  | .member pos base name => (place base).map (.member pos · name)
  | .index pos base key =>
    ((place base).map (.index pos · key)).orElse fun _ => (place key).map (.index pos base ·)
  | _ => .stuck

def placeList : List Expr → Placement (List Expr)
  | [] => .passed
  | e :: rest =>
    ((place e).map (· :: rest)).orElse fun _ => (placeList rest).map (e :: ·)

def placeProperties : List Property → Placement (List Property)
  | [] => .passed
  | property :: rest =>
    ((placeProperty property).map (· :: rest)).orElse fun _ =>
      (placeProperties rest).map (property :: ·)

def placeProperty : Property → Placement Property
  | .keyValue pos key value =>
    ((placeKey key).map (.keyValue pos · value)).orElse fun _ =>
      (place value).map (.keyValue pos key ·)
  | .shorthand pos id =>
    if id = p.id then .placed (.keyValue pos (.ident id.name) p.value)
    else if p.mayPass id then .passed
    else .stuck
  | .method pos kind key function => (placeKey key).map (.method pos kind · function)
  | .spread pos value => ((place value).map (.spread pos ·)).orStuck
  | .initialized .. => .stuck

def placeKey : Key → Placement Key
  | .computed value => (place value).map .computed
  | _ => .passed

end

end Parcel

end BrowserScript.Script
