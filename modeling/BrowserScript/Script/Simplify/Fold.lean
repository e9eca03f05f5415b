import BrowserScript.Script.Character
import BrowserScript.Script.Simplify.Effect
import BrowserScript.Script.Token

/-!
Local rules for expressions: values that are known are computed, and what has a shorter form with
the same meaning gets it. Each rule looks at one node whose parts have been simplified before.
-/

set_option autoImplicit false

namespace BrowserScript.Script

/-! ## Tests and negation -/

def BinaryOp.negated? : BinaryOp → Option BinaryOp
  | .looseEq => some .looseNe
  | .looseNe => some .looseEq
  | .strictEq => some .strictNe
  | .strictNe => some .strictEq
  | _ => none

/-- The negation of a value, as `true` or `false`. -/
def Expr.negated (e : Expr) : Expr :=
  match e with
  | .lit pos (.bool value) => .lit pos (.bool !value)
  | .binary pos op left right =>
    match op.negated? with
    | some op => .binary pos op left right
    | none => .unary pos .bang e
  | .unary pos .bang arg => if arg.type? = some .boolean then arg else .unary pos .bang e
  | e => .unary e.pos .bang e

/-- An expression of which only the truth is used. -/
def Expr.asTest : Expr → Expr
  | .unary pos .bang arg =>
    match arg with
    | .unary _ .bang inner => inner.asTest
    | arg => .unary pos .bang arg.asTest
  | .binary pos .and left right =>
    if right.truthy? = some true && !right.hasEffect then left.asTest
    else .binary pos .and left.asTest right.asTest
  | .binary pos .or left right =>
    if right.truthy? = some false && !right.hasEffect then left.asTest
    else .binary pos .or left.asTest right.asTest
  | .cond pos test yes no => .cond pos test yes.asTest no.asTest
  | e => e

/-- The negation of an expression of which only the truth is used. -/
def Expr.negatedTest (e : Expr) : Expr :=
  match e with
  | .unary _ .bang arg => arg
  | e => e.negated

/-- A value as `true` or `false`. -/
def Expr.asBoolean (e : Expr) : Expr :=
  if e.type? = some .boolean then e else .unary e.pos .bang (.unary e.pos .bang e)

/-! ## Names of members -/

/-- May the text stand as a name behind a point or in front of a colon? -/
def isPropertyName (ascii : Bool) (text : String) : Bool :=
  match text.toList with
  | [] => false
  | c :: rest =>
    isNameStart c && rest.all isNameFollow && (!ascii || text.toList.all (·.toNat < 128))

/-- The number that a key of digits stands for. -/
def wholeNumber? (text : String) : Option Float :=
  let digits := text.toList
  if digits.isEmpty || !digits.all Char.isDigit || (digits.head? = some '0' && digits.length > 1)
  then none
  else
    let n := digits.foldl (fun n d => n * 10 + (d.toNat - 48)) 0
    if n < 0x100000000 then some (Float.ofNat n) else none

/-- A key in its shortest form. -/
def Key.short : Key → Key
  | .string text =>
    if isPropertyName false text then .ident text
    else match wholeNumber? text with
      | some value => .number value
      | none => .string text
  | .computed (.lit _ (.string text)) =>
    if text = "__proto__" then .computed (.lit 0 (.string text))
    else if isPropertyName false text then .ident text
    else .string text
  | .computed (.lit _ (.number value)) => .number value
  | key => key

def Key.isNamed (key : Key) (name : String) : Bool :=
  match key with
  | .ident text | .string text => text = name
  | _ => false

/-- The value of a property of an object that is written out, when nothing else in the object has
an effect. -/
def propertyValue? (name : String) : List Property → Option Expr
  | [] => none
  | properties =>
    if anyPropertyEffect properties || properties.any (fun
        | .keyValue _ (.computed _) _ | .method .. | .initialized .. | .spread .. => true
        | .keyValue _ key _ => key.isNamed "__proto__"
        | .shorthand .. => false) then none
    else
      properties.reverse.findSome? fun
        | .keyValue _ key value => if key.isNamed name then some value else none
        | .shorthand pos id => if id.name = name then some (.ident pos id) else none
        | _ => none

/-! ## Rules for one node -/

/-- Computes an operation on numbers when the result is exact enough to be written. -/
def arithmetic? (op : BinaryOp) (a b : Float) : Option Float :=
  match op with
  | .add => some (a + b)
  | .sub => some (a - b)
  | .mul => some (a * b)
  | .div =>
    let x := a / b
    if x.isFinite && x == x.floor then some x else none
  | .mod =>
    if b == 0 || a < 0 || b < 0 || a != a.floor || b != b.floor || a ≥ 9007199254740992 ||
        b ≥ 9007199254740992 then none
    else some (Float.ofNat (a.toUInt64.toNat % b.toUInt64.toNat))
  | _ => none

/-- Is a number a signed integer of 32 bits? -/
def int32? (x : Float) : Option Int :=
  if x == x.floor && x.abs < 2147483648 then
    some (if x < 0 then -(x.abs.toUInt64.toNat : Int) else (x.toUInt64.toNat : Int))
  else none

def bitwise? (op : BinaryOp) (a b : Float) : Option Float := do
  let a ← int32? a
  let b ← int32? b
  let x := Int32.ofInt a
  let y := Int32.ofInt b
  let n ← match op with
    | .bitOr => some (x ||| y)
    | .bitAnd => some (x &&& y)
    | .bitXor => some (x ^^^ y)
    | .shiftLeft => if 0 ≤ b ∧ b < 32 then some (x <<< y) else none
    | .shiftRight => if 0 ≤ b ∧ b < 32 then some (x >>> y) else none
    | _ => none
  return Float.ofInt n.toInt

/-- Compares two values without identity. -/
def equal? (strict : Bool) (a b : Known) : Option Bool :=
  match a, b with
  | .number x, .number y => some (x == y)
  | .string x, .string y => some (x = y)
  | .bool x, .bool y => some (x = y)
  | .undefined, .undefined | .null, .null => some true
  | .undefined, .null | .null, .undefined => some !strict
  | .null, _ | .undefined, _ | _, .null | _, .undefined => some false
  | _, _ => if strict then some false else none

/-- Computes a binary operation on known values. -/
def compute? (op : BinaryOp) (a b : Known) : Option Known :=
  match op, a, b with
  | .add, .string x, y => some (.string (x ++ y.asText))
  | .add, x, .string y => some (.string (x.asText ++ y))
  | .looseEq, a, b => (equal? false a b).map .bool
  | .looseNe, a, b => (equal? false a b).map (.bool !·)
  | .strictEq, a, b => (equal? true a b).map .bool
  | .strictNe, a, b => (equal? true a b).map (.bool !·)
  | .lt, .number x, .number y => some (.bool (x < y))
  | .le, .number x, .number y => some (.bool (x ≤ y))
  | .gt, .number x, .number y => some (.bool (y < x))
  | .ge, .number x, .number y => some (.bool (y ≤ x))
  | _, a, b => do
    let x ← a.asNumber?
    let y ← b.asNumber?
    (arithmetic? op x y <|> bitwise? op x y).map .number

/-- May a literal on the right change sides with this expression? -/
def Expr.yieldsToLiteral : Expr → Bool
  | .ident .. | .member .. | .index .. | .call .. | .assign .. | .update .. | .unary .. => true
  | .binary _ op _ _ => op.isLogical
  | _ => false

def Expr.isLiteral (e : Expr) : Bool := e.known?.isSome

/-- Operators whose operands may change sides. -/
def BinaryOp.isSymmetric : BinaryOp → Bool
  | .looseEq | .looseNe | .strictEq | .strictNe | .bitAnd | .bitXor | .bitOr | .mul => true
  | _ => false

/-- A literal stands on the left where the operands may change sides. -/
def swapped (pos : Nat) (op : BinaryOp) (left right : Expr) : Expr :=
  if op.isSymmetric && left.yieldsToLiteral && !left.isLiteral && right.isLiteral then
    .binary pos op right left
  else .binary pos op left right

/-- Comparing values of one type strictly is comparing them. -/
def loosened (op : BinaryOp) (left right : Expr) : BinaryOp :=
  match left.type?, right.type? with
  | some a, some b =>
    if a = b then
      match op with
      | .strictEq => .looseEq
      | .strictNe => .looseNe
      | op => op
    else op
  | _, _ => op

def foldBinary (pos : Nat) (op : BinaryOp) (left right : Expr) : Expr :=
  match op with
  | .and =>
    match left.truthy? with
    | some true => if left.hasEffect then .seq pos (left.effects ++ [right]) else right
    | some false => if left.hasEffect then .binary pos op left right else left
    | none => .binary pos op left right
  | .or =>
    match left.truthy? with
    | some false => if left.hasEffect then .seq pos (left.effects ++ [right]) else right
    | some true => if left.hasEffect then .binary pos op left right else left
    | none => .binary pos op left right
  | _ =>
    match left.known?, right.known? with
    | some a, some b =>
      match compute? op a b with
      | some value => value.toExpr pos
      | none => .binary pos op left right
    | _, _ =>
      match op, left, right.string? with
      | .add, .binary _ .add first (.lit _ (.string middle)), some last =>
        .binary pos .add first (.lit pos (.string (middle ++ last)))
      | _, _, _ => swapped pos (loosened op left right) left right

/-- The answer of `typeof`. -/
def typeofText? : Expr → Option String
  | .function .. | .arrow .. | .classExpr .. => some "function"
  | .lit _ (.regex _ _) | .array .. | .object .. => some "object"
  | e =>
    match e.known? with
    | some .undefined => some "undefined"
    | some .null => some "object"
    | some (.bool _) => some "boolean"
    | some (.number _) => some "number"
    | some (.string _) => some "string"
    | none => none

def foldUnary (pos : Nat) (op : UnaryOp) (arg : Expr) : Expr :=
  match op with
  | .bang =>
    match arg.truthy? with
    | some value => if arg.hasEffect then .unary pos op arg else .lit pos (.bool !value)
    | none =>
      match arg with
      | .seq pos exprs =>
        match exprs.getLast? with
        | some last => .seq pos (exprs.dropLast ++ [last.negated])
        | none => .unary pos op arg
      | .unary _ .bang inner => if inner.type? = some .boolean then inner else .unary pos op arg
      | _ => arg.asTest.negated
  | .minus =>
    match arg.number? with
    | some value => if value.isNaN then arg else .lit pos (.number (-value))
    | none => .unary pos op arg
  | .plus =>
    match arg.known? with
    | some value =>
      match value.asNumber? with
      | some x => (Known.number x).toExpr pos
      | none => .unary pos op arg
    | none => .unary pos op arg
  | .tilde =>
    match arg.number?.bind int32? with
    | some n => .lit pos (.number (Float.ofInt (-n - 1)))
    | none => .unary pos op arg
  | .typeof =>
    match typeofText? arg with
    | some text => if arg.hasEffect then .unary pos op arg else .lit pos (.string text)
    | none => .unary pos op arg
  | .void => if arg.hasEffect then .unary pos op arg else .undefined pos
  | .delete => .unary pos op arg

/-- Two names of the same binding, or two names of the world around that are spelled alike. -/
def Expr.isSameName : Expr → Expr → Bool
  | .ident _ a, .ident _ b => a = b
  | _, _ => false

/-- A choice between one and zero, or between zero and one. -/
def choiceAsNumber? (pos : Nat) (test yes no : Expr) : Option Expr := do
  let a ← yes.number?
  let b ← no.number?
  if a == 1 && b == 0 then some (.unary pos .plus test.asBoolean)
  else if a == 0 && b == 1 then some (.unary pos .plus test.negated)
  else none

/-- A choice one side of which is `true` or `false`. -/
def choiceAsLogical? (pos : Nat) (test yes no : Expr) : Option Expr :=
  match yes, no with
  | .lit _ (.bool true), .lit _ (.bool false) => some test.asBoolean
  | .lit _ (.bool false), .lit _ (.bool true) => some test.negated
  | .lit _ (.bool true), no => some (.binary pos .or test.asBoolean no)
  | .lit _ (.bool false), no => some (.binary pos .and test.negated no)
  | yes, .lit _ (.bool true) => some (.binary pos .or test.negated yes)
  | yes, .lit _ (.bool false) => some (.binary pos .and test.asBoolean yes)
  | _, _ => none

def foldCond (pos : Nat) (test yes no : Expr) : Expr :=
  match test.truthy? with
  | some value =>
    let chosen := if value then yes else no
    (Expr.ofParts pos (test.effects ++ [chosen])).getD chosen
  | none =>
    match test.asTest with
    | .unary _ .bang inner => plain inner no yes
    | test => plain test yes no
where
  /-- A choice whose test is no negation. -/
  plain (test yes no : Expr) : Expr :=
    if test.isSameName yes then .binary pos .or test no
    else if test.isSameName no then .binary pos .and test yes
    else ((choiceAsNumber? pos test yes no) <|> (choiceAsLogical? pos test yes no)).getD
      (.cond pos test yes no)

/-- Sequences inside of a sequence become parts of it, and what has no effect goes, but for the
last value. -/
def foldSeq (pos : Nat) (exprs : List Expr) : Expr :=
  let flat := exprs.flatMap (·.parts)
  match flat.getLast? with
  | none => .undefined pos
  | some last => (Expr.ofParts pos (effectsOf flat.dropLast ++ [last])).getD last

/-- Does the object decide what a call of this member does? -/
def Expr.isMemberOrEval : Expr → Bool
  | .member .. | .index .. | .privateMember .. => true
  | .ident _ id => id.name = "eval"
  | .paren _ inner => inner.isMemberOrEval
  | _ => false

def foldMember (pos : Nat) (base : Expr) (name : String) : Expr :=
  match base with
  | .lit _ (.string text) =>
    if name = "length" then .lit pos (.number (Float.ofNat (units text))) else .member pos base name
  | .object _ properties => (propertyValue? name properties).getD (.member pos base name)
  | _ => .member pos base name
where
  /-- Lengths are counted in units of sixteen bits. -/
  units (text : String) : Nat :=
    text.toList.foldl (fun n c => n + if c.toNat < 65536 then 1 else 2) 0

def foldIndex (pos : Nat) (base key : Expr) : Expr :=
  match key.string? with
  | some text =>
    if isPropertyName true text then foldMember pos base text
    else match wholeNumber? text with
      | some value => .index pos base (.lit pos (.number value))
      | none => .index pos base key
  | none =>
    match base, key.number? with
    | .array _ items, some n =>
      if anyEffect items || n != n.floor || n < 0 then .index pos base key
      else match items[n.toUInt64.toNat]? with
        | some .hole | none => .index pos base key
        | some item => item
    | _, _ => .index pos base key

/-- Globals that do the same with and without `new`. -/
def newlessGlobals : List String :=
  ["Object", "Array", "Function", "RegExp", "Error", "AggregateError", "EvalError", "RangeError",
    "ReferenceError", "SyntaxError", "TypeError", "URIError"]

/-- Calls of globals that have a literal form. -/
def foldCall (pos : Nat) (callee : Expr) (args : List Expr) : Expr :=
  match callee with
  | .ident _ id =>
    if id.isGlobal "Object" && args.isEmpty then .object pos []
    else if id.isGlobal "Array" && (args.isEmpty || args.length > 1) then .array pos args
    else .call pos callee args
  | _ => .call pos callee args

def foldNew (pos : Nat) (callee : Expr) (args : List Expr) : Expr :=
  match callee with
  | .ident _ id =>
    if id.scope = 0 && newlessGlobals.contains id.name then foldCall pos callee args
    else .newCall pos callee args
  | _ => .newCall pos callee args

/-- Text that may stand in a string literal instead of a template. -/
def isPlainText (text : String) : Bool := text.toList.all fun c => ' ' ≤ c && c ≤ '~'

/-- Values that are known become part of the text around them. -/
def foldTemplate (pos : Nat) (quasis : List Quasi) (values : List Expr) : Expr :=
  let rec joined (front : String × String) :
      List Expr → List Quasi → List (String × String) × List Expr
    | value :: values, ⟨some text, raw⟩ :: quasis =>
      match value.known? with
      | some known =>
        if isPlainText known.asText && !known.asText.toList.any (fun c =>
            c = '\x60' || c = '\\' || c = '$') then
          joined (front.1 ++ known.asText ++ text, front.2 ++ known.asText ++ raw) values quasis
        else
          let (quasis, values) := joined (text, raw) values quasis
          (front :: quasis, value :: values)
      | none =>
        let (quasis, values) := joined (text, raw) values quasis
        (front :: quasis, value :: values)
    | _, _ => ([front], [])
  match quasis with
  | ⟨some text, raw⟩ :: rest =>
    if rest.length = values.length && rest.all (·.value.isSome) then
      match joined (text, raw) values rest with
      | ([(text, raw)], []) =>
        if isPlainText text then .lit pos (.string text) else .template pos [⟨some text, raw⟩] []
      | (quasis, values) => .template pos (quasis.map fun (text, raw) => ⟨some text, raw⟩) values
    else .template pos quasis values
  | _ => .template pos quasis values

def Expr.isNameOf (id : Ident) : Expr → Bool
  | .ident _ other => other = id
  | _ => false

/-- An assignment that computes the new value from the old one. -/
def foldAssign (pos : Nat) (op : AssignOp) (target : Pattern) (value : Expr) : Expr :=
  match op, target, value with
  | .assign, .ident _ id, .binary _ binary left right =>
    if AssignOp.combinable.contains binary && !binary.isLogical && binary ≠ .nullish &&
        binary ≠ .exp && left.isNameOf id then
      .assign pos (.combine binary) target right
    else if binary.isSymmetric && AssignOp.combinable.contains binary && left.isLiteral &&
        right.isNameOf id then
      .assign pos (.combine binary) target left
    else .assign pos op target value
  | _, _, _ => .assign pos op target value

/-- An arrow function that only returns a value is that value. -/
def foldArrow (pos : Nat) (isAsync : Bool) (params : List Pattern) (isExpr : Bool)
    (body : List Stmt) : Expr :=
  match body with
  | [.ret _ (some _)] => .arrow pos isAsync params true body
  | _ => .arrow pos isAsync params isExpr body

def Property.short : Property → Property
  | .keyValue pos key value => .keyValue pos key.short value
  | .method pos kind key function => .method pos kind key.short function
  | p => p

/-- The text of a key that is written as a string. -/
def Key.text? : Key → Option String
  | .string text | .computed (.lit _ (.string text)) => some text
  | _ => none

/-- In a class the spelling of some keys decides what they mean. -/
def Member.short : Member → Member
  | .method pos isStatic kind key function =>
    let isSpecial := key.text?.any fun text => text = "constructor" || text = "prototype"
    .method pos isStatic kind (if isSpecial then key else key.short) function
  | m => m

/-- The names of the world around that have a shorter form. -/
def foldIdent (pos : Nat) (id : Ident) : Expr :=
  if id.isGlobal "undefined" then .undefined pos
  else if id.isGlobal "Infinity" then .lit pos (.number (1.0 / 0.0))
  else .ident pos id

/-- The simplest form of a node whose parts are simple. -/
def Expr.folded : Expr → Expr
  | .ident pos id => foldIdent pos id
  | .template pos quasis values => foldTemplate pos quasis values
  | .object pos properties => .object pos (properties.map (·.short))
  | .classExpr pos name superclass members =>
    .classExpr pos name superclass (members.map (·.short))
  | .arrow pos isAsync params isExpr body => foldArrow pos isAsync params isExpr body
  | .unary pos op arg => foldUnary pos op arg
  | .binary pos op left right => foldBinary pos op left right
  | .assign pos op target value => foldAssign pos op target value
  | .cond pos test yes no => foldCond pos test yes no
  | .call pos callee args => foldCall pos callee args
  | .newCall pos callee args => foldNew pos callee args
  | .member pos base name => foldMember pos base name
  | .index pos base key => foldIndex pos base key
  | .seq pos exprs => foldSeq pos exprs
  | e => e

end BrowserScript.Script
