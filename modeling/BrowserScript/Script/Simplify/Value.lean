import BrowserScript.Script.Printer.Number
import BrowserScript.Script.Tree

/-!
What is known about the value of an expression before the script runs: its type, whether it counts
as true, and for literals the value itself.
-/

set_option autoImplicit false

namespace BrowserScript.Script

/-- A value without identity. -/
inductive Known where
  | undefined
  | null
  | bool (value : Bool)
  | number (value : Float)
  | string (text : String)
  deriving BEq, Repr, Inhabited

inductive ValueType where
  | undefined
  | null
  | boolean
  | number
  | string
  | object
  deriving DecidableEq, Repr, Inhabited

/-- The value `undefined`, as it is written. -/
def Expr.undefined (pos : Nat) : Expr := .unary pos .void (.lit pos (.number 0))

/-- Is this the global of this name? -/
def Ident.isGlobal (id : Ident) (name : String) : Bool := id.scope = 0 && id.name = name

namespace Known

def type : Known → ValueType
  | .undefined => .undefined
  | .null => .null
  | .bool _ => .boolean
  | .number _ => .number
  | .string _ => .string

def isTruthy : Known → Bool
  | .undefined | .null => false
  | .bool value => value
  | .number value => !(value.isNaN || value == 0)
  | .string text => !text.isEmpty

def toExpr (pos : Nat) : Known → Expr
  | .undefined => .undefined pos
  | .null => .lit pos .null
  | .bool value => .lit pos (.bool value)
  | .number value =>
    if value.isNaN then .ident pos { name := "NaN" } else .lit pos (.number value)
  | .string text => .lit pos (.string text)

end Known

/-- A number in a text: positional from `1e-6` up to `1e21`. -/
def numberAsText (x : Float) : String :=
  if x.isNaN then "NaN"
  else if x == 0 then "0"
  else
    let sign := if x < 0 then "-" else ""
    let size := x.abs
    if size.isInf then sign ++ "Infinity"
    else
      let d := Decimal.shortest .toEven (.ofFloat size)
      if -5 ≤ d.point ∧ d.point ≤ 21 then sign ++ Decimal.positionalText d
      else
        let digits := Decimal.digitText d
        let exponent := d.point - 1
        let mark := if exponent < 0 then "e-" else "e+"
        let rest := digits.toList.drop 1
        sign ++ String.ofList (digits.toList.take 1 ++ if rest.isEmpty then [] else '.' :: rest) ++
          mark ++ toString exponent.natAbs

/-- The text that a value becomes part of another text with. -/
def Known.asText : Known → String
  | .undefined => "undefined"
  | .null => "null"
  | .bool value => if value then "true" else "false"
  | .number value => numberAsText value
  | .string text => text

/-- The number a value counts as; texts are left alone unless they are empty. -/
def Known.asNumber? : Known → Option Float
  | .undefined => some (0.0 / 0.0)
  | .null => some 0
  | .bool value => some (if value then 1 else 0)
  | .number value => some value
  | .string text => if text.isEmpty then some 0 else none

/-- The value of a literal, or of what counts as one. Parentheses hide it. -/
def Expr.known? : Expr → Option Known
  | .lit _ .null => some .null
  | .lit _ (.bool value) => some (.bool value)
  | .lit _ (.number value) => some (.number value)
  | .lit _ (.string text) => some (.string text)
  | .unary _ .void (.lit _ _) => some .undefined
  | .unary _ .bang (.lit _ (.number value)) => some (.bool !(Known.number value).isTruthy)
  | .ident _ id =>
    if id.isGlobal "undefined" then some .undefined
    else if id.isGlobal "NaN" then some (.number (0.0 / 0.0))
    else if id.isGlobal "Infinity" then some (.number (1.0 / 0.0))
    else none
  | .template _ [⟨some text, _⟩] [] => some (.string text)
  | _ => none

/-- The text of a string literal. -/
def Expr.string? (e : Expr) : Option String :=
  match e.known? with
  | some (.string text) => some text
  | _ => none

/-- The number of a number literal. -/
def Expr.number? (e : Expr) : Option Float :=
  match e.known? with
  | some (.number value) => some value
  | _ => none

def BinaryOp.isComparison : BinaryOp → Bool
  | .looseEq | .looseNe | .strictEq | .strictNe | .lt | .le | .gt | .ge | .isIn
  | .isInstanceOf => true
  | _ => false

/-- Does an operator make numbers of whatever it is given? -/
def BinaryOp.isArithmetic : BinaryOp → Bool
  | .sub | .mul | .div | .mod | .exp | .bitOr | .bitXor | .bitAnd | .shiftLeft | .shiftRight
  | .shiftRightZero => true
  | _ => false

/-- The type of the value, if it is the same in every run. -/
def Expr.type? : Expr → Option ValueType
  | .lit _ .null => some .null
  | .lit _ (.bool _) => some .boolean
  | .lit _ (.number _) => some .number
  | .lit _ (.string _) => some .string
  | .lit _ (.regex _ _) => some .object
  | .lit _ (.bigint _) => none
  | .ident _ id =>
    if id.isGlobal "undefined" then some .undefined
    else if id.isGlobal "NaN" || id.isGlobal "Infinity" then some .number
    else none
  | .template .. => some .string
  | .array .. | .object .. | .function .. | .arrow .. | .classExpr .. | .newCall .. => some .object
  | .unary _ .typeof _ => some .string
  | .unary _ .bang _ | .unary _ .delete _ => some .boolean
  | .unary _ .void _ => some .undefined
  | .unary _ .minus _ | .unary _ .plus _ | .unary _ .tilde _ | .update .. => some .number
  | .binary _ op left right =>
    if op.isComparison then some .boolean
    else if op.isArithmetic then some .number
    else
      match op, left.type?, right.type? with
      | .add, some .string, _ | .add, _, some .string => some .string
      | .add, some .number, some .number => some .number
      | .and, some a, some b | .or, some a, some b => if a = b then some a else none
      | _, _, _ => none
  | .assign _ .assign _ value => value.type?
  | .cond _ _ yes no =>
    match yes.type?, no.type? with
    | some a, some b => if a = b then some a else none
    | _, _ => none
  | .seq _ exprs => lastType? exprs
  | _ => none
where
  /-- The type of the last value of a sequence. -/
  lastType? : List Expr → Option ValueType
    | [] => none
    | [e] => e.type?
    | _ :: rest => lastType? rest

/-- Does the value count as true in every run? -/
def Expr.truthy? (e : Expr) : Option Bool :=
  match e.known? with
  | some value => some value.isTruthy
  | none =>
    match e with
    | .lit _ (.regex _ _) | .array .. | .object .. | .function .. | .arrow .. | .classExpr .. =>
      some true
    | .unary _ .bang arg =>
      match arg.known? with
      | some value => some !value.isTruthy
      | none => none
    | .paren _ inner => inner.truthy?
    | _ => none

end BrowserScript.Script
