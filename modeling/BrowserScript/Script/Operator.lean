/-!
The operators of scripts, with their spelling and how tightly they bind.
-/

set_option autoImplicit false

namespace BrowserScript.Script

inductive UnaryOp where
  | minus
  | plus
  | bang
  | tilde
  | typeof
  | void
  | delete
  deriving DecidableEq, Repr, Inhabited

inductive UpdateOp where
  | increment
  | decrement
  deriving DecidableEq, Repr, Inhabited

inductive BinaryOp where
  | looseEq
  | looseNe
  | strictEq
  | strictNe
  | lt
  | le
  | gt
  | ge
  | shiftLeft
  | shiftRight
  | shiftRightZero
  | add
  | sub
  | mul
  | div
  | mod
  | bitOr
  | bitXor
  | bitAnd
  | or
  | and
  | isIn
  | isInstanceOf
  | exp
  | nullish
  deriving DecidableEq, Repr, Inhabited

/-- A plain assignment, or one that combines the old value with the new. -/
inductive AssignOp where
  | assign
  | combine (op : BinaryOp)
  deriving DecidableEq, Repr, Inhabited

def UnaryOp.text : UnaryOp → String
  | .minus => "-"
  | .plus => "+"
  | .bang => "!"
  | .tilde => "~"
  | .typeof => "typeof"
  | .void => "void"
  | .delete => "delete"

def UnaryOp.isWord : UnaryOp → Bool
  | .typeof | .void | .delete => true
  | _ => false

def UnaryOp.all : List UnaryOp := [.minus, .plus, .bang, .tilde, .typeof, .void, .delete]

def UpdateOp.text : UpdateOp → String
  | .increment => "++"
  | .decrement => "--"

namespace BinaryOp

def text : BinaryOp → String
  | .looseEq => "=="
  | .looseNe => "!="
  | .strictEq => "==="
  | .strictNe => "!=="
  | .lt => "<"
  | .le => "<="
  | .gt => ">"
  | .ge => ">="
  | .shiftLeft => "<<"
  | .shiftRight => ">>"
  | .shiftRightZero => ">>>"
  | .add => "+"
  | .sub => "-"
  | .mul => "*"
  | .div => "/"
  | .mod => "%"
  | .bitOr => "|"
  | .bitXor => "^"
  | .bitAnd => "&"
  | .or => "||"
  | .and => "&&"
  | .isIn => "in"
  | .isInstanceOf => "instanceof"
  | .exp => "**"
  | .nullish => "??"

def all : List BinaryOp :=
  [.looseEq, .looseNe, .strictEq, .strictNe, .lt, .le, .gt, .ge, .shiftLeft, .shiftRight,
    .shiftRightZero, .add, .sub, .mul, .div, .mod, .bitOr, .bitXor, .bitAnd, .or, .and, .isIn,
    .isInstanceOf, .exp, .nullish]

/-- Larger numbers bind more tightly. -/
def precedence : BinaryOp → Nat
  | .nullish | .or => 1
  | .and => 2
  | .bitOr => 3
  | .bitXor => 4
  | .bitAnd => 5
  | .looseEq | .looseNe | .strictEq | .strictNe => 6
  | .lt | .le | .gt | .ge | .isIn | .isInstanceOf => 7
  | .shiftLeft | .shiftRight | .shiftRightZero => 8
  | .add | .sub => 9
  | .mul | .div | .mod => 10
  | .exp => 11

def isWord : BinaryOp → Bool
  | .isIn | .isInstanceOf => true
  | _ => false

/-- `&&` and `||`. -/
def isLogical : BinaryOp → Bool
  | .and | .or => true
  | _ => false

def ofText? (s : String) : Option BinaryOp := all.find? (·.text = s)

end BinaryOp

namespace AssignOp

def text : AssignOp → String
  | .assign => "="
  | .combine op => op.text ++ "="

/-- The operators that have an assigning form. -/
def combinable : List BinaryOp :=
  [.add, .sub, .mul, .div, .mod, .shiftLeft, .shiftRight, .shiftRightZero, .bitOr, .bitXor,
    .bitAnd, .exp, .and, .or, .nullish]

def ofText? (s : String) : Option AssignOp :=
  if s = "=" then some .assign
  else (combinable.find? fun op => op.text ++ "=" = s).map .combine

end AssignOp

end BrowserScript.Script
