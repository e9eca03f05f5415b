import BrowserScript.Script.Printer.Number
import BrowserScript.Script.Printer.Piece
import BrowserScript.Script.Printer.Template
import BrowserScript.Script.Tree

/-!
Trees as script text without a character too many. Parentheses stand only where the text would
mean another tree without them; those of the tree itself are not kept. Every statement that can
end with a semicolon does, but for `do`, which ends with its test.
-/

set_option autoImplicit false

namespace BrowserScript.Script

/-- What an expression must not start with: a statement starts with no brace, `function` or
`class` of an expression, and the body of an arrow function with no brace of one. -/
inductive StartRule where
  | free
  | statement
  | arrowBody
  deriving DecidableEq, Repr, Inhabited

/-- Where an expression stands: how tightly its surroundings bind, whether `in` is an operator
there, and what it must not start with. -/
structure Place where
  level : Nat := 0
  allowIn : Bool := true
  start : StartRule := .free
  deriving Repr, Inhabited

namespace Place

/-- The place of a first operand. -/
def first (p : Place) (level : Nat) : Place := { p with level }

/-- The place of a later operand. -/
def later (p : Place) (level : Nat) : Place := { p with level, start := .free }

/-- The place inside of parentheses, if they are put around the expression. -/
def inside (p : Place) (wrapped : Bool) : Place := if wrapped then {} else p

/-- A place with brackets or commas around it, where one assignment may stand. -/
def item : Place := { level := 1 }

end Place

/-- How tightly a number binds: infinity is a division, and a number with a sign an operation. -/
def numberLevel (x : Float) : Nat :=
  if x.isInf then 12 else if (numberText x).startsWith "-" then 14 else 18

/-- Would `new` in front of an expression take the parentheses of a call inside of it? -/
def Expr.holdsCall : Expr → Bool
  | .call .. | .optional .. | .importBase _ => true
  | .member _ base _ | .index _ base _ | .privateMember _ base _ => base.holdsCall
  | .tagged _ tag _ _ => tag.holdsCall
  | .paren _ inner => inner.holdsCall
  | _ => false

def Lit.piece : Lit → Piece
  | .null => .word "null"
  | .bool value => .word (if value then "true" else "false")
  | .number value => .number (numberText value)
  | .string value => .quoted (quotedText value)
  | .bigint digits => .number (digits ++ "n")
  | .regex pattern flags => .regex ("/" ++ pattern ++ "/" ++ flags)

def VarKind.text : VarKind → String
  | .var => "var"
  | .letVar => "let"
  | .const => "const"

def UnaryOp.piece (op : UnaryOp) : Piece := if op.isWord then .word op.text else .mark op.text

def BinaryOp.piece (op : BinaryOp) : Piece := if op.isWord then .word op.text else .mark op.text

/-- Would a following `else` be read as a part of this statement? -/
def Stmt.takesElse : Stmt → Bool
  | .ifElse _ _ _ none => true
  | .ifElse _ _ _ (some no) => no.takesElse
  | .forLoop _ _ _ _ body | .forIn _ _ _ _ _ body | .forOf _ _ _ _ _ body
  | .whileLoop _ _ body | .labeled _ _ body | .withObject _ _ body => body.takesElse
  | _ => false

def Function.isAsync : Function → Bool
  | .mk _ isAsync _ _ _ => isAsync

def Function.isGenerator : Function → Bool
  | .mk _ _ isGenerator _ _ => isGenerator

/-- The words and marks in front of the parameters of a function. -/
def functionHead (isAsync isGenerator : Bool) (name : Option Ident) : List Piece :=
  (if isAsync then [.word "async"] else []) ++ [.word "function"] ++
    (if isGenerator then [.mark "*"] else []) ++ (name.map (.word ·.name)).toList

/-- What stands in front of the key of a method. -/
def methodHead (kind : MethodKind) (isAsync isGenerator : Bool) : List Piece :=
  (match kind with
    | .getter => [.word "get"]
    | .setter => [.word "set"]
    | .method | .constructor => if isAsync then [.word "async"] else []) ++
  if isGenerator then [.mark "*"] else []

/-- A declared target of a loop. -/
def loopTarget (kind : Option VarKind) (target : List Piece) : List Piece :=
  (kind.map (.word ·.text)).toList ++ target

/-- An elision at the end of a list takes a comma of its own. -/
def lastElision (isHole : Bool) : List Piece := if isHole then [.mark ","] else []

def Expr.isHole : Expr → Bool
  | .hole => true
  | _ => false

def Pattern.isHole : Pattern → Bool
  | .hole => true
  | _ => false

def Pattern.isObject : Pattern → Bool
  | .object _ _ => true
  | _ => false

/-- Is this the head of an arrow function that needs no parentheses? -/
def isNameAlone : List Pattern → Bool
  | [.ident _ _] => true
  | _ => false

/-- The least level of the right operand of a binary operator. Chains of one logical operator need
no parentheses on either side. -/
def rightLevel (op : BinaryOp) (right : Expr) : Nat :=
  match right with
  | .binary _ rightOp _ _ =>
    if op = .exp || (rightOp = op && op.isLogical) then op.precedence + 2 else op.precedence + 3
  | _ => op.precedence + 3

mutual

/-- The pieces of an expression at a place. -/
def Expr.pieces (p : Place) : Expr → List Piece
  | .this _ => [.word "this"]
  | .ident _ id => [.word id.name]
  | .lit _ value =>
    match value with
    | .number x => inParens (numberLevel x < p.level) [value.piece]
    | _ => [value.piece]
  | .template _ quasis values => templatePieces true "`" quasis values
  | .tagged _ tag quasis values => tag.pieces (p.first 17) ++ templatePieces false "`" quasis values
  | .array _ items =>
    .mark "[" :: itemPieces items ++ lastElision (items.getLast?.any Expr.isHole) ++ [.mark "]"]
  | .object _ properties =>
    inParens (p.start ≠ .free) (inBraces (commaSeparated (propertyPieces properties)))
  | .function _ name function =>
    inParens (p.start = .statement)
      (functionHead function.isAsync function.isGenerator name ++ function.pieces)
  | .classExpr _ name superclass members =>
    inParens (p.start = .statement)
      (.word "class" :: (name.map (.word ·.name)).toList ++ superclassPieces superclass ++
        inBraces (memberPieces members))
  | .arrow _ isAsync params isExpr body =>
    inParens (1 < p.level)
      ((if isAsync then [.word "async"] else []) ++
        inParens (!isNameAlone params) (commaSeparated (patternPieces params)) ++ .mark "=>" ::
        if isExpr then arrowValuePieces p.allowIn body else inBraces (stmtsPieces body))
  | .unary _ op arg => inParens (14 < p.level) (op.piece :: arg.pieces { level := 14 })
  | .update _ isBefore op arg =>
    if isBefore then inParens (14 < p.level) (.mark op.text :: arg.pieces { level := 15 })
    else inParens (15 < p.level) (arg.pieces (p.first 16) ++ [.mark op.text])
  | .binary _ op left right =>
    let wrapped := op.precedence + 2 < p.level || (op = .isIn && !p.allowIn)
    let p := p.inside wrapped
    let leftLevel := if op = .exp then 15 else op.precedence + 2
    inParens wrapped
      (left.pieces (p.first leftLevel) ++ op.piece :: right.pieces (p.later (rightLevel op right)))
  | .assign _ op target value =>
    let wrapped := 1 < p.level || (p.start ≠ .free && target.isObject)
    let p := p.inside wrapped
    inParens wrapped (target.pieces (p.first 16) ++ .mark op.text :: value.pieces (p.later 1))
  | .cond _ test yes no =>
    let wrapped := 2 < p.level
    let p := p.inside wrapped
    inParens wrapped
      (test.pieces (p.first 3) ++ .mark "?" :: yes.pieces .item ++ .mark ":" ::
        no.pieces (p.later 1))
  | .call _ callee args =>
    callee.pieces (p.first 17) ++ .mark "(" :: itemPieces args ++ [.mark ")"]
  | .newCall _ callee args =>
    let bare := args.isEmpty && p.level ≤ 16
    let wrapped := callee.holdsCall
    .word "new" :: inParens wrapped (callee.pieces { level := if wrapped then 0 else 17 }) ++
      if bare then [] else .mark "(" :: itemPieces args ++ [.mark ")"]
  | .member _ object name => object.pieces (p.first 17) ++ [.mark ".", .word name]
  | .index _ object key =>
    object.pieces (p.first 17) ++ .mark "[" :: key.pieces {} ++ [.mark "]"]
  | .privateMember _ object name => object.pieces (p.first 17) ++ [.mark ".#", .word name]
  | .superBase _ => [.word "super"]
  | .importBase _ => [.word "import"]
  | .optional _ chain => chain.pieces p
  | .seq _ exprs =>
    let wrapped := 0 < p.level
    inParens wrapped (sequencePieces (p.inside wrapped) exprs)
  | .paren _ inner => inner.pieces p
  | .yield _ isDelegate arg =>
    inParens (1 < p.level)
      (.word "yield" :: (if isDelegate then [.mark "*"] else []) ++ optionPieces
        { level := 1, allowIn := p.allowIn } arg)
  | .await _ arg => inParens (14 < p.level) (.word "await" :: arg.pieces { level := 14 })
  | .newTarget _ => [.word "new", .mark ".", .word "target"]
  | .importMeta _ => [.word "import", .mark ".", .word "meta"]
  | .privateName _ name => [.mark "#", .word name]
  | .hole => []
  | .spread _ value => .mark "..." :: value.pieces .item
  | .invalid _ => []

def optionPieces (p : Place) : Option Expr → List Piece
  | none => []
  | some e => e.pieces p

/-- Expressions with commas between them, as operands of one. -/
def sequencePieces (p : Place) : List Expr → List Piece
  | [] => []
  | [e] => e.pieces (p.first 1)
  | e :: rest => e.pieces (p.first 1) ++ .mark "," :: sequencePieces (p.later 0) rest

/-- Expressions with commas between them, each on its own. -/
def itemPieces : List Expr → List Piece
  | [] => []
  | [e] => e.pieces .item
  | e :: rest => e.pieces .item ++ .mark "," :: itemPieces rest

/-- A template from an opening mark on. Only the text of a tagged one has to stay as it is. -/
def templatePieces (shorten : Bool) (opening : String) : List Quasi → List Expr → List Piece
  | quasi :: quasis, e :: rest =>
    let text := if shorten then templateText false quasi.raw.toList else quasi.raw
    .quoted (opening ++ text ++ "$\x7b") :: e.pieces {} ++
      templatePieces shorten "\x7d" quasis rest
  | quasi :: _, [] =>
    let text := if shorten then templateText false quasi.raw.toList else quasi.raw
    [.quoted (opening ++ text ++ "`")]
  | [], _ => [.quoted (opening ++ "`")]

def Key.pieces : Key → List Piece
  | .ident name => [.word name]
  | .string text => [.quoted (quotedText text)]
  | .number value => [.number (numberText value)]
  | .bigint _ digits => [.number (digits ++ "n")]
  | .computed value => .mark "[" :: value.pieces .item ++ [.mark "]"]
  | .privateName name => [.mark "#", .word name]

def Property.pieces : Property → List Piece
  | .keyValue _ key value => key.pieces ++ .mark ":" :: value.pieces .item
  | .shorthand _ id => [.word id.name]
  | .initialized _ id value => .word id.name :: .mark "=" :: value.pieces .item
  | .method _ kind key function =>
    methodHead kind function.isAsync function.isGenerator ++ key.pieces ++ function.pieces
  | .spread _ value => .mark "..." :: value.pieces .item

def propertyPieces : List Property → List (List Piece)
  | [] => []
  | p :: rest => p.pieces :: propertyPieces rest

/-- The parameters and the body of a function. -/
def Function.pieces : Function → List Piece
  | .mk _ _ _ params body =>
    .mark "(" :: commaSeparated (patternPieces params) ++ .mark ")" :: inBraces (stmtsPieces body)

def Member.pieces : Member → List Piece
  | .method _ isStatic kind key function =>
    (if isStatic then [.word "static"] else []) ++
      methodHead kind function.isAsync function.isGenerator ++ key.pieces ++ function.pieces
  | .field _ isStatic key value =>
    (if isStatic then [.word "static"] else []) ++ key.pieces ++ initializerPieces true value ++
      [.mark ";"]
  | .staticBlock _ body => .word "static" :: inBraces (stmtsPieces body)
  | .empty => []

def initializerPieces (allowIn : Bool) : Option Expr → List Piece
  | none => []
  | some e => .mark "=" :: e.pieces { level := 1, allowIn }

def memberPieces : List Member → List Piece
  | [] => []
  | m :: rest => m.pieces ++ memberPieces rest

def superclassPieces : Option Expr → List Piece
  | none => []
  | some e => .word "extends" :: e.pieces { level := 17 }

/-- The expression that is the body of an arrow function. -/
def arrowValuePieces (allowIn : Bool) : List Stmt → List Piece
  | .ret _ (some e) :: _ => e.pieces { level := 1, allowIn, start := .arrowBody }
  | _ => inBraces []

def Pattern.pieces (p : Place) : Pattern → List Piece
  | .ident _ id => [.word id.name]
  | .array _ items =>
    .mark "[" :: commaSeparated (patternPieces items) ++
      lastElision (items.getLast?.any Pattern.isHole) ++ [.mark "]"]
  | .object _ properties => inBraces (commaSeparated (patternPropertyPieces properties))
  | .rest _ arg => .mark "..." :: arg.pieces {}
  | .assign _ left value => left.pieces {} ++ .mark "=" :: value.pieces .item
  | .expr target => target.pieces p
  | .hole => []
  | .invalid _ => []

def patternPieces : List Pattern → List (List Piece)
  | [] => []
  | p :: rest => p.pieces {} :: patternPieces rest

def PatternProperty.pieces : PatternProperty → List Piece
  | .keyValue key value => key.pieces ++ .mark ":" :: value.pieces {}
  | .assign _ id value => .word id.name :: initializerPieces true value
  | .rest _ arg => .mark "..." :: arg.pieces {}

def patternPropertyPieces : List PatternProperty → List (List Piece)
  | [] => []
  | p :: rest => p.pieces :: patternPropertyPieces rest

def Declarator.pieces (allowIn : Bool) : Declarator → List Piece
  | .mk _ target value => target.pieces {} ++ initializerPieces allowIn value

def declaratorPieces (allowIn : Bool) : List Declarator → List (List Piece)
  | [] => []
  | d :: rest => d.pieces allowIn :: declaratorPieces allowIn rest

def Stmt.pieces : Stmt → List Piece
  | .expr _ value => value.pieces { start := .statement } ++ [.mark ";"]
  | .block _ body => inBraces (stmtsPieces body)
  | .empty _ => [.mark ";"]
  | .debugger _ => [.word "debugger", .mark ";"]
  | .declaration _ kind declarators =>
    .word kind.text :: commaSeparated (declaratorPieces true declarators) ++ [.mark ";"]
  | .function _ name function =>
    functionHead function.isAsync function.isGenerator (some name) ++ function.pieces
  | .classDecl _ name superclass members =>
    .word "class" :: .word name.name :: superclassPieces superclass ++
      inBraces (memberPieces members)
  | .ret _ arg => .word "return" :: optionPieces {} arg ++ [.mark ";"]
  | .ifElse _ test yes no =>
    let branch := yes.pieces
    .word "if" :: .mark "(" :: test.pieces {} ++ .mark ")" ::
      (if no.isSome && yes.takesElse then inBraces branch else branch) ++ elsePieces no
  | .forLoop _ init test update body =>
    .word "for" :: .mark "(" :: init.loopInitPieces ++ .mark ";" :: optionPieces {} test ++
      .mark ";" :: optionPieces {} update ++ .mark ")" :: body.pieces
  | .forIn _ kind target init object body =>
    .word "for" :: .mark "(" :: loopTarget kind (target.pieces { level := 16 }) ++
      initializerPieces false init ++ .word "in" :: object.pieces {} ++ .mark ")" :: body.pieces
  | .forOf _ isAwait kind target iterable body =>
    .word "for" :: (if isAwait then [.word "await"] else []) ++ .mark "(" ::
      loopTarget kind (target.pieces { level := 16 }) ++ .word "of" :: iterable.pieces .item ++
      .mark ")" :: body.pieces
  | .whileLoop _ test body =>
    .word "while" :: .mark "(" :: test.pieces {} ++ .mark ")" :: body.pieces
  | .doLoop _ body test =>
    .word "do" :: body.pieces ++ .word "while" :: .mark "(" :: test.pieces {} ++ [.mark ")"]
  | .switch _ discriminant cases =>
    .word "switch" :: .mark "(" :: discriminant.pieces {} ++ .mark ")" ::
      inBraces (casePieces cases)
  | .throwValue _ arg => .word "throw" :: arg.pieces {} ++ [.mark ";"]
  | .tryBlock _ block catchPos param handler hasFinally finalizer =>
    .word "try" :: inBraces (stmtsPieces block) ++
      (if catchPos.isSome then
        .word "catch" :: catchParamPieces param ++ inBraces (stmtsPieces handler)
      else []) ++
      if hasFinally then .word "finally" :: inBraces (stmtsPieces finalizer) else []
  | .labeled _ label body => .word label :: .mark ":" :: body.pieces
  | .breakTo _ label => .word "break" :: (label.map .word).toList ++ [.mark ";"]
  | .continueTo _ label => .word "continue" :: (label.map .word).toList ++ [.mark ";"]
  | .withObject _ object body =>
    .word "with" :: .mark "(" :: object.pieces {} ++ .mark ")" :: body.pieces

/-- What stands before the first semicolon in the head of a loop. -/
def Stmt.loopInitPieces : Stmt → List Piece
  | .expr _ value => value.pieces { allowIn := false }
  | .declaration _ kind declarators =>
    .word kind.text :: commaSeparated (declaratorPieces false declarators)
  | _ => []

def elsePieces : Option Stmt → List Piece
  | none => []
  | some s => .word "else" :: s.pieces

def catchParamPieces : Option Pattern → List Piece
  | none => []
  | some p => .mark "(" :: p.pieces {} ++ [.mark ")"]

def casePieces : List Case → List Piece
  | [] => []
  | .mk test body :: rest =>
    caseTestPieces test ++ .mark ":" :: stmtsPieces body ++ casePieces rest

def caseTestPieces : Option Expr → List Piece
  | none => [.word "default"]
  | some e => .word "case" :: e.pieces {}

def stmtsPieces : List Stmt → List Piece
  | [] => []
  | s :: rest => s.pieces ++ stmtsPieces rest

end

/-- The text of a script. -/
def printScript (statements : List Stmt) : String := Piece.join (stmtsPieces statements)

end BrowserScript.Script
