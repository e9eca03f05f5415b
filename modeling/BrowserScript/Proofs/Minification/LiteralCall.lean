import BrowserScript.Minification

/-!
Calls of names with literals, and what a walk through them does. A call is data of its own here
(`LiteralCall`), with the tree that it is read as and the event that it is when it is evaluated.
`Expr.trace?` tells the calls that a tree makes, in order. Most walks of minification leave such
calls as they are: if a visitor does so with the parts of a plain expression, then also with the
expression (`mapParts_plain`), and so, by induction on the fuel, does the walk.
-/

set_option autoImplicit false
set_option relaxedAutoImplicit false

namespace BrowserScript.Script

/-! ### Calls -/

/-- A literal that is passed to a function. -/
inductive Argument where
  | number (value : Float)
  | string (text : String)

def Argument.lit : Argument → Lit
  | .number value => .number value
  | .string text => .string text

/-- What a call does when it is evaluated. -/
structure CallEvent where
  callee : String
  args : List Argument

/-- A call of a name with literals, and the places of its parts. -/
structure LiteralCall where
  pos : Nat
  calleePos : Nat
  callee : String
  args : List (Nat × Argument)

namespace LiteralCall

/-- An argument as a tree. -/
def argExpr (arg : Nat × Argument) : Expr := .lit arg.1 arg.2.lit

def argExprs (c : LiteralCall) : List Expr := c.args.map argExpr

def expr (c : LiteralCall) : Expr := .call c.pos (.ident c.calleePos ⟨c.callee, 0⟩) c.argExprs

def event (c : LiteralCall) : CallEvent := ⟨c.callee, c.args.map (·.2)⟩

/-- Is it a call of a helper without an effect of its own? -/
def isPure (c : LiteralCall) : Bool := pureNames.contains c.callee

end LiteralCall

/-- A statement that is a call, or declares a variable with the value of one. -/
inductive CallStmt where
  | alone (pos : Nat) (call : LiteralCall)
  | bound (pos declaratorPos namePos : Nat) (name : String) (call : LiteralCall)

namespace CallStmt

def call : CallStmt → LiteralCall
  | .alone _ call | .bound _ _ _ _ call => call

def pos : CallStmt → Nat
  | .alone pos _ | .bound pos _ _ _ _ => pos

/-- The name that is declared. -/
def name? : CallStmt → Option String
  | .alone _ _ => none
  | .bound _ _ _ name _ => some name

/-- The statement, with the number of the scope that its name belongs to. -/
def stmtIn (scope : Nat) : CallStmt → Stmt
  | .alone pos call => .expr pos call.expr
  | .bound pos declaratorPos namePos name call =>
    .declaration pos .var [.mk declaratorPos (.ident namePos ⟨name, scope⟩) (some call.expr)]

end CallStmt

/-! ### The calls that a tree makes -/

/-- The literals that are passed, if there is nothing else. -/
def arguments? : List Expr → Option (List Argument)
  | [] => some []
  | .lit _ (.number value) :: rest => (arguments? rest).map (.number value :: ·)
  | .lit _ (.string text) :: rest => (arguments? rest).map (.string text :: ·)
  | _ => none

mutual

/-- The calls that evaluating an expression makes, in order, where all of them are calls of names
with literals. A function without parameters that is called at once runs its body. -/
def Expr.trace? : Expr → Option (List CallEvent)
  | .call _ (.ident _ id) args => (arguments? args).map ([⟨id.name, ·⟩])
  | .call _ (.paren _ (.function _ none (.mk _ false false [] body))) [] => traceOf? body
  | .seq _ exprs => traceOfExprs? exprs
  | _ => none

def traceOfExprs? : List Expr → Option (List CallEvent)
  | [] => some []
  | e :: rest => return (← e.trace?) ++ (← traceOfExprs? rest)

def Declarator.trace? : Declarator → Option (List CallEvent)
  | .mk _ (.ident _ _) (some value) => value.trace?
  | _ => none

def traceOfDeclarators? : List Declarator → Option (List CallEvent)
  | [] => some []
  | d :: rest => return (← d.trace?) ++ (← traceOfDeclarators? rest)

def Stmt.trace? : Stmt → Option (List CallEvent)
  | .expr _ value => value.trace?
  | .declaration _ .var declarators => traceOfDeclarators? declarators
  | _ => none

def traceOf? : List Stmt → Option (List CallEvent)
  | [] => some []
  | s :: rest => return (← s.trace?) ++ (← traceOf? rest)

end

theorem arguments?_map (args : List (Nat × Argument)) :
    arguments? (args.map LiteralCall.argExpr) = some (args.map (·.2)) := by
  induction args with
  | nil => rfl
  | cons arg args ih =>
    rw [List.map_cons, List.map_cons]
    rcases arg with ⟨pos, value | text⟩
    · show (arguments? _).map (Argument.number value :: ·) = _
      rw [ih, Option.map_some]
    · show (arguments? _).map (Argument.string text :: ·) = _
      rw [ih, Option.map_some]

theorem trace?_expr (c : LiteralCall) : c.expr.trace? = some [c.event] := by
  rw [LiteralCall.expr, Expr.trace?, LiteralCall.argExprs, arguments?_map]
  rfl

theorem traceOfExprs?_calls (calls : List LiteralCall) :
    traceOfExprs? (calls.map LiteralCall.expr) = some (calls.map LiteralCall.event) := by
  induction calls with
  | nil => rw [List.map_nil, traceOfExprs?]; rfl
  | cons c calls ih =>
    rw [List.map_cons, traceOfExprs?, trace?_expr, ih]
    rfl

theorem trace?_stmtIn (scope : Nat) (s : CallStmt) :
    (s.stmtIn scope).trace? = some [s.call.event] := by
  cases s with
  | alone pos call =>
    rw [CallStmt.stmtIn, Stmt.trace?, trace?_expr]
    rfl
  | bound pos declaratorPos namePos name call =>
    simp only [CallStmt.stmtIn, Stmt.trace?, traceOfDeclarators?, Declarator.trace?, trace?_expr]
    rfl

theorem traceOf?_calls (scope : Nat) (script : List CallStmt) :
    traceOf? (script.map (·.stmtIn scope)) = some (script.map (·.call.event)) := by
  induction script with
  | nil => rw [List.map_nil, traceOf?]; rfl
  | cons s script ih =>
    rw [List.map_cons, traceOf?, trace?_stmtIn, ih]
    rfl

/-! ### Names that can be called -/

/-- Globals that minification knows. -/
def knownCallees : List String := ["eval", "Object", "Array"]

/-- A name of the world around the script that means nothing special. -/
structure IsOutside (declared : List String) (name : String) : Prop where
  undeclared : name ∉ declared
  unknown : name ∉ knownCallees

namespace IsOutside

variable {declared : List String} {name : String}

theorem ne_eval (h : IsOutside declared name) : name ≠ "eval" := by
  rintro rfl
  exact h.unknown (by decide)

theorem ne_object (h : IsOutside declared name) : name ≠ "Object" := by
  rintro rfl
  exact h.unknown (by decide)

theorem ne_array (h : IsOutside declared name) : name ≠ "Array" := by
  rintro rfl
  exact h.unknown (by decide)

end IsOutside

/-! ### Plain expressions -/

variable {declared : List String}

/-- The expressions that calls of outside names are made of, and sequences of such calls. -/
inductive Plain (declared : List String) : Expr → Prop
  | lit (pos : Nat) (arg : Argument) : Plain declared (.lit pos arg.lit)
  | ident {name : String} (h : IsOutside declared name) (pos : Nat) :
    Plain declared (.ident pos ⟨name, 0⟩)
  | call {c : LiteralCall} (h : IsOutside declared c.callee) : Plain declared c.expr
  | seq {calls : List LiteralCall} (h : ∀ c ∈ calls, IsOutside declared c.callee) (pos : Nat) :
    Plain declared (.seq pos (calls.map LiteralCall.expr))

/-- A statement that evaluates a plain expression, or declares a variable of the script with the
value of a call. -/
inductive PlainStmt (declared : List String) : Stmt → Prop
  | expr {e : Expr} (he : Plain declared e) (pos : Nat) : PlainStmt declared (.expr pos e)
  | bound {call : LiteralCall} (h : IsOutside declared call.callee)
    (pos declaratorPos namePos : Nat) (name : String) :
    PlainStmt declared ((CallStmt.bound pos declaratorPos namePos name call).stmtIn 1)

theorem CallStmt.plainStmt {s : CallStmt} (h : IsOutside declared s.call.callee) :
    PlainStmt declared (s.stmtIn 1) := by
  cases s with
  | alone pos call => exact .expr (.call h) pos
  | bound pos declaratorPos namePos name call => exact .bound h pos declaratorPos namePos name

theorem LiteralCall.plain_of_mem_argExprs {c : LiteralCall} {e : Expr} (h : e ∈ c.argExprs) :
    Plain declared e := by
  obtain ⟨⟨pos, arg⟩, _, rfl⟩ := List.mem_map.mp h
  exact .lit pos arg

variable {m : Type → Type} [Monad m]

/-- Plain expressions are left as they are. -/
def Leaves (declared : List String) (f : Expr → m Expr) : Prop :=
  ∀ e, Plain declared e → f e = pure e

theorem Leaves.pure : Leaves declared (Pure.pure : Expr → m Expr) := fun _ _ ↦ rfl

variable [LawfulMonad m]

theorem mapM_map_eq_pure {α β γ : Type} {f : β → m γ} {g : α → β} {h : α → γ} {xs : List α}
    (hf : ∀ x ∈ xs, f (g x) = pure (h x)) : (xs.map g).mapM f = pure (xs.map h) := by
  induction xs with
  | nil => rw [List.map_nil, List.mapM_nil, List.map_nil]
  | cons x xs ih =>
    rw [List.map_cons, List.mapM_cons, hf x List.mem_cons_self, pure_bind,
      ih fun y hy ↦ hf y (List.mem_cons_of_mem _ hy), pure_bind, List.map_cons]

theorem mapM_eq_pure {α : Type} {f : α → m α} {xs : List α} (h : ∀ x ∈ xs, f x = pure x) :
    xs.mapM f = pure xs := by
  have hmap := @mapM_map_eq_pure m _ _ _ _ _ f id id xs h
  rwa [List.map_id] at hmap

/-- A visitor that leaves names and plain expressions as they are. -/
structure LeavesPlain (declared : List String) (v : Visitor m) : Prop where
  expr : Leaves declared v.expr
  ident : ∀ name, IsOutside declared name → v.ident ⟨name, 0⟩ = pure ⟨name, 0⟩

namespace LeavesPlain

variable {v : Visitor m}

theorem mapParts_plain (hv : LeavesPlain declared v) : Leaves declared (Expr.mapParts v) := by
  intro e h
  cases h with
  | lit pos arg => rfl
  | ident h pos => simp only [Expr.mapParts, hv.ident _ h, pure_bind]
  | @call c h =>
    have hargs : c.argExprs.mapM v.expr = pure c.argExprs :=
      mapM_eq_pure fun e he ↦ hv.expr e (LiteralCall.plain_of_mem_argExprs he)
    simp only [LiteralCall.expr, Expr.mapParts, hv.expr _ (.ident h c.calleePos), hargs, pure_bind]
  | @seq calls h pos =>
    have hcalls : (calls.map LiteralCall.expr).mapM v.expr = pure (calls.map LiteralCall.expr) := by
      refine mapM_eq_pure fun e he ↦ ?_
      obtain ⟨c, hc, rfl⟩ := List.mem_map.mp he
      exact hv.expr _ (.call (h c hc))
    simp only [Expr.mapParts, hcalls, pure_bind]

/-- A visitor leaves plain expressions as they are if it does so with each whose parts it leaves. The
induction is on the fuel, which goes down with each step into the parts. -/
theorem of_fuel {v : Nat → Visitor m} (hzero : Leaves declared (v 0).expr)
    (hident : ∀ fuel name, IsOutside declared name → (v fuel).ident ⟨name, 0⟩ = pure ⟨name, 0⟩)
    (hsucc : ∀ fuel e, Plain declared e → e.mapParts (v fuel) = pure e →
      (v (fuel + 1)).expr e = pure e) (fuel : Nat) : LeavesPlain declared (v fuel) := by
  induction fuel with
  | zero => exact ⟨hzero, hident 0⟩
  | succ fuel ih =>
    exact ⟨fun e he ↦ hsucc fuel e he (ih.mapParts_plain e he), hident (fuel + 1)⟩

/-- A statement that is plain is left as it is by a visitor that leaves the names that it declares.
-/
theorem mapParts_plainStmt (hv : LeavesPlain declared v)
    (hpattern : ∀ pos name, v.pattern (.ident pos ⟨name, 1⟩) = pure (.ident pos ⟨name, 1⟩))
    {s : Stmt} (hs : PlainStmt declared s) : s.mapParts v = pure s := by
  cases hs with
  | expr he pos => simp only [Stmt.mapParts, hv.expr _ he, pure_bind]
  | @bound call h pos declaratorPos namePos name =>
    have hcall : v.expr call.expr = pure call.expr := hv.expr _ (.call h)
    simp only [CallStmt.stmtIn, Stmt.mapParts, List.mapM_cons, List.mapM_nil, Declarator.mapParts,
      hpattern, visitOption, hcall, pure_bind]

end LeavesPlain

end BrowserScript.Script
