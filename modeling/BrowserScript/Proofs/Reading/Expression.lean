import Mathlib
import BrowserScript.Proofs.Reading.Primary
import BrowserScript.Script.Grammar.Expression

/-!
What readers of expressions with operators leave behind.
-/

set_option autoImplicit false
set_option relaxedAutoImplicit false
set_option mvcgen.warning false

namespace BrowserScript.Reading

open Script Std.Do

/-! ### Operators -/

theorem ne_of_unaryOp {mark : String}
    (h : (UnaryOp.all.find? fun op ↦ !op.isWord && op.text = mark).isSome) : mark ≠ "`" := by
  rintro rfl
  revert h
  decide

theorem ne_of_assignOp {mark : String} (h : (AssignOp.ofText? mark).isSome) : mark ≠ "`" := by
  rintro rfl
  revert h
  decide

variable [Known] {before : ReadState} {parts : Parts}

@[spec]
theorem unaryOpHere_spec :
    ⦃From before⦄ Reader.unaryOpHere
    ⦃⇓ r s => ⌜At standing s ∧ Kept before s ∧ (r.isSome → Ready s)⌝⦄ := by
  mvcgen [Reader.unaryOpHere]
  case vc2.post.success.h_1 hbefore _ mark _ s hs =>
    obtain ⟨rfl, _⟩ := hbefore
    exact ⟨hs.1, hs.2.1, fun hop ↦ (hs.2.2.1 (by simp)).ready (isWhole_mark (ne_of_unaryOp hop))⟩
  all_goals grind -ring -linarith

@[spec]
theorem updateOpHere_spec :
    ⦃From before⦄ Reader.updateOpHere
    ⦃⇓ r s => ⌜At standing s ∧ Kept before s ∧ (r.isSome → Ready s)⌝⦄ := by
  mvcgen [Reader.updateOpHere]
  all_goals grind -ring -linarith

@[spec]
theorem assignOpHere_spec :
    ⦃From before⦄ Reader.assignOpHere
    ⦃⇓ r s => ⌜At standing s ∧ Kept before s ∧ (r.isSome → Ready s)⌝⦄ := by
  mvcgen [Reader.assignOpHere]
  all_goals grind -ring -linarith [ne_of_assignOp]

/-! ### Accesses and calls -/

@[spec]
theorem readArgsFrom_spec (h : PartsKeep parts) (noComma : Option Nat) (bound : Nat)
    (isFirst : Bool) :
    ⦃Holds⦄ Reader.readArgsFrom parts noComma bound isFirst ⦃Keeps⦄ := by
  induction bound generalizing isFirst with
  | zero =>
    mvcgen [Reader.readArgsFrom]
    all_goals grind -ring -linarith
  | succ bound ih =>
    mvcgen [Reader.readArgsFrom, ih]
    all_goals grind -ring -linarith

@[spec]
theorem readArgs_spec (h : PartsKeep parts) (refuseComma : Bool) :
    ⦃Holds⦄ Reader.readArgs parts refuseComma ⦃Keeps⦄ := by
  mvcgen [Reader.readArgs]
  all_goals grind -ring -linarith

@[spec]
theorem checkSuperAccess_spec (base access : Expr) (isQuestioned allowCall : Bool) :
    ⦃Holds⦄ Reader.checkSuperAccess base access isQuestioned allowCall ⦃Keeps⦄ := by
  mvcgen [Reader.checkSuperAccess]
  all_goals grind -ring -linarith

@[spec]
theorem eatQuestion_spec : ⦃Holds⦄ Reader.eatQuestion ⦃Keeps⦄ := by
  mvcgen [Reader.eatQuestion]
  all_goals grind -ring -linarith

@[spec]
theorem readMemberName_spec (start : Nat) (base : Expr) :
    ⦃Holds⦄ Reader.readMemberName start base ⦃Keeps⦄ := by
  mvcgen [Reader.readMemberName]
  all_goals grind -ring -linarith

@[spec]
theorem refuseBareBase_spec (base : Expr) (allowCall : Bool) :
    ⦃Holds⦄ Reader.refuseBareBase base allowCall ⦃Keeps⦄ := by
  mvcgen [Reader.refuseBareBase]
  all_goals grind -ring -linarith

@[spec]
theorem readSubscript_spec (h : PartsKeep parts) (start : Nat) (allowCall : Bool) (base : Expr) :
    ⦃Holds⦄ Reader.readSubscript parts start allowCall base ⦃Keeps⦄ := by
  mvcgen [Reader.readSubscript, Reader.withIn, Reader.within]
  all_goals grind -ring -linarith

@[spec]
theorem readSubscripts_spec (h : PartsKeep parts) (start : Nat) (allowCall : Bool) (bound : Nat)
    (base : Expr) :
    ⦃Holds⦄ Reader.readSubscripts parts start allowCall bound base ⦃Keeps⦄ := by
  induction bound generalizing base with
  | zero =>
    mvcgen [Reader.readSubscripts]
    all_goals grind -ring -linarith
  | succ bound ih =>
    mvcgen [Reader.readSubscripts, ih]

@[spec]
theorem readAccess_spec (h : PartsKeep parts) (start : Nat) (allowCall : Bool) (base : Expr) :
    ⦃Holds⦄ Reader.readAccess parts start allowCall base ⦃Keeps⦄ := by
  mvcgen [Reader.readAccess]

@[spec]
theorem readImport_spec (h : PartsKeep parts) (start : Nat) (allowCall : Bool) :
    ⦃Holds⦄ Reader.readImport parts start allowCall ⦃Keeps⦄ := by
  mvcgen [Reader.readImport]
  all_goals grind -ring -linarith

@[spec]
theorem readNew_spec (h : PartsKeep parts) (start : Nat) :
    ⦃Holds⦄ Reader.readNew parts start ⦃Keeps⦄ := by
  mvcgen [Reader.readNew]
  all_goals grind -ring -linarith

@[spec]
theorem readCallee_spec (h : PartsKeep parts) : ⦃Holds⦄ Reader.readCallee parts ⦃Keeps⦄ := by
  mvcgen [Reader.readCallee]
  all_goals grind -ring -linarith

@[spec]
theorem readLeftHandSide_spec (h : PartsKeep parts) :
    ⦃Holds⦄ Reader.readLeftHandSide parts ⦃Keeps⦄ := by
  mvcgen [Reader.readLeftHandSide]
  all_goals grind -ring -linarith

/-! ### Operators of one operand -/

@[spec]
theorem readUnaryRest_spec (h : PartsKeep parts) (start : Nat) (op : UnaryOp) :
    ⦃Holds⦄ Reader.readUnaryRest parts start op ⦃Keeps⦄ := by
  mvcgen [Reader.readUnaryRest]
  all_goals grind -ring -linarith

@[spec]
theorem readAwaitRest_spec (h : PartsKeep parts) (start : Nat) (checkedTop : Bool) :
    ⦃Holds⦄ Reader.readAwaitRest parts start checkedTop ⦃Keeps⦄ := by
  mvcgen [Reader.readAwaitRest]
  all_goals grind -ring -linarith

@[spec]
theorem readUnary_spec (h : PartsKeep parts) : ⦃Holds⦄ Reader.readUnary parts ⦃Keeps⦄ := by
  mvcgen [Reader.readUnary]
  all_goals grind -ring -linarith

/-- What is done where the first operand of an expression cannot be read. -/
def missingOperand (fault : Placed) : Reader (Except Expr Expr) := do
  Reader.demandToken
  if (← Reader.binaryOpHere).isSome || (← Reader.isWord "in") then
    Reader.note .expressionExpected (← Reader.tokenStart)
    pure (.error (.invalid fault.pos))
  else .ok <$> throw fault

omit [Known] in
/-- An operand that is missing is left with what stands for it. -/
theorem readFirstOperand_eq : Reader.readFirstOperand parts = (do
    match ← tryCatch (.ok <$> Reader.readUnary parts) missingOperand with
    | .error e => pure e
    | .ok e => pure e) := by
  unfold Reader.readFirstOperand
  refine congrArg₂ bind rfl (funext fun e ↦ ?_)
  cases e <;> rfl

/-- It may go on only behind a fault that it has noted. -/
theorem missingOperand_spec (fault : Placed) :
    ⦃Holds⦄ missingOperand fault
    ⦃post⟨fun _ s ↦ ⌜s.faults ≠ []⌝, fun _ s ↦ ⌜At standing.left s⌝⟩⦄ := by
  mvcgen [missingOperand]
  all_goals grind -ring -linarith

@[spec]
theorem readFirstOperand_spec (h : PartsKeep parts) :
    ⦃Holds⦄ Reader.readFirstOperand parts ⦃Keeps⦄ := by
  have hmissing := fun fault ↦ @missingOperand_spec ⟨standing.left⟩ fault
  rw [readFirstOperand_eq]
  mvcgen [hmissing]
  all_goals grind -ring -linarith

@[spec]
theorem readBinary_spec (h : PartsKeep parts) : ⦃Holds⦄ Reader.readBinary parts ⦃Keeps⦄ := by
  mvcgen [Reader.readBinary]
  all_goals grind -ring -linarith

/-! ### Assignments -/

@[spec]
theorem readConditional_spec (h : PartsKeep parts) :
    ⦃Holds⦄ Reader.readConditional parts ⦃Keeps⦄ := by
  mvcgen [Reader.readConditional, Reader.withIn, Reader.within]
  all_goals grind -ring -linarith

@[spec]
theorem readYieldRest_spec (h : PartsKeep parts) (start : Nat) :
    ⦃Holds⦄ Reader.readYieldRest parts start ⦃Keeps⦄ := by
  mvcgen [Reader.readYieldRest]
  all_goals grind -ring -linarith

@[spec]
theorem readTarget_spec (op : AssignOp) (e : Expr) :
    ⦃From before⦄ Reader.readTarget op e ⦃Checks before⦄ := by
  refine checks_of_every fun R hR ↦ ?_
  mvcgen [Reader.readTarget]
  all_goals grind -ring -linarith

theorem readAssignment_spec (h : PartsKeep parts) :
    ⦃Holds⦄ Reader.readAssignment parts ⦃Keeps⦄ := by
  mvcgen [Reader.readAssignment]
  all_goals grind -ring -linarith

end BrowserScript.Reading
