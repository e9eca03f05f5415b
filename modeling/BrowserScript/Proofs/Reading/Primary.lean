import Mathlib
import BrowserScript.Proofs.Reading.Class
import BrowserScript.Proofs.Reading.Object
import BrowserScript.Proofs.Reading.Template
import BrowserScript.Script.Grammar.Primary

/-!
What readers of expressions without an operator leave behind, and those of arrow functions.
-/

set_option autoImplicit false
set_option relaxedAutoImplicit false
set_option mvcgen.warning false

namespace BrowserScript.Reading

open Script Std.Do

variable [Known] {before : ReadState} {parts : Parts}

/-! ### Operators of two operands -/

omit [Known] in
theorem ne_of_binaryOp {mark : String} (h : (BinaryOp.ofText? mark).isSome) : mark ≠ "`" := by
  rintro rfl
  revert h
  decide

@[spec]
theorem binaryOpHere_spec :
    ⦃From before⦄ Reader.binaryOpHere
    ⦃⇓ r s => ⌜At standing s ∧ Kept before s ∧ (r.isSome → Ready s)⌝⦄ := by
  mvcgen [Reader.binaryOpHere]
  all_goals grind -ring -linarith [ne_of_binaryOp]

@[spec]
theorem noteMixedNullish_spec (op : BinaryOp) (pos : Nat) (left right : Expr) :
    ⦃Holds⦄ Reader.noteMixedNullish op pos left right ⦃Keeps⦄ := by
  mvcgen [Reader.noteMixedNullish, -Spec.forIn_list, forIn_keeps]
  all_goals grind -ring -linarith

@[spec]
theorem climb_spec (h : PartsKeep parts) (bound : Nat) (left : Expr) (limit : Nat) :
    ⦃Holds⦄ Reader.climb parts bound left limit ⦃Keeps⦄ := by
  induction bound generalizing left limit with
  | zero =>
    mvcgen [Reader.climb]
    all_goals grind -ring -linarith
  | succ bound ih =>
    mvcgen [Reader.climb, ih]
    all_goals grind -ring -linarith

@[spec]
theorem climbFrom_spec (h : PartsKeep parts) (left : Expr) :
    ⦃Holds⦄ Reader.climbFrom parts left ⦃Keeps⦄ := by
  mvcgen [Reader.climbFrom]

/-! ### Arrow functions -/

@[spec]
theorem atOperatorMark_spec :
    ⦃From before⦄ Reader.atOperatorMark
    ⦃⇓ _ s => ⌜At standing s ∧ Kept before s⌝⦄ := by
  mvcgen [Reader.atOperatorMark]
  all_goals grind -ring -linarith

@[spec]
theorem readArrowBody_spec (h : PartsKeep parts) (kind : Reader.FunctionKind)
    (params : List Pattern) :
    ⦃Holds⦄ Reader.readArrowBody parts kind params ⦃Keeps⦄ := by
  mvcgen [Reader.readArrowBody, Reader.withinBody, Reader.within]
  all_goals grind -ring -linarith

@[spec]
theorem readArrowRest_spec (h : PartsKeep parts) (start : Nat) (isAsync : Bool)
    (params : List Pattern) :
    ⦃Holds⦄ Reader.readArrowRest parts start isAsync params ⦃Keeps⦄ := by
  mvcgen [Reader.readArrowRest]

@[spec]
theorem readInnerArrow_spec (h : PartsKeep parts) (start : Nat) (items : List Expr) :
    ⦃Holds⦄ Reader.readInnerArrow parts start items ⦃Keeps⦄ := by
  mvcgen [Reader.readInnerArrow]
  exact fun _ _ ↦ h

@[spec]
theorem readParenItem_spec (h : PartsKeep parts) (items : List Expr) :
    ⦃Holds⦄ Reader.readParenItem parts items ⦃Keeps⦄ := by
  mvcgen [Reader.readParenItem]
  all_goals grind -ring -linarith

@[spec]
theorem readParenItemsFrom_spec (h : PartsKeep parts) (bound : Nat) (items : List Expr)
    (comma : Option Nat) :
    ⦃Holds⦄ Reader.readParenItemsFrom parts bound items comma ⦃Keeps⦄ := by
  induction bound generalizing items comma with
  | zero =>
    mvcgen [Reader.readParenItemsFrom]
    all_goals grind -ring -linarith
  | succ bound ih =>
    mvcgen [Reader.readParenItemsFrom, ih]
    all_goals grind -ring -linarith

@[spec]
theorem readParenItems_spec (h : PartsKeep parts) :
    ⦃Holds⦄ Reader.readParenItems parts ⦃Keeps⦄ := by
  mvcgen [Reader.readParenItems]

@[spec]
theorem noteInitializedProperties_spec (items : List Expr) :
    ⦃Holds⦄ Reader.noteInitializedProperties items ⦃Keeps⦄ := by
  mvcgen [Reader.noteInitializedProperties, -Spec.forIn_list, forIn_keeps]
  all_goals grind -ring -linarith

@[spec]
theorem refuseSpreads_spec (items : List Expr) :
    ⦃Holds⦄ Reader.refuseSpreads items ⦃Keeps⦄ := by
  mvcgen [Reader.refuseSpreads, -Spec.forIn_list, forIn_keeps]

@[spec]
theorem readParenArrow_spec (h : PartsKeep parts) (start : Nat) (isAsync canBeArrow : Bool)
    (items : List Expr) (comma : Option Nat) :
    ⦃Holds⦄ Reader.readParenArrow parts start isAsync canBeArrow items comma ⦃Keeps⦄ := by
  mvcgen [Reader.readParenArrow]
  all_goals grind -ring -linarith

@[spec]
theorem readParens_spec (h : PartsKeep parts) (canBeArrow : Bool) (asyncPos : Option Nat) :
    ⦃Holds⦄ Reader.readParens parts canBeArrow asyncPos ⦃Keeps⦄ := by
  mvcgen [Reader.readParens, Reader.withIn, Reader.within]
  all_goals grind -ring -linarith

/-! ### Names and literals -/

@[spec]
theorem atOf_spec : ⦃From before⦄ Reader.atOf
    ⦃⇓ _ s => ⌜At standing s ∧ Kept before s⌝⦄ := by
  mvcgen [Reader.atOf]
  all_goals grind -ring -linarith

@[spec]
theorem readNameExpr_spec (h : PartsKeep parts) (canBeArrow : Bool) :
    ⦃Holds⦄ Reader.readNameExpr parts canBeArrow ⦃Keeps⦄ := by
  mvcgen [Reader.readNameExpr]
  all_goals grind -ring -linarith

@[spec]
theorem readAsyncExpr?_spec (h : PartsKeep parts) (canBeArrow : Bool) (word : String) :
    ⦃fun s ↦ ⌜At standing s ∧ Shows (.word word) s⌝⦄ Reader.readAsyncExpr? parts canBeArrow
    ⦃Keeps⦄ := by
  mvcgen [Reader.readAsyncExpr?]
  all_goals grind -ring -linarith

@[spec]
theorem readLiteral_spec (pos : Nat) (value : Lit) :
    ⦃HoldsReady⦄ Reader.readLiteral pos value ⦃Keeps⦄ := by
  mvcgen [Reader.readLiteral]
  all_goals grind -ring -linarith

@[spec]
theorem readWordExpr_spec (h : PartsKeep parts) (pos : Nat) (canBeArrow : Bool) (word : String) :
    ⦃fun s ↦ ⌜At standing s ∧ Shows (.word word) s⌝⦄
    Reader.readWordExpr parts pos canBeArrow word ⦃Keeps⦄ := by
  mvcgen [Reader.readWordExpr]
  all_goals grind -ring -linarith

@[spec]
theorem readPrimary_spec (h : PartsKeep parts) : ⦃Holds⦄ Reader.readPrimary parts ⦃Keeps⦄ := by
  mvcgen [Reader.readPrimary]
  all_goals grind -ring -linarith

end BrowserScript.Reading
