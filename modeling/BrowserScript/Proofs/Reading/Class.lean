import Mathlib
import BrowserScript.Proofs.Reading.Function
import BrowserScript.Script.Grammar.Class

/-!
What readers of classes leave behind.
-/

set_option autoImplicit false
set_option relaxedAutoImplicit false
set_option mvcgen.warning false

namespace BrowserScript.Reading

open Script Std.Do

variable [Known] {before : ReadState} {parts : Parts}

/-! ### Members -/

@[spec]
theorem readMemberKey_spec (h : PartsKeep parts) :
    ⦃Holds⦄ Reader.readMemberKey parts ⦃Keeps⦄ := by
  mvcgen [Reader.readMemberKey]
  all_goals grind -ring -linarith

@[spec]
theorem atFieldEnd_spec (lineBreakEnds : Bool) :
    ⦃From before⦄ Reader.atFieldEnd lineBreakEnds ⦃⇓ _ s => ⌜At standing s ∧ Kept before s⌝⦄ := by
  refine looks_of_every fun R hR ↦ ?_
  mvcgen [Reader.atFieldEnd]
  all_goals grind -ring -linarith

@[spec]
theorem readField_spec (h : PartsKeep parts) (start keyPos : Nat) (isStatic : Bool) (key : Key) :
    ⦃Holds⦄ Reader.readField parts start keyPos isStatic key ⦃Keeps⦄ := by
  mvcgen [Reader.readField, Reader.within]
  all_goals grind -ring -linarith

@[spec]
theorem readMethod_spec (h : PartsKeep parts) (start : Nat) (isStatic : Bool) (kind : MethodKind)
    (function : Reader.FunctionKind) (key : Key) {check : List Pattern → Reader Unit}
    (hcheck : ∀ params, ⦃Holds⦄ check params ⦃Keeps⦄) :
    ⦃Holds⦄ Reader.readMethod parts start isStatic kind function key check ⦃Keeps⦄ := by
  mvcgen [Reader.readMethod, hcheck]

@[spec]
theorem readConstructorParam_spec (h : PartsKeep parts) :
    ⦃Holds⦄ Reader.readConstructorParam parts ⦃Keeps⦄ := by
  mvcgen [Reader.readConstructorParam]
  all_goals grind -ring -linarith

@[spec]
theorem readConstructor_spec (h : PartsKeep parts) (start : Nat) (key : Key) :
    ⦃Holds⦄ Reader.readConstructor parts start key ⦃Keeps⦄ := by
  mvcgen [Reader.readConstructor]
  all_goals grind -ring -linarith

@[spec]
theorem readAccessor_spec (h : PartsKeep parts) (start wordPos : Nat) (isStatic isGetter : Bool) :
    ⦃Holds⦄ Reader.readAccessor parts start wordPos isStatic isGetter ⦃Keeps⦄ := by
  mvcgen [Reader.readAccessor]
  all_goals grind -ring -linarith

@[spec]
theorem readAsyncMethod_spec (h : PartsKeep parts) (start : Nat) (isStatic : Bool) :
    ⦃Holds⦄ Reader.readAsyncMethod parts start isStatic ⦃Keeps⦄ := by
  mvcgen [Reader.readAsyncMethod]
  all_goals grind -ring -linarith

@[spec]
theorem readGeneratorMethod_spec (h : PartsKeep parts) (start : Nat) (isStatic : Bool) :
    ⦃Holds⦄ Reader.readGeneratorMethod parts start isStatic ⦃Keeps⦄ := by
  mvcgen [Reader.readGeneratorMethod]
  all_goals grind -ring -linarith

@[spec]
theorem readKeyedMember_spec (h : PartsKeep parts) (start : Nat) (isStatic : Bool) :
    ⦃Holds⦄ Reader.readKeyedMember parts start isStatic ⦃Keeps⦄ := by
  mvcgen [Reader.readKeyedMember]
  all_goals grind -ring -linarith

@[spec]
theorem readMember_spec (h : PartsKeep parts) : ⦃Holds⦄ Reader.readMember parts ⦃Keeps⦄ := by
  mvcgen [Reader.readMember, Reader.within]
  all_goals grind -ring -linarith

@[spec]
theorem readMembers_spec (h : PartsKeep parts) (bound : Nat) (hasConstructor : Bool) :
    ⦃Holds⦄ Reader.readMembers parts bound hasConstructor ⦃Keeps⦄ := by
  induction bound generalizing hasConstructor with
  | zero =>
    mvcgen [Reader.readMembers]
    all_goals grind -ring -linarith
  | succ bound ih =>
    mvcgen [Reader.readMembers, Reader.within, ih]
    all_goals grind -ring -linarith

/-! ### Classes -/

@[spec]
theorem readClass_spec (h : PartsKeep parts) (needsName : Bool) :
    ⦃HoldsReady⦄ Reader.readClass parts needsName ⦃Keeps⦄ := by
  mvcgen [Reader.readClass, Reader.within]
  all_goals grind -ring -linarith

@[spec]
theorem readClassExpr_spec (h : PartsKeep parts) :
    ⦃HoldsReady⦄ Reader.readClassExpr parts ⦃Keeps⦄ := by
  mvcgen [Reader.readClassExpr]
  all_goals grind -ring -linarith

@[spec]
theorem readClassDeclaration_spec (h : PartsKeep parts) :
    ⦃HoldsReady⦄ Reader.readClassDeclaration parts ⦃Keeps⦄ := by
  mvcgen [Reader.readClassDeclaration]
  all_goals grind -ring -linarith

end BrowserScript.Reading
