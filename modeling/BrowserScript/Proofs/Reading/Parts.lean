import Mathlib
import BrowserScript.Proofs.Reading.Reader
import BrowserScript.Script.Grammar.Parts

/-!
What readers of the parts of a construct leave behind.
-/

set_option autoImplicit false
set_option relaxedAutoImplicit false
set_option mvcgen.warning false

namespace BrowserScript.Reading

open Script Std.Do

variable {before : ReadState} {parts : Parts}

/-- The readers of nested parts keep what is known of a state. -/
structure PartsKeep (parts : Parts) : Prop where
  assignment [Known] : ⦃Holds⦄ parts.assignment ⦃Keeps⦄
  unary [Known] : ⦃Holds⦄ parts.unary ⦃Keeps⦄
  leftHandSide [Known] : ⦃Holds⦄ parts.leftHandSide ⦃Keeps⦄
  callee [Known] : ⦃Holds⦄ parts.callee ⦃Keeps⦄
  statement [Known] (allowDeclaration : Bool) :
    ⦃Holds⦄ parts.statement allowDeclaration ⦃Keeps⦄
  pattern [Known] (refuseLet : Bool) : ⦃Holds⦄ parts.pattern refuseLet ⦃Keeps⦄

attribute [spec] PartsKeep.assignment PartsKeep.unary PartsKeep.leftHandSide PartsKeep.callee
  PartsKeep.statement PartsKeep.pattern

variable [Known]

@[spec]
theorem atName_spec : ⦃From before⦄ Reader.atName
    ⦃⇓ _ s => ⌜At standing s ∧ Kept before s⌝⦄ := by
  mvcgen [Reader.atName]
  all_goals grind -ring -linarith

@[spec]
theorem readIdent_spec (admitYield admitAwait : Bool) :
    ⦃Holds⦄ Reader.readIdent admitYield admitAwait ⦃Keeps⦄ := by
  mvcgen [Reader.readIdent]
  all_goals grind -ring -linarith

@[spec]
theorem readBindingName_spec (refuseLet : Bool) :
    ⦃Holds⦄ Reader.readBindingName refuseLet ⦃Keeps⦄ := by
  mvcgen [Reader.readBindingName]
  all_goals grind -ring -linarith

@[spec]
theorem readPlainName_spec : ⦃Holds⦄ Reader.readPlainName ⦃Keeps⦄ := by
  mvcgen [Reader.readPlainName]
  all_goals grind -ring -linarith

@[spec]
theorem readPrivateName_spec : ⦃HoldsReady⦄ Reader.readPrivateName ⦃Keeps⦄ := by
  mvcgen [Reader.readPrivateName]
  all_goals grind -ring -linarith

@[spec]
theorem readKey_spec (h : PartsKeep parts) : ⦃Holds⦄ Reader.readKey parts ⦃Keeps⦄ := by
  mvcgen [Reader.readKey, Reader.withIn, Reader.within]
  all_goals grind -ring -linarith

@[spec]
theorem readExpression_spec (h : PartsKeep parts) :
    ⦃Holds⦄ Reader.readExpression parts ⦃Keeps⦄ := by
  mvcgen [Reader.readExpression]
  all_goals grind -ring -linarith

end BrowserScript.Reading
