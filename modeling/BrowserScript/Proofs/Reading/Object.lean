import Mathlib
import BrowserScript.Proofs.Reading.Function
import BrowserScript.Script.Grammar.Object

/-!
What readers of array and object literals leave behind.
-/

set_option autoImplicit false
set_option relaxedAutoImplicit false
set_option mvcgen.warning false

namespace BrowserScript.Reading

open Script Std.Do

variable [Known] {parts : Parts}

@[spec]
theorem keepTrailingComma_spec (start : Nat) (comma : Option Nat) :
    ⦃Holds⦄ Reader.keepTrailingComma start comma ⦃Keeps⦄ := by
  mvcgen [Reader.keepTrailingComma]

@[spec]
theorem readItem_spec (h : PartsKeep parts) : ⦃Holds⦄ Reader.readItem parts ⦃Keeps⦄ := by
  mvcgen [Reader.readItem, Reader.withIn, Reader.within]
  all_goals grind -ring -linarith

@[spec]
theorem readArray_spec (h : PartsKeep parts) : ⦃Holds⦄ Reader.readArray parts ⦃Keeps⦄ := by
  mvcgen [Reader.readArray]
  all_goals grind -ring -linarith

/-! ### Properties -/

@[spec]
theorem readMethodProperty_spec (h : PartsKeep parts) (start : Nat) (kind : MethodKind)
    (function : Reader.FunctionKind) (key : Key) {check : List Pattern → Reader Unit}
    (hcheck : ∀ params, ⦃Holds⦄ check params ⦃Keeps⦄) :
    ⦃Holds⦄ Reader.readMethodProperty parts start kind function key check ⦃Keeps⦄ := by
  mvcgen [Reader.readMethodProperty, hcheck]

@[spec]
theorem readWordProperty_spec (h : PartsKeep parts) (start : Nat) (word : String) :
    ⦃Holds⦄ Reader.readWordProperty parts start word ⦃Keeps⦄ := by
  mvcgen [Reader.readWordProperty]
  all_goals grind -ring -linarith

@[spec]
theorem readNamedProperty_spec (h : PartsKeep parts) (start : Nat) (name : String) :
    ⦃Holds⦄ Reader.readNamedProperty parts start name ⦃Keeps⦄ := by
  mvcgen [Reader.readNamedProperty, Reader.withIn, Reader.within]
  all_goals grind -ring -linarith

@[spec]
theorem readProperty_spec (h : PartsKeep parts) : ⦃Holds⦄ Reader.readProperty parts ⦃Keeps⦄ := by
  mvcgen [Reader.readProperty, Reader.withIn, Reader.within]
  all_goals grind -ring -linarith

@[spec]
theorem readObject_spec (h : PartsKeep parts) : ⦃Holds⦄ Reader.readObject parts ⦃Keeps⦄ := by
  mvcgen [Reader.readObject]
  all_goals grind -ring -linarith

end BrowserScript.Reading
