import Mathlib
import BrowserScript.Proofs.Reading.Pattern
import BrowserScript.Script.Grammar.Function

/-!
What readers of blocks and functions leave behind. Behind the statements of a body stands what ends
it, so a body in braces is left behind its closing brace.
-/

set_option autoImplicit false
set_option relaxedAutoImplicit false
set_option mvcgen.warning false

namespace BrowserScript.Reading

open Script Std.Do

variable [Known] {before : ReadState} {α : Type} {parts : Parts}

/-! ### Blocks -/

@[spec]
theorem noteMissingBrace_spec : ⦃Holds⦄ Reader.noteMissingBrace ⦃⇓ _ s => ⌜s.faults ≠ []⌝⦄ := by
  mvcgen [Reader.noteMissingBrace]

theorem atClosingBrace_spec : ⦃Holds⦄ Reader.atClosingBrace
    ⦃⇓ r s => ⌜At standing s ∧ (r → Shows (.mark "\x7d") s)⌝⦄ := by
  mvcgen [Reader.atClosingBrace]
  all_goals grind -ring -linarith

section Statements

variable {atEnd : Reader Bool} {P : ReadState → Prop}
  (hend : ⦃Holds⦄ atEnd ⦃⇓ r s => ⌜At standing s ∧ (r → P s)⌝⦄)

include hend

theorem readBodyStatement_spec (h : PartsKeep parts) :
    ⦃Holds⦄ Reader.readBodyStatement parts atEnd
    ⦃post⟨fun r s ↦ ⌜At standing s ∧ (r = none → P s)⌝, fun _ s ↦ ⌜At standing.left s⌝⟩⦄ := by
  mvcgen [Reader.readBodyStatement, hend]
  all_goals grind -ring -linarith

theorem readStatements_spec (h : PartsKeep parts) (allowDirectives : Bool)
    (hcontext : ∀ s context, P s → P { s with context }) :
    ⦃Holds⦄ Reader.readStatements parts allowDirectives atEnd
    ⦃post⟨fun _ s ↦ ⌜At standing s ∧ P s⌝, fun _ s ↦ ⌜At standing.left s⌝⟩⦄ := by
  have hfirst := readBodyStatement_spec hend h
  have hothers := many_spec hfirst
  mvcgen [Reader.readStatements, Reader.within, hfirst, -many_keeps, hothers]
  all_goals grind -ring -linarith

end Statements

@[spec]
theorem readBlockWithDirective_spec (h : PartsKeep parts) (allowDirectives : Bool) :
    ⦃Holds⦄ Reader.readBlockWithDirective parts allowDirectives ⦃Keeps⦄ := by
  have hstatements := readStatements_spec atClosingBrace_spec h allowDirectives
    fun s context hshows ↦ hshows
  mvcgen [Reader.readBlockWithDirective, Reader.within, hstatements]
  all_goals grind -ring -linarith

@[spec]
theorem readBlock_spec (h : PartsKeep parts) : ⦃Holds⦄ Reader.readBlock parts ⦃Keeps⦄ := by
  mvcgen [Reader.readBlock]

/-! ### Functions -/

@[spec]
theorem readFunctionBody_spec (h : PartsKeep parts) (kind : Reader.FunctionKind)
    (params : List Pattern) :
    ⦃Holds⦄ Reader.readFunctionBody parts kind params ⦃Keeps⦄ := by
  mvcgen [Reader.readFunctionBody, Reader.withinBody, Reader.withIn, Reader.within]
  all_goals grind -ring -linarith

@[spec]
theorem readParam_spec (h : PartsKeep parts) : ⦃Holds⦄ Reader.readParam parts ⦃Keeps⦄ := by
  mvcgen [Reader.readParam]
  all_goals grind -ring -linarith

theorem readParamsFrom_spec {param : Reader (Pattern × Option Nat)}
    (hparam : ⦃Holds⦄ param ⦃Keeps⦄) (bound : Nat) (rest : Option Nat) :
    ⦃Holds⦄ Reader.readParamsFrom param bound rest ⦃Keeps⦄ := by
  induction bound generalizing rest with
  | zero =>
    mvcgen [Reader.readParamsFrom]
    all_goals grind -ring -linarith
  | succ bound ih =>
    mvcgen [Reader.readParamsFrom, hparam, ih]
    all_goals grind -ring -linarith

@[spec]
theorem readParams_spec {param : Reader (Pattern × Option Nat)} (hparam : ⦃Holds⦄ param ⦃Keeps⦄) :
    ⦃Holds⦄ Reader.readParams param ⦃Keeps⦄ := by
  have hparams := readParamsFrom_spec hparam
  mvcgen [Reader.readParams, hparams]

@[spec]
theorem readParamsAndBody_spec (h : PartsKeep parts) (start : Nat) (kind : Reader.FunctionKind)
    (allowSuper : Bool) {check : List Pattern → Reader Unit}
    (hcheck : ∀ params, ⦃Holds⦄ check params ⦃Keeps⦄) :
    ⦃Holds⦄ Reader.readParamsAndBody parts start kind allowSuper check ⦃Keeps⦄ := by
  mvcgen [Reader.readParamsAndBody, Reader.within, hcheck]
  all_goals grind -ring -linarith

@[spec]
theorem checkGetterParams_spec (keyPos : Nat) (params : List Pattern) :
    ⦃Holds⦄ Reader.checkGetterParams keyPos params ⦃Keeps⦄ := by
  mvcgen [Reader.checkGetterParams]
  all_goals grind -ring -linarith

@[spec]
theorem checkSetterParams_spec (keyPos : Nat) (params : List Pattern) :
    ⦃Holds⦄ Reader.checkSetterParams keyPos params ⦃Keeps⦄ := by
  mvcgen [Reader.checkSetterParams]
  all_goals grind -ring -linarith

@[spec]
theorem readFunction_spec (h : PartsKeep parts) (start : Nat) (isAsync isExpr : Bool) :
    ⦃Holds⦄ Reader.readFunction parts start isAsync isExpr ⦃Keeps⦄ := by
  mvcgen [Reader.readFunction, Reader.within]
  all_goals grind -ring -linarith

@[spec]
theorem beforeFunction_spec :
    ⦃fun s ↦ ⌜s = before ∧ At standing s ∧ ∃ t, looksAhead t ∧ Shows t s⌝⦄ Reader.beforeFunction
    ⦃⇓ r s => ⌜At standing s ∧ Kept before s ∧ (r → ShowsNext (.word "function") s)⌝⦄ := by
  mvcgen [Reader.beforeFunction]
  all_goals grind -ring -linarith

@[spec]
theorem readFunctionExpr_spec (h : PartsKeep parts) (isAsync : Bool) :
    ⦃fun s ↦ ⌜At standing s ∧ Ready s ∧ (isAsync → ShowsNext (.word "function") s)⌝⦄
    Reader.readFunctionExpr parts isAsync ⦃Keeps⦄ := by
  mvcgen [Reader.readFunctionExpr]
  all_goals grind -ring -linarith

@[spec]
theorem readFunctionDeclaration_spec (h : PartsKeep parts) (isAsync : Bool) :
    ⦃fun s ↦ ⌜At standing s ∧ Ready s ∧ (isAsync → ShowsNext (.word "function") s)⌝⦄
    Reader.readFunctionDeclaration parts isAsync ⦃Keeps⦄ := by
  mvcgen [Reader.readFunctionDeclaration]
  all_goals grind -ring -linarith

end BrowserScript.Reading
