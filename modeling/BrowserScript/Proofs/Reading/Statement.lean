import Mathlib
import BrowserScript.Proofs.Reading.Expression
import BrowserScript.Script.Grammar.Statement

/-!
What readers of statements leave behind. Some of them go on behind a fault that has been noted and
try to read what may stand there; of those only the fault has to be kept.
-/

set_option autoImplicit false
set_option relaxedAutoImplicit false
set_option mvcgen.warning false

namespace BrowserScript.Reading

open Script Std.Do

variable {before : ReadState} {parts : Parts}

/-! ### Behind a fault -/

/-- A fault has been noted. -/
abbrev Noted : Assertion (.except Placed (.arg ReadState .pure)) := fun s ↦ ⌜s.faults ≠ []⌝

/-- The fault has been kept. -/
abbrev StaysNoted {α : Type} : PostCond α (.except Placed (.arg ReadState .pure)) :=
  ⇓ _ s => ⌜s.faults ≠ []⌝

/-- A part that keeps faults keeps them also when its own do not matter. -/
@[spec]
theorem attempt_spec {α : Type} {part : Reader α} (hpart : ∀ [Known], ⦃Holds⦄ part ⦃Keeps⦄) :
    ⦃Noted⦄ Reader.attempt part ⦃StaysNoted⦄ := by
  have hfaulty := @hpart ⟨.faulty⟩
  mvcgen [Reader.attempt, hfaulty]

@[spec]
theorem skipTokens_spec (bound : Nat) : ⦃Noted⦄ Reader.skipTokens bound ⦃StaysNoted⦄ := by
  let _ : Known := ⟨.faulty⟩
  have hnoted : ∀ s : ReadState, At standing s ↔ s.faults ≠ [] := fun _ ↦ .rfl
  induction bound with
  | zero => mvcgen [Reader.skipTokens]
  | succ bound ih =>
    mvcgen [Reader.skipTokens, ih]
    all_goals grind -ring -linarith

@[spec]
theorem skipStatement_spec (h : PartsKeep parts) :
    ⦃Noted⦄ Reader.skipStatement parts ⦃StaysNoted⦄ := by
  mvcgen [Reader.skipStatement]
  exact fun _ _ ↦ h

/-! ### Parts of statements -/

variable [Known]

@[spec]
theorem readFullExpression_spec (h : PartsKeep parts) :
    ⦃Holds⦄ Reader.readFullExpression parts ⦃Keeps⦄ := by
  mvcgen [Reader.readFullExpression, Reader.withIn, Reader.within]

@[spec]
theorem readHead_spec (h : PartsKeep parts) : ⦃Holds⦄ Reader.readHead parts ⦃Keeps⦄ := by
  mvcgen [Reader.readHead]

@[spec]
theorem readLoopBody_spec (h : PartsKeep parts) : ⦃Holds⦄ Reader.readLoopBody parts ⦃Keeps⦄ := by
  mvcgen [Reader.readLoopBody, Reader.within]

@[spec]
theorem readDeclaratorValue_spec (h : PartsKeep parts) (start : Nat) (kind : VarKind)
    (inLoop : Bool) (target : Pattern) :
    ⦃Holds⦄ Reader.readDeclaratorValue parts start kind inLoop target ⦃Keeps⦄ := by
  mvcgen [Reader.readDeclaratorValue]
  all_goals grind -ring -linarith

@[spec]
theorem readDeclarator_spec (h : PartsKeep parts) (kind : VarKind) (inLoop : Bool) :
    ⦃Holds⦄ Reader.readDeclarator parts kind inLoop ⦃Keeps⦄ := by
  mvcgen [Reader.readDeclarator]
  all_goals grind -ring -linarith

@[spec]
theorem readDeclarators_spec (h : PartsKeep parts) (kind : VarKind) (inLoop : Bool)
    (wordEnd bound : Nat) :
    ⦃Holds⦄ Reader.readDeclarators parts kind inLoop wordEnd bound ⦃Keeps⦄ := by
  induction bound with
  | zero =>
    mvcgen [Reader.readDeclarators]
    all_goals grind -ring -linarith
  | succ bound ih =>
    mvcgen [Reader.readDeclarators, ih]
    all_goals grind -ring -linarith

@[spec]
theorem readDeclaration_spec (h : PartsKeep parts) (inLoop : Bool) :
    ⦃HoldsReady⦄ Reader.readDeclaration parts inLoop ⦃Keeps⦄ := by
  mvcgen [Reader.readDeclaration, Reader.within]
  all_goals grind -ring -linarith

/-! ### Heads of loops -/

@[spec]
theorem readCountedHead_spec (h : PartsKeep parts) (init : Stmt) :
    ⦃Holds⦄ Reader.readCountedHead parts init ⦃Keeps⦄ := by
  mvcgen [Reader.readCountedHead]
  all_goals grind -ring -linarith

@[spec]
theorem readEachHead_spec (h : PartsKeep parts) (kind : Option VarKind) (target : Pattern)
    (init : Option Expr) :
    ⦃HoldsReady⦄ Reader.readEachHead parts kind target init ⦃Keeps⦄ := by
  mvcgen [Reader.readEachHead, Reader.withIn, Reader.within]
  all_goals grind -ring -linarith

@[spec]
theorem checkLoopDeclarators_spec (isIn : Bool) (declarators : List Declarator) :
    ⦃From before⦄ Reader.checkLoopDeclarators isIn declarators ⦃Checks before⦄ := by
  refine checks_of_every fun R hR ↦ ?_
  mvcgen [Reader.checkLoopDeclarators, -Spec.forIn_list, forIn_checks]
  all_goals grind -ring -linarith

@[spec]
theorem atDeclaration_spec :
    ⦃From before⦄ Reader.atDeclaration
    ⦃⇓ r s => ⌜At standing s ∧ Kept before s ∧ (r → Ready s)⌝⦄ := by
  mvcgen [Reader.atDeclaration]
  all_goals grind -ring -linarith

@[spec]
theorem readDeclarationHead_spec (h : PartsKeep parts) :
    ⦃HoldsReady⦄ Reader.readDeclarationHead parts ⦃Keeps⦄ := by
  mvcgen [Reader.readDeclarationHead]
  all_goals grind -ring -linarith

@[spec]
theorem readLoopHead_spec (h : PartsKeep parts) :
    ⦃Holds⦄ Reader.readLoopHead parts ⦃Keeps⦄ := by
  mvcgen [Reader.readLoopHead, Reader.withIn, Reader.within]
  all_goals grind -ring -linarith

@[spec]
theorem readFor_spec (h : PartsKeep parts) (start : Nat) :
    ⦃Holds⦄ Reader.readFor parts start ⦃Keeps⦄ := by
  mvcgen [Reader.readFor, Reader.within]
  all_goals grind -ring -linarith

/-! ### Statements that start with a word -/

@[spec]
theorem readLabel_spec : ⦃Holds⦄ Reader.readJump.readLabel ⦃Keeps⦄ := by
  mvcgen [Reader.readJump.readLabel]
  all_goals grind -ring -linarith

@[spec]
theorem readJump_spec (start : Nat) (isBreak : Bool) :
    ⦃Holds⦄ Reader.readJump start isBreak ⦃Keeps⦄ := by
  mvcgen [Reader.readJump]
  all_goals grind -ring -linarith

@[spec]
theorem readCatch_spec (h : PartsKeep parts) : ⦃Holds⦄ Reader.readCatch parts ⦃Keeps⦄ := by
  mvcgen [Reader.readCatch]
  all_goals grind -ring -linarith

@[spec]
theorem readFinally_spec (h : PartsKeep parts) : ⦃Holds⦄ Reader.readFinally parts ⦃Keeps⦄ := by
  mvcgen [Reader.readFinally]
  all_goals grind -ring -linarith

@[spec]
theorem readTry_spec (h : PartsKeep parts) (start : Nat) :
    ⦃Holds⦄ Reader.readTry parts start ⦃Keeps⦄ := by
  mvcgen [Reader.readTry]
  all_goals grind -ring -linarith

@[spec]
theorem readStrayHandler_spec (h : PartsKeep parts) (start : Nat) :
    ⦃Holds⦄ Reader.readStrayHandler parts start ⦃Keeps⦄ := by
  mvcgen [Reader.readStrayHandler]
  all_goals grind -ring -linarith

@[spec]
theorem readCases_spec (h : PartsKeep parts) (bound : Nat) (hasDefault : Bool) :
    ⦃Holds⦄ Reader.readCases parts bound hasDefault ⦃Keeps⦄ := by
  induction bound generalizing hasDefault with
  | zero =>
    mvcgen [Reader.readCases]
    all_goals grind -ring -linarith
  | succ bound ih =>
    mvcgen [Reader.readCases, ih]
    all_goals grind -ring -linarith

@[spec]
theorem readSwitch_spec (h : PartsKeep parts) (start : Nat) :
    ⦃Holds⦄ Reader.readSwitch parts start ⦃Keeps⦄ := by
  mvcgen [Reader.readSwitch, Reader.within]

@[spec]
theorem readIf_spec (h : PartsKeep parts) (start : Nat) :
    ⦃Holds⦄ Reader.readIf parts start ⦃Keeps⦄ := by
  mvcgen [Reader.readIf]
  all_goals grind -ring -linarith

@[spec]
theorem readDo_spec (h : PartsKeep parts) (start : Nat) :
    ⦃Holds⦄ Reader.readDo parts start ⦃Keeps⦄ := by
  mvcgen [Reader.readDo]
  all_goals grind -ring -linarith

omit [Known] in
/-- A `return` is read as a part that is left with its statement. -/
theorem readReturn_eq (start : Nat) : Reader.readReturn parts start = (do
    let left ← tryFinally (do
        let finish (arg : Option Expr) : Reader (Except Stmt Stmt) := do
          Reader.expectSemicolon
          pure (Except.error (Stmt.ret start arg))
        if ← Reader.atStatementEnd then do
          let arg ← pure none
          finish arg
        else do
          let arg ← some <$> Reader.readFullExpression parts
          finish arg)
      (do Reader.noteIf (!(← Reader.context).inFunction) .returnOutside start)
    match left with
    | .error statement => pure statement
    | .ok statement => pure statement) := by
  unfold Reader.readReturn
  refine congrArg₂ bind ?_ (funext fun left ↦ ?_)
  · rfl
  · cases left <;> rfl

@[spec]
theorem readReturn_spec (h : PartsKeep parts) (start : Nat) :
    ⦃Holds⦄ Reader.readReturn parts start ⦃Keeps⦄ := by
  rw [readReturn_eq]
  mvcgen
  all_goals grind -ring -linarith

@[spec]
theorem readThrow_spec (h : PartsKeep parts) (start : Nat) :
    ⦃Holds⦄ Reader.readThrow parts start ⦃Keeps⦄ := by
  mvcgen [Reader.readThrow]
  all_goals grind -ring -linarith

@[spec]
theorem readWith_spec (h : PartsKeep parts) (start : Nat) :
    ⦃Holds⦄ Reader.readWith parts start ⦃Keeps⦄ := by
  mvcgen [Reader.readWith, Reader.within]

@[spec]
theorem readLabeled_spec (h : PartsKeep parts) (pos : Nat) (label : String) :
    ⦃Holds⦄ Reader.readLabeled parts pos label ⦃Keeps⦄ := by
  mvcgen [Reader.readLabeled, Reader.within]
  all_goals grind -ring -linarith

/-! ### Statements that start with an expression -/

@[spec]
theorem endExpressionStatement_spec (h : PartsKeep parts) (start : Nat) (e : Expr) :
    ⦃Holds⦄ Reader.endExpressionStatement parts start e ⦃Keeps⦄ := by
  mvcgen [Reader.endExpressionStatement]
  all_goals grind -ring -linarith

@[spec]
theorem readExpressionStatement_spec (h : PartsKeep parts) (start : Nat) :
    ⦃Holds⦄ Reader.readExpressionStatement parts start ⦃Keeps⦄ := by
  mvcgen [Reader.readExpressionStatement]
  all_goals grind -ring -linarith

@[spec]
theorem readImportStatement_spec (h : PartsKeep parts) (start : Nat) (word : String) :
    ⦃fun s ↦ ⌜At standing s ∧ Shows (.word word) s⌝⦄ Reader.readImportStatement parts start
    ⦃Keeps⦄ := by
  mvcgen [Reader.readImportStatement]
  all_goals grind -ring -linarith

@[spec]
theorem beforeName_spec :
    ⦃fun s ↦ ⌜s = before ∧ At standing s ∧ ∃ t, looksAhead t ∧ Shows t s⌝⦄ Reader.beforeName
    ⦃⇓ _ s => ⌜At standing s ∧ Kept before s⌝⦄ := by
  mvcgen [Reader.beforeName]
  all_goals grind -ring -linarith

@[spec]
theorem readResources_spec (h : PartsKeep parts) (start : Nat) :
    ⦃HoldsReady⦄ Reader.readResources parts start ⦃Keeps⦄ := by
  mvcgen [Reader.readResources]
  all_goals grind -ring -linarith

@[spec]
theorem readAwaitStatement_spec (h : PartsKeep parts) (start : Nat) :
    ⦃fun s ↦ ⌜At standing s ∧ Shows (.word "await") s⌝⦄ Reader.readAwaitStatement parts start
    ⦃Keeps⦄ := by
  have hfault : ∀ s : ReadState, s.faults ≠ [] → Shows (.word "await") s := fun _ ↦ shows_of_fault
  mvcgen [Reader.readAwaitStatement, Reader.withIn, Reader.within]
  all_goals grind -ring -linarith

@[spec]
theorem readPlainStatement_spec (h : PartsKeep parts) (start : Nat) :
    ⦃Holds⦄ Reader.readPlainStatement parts start ⦃Keeps⦄ := by
  mvcgen [Reader.readPlainStatement]
  all_goals grind -ring -linarith

/-! ### All statements -/

@[spec]
theorem readDeclarationStatement_spec (h : PartsKeep parts) (allowDeclaration : Bool)
    (start : Nat) (word : String) :
    ⦃fun s ↦ ⌜At standing s ∧ Shows (.word word) s⌝⦄
    Reader.readDeclarationStatement parts allowDeclaration start word ⦃Keeps⦄ := by
  mvcgen [Reader.readDeclarationStatement]
  all_goals grind -ring -linarith

@[spec]
theorem readWordStatement_spec (h : PartsKeep parts) (allowDeclaration : Bool) (start : Nat)
    (word : String) :
    ⦃fun s ↦ ⌜At standing s ∧ Shows (.word word) s⌝⦄
    Reader.readWordStatement parts allowDeclaration start word ⦃Keeps⦄ := by
  mvcgen [Reader.readWordStatement]
  all_goals grind -ring -linarith

theorem readStatement_spec (h : PartsKeep parts) (allowDeclaration : Bool) :
    ⦃Holds⦄ Reader.readStatement parts allowDeclaration ⦃Keeps⦄ := by
  mvcgen [Reader.readStatement]
  all_goals grind -ring -linarith

end BrowserScript.Reading
