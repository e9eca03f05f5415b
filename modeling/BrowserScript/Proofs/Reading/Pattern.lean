import Mathlib
import BrowserScript.Proofs.Reading.Parts
import BrowserScript.Script.Grammar.Pattern

/-!
What readers of patterns leave behind. Those that take an expression as a pattern pass nothing.
-/

set_option autoImplicit false
set_option relaxedAutoImplicit false
set_option mvcgen.warning false

namespace BrowserScript.Reading

open Script Std.Do

variable [Known] {before : ReadState} {α : Type} {parts : Parts}

@[spec]
theorem readElement_spec (h : PartsKeep parts) :
    ⦃Holds⦄ Reader.readElement parts ⦃Keeps⦄ := by
  mvcgen [Reader.readElement, Reader.withIn, Reader.within]
  all_goals grind -ring -linarith

@[spec]
theorem readArrayElement_spec (h : PartsKeep parts) :
    ⦃Holds⦄ Reader.readArrayElement parts ⦃Keeps⦄ := by
  mvcgen [Reader.readArrayElement]
  all_goals grind -ring -linarith

@[spec]
theorem readArrayElements_spec (h : PartsKeep parts) (bound : Nat) (rest : Option Nat) :
    ⦃Holds⦄ Reader.readArrayElements parts bound rest ⦃Keeps⦄ := by
  induction bound generalizing rest with
  | zero =>
    mvcgen [Reader.readArrayElements]
    all_goals grind -ring -linarith
  | succ bound ih =>
    mvcgen [Reader.readArrayElements, ih]
    all_goals grind -ring -linarith

@[spec]
theorem readArrayPattern_spec (h : PartsKeep parts) :
    ⦃HoldsReady⦄ Reader.readArrayPattern parts ⦃Keeps⦄ := by
  mvcgen [Reader.readArrayPattern]
  all_goals grind -ring -linarith

@[spec]
theorem readPatternProperty_spec (h : PartsKeep parts) :
    ⦃Holds⦄ Reader.readPatternProperty parts ⦃Keeps⦄ := by
  mvcgen [Reader.readPatternProperty, Reader.withIn, Reader.within]
  all_goals grind -ring -linarith

@[spec]
theorem checkRestProperties_spec (trailingComma : Option Nat) (properties : List PatternProperty) :
    ⦃Holds⦄ Reader.checkRestProperties trailingComma properties ⦃Keeps⦄ := by
  fun_induction Reader.checkRestProperties trailingComma properties with
  | case6 _ _ _ _ ih | case7 _ _ _ _ ih =>
    mvcgen [ih]
    all_goals grind -ring -linarith
  | _ =>
    mvcgen
    all_goals grind -ring -linarith

@[spec]
theorem readBraced_spec {member : Reader α} (hmember : ⦃Holds⦄ member ⦃Keeps⦄) :
    ⦃Holds⦄ Reader.readBraced member ⦃Keeps⦄ := by
  mvcgen [Reader.readBraced, hmember]
  all_goals grind -ring -linarith

@[spec]
theorem readObjectPattern_spec (h : PartsKeep parts) :
    ⦃Holds⦄ Reader.readObjectPattern parts ⦃Keeps⦄ := by
  mvcgen [Reader.readObjectPattern]
  all_goals grind -ring -linarith

theorem readPattern_spec (h : PartsKeep parts) (refuseLet : Bool) :
    ⦃Holds⦄ Reader.readPattern parts refuseLet ⦃Keeps⦄ := by
  mvcgen [Reader.readPattern]
  all_goals grind -ring -linarith

/-! ### Expressions that are taken as patterns -/

@[spec]
theorem checkTarget_spec (e : Expr) :
    ⦃From before⦄ Reader.checkTarget e ⦃Checks before⦄ := by
  refine checks_of_every fun R hR ↦ ?_
  mvcgen [Reader.checkTarget]
  all_goals grind -ring -linarith

@[spec]
theorem noteAsPattern_spec (e : Expr) :
    ⦃From before⦄ Reader.noteAsPattern e ⦃Checks before⦄ := by
  refine checks_of_every fun R hR ↦ ?_
  mvcgen [Reader.noteAsPattern]
  all_goals grind -ring -linarith

section Convert

variable {convert : Expr → Reader Pattern}
  (hconvert : ∀ e before, ⦃From before⦄ convert e ⦃Checks before⦄)

include hconvert

theorem itemsAsPatterns_spec (restAllowed : Bool) (comma : Option Nat) (items : List Expr) :
    ⦃From before⦄ Reader.itemsAsPatterns convert restAllowed comma items ⦃Checks before⦄ := by
  fun_induction Reader.itemsAsPatterns convert restAllowed comma items generalizing before with
  | case1 =>
    mvcgen
    all_goals grind -ring -linarith
  | case2 rest ih | case4 pos value rest _ ih | case5 e rest _ _ ih =>
    refine checks_of_every fun R hR ↦ ?_
    mvcgen [hconvert, ih]
    all_goals grind -ring -linarith
  | case3 pos value rest _ =>
    refine checks_of_every fun R hR ↦ ?_
    mvcgen [hconvert]
    all_goals grind -ring -linarith

theorem propertyAsPattern_spec (role : Reader.PatternRole) (isLast : Bool) (comma : Option Nat)
    (property : Property) :
    ⦃From before⦄ Reader.propertyAsPattern convert role isLast comma property ⦃Checks before⦄ := by
  refine checks_of_every fun R hR ↦ ?_
  mvcgen [Reader.propertyAsPattern, hconvert]
  all_goals grind -ring -linarith

theorem propertiesAsPatterns_spec (role : Reader.PatternRole) (comma : Option Nat)
    (properties : List Property) :
    ⦃From before⦄ Reader.propertiesAsPatterns convert role comma properties ⦃Checks before⦄ := by
  have hproperty (before : ReadState) := @propertyAsPattern_spec _ before convert hconvert
  induction properties generalizing before with
  | nil =>
    mvcgen [Reader.propertiesAsPatterns]
    all_goals grind -ring -linarith
  | cons p rest ih =>
    refine checks_of_every fun R hR ↦ ?_
    mvcgen [Reader.propertiesAsPatterns, hproperty, ih]
    all_goals grind -ring -linarith

theorem partsAsPattern_spec (role : Reader.PatternRole) (e : Expr) :
    ⦃From before⦄ Reader.partsAsPattern convert role e ⦃Checks before⦄ := by
  have hitems (before : ReadState) := @itemsAsPatterns_spec _ before convert hconvert
  have hproperties (before : ReadState) := @propertiesAsPatterns_spec _ before convert hconvert
  refine checks_of_every fun R hR ↦ ?_
  mvcgen [Reader.partsAsPattern, hitems, hproperties]
  all_goals grind -ring -linarith

end Convert

theorem asPattern_spec (depth : Nat) (role : Reader.PatternRole) (e : Expr) :
    ⦃From before⦄ Reader.asPattern depth role e ⦃Checks before⦄ := by
  induction depth generalizing before role e with
  | zero =>
    mvcgen [Reader.asPattern]
    all_goals grind -ring -linarith
  | succ depth ih =>
    have hparts (before : ReadState) :=
      @partsAsPattern_spec _ before (Reader.asPattern depth role.part)
        fun e before ↦ ih role.part e
    refine checks_of_every fun R hR ↦ ?_
    mvcgen [Reader.asPattern, hparts]
    all_goals grind -ring -linarith

@[spec]
theorem takeAsPattern_spec (role : Reader.PatternRole) (e : Expr) :
    ⦃From before⦄ Reader.takeAsPattern role e ⦃Checks before⦄ := by
  refine checks_of_every fun R hR ↦ ?_
  mvcgen [Reader.takeAsPattern, asPattern_spec]
  all_goals grind -ring -linarith

/-! ### Parameters of arrow functions -/

@[spec]
theorem itemsAsParams_spec (comma : Option Nat) (items : List Expr) :
    ⦃Holds⦄ Reader.itemsAsParams comma items ⦃Keeps⦄ := by
  fun_induction Reader.itemsAsParams comma items with
  | case1 => mvcgen
  | case3 pos value rest _ ih | case4 e rest _ ih =>
    mvcgen [ih]
    all_goals grind -ring -linarith
  | case2 pos value rest _ =>
    mvcgen
    all_goals grind -ring -linarith

mutual

theorem checkStrictParam_spec (param : Pattern) :
    ⦃Holds⦄ Reader.checkStrictParam param ⦃Keeps⦄ := by
  cases param with
  | array pos items =>
    have hitems := checkStrictParams_spec items
    mvcgen [Reader.checkStrictParam, hitems]
  | object pos properties =>
    have hproperties := checkStrictProperties_spec properties
    mvcgen [Reader.checkStrictParam, hproperties]
  | rest pos arg =>
    have harg := checkStrictParam_spec arg
    mvcgen [Reader.checkStrictParam, harg]
  | assign pos left value =>
    have hleft := checkStrictParam_spec left
    mvcgen [Reader.checkStrictParam, hleft]
  | ident | expr | invalid | hole =>
    mvcgen [Reader.checkStrictParam]
    all_goals grind -ring -linarith

theorem checkStrictParams_spec (params : List Pattern) :
    ⦃Holds⦄ Reader.checkStrictParams params ⦃Keeps⦄ := by
  cases params with
  | nil => mvcgen [Reader.checkStrictParams]
  | cons param rest =>
    have hparam := checkStrictParam_spec param
    have hrest := checkStrictParams_spec rest
    mvcgen [Reader.checkStrictParams, hparam, hrest]

theorem checkStrictProperties_spec (properties : List PatternProperty) :
    ⦃Holds⦄ Reader.checkStrictProperties properties ⦃Keeps⦄ := by
  cases properties with
  | nil => mvcgen [Reader.checkStrictProperties]
  | cons property rest =>
    have hrest := checkStrictProperties_spec rest
    cases property with
    | keyValue key value =>
      have hvalue := checkStrictParam_spec value
      mvcgen [Reader.checkStrictProperties, hvalue, hrest]
    | assign pos id value =>
      mvcgen [Reader.checkStrictProperties, hrest]
      all_goals grind -ring -linarith
    | rest pos arg =>
      have harg := checkStrictParam_spec arg
      mvcgen [Reader.checkStrictProperties, harg, hrest]

end

attribute [spec] checkStrictParams_spec

@[spec]
theorem takeAsParams_spec (comma : Option Nat) (items : List Expr) :
    ⦃Holds⦄ Reader.takeAsParams comma items ⦃Keeps⦄ := by
  mvcgen [Reader.takeAsParams]
  all_goals grind -ring -linarith

end BrowserScript.Reading
