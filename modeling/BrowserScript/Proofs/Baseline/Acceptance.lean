import BrowserScript.Minification
import BrowserScript.Proofs.Baseline.NewerNode

/-!
The check for constructs that are newer than the baseline finds all of them. The walk reports a node
in front of its parts (`Node.newerUses_eq`), so, by induction on the parts, it reports the uses of
the nodes within and no others (`Node.mem_newerUses_iff`). A text that is a script is therefore
accepted if no node of it is newer, and otherwise refused with the feature and the place of one that
is (`readBaselineScript_of_parse`); nothing else stops minification (`minify_outcome`).
-/

set_option autoImplicit false
set_option relaxedAutoImplicit false

namespace BrowserScript

namespace Script

/-! ### Lists of parts -/

theorem eq_flatMap_of_cons {α β : Type} {walk : List α → List β} {walkOne : α → List β}
    (hnil : walk [] = []) (hcons : ∀ x xs, walk (x :: xs) = walkOne x ++ walk xs) (xs : List α) :
    walk xs = xs.flatMap walkOne := by
  induction xs with
  | nil => exact hnil
  | cons x xs ih => rw [hcons, ih, List.flatMap_cons]

@[simp] theorem newerInExprs_eq (es : List Expr) :
    newerInExprs es = es.flatMap Expr.newerUses :=
  eq_flatMap_of_cons (by rw [newerInExprs]) (fun _ _ ↦ by rw [newerInExprs]) es

@[simp] theorem newerInProperties_eq (ps : List Property) :
    newerInProperties ps = ps.flatMap Property.newerUses :=
  eq_flatMap_of_cons (by rw [newerInProperties]) (fun _ _ ↦ by rw [newerInProperties]) ps

@[simp] theorem newerInMembers_eq (ms : List Member) :
    newerInMembers ms = ms.flatMap Member.newerUses :=
  eq_flatMap_of_cons (by rw [newerInMembers]) (fun _ _ ↦ by rw [newerInMembers]) ms

@[simp] theorem newerInPatterns_eq (ps : List Pattern) :
    newerInPatterns ps = ps.flatMap Pattern.newerUses :=
  eq_flatMap_of_cons (by rw [newerInPatterns]) (fun _ _ ↦ by rw [newerInPatterns]) ps

@[simp] theorem newerInPatternProperties_eq (ps : List PatternProperty) :
    newerInPatternProperties ps = ps.flatMap PatternProperty.newerUses :=
  eq_flatMap_of_cons (by rw [newerInPatternProperties])
    (fun _ _ ↦ by rw [newerInPatternProperties]) ps

@[simp] theorem newerInDeclarators_eq (ds : List Declarator) :
    newerInDeclarators ds = ds.flatMap Declarator.newerUses :=
  eq_flatMap_of_cons (by rw [newerInDeclarators]) (fun _ _ ↦ by rw [newerInDeclarators]) ds

@[simp] theorem newerInStmts_eq (body : List Stmt) :
    newerInStmts body = body.flatMap Stmt.newerUses :=
  eq_flatMap_of_cons (by rw [newerInStmts]) (fun _ _ ↦ by rw [newerInStmts]) body

/-- What the walk reports for a case of a `switch`. -/
def Case.newerUses : Case → List NewerUse
  | .mk test body => newerInOption test ++ newerInStmts body

@[simp] theorem newerInCases_eq (cs : List Case) :
    newerInCases cs = cs.flatMap Case.newerUses :=
  eq_flatMap_of_cons (by rw [newerInCases]) (fun ⟨_, _⟩ _ ↦ by rw [newerInCases, Case.newerUses]) cs

@[simp] theorem newerInOption_eq (e : Option Expr) :
    newerInOption e = e.toList.flatMap Expr.newerUses := by
  cases e <;> simp [newerInOption]

@[simp] theorem newerInBranch_eq (s : Option Stmt) :
    newerInBranch s = s.toList.flatMap Stmt.newerUses := by
  cases s <;> simp [newerInBranch]

@[simp] theorem newerInParam_eq (p : Option Pattern) :
    newerInParam p = p.toList.flatMap Pattern.newerUses := by
  cases p <;> simp [newerInParam]

/-! ### The walk from a node -/

/-- What the walk reports for the clause of a `try` statement. -/
def newerInCatch (pos : Option Nat) (param : Option Pattern) (handler : List Stmt) :
    List NewerUse :=
  useAt (pos.getD 0) (if pos.isSome && param.isNone then some .catchWithoutBinding else none) ++
    newerInParam param ++ newerInStmts handler

namespace Node

/-- What the walk for newer constructs reports for a node. -/
def newerUses : Node → List NewerUse
  | .expr value => value.newerUses
  | .key name => name.newerUses
  | .property item => item.newerUses
  | .function fn => fn.newerUses
  | .member item => item.newerUses
  | .pattern target => target.newerUses
  | .patternProperty item => item.newerUses
  | .declarator item => item.newerUses
  | .switchCase branch => branch.newerUses
  | .catchClause pos param handler => newerInCatch pos param handler
  | .stmt statement => statement.newerUses

/-- What the walk reports for a node itself, without its parts. -/
def newerUse? : Node → Option NewerUse
  | .expr (.lit pos value) => value.newerFeature?.map (⟨·, pos⟩)
  | .expr (.arrow pos isAsync _ _ _) => if isAsync then some ⟨.asyncArrow, pos⟩ else none
  | .expr (.binary pos op _ _) => op.newerFeature?.map (⟨·, pos⟩)
  | .expr (.assign pos op _ _) => op.newerFeature?.map (⟨·, pos⟩)
  | .expr (.importBase pos) => some ⟨.dynamicImport, pos⟩
  | .expr (.optional pos _) => some ⟨.optionalChaining, pos⟩
  | .expr (.await pos _) => some ⟨.awaitExpression, pos⟩
  | .key (.bigint pos _) => some ⟨.bigInteger, pos⟩
  | .property (.spread pos _) => some ⟨.objectSpread, pos⟩
  | .function (.mk pos isAsync _ _ _) => if isAsync then some ⟨.asyncFunction, pos⟩ else none
  | .member (.method pos _ _ name _) => if name.isPrivate then some ⟨.classField, pos⟩ else none
  | .member (.field pos _ _ _) => some ⟨.classField, pos⟩
  | .member (.staticBlock pos _) => some ⟨.classField, pos⟩
  | .patternProperty (.rest pos _) => some ⟨.objectRest, pos⟩
  | .stmt (.forOf pos isAwait _ _ _ _) => if isAwait then some ⟨.awaitLoop, pos⟩ else none
  | .catchClause (some pos) none _ => some ⟨.catchWithoutBinding, pos⟩
  | _ => none

attribute [local simp] newerUses newerUse? subnodes useAt newerInCatch List.flatMap_map

/-- The walk reports a node in front of its parts. -/
theorem newerUses_eq (node : Node) :
    node.newerUses = node.newerUse?.toList ++ node.subnodes.flatMap newerUses := by
  cases node with
  | expr value => cases value <;> simp [Expr.newerUses, Expr.subnodes]
  | key name => cases name <;> simp [Key.newerUses, Key.subnodes]
  | property item => cases item <;> simp [Property.newerUses, Property.subnodes]
  | function fn => cases fn; simp [Function.newerUses, Function.subnodes]
  | member item => cases item <;> simp [Member.newerUses, Member.subnodes]
  | pattern target => cases target <;> simp [Pattern.newerUses, Pattern.subnodes]
  | patternProperty item =>
    cases item <;> simp [PatternProperty.newerUses, PatternProperty.subnodes]
  | declarator item => cases item; simp [Declarator.newerUses, Declarator.subnodes]
  | switchCase branch => cases branch; simp [Case.newerUses, Case.subnodes]
  | catchClause pos param handler => cases pos <;> cases param <;> simp
  | stmt statement => cases statement <;> simp [Stmt.newerUses, Stmt.subnodes]

end Node

/-! ### Newer nodes are those that are reported -/

theorem BinaryOp.newerFeature?_eq_some_iff {op : BinaryOp} {feature : NewerFeature} :
    op.newerFeature? = some feature ↔
      op = .exp ∧ feature = .exponentiation ∨ op = .nullish ∧ feature = .nullishCoalescing := by
  cases op <;> simp [newerFeature?, eq_comm]

theorem AssignOp.newerFeature?_eq_some_iff {op : AssignOp} {feature : NewerFeature} :
    op.newerFeature? = some feature ↔
      op = .combine .exp ∧ feature = .exponentiationAssignment ∨
        (∃ base, (base = .and ∨ base = .or ∨ base = .nullish) ∧ op = .combine base) ∧
          feature = .logicalAssignment := by
  cases op with
  | assign => simp [newerFeature?]
  | combine base => cases base <;> simp [newerFeature?, eq_comm]

theorem Lit.newerFeature?_eq_some_iff {value : Lit} {feature : NewerFeature} :
    value.newerFeature? = some feature ↔
      (∃ digits, value = .bigint digits) ∧ feature = .bigInteger ∨
        (∃ pattern flags, value = .regex pattern flags ∧
          ∃ flag ∈ flags.toList, flag ∉ ['g', 'i', 'm', 'u', 'y']) ∧ feature = .regexFlag := by
  cases value with
  | regex pattern flags =>
    have hall : flags.toList.all baselineRegexFlags.contains = false ↔
        ∃ flag ∈ flags.toList, flag ∉ ['g', 'i', 'm', 'u', 'y'] := by
      simp only [List.all_eq_false, List.contains_iff_mem, baselineRegexFlags]
    constructor
    · intro h
      rw [newerFeature?, Option.ite_none_left_eq_some] at h
      exact .inr ⟨⟨pattern, flags, rfl, hall.mp (eq_false_of_ne_true h.1)⟩,
        (Option.some.inj h.2).symm⟩
    · rintro (⟨⟨_, ⟨⟩⟩, _⟩ | ⟨⟨_, _, ⟨⟩, hflag⟩, rfl⟩)
      rw [newerFeature?, hall.mpr hflag, if_neg Bool.false_ne_true]
  | _ => simp [newerFeature?, eq_comm]

theorem Key.isPrivate_iff {name : Key} : name.isPrivate ↔ ∃ text, name = .privateName text := by
  cases name <;> simp [isPrivate]

namespace Node

theorem newerNode_of_newerUse? {node : Node} {use : NewerUse} (h : node.newerUse? = some use) :
    NewerNode node use := by
  unfold newerUse? at h
  split at h
  all_goals
    simp only [Option.map_eq_some_iff, Option.ite_none_right_eq_some, Option.some.injEq,
      reduceCtorEq] at h
  case h_1 pos value =>
    obtain ⟨feature, hfeature, rfl⟩ := h
    rcases Lit.newerFeature?_eq_some_iff.mp hfeature with
      ⟨⟨digits, rfl⟩, rfl⟩ | ⟨⟨pattern, flags, rfl, flag, hflag, hnewer⟩, rfl⟩
    · exact .bigInteger pos digits
    · exact .regexFlag hflag hnewer pos pattern
  case h_2 => obtain ⟨rfl, rfl⟩ := h; exact .asyncArrow ..
  case h_3 pos op left right =>
    obtain ⟨feature, hfeature, rfl⟩ := h
    rcases BinaryOp.newerFeature?_eq_some_iff.mp hfeature with ⟨rfl, rfl⟩ | ⟨rfl, rfl⟩
    · exact .exponentiation pos left right
    · exact .nullishCoalescing pos left right
  case h_4 pos op target value =>
    obtain ⟨feature, hfeature, rfl⟩ := h
    rcases AssignOp.newerFeature?_eq_some_iff.mp hfeature with
      ⟨rfl, rfl⟩ | ⟨⟨base, hbase, rfl⟩, rfl⟩
    · exact .exponentiationAssignment pos target value
    · exact .logicalAssignment hbase pos target value
  case h_5 => subst h; exact .dynamicImport _
  case h_6 => subst h; exact .optionalChain ..
  case h_7 => subst h; exact .awaitExpression ..
  case h_8 => subst h; exact .bigIntegerKey ..
  case h_9 => subst h; exact .objectSpread ..
  case h_10 => obtain ⟨rfl, rfl⟩ := h; exact .asyncFunction ..
  case h_11 =>
    obtain ⟨hprivate, rfl⟩ := h
    obtain ⟨text, rfl⟩ := Key.isPrivate_iff.mp hprivate
    exact .privateMethod ..
  case h_12 => subst h; exact .classField ..
  case h_13 => subst h; exact .staticBlock ..
  case h_14 => subst h; exact .objectRest ..
  case h_15 => obtain ⟨rfl, rfl⟩ := h; exact .awaitLoop ..
  case h_16 => subst h; exact .bareCatch ..

theorem newerUse?_of_newerNode {node : Node} {use : NewerUse} (h : NewerNode node use) :
    node.newerUse? = some use := by
  cases h with
  | regexFlag hflag hnewer => 
    simp only [newerUse?, Option.map_eq_some_iff]
    exact ⟨_, Lit.newerFeature?_eq_some_iff.mpr (.inr ⟨⟨_, _, rfl, _, hflag, hnewer⟩, rfl⟩), rfl⟩
  | logicalAssignment hop =>
    simp only [newerUse?, Option.map_eq_some_iff]
    exact ⟨_, AssignOp.newerFeature?_eq_some_iff.mpr (.inr ⟨⟨_, hop, rfl⟩, rfl⟩), rfl⟩
  | _ => rfl

theorem newerUse?_eq_some_iff {node : Node} {use : NewerUse} :
    node.newerUse? = some use ↔ NewerNode node use :=
  ⟨newerNode_of_newerUse?, newerUse?_of_newerNode⟩

/-- What is reported for a node are the uses of the nodes within. -/
theorem mem_newerUses_iff {node : Node} {use : NewerUse} :
    use ∈ node.newerUses ↔ ∃ inner, Within inner node ∧ NewerNode inner use := by
  constructor
  · intro h
    induction node using Node.induction with
    | node node ih =>
      rw [newerUses_eq, List.mem_append, Option.mem_toList, List.mem_flatMap] at h
      rcases h with hown | ⟨part, hpart, huse⟩
      · exact ⟨node, .here node, newerUse?_eq_some_iff.mp hown⟩
      · obtain ⟨inner, hinner, hnewer⟩ := ih part hpart huse
        exact ⟨inner, .part hpart hinner, hnewer⟩
  · rintro ⟨inner, hwithin, hnewer⟩
    induction hwithin with
    | here =>
      rw [newerUses_eq, newerUse?_eq_some_iff.mpr hnewer]
      exact List.mem_append_left _ (List.mem_singleton_self use)
    | part hpart _ ih =>
      rw [newerUses_eq]
      exact List.mem_append_right _ (List.mem_flatMap.mpr ⟨_, hpart, ih⟩)

end Node

theorem mem_newerInStmts_iff {statements : List Stmt} {use : NewerUse} :
    use ∈ newerInStmts statements ↔ ∃ node, InScript node statements ∧ NewerNode node use := by
  rw [newerInStmts_eq, List.mem_flatMap]
  constructor
  · rintro ⟨statement, hstatement, huse⟩
    obtain ⟨node, hwithin, hnewer⟩ := (@Node.mem_newerUses_iff (.stmt statement) use).mp huse
    exact ⟨node, ⟨statement, hstatement, hwithin⟩, hnewer⟩
  · rintro ⟨node, ⟨statement, hstatement, hwithin⟩, hnewer⟩
    exact ⟨statement, hstatement,
      (@Node.mem_newerUses_iff (.stmt statement) use).mpr ⟨node, hwithin, hnewer⟩⟩

theorem newerInStmts_eq_nil_iff {statements : List Stmt} :
    newerInStmts statements = [] ↔
      ∀ node, InScript node statements → ∀ use, ¬NewerNode node use := by
  simp only [List.eq_nil_iff_forall_not_mem, mem_newerInStmts_iff]
  exact ⟨fun h node hnode use hnewer ↦ h use ⟨node, hnode, hnewer⟩,
    fun h use ⟨node, hnode, hnewer⟩ ↦ h node hnode use hnewer⟩

end Script

open Script

/-! ### Texts -/

/-- What comes of reading a text: it is no script, or a script with a node that is newer than the
baseline, or a script without one. -/
inductive ReadOutcome (text : String) : Except BuildError (List Stmt) → Prop
  | notAScript {fault : Placed} (hparse : parse text = .error fault) :
    ReadOutcome text (.error (.notAScript fault.fault.message
      (.ofOffset (scriptChars text) fault.pos)))
  | beyondBaseline {statements : List Stmt} {node : Node} {use : NewerUse}
    (hparse : parse text = .ok statements) (hnode : InScript node statements)
    (hnewer : NewerNode node use) :
    ReadOutcome text (.error (.beyondBaseline use.feature.text
      (.ofOffset (scriptChars text) use.pos)))
  | accepted {statements : List Stmt} (hparse : parse text = .ok statements)
    (hold : ∀ node, InScript node statements → ∀ use, ¬NewerNode node use) :
    ReadOutcome text (.ok statements)

theorem readOutcome_readBaselineScript (text : String) :
    ReadOutcome text (readBaselineScript text) := by
  unfold readBaselineScript
  split
  case h_1 fault hparse => exact .notAScript hparse
  case h_2 statements hparse =>
    split
    case h_1 use later hnewer =>
      obtain ⟨node, hnode, hnewer⟩ := mem_newerInStmts_iff.mp (hnewer ▸ List.mem_cons_self)
      exact .beyondBaseline hparse hnode hnewer
    case h_2 hold => exact .accepted hparse (newerInStmts_eq_nil_iff.mp hold)

/-- Assumes: a text that is a script. It is accepted if and only if no node in it is newer than the
baseline; if it is not accepted, the error names the feature and the place of a node in it that is.
-/
theorem readBaselineScript_of_parse {text : String} {statements : List Stmt}
    (hparse : parse text = .ok statements) :
    (readBaselineScript text = .ok statements ↔
      ∀ node, InScript node statements → ∀ use, ¬NewerNode node use) ∧
    (readBaselineScript text ≠ .ok statements →
      ∃ node use, InScript node statements ∧ NewerNode node use ∧
        readBaselineScript text = .error (.beyondBaseline use.feature.text
          (.ofOffset (scriptChars text) use.pos))) := by
  have houtcome := readOutcome_readBaselineScript text
  generalize readBaselineScript text = result at *
  cases houtcome with
  | notAScript hfault => rw [hparse] at hfault; cases hfault
  | beyondBaseline hother hnode hnewer =>
    rw [hparse] at hother
    cases hother
    exact ⟨⟨nofun, fun hold ↦ (hold _ hnode _ hnewer).elim⟩, fun _ ↦ ⟨_, _, hnode, hnewer, rfl⟩⟩
  | accepted hother hold =>
    rw [hparse] at hother
    cases hother
    exact ⟨⟨fun _ ↦ hold, fun _ ↦ rfl⟩, fun h ↦ (h rfl).elim⟩

theorem exists_parse_of_isOk {text : String} (h : (parse text).isOk) :
    ∃ statements, parse text = .ok statements := by
  cases hparse : parse text with
  | error fault => rw [hparse] at h; cases h
  | ok statements => exact ⟨statements, rfl⟩

theorem readBaselineScript_of_parse_default_in_template :
    ∃ statements, parse "f=(x=`$\x7ba**b\x7d`)=>x" = .ok statements ∧
      (readBaselineScript "f=(x=`$\x7ba**b\x7d`)=>x" = .ok statements ↔
        ∀ node, InScript node statements → ∀ use, ¬NewerNode node use) ∧
      (readBaselineScript "f=(x=`$\x7ba**b\x7d`)=>x" ≠ .ok statements →
        ∃ node use, InScript node statements ∧ NewerNode node use ∧
          readBaselineScript "f=(x=`$\x7ba**b\x7d`)=>x" =
            .error (.beyondBaseline use.feature.text
              (.ofOffset (scriptChars "f=(x=`$\x7ba**b\x7d`)=>x") use.pos))) := by
  obtain ⟨statements, hparse⟩ :=
    @exists_parse_of_isOk "f=(x=`$\x7ba**b\x7d`)=>x" (by decide +kernel)
  exact ⟨statements, hparse, readBaselineScript_of_parse hparse⟩

theorem outcome_minify (text : String) (d : BuildDescriptor) :
    (minify text d).outcome =
      (readBaselineScript text).map fun statements ↦ .ofText d (minifiedText statements) := by
  unfold minify
  cases readBaselineScript text <;> rfl

/-- Minification succeeds for the scripts without a newer node, and refuses every other text as no
script, or with the feature and the place of a node that is newer than the baseline. What stands in
a literal is not looked at: of regular expressions the flags count, and of templates the parts. -/
theorem minify_outcome (text : String) (d : BuildDescriptor) :
    (∀ output, (minify text d).outcome = .ok output ↔
      ∃ statements, parse text = .ok statements ∧
        (∀ node, InScript node statements → ∀ use, ¬NewerNode node use) ∧
        output = .ofText d (minifiedText statements)) ∧
    ∀ cause, (minify text d).outcome = .error cause →
      (∃ fault, parse text = .error fault ∧
        cause = .notAScript fault.fault.message (.ofOffset (scriptChars text) fault.pos)) ∨
      ∃ statements node use, parse text = .ok statements ∧ InScript node statements ∧
        NewerNode node use ∧
        cause = .beyondBaseline use.feature.text (.ofOffset (scriptChars text) use.pos) := by
  have houtcome := readOutcome_readBaselineScript text
  rw [outcome_minify]
  generalize readBaselineScript text = result at *
  cases houtcome with
  | notAScript hfault =>
    refine ⟨fun output ↦ ⟨nofun, fun ⟨statements, hparse, _⟩ ↦ ?_⟩, fun cause hcause ↦ ?_⟩
    · rw [hparse] at hfault
      cases hfault
    · exact .inl ⟨_, hfault, (Except.error.inj hcause).symm⟩
  | beyondBaseline hparse hnode hnewer =>
    refine ⟨fun output ↦ ⟨nofun, fun ⟨statements, hother, hold, _⟩ ↦ ?_⟩, fun cause hcause ↦ ?_⟩
    · cases hparse.symm.trans hother
      exact (hold _ hnode _ hnewer).elim
    · exact .inr ⟨_, _, _, hparse, hnode, hnewer, (Except.error.inj hcause).symm⟩
  | accepted hparse hold =>
    refine ⟨fun output ↦ ⟨fun houtput ↦ ?_, fun ⟨statements, hother, _, houtput⟩ ↦ ?_⟩, nofun⟩
    · exact ⟨_, hparse, hold, (Except.ok.inj houtput).symm⟩
    · cases hparse.symm.trans hother
      exact congrArg Except.ok houtput.symm

/-- A look-behind is newer than the baseline, but it is a part of a pattern. -/
example : (readBaselineScript "x = /(?<=a)b/;").isOk := by decide +kernel

end BrowserScript
