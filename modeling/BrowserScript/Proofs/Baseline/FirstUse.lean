import BrowserScript.Proofs.Baseline.Acceptance
import BrowserScript.Proofs.Computation

/-!
Which of the newer constructs of a script is reported. The nodes of a script are walked one after
the other, each in front of its parts (`Node.walk`), and the first newer one of them is reported.
It is the one that starts first in the text where every node of the script is orderly
(`Node.Orderly`): where it starts before what is within it, and where its parts are walked in the
order in which they start. Orderly nodes are just what it takes for all uses to be walked in the
order of the text (`Node.pairwise_newerUses_iff`).

The walk does not follow the text everywhere (`Node.Displaced`). The body of a `do` loop stands in
front of its test, the superclass of a class in front of its members, and an async method starts in
front of its key, but in each of these cases what stands first is walked last.
-/

set_option autoImplicit false
set_option relaxedAutoImplicit false

namespace BrowserScript

namespace Script

/-- A script as a node: the walk goes over its statements as over those of a block. -/
def scriptNode (statements : List Stmt) : Node := .stmt (.block 0 statements)

namespace Node

/-! ### The walk -/

/-- The nodes within a node, each in front of its parts. -/
def walk (node : Node) : List Node :=
  node :: node.subnodes.attach.flatMap fun part ↦ walk part.1
termination_by sizeOf node
decreasing_by exact sizeOf_lt_of_mem_subnodes part.2

theorem walk_eq (node : Node) : node.walk = node :: node.subnodes.flatMap walk := by
  rw [walk, List.flatMap_subtype fun _ _ ↦ rfl, List.unattach_attach]

theorem mem_walk_iff {inner node : Node} : inner ∈ node.walk ↔ Within inner node := by
  constructor
  · intro h
    induction node using Node.induction with
    | node node ih =>
      rw [walk_eq, List.mem_cons, List.mem_flatMap] at h
      rcases h with rfl | ⟨part, hpart, hinner⟩
      · exact .here inner
      · exact .part hpart (ih part hpart hinner)
  · intro h
    induction h with
    | here =>
      rw [walk_eq]
      exact List.mem_cons_self
    | part hpart _ ih =>
      rw [walk_eq]
      exact List.mem_cons_of_mem _ (List.mem_flatMap.mpr ⟨_, hpart, ih⟩)

/-- What is reported are the uses of the nodes that are walked, in this order. -/
theorem newerUses_eq_filterMap_walk (node : Node) :
    node.newerUses = node.walk.filterMap newerUse? := by
  induction node using Node.induction with
  | node node ih =>
    have hparts : node.subnodes.flatMap newerUses =
        node.subnodes.flatMap fun part ↦ part.walk.filterMap newerUse? := by
      rw [List.flatMap_def, List.flatMap_def, List.map_congr_left ih]
    rw [newerUses_eq, hparts, walk_eq, List.filterMap_cons, List.filterMap_flatMap]
    cases node.newerUse? <;> rfl

/-! ### The first use -/

/-- A newer node in front of which no other one is walked, and its use. -/
structure FirstUse (root node : Node) (use : NewerUse) : Prop where
  newer : NewerNode node use
  split : ∃ before after, root.walk = before ++ node :: after ∧
    ∀ earlier ∈ before, ∀ other, ¬NewerNode earlier other

theorem FirstUse.within {root node : Node} {use : NewerUse} (h : FirstUse root node use) :
    Within node root := by
  obtain ⟨before, after, hwalk, -⟩ := h.split
  rw [← mem_walk_iff, hwalk]
  exact List.mem_append_right _ List.mem_cons_self

theorem newerUse?_eq_none_iff {node : Node} :
    node.newerUse? = none ↔ ∀ use, ¬NewerNode node use := by
  simp only [Option.eq_none_iff_forall_ne_some, ne_eq, newerUse?_eq_some_iff]

theorem head?_newerUses_eq_some_iff {root : Node} {use : NewerUse} :
    root.newerUses.head? = some use ↔ ∃ node, FirstUse root node use := by
  simp only [List.head?_eq_some_iff, newerUses_eq_filterMap_walk, List.filterMap_eq_cons_iff,
    newerUse?_eq_none_iff, newerUse?_eq_some_iff]
  constructor
  · rintro ⟨_, before, node, after, hwalk, hbefore, hnewer, -⟩
    exact ⟨node, hnewer, before, after, hwalk, hbefore⟩
  · rintro ⟨node, hnewer, before, after, hwalk, hbefore⟩
    exact ⟨_, before, node, after, hwalk, hbefore, hnewer, rfl⟩

/-! ### The order of the text -/

/-- No use within the first node starts behind one within the second. -/
def StartsBefore (first second : Node) : Prop :=
  ∀ use ∈ first.newerUses, ∀ other ∈ second.newerUses, use.pos ≤ other.pos

/-- A node starts before what is newer in its parts, and its parts are walked in the order in which
what is newer in them starts. -/
structure Orderly (node : Node) : Prop where
  own : ∀ use, NewerNode node use →
    ∀ part ∈ node.subnodes, ∀ other ∈ part.newerUses, use.pos ≤ other.pos
  parts : node.subnodes.Pairwise StartsBefore

/-- The uses within a node are walked in the order of the text if and only if each node within is
orderly. -/
theorem pairwise_newerUses_iff {node : Node} :
    node.newerUses.Pairwise (·.pos ≤ ·.pos) ↔ ∀ inner, Within inner node → Orderly inner := by
  induction node using Node.induction with
  | node node ih =>
    have hwithin : (∀ inner, Within inner node → Orderly inner) ↔
        Orderly node ∧ ∀ part ∈ node.subnodes, part.newerUses.Pairwise (·.pos ≤ ·.pos) := by
      constructor
      · intro h
        exact ⟨h node (.here node), fun part hpart ↦
          (ih part hpart).mpr fun inner hinner ↦ h inner (.part hpart hinner)⟩
      · rintro ⟨hnode, hparts⟩ inner hinner
        cases hinner with
        | here => exact hnode
        | part hpart hinner => exact (ih _ hpart).mp (hparts _ hpart) inner hinner
    have hown : node.newerUse?.toList.Pairwise (·.pos ≤ ·.pos) := by
      cases node.newerUse? <;> simp
    rw [hwithin, newerUses_eq, List.pairwise_append, List.pairwise_flatMap]
    constructor
    · rintro ⟨-, ⟨hparts, horder⟩, hbetween⟩
      refine ⟨⟨fun use hnewer part hpart other hother ↦ ?_, horder⟩, hparts⟩
      have huse : use ∈ node.newerUse?.toList :=
        Option.mem_toList.mpr (newerUse?_eq_some_iff.mpr hnewer)
      exact hbetween use huse other (List.mem_flatMap.mpr ⟨part, hpart, hother⟩)
    · rintro ⟨⟨hnode, horder⟩, hparts⟩
      refine ⟨hown, ⟨hparts, horder⟩, fun use huse other hother ↦ ?_⟩
      obtain ⟨part, hpart, hother⟩ := List.mem_flatMap.mp hother
      exact hnode use (newerUse?_eq_some_iff.mp (Option.mem_toList.mp huse)) part hpart other hother

/-- In orderly nodes the first use that is walked starts first. -/
theorem FirstUse.pos_le {root node : Node} {use : NewerUse} (h : FirstUse root node use)
    (horderly : ∀ inner, Within inner root → Orderly inner) {inner : Node} {other : NewerUse}
    (hwithin : Within inner root) (hnewer : NewerNode inner other) : use.pos ≤ other.pos := by
  have hsorted := pairwise_newerUses_iff.mpr horderly
  have hmem : other ∈ root.newerUses := mem_newerUses_iff.mpr ⟨inner, hwithin, hnewer⟩
  obtain ⟨later, huses⟩ := List.head?_eq_some_iff.mp (head?_newerUses_eq_some_iff.mpr ⟨node, h⟩)
  rw [huses] at hsorted hmem
  rcases List.mem_cons.mp hmem with rfl | hlater
  · exact Nat.le_refl _
  · exact (List.pairwise_cons.mp hsorted).1 other hlater

/-! ### Parts that are walked too late -/

/-- Of two parts of a node the first one starts first in the text, but is walked behind the other.
An async method starts with that word, which stands in front of its key. -/
inductive Displaced : Node → Node → Node → Prop
  | doLoop (pos : Nat) (body : Stmt) (test : Expr) :
    Displaced (.stmt (.doLoop pos body test)) (.stmt body) (.expr test)
  | classDecl {member : Member} {members : List Member} (hmember : member ∈ members) (pos : Nat)
    (name : Ident) (superclass : Expr) :
    Displaced (.stmt (.classDecl pos name (some superclass) members)) (.expr superclass)
      (.member member)
  | classExpr {member : Member} {members : List Member} (hmember : member ∈ members) (pos : Nat)
    (name : Option Ident) (superclass : Expr) :
    Displaced (.expr (.classExpr pos name (some superclass) members)) (.expr superclass)
      (.member member)
  | property (pos start : Nat) (kind : MethodKind) (key : Key) (isGenerator : Bool)
    (params : List Pattern) (body : List Stmt) :
    Displaced (.property (.method pos kind key (.mk start true isGenerator params body)))
      (.function (.mk start true isGenerator params body)) (.key key)
  | member (pos start : Nat) (isStatic : Bool) (kind : MethodKind) (key : Key)
    (isGenerator : Bool) (params : List Pattern) (body : List Stmt) :
    Displaced (.member (.method pos isStatic kind key (.mk start true isGenerator params body)))
      (.function (.mk start true isGenerator params body)) (.key key)

theorem Displaced.subnodes_eq {node first second : Node} (h : Displaced node first second) :
    ∃ front, node.subnodes = front ++ [first] ∧ second ∈ front := by
  cases h with
  | doLoop pos body test => exact ⟨[.expr test], rfl, List.mem_singleton_self _⟩
  | classDecl hmember => exact ⟨_, rfl, List.mem_map_of_mem hmember⟩
  | classExpr hmember => exact ⟨_, rfl, List.mem_map_of_mem hmember⟩
  | property _ _ _ key => exact ⟨[.key key], rfl, List.mem_singleton_self _⟩
  | member _ _ _ _ key => exact ⟨[.key key], rfl, List.mem_singleton_self _⟩

/-- A node is orderly only if nothing newer in a displaced part of it starts in front of what is
newer in the other part. -/
theorem Displaced.startsBefore {node first second : Node} (h : Displaced node first second)
    (horderly : node.Orderly) : StartsBefore second first := by
  obtain ⟨front, hparts, hsecond⟩ := h.subnodes_eq
  have hpairs := horderly.parts
  rw [hparts, List.pairwise_append] at hpairs
  exact hpairs.2.2 second hsecond first (List.mem_singleton_self first)

end Node

@[simp] theorem newerUses_scriptNode (statements : List Stmt) :
    (scriptNode statements).newerUses = newerInStmts statements := by
  simp only [scriptNode, Node.newerUses, Stmt.newerUses]

theorem inScript_of_within {statements : List Stmt} {node : Node} {use : NewerUse}
    (h : Within node (scriptNode statements)) (hnewer : NewerNode node use) :
    InScript node statements := by
  cases h with
  | here => cases hnewer
  | part hpart hinner =>
    obtain ⟨statement, hstatement, rfl⟩ := List.mem_map.mp hpart
    exact ⟨statement, hstatement, hinner⟩

theorem within_of_inScript {statements : List Stmt} {node : Node}
    (h : InScript node statements) : Within node (scriptNode statements) := by
  obtain ⟨statement, hstatement, hinner⟩ := h
  exact .part (List.mem_map_of_mem hstatement) hinner

end Script

open Script

/-! ### The report -/

theorem readBaselineScript_of_head? {text : String} {statements : List Stmt} {use : NewerUse}
    (hparse : parse text = .ok statements) (huse : (newerInStmts statements).head? = some use) :
    readBaselineScript text =
      .error (.beyondBaseline use.feature.text (.ofOffset (scriptChars text) use.pos)) := by
  obtain ⟨later, huses⟩ := List.head?_eq_some_iff.mp huse
  simp only [readBaselineScript, hparse, huses]

/-- Assumes: a text that is a script, with a newer construct in it. The one that is reported is the
first one of the walk, in which each node comes in front of its parts. If all nodes are orderly, no
newer construct starts before it. -/
theorem readBaselineScript_reports_first_use {text : String} {statements : List Stmt}
    (hparse : parse text = .ok statements)
    (hnewer : ∃ node use, InScript node statements ∧ NewerNode node use) :
    ∃ node use, Node.FirstUse (scriptNode statements) node use ∧ InScript node statements ∧
      readBaselineScript text =
        .error (.beyondBaseline use.feature.text (.ofOffset (scriptChars text) use.pos)) ∧
      ((∀ inner, Within inner (scriptNode statements) → inner.Orderly) →
        ∀ other otherUse, InScript other statements → NewerNode other otherUse →
          use.pos ≤ otherUse.pos) := by
  obtain ⟨other, otherUse, hother, hotherUse⟩ := hnewer
  have hmem := mem_newerInStmts_iff.mpr ⟨other, hother, hotherUse⟩
  obtain ⟨use, later, huses⟩ := List.exists_cons_of_ne_nil (List.ne_nil_of_mem hmem)
  have huse : (newerInStmts statements).head? = some use := by rw [huses, List.head?_cons]
  obtain ⟨node, hfirst⟩ := Node.head?_newerUses_eq_some_iff.mp
    ((congrArg List.head? (newerUses_scriptNode statements)).trans huse)
  refine ⟨node, use, hfirst, inScript_of_within hfirst.within hfirst.newer,
    readBaselineScript_of_head? hparse huse, fun horderly inner innerUse hinner hinnerUse ↦ ?_⟩
  exact hfirst.pos_le horderly (within_of_inScript hinner) hinnerUse

theorem exists_parse_of_uses {text : String} {uses : List NewerUse}
    (h : (parse text).toOption.map newerInStmts = some uses) :
    ∃ statements, parse text = .ok statements ∧ newerInStmts statements = uses := by
  obtain ⟨statements, hparse, huses⟩ := Option.map_eq_some_iff.mp h
  exact ⟨statements, eq_ok_of_toOption hparse, huses⟩

theorem readBaselineScript_reports_first_use_in_class :
    ∃ statements, parse "class A extends B\x7basync c()\x7bdo d();while(e??f)\x7d\x7d" =
        .ok statements ∧
      (∃ node use, InScript node statements ∧ NewerNode node use) ∧
      (∀ inner, Within inner (scriptNode statements) → inner.Orderly) ∧
      ∃ node use, Node.FirstUse (scriptNode statements) node use ∧ InScript node statements ∧
        readBaselineScript "class A extends B\x7basync c()\x7bdo d();while(e??f)\x7d\x7d" =
          .error (.beyondBaseline use.feature.text
            (.ofOffset (scriptChars "class A extends B\x7basync c()\x7bdo d();while(e??f)\x7d\x7d")
              use.pos)) ∧
        ((∀ inner, Within inner (scriptNode statements) → inner.Orderly) →
          ∀ other otherUse, InScript other statements → NewerNode other otherUse →
            use.pos ≤ otherUse.pos) := by
  obtain ⟨statements, hparse, huses⟩ :=
    @exists_parse_of_uses "class A extends B\x7basync c()\x7bdo d();while(e??f)\x7d\x7d"
      [⟨.asyncFunction, 18⟩, ⟨.nullishCoalescing, 41⟩] (by decide +kernel)
  have hnewer : ∃ node use, InScript node statements ∧ NewerNode node use := by
    obtain ⟨node, hnode, hnewer⟩ := mem_newerInStmts_iff.mp (huses ▸ List.mem_cons_self)
    exact ⟨node, _, hnode, hnewer⟩
  have hsorted : (scriptNode statements).newerUses.Pairwise (·.pos ≤ ·.pos) := by
    rw [newerUses_scriptNode, huses]
    decide
  exact ⟨statements, hparse, hnewer, Node.pairwise_newerUses_iff.mp hsorted,
    readBaselineScript_reports_first_use hparse hnewer⟩

/-- The test of a `do` loop is walked in front of its body. -/
example : (parse "do \x7b a ?? b \x7d while (c ?? d)").toOption.map newerInStmts =
    some [⟨.nullishCoalescing, 21⟩, ⟨.nullishCoalescing, 5⟩] := by
  decide +kernel

end BrowserScript
