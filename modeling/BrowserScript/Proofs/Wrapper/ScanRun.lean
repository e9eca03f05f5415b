import BrowserScript.Proofs.Wrapper.ScanStep

/-!
Runs of the brace scanner: steps one behind another. A run tells which text has been read, what
stood behind it, the structural braces in it with their offsets from its start, and the state that
is left. The trace of a text is that of a run that cannot go on (`exists_run_stop`,
`scanBraces_append_of_run`), its braces stand at their offsets, and the offsets increase
(`exists_split_of_mem_braces`, `sorted_structuralBraces`).

Two kinds of change leave a run as it is. The text behind it only matters as far as the scanner
looks ahead (`Run.of_lookAllows`), and the state in front of it only matters as far as decisions
rest on it (`ReadsLike`, `Run.exists_of_readsLike`).
-/

set_option autoImplicit false
set_option relaxedAutoImplicit false

namespace BrowserScript.Wrapper

open Text

/-- The braces of a text that has been moved on by `n` bytes. -/
def shiftBraces (n : Nat) (braces : List (Nat × Brace)) : List (Nat × Brace) :=
  braces.map fun b ↦ (n + b.1, b.2)

@[simp] theorem shiftBraces_nil (n : Nat) : shiftBraces n [] = [] := rfl

@[simp] theorem shiftBraces_cons (n : Nat) (b : Nat × Brace) (braces : List (Nat × Brace)) :
    shiftBraces n (b :: braces) = (n + b.1, b.2) :: shiftBraces n braces := rfl

@[simp] theorem shiftBraces_append (n : Nat) (first second : List (Nat × Brace)) :
    shiftBraces n (first ++ second) = shiftBraces n first ++ shiftBraces n second :=
  List.map_append

@[simp] theorem shiftBraces_zero (braces : List (Nat × Brace)) :
    shiftBraces 0 braces = braces := by
  simp [shiftBraces]

theorem shiftBraces_add (m n : Nat) (braces : List (Nat × Brace)) :
    shiftBraces (m + n) braces = shiftBraces m (shiftBraces n braces) := by
  simp [shiftBraces, Nat.add_assoc]

/-- The brace that a step passes, if it passes one, at the start of what the step reads. -/
def bracePassed (brace : Option Brace) : List (Nat × Brace) := brace.toList.map fun b ↦ (0, b)

/-- From state `s` at the byte `offset` the scanner reads the first text, in front of the second
one, passes the braces, and is left in the last state. -/
inductive Run : ScanState → Nat → List Char → List Char → List (Nat × Brace) → ScanState → Prop
  | refl (s : ScanState) (offset : Nat) (rest : List Char) : Run s offset [] rest [] s
  | step {s middle next : ScanState} {offset : Nat} {read more rest : List Char}
    {brace : Option Brace} {braces : List (Nat × Brace)}
    (hstep : Step s offset read (more ++ rest) brace middle)
    (hrun : Run middle (offset + byteSize read) more rest braces next) :
    Run s offset (read ++ more) rest (bracePassed brace ++ shiftBraces (byteSize read) braces) next

variable {s next : ScanState} {offset : Nat} {read rest : List Char} {brace : Option Brace}
  {braces : List (Nat × Brace)}

theorem Run.single (h : Step s offset read rest brace next) :
    Run s offset read rest (bracePassed brace) next := by
  have hrun : Run s offset (read ++ []) rest _ next :=
    .step (by rwa [List.nil_append]) (.refl next (offset + byteSize read) rest)
  simpa using hrun

theorem Run.append {middle : ScanState} {more : List Char} {later : List (Nat × Brace)}
    (hfirst : Run s offset read (more ++ rest) braces middle)
    (hsecond : Run middle (offset + byteSize read) more rest later next) :
    Run s offset (read ++ more) rest (braces ++ shiftBraces (byteSize read) later) next := by
  generalize htail : more ++ rest = tail at hfirst
  induction hfirst with
  | refl s offset =>
    simpa using hsecond
  | @step s middle next' offset read' more' rest' brace' braces' hstep hrun ih =>
    subst htail
    rw [byteSize_append, ← Nat.add_assoc] at hsecond
    have htail := ih hsecond rfl
    rw [← List.append_assoc] at hstep
    have hall := Run.step hstep htail
    rw [List.append_assoc, List.append_assoc, byteSize_append, shiftBraces_add]
    simpa using hall

/-! ### The trace of a run -/

theorem scanBraces_of_stop {cs : List Char} {failure : Option Unterminated}
    (h : s.move offset cs = .stop failure) : scanBraces s offset cs = ⟨[], failure⟩ := by
  rw [scanBraces]
  split <;> simp_all

theorem scanBraces_of_onward {cs : List Char} {p : Place}
    (h : s.move offset cs = Move.onward brace next p) :
    scanBraces s offset cs =
      ⟨shiftBraces offset (bracePassed brace) ++ (scanBraces next p.offset p.rest).braces,
        (scanBraces next p.offset p.rest).failure⟩ := by
  rw [scanBraces]
  cases brace <;> simp only [Move.onward] at h
  · split <;> simp_all [bracePassed]
  · split <;> simp_all [bracePassed, BraceTrace.cons]

theorem scanBraces_append_of_run (h : Run s offset read rest braces next) :
    scanBraces s offset (read ++ rest) =
      ⟨shiftBraces offset braces ++ (scanBraces next (offset + byteSize read) rest).braces,
        (scanBraces next (offset + byteSize read) rest).failure⟩ := by
  induction h with
  | refl => rfl
  | @step _ _ _ offset read more rest _ _ hstep _ ih =>
    rw [List.append_assoc, scanBraces_of_onward (move_append_of_step hstep)]
    dsimp only
    rw [ih]
    simp [byteSize_append, Nat.add_assoc, shiftBraces_add]

/-- The scanner stops at a place, or it makes a step. -/
theorem stop_or_step (s : ScanState) (offset : Nat) (cs : List Char) :
    (∃ failure, s.move offset cs = .stop failure) ∨
      ∃ read rest brace next, cs = read ++ rest ∧ Step s offset read rest brace next := by
  have hstep : ∀ {brace next p}, s.move offset cs = Move.onward brace next p →
      ∃ read rest brace next, cs = read ++ rest ∧ Step s offset read rest brace next := by
    intro brace next p hmove
    obtain ⟨read, hread, _, hstep⟩ := exists_step_of_move hmove
    exact ⟨read, p.rest, brace, next, hread, hstep⟩
  cases hmove : s.move offset cs with
  | stop failure => exact .inl ⟨failure, rfl⟩
  | pass next p => exact .inr (hstep (show _ = Move.onward none next p from hmove))
  | brace passed next p => exact .inr (hstep (show _ = Move.onward (some passed) next p from hmove))

/-- Every text is read up to a place where the scanner stops. -/
theorem exists_run_stop (s : ScanState) (offset : Nat) (cs : List Char) :
    ∃ read rest braces next failure, cs = read ++ rest ∧ Run s offset read rest braces next ∧
      next.move (offset + byteSize read) rest = .stop failure := by
  -- on the length of the text: a step leaves less of it
  induction hlength : cs.length using Nat.strongRecOn generalizing s offset cs with
  | ind length ih =>
    rcases stop_or_step s offset cs with ⟨failure, hstop⟩ | ⟨first, tail, brace, next, rfl, hstep⟩
    · exact ⟨[], cs, [], s, failure, rfl, .refl s offset cs, by simpa using hstop⟩
    · have hshort : tail.length < length := by
        have hpos := List.length_pos_iff.mpr hstep.ne_nil
        rw [List.length_append] at hlength
        omega
      obtain ⟨read, rest, braces, last, failure, rfl, hrun, hstop⟩ :=
        ih tail.length hshort next (offset + byteSize first) tail rfl
      refine ⟨first ++ read, rest, _, last, failure, by simp, .step hstep hrun, ?_⟩
      rwa [byteSize_append, ← Nat.add_assoc]

/-- The trace of a text is that of a run that cannot go on. -/
theorem exists_run_scanBraces (s : ScanState) (offset : Nat) (cs : List Char) :
    ∃ read rest braces next failure, cs = read ++ rest ∧ Run s offset read rest braces next ∧
      next.move (offset + byteSize read) rest = .stop failure ∧
        scanBraces s offset cs = ⟨shiftBraces offset braces, failure⟩ := by
  obtain ⟨read, rest, braces, next, failure, rfl, hrun, hstop⟩ := exists_run_stop s offset cs
  refine ⟨read, rest, braces, next, failure, rfl, hrun, hstop, ?_⟩
  rw [scanBraces_append_of_run hrun, scanBraces_of_stop hstop, List.append_nil]

/-! ### Where the braces stand -/

def Brace.char : Brace → Char
  | .opening => '\x7b'
  | .closing => '\x7d'

theorem Step.read_of_brace {passed : Brace} (h : Step s offset read rest (some passed) next) :
    read = [passed.char] := by
  cases h <;> rfl

theorem Run.exists_split_of_mem (h : Run s offset read rest braces next) {place : Nat}
    {passed : Brace} (hmem : (place, passed) ∈ braces) :
    ∃ before after, read = before ++ passed.char :: after ∧ place = byteSize before := by
  induction h generalizing place passed with
  | refl => cases hmem
  | @step _ _ _ _ read more rest brace braces hstep _ ih =>
    rcases List.mem_append.mp hmem with hfirst | hlater
    · cases brace with
      | none => cases hfirst
      | some b =>
        simp only [bracePassed, Option.toList_some, List.map_cons, List.map_nil,
          List.mem_singleton, Prod.mk.injEq] at hfirst
        obtain ⟨rfl, rfl⟩ := hfirst
        exact ⟨[], more, by rw [hstep.read_of_brace]; rfl, rfl⟩
    · obtain ⟨⟨n, b⟩, hb, heq⟩ := List.mem_map.mp hlater
      simp only [Prod.mk.injEq] at heq
      obtain ⟨rfl, rfl⟩ := heq
      obtain ⟨before, after, rfl, rfl⟩ := ih hb
      exact ⟨read ++ before, after, by simp, by simp⟩

theorem Run.offset_lt_of_mem (h : Run s offset read rest braces next) {b : Nat × Brace}
    (hmem : b ∈ braces) : b.1 < byteSize read := by
  obtain ⟨before, after, rfl, hplace⟩ := h.exists_split_of_mem hmem
  have hpos := b.2.char.utf8Size_pos
  rw [hplace, byteSize_append, byteSize_cons]
  omega

theorem Run.sorted (h : Run s offset read rest braces next) :
    braces.Pairwise fun a b ↦ a.1 < b.1 := by
  induction h with
  | refl => exact .nil
  | @step _ _ _ _ read more rest brace braces hstep _ ih =>
    have hlater : (shiftBraces (byteSize read) braces).Pairwise fun a b ↦ a.1 < b.1 :=
      List.pairwise_map.mpr (ih.imp fun hab ↦ Nat.add_lt_add_left hab _)
    cases brace with
    | none => exact hlater
    | some passed =>
      refine List.pairwise_cons.mpr ⟨fun b hb ↦ ?_, hlater⟩
      obtain ⟨c, hc, rfl⟩ := List.mem_map.mp hb
      have hpos : 0 < byteSize read := by
        rw [hstep.read_of_brace, byteSize_cons]
        exact Nat.add_pos_left passed.char.utf8Size_pos _
      exact Nat.add_pos_left hpos _

/-- A run in parts: up to a structural brace, over it, and behind it. -/
structure BraceSplit (s next : ScanState) (offset : Nat) (before after rest : List Char)
    (passed : Brace) (first inner : List (Nat × Brace)) (middle middle' : ScanState) : Prop where
  front : Run s offset before (passed.char :: (after ++ rest)) first middle
  pass : Step middle (offset + byteSize before) [passed.char] (after ++ rest) (some passed) middle'
  back : Run middle' (offset + byteSize before + 1) after rest inner next

/-- A step in front of a run that is split. -/
theorem BraceSplit.of_step {before after : List Char} {passed : Brace}
    {first inner : List (Nat × Brace)} {m middle middle' : ScanState}
    (h : BraceSplit m next (offset + byteSize read) before after rest passed first inner middle
      middle') (hstep : Step s offset read (before ++ passed.char :: (after ++ rest)) brace m) :
    BraceSplit s next offset (read ++ before) after rest passed
      (bracePassed brace ++ shiftBraces (byteSize read) first) inner middle middle' where
  front := .step hstep h.front
  pass := by
    rw [byteSize_append, ← Nat.add_assoc]
    exact h.pass
  back := by
    rw [byteSize_append, ← Nat.add_assoc]
    exact h.back

theorem Brace.byteSize_char (b : Brace) : byteSize [b.char] = 1 := by
  cases b <;> rfl

/-- A run is split by each structural brace that it passes. -/
theorem Run.exists_braceSplit (h : Run s offset read rest braces next) {place : Nat}
    {passed : Brace} {first later : List (Nat × Brace)}
    (hbraces : braces = first ++ (place, passed) :: later) :
    ∃ before after middle middle' inner, read = before ++ passed.char :: after ∧
      place = byteSize before ∧ later = shiftBraces (byteSize before + 1) inner ∧
        BraceSplit s next offset before after rest passed first inner middle middle' := by
  induction h generalizing place first later with
  | refl => simp at hbraces
  | @step s m next offset read more rest brace braces hstep hrun ih =>
    -- the brace is the one that the step passes, or it stands behind the step
    have hbehind : ∀ first' : List (Nat × Brace),
        shiftBraces (byteSize read) braces = first' ++ (place, passed) :: later →
        ∃ before after middle middle' inner, read ++ more = before ++ passed.char :: after ∧
          place = byteSize before ∧ later = shiftBraces (byteSize before + 1) inner ∧
            BraceSplit s next offset before after rest passed (bracePassed brace ++ first') inner
              middle middle' := by
      intro first' hlater
      obtain ⟨front, back, rfl, rfl, hback⟩ := List.map_eq_append_iff.mp hlater
      obtain ⟨⟨place', b⟩, inner, rfl, hb, rfl⟩ := List.map_eq_cons_iff.mp hback
      obtain ⟨rfl, rfl⟩ := Prod.mk.inj hb
      obtain ⟨before, after, middle, middle', inner', rfl, rfl, rfl, hsplit⟩ := ih rfl
      refine ⟨read ++ before, after, middle, middle', inner', by simp, by simp, ?_,
        hsplit.of_step (by simpa using hstep)⟩
      rw [byteSize_append, Nat.add_assoc]
      exact (shiftBraces_add (byteSize read) (byteSize before + 1) inner').symm
    cases brace with
    | none => exact hbehind first hbraces
    | some b =>
      cases first with
      | nil =>
        obtain ⟨hb, rfl⟩ := List.cons.inj hbraces
        obtain ⟨rfl, rfl⟩ := Prod.mk.inj hb
        obtain rfl := hstep.read_of_brace
        rw [Brace.byteSize_char] at hrun ⊢
        exact ⟨[], more, s, m, braces, rfl, rfl, rfl, .refl _ _ _, hstep, hrun⟩
      | cons f first =>
        obtain ⟨rfl, hlater⟩ := List.cons.inj hbraces
        exact hbehind first hlater

/-- A structural brace stands at its offset. -/
theorem exists_split_of_mem_braces {cs : List Char} {place : Nat} {passed : Brace}
    (h : (place, passed) ∈ (structuralBraces cs).braces) :
    ∃ before after, cs = before ++ passed.char :: after ∧ place = byteSize before := by
  obtain ⟨read, rest, braces, next, failure, rfl, hrun, _, htrace⟩ := exists_run_scanBraces {} 0 cs
  rw [structuralBraces, htrace, shiftBraces_zero] at h
  obtain ⟨before, after, rfl, hplace⟩ := hrun.exists_split_of_mem h
  exact ⟨before, after ++ rest, by simp, hplace⟩

/-- The offsets of the structural braces of a text increase. -/
theorem sorted_structuralBraces (cs : List Char) :
    (structuralBraces cs).braces.Pairwise fun a b ↦ a.1 < b.1 := by
  obtain ⟨read, rest, braces, next, failure, rfl, hrun, _, htrace⟩ := exists_run_scanBraces {} 0 cs
  rw [structuralBraces, htrace, shiftBraces_zero]
  exact hrun.sorted

/-! ### Another text behind a run -/

/-- Two texts that look the same to a scanner that stands in front of them and looks ahead. -/
structure SameLook (first second : List Char) : Prop where
  slash : first.head? = some '/' ↔ second.head? = some '/'
  star : first.head? = some '*' ↔ second.head? = some '*'
  lineEnd : first = [] ∨ first.head? = some '\n' ↔ second = [] ∨ second.head? = some '\n'
  letter : (∀ c, first.head? = some c → ¬c.isAlpha) ↔ ∀ c, second.head? = some c → ¬c.isAlpha

variable {first second : List Char}

/-- What a scanner that looks ahead may read in front of the first text, it may read in front of
the second one. -/
structure LookAllows (first second : List Char) : Prop where
  slash : second.head? = some '/' → first.head? = some '/'
  star : second.head? = some '*' → first.head? = some '*'
  lineEnd : first = [] ∨ first.head? = some '\n' → second = [] ∨ second.head? = some '\n'
  letter : (∀ c, first.head? = some c → ¬c.isAlpha) → ∀ c, second.head? = some c → ¬c.isAlpha

theorem SameLook.allows (h : SameLook first second) : LookAllows first second :=
  ⟨h.slash.mpr, h.star.mpr, h.lineEnd.mp, h.letter.mp⟩

theorem LookAllows.append (h : LookAllows first second) (text : List Char) :
    LookAllows (text ++ first) (text ++ second) := by
  cases text with
  | nil => exact h
  | cons c text => constructor <;> simp

/-- A step that looks ahead is made in front of another text that allows as much. Letters matter
only where they may become flags of what has been read. -/
theorem Step.of_look (h : Step s offset read first brace next)
    (hslash : second.head? = some '/' → first.head? = some '/')
    (hstar : second.head? = some '*' → first.head? = some '*')
    (hlineEnd : first = [] ∨ first.head? = some '\n' → second = [] ∨ second.head? = some '\n')
    (hletter : next.preceding = .literal → next.adjacent →
      (∀ c, first.head? = some c → ¬c.isAlpha) → ∀ c, second.head? = some c → ¬c.isAlpha) :
    Step s offset read second brace next := by
  cases h with
  | stringLiteral _ hquote htext => exact .stringLiteral _ hquote htext
  | template _ htext => exact .template _ htext
  | substitution _ htext => exact .substitution _ htext
  | lineComment htext => exact .lineComment ⟨htext.1, hlineEnd htext.2⟩
  | blockComment _ htext => exact .blockComment _ htext
  | regex hallowed hslash hstar htext hflags =>
    exact .regex hallowed hslash hstar htext ⟨hflags.1, hletter rfl rfl hflags.2⟩
  | division hallowed hslash' hstar' =>
    exact .division hallowed (fun h ↦ hslash' (hslash h)) fun h ↦ hstar' (hstar h)
  | openParen => exact .openParen _
  | closeParen => exact .closeParen _
  | openBrace _ houter => exact .openBrace _ houter
  | openInner _ hinner => exact .openInner _ hinner
  | closeBrace _ houter => exact .closeBrace _ houter
  | closeInner _ hinner => exact .closeInner _ hinner
  | closeTemplate _ hinner htext => exact .closeTemplate _ hinner htext
  | nextSubstitution _ hinner htext => exact .nextSubstitution _ hinner htext
  | space _ hspace => exact .space _ hspace
  | char _ hc hspace => exact .char _ hc hspace

theorem Step.of_lookAllows (h : Step s offset read first brace next)
    (hlook : LookAllows first second) : Step s offset read second brace next :=
  h.of_look hlook.slash hlook.star hlook.lineEnd fun _ _ ↦ hlook.letter

/-- The text behind a run may be exchanged for one that allows as much. -/
theorem Run.of_lookAllows (h : Run s offset read first braces next)
    (hlook : LookAllows first second) : Run s offset read second braces next := by
  induction h with
  | refl => exact .refl _ _ _
  | step hstep _ ih => exact .step (hstep.of_lookAllows (hlook.append _)) (ih hlook)

/-- The text behind a run may be exchanged for one that looks the same. -/
theorem Run.of_sameLook (h : Run s offset read first braces next)
    (hlook : SameLook first second) : Run s offset read second braces next :=
  h.of_lookAllows hlook.allows

/-! ### The same text in another place -/

theorem templates_eq_nil_of_depths {templates templates' : List OpenTemplate}
    (hdepths : templates.map OpenTemplate.depth = templates'.map OpenTemplate.depth)
    (h : templates = []) : templates' = [] := by
  rwa [h, List.map_nil, eq_comm, List.map_eq_nil_iff] at hdepths

theorem exists_templates_of_depths {templates templates' outer : List OpenTemplate}
    {template : OpenTemplate}
    (hdepths : templates.map OpenTemplate.depth = templates'.map OpenTemplate.depth)
    (h : templates = template :: outer) :
    ∃ start outer', templates' = ⟨start, template.depth⟩ :: outer' ∧
      outer.map OpenTemplate.depth = outer'.map OpenTemplate.depth := by
  rw [h, List.map_cons, eq_comm, List.map_eq_cons_iff] at hdepths
  obtain ⟨⟨start, depth⟩, outer', htemplates, rfl, houter⟩ := hdepths
  exact ⟨start, outer', htemplates, houter.symm⟩

variable {t : ScanState}

/-- The last tokens of two states lead to the same decisions, and become the same token when the
next character is read, right behind them or after a space. -/
structure FollowedAlike (s t : ScanState) : Prop where
  regexAllowed : s.preceding.regexAllowed = t.preceding.regexAllowed
  opensObject : s.preceding.opensObject = t.preceding.opensObject
  opensControlHeader : s.preceding.opensControlHeader = t.preceding.opensControlHeader
  extend : ∀ c, s.preceding.extend s.adjacent c = t.preceding.extend t.adjacent c
  extendApart : ∀ c, s.preceding.extend false c = t.preceding.extend false c

theorem FollowedAlike.of_eq (hpreceding : s.preceding = t.preceding)
    (hadjacent : s.adjacent = t.adjacent) : FollowedAlike s t where
  regexAllowed := by rw [hpreceding]
  opensObject := by rw [hpreceding]
  opensControlHeader := by rw [hpreceding]
  extend c := by rw [hpreceding, hadjacent]
  extendApart c := by rw [hpreceding]

/-- Two states in which every text is read alike. The parentheses and braces that one of them has
open below those of the other one are as good as none: they start no control header and no
object. -/
structure ReadsLike (s t : ScanState) : Prop where
  followed : FollowedAlike s t
  parens : ∀ n, s.parens.getD n false = t.parens.getD n false
  braces : ∀ n, s.braces.getD n false = t.braces.getD n false
  depths : s.templates.map OpenTemplate.depth = t.templates.map OpenTemplate.depth

theorem getD_tail {α : Type} (items : List α) (n : Nat) (a : α) :
    items.tail.getD n a = items.getD (n + 1) a := by
  cases items <;> rfl

theorem headD_eq_getD {α : Type} (items : List α) (a : α) : items.headD a = items.getD 0 a := by
  cases items <;> rfl

namespace ReadsLike

theorem refl (s : ScanState) : ReadsLike s s := ⟨.of_eq rfl rfl, fun _ ↦ rfl, fun _ ↦ rfl, rfl⟩

theorem symm (h : ReadsLike s t) : ReadsLike t s :=
  ⟨⟨h.followed.regexAllowed.symm, h.followed.opensObject.symm,
      h.followed.opensControlHeader.symm, fun c ↦ (h.followed.extend c).symm,
      fun c ↦ (h.followed.extendApart c).symm⟩,
    fun n ↦ (h.parens n).symm, fun n ↦ (h.braces n).symm, h.depths.symm⟩

theorem afterLiteral (h : ReadsLike s t) : ReadsLike s.afterLiteral t.afterLiteral :=
  ⟨.of_eq rfl rfl, h.parens, h.braces, h.depths⟩

theorem afterSpace (h : ReadsLike s t) : ReadsLike s.afterSpace t.afterSpace :=
  ⟨⟨h.followed.regexAllowed, h.followed.opensObject, h.followed.opensControlHeader,
      h.followed.extendApart, h.followed.extendApart⟩, h.parens, h.braces, h.depths⟩

theorem afterChar (h : ReadsLike s t) (c : Char) : ReadsLike (s.afterChar c) (t.afterChar c) :=
  ⟨.of_eq (h.followed.extend c) rfl, h.parens, h.braces, h.depths⟩

theorem openParen (h : ReadsLike s t) : ReadsLike s.openParen t.openParen := by
  refine ⟨.of_eq rfl rfl, fun n ↦ ?_, h.braces, h.depths⟩
  cases n with
  | zero => exact h.followed.opensControlHeader
  | succ n => exact h.parens n

theorem closeParen (h : ReadsLike s t) : ReadsLike s.closeParen t.closeParen := by
  refine ⟨.of_eq ?_ rfl, fun n ↦ ?_, h.braces, h.depths⟩
  · rw [ScanState.closeParen, ScanState.closeParen, headD_eq_getD, headD_eq_getD, h.parens]
  · rw [ScanState.closeParen, ScanState.closeParen, getD_tail, getD_tail, h.parens]

theorem openBrace (h : ReadsLike s t) : ReadsLike s.openBrace t.openBrace := by
  refine ⟨.of_eq rfl rfl, h.parens, fun n ↦ ?_, h.depths⟩
  cases n with
  | zero => exact h.followed.opensObject
  | succ n => exact h.braces n

theorem closeBrace (h : ReadsLike s t) : ReadsLike s.closeBrace t.closeBrace := by
  refine ⟨.of_eq ?_ rfl, h.parens, fun n ↦ ?_, h.depths⟩
  · rw [ScanState.closeBrace, ScanState.closeBrace, headD_eq_getD, headD_eq_getD, h.braces]
  · rw [ScanState.closeBrace, ScanState.closeBrace, getD_tail, getD_tail, h.braces]

theorem enterSubstitution (h : ReadsLike s t) (m n : Nat) :
    ReadsLike (s.enterSubstitution m) (t.enterSubstitution n) := by
  refine ⟨.of_eq rfl rfl, h.parens, fun n ↦ ?_, congrArg (0 :: ·) h.depths⟩
  cases n with
  | zero => rfl
  | succ n => exact h.braces n

theorem withTemplates (h : ReadsLike s t) {inner inner' : List OpenTemplate}
    (hdepths : inner.map OpenTemplate.depth = inner'.map OpenTemplate.depth) :
    ReadsLike { s with templates := inner } { t with templates := inner' } :=
  ⟨⟨h.followed.regexAllowed, h.followed.opensObject, h.followed.opensControlHeader,
    h.followed.extend, h.followed.extendApart⟩, h.parens, h.braces, hdepths⟩

end ReadsLike

/-- Two states in which a text is read alike, as its first character does not go on with a token
that is different. -/
structure ReadsLikeBefore (text : List Char) (s t : ScanState) : Prop where
  apart : ReadsLike s.afterSpace t.afterSpace
  extend : ∀ c, text.head? = some c →
    s.preceding.extend s.adjacent c = t.preceding.extend t.adjacent c

theorem ReadsLike.before (h : ReadsLike s t) (text : List Char) : ReadsLikeBefore text s t :=
  ⟨h.afterSpace, fun c _ ↦ h.followed.extend c⟩

theorem ReadsLikeBefore.afterChar {c : Char} (h : ReadsLikeBefore [c] s t) :
    ReadsLike (s.afterChar c) (t.afterChar c) :=
  ⟨.of_eq (h.extend c rfl) rfl, h.apart.parens, h.apart.braces, h.apart.depths⟩

/-- A state in which a text is read alike makes the same step, and behind the step everything is
read alike. -/
theorem Step.exists_of_readsLikeBefore (h : Step s offset read rest brace next)
    (hst : ReadsLikeBefore read s t) (offset' : Nat) :
    ∃ next', Step t offset' read rest brace next' ∧ ReadsLike next next' := by
  have hregex : s.preceding.regexAllowed = t.preceding.regexAllowed :=
    hst.apart.followed.regexAllowed
  have hdepths : s.templates.map OpenTemplate.depth = t.templates.map OpenTemplate.depth :=
    hst.apart.depths
  cases h with
  | stringLiteral _ hquote htext => exact ⟨_, .stringLiteral _ hquote htext, hst.apart.afterLiteral⟩
  | template _ htext => exact ⟨_, .template _ htext, hst.apart.afterLiteral⟩
  | substitution _ htext => exact ⟨_, .substitution _ htext, hst.apart.enterSubstitution _ _⟩
  | lineComment htext => exact ⟨_, .lineComment htext, hst.apart⟩
  | blockComment _ htext => exact ⟨_, .blockComment _ htext, hst.apart⟩
  | regex hallowed hslash hstar htext hflags =>
    rw [hregex] at hallowed
    exact ⟨_, .regex hallowed hslash hstar htext hflags, hst.apart.afterLiteral⟩
  | division hallowed hslash hstar =>
    rw [hregex] at hallowed
    exact ⟨_, .division hallowed hslash hstar, hst.afterChar⟩
  | openParen => exact ⟨_, .openParen _, hst.apart.openParen⟩
  | closeParen => exact ⟨_, .closeParen _, hst.apart.closeParen⟩
  | openBrace _ houter =>
    exact ⟨_, .openBrace _ (templates_eq_nil_of_depths hdepths houter), hst.apart.openBrace⟩
  | openInner _ hinner =>
    obtain ⟨start, outer', hinner', houter⟩ := exists_templates_of_depths hdepths hinner
    exact ⟨_, .openInner _ hinner', hst.apart.openBrace.withTemplates (congrArg (_ :: ·) houter)⟩
  | closeBrace _ houter =>
    exact ⟨_, .closeBrace _ (templates_eq_nil_of_depths hdepths houter), hst.apart.closeBrace⟩
  | closeInner _ hinner =>
    obtain ⟨start, outer', hinner', houter⟩ := exists_templates_of_depths hdepths hinner
    exact ⟨_, .closeInner _ hinner', hst.apart.closeBrace.withTemplates (congrArg (_ :: ·) houter)⟩
  | closeTemplate _ hinner htext =>
    obtain ⟨start, outer', hinner', houter⟩ := exists_templates_of_depths hdepths hinner
    exact ⟨_, .closeTemplate _ hinner' htext,
      (hst.apart.closeBrace.withTemplates houter).afterLiteral⟩
  | nextSubstitution _ hinner htext =>
    obtain ⟨start, outer', hinner', houter⟩ := exists_templates_of_depths hdepths hinner
    exact ⟨_, .nextSubstitution _ hinner' htext,
      (hst.apart.closeBrace.withTemplates houter).enterSubstitution _ _⟩
  | space _ hspace => exact ⟨_, .space _ hspace, hst.apart⟩
  | char _ hc hspace => exact ⟨_, .char _ hc hspace, hst.afterChar⟩

/-- A state in which everything is read alike makes the same step. -/
theorem Step.exists_of_readsLike (h : Step s offset read rest brace next) (hst : ReadsLike s t)
    (offset' : Nat) : ∃ next', Step t offset' read rest brace next' ∧ ReadsLike next next' :=
  h.exists_of_readsLikeBefore (hst.before read) offset'

theorem Run.exists_of_readsLike (h : Run s offset read rest braces next) (hst : ReadsLike s t)
    (offset' : Nat) : ∃ next', Run t offset' read rest braces next' ∧ ReadsLike next next' := by
  induction h generalizing t offset' with
  | refl => exact ⟨t, .refl _ _ _, hst⟩
  | step hstep _ ih =>
    obtain ⟨middle', hstep', hmiddle⟩ := hstep.exists_of_readsLike hst offset'
    obtain ⟨next', hrun', hnext⟩ := ih hmiddle _
    exact ⟨next', .step hstep' hrun', hnext⟩

/-! ### The end of a scan -/

theorem afterTemplateText_ne_stop_none (s : ScanState) (start : Nat) (found : TemplateText) :
    s.afterTemplateText start found ≠ .stop none := by
  cases found <;> simp [ScanState.afterTemplateText]

theorem moveSlash_ne_stop_none (s : ScanState) (offset : Nat) (cs : List Char) :
    s.moveSlash offset cs ≠ .stop none := by
  fun_cases ScanState.moveSlash s offset cs <;> simp

theorem move_cons_ne_stop_none (s : ScanState) (offset : Nat) (c : Char) (rest : List Char) :
    s.move offset (c :: rest) ≠ .stop none := by
  generalize hcs : c :: rest = cs
  fun_cases ScanState.move s offset cs with
  | case1 => cases hcs
  | case4 => exact afterTemplateText_ne_stop_none _ _ _
  | case5 => exact moveSlash_ne_stop_none _ _ _
  | case8 rest => fun_cases ScanState.moveOpenBrace s offset rest <;> simp
  | case9 rest =>
    fun_cases ScanState.moveCloseBrace s offset rest with
    | case1 | case2 => simp
    | case3 => exact afterTemplateText_ne_stop_none _ _ _
  | case2 | case3 | case6 | case7 | case10 | case11 => simp

/-- A scan ends without a failure only behind the last character and outside of templates. -/
theorem move_eq_stop_none_iff {cs : List Char} :
    s.move offset cs = .stop none ↔ cs = [] ∧ s.templates = [] := by
  cases cs with
  | nil => simp [ScanState.move]
  | cons c rest => simp [move_cons_ne_stop_none]

/-- Where a text has no end, it has none in a state in which everything is read alike. -/
theorem exists_stop_of_readsLike {cs : List Char} {failure : Option Unterminated}
    (h : s.move offset cs = .stop failure) (hst : ReadsLike s t) (offset' : Nat) :
    ∃ failure', t.move offset' cs = .stop failure' ∧ (failure = none ↔ failure' = none) := by
  have houter : s.templates = [] ↔ t.templates = [] :=
    ⟨templates_eq_nil_of_depths hst.depths, templates_eq_nil_of_depths hst.depths.symm⟩
  rcases stop_or_step t offset' cs with ⟨failure', hstop⟩ | ⟨read, rest, brace, next, rfl, hstep⟩
  · refine ⟨failure', hstop, ?_⟩
    have hend := @move_eq_stop_none_iff s offset cs
    have hend' := @move_eq_stop_none_iff t offset' cs
    rw [h, Move.stop.injEq] at hend
    rw [hstop, Move.stop.injEq] at hend'
    rw [hend, hend', houter]
  · obtain ⟨next', hstep', _⟩ := hstep.exists_of_readsLike hst.symm offset
    exact (stop_ne_onward _ _ _ _ (h.symm.trans (move_append_of_step hstep'))).elim

/-- A text has the same structural braces in two states in which everything is read alike. -/
theorem exists_scanBraces_of_readsLike (hst : ReadsLike s t) (offset offset' : Nat)
    (cs : List Char) :
    ∃ braces failure failure', scanBraces s offset cs = ⟨shiftBraces offset braces, failure⟩ ∧
      scanBraces t offset' cs = ⟨shiftBraces offset' braces, failure'⟩ ∧
        (failure = none ↔ failure' = none) := by
  obtain ⟨read, rest, braces, next, failure, rfl, hrun, hstop, htrace⟩ :=
    exists_run_scanBraces s offset cs
  obtain ⟨next', hrun', hnext⟩ := hrun.exists_of_readsLike hst offset'
  obtain ⟨failure', hstop', hfailure⟩ :=
    exists_stop_of_readsLike hstop hnext (offset' + byteSize read)
  refine ⟨braces, failure, failure', htrace, ?_, hfailure⟩
  rw [scanBraces_append_of_run hrun', scanBraces_of_stop hstop', List.append_nil]

end BrowserScript.Wrapper
