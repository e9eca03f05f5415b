import Mathlib
import BrowserScript.Proofs.Bytes.Body
import BrowserScript.Proofs.Bytes.ScanMemory

/-!
Searches for braces as runs of the two loops. A search, the reading of a template and the reading of
a substitution call each other, and what every turn of them keeps holds of a call that succeeds
(`Course.holds`). So every search leads from head to head (`Searched.exists_reaches`), and what is
remembered at the heads is what looking back through the history finds
(`scanner_remembers_open_groups`).
-/

set_option autoImplicit false
set_option relaxedAutoImplicit false

namespace BrowserScript.Wrapper.Bytes

open Text

variable {src : List UInt8} {st next : State} {start depth place : Nat} {outer : List OpenTemplate}
  {group : Group} {pieces before : List Piece} {flag : Bool}

/-! ### Calls that succeed -/

/-- Properties of the three calls, each by what it starts from and what it ends with, that hold of a
call if they hold of the calls that it makes. -/
structure Course (src : List UInt8) (finds : State → Option (Nat × Brace) → State → Prop)
    (closes : Nat → State → State → Prop) (leaves : Nat → Nat → State → State → Prop) : Prop where
  ended {st : State} : src[st.pos]? = none → finds st none st
  on {st mid next : State} {b : UInt8} {found : Option (Nat × Brace)} : src[st.pos]? = some b →
    turn src st b = .ok (.on mid) → finds mid found next → finds st found next
  brace {st next : State} {b : UInt8} {brace : Brace} : src[st.pos]? = some b →
    turn src st b = .ok (.brace brace next) → finds st (some (st.pos, brace)) next
  template {st after next : State} {b : UInt8} {found : Option (Nat × Brace)} :
    src[st.pos]? = some b → turn src st b = .ok .template →
    closes st.pos { st with pos := st.pos + 1 } after →
    finds { after with prev := some st.pos } found next → finds st found next
  escape {start : Nat} {st next : State} {b : UInt8} : src[st.pos]? = some b → asChar b = '\\' →
    closes start { st with pos := st.pos + 2 } next → closes start st next
  tick {start : Nat} {st : State} {b : UInt8} : src[st.pos]? = some b → asChar b = '`' →
    closes start st { st with pos := st.pos + 1 }
  substitution {start : Nat} {st after next : State} {b : UInt8} : src[st.pos]? = some b →
    asChar b = '$' → src[st.pos + 1]?.any (asChar · = '\x7b') →
    leaves start 1 { st with pos := st.pos + 2, prev := none, braces := true :: st.braces } after →
    closes start after next → closes start st next
  char {start : Nat} {st next : State} {b : UInt8} : src[st.pos]? = some b → asChar b ≠ '\\' →
    asChar b ≠ '`' → ¬(asChar b = '$' ∧ src[st.pos + 1]?.any (asChar · = '\x7b')) →
    closes start { st with pos := st.pos + 1 } next → closes start st next
  done {start : Nat} {st : State} : leaves start 0 st st
  opening {start depth place : Nat} {st after next : State} :
    finds st (some (place, .opening)) after → leaves start (depth + 2) after next →
    leaves start (depth + 1) st next
  closing {start depth place : Nat} {st after next : State} :
    finds st (some (place, .closing)) after → leaves start depth after next →
    leaves start (depth + 1) st next

namespace Course

variable {finds : State → Option (Nat × Brace) → State → Prop} {closes : Nat → State → State → Prop}
  {leaves : Nat → Nat → State → State → Prop}

/-- The properties hold of the calls that start with less than `n` bytes in front of them. -/
structure HoldsBelow (src : List UInt8) (finds : State → Option (Nat × Brace) → State → Prop)
    (closes : Nat → State → State → Prop) (leaves : Nat → Nat → State → State → Prop) (n : Nat) :
    Prop where
  finds {st next : State} {found : Option (Nat × Brace)} : src.length - st.pos < n →
    nextBrace src st = .ok (found, next) → finds st found next
  closes {start : Nat} {st next : State} : src.length - st.pos < n →
    skipTemplate src start st = .ok next → closes start st next
  leaves {start depth : Nat} {st next : State} : src.length - st.pos < n →
    skipSubstitution src start depth st = .ok next → leaves start depth st next

variable {n : Nat} {found : Option (Nat × Brace)}

theorem finds_succ (h : Course src finds closes leaves) (ih : HoldsBelow src finds closes leaves n)
    (hn : src.length - st.pos < n + 1) (hnext : nextBrace src st = .ok (found, next)) :
    finds st found next := by
  rw [nextBrace_eq] at hnext
  split at hnext
  · next hb =>
    cases hnext
    exact h.ended hb
  · next b hb =>
    have hpos : st.pos < src.length := (List.getElem?_eq_some_iff.mp hb).1
    split at hnext
    · cases hnext
    · next mid hturn =>
      have hlt := turn_pos_lt hb hturn rfl
      exact h.on hb hturn (ih.finds (by omega) hnext)
    · next hturn =>
      cases hnext
      exact h.brace hb hturn
    · next hturn =>
      split at hnext
      · cases hnext
      · next after hafter =>
        have hlt : st.pos + 1 < after.pos := pos_lt_of_skipTemplate hafter
        have hcloses := ih.closes (by dsimp only; omega) hafter
        exact h.template hb hturn hcloses (ih.finds (by dsimp only; omega) hnext)

theorem closes_succ (h : Course src finds closes leaves)
    (ih : HoldsBelow src finds closes leaves n) (hn : src.length - st.pos < n + 1)
    (hnext : skipTemplate src start st = .ok next) : closes start st next := by
  rw [skipTemplate_eq] at hnext
  split at hnext
  · cases hnext
  · next b hb =>
    have hpos : st.pos < src.length := (List.getElem?_eq_some_iff.mp hb).1
    split at hnext
    · next hescape => exact h.escape hb hescape (ih.closes (by dsimp only; omega) hnext)
    · next hescape =>
      split at hnext
      · next htick =>
        cases hnext
        exact h.tick hb htick
      · next htick =>
        split at hnext
        · next hdollar =>
          split at hnext
          · cases hnext
          · next after hafter =>
            have hlt : st.pos + 2 ≤ after.pos := pos_le_of_skipSubstitution hafter
            have hleaves := ih.leaves (by dsimp only; omega) hafter
            exact h.substitution hb hdollar.1 hdollar.2 hleaves (ih.closes (by omega) hnext)
        · next hdollar =>
          exact h.char hb hescape htick hdollar (ih.closes (by dsimp only; omega) hnext)

/-- A substitution starts with a search at its own start. -/
theorem leaves_succ (h : Course src finds closes leaves)
    (ih : HoldsBelow src finds closes leaves n) (hn : src.length - st.pos < n + 1)
    (hnext : skipSubstitution src start depth st = .ok next) : leaves start depth st next := by
  rw [skipSubstitution_eq] at hnext
  cases depth with
  | zero =>
    cases hnext
    exact h.done
  | succ depth =>
    rw [if_neg depth.succ_ne_zero] at hnext
    split at hnext
    · cases hnext
    · cases hnext
    · next place after hfound =>
      have hlt := nextBrace_pos_lt hfound
      exact h.opening (h.finds_succ ih hn hfound) (ih.leaves (by omega) hnext)
    · next place after hfound =>
      have hlt := nextBrace_pos_lt hfound
      exact h.closing (h.finds_succ ih hn hfound) (ih.leaves (by omega) hnext)

theorem holdsBelow (h : Course src finds closes leaves) (n : Nat) :
    HoldsBelow src finds closes leaves n := by
  -- every call that is made stands further on, or is a search at the start of a substitution
  induction n with
  | zero => constructor <;> intros <;> contradiction
  | succ n ih => exact ⟨h.finds_succ ih, h.closes_succ ih, h.leaves_succ ih⟩

theorem of_nextBrace (h : Course src finds closes leaves)
    (hnext : nextBrace src st = .ok (found, next)) : finds st found next :=
  (h.holdsBelow _).finds (Nat.lt_succ_self _) hnext

theorem of_skipTemplate (h : Course src finds closes leaves)
    (hnext : skipTemplate src start st = .ok next) : closes start st next :=
  (h.holdsBelow _).closes (Nat.lt_succ_self _) hnext

end Course

/-! ### Braces around templates -/

/-- What a search does to the stack of braces. -/
def BracesBehind (st : State) (found : Option (Nat × Brace)) (next : State) : Prop :=
  match found with
  | none => next.braces = st.braces
  | some (_, .opening) => ∃ flag, next.braces = flag :: st.braces
  | some (_, .closing) => next.braces = st.braces.tail

theorem bracesBehind_of_turn {b : UInt8} {brace : Brace}
    (h : turn src st b = .ok (.brace brace next)) :
    BracesBehind st (some (place, brace)) next := by
  have hover := turnsOver_of_turn h Turn.noConfusion
  generalize pieceAt src st b = piece at hover
  cases hover
  · exact ⟨_, rfl⟩
  · rfl

theorem braces_of_on {b : UInt8} (h : turn src st b = .ok (.on next)) :
    next.braces = st.braces := by
  have hover := turnsOver_of_turn h Turn.noConfusion
  generalize pieceAt src st b = piece at hover
  cases hover <;> rfl

theorem BracesBehind.of_eq {mid : State} {found : Option (Nat × Brace)}
    (h : BracesBehind mid found next) (heq : mid.braces = st.braces) :
    BracesBehind st found next := by
  rwa [BracesBehind.eq_def, ← heq]

/-- A template leaves the stack as it was, and a substitution takes off the braces that are open in
it. -/
theorem course_braces (src : List UInt8) :
    Course src BracesBehind (fun _ st next ↦ next.braces = st.braces)
      (fun _ depth st next ↦ next.braces = st.braces.drop depth) where
  ended _ := rfl
  on _ hturn hfinds := hfinds.of_eq (braces_of_on hturn)
  brace _ hturn := bracesBehind_of_turn hturn
  template _ _ hcloses hfinds := hfinds.of_eq hcloses
  escape _ _ hcloses := hcloses
  tick _ _ := rfl
  substitution _ _ _ hleaves hcloses := hcloses.trans hleaves
  char _ _ _ _ hcloses := hcloses
  done := rfl
  opening hfinds hleaves := by
    obtain ⟨flag, hflag⟩ := hfinds
    rw [hleaves, hflag, List.drop_succ_cons]
  closing hfinds hleaves := by
    have hfinds : _ = _ := hfinds
    rw [hleaves, hfinds, List.drop_tail]

/-! ### Searches from head to head -/

/-- A search from a head ends at a head at the end of the text, or passes a brace at one. -/
def SearchesHeads (src : List UInt8) (st : State) (found : Option (Nat × Brace)) (next : State) :
    Prop :=
  ∀ pieces outer, Reaches src pieces ⟨st, none, outer⟩ →
    match found with
    | none => ∃ pieces', Reaches src pieces' ⟨next, none, outer⟩
    | some (_, brace) => ∃ pieces' mid b, Reaches src pieces' ⟨mid, none, outer⟩ ∧
        src[mid.pos]? = some b ∧ turn src mid b = .ok (.brace brace next)

theorem course_reaches (src : List UInt8) :
    Course src (SearchesHeads src)
      (fun start st next ↦ ∀ pieces outer, Reaches src pieces ⟨st, some start, outer⟩ →
        ∃ pieces', Reaches src pieces' ⟨{ next with prev := some start }, none, outer⟩)
      (fun start depth st next ↦ match depth with
        | 0 => next = st
        | depth + 1 => ∀ pieces outer, Reaches src pieces ⟨st, none, ⟨start, depth + 1⟩ :: outer⟩ →
          ∃ pieces', Reaches src pieces' ⟨next, some start, outer⟩) where
  ended _ pieces _ h := ⟨pieces, h⟩
  on hb hturn hfinds _ outer h := hfinds _ outer (h.step (.on hb hturn))
  brace hb hturn pieces _ h := ⟨pieces, _, _, h, hb, hturn⟩
  template hb hturn hcloses hfinds pieces outer h := by
    obtain ⟨pieces', h'⟩ := hcloses _ outer (h.step (.enters hb hturn))
    exact hfinds pieces' outer h'
  escape hb hescape hcloses _ outer h := hcloses _ outer (h.step (.escape hb hescape))
  tick hb htick _ _ h := ⟨_, h.step (.ends hb htick)⟩
  substitution hb hdollar hbrace hleaves hcloses _ outer h := by
    obtain ⟨pieces', h'⟩ := hleaves _ outer (h.step (.substitutes hb hdollar hbrace))
    exact hcloses pieces' outer h'
  char hb hescape htick hdollar hcloses _ outer h :=
    hcloses _ outer (h.step (.char hb hescape htick hdollar))
  done := rfl
  opening hfinds hleaves pieces outer h := by
    obtain ⟨pieces', mid, b, h', hb, hturn⟩ := hfinds pieces _ h
    exact hleaves _ outer (h'.step (.opens hb hturn))
  closing {start depth _ st after next} hfinds hleaves pieces outer h := by
    obtain ⟨pieces', mid, b, h', hb, hturn⟩ := hfinds pieces _ h
    cases depth with
    | zero =>
      have hleaves : next = after := hleaves
      exact ⟨_, hleaves ▸ h'.step (.leaves hb hturn)⟩
    | succ depth => exact hleaves _ outer (h'.step (.closes hb hturn))

/-- What is remembered between searches is remembered at a head outside of all templates. -/
theorem Searched.exists_reaches (h : Searched src st) :
    ∃ pieces, Reaches src pieces ⟨st, none, []⟩ := by
  induction h with
  | fresh => exact ⟨[], .fresh⟩
  | @next _ _ found _ hnext ih =>
    obtain ⟨pieces, hreaches⟩ := ih
    have hheads := (course_reaches src).of_nextBrace hnext pieces [] hreaches
    rcases found with _ | ⟨place, brace⟩
    · exact hheads
    · obtain ⟨pieces', mid, b, h', hb, hturn⟩ := hheads
      exact ⟨_, h'.step (.brace hb hturn)⟩

/-! ### The memory of the scanner -/

/-- Behind a history without a stray closing brace, inside of the substitutions around, the scanner
remembers what it needs. -/
structure Memory (src : List UInt8) (pieces : List Piece) (outer : List OpenTemplate) (st : State) :
    Prop where
  /-- The stack of braces is that of the braces and the substitutions that are open. -/
  braces : st.braces = (openers .brace pieces).map Piece.flag
  encloses : Encloses outer (openers .brace pieces)
  length_braces : st.braces.length + pieces.countP (·.closes .brace) =
    pieces.countP (·.opens .brace)
  parens : st.parens = (openers .paren pieces).map Piece.flag
  /-- A flag is the decision that was made at its opener. -/
  classified : ∀ group place flag, .opener group place flag ∈ openers group pieces →
    ∃ before at_opener around, .opener group place flag :: before <:+ pieces ∧
      Reaches src before ⟨at_opener, none, around⟩ ∧ at_opener.pos = place ∧
        classify src at_opener group = .ok flag
  /-- A closing brace that is not stray takes off the flag of its opener. -/
  closes : ∀ b, src[st.pos]? = some b → asChar b = '\x7d' →
    NoStrayBrace (pieceAt src st b :: pieces) →
      ∃ opener around, openers .brace pieces = opener :: around ∧
        st.braces = opener.flag :: around.map Piece.flag ∧
          turn src st b = .ok (.brace .closing { st with
            braces := around.map Piece.flag
            closed := some (st.pos, !opener.flag)
            prev := some st.pos
            pos := st.pos + 1 })
  prev : st.prev = lastPlace pieces
  /-- Behind a closing byte the note on the last closer is about that byte, and about its group. -/
  closed : ∀ place b, st.prev = some place → src[place]? = some b →
    asChar b = ')' ∨ asChar b = '\x7d' →
      ∃ group before, significant pieces = .closer group place :: before ∧
        st.closed = some (place, allowsRegex group before) ∧
          regexAllowed src st = .ok (allowsRegex group before)
  /-- Behind anything else the note plays no part. -/
  stale : (∀ group place before, significant pieces ≠ .closer group place :: before) →
    regexAllowed src st = regexAllowed src { st with closed := none }

theorem turn_closing (src : List UInt8) (st : State) {b : UInt8} (hb : asChar b = '\x7d') :
    pieceAt src st b = .closer .brace st.pos ∧
      turn src st b = .ok (.brace .closing { st with
        braces := st.braces.tail
        closed := some (st.pos, !st.braces.headD false)
        prev := some st.pos
        pos := st.pos + 1 }) := by
  have hspace : isSpace (asChar b) = false := by rw [hb]; decide
  constructor
  · simp [pieceAt, hb]
  · simp [turn, hb, State.pass, show isSpace '\x7d' = false by decide]

theorem Remembers.regexAllowed_of_closer (h : Remembers src pieces st)
    (hlast : significant pieces = .closer group place :: before) :
    st.closed = some (place, allowsRegex group before) ∧
      regexAllowed src st = .ok (allowsRegex group before) := by
  have hclosed := h.closed.trans (lastClosed_of_significant hlast)
  have hprev : st.prev = some place := by rw [h.prev, lastPlace, hlast]; rfl
  exact ⟨hclosed, by rw [regexAllowed, hprev, hclosed]; exact if_pos rfl⟩

theorem Remembers.regexAllowed_of_stale (h : Remembers src pieces st)
    (hlast : ∀ group place before, significant pieces ≠ .closer group place :: before) :
    regexAllowed src st = regexAllowed src { st with closed := none } := by
  obtain ⟨pos, _ | prev, parens, braces, _ | closed⟩ := st
  · rfl
  · rfl
  · rfl
  · have hplace : closed.1 ≠ prev := by
      rintro rfl
      obtain ⟨group, before, heq⟩ := h.exists_closer_of_closed rfl rfl
      exact hlast group _ before heq
    exact if_neg hplace

theorem Reaches.memory (h : Reaches src pieces ⟨st, none, outer⟩) (hstray : NoStrayBrace pieces) :
    Memory src pieces outer st := by
  have hremembers : Remembers src pieces st := h.coheres.remembers
  exact
    { braces := hremembers.braces
      encloses := h.coheres.encloses
      length_braces := by
        rw [hremembers.braces, List.length_map]
        exact hstray.length_openers
      parens := hremembers.parens
      classified := by
        intro group place flag hmem
        obtain ⟨later, before, hsplit⟩ := List.append_of_mem (mem_of_mem_openers hmem)
        have hsuffix : .opener group place flag :: before <:+ pieces := ⟨later, hsplit.symm⟩
        obtain ⟨at_opener, around, hreaches, hplace, hclassify⟩ := h.exists_classify hsuffix
        exact ⟨before, at_opener, around, hsuffix, hreaches, hplace, hclassify⟩
      closes := by
        intro b _ hb hnext
        obtain ⟨hpiece, hturn⟩ := turn_closing src st hb
        obtain ⟨opener, around, hopeners⟩ := (hpiece ▸ hnext).exists_opener
        have hbraces : st.braces = opener.flag :: around.map Piece.flag := by
          rw [hremembers.braces, hopeners, List.map_cons]
        exact ⟨opener, around, hopeners, hbraces, by rw [hturn, hbraces]; rfl⟩
      prev := hremembers.prev
      closed := by
        intro place b hprev hb hclosing
        obtain ⟨group, before, hlast⟩ := hremembers.exists_closer hprev hb hclosing
        exact ⟨group, before, hlast, hremembers.regexAllowed_of_closer hlast⟩
      stale := hremembers.regexAllowed_of_stale }

/-- Every search that a scanner makes leads from one head of its loops over code to another, outside
of all substitutions. At every such head, here and inside of substitutions, the scanner remembers
what looking back through the pieces that it has passed finds, as long as none of them is a stray
closing brace. A template that was skipped leaves the stack of braces as it was. -/
theorem scanner_remembers_open_groups (src : List UInt8) :
    (∀ st, Searched src st → ∃ pieces, Reaches src pieces ⟨st, none, []⟩) ∧
      (∀ pieces outer st, Reaches src pieces ⟨st, none, outer⟩ → NoStrayBrace pieces →
        Memory src pieces outer st) ∧
      ∀ start st next, skipTemplate src start st = .ok next → next.braces = st.braces :=
  ⟨fun _ h ↦ h.exists_reaches, fun _ _ _ h ↦ h.memory,
    fun _ _ _ h ↦ (course_braces src).of_skipTemplate h⟩

/-- The brace behind `({` and a template with the parentheses `()` in a substitution. -/
theorem scanner_remembers_open_groups_in_substitution :
    let src := encode "(\x7b`$\x7b()\x7d`".toList
    let behindBrace : State := { pos := 2, prev := some 1, parens := [false], braces := [true] }
    let behindParens : State :=
      { pos := 7, prev := some 6, parens := [false], braces := [true, true],
        closed := some (6, false) }
    ∃ pieces next, Searched src behindBrace ∧
      (∃ pieces, Reaches src pieces ⟨behindBrace, none, []⟩) ∧
      Reaches src pieces ⟨behindParens, none, [⟨2, 1⟩]⟩ ∧ NoStrayBrace pieces ∧
        Memory src pieces [⟨2, 1⟩] behindParens ∧
          skipTemplate src 2 { behindBrace with pos := 3 } = .ok next ∧
            next.braces = behindBrace.braces := by
  intro src behindBrace behindParens
  let opened : State := { pos := 1, prev := some 0, parens := [false] }
  let inside : State := { pos := 5, parens := [false], braces := [true, true] }
  let nested : State :=
    { pos := 6, prev := some 5, parens := [false, false], braces := [true, true] }
  let left : State :=
    { pos := 8, prev := some 7, parens := [false], braces := [true], closed := some (7, false) }
  have hopen : turn src {} 40 = .ok (.on opened) := rfl
  have hbrace : turn src opened 123 = .ok (.brace .opening behindBrace) := rfl
  have hparen : turn src inside 40 = .ok (.on nested) := rfl
  have hunparen : turn src nested 41 = .ok (.on behindParens) := rfl
  have hunbrace : turn src behindParens 125 = .ok (.brace .closing left) := rfl
  have hreaches : Reaches src [.closer .paren 6, .opener .paren 5 false, .substitution 3,
      .opener .brace 1 true, .opener .paren 0 false] ⟨behindParens, none, [⟨2, 1⟩]⟩ :=
    (((((Reaches.fresh.step (.on rfl hopen)).step (.brace rfl hbrace)).step
      (.enters rfl rfl)).step (.substitutes rfl rfl rfl)).step (.on rfl hparen)).step
        (.on rfl hunparen)
  have hstray : NoStrayBrace [.closer .paren 6, .opener .paren 5 false, .substitution 3,
      .opener .brace 1 true, .opener .paren 0 false] := by
    intro before hbefore
    simp only [List.suffix_cons_iff, List.suffix_nil] at hbefore
    rcases hbefore with rfl | rfl | rfl | rfl | rfl | rfl <;> decide
  have hsearch : nextBrace src {} = .ok (some (1, .opening), behindBrace) := by
    have hfirst : nextBrace src {} = nextBrace src opened := by rw [nextBrace_eq]; rfl
    rw [hfirst, nextBrace_eq]
    rfl
  have hinner : nextBrace src inside = .ok (some (7, .closing), left) := by
    have hfirst : nextBrace src inside = nextBrace src nested := by rw [nextBrace_eq]; rfl
    have hsecond : nextBrace src nested = nextBrace src behindParens := by rw [nextBrace_eq]; rfl
    rw [hfirst, hsecond, nextBrace_eq]
    rfl
  have hsubstitution : skipSubstitution src 2 1 inside = .ok left := by
    rw [skipSubstitution_eq, if_neg (by decide), hinner]
    exact (skipSubstitution_eq src 2 0 left).trans (if_pos rfl)
  have hskip : skipTemplate src 2 { behindBrace with pos := 3 } =
      .ok { left with pos := 9 } := by
    have henter : src[3]? = some 36 := rfl
    rw [skipTemplate_eq]
    simp only [behindBrace, henter]
    rw [if_neg (by decide), if_neg (by decide), if_pos (by decide),
      show skipSubstitution src 2 1 _ = .ok left from hsubstitution]
    exact (skipTemplate_eq src 2 left).trans rfl
  obtain ⟨hsearched, hmemory, hbraces⟩ := scanner_remembers_open_groups src
  exact ⟨_, _, .next .fresh hsearch, hsearched _ (.next .fresh hsearch), hreaches, hstray,
    hmemory _ _ _ hreaches hstray, hskip, hbraces 2 { behindBrace with pos := 3 } _ hskip⟩

end BrowserScript.Wrapper.Bytes
