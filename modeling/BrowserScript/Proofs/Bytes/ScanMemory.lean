import Mathlib
import BrowserScript.Proofs.Bytes.ScanHistory

/-!
The memory of the scanner on bytes. At the head of a loop its two stacks hold a flag for each group
that is open, which is the one that was found at the opener, its place is that of the last piece,
and its note on the last closer is what looking back for the opener of that closer finds
(`Reaches.remembers`). Every search for a brace goes from head to head (`Searched.exists_reaches`).
-/

set_option autoImplicit false
set_option relaxedAutoImplicit false

namespace BrowserScript.Wrapper.Bytes

open Text

variable {src : List UInt8} {st next : State} {b : UInt8} {start place : Nat}
  {outer : List OpenTemplate} {group : Group} {piece : Piece} {pieces before : List Piece}
  {t : Turn} {head head' : Head} {flag : Bool}

/-! ### Turns of code -/

/-- All that the scanner does at a byte of code other than a backtick. -/
inductive TurnsOver (src : List UInt8) (st : State) (b : UInt8) : Piece → Turn → Prop
  | blank {pos : Nat} (hb : isSpace (asChar b) ∨ asChar b = '/') :
    TurnsOver src st b (.blank st.pos) (.on { st with pos := pos })
  | literal {pos : Nat} (hb : asChar b ∈ ['\'', '"', '`', '/']) :
    TurnsOver src st b (.literal st.pos) (.on (st.passLiteral pos))
  | byte (hspace : isSpace (asChar b) = false)
    (hb : asChar b ∉ ['\'', '"', '`', '(', ')', '\x7b', '\x7d']) :
    TurnsOver src st b (.byte st.pos) (.on (st.passLiteral (st.pos + 1)))
  | openParen {flag : Bool} (hb : asChar b = '(') (hflag : opensControlHeader src st = .ok flag) :
    TurnsOver src st b (.opener .paren st.pos flag)
      (.on { st with parens := flag :: st.parens, prev := some st.pos, pos := st.pos + 1 })
  | closeParen (hb : asChar b = ')') :
    TurnsOver src st b (.closer .paren st.pos)
      (.on { st with
        parens := st.parens.tail
        closed := some (st.pos, st.parens.headD false)
        prev := some st.pos
        pos := st.pos + 1 })
  | openBrace {flag : Bool} (hb : asChar b = '\x7b') (hflag : opensObject src st = .ok flag) :
    TurnsOver src st b (.opener .brace st.pos flag)
      (.brace .opening
        { st with braces := flag :: st.braces, prev := some st.pos, pos := st.pos + 1 })
  | closeBrace (hb : asChar b = '\x7d') :
    TurnsOver src st b (.closer .brace st.pos)
      (.brace .closing { st with
        braces := st.braces.tail
        closed := some (st.pos, !st.braces.headD false)
        prev := some st.pos
        pos := st.pos + 1 })

theorem pass_eq_passLiteral {c : Char} (hb : asChar b = c) (hc : isSpace c = false) (st : State) :
    st.pass b = st.passLiteral (st.pos + 1) := by
  rw [State.pass, hb, hc]
  rfl

theorem turnsOver_of_slashTurn (hslash : asChar b = '/') (h : slashTurn src st b = .ok t) :
    TurnsOver src st b (pieceAt src st b) t := by
  unfold slashTurn at h
  simp only [bind, Except.bind, pure, Except.pure] at h
  have hpiece : pieceAt src st b =
      if src[st.pos + 1]?.any (asChar · = '/') ∨ src[st.pos + 1]?.any (asChar · = '*') then
        .blank st.pos
      else if (regexAllowed src st).toOption = some true then .literal st.pos
      else .byte st.pos := by
    simp [pieceAt, hslash]
  rw [hpiece]
  split at h
  · next hline =>
    rw [if_pos (.inl hline)]
    split at h <;> cases h
    exact .blank (.inr hslash)
  · next hline =>
    split at h
    · next hblock =>
      rw [if_pos (.inr hblock)]
      split at h <;> cases h
      exact .blank (.inr hslash)
    · next hblock =>
      rw [if_neg (not_or.mpr ⟨hline, hblock⟩)]
      split at h
      · cases h
      · next allowed hallowed =>
        split at h
        · next htrue =>
          rw [if_pos (by rw [hallowed, htrue]; rfl)]
          split at h <;> cases h
          exact .literal (by simp [hslash])
        · next hfalse =>
          rw [if_neg (by simpa [hallowed, Except.toOption] using hfalse)]
          cases h
          rw [pass_eq_passLiteral hslash (by decide)]
          exact .byte (by rw [hslash]; decide) (by rw [hslash]; decide)

/-- A turn at a byte that neither is part of a group nor starts a literal or a comment. -/
theorem turnsOver_of_pass (hb : asChar b ∉ ['\'', '"', '`', '(', ')', '\x7b', '\x7d']) :
    TurnsOver src st b (if isSpace (asChar b) then .blank st.pos else .byte st.pos)
      (.on (st.pass b)) := by
  cases hspace : isSpace (asChar b) with
  | true =>
    rw [State.pass, hspace]
    exact .blank (.inl hspace)
  | false =>
    rw [pass_eq_passLiteral rfl hspace]
    exact .byte hspace hb

/-- A turn enters a template, at a backtick, or passes a piece. -/
theorem template_or_turnsOver (h : turn src st b = .ok t) :
    (t = .template ∧ asChar b = '`') ∨ TurnsOver src st b (pieceAt src st b) t := by
  by_cases hquote : asChar b = '\'' ∨ asChar b = '"'
  · right
    rw [turn, if_pos hquote] at h
    rw [pieceAt, if_pos hquote]
    simp only [bind, Except.bind, pure, Except.pure] at h
    split at h <;> cases h
    exact .literal (by rcases hquote with h | h <;> simp [h])
  rw [turn, if_neg hquote] at h
  by_cases htick : asChar b = '`'
  · rw [if_pos htick] at h
    cases h
    exact .inl ⟨rfl, htick⟩
  right
  rw [if_neg htick] at h
  by_cases hslash : asChar b = '/'
  · rw [if_pos hslash] at h
    exact turnsOver_of_slashTurn hslash h
  rw [if_neg hslash] at h
  rw [pieceAt, if_neg hquote, if_neg hslash]
  simp only [bind, Except.bind, pure, Except.pure] at h
  by_cases hopen : asChar b = '('
  · rw [if_pos hopen] at h ⊢
    split at h
    · cases h
    · next flag hflag =>
      cases h
      rw [hflag, pass_eq_passLiteral hopen (by decide)]
      cases flag <;> exact .openParen hopen hflag
  rw [if_neg hopen] at h ⊢
  by_cases hclose : asChar b = ')'
  · rw [if_pos hclose] at h ⊢
    cases h
    rw [pass_eq_passLiteral hclose (by decide)]
    exact .closeParen hclose
  rw [if_neg hclose] at h ⊢
  by_cases hbrace : asChar b = '\x7b'
  · rw [if_pos hbrace] at h ⊢
    split at h
    · cases h
    · next flag hflag =>
      cases h
      rw [hflag, pass_eq_passLiteral hbrace (by decide)]
      cases flag <;> exact .openBrace hbrace hflag
  rw [if_neg hbrace] at h ⊢
  by_cases hunbrace : asChar b = '\x7d'
  · rw [if_pos hunbrace] at h ⊢
    cases h
    rw [pass_eq_passLiteral hunbrace (by decide)]
    exact .closeBrace hunbrace
  rw [if_neg hunbrace] at h ⊢
  cases h
  refine turnsOver_of_pass ?_
  simp only [List.mem_cons, List.not_mem_nil, or_false]
  tauto

theorem turnsOver_of_turn (h : turn src st b = .ok t) (ht : t ≠ .template) :
    TurnsOver src st b (pieceAt src st b) t :=
  (template_or_turnsOver h).resolve_left fun htemplate ↦ ht htemplate.1

theorem backtick_of_turn (h : turn src st b = .ok .template) : asChar b = '`' := by
  rcases template_or_turnsOver h with ⟨-, htick⟩ | hover
  · exact htick
  · generalize pieceAt src st b = piece at hover
    cases hover

/-- No group of braces is opened or closed but by the turn at its brace. -/
theorem openers_of_on (pieces : List Piece) (h : turn src st b = .ok (.on next)) :
    openers .brace (pieceAt src st b :: pieces) = openers .brace pieces := by
  have hover := turnsOver_of_turn h Turn.noConfusion
  generalize pieceAt src st b = piece at hover
  cases hover <;> exact openers_cons_of_passes rfl rfl

theorem openers_of_opening (pieces : List Piece) (h : turn src st b = .ok (.brace .opening next)) :
    ∃ flag, openers .brace (pieceAt src st b :: pieces) =
      .opener .brace st.pos flag :: openers .brace pieces := by
  have hover := turnsOver_of_turn h Turn.noConfusion
  generalize pieceAt src st b = piece at hover
  cases hover with
  | openBrace => exact ⟨_, openers_cons_of_opens rfl⟩

theorem openers_of_closing (pieces : List Piece) (h : turn src st b = .ok (.brace .closing next)) :
    openers .brace (pieceAt src st b :: pieces) = (openers .brace pieces).tail := by
  have hover := turnsOver_of_turn h Turn.noConfusion
  generalize pieceAt src st b = piece at hover
  cases hover
  exact openers_cons_of_closes rfl

/-! ### What is remembered -/

/-- A scanner remembers a history. -/
structure Remembers (src : List UInt8) (pieces : List Piece) (st : State) : Prop where
  parens : st.parens = (openers .paren pieces).map Piece.flag
  braces : st.braces = (openers .brace pieces).map Piece.flag
  prev : st.prev = lastPlace pieces
  closed : st.closed = lastClosed pieces
  fits : ∀ piece ∈ pieces, piece.Fits src

theorem headD_map_flag (pieces : List Piece) :
    (pieces.map Piece.flag).headD false = pieces.head?.any Piece.flag := by
  cases pieces <;> rfl

namespace Remembers

theorem fresh : Remembers src [] {} := ⟨rfl, rfl, rfl, rfl, by simp⟩

/-- The position plays no part. -/
theorem at_pos (h : Remembers src pieces st) (pos : Nat) :
    Remembers src pieces { st with pos := pos } :=
  ⟨h.parens, h.braces, h.prev, h.closed, h.fits⟩

theorem fits_cons (h : Remembers src pieces st) (hfits : piece.Fits src) :
    ∀ p ∈ piece :: pieces, p.Fits src :=
  List.forall_mem_cons.mpr ⟨hfits, h.fits⟩

/-- Behind a piece that is no part of a group. -/
theorem passes (h : Remembers src pieces st) (hfits : piece.Fits src)
    (hopens : ∀ group, piece.opens group = false) (hcloses : ∀ group, piece.closes group = false)
    (hprev : next.prev = lastPlace (piece :: pieces)) (hparens : next.parens = st.parens)
    (hbraces : next.braces = st.braces) (hclosed : next.closed = st.closed) :
    Remembers src (piece :: pieces) next where
  parens := by rw [hparens, h.parens, openers_cons_of_passes (hopens _) (hcloses _)]
  braces := by rw [hbraces, h.braces, openers_cons_of_passes (hopens _) (hcloses _)]
  prev := hprev
  closed := by
    rw [hclosed, h.closed]
    cases piece with
    | closer group => exact absurd (hcloses group) (by simp [Piece.closes])
    | _ => rfl
  fits := h.fits_cons hfits

theorem turn (h : Remembers src pieces st) (hb : src[st.pos]? = some b)
    (hturn : Bytes.turn src st b = .ok t) (hnext : t.next? = some next) :
    Remembers src (pieceAt src st b :: pieces) next := by
  have hover := turnsOver_of_turn hturn (by rintro rfl; cases hnext)
  generalize pieceAt src st b = piece at hover ⊢
  cases hover with
  | blank hblank =>
    cases hnext
    exact h.passes ⟨b, hb, hblank⟩ (fun _ ↦ rfl) (fun _ ↦ rfl) h.prev rfl rfl rfl
  | literal hliteral =>
    cases hnext
    exact h.passes ⟨b, hb, hliteral⟩ (fun _ ↦ rfl) (fun _ ↦ rfl) rfl rfl rfl rfl
  | byte hspace hbyte =>
    cases hnext
    exact h.passes ⟨b, hb, hspace, hbyte⟩ (fun _ ↦ rfl) (fun _ ↦ rfl) rfl rfl rfl rfl
  | openParen hparen =>
    cases hnext
    exact
      { parens := by rw [openers_cons_of_opens rfl, List.map_cons, ← h.parens]; rfl
        braces := by rw [openers_cons_of_passes rfl rfl, ← h.braces]
        prev := rfl
        closed := h.closed
        fits := h.fits_cons ⟨b, hb, hparen⟩ }
  | closeParen hparen =>
    cases hnext
    exact
      { parens := by rw [openers_cons_of_closes rfl, List.map_tail, ← h.parens]
        braces := by rw [openers_cons_of_passes rfl rfl, ← h.braces]
        prev := rfl
        closed := by rw [lastClosed, allowsRegex, ← headD_map_flag, ← h.parens]
        fits := h.fits_cons ⟨b, hb, hparen⟩ }
  | openBrace hbrace =>
    cases hnext
    exact
      { parens := by rw [openers_cons_of_passes rfl rfl, ← h.parens]
        braces := by rw [openers_cons_of_opens rfl, List.map_cons, ← h.braces]; rfl
        prev := rfl
        closed := h.closed
        fits := h.fits_cons ⟨b, hb, hbrace⟩ }
  | closeBrace hbrace =>
    cases hnext
    exact
      { parens := by rw [openers_cons_of_passes rfl rfl, ← h.parens]
        braces := by rw [openers_cons_of_closes rfl, List.map_tail, ← h.braces]
        prev := rfl
        closed := by rw [lastClosed, allowsRegex, ← headD_map_flag, ← h.braces]
        fits := h.fits_cons ⟨b, hb, hbrace⟩ }

theorem substitution (h : Remembers src pieces st) (hb : src[st.pos]? = some b)
    (hdollar : asChar b = '$') :
    Remembers src (.substitution st.pos :: pieces)
      { st with pos := st.pos + 2, prev := none, braces := true :: st.braces } where
  parens := by rw [openers_cons_of_passes rfl rfl, ← h.parens]
  braces := by rw [openers_cons_of_opens rfl, List.map_cons, ← h.braces]; rfl
  prev := rfl
  closed := h.closed
  fits := h.fits_cons ⟨b, hb, hdollar⟩

/-- Behind a closing byte the last piece is the closer. -/
theorem exists_closer (h : Remembers src pieces st) (hprev : st.prev = some place)
    (hb : src[place]? = some b) (hclosing : asChar b = ')' ∨ asChar b = '\x7d') :
    ∃ group before, significant pieces = .closer group place :: before := by
  rw [h.prev, lastPlace] at hprev
  cases hlast : significant pieces with
  | nil => simp [hlast] at hprev
  | cons piece before =>
    rw [hlast, List.head?_cons, Option.bind_some] at hprev
    have hfits := h.fits piece (mem_of_mem_significant (hlast ▸ List.mem_cons_self))
    cases piece with
    | blank | substitution => cases hprev
    | closer group =>
      cases hprev
      exact ⟨group, before, rfl⟩
    | literal | byte =>
      cases hprev
      rcases hclosing with hclosing | hclosing <;> simp [Piece.Fits, hb, hclosing] at hfits
    | opener group =>
      cases hprev
      rcases hclosing with hclosing | hclosing <;> cases group <;>
        simp [Piece.Fits, Group.opening, hb, hclosing] at hfits

/-- The note on the last closer is for the place that is remembered only right behind a closer. -/
theorem exists_closer_of_closed (h : Remembers src pieces st) (hprev : st.prev = some place)
    (hclosed : st.closed = some (place, flag)) :
    ∃ group before, significant pieces = .closer group place :: before := by
  obtain ⟨group, hmem⟩ := exists_closer_of_lastClosed (h.closed ▸ hclosed)
  obtain ⟨b, hb, hclosing⟩ := h.fits _ hmem
  refine h.exists_closer hprev hb ?_
  cases group
  · exact .inl hclosing
  · exact .inr hclosing

end Remembers

/-! ### Substitutions around -/

def IsBrace (piece : Piece) : Prop := ∃ place flag, piece = .opener .brace place flag

/-- The groups of braces that are open, by the substitutions around: those of the innermost
substitution, which are one less than it counts, then its own mark, then those around it. -/
inductive Encloses : List OpenTemplate → List Piece → Prop
  | code {opened : List Piece} (hopened : ∀ piece ∈ opened, IsBrace piece) : Encloses [] opened
  | substitution {start place : Nat} {outer : List OpenTemplate} {inner around : List Piece}
    (hinner : ∀ piece ∈ inner, IsBrace piece) (h : Encloses outer around) :
    Encloses (⟨start, inner.length + 1⟩ :: outer) (inner ++ .substitution place :: around)

namespace Encloses

variable {opened : List Piece} {depth : Nat}

theorem open_code (h : Encloses [] opened) (hpiece : IsBrace piece) :
    Encloses [] (piece :: opened) := by
  cases h with
  | code hopened => exact .code (List.forall_mem_cons.mpr ⟨hpiece, hopened⟩)

theorem close_code (h : Encloses [] opened) : Encloses [] opened.tail := by
  cases h with
  | code hopened => exact .code fun piece hmem ↦ hopened piece (List.mem_of_mem_tail hmem)

theorem open_inner (h : Encloses (⟨start, depth⟩ :: outer) opened) (hpiece : IsBrace piece) :
    Encloses (⟨start, depth + 1⟩ :: outer) (piece :: opened) := by
  cases h with
  | substitution hinner haround =>
    exact .substitution (List.forall_mem_cons.mpr ⟨hpiece, hinner⟩) haround

theorem close_inner (h : Encloses (⟨start, depth + 2⟩ :: outer) opened) :
    Encloses (⟨start, depth + 1⟩ :: outer) opened.tail := by
  generalize hcount : depth + 2 = count at h
  cases h with
  | @substitution _ _ _ inner _ hinner haround =>
    cases inner with
    | nil => simp at hcount
    | cons piece inner =>
      cases hcount
      exact .substitution (List.forall_mem_cons.mp hinner).2 haround

/-- The brace that ends a substitution closes its mark. -/
theorem leave (h : Encloses (⟨start, 1⟩ :: outer) opened) : Encloses outer opened.tail := by
  generalize hcount : 1 = count at h
  cases h with
  | @substitution _ _ _ inner _ hinner haround =>
    cases inner with
    | nil => exact haround
    | cons piece inner => simp at hcount

end Encloses

/-! ### Steps and runs -/

/-- The templates of a head start with a backtick. -/
def Head.FitsTemplates (src : List UInt8) (head : Head) : Prop :=
  ∀ start ∈ head.template.toList ++ head.outer.map OpenTemplate.start,
    ∃ b, src[start]? = some b ∧ asChar b = '`'

/-- What is remembered at a head, and the substitutions around it, cohere with its history. -/
structure Coheres (src : List UInt8) (pieces : List Piece) (head : Head) : Prop where
  remembers : Remembers src pieces head.state
  encloses : Encloses head.outer (openers .brace pieces)
  templates : head.FitsTemplates src

theorem Coheres.fresh : Coheres src [] {} where
  remembers := .fresh
  encloses := .code (by simp [openers, openersAround])
  templates := by simp [Head.FitsTemplates]

theorem Coheres.step {piece : Option Piece} (h : Coheres src pieces head)
    (hstep : Step src head piece head') : Coheres src (piece.toList ++ pieces) head' := by
  obtain ⟨hremembers, hencloses, htemplates⟩ := h
  cases hstep with
  | on hb hturn =>
    exact ⟨hremembers.turn hb hturn rfl, (openers_of_on pieces hturn).symm ▸ hencloses, htemplates⟩
  | @brace _ _ _ brace hb hturn =>
    refine ⟨hremembers.turn hb hturn rfl, ?_, htemplates⟩
    cases brace with
    | opening =>
      obtain ⟨flag, hopeners⟩ := openers_of_opening pieces hturn
      exact hopeners ▸ hencloses.open_code ⟨_, _, rfl⟩
    | closing => exact openers_of_closing pieces hturn ▸ hencloses.close_code
  | opens hb hturn =>
    obtain ⟨flag, hopeners⟩ := openers_of_opening pieces hturn
    exact ⟨hremembers.turn hb hturn rfl, hopeners ▸ hencloses.open_inner ⟨_, _, rfl⟩, htemplates⟩
  | closes hb hturn =>
    exact ⟨hremembers.turn hb hturn rfl,
      openers_of_closing pieces hturn ▸ hencloses.close_inner, htemplates⟩
  | leaves hb hturn =>
    exact ⟨hremembers.turn hb hturn rfl,
      openers_of_closing pieces hturn ▸ hencloses.leave, htemplates⟩
  | enters hb hturn =>
    refine ⟨hremembers.at_pos _, hencloses, ?_⟩
    exact List.forall_mem_cons.mpr ⟨⟨_, hb, backtick_of_turn hturn⟩, htemplates⟩
  | escape | char => exact ⟨hremembers.at_pos _, hencloses, htemplates⟩
  | @substitutes st _ _ _ hb hdollar =>
    have hopeners : openers .brace (.substitution st.pos :: pieces) = _ := openers_cons_of_opens rfl
    have hinner : ∀ piece ∈ ([] : List Piece), IsBrace piece := by simp
    exact ⟨hremembers.substitution hb hdollar, hopeners ▸ .substitution hinner hencloses,
      htemplates⟩
  | @ends _ start =>
    obtain ⟨⟨tick, htick, hchar⟩, hstarts⟩ := List.forall_mem_cons.mp htemplates
    have hopeners : openers .brace (.literal start :: pieces) = openers .brace pieces :=
      openers_cons_of_passes rfl rfl
    exact ⟨hremembers.passes ⟨tick, htick, by simp [hchar]⟩ (fun _ ↦ rfl) (fun _ ↦ rfl) rfl rfl rfl
      rfl, hopeners.symm ▸ hencloses, hstarts⟩

/-- What an opener is taken for where it stands. -/
def classify (src : List UInt8) (st : State) : Group → Except Stop Bool
  | .paren => opensControlHeader src st
  | .brace => opensObject src st

theorem classify_of_turn (hturn : turn src st b = .ok t) (ht : t ≠ .template)
    (hpiece : .opener group place flag = pieceAt src st b) :
    st.pos = place ∧ classify src st group = .ok flag := by
  have hover := turnsOver_of_turn hturn ht
  rw [← hpiece] at hover
  cases hover with
  | openParen _ hflag | openBrace _ hflag => exact ⟨rfl, hflag⟩

/-- Each opener of a history is taken for what it was taken for at the head that it was read at. -/
theorem Reaches.exists_classify (h : Reaches src pieces head)
    (hopener : .opener group place flag :: before <:+ pieces) :
    ∃ st outer, Reaches src before ⟨st, none, outer⟩ ∧ st.pos = place ∧
      classify src st group = .ok flag := by
  induction h with
  | fresh => cases List.suffix_nil.mp hopener
  | @step pieces _ _ piece hreaches hstep ih =>
    cases piece with
    | none => exact ih hopener
    | some piece =>
      rcases List.suffix_cons_iff.mp hopener with heq | hsuffix
      · cases hstep with
        | on _ hturn | brace _ hturn | opens _ hturn | closes _ hturn | leaves _ hturn =>
          obtain ⟨hpiece, rfl⟩ := List.cons.inj heq
          exact ⟨_, _, hreaches, classify_of_turn hturn Turn.noConfusion hpiece⟩
        | substitutes | ends => cases heq
      · exact ih hsuffix

/-- At every head that is reached, what is remembered coheres with the history. -/
theorem Reaches.coheres (h : Reaches src pieces head) : Coheres src pieces head := by
  induction h with
  | fresh => exact .fresh
  | step _ hstep ih => exact ih.step hstep

end BrowserScript.Wrapper.Bytes
