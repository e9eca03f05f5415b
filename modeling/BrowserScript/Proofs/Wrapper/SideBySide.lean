import BrowserScript.Proofs.Wrapper.WrapperShape

/-!
Two texts in pieces, read side by side. Where the scanner passes a structural brace in a piece of
the one text, it passes the same brace in that piece of the other one, and both are read to their
ends. Whether a text is a wrapper depends on the kinds of its braces only (`depth_of_kinds`,
`StaysOpen.of_kinds`), so both texts are wrappers or none is, and the two bodies are made of the
same pieces (`ReadInPieces.exists_inner`).
-/

set_option autoImplicit false
set_option relaxedAutoImplicit false

namespace BrowserScript.Wrapper

open Text

/-- From one state in front of one text there is one step. -/
theorem Step.unique {s next next' : ScanState} {n : Nat} {read read' rest rest' : List Char}
    {brace brace' : Option Brace} (h : Step s n read rest brace next)
    (h' : Step s n read' rest' brace' next') (htext : read ++ rest = read' ++ rest') :
    read = read' ∧ rest = rest' ∧ brace = brace' ∧ next = next' := by
  have hmove := move_append_of_step h
  rw [htext, move_append_of_step h'] at hmove
  have hsame : brace = brace' ∧ next = next' ∧ rest = rest' := by
    cases brace <;> cases brace' <;> simp [Move.onward] at hmove <;> simp [hmove]
  obtain ⟨rfl, rfl, rfl⟩ := hsame
  exact ⟨List.append_cancel_right htext, rfl, rfl, rfl⟩

/-! ### Kinds of braces -/

theorem depth_of_kinds {braces braces' : List (Nat × Brace)}
    (h : braces.map Prod.snd = braces'.map Prod.snd) : depth braces = depth braces' := by
  induction braces generalizing braces' with
  | nil =>
    rw [List.map_nil, eq_comm, List.map_eq_nil_iff] at h
    rw [h]
  | cons b braces ih =>
    rw [List.map_cons, eq_comm, List.map_eq_cons_iff] at h
    obtain ⟨⟨place, passed⟩, later, rfl, rfl, hlater⟩ := h
    obtain ⟨place', passed'⟩ := b
    cases passed' <;> simp only [depth, ih hlater.symm]

theorem StaysOpen.of_kinds {d : Nat} {braces braces' : List (Nat × Brace)}
    (h : StaysOpen d braces) (hkinds : braces.map Prod.snd = braces'.map Prod.snd) :
    StaysOpen d braces' := by
  intro part hpart
  have hprefix : part.map Prod.snd <+: braces.map Prod.snd := by
    rw [hkinds]
    exact hpart.map Prod.snd
  obtain ⟨part', hpart', hsame⟩ := List.prefix_map_iff.mp hprefix
  rw [depth_of_kinds hsame]
  exact h part' hpart'

/-! ### Pieces -/

/-- A piece of a text, the piece of another text that belongs to it, and the structural brace that
both are, if they are one. -/
structure Piece where
  first : List Char
  second : List Char
  brace : Option Brace := none

variable {side side' : Piece → List Char} {pieces before after : List Piece} {n : Nat}

/-- One of the two texts that pieces make up. -/
def sideText (side : Piece → List Char) (pieces : List Piece) : List Char := pieces.flatMap side

/-- The braces of one of the two texts, which starts at the byte `n`. -/
def placedBraces (side : Piece → List Char) : Nat → List Piece → List (Nat × Brace)
  | _, [] => []
  | n, p :: pieces =>
    shiftBraces n (bracePassed p.brace) ++ placedBraces side (n + byteSize (side p)) pieces

@[simp] theorem sideText_cons (side : Piece → List Char) (p : Piece) (pieces : List Piece) :
    sideText side (p :: pieces) = side p ++ sideText side pieces :=
  List.flatMap_cons

@[simp] theorem sideText_append (side : Piece → List Char) (before after : List Piece) :
    sideText side (before ++ after) = sideText side before ++ sideText side after :=
  List.flatMap_append

theorem placedBraces_append (side : Piece → List Char) (n : Nat) (before after : List Piece) :
    placedBraces side n (before ++ after) =
      placedBraces side n before ++
        placedBraces side (n + byteSize (sideText side before)) after := by
  induction before generalizing n with
  | nil => rfl
  | cons p before ih => simp [placedBraces, ih, Nat.add_assoc]

theorem kinds_placedBraces (side : Piece → List Char) (n : Nat) (pieces : List Piece) :
    (placedBraces side n pieces).map Prod.snd = pieces.filterMap Piece.brace := by
  induction pieces generalizing n with
  | nil => rfl
  | cons p pieces ih =>
    rw [placedBraces, List.map_append, ih]
    cases hbrace : p.brace <;> simp [bracePassed, hbrace]

/-- A brace of pieces is one of the pieces. -/
theorem exists_split_of_placedBraces {place : Nat} {passed : Brace}
    {first later : List (Nat × Brace)}
    (h : placedBraces side n pieces = first ++ (place, passed) :: later) :
    ∃ before p after, pieces = before ++ p :: after ∧ placedBraces side n before = first ∧
      p.brace = some passed ∧ place = n + byteSize (sideText side before) ∧
        placedBraces side (place + byteSize (side p)) after = later := by
  induction pieces generalizing n first with
  | nil => simp [placedBraces] at h
  | cons p pieces ih =>
    cases hbrace : p.brace with
    | none =>
      rw [placedBraces, hbrace] at h
      obtain ⟨before, q, after, rfl, rfl, hq, rfl, rfl⟩ := ih h
      refine ⟨p :: before, q, after, rfl, ?_, hq, ?_, rfl⟩
      · rw [placedBraces, hbrace]
        rfl
      · rw [sideText_cons, byteSize_append, Nat.add_assoc]
    | some b =>
      rw [placedBraces, hbrace] at h
      cases first with
      | nil =>
        obtain ⟨hhead, rfl⟩ := List.cons.inj h
        obtain ⟨rfl, rfl⟩ := Prod.mk.inj hhead
        exact ⟨[], p, pieces, rfl, rfl, hbrace, rfl, rfl⟩
      | cons f first =>
        obtain ⟨rfl, hlater⟩ := List.cons.inj h
        obtain ⟨before, q, after, rfl, rfl, hq, rfl, rfl⟩ := ih hlater
        refine ⟨p :: before, q, after, rfl, ?_, hq, ?_, rfl⟩
        · rw [placedBraces, hbrace]
          rfl
        · rw [sideText_cons, byteSize_append, Nat.add_assoc]

/-! ### Reading in pieces -/

/-- One of the two texts is read to its end, and its structural braces are those of the pieces. -/
def ReadInPieces (side : Piece → List Char) (s : ScanState) (n : Nat) (pieces : List Piece) :
    Prop :=
  scanBraces s n (sideText side pieces) = ⟨placedBraces side n pieces, none⟩

variable {s next : ScanState} {p q : Piece}

theorem readInPieces_nil (houter : s.templates = []) : ReadInPieces side s n [] :=
  scanBraces_of_stop (move_eq_stop_none_iff.mpr ⟨rfl, houter⟩)

theorem ReadInPieces.cons (h : ReadInPieces side next (n + byteSize (side p)) pieces)
    (hrun : Run s n (side p) (sideText side pieces) (bracePassed p.brace) next) :
    ReadInPieces side s n (p :: pieces) := by
  rw [ReadInPieces, sideText_cons, scanBraces_append_of_run hrun, h]
  rfl

/-- Pieces that are braces are those braces, and nothing else. -/
def BracePieces (side : Piece → List Char) (pieces : List Piece) : Prop :=
  ∀ p ∈ pieces, ∀ b, p.brace = some b → side p = [b.char]

/-- Assumes: pieces with an opening brace, behind which no more is closed than opened up to a
closing brace, and all is closed there, and no other braces around. The text has the body between
the two. -/
theorem ReadInPieces.functionBody {front inside back : List Piece} {m : Nat}
    (h : ReadInPieces side {} 0 (front ++ p :: (inside ++ q :: back)))
    (hbraces : BracePieces side (front ++ p :: (inside ++ q :: back)))
    (hopening : p.brace = some .opening) (hclosing : q.brace = some .closing)
    (hfront : front.filterMap Piece.brace = []) (hback : back.filterMap Piece.brace = [])
    (hopen : StaysOpen 0 (placedBraces side' m inside))
    (hdepth : depth (placedBraces side' m inside) = 0) :
    functionBody (sideText side (front ++ p :: (inside ++ q :: back))) =
      .ok (sideText side inside) := by
  have hp : side p = ['\x7b'] := hbraces p (by simp) _ hopening
  have hq : side q = ['\x7d'] := hbraces q (by simp) _ hclosing
  have hnone : ∀ {part : List Piece} {k : Nat}, part.filterMap Piece.brace = [] →
      placedBraces side k part = [] := fun {part k} hpart ↦ by
    rwa [← kinds_placedBraces side k part, List.map_eq_nil_iff] at hpart
  have hplaced : placedBraces side 0 (front ++ p :: (inside ++ q :: back)) =
      (byteSize (sideText side front), .opening) ::
        (placedBraces side (byteSize (sideText side front) + 1) inside ++
          [(byteSize (sideText side front) + 1 + byteSize (sideText side inside), .closing)]) := by
    simp [placedBraces_append, placedBraces, hnone hfront, hnone hback, hp, hq, hopening, hclosing,
      bracePassed]
  have hkinds : (placedBraces side' m inside).map Prod.snd =
      (placedBraces side (byteSize (sideText side front) + 1) inside).map Prod.snd := by
    rw [kinds_placedBraces, kinds_placedBraces]
  have hreturn : ReturnsAt ((byteSize (sideText side front), .opening) ::
      placedBraces side (byteSize (sideText side front) + 1) inside)
      (byteSize (sideText side front) + 1 + byteSize (sideText side inside), .closing) :=
    returnsAt_opening_cons_iff.mpr
      ⟨hopen.of_kinds hkinds, (depth_of_kinds hkinds).symm.trans hdepth, rfl⟩
  have hpair : Verdict (structuralBraces (sideText side (front ++ p :: (inside ++ q :: back))))
      (.ok (byteSize (sideText side front),
        byteSize (sideText side front) + 1 + byteSize (sideText side inside))) :=
    .pair ((congrArg BraceTrace.braces h).trans hplaced) hreturn (congrArg BraceTrace.failure h)
  have htext : sideText side (front ++ p :: (inside ++ q :: back)) =
      sideText side front ++ '\x7b' :: (sideText side inside ++ '\x7d' :: sideText side back) := by
    simp [hp, hq]
  rw [htext] at hpair ⊢
  exact functionBody_of_pair hpair

/-- Assumes: two texts in pieces, with the same braces. If the one is a wrapper, so is the other,
and the pieces of the one body are those of the other. -/
theorem ReadInPieces.exists_inner {body : List Char} (h : ReadInPieces side {} 0 pieces)
    (h' : ReadInPieces side' {} 0 pieces) (hbraces : BracePieces side pieces)
    (hbraces' : BracePieces side' pieces)
    (hbody : Wrapper.functionBody (sideText side pieces) = .ok body) :
    ∃ inner, inner <:+: pieces ∧ body = sideText side inner ∧
      Wrapper.functionBody (sideText side' pieces) = .ok (sideText side' inner) := by
  obtain ⟨before, after, -, hpair⟩ := exists_split_of_functionBody hbody
  obtain ⟨inner, hplaced, hreturn, -⟩ := hpair.exists_inner
  rw [structuralBraces, h] at hplaced
  obtain ⟨front, p, tail, rfl, hfront, hopening, -, htail⟩ :=
    exists_split_of_placedBraces (hplaced.trans (List.nil_append _).symm)
  obtain ⟨inside, q, back, rfl, rfl, hclosing, -, hback⟩ := exists_split_of_placedBraces htail
  obtain ⟨hopen, hdepth, -⟩ := returnsAt_opening_cons_iff.mp hreturn
  have hkinds : ∀ {k : Nat} {part : List Piece}, placedBraces side k part = [] →
      part.filterMap Piece.brace = [] := fun hnone ↦ by
    rw [← kinds_placedBraces side, hnone]
    rfl
  have hinside :=
    h.functionBody hbraces hopening hclosing (hkinds hfront) (hkinds hback) hopen hdepth
  rw [hbody, Except.ok.injEq] at hinside
  exact ⟨inside, ⟨front ++ [p], q :: back, by simp⟩, hinside,
    h'.functionBody hbraces' hopening hclosing (hkinds hfront) (hkinds hback) hopen hdepth⟩

end BrowserScript.Wrapper
