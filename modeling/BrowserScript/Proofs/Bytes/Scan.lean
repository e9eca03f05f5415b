import BrowserScript.Proofs.Bytes.Coupling

/-!
The scan of the bytes of a text, followed by the scanner on characters. The scanner on bytes reads a
template by a call of its own and a substitution by another one, where the scanner on characters
keeps the templates around the place in its state. `Finds`, `Leaves` and `Closes` say what a search
for a brace, the reading of a substitution, and that of template text come to, in moves of the
scanner on characters from the same place. Each of the three rests on the other two for shorter
texts, so they are proved together, by induction on the length of the text (`follows`).
-/

set_option autoImplicit false
set_option relaxedAutoImplicit false

namespace BrowserScript.Wrapper.Bytes

open Text

variable {src : List UInt8} {st : State} {s : ScanState} {c : Char} {text rest : List Char}

/-! ### Moves that pass no structural brace -/

/-- From one place to another over moves that pass no structural brace. -/
inductive Passes : ScanState → Place → ScanState → Place → Prop
  | refl (s : ScanState) (p : Place) : Passes s p s p
  | move {s middle next : ScanState} {p q r : Place}
    (hmove : s.move p.offset p.rest = .pass middle q) (hlater : Passes middle q next r) :
    Passes s p next r

variable {middle next : ScanState} {p q r : Place}

theorem Passes.trans (hfirst : Passes s p middle q) (hsecond : Passes middle q next r) :
    Passes s p next r := by
  induction hfirst with
  | refl => exact hsecond
  | move hmove _ ih => exact .move hmove (ih hsecond)

theorem Passes.length_le (h : Passes s p next q) : q.rest.length ≤ p.rest.length := by
  induction h with
  | refl => exact Nat.le_refl _
  | move hmove _ ih =>
    exact Nat.le_trans ih (Nat.le_of_lt (ScanState.move_rest_lt (by rw [hmove]; rfl)))

theorem scanBraces_of_passes (h : Passes s p next q) :
    scanBraces s p.offset p.rest = scanBraces next q.offset q.rest := by
  induction h with
  | refl => rfl
  | move hmove _ ih =>
    rw [← ih, scanBraces_of_onward (show _ = Move.onward none _ _ from hmove)]
    rfl

/-! ### What the scanners come to -/

/-- The state behind a brace, as to everything but templates. -/
def behindBrace (s : ScanState) : Brace → ScanState
  | .opening => s.openBrace
  | .closing => s.closeBrace

/-- What a search for the next brace comes to, from a place on. -/
inductive Finds (src : List UInt8) (s : ScanState) (p : Place) :
    Except Stop (Option (Nat × Brace) × State) → Prop
  | brace {b : Brace} {middle : ScanState} {place : Nat} {rest : List Char} {next : State}
    (hpasses : Passes s p middle ⟨place, b.char :: rest⟩)
    (htemplates : middle.templates = s.templates) (hpos : next.pos = place + 1)
    (hcouples : Couples src next (behindBrace middle b) rest) :
    Finds src s p (.ok (some (place, b), next))
  | ended {middle : ScanState} {place : Nat} {next : State}
    (hpasses : Passes s p middle ⟨place, []⟩) (htemplates : middle.templates = s.templates) :
    Finds src s p (.ok (none, next))
  | stopped {middle : ScanState} {q : Place} {kind : LiteralKind} {start : Nat}
    (hpasses : Passes s p middle q)
    (hstop : middle.move q.offset q.rest = .stop (some ⟨kind, start⟩)) :
    Finds src s p (.error (.unterminated kind start))

/-- What the reading of a substitution comes to, in the template that starts at `start` inside of
others. -/
inductive Leaves (src : List UInt8) (s : ScanState) (start : Nat) (outer : List OpenTemplate)
    (p : Place) : Except Stop State → Prop
  | left {middle : ScanState} {place : Nat} {rest : List Char} {next : State}
    (hpasses : Passes s p middle ⟨place, '\x7d' :: rest⟩)
    (htemplates : middle.templates = ⟨start, 0⟩ :: outer) (hpos : next.pos = place + 1)
    (hcouples : Couples src next middle.closeBrace rest) : Leaves src s start outer p (.ok next)
  | stopped {middle : ScanState} {q : Place} {kind : LiteralKind} {place : Nat}
    (hpasses : Passes s p middle q)
    (hstop : middle.move q.offset q.rest = .stop (some ⟨kind, place⟩)) :
    Leaves src s start outer p (.error (.unterminated kind place))

/-- What the reading of template text comes to, from the move on that reads it first. -/
inductive Closes (src : List UInt8) (templates : List OpenTemplate) (start : Nat) (m : Move) :
    Except Stop State → Prop
  | closed {entered middle : ScanState} {p : Place} {rest : List Char} {next : State}
    (hmove : m = .pass entered p) (hpasses : Passes entered p middle ⟨next.pos, rest⟩)
    (htemplates : middle.templates = templates)
    (hcouples : Couples src { next with prev := some start } middle rest) :
    Closes src templates start m (.ok next)
  | unterminated (hmove : m = .stop (some ⟨.template, start⟩)) :
    Closes src templates start m (.error (.unterminated .template start))
  | stopped {entered middle : ScanState} {p q : Place} {kind : LiteralKind} {place : Nat}
    (hmove : m = .pass entered p) (hpasses : Passes entered p middle q)
    (hstop : middle.move q.offset q.rest = .stop (some ⟨kind, place⟩)) :
    Closes src templates start m (.error (.unterminated kind place))

/-- A move in front of a search. -/
theorem Finds.of_pass {result : Except Stop (Option (Nat × Brace) × State)}
    (h : Finds src middle q result) (hmove : s.move p.offset p.rest = .pass middle q)
    (htemplates : middle.templates = s.templates) : Finds src s p result := by
  cases h with
  | brace hpasses htemplates' hpos hcouples =>
    exact .brace (.move hmove hpasses) (htemplates'.trans htemplates) hpos hcouples
  | ended hpasses htemplates' => exact .ended (.move hmove hpasses) (htemplates'.trans htemplates)
  | stopped hpasses hstop => exact .stopped (.move hmove hpasses) hstop

/-- Moves in front of a search. -/
theorem Finds.of_passes {result : Except Stop (Option (Nat × Brace) × State)}
    (h : Finds src middle q result) (hpasses : Passes s p middle q)
    (htemplates : middle.templates = s.templates) : Finds src s p result := by
  cases h with
  | brace hpasses' htemplates' hpos hcouples =>
    exact .brace (hpasses.trans hpasses') (htemplates'.trans htemplates) hpos hcouples
  | ended hpasses' htemplates' =>
    exact .ended (hpasses.trans hpasses') (htemplates'.trans htemplates)
  | stopped hpasses' hstop => exact .stopped (hpasses.trans hpasses') hstop

theorem Leaves.of_passes {start : Nat} {outer : List OpenTemplate} {result : Except Stop State}
    (h : Leaves src middle start outer q result) (hpasses : Passes s p middle q) :
    Leaves src s start outer p result := by
  cases h with
  | left hpasses' htemplates hpos hcouples =>
    exact .left (hpasses.trans hpasses') htemplates hpos hcouples
  | stopped hpasses' hstop => exact .stopped (hpasses.trans hpasses') hstop

/-- Moves in front of more template text, behind the one that enters a substitution. -/
theorem Closes.of_passes {entered : ScanState} {templates : List OpenTemplate} {start : Nat}
    {m : Move} {result : Except Stop State}
    (h : Closes src templates start (middle.move q.offset q.rest) result)
    (hmove : m = .pass entered p) (hpasses : Passes entered p middle q) :
    Closes src templates start m result := by
  cases h with
  | closed hmove' hpasses' htemplates hcouples =>
    exact .closed hmove (hpasses.trans (.move hmove' hpasses')) htemplates hcouples
  | unterminated hstop => exact .stopped hmove hpasses hstop
  | stopped hmove' hpasses' hstop =>
    exact .stopped hmove (hpasses.trans (.move hmove' hpasses')) hstop

/-- What the three scans come to in texts of less than `n` characters. -/
structure Follows (src : List UInt8) (n : Nat) : Prop where
  finds {st : State} {s : ScanState} {text : List Char} (hlength : text.length < n)
    (h : Couples src st s text) : Finds src s ⟨st.pos, text⟩ (nextBrace src st)
  leaves {st : State} {s : ScanState} {text : List Char} {start depth : Nat}
    {outer : List OpenTemplate} (hlength : text.length < n) (h : Couples src st s text)
    (htemplates : s.templates = ⟨start, depth⟩ :: outer) :
    Leaves src s start outer ⟨st.pos, text⟩ (skipSubstitution src start (depth + 1) st)
  closes {st : State} {s : ScanState} {text : List Char} {start : Nat} (hlength : text.length < n)
    (hstands : Stands src st.pos text) (hpos : st.pos ≤ src.length) (hnests : Nests src st s)
    (hopen : src[start]? = some '`'.toUInt8) :
    Closes src s.templates start
      (s.afterTemplateText start (skipTemplateText st.pos text)) (skipTemplate src start st)

/-! ### The next brace -/

variable {b : UInt8} {n : Nat}

/-- A turn that goes on is a move in front of the search from there. -/
theorem Follows.finds_of_on (ih : Follows src n) {st' : State} {s' : ScanState}
    {rest' : List Char} (hlength : text.length < n + 1) (hb : src[st.pos]? = some b)
    (hturn : turn src st b = .ok (.on st')) (hcouples : Couples src st' s' rest')
    (hmove : s.move st.pos text = .pass s' ⟨st'.pos, rest'⟩)
    (htemplates : s'.templates = s.templates) : Finds src s ⟨st.pos, text⟩ (nextBrace src st) := by
  have hshort : rest'.length < text.length := ScanState.move_rest_lt (by rw [hmove]; rfl)
  have hfinds : Finds src s ⟨st.pos, text⟩ (nextBrace src st') :=
    (ih.finds (by omega) hcouples).of_pass hmove htemplates
  rw [nextBrace_eq, hb]
  simpa only [hturn] using hfinds

/-- A literal without an end stops both scanners. -/
theorem finds_of_stop {kind : LiteralKind} {start : Nat} (hb : src[st.pos]? = some b)
    (hturn : turn src st b = .error (.unterminated kind start))
    (hmove : s.move st.pos text = .stop (some ⟨kind, start⟩)) :
    Finds src s ⟨st.pos, text⟩ (nextBrace src st) := by
  rw [nextBrace_eq, hb]
  simp only [hturn]
  exact .stopped (.refl s _) hmove

theorem Follows.finds_string (ih : Follows src n) (hlength : (c :: rest).length < n + 1)
    (h : Couples src st s (c :: rest)) (hquote : c = '\'' ∨ c = '"') :
    Finds src s ⟨st.pos, c :: rest⟩ (nextBrace src st) := by
  have hform : c.toNat < 128 ∧ c ≠ '\\' ∧ c ≠ '\n' := by
    rcases hquote with rfl | rfl <;> decide
  have hsize := utf8Size_of_ascii hform.1
  have hb := h.stands.getElem?_ascii hform.1
  have hturn : turn src st c.toUInt8 =
      (endOr .stringLiteral st.pos (Wrapper.skipString c (st.pos + 1) rest)).bind
        fun pos ↦ .ok (.on (st.passLiteral pos)) := by
    rw [turn, asChar_toUInt8 hform.1, if_pos hquote,
      skipString_eq hform.1 (h.stands.tail_ascii hform.1)]
    rfl
  cases hskip : Wrapper.skipString c (st.pos + 1) rest with
  | none =>
    rw [hskip] at hturn
    refine finds_of_stop hb hturn ?_
    rw [ScanState.move, if_pos hquote, hskip]
  | some p =>
    rw [hskip] at hturn
    obtain ⟨text, htext, rfl, hoffset⟩ :=
      (skipString_eq_some_iff hform.2.1 hform.2.2 hsize).mp hskip
    have hend : p.offset = st.pos + byteSize (c :: text) := by
      rw [hoffset, byteSize_cons, hsize, Nat.add_assoc]
    have hcouples := h.afterString hquote htext
    rw [← hend] at hcouples
    refine ih.finds_of_on hlength hb hturn hcouples ?_ rfl
    rw [ScanState.move, if_pos hquote, hskip]
    rfl

/-- The byte behind a slash is a character of ASCII where the text has that character. -/
theorem Couples.any_next {d : Char} (h : Couples src st s ('/' :: rest)) (hd : d.toNat < 128) :
    src[st.pos + 1]?.any (asChar · = d) ↔ rest.head? = some d :=
  (h.stands.tail_ascii (by decide)).any_head? hd

theorem move_slash (s : ScanState) (offset : Nat) (rest : List Char) :
    s.move offset ('/' :: rest) = s.moveSlash offset rest := by
  rw [ScanState.move, if_neg (by decide), if_neg (by decide), if_pos rfl]

theorem turn_slash (src : List UInt8) (st : State) :
    turn src st '/'.toUInt8 = slashTurn src st '/'.toUInt8 := by
  rw [turn, asChar_toUInt8 (by decide), if_neg (by decide), if_neg (by decide), if_pos rfl]

/-- A byte of ASCII that is no space is passed and remembered. -/
theorem State.pass_toUInt8 (st : State) (hascii : c.toNat < 128) (hspace : isSpace c = false) :
    st.pass c.toUInt8 = { st with prev := some st.pos, pos := st.pos + 1 } := by
  rw [State.pass, asChar_toUInt8 hascii, hspace]
  rfl

theorem Couples.afterAscii (h : Couples src st s (c :: rest)) (hascii : c.toNat < 128)
    (hspace : isSpace c = false) (hc : c ∉ ['\'', '"', '`', ')', '\x7d']) :
    Couples src (st.pass c.toUInt8) (s.afterChar c) rest := by
  have hcouples := h.afterChar hc
  rw [utf8Size_of_ascii hascii] at hcouples
  rwa [State.pass_toUInt8 st hascii hspace]

theorem Follows.finds_lineComment (ih : Follows src n) (hlength : ('/' :: rest).length < n + 1)
    (h : Couples src st s ('/' :: rest)) (hslash : rest.head? = some '/') :
    Finds src s ⟨st.pos, '/' :: rest⟩ (nextBrace src st) := by
  have hb := h.stands.getElem?_ascii (c := '/') (by decide)
  obtain ⟨line, hline, hread, hend⟩ :=
    skipLineComment_eq_iff.mp (Eq.refl (Wrapper.skipLineComment st.pos ('/' :: rest)))
  have hskip : Wrapper.skipLineComment st.pos ('/' :: rest) =
      Wrapper.skipLineComment (st.pos + 1) rest := by
    rw [Wrapper.skipLineComment, if_neg (by decide)]
    rfl
  have hturn : turn src st '/'.toUInt8 =
      .ok (.on { st with pos := (Wrapper.skipLineComment st.pos ('/' :: rest)).offset }) := by
    rw [turn_slash, slashTurn, if_pos ((h.any_next (by decide)).mpr hslash),
      skipLineComment_eq h.stands h.pos_le]
    rfl
  have hcouples := h
  rw [hread] at hcouples
  have hafter := hcouples.afterLineComment hline
  rw [← hend] at hafter
  refine ih.finds_of_on hlength hb hturn hafter ?_ rfl
  rw [move_slash, ScanState.moveSlash, if_pos hslash, ← hskip]

theorem Follows.finds_blockComment (ih : Follows src n) (hlength : ('/' :: rest).length < n + 1)
    (h : Couples src st s ('/' :: rest)) (hstar : rest.head? = some '*') :
    Finds src s ⟨st.pos, '/' :: rest⟩ (nextBrace src st) := by
  obtain ⟨tail, rfl⟩ := List.head?_eq_some_iff.mp hstar
  have hb := h.stands.getElem?_ascii (c := '/') (by decide)
  have hnext := h.stands.tail_ascii (by decide)
  have hpos : st.pos + 2 ≤ src.length := by
    have hsize := h.stands.length_eq h.pos_le
    rw [byteSize_cons, byteSize_cons, utf8Size_of_ascii (by decide),
      utf8Size_of_ascii (by decide)] at hsize
    omega
  have hturn : turn src st '/'.toUInt8 =
      (endOr .blockComment st.pos (Wrapper.skipBlockComment (st.pos + 2) tail)).bind
        fun pos ↦ .ok (.on { st with pos := pos }) := by
    rw [turn_slash, slashTurn, if_neg ((h.any_next (by decide)).not.mpr (by simp)),
      if_pos ((h.any_next (by decide)).mpr rfl),
      skipBlockComment_eq (hnext.tail_ascii (by decide)) hpos]
    rfl
  have hmove := move_slash s st.pos ('*' :: tail)
  rw [ScanState.moveSlash, if_neg (by simp), if_pos hstar, List.tail_cons] at hmove
  cases hskip : Wrapper.skipBlockComment (st.pos + 2) tail with
  | none =>
    rw [hskip] at hturn hmove
    exact finds_of_stop hb hturn hmove
  | some p =>
    rw [hskip] at hturn hmove
    obtain ⟨text, htext, rfl, hoffset⟩ := skipBlockComment_eq_some_iff.mp hskip
    have hend : p.offset = st.pos + byteSize ('/' :: '*' :: text) := by
      rw [hoffset, byteSize_cons, byteSize_cons, utf8Size_of_ascii (by decide),
        utf8Size_of_ascii (by decide)]
      omega
    have hcouples := Couples.afterBlockComment h htext
    rw [← hend] at hcouples
    exact ih.finds_of_on hlength hb hturn hcouples hmove rfl

theorem Follows.finds_regex (ih : Follows src n) (hlength : ('/' :: rest).length < n + 1)
    (h : Couples src st s ('/' :: rest)) (hslash : rest.head? ≠ some '/')
    (hstar : rest.head? ≠ some '*') : Finds src s ⟨st.pos, '/' :: rest⟩ (nextBrace src st) := by
  have hb := h.stands.getElem?_ascii (c := '/') (by decide)
  have hslashTurn : turn src st '/'.toUInt8 =
      if s.preceding.regexAllowed then
        (endOr .regex st.pos (Wrapper.skipRegex false (st.pos + 1) rest)).bind
          fun pos ↦ .ok (.on (st.passLiteral pos))
      else .ok (.on (st.pass '/'.toUInt8)) := by
    rw [turn_slash, slashTurn, if_neg ((h.any_next (by decide)).not.mpr hslash),
      if_neg ((h.any_next (by decide)).not.mpr hstar), h.recalls.regexAllowed_eq h.closed,
      ← skipRegex_eq (h.stands.tail_ascii (by decide))]
    rfl
  have hmove := move_slash s st.pos rest
  rw [ScanState.moveSlash, if_neg hslash, if_neg hstar] at hmove
  cases hallowed : s.preceding.regexAllowed with
  | false =>
    rw [hallowed, if_neg Bool.false_ne_true] at hslashTurn hmove
    refine ih.finds_of_on hlength hb hslashTurn
      (h.afterAscii (by decide) (by decide) (by decide)) hmove rfl
  | true =>
    rw [hallowed, if_pos rfl] at hslashTurn hmove
    cases hskip : Wrapper.skipRegex false (st.pos + 1) rest with
    | none =>
      rw [hskip] at hslashTurn hmove
      exact finds_of_stop hb hslashTurn hmove
    | some p =>
      rw [hskip] at hslashTurn hmove
      obtain ⟨text, flags, htext, hflags, rfl, hoffset⟩ := skipRegex_eq_some_iff.mp hskip
      have hend : p.offset = st.pos + byteSize ('/' :: (text ++ flags)) := by
        rw [hoffset, byteSize_cons, byteSize_append, utf8Size_of_ascii (by decide)]
        omega
      have hcouples := h.afterRegex htext hflags
      rw [← hend] at hcouples
      exact ih.finds_of_on hlength hb hslashTurn hcouples hmove rfl

theorem Follows.finds_slash (ih : Follows src n) (hlength : ('/' :: rest).length < n + 1)
    (h : Couples src st s ('/' :: rest)) :
    Finds src s ⟨st.pos, '/' :: rest⟩ (nextBrace src st) := by
  by_cases hslash : rest.head? = some '/'
  · exact ih.finds_lineComment hlength h hslash
  · by_cases hstar : rest.head? = some '*'
    · exact ih.finds_blockComment hlength h hstar
    · exact ih.finds_regex hlength h hslash hstar

theorem Follows.finds_paren (ih : Follows src n) (hlength : (c :: rest).length < n + 1)
    (h : Couples src st s (c :: rest)) (hc : c = '(' ∨ c = ')') :
    Finds src s ⟨st.pos, c :: rest⟩ (nextBrace src st) := by
  rcases hc with rfl | rfl
  · have hb := h.stands.getElem?_ascii (c := '(') (by decide)
    have hturn : turn src st '('.toUInt8 = .ok (.on { st with
        parens := s.preceding.opensControlHeader :: st.parens
        prev := some st.pos
        pos := st.pos + 1 }) := by
      rw [turn, asChar_toUInt8 (by decide), if_neg (by decide), if_neg (by decide),
        if_neg (by decide), if_pos rfl, h.recalls.opensControlHeader_eq]
      show Except.ok (Turn.on (State.pass _ _)) = _
      rw [State.pass_toUInt8 _ (by decide) (by decide)]
    exact ih.finds_of_on hlength hb hturn h.openParen (by simp [ScanState.move]) rfl
  · have hb := h.stands.getElem?_ascii (c := ')') (by decide)
    have hturn : turn src st ')'.toUInt8 = .ok (.on { st with
        parens := st.parens.tail
        closed := some (st.pos, st.parens.headD false)
        prev := some st.pos
        pos := st.pos + 1 }) := by
      rw [turn, asChar_toUInt8 (by decide), if_neg (by decide), if_neg (by decide),
        if_neg (by decide), if_neg (by decide), if_pos rfl,
        State.pass_toUInt8 _ (by decide) (by decide)]
    exact ih.finds_of_on hlength hb hturn h.closeParen (by simp [ScanState.move]) rfl

/-- A brace ends the search. -/
theorem Couples.finds_brace (h : Couples src st s (c :: rest)) (hc : c = '\x7b' ∨ c = '\x7d') :
    Finds src s ⟨st.pos, c :: rest⟩ (nextBrace src st) := by
  rcases hc with rfl | rfl
  · have hturn : turn src st '\x7b'.toUInt8 = .ok (.brace .opening { st with
        braces := s.preceding.opensObject :: st.braces
        prev := some st.pos
        pos := st.pos + 1 }) := by
      rw [turn, asChar_toUInt8 (by decide), if_neg (by decide), if_neg (by decide),
        if_neg (by decide), if_neg (by decide), if_neg (by decide), if_pos rfl,
        h.recalls.opensObject_eq]
      show Except.ok (Turn.brace .opening (State.pass _ _)) = _
      rw [State.pass_toUInt8 _ (by decide) (by decide)]
    rw [nextBrace_eq, h.stands.getElem?_ascii (by decide)]
    simp only [hturn]
    exact .brace (b := .opening) (.refl s _) rfl rfl h.openBrace
  · have hturn : turn src st '\x7d'.toUInt8 = .ok (.brace .closing { st with
        braces := st.braces.tail
        closed := some (st.pos, !st.braces.headD false)
        prev := some st.pos
        pos := st.pos + 1 }) := by
      rw [turn, asChar_toUInt8 (by decide), if_neg (by decide), if_neg (by decide),
        if_neg (by decide), if_neg (by decide), if_neg (by decide), if_neg (by decide), if_pos rfl,
        State.pass_toUInt8 _ (by decide) (by decide)]
    rw [nextBrace_eq, h.stands.getElem?_ascii (by decide)]
    simp only [hturn]
    exact .brace (b := .closing) (.refl s _) rfl rfl h.closeBrace

/-- A byte that is no delimiter is passed. -/
theorem turn_of_plain (hb : asChar b ∉ ['\'', '"', '`', '/', '(', ')', '\x7b', '\x7d']) :
    turn src st b = .ok (.on (st.pass b)) := by
  simp only [List.mem_cons, List.not_mem_nil, or_false, not_or] at hb
  simp [turn, hb]

theorem Follows.finds_space (ih : Follows src n) (hlength : (c :: rest).length < n + 1)
    (h : Couples src st s (c :: rest)) (hspace : isSpace c) :
    Finds src s ⟨st.pos, c :: rest⟩ (nextBrace src st) := by
  obtain ⟨hc, hsize⟩ := isSpace_not_delimiter hspace
  have hascii : c.toNat < 128 :=
    Nat.lt_succ_of_le (UInt32.le_iff_toNat_le.mp (Char.utf8Size_eq_one_iff.mp hsize))
  have hturn : turn src st c.toUInt8 = .ok (.on { st with pos := st.pos + 1 }) := by
    rw [turn_of_plain (by rwa [asChar_toUInt8 hascii]), State.pass, asChar_toUInt8 hascii, hspace]
    rfl
  refine ih.finds_of_on hlength (h.stands.getElem?_ascii hascii) hturn (h.afterSpace hspace) ?_ rfl
  simp only [List.mem_cons, List.not_mem_nil, or_false, not_or] at hc
  simp [ScanState.move, hc, hspace]

/-- The search passes a byte that is none of ASCII, and remembers it. -/
theorem nextBrace_of_wide {pos : Nat} (st : State) (hb : src[pos]? = some b)
    (hwide : 128 ≤ (asChar b).toNat) :
    nextBrace src { st with pos := pos } =
      nextBrace src { st with prev := some pos, pos := pos + 1 } := by
  have hplain := @not_mem_of_wide (asChar b)
    ['\'', '"', '`', '/', '(', ')', '\x7b', '\x7d'] (by decide) hwide
  have hspace : isSpace (asChar b) = false := by
    rw [Bool.eq_false_iff]
    intro hspace
    have hsize := (isSpace_not_delimiter hspace).2
    have hle := UInt32.le_iff_toNat_le.mp (Char.utf8Size_eq_one_iff.mp hsize)
    exact absurd (Nat.le_trans hwide hle) (by decide)
  conv => lhs; rw [nextBrace_eq, hb]
  simp only [turn_of_plain hplain, State.pass, hspace]
  rfl

theorem Follows.finds_char (ih : Follows src n) (hlength : (c :: rest).length < n + 1)
    (h : Couples src st s (c :: rest))
    (hc : c ∉ ['\'', '"', '`', '/', '(', ')', '\x7b', '\x7d']) (hspace : isSpace c = false) :
    Finds src s ⟨st.pos, c :: rest⟩ (nextBrace src st) := by
  have hmove : s.move st.pos (c :: rest) = .pass (s.afterChar c) ⟨st.pos + c.utf8Size, rest⟩ := by
    simp only [List.mem_cons, List.not_mem_nil, or_false, not_or] at hc
    simp [ScanState.move, hc, hspace]
  have hplain : c ∉ ['\'', '"', '`', ')', '\x7d'] := by
    simp only [List.mem_cons, List.not_mem_nil, or_false, not_or] at hc ⊢
    tauto
  rcases Nat.lt_or_ge c.toNat 128 with hascii | hwide
  · have hturn : turn src st c.toUInt8 = .ok (.on (st.pass c.toUInt8)) :=
      turn_of_plain (by rwa [asChar_toUInt8 hascii])
    refine ih.finds_of_on hlength (h.stands.getElem?_ascii hascii) hturn
      (h.afterAscii hascii hspace hplain) ?_ rfl
    rw [hmove, utf8Size_of_ascii hascii, State.pass]
  · -- the bytes of the character are passed one by one, and the last one is remembered
    obtain ⟨b, hb, hbyte⟩ := h.stands.wideFrom hwide 0 c.utf8Size_pos
    have hfirst := nextBrace_of_wide st hb hbyte
    have hothers := h.stands.eq_of_escaped
      (f := fun i ↦ nextBrace src { st with prev := some (i - 1), pos := i })
      fun i b hb hbyte ↦ nextBrace_of_wide { st with prev := some (i - 1) } hb hbyte
    have hfinds := (ih.finds (by simpa using hlength) (h.afterChar hplain)).of_pass
      (p := ⟨st.pos, c :: rest⟩) hmove rfl
    rw [← hothers] at hfinds
    exact hfirst ▸ hfinds

theorem Follows.finds_template (ih : Follows src n) (hlength : ('`' :: rest).length < n + 1)
    (h : Couples src st s ('`' :: rest)) :
    Finds src s ⟨st.pos, '`' :: rest⟩ (nextBrace src st) := by
  have hopen := h.stands.getElem?_ascii (c := '`') (by decide)
  have hturn : turn src st '`'.toUInt8 = .ok .template := by
    rw [turn, asChar_toUInt8 (by decide), if_neg (by decide), if_pos rfl]
  have hmove : s.move st.pos ('`' :: rest) =
      s.afterTemplateText st.pos (skipTemplateText (st.pos + 1) rest) := by
    rw [ScanState.move, if_neg (by decide), if_pos rfl]
  have hsize := h.stands.length_eq h.pos_le
  rw [byteSize_cons, utf8Size_of_ascii (by decide)] at hsize
  have hnests : Nests src { st with pos := st.pos + 1 } s := ⟨h.parens, h.braces, h.closed⟩
  have hcloses := ih.closes (by simpa using hlength) (h.stands.tail_ascii (by decide))
    (by dsimp only; omega) hnests hopen
  rw [← hmove] at hcloses
  rw [nextBrace_eq, hopen]
  simp only [hturn]
  generalize skipTemplate src st.pos { st with pos := st.pos + 1 } = result at hcloses
  cases hcloses with
  | @closed entered middle p after next hentered hpasses htemplates hcouples =>
    have hshort : p.rest.length < ('`' :: rest).length :=
      ScanState.move_rest_lt (by rw [hentered]; rfl)
    have hle := hpasses.length_le
    dsimp only at hle
    exact (ih.finds (by omega) hcouples).of_passes (.move hentered hpasses) htemplates
  | unterminated hstop => exact .stopped (.refl s _) hstop
  | stopped hentered hpasses hstop => exact .stopped (.move hentered hpasses) hstop

/-- A search in a text finds what it should, if every scan of a shorter text does. -/
theorem Follows.finds_succ (ih : Follows src n) (hlength : text.length < n + 1)
    (h : Couples src st s text) : Finds src s ⟨st.pos, text⟩ (nextBrace src st) := by
  cases text with
  | nil =>
    rw [nextBrace_eq, h.stands.getElem?_nil]
    exact .ended (.refl s _) rfl
  | cons c rest =>
    by_cases hplain : c ∈ ['\'', '"', '`', '/', '(', ')', '\x7b', '\x7d']
    · simp only [List.mem_cons, List.not_mem_nil, or_false] at hplain
      rcases hplain with hc | hc | rfl | rfl | hc | hc | hc | hc
      · exact ih.finds_string hlength h (.inl hc)
      · exact ih.finds_string hlength h (.inr hc)
      · exact ih.finds_template hlength h
      · exact ih.finds_slash hlength h
      · exact ih.finds_paren hlength h (.inl hc)
      · exact ih.finds_paren hlength h (.inr hc)
      · exact h.finds_brace (.inl hc)
      · exact h.finds_brace (.inr hc)
    · cases hspace : isSpace c with
      | true => exact ih.finds_space hlength h hspace
      | false => exact ih.finds_char hlength h hplain hspace

/-! ### Substitutions -/

variable {start depth : Nat} {outer : List OpenTemplate}

/-- Braces that are opened inside of a substitution are counted, and a brace closes the last one of
them, or the substitution. -/
theorem Follows.leaves_succ (ih : Follows src n)
    (hfinds : ∀ {st s text}, text.length < n + 1 → Couples src st s text →
      Finds src s ⟨st.pos, text⟩ (nextBrace src st))
    (hlength : text.length < n + 1) (h : Couples src st s text)
    (htemplates : s.templates = ⟨start, depth⟩ :: outer) :
    Leaves src s start outer ⟨st.pos, text⟩ (skipSubstitution src start (depth + 1) st) := by
  rw [skipSubstitution_eq, if_neg depth.succ_ne_zero]
  have hfound := hfinds hlength h
  generalize nextBrace src st = found at hfound
  cases hfound with
  | @brace b middle place rest next hpasses hmiddle hpos hcouples =>
    rw [htemplates] at hmiddle
    have hle := hpasses.length_le
    simp only [List.length_cons] at hle
    cases b with
    | opening =>
      have hmove : middle.move place ('\x7b' :: rest) =
          .pass { middle.openBrace with templates := ⟨start, depth + 1⟩ :: outer }
            ⟨next.pos, rest⟩ := by
        simp [ScanState.move, ScanState.moveOpenBrace, hmiddle, hpos]
      exact (ih.leaves (by omega) (hcouples.withTemplates _) rfl).of_passes
        (hpasses.trans (.move hmove (.refl _ _)))
    | closing =>
      show Leaves src s start outer _ (skipSubstitution src start depth next)
      cases depth with
      | zero =>
        rw [skipSubstitution_eq, if_pos rfl]
        exact .left hpasses hmiddle hpos hcouples
      | succ depth =>
        have hmove : middle.move place ('\x7d' :: rest) =
            .pass { middle.closeBrace with templates := ⟨start, depth⟩ :: outer }
              ⟨next.pos, rest⟩ := by
          simp [ScanState.move, ScanState.moveCloseBrace, hmiddle, hpos]
        exact (ih.leaves (by omega) (hcouples.withTemplates _) rfl).of_passes
          (hpasses.trans (.move hmove (.refl _ _)))
  | @ended middle place next hpasses hmiddle =>
    refine .stopped hpasses ?_
    simp [ScanState.move, hmiddle, htemplates]
  | stopped hpasses hstop => exact .stopped hpasses hstop

/-! ### Template text -/

theorem skipTemplate_of_wide {pos : Nat} (st : State) (hb : src[pos]? = some b)
    (hwide : 128 ≤ (asChar b).toNat) :
    skipTemplate src start { st with pos := pos } =
      skipTemplate src start { st with pos := pos + 1 } := by
  have hplain := @not_mem_of_wide (asChar b) ['\\', '`', '$'] (by decide) hwide
  simp only [List.mem_cons, List.not_mem_nil, or_false, not_or] at hplain
  conv => lhs; rw [skipTemplate_eq, hb]
  simp [hplain]

/-- The text behind an escape goes on behind the escaped character. -/
theorem Follows.closes_escape (ih : Follows src n) (hlength : ('\\' :: rest).length < n + 1)
    (hstands : Stands src st.pos ('\\' :: rest)) (hpos : st.pos ≤ src.length)
    (hnests : Nests src st s) (hopen : src[start]? = some '`'.toUInt8) :
    Closes src s.templates start
      (s.afterTemplateText start (skipTemplateText st.pos ('\\' :: rest)))
      (skipTemplate src start st) := by
  have hnext := hstands.tail_ascii (by decide)
  rw [skipTemplate_eq, hstands.getElem?_ascii (by decide)]
  simp only [asChar_toUInt8 (show '\\'.toNat < 128 by decide), if_true]
  cases rest with
  | nil =>
    -- the place is one behind the end
    have hnone : src[st.pos + 2]? = none := by simpa using hnext.getElem?_eq 1
    rw [skipTemplate_eq]
    simp only [hnone]
    exact .unterminated rfl
  | cons e rest =>
    have hskip := hnext.eq_of_escaped (f := fun i ↦ skipTemplate src start { st with pos := i })
      fun i b hb hwide ↦ skipTemplate_of_wide st hb hwide
    have hsize := hstands.length_eq hpos
    rw [byteSize_cons, byteSize_cons, utf8Size_of_ascii (by decide)] at hsize
    have hnests' : Nests src { st with pos := st.pos + 1 + e.utf8Size } s :=
      ⟨hnests.parens, hnests.braces, hnests.closed⟩
    have hcloses := ih.closes (by simp only [List.length_cons] at hlength; omega) hnext.tail
      (by dsimp only; omega) hnests' hopen
    rw [← hskip] at hcloses
    exact hcloses

/-- Behind the brace that ends a substitution there is template text again. -/
theorem Follows.closes_substitution (ih : Follows src n)
    (hlength : ('$' :: '\x7b' :: rest).length < n + 1)
    (hstands : Stands src st.pos ('$' :: '\x7b' :: rest)) (hpos : st.pos ≤ src.length)
    (hnests : Nests src st s) (hopen : src[start]? = some '`'.toUInt8) :
    Closes src s.templates start
      (s.afterTemplateText start (skipTemplateText st.pos ('$' :: '\x7b' :: rest)))
      (skipTemplate src start st) := by
  have hentered : s.afterTemplateText start (skipTemplateText st.pos ('$' :: '\x7b' :: rest)) =
      .pass (s.enterSubstitution start) ⟨st.pos + 2, rest⟩ := by
    simp [skipTemplateText, ScanState.afterTemplateText]
  have hbrace : src[st.pos + 1]?.any (asChar · = '\x7b') :=
    ((hstands.tail_ascii (by decide)).any_head? (by decide)).mpr rfl
  have hleaves := ih.leaves (by simp only [List.length_cons] at hlength; omega)
    (hnests.enterSubstitution hstands hpos start) rfl
  rw [skipTemplate_eq, hstands.getElem?_ascii (by decide)]
  simp only [asChar_toUInt8 (show '$'.toNat < 128 by decide), hbrace,
    show ('$' = '\\') = False by decide, show ('$' = '`') = False by decide, if_false, and_self,
    if_true]
  generalize skipSubstitution src start (0 + 1) _ = result at hleaves
  cases hleaves with
  | @left middle place after next hpasses htemplates hplace hcouples =>
    have hle := hpasses.length_le
    simp only [List.length_cons] at hle hlength
    have hnests' := (hcouples.withTemplates s.templates).nests
    have hcloses := ih.closes (by omega) hcouples.stands hcouples.pos_le hnests' hopen
    have hmove : middle.move place ('\x7d' :: after) =
        ({ middle.closeBrace with templates := s.templates } : ScanState).afterTemplateText start
          (skipTemplateText next.pos after) := by
      simp [ScanState.move, ScanState.moveCloseBrace, htemplates, hplace]
    rw [← hmove] at hcloses
    exact hcloses.of_passes hentered hpasses
  | stopped hpasses hstop => exact .stopped hentered hpasses hstop

theorem Follows.closes_char (ih : Follows src n) (hlength : (c :: rest).length < n + 1)
    (hstands : Stands src st.pos (c :: rest)) (hpos : st.pos ≤ src.length)
    (hnests : Nests src st s) (hopen : src[start]? = some '`'.toUInt8)
    (hescape : c ≠ '\\') (hclose : c ≠ '`') (henter : ¬(c = '$' ∧ rest.head? = some '\x7b')) :
    Closes src s.templates start (s.afterTemplateText start (skipTemplateText st.pos (c :: rest)))
      (skipTemplate src start st) := by
  have hpass : skipTemplate src start st =
      skipTemplate src start { st with pos := st.pos + c.utf8Size } := by
    rcases Nat.lt_or_ge c.toNat 128 with hascii | hwide
    · have hnext : ¬(c = '$' ∧ src[st.pos + 1]?.any (asChar · = '\x7b')) := fun hnext ↦
        henter (hnext.imp_right ((hstands.tail_ascii hascii).any_head? (by decide)).mp)
      conv => lhs; rw [skipTemplate_eq, hstands.getElem?_ascii hascii]
      simp only [asChar_toUInt8 hascii, utf8Size_of_ascii hascii, hescape, hclose, hnext, if_false]
    · exact (hstands.wideFrom hwide).eq_of_passed
        (f := fun i ↦ skipTemplate src start { st with pos := i })
        fun i b hb hbyte ↦ skipTemplate_of_wide st hb hbyte
  have hsize := hstands.length_eq hpos
  rw [byteSize_cons] at hsize
  have hnests' : Nests src { st with pos := st.pos + c.utf8Size } s :=
    ⟨hnests.parens, hnests.braces, hnests.closed⟩
  have hcloses := ih.closes (by simpa using hlength) hstands.tail (by dsimp only; omega) hnests'
    hopen
  rw [skipTemplateText.eq_def]
  simpa only [hescape, hclose, henter, if_false, hpass] using hcloses

theorem Follows.closes_succ (ih : Follows src n) (hlength : text.length < n + 1)
    (hstands : Stands src st.pos text) (hpos : st.pos ≤ src.length) (hnests : Nests src st s)
    (hopen : src[start]? = some '`'.toUInt8) :
    Closes src s.templates start
      (s.afterTemplateText start (skipTemplateText st.pos text)) (skipTemplate src start st) := by
  cases text with
  | nil =>
    rw [skipTemplate_eq, hstands.getElem?_nil]
    exact .unterminated rfl
  | cons c rest =>
    by_cases hescape : c = '\\'
    · subst hescape
      exact ih.closes_escape hlength hstands hpos hnests hopen
    · by_cases hclose : c = '`'
      · subst hclose
        have hmove : s.afterTemplateText start (skipTemplateText st.pos ('`' :: rest)) =
            .pass s.afterLiteral ⟨st.pos + 1, rest⟩ :=
          congrArg (s.afterTemplateText start) (skipTemplateText_closed .nil st.pos rest)
        rw [skipTemplate_eq, hstands.getElem?_ascii (by decide)]
        exact .closed hmove (.refl _ _) rfl (hnests.afterTemplate hstands hpos hopen)
      · by_cases henter : c = '$' ∧ rest.head? = some '\x7b'
        · obtain ⟨rfl, hbrace⟩ := henter
          obtain ⟨after, rfl⟩ := List.head?_eq_some_iff.mp hbrace
          exact ih.closes_substitution hlength hstands hpos hnests hopen
        · exact ih.closes_char hlength hstands hpos hnests hopen hescape hclose henter

/-- The scanner on bytes does what the scanner on characters does. -/
theorem follows (src : List UInt8) (n : Nat) : Follows src n := by
  induction n with
  | zero => constructor <;> intros <;> contradiction
  | succ n ih =>
    have hfinds : ∀ {st s text}, text.length < n + 1 → Couples src st s text →
        Finds src s ⟨st.pos, text⟩ (nextBrace src st) := ih.finds_succ
    exact ⟨hfinds, ih.leaves_succ hfinds, ih.closes_succ⟩

theorem Couples.finds (h : Couples src st s text) :
    Finds src s ⟨st.pos, text⟩ (nextBrace src st) :=
  (follows src (text.length + 1)).finds (Nat.lt_succ_self _) h

end BrowserScript.Wrapper.Bytes
