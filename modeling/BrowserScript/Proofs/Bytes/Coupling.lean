import BrowserScript.Proofs.Bytes.Literal
import BrowserScript.Proofs.Bytes.Token
import BrowserScript.Proofs.Wrapper.ScanRun

/-!
The scanner on bytes and the scanner on characters at one place of a text. `Couples` is what holds
of their states at every token, and every token that both read keeps it (`Couples.afterSpace`,
`Couples.afterChar`, `Couples.afterString` and so on). Within the text of a template only the open
parentheses and braces matter (`Nests`): a substitution starts like a text, and a template that has
ended is remembered by its first byte.
-/

set_option autoImplicit false
set_option relaxedAutoImplicit false

namespace BrowserScript.Wrapper.Bytes

open Text

variable {src : List UInt8} {st : State} {s : ScanState} {c : Char} {text rest : List Char}

/-! ### Coupled states -/

/-- What stands directly in front of the place, as far as the last token may go on there. -/
inductive Touches (src : List UInt8) (st : State) : Bool → Preceding → Prop
  | apart {p : Preceding} (h : ∀ b, src[st.pos]? = some b → isWordByte b ∨ asChar b = '>' →
      wordBefore src st.pos = [] ∧ NotBehind src st.pos '=') : Touches src st false p
  | literal (h : ∀ b, src[st.pos]? = some b →
      wordBefore src st.pos = [] ∨ (asChar b).isAlpha = false)
    (hbehind : NotBehind src st.pos '=') : Touches src st true .literal
  | token {p : Preceding} {i : Nat} (hp : p ≠ .literal) (hprev : st.prev = some i)
    (hpos : st.pos = i + 1) : Touches src st true p

/-- The two scanners are inside of the same parentheses and braces. -/
structure Nests (src : List UInt8) (st : State) (s : ScanState) : Prop where
  parens : st.parens = s.parens
  braces : st.braces = s.braces
  closed : ClosedAt src st

/-- The two scanners stand in front of the same text, after the same tokens. -/
structure Couples (src : List UInt8) (st : State) (s : ScanState) (text : List Char) : Prop where
  stands : Stands src st.pos text
  pos_le : st.pos ≤ src.length
  parens : st.parens = s.parens
  braces : st.braces = s.braces
  closed : ClosedAt src st
  recalls : Recalls src st s.preceding
  touches : Touches src st s.adjacent s.preceding

theorem Couples.initial (text : List Char) : Couples (encode text) {} {} text where
  stands := .whole text
  pos_le := Nat.zero_le _
  parens := rfl
  braces := rfl
  closed := fun _ _ h ↦ nomatch h
  recalls := .nothing rfl
  touches := .apart fun _ _ _ ↦ ⟨rfl, fun _ _ h ↦ nomatch h⟩

theorem Couples.nests (h : Couples src st s text) : Nests src st s :=
  ⟨h.parens, h.braces, h.closed⟩

/-- Templates are no part of what is coupled. -/
theorem Couples.withTemplates (h : Couples src st s text) (templates : List OpenTemplate) :
    Couples src st { s with templates := templates } text :=
  ⟨h.stands, h.pos_le, h.parens, h.braces, h.closed, h.recalls, h.touches⟩

/-! ### What stands in front of a character -/

/-- The byte that is remembered is part of a word exactly if the last token is a word. -/
theorem Recalls.isWordByte_or {p : Preceding} {i : Nat} (h : Recalls src st p)
    (hprev : st.prev = some i) :
    (∃ letters, p = .word letters) ∨ ∃ b, src[i]? = some b ∧ isWordByte b = false := by
  cases h with
  | nothing hnone => rw [hnone] at hprev; cases hprev
  | @literal j b hj hb hopen =>
    obtain rfl := Option.some.inj (hj.symm.trans hprev)
    refine .inr ⟨b, hb, ?_⟩
    simp only [List.mem_cons, List.not_mem_nil, or_false] at hopen
    rcases hopen with h | h | h | h <;> rw [isWordByte_of_asChar_eq h] <;> decide
  | word => exact .inl ⟨_, rfl⟩
  | @closer j b allowed hj hb hclose hclosed =>
    obtain rfl := Option.some.inj (hj.symm.trans hprev)
    refine .inr ⟨b, hb, ?_⟩
    rcases hclose with h | h <;> rw [isWordByte_of_asChar_eq h] <;> decide
  | @arrow j b b' hj hb hb' hequals hangle =>
    obtain rfl := Option.some.inj (hj.symm.trans hprev)
    exact .inr ⟨b', hb', (isWordByte_of_asChar_eq hangle).trans (by decide)⟩
  | @mark j b c hj hb hc hplain hword harrow =>
    obtain rfl := Option.some.inj (hj.symm.trans hprev)
    refine .inr ⟨b, hb, ?_⟩
    rcases hc with rfl | ⟨_, hwide⟩
    · exact hword
    · exact isWordByte_of_wide hwide

/-- The byte that is remembered is an equals sign exactly if that is the last token. -/
theorem Recalls.equals_iff {p : Preceding} {i : Nat} {b : UInt8} (h : Recalls src st p)
    (hprev : st.prev = some i) (hb : src[i]? = some b) : asChar b = '=' ↔ p = .mark '=' := by
  cases h with
  | nothing hnone => rw [hnone] at hprev; cases hprev
  | @literal j b' hj hb' hopen =>
    obtain rfl := Option.some.inj (hj.symm.trans hprev)
    obtain rfl := Option.some.inj (hb'.symm.trans hb)
    simp only [List.mem_cons, List.not_mem_nil, or_false] at hopen
    rcases hopen with h | h | h | h <;> simp [h]
  | @word j b' letters flags hj hb' hbyte =>
    obtain rfl := Option.some.inj (hj.symm.trans hprev)
    obtain rfl := Option.some.inj (hb'.symm.trans hb)
    refine iff_of_false (fun heq ↦ ?_) (by simp)
    rw [isWordByte_of_asChar_eq heq] at hbyte
    cases hbyte
  | @closer j b' allowed hj hb' hclose hclosed =>
    obtain rfl := Option.some.inj (hj.symm.trans hprev)
    obtain rfl := Option.some.inj (hb'.symm.trans hb)
    rcases hclose with h | h <;> simp [h]
  | @arrow j b' b'' hj hb' hb'' hequals hangle =>
    obtain rfl := Option.some.inj (hj.symm.trans hprev)
    obtain rfl := Option.some.inj (hb''.symm.trans hb)
    simp [hangle]
  | @mark j b' c hj hb' hc hplain hword harrow =>
    obtain rfl := Option.some.inj (hj.symm.trans hprev)
    obtain rfl := Option.some.inj (hb'.symm.trans hb)
    rw [Preceding.mark.injEq]
    rcases hc with rfl | ⟨hc, hwide⟩
    · exact Iff.rfl
    · have hbyte := @not_mem_of_wide (asChar b') ['='] (by decide) hwide
      have hmark := @not_mem_of_wide c ['='] (by decide) hc
      simp only [List.mem_singleton] at hbyte hmark
      exact iff_of_false hbyte hmark

/-- The letters that a character of words comes behind. -/
def lettersBehind : Bool → Preceding → List Char
  | true, .word letters => letters
  | _, _ => []

theorem extend_of_word {adjacent : Bool} {p : Preceding} (hc : isWordChar c) :
    p.extend adjacent c = .word (c :: lettersBehind adjacent p) := by
  unfold Preceding.extend
  rw [if_pos hc]
  cases adjacent <;> cases p <;> rfl

/-- The bytes of words in front of a character of words are the letters that it comes behind, if not
letters of flags. -/
theorem Couples.exists_flags (h : Couples src st s (c :: rest)) (hc : isWordChar c) :
    ∃ flags, wordBefore src st.pos =
        flags ++ encode (lettersBehind s.adjacent s.preceding).reverse ∧
      (∀ d ∈ c :: lettersBehind s.adjacent s.preceding, isWordChar d) ∧
        (flags = [] ∨ ∃ d ∈ c :: lettersBehind s.adjacent s.preceding, d.isAlpha = false) := by
  have hascii := ascii_of_isWordChar hc
  have hb := h.stands.getElem?_ascii hascii
  have hbyte := isWordByte_toUInt8 hc
  have htouches := h.touches
  have hrecalls := h.recalls
  generalize s.adjacent = adjacent at htouches ⊢
  generalize s.preceding = p at htouches hrecalls ⊢
  cases htouches with
  | apart hapart =>
    exact ⟨[], by simp [lettersBehind, (hapart _ hb (.inl hbyte)).1], by simpa [lettersBehind],
      .inl rfl⟩
  | literal hliteral =>
    refine ⟨wordBefore src st.pos, by simp [lettersBehind], by simpa [lettersBehind], ?_⟩
    have hflags := hliteral _ hb
    rw [asChar_toUInt8 hascii] at hflags
    exact hflags.imp_right fun halpha ↦ ⟨c, by simp, halpha⟩
  | @token _ i hp hprev hpos =>
    rcases hrecalls.isWordByte_or hprev with ⟨letters, rfl⟩ | ⟨b, hbefore, hword⟩
    · cases hrecalls with
      | @word j b letters flags hj hbefore hbyte' hword hletters hflags =>
        obtain rfl := Option.some.inj (hj.symm.trans hprev)
        refine ⟨flags, by rw [hpos]; exact hword, ?_, ?_⟩
        · exact List.forall_mem_cons.mpr ⟨hc, hletters⟩
        · exact hflags.imp_right fun ⟨d, hd, halpha⟩ ↦ ⟨d, List.mem_cons_of_mem _ hd, halpha⟩
    · have hnone : wordBefore src st.pos = [] := by
        rw [hpos, wordBefore_succ hbefore, hword]
        rfl
      have hletters : lettersBehind true p = [] := by
        cases p with
        | word letters =>
          cases hrecalls with
          | @word j b' _ flags hj hbefore' hbyte' =>
            obtain rfl := Option.some.inj (hj.symm.trans hprev)
            obtain rfl := Option.some.inj (hbefore.symm.trans hbefore')
            rw [hword] at hbyte'
            cases hbyte'
        | _ => rfl
      rw [hletters, hnone]
      exact ⟨[], rfl, by simpa, .inl rfl⟩

/-- In front of a `>` stands an equals sign exactly if that is the last token, and nothing is
between. -/
theorem Couples.notBehind (h : Couples src st s ('>' :: rest))
    (hequals : ¬(s.adjacent ∧ s.preceding = .mark '=')) : NotBehind src st.pos '=' := by
  have hb := h.stands.getElem?_ascii (c := '>') (by decide)
  have htouches := h.touches
  have hrecalls := h.recalls
  generalize s.adjacent = adjacent at htouches hequals
  generalize s.preceding = p at htouches hrecalls hequals
  cases htouches with
  | apart hapart => exact (hapart _ hb (.inr (asChar_toUInt8 (by decide)))).2
  | literal _ hbehind => exact hbehind
  | @token _ i hp hprev hpos =>
    intro j b hj hbefore heq
    obtain rfl : i = j := by omega
    exact hequals ⟨rfl, (hrecalls.equals_iff hprev hbefore).mp heq⟩

/-! ### Tokens that keep states coupled -/

/-- A byte of a token on its own is remembered. -/
theorem Couples.passed (h : Couples src st s (c :: rest)) {st' : State} {s' : ScanState}
    (hpos : st'.pos = st.pos + c.utf8Size) (hprev : st'.prev = some (st.pos + c.utf8Size - 1))
    (hparens : st'.parens = s'.parens) (hbraces : st'.braces = s'.braces)
    (hclosed : ClosedAt src st') (hrecalls : Recalls src st' s'.preceding)
    (hliteral : s'.preceding ≠ .literal) (hadjacent : s'.adjacent = true) :
    Couples src st' s' rest := by
  have hsize := c.utf8Size_pos
  have hlength := h.stands.length_eq h.pos_le
  rw [byteSize_cons] at hlength
  refine ⟨by rw [hpos]; exact h.stands.tail, by omega, hparens, hbraces, hclosed, hrecalls, ?_⟩
  rw [hadjacent]
  exact .token hliteral hprev (by omega)

/-- What is recalled is told by what is remembered, wherever the scanner stands. -/
theorem Recalls.of_eq {p : Preceding} {st' : State} (h : Recalls src st p)
    (hprev : st'.prev = st.prev) (hclosed : st'.closed = st.closed) : Recalls src st' p := by
  cases h with
  | nothing h => exact .nothing (hprev.trans h)
  | literal h hb hopen => exact .literal (hprev.trans h) hb hopen
  | word h hb hbyte hword hletters hflags =>
    exact .word (hprev.trans h) hb hbyte hword hletters hflags
  | closer h hb hclose hplace => exact .closer (hprev.trans h) hb hclose (hclosed.trans hplace)
  | arrow h hb hb' hequals hangle => exact .arrow (hprev.trans h) hb hb' hequals hangle
  | mark h hb hc hplain hword harrow => exact .mark (hprev.trans h) hb hc hplain hword harrow

theorem Couples.afterSpace (h : Couples src st s (c :: rest)) (hspace : isSpace c) :
    Couples src { st with pos := st.pos + 1 } s.afterSpace rest := by
  have hsize := (isSpace_not_delimiter hspace).2
  have hascii : c.toNat < 128 :=
    Nat.lt_succ_of_le (UInt32.le_iff_toNat_le.mp (Char.utf8Size_eq_one_iff.mp hsize))
  have hb := h.stands.getElem?_ascii hascii
  have hword : isWordByte c.toUInt8 = false := by
    rw [isWordByte, asChar_toUInt8 hascii, Bool.eq_false_iff]
    intro hc
    rw [(isWordChar_not_space hc).1] at hspace
    cases hspace
  have hlength := h.stands.length_eq h.pos_le
  rw [byteSize_cons] at hlength
  refine ⟨h.stands.tail_ascii hascii, by dsimp only; omega, h.parens, h.braces, h.closed,
    h.recalls.of_eq rfl rfl, ?_⟩
  · refine .apart fun b _ _ ↦ ⟨?_, ?_⟩
    · rw [wordBefore_succ hb, hword]
      rfl
    · refine notBehind_succ hb ?_
      rw [asChar_toUInt8 hascii]
      rintro rfl
      cases hspace

/-- A character that is no delimiter is remembered by its last byte. -/
theorem Couples.afterChar (h : Couples src st s (c :: rest))
    (hc : c ∉ ['\'', '"', '`', ')', '\x7d']) :
    Couples src { st with prev := some (st.pos + c.utf8Size - 1), pos := st.pos + c.utf8Size }
      (s.afterChar c) rest := by
  refine h.passed rfl rfl h.parens h.braces h.closed ?_ ?_ rfl
  · show Recalls src _ (s.preceding.extend s.adjacent c)
    cases hword : isWordChar c with
    | true =>
      have hascii := ascii_of_isWordChar hword
      have hb := h.stands.getElem?_ascii hascii
      obtain ⟨flags, hbefore, hletters, hflags⟩ := h.exists_flags hword
      rw [extend_of_word hword, utf8Size_of_ascii hascii]
      refine .word rfl hb (isWordByte_toUInt8 hword) ?_ hletters hflags
      rw [Nat.add_sub_cancel, wordBefore_succ hb, if_pos (isWordByte_toUInt8 hword), hbefore]
      simp [utf8EncodeChar_of_ascii hascii]
    | false =>
      rw [extend_of_mark hword]
      split
      · next harrow =>
        obtain ⟨rfl, hadjacent, hequals⟩ := harrow
        have hb := h.stands.getElem?_ascii (c := '>') (by decide)
        have htouches := h.touches
        have hrecalls := h.recalls
        rw [hadjacent, hequals] at htouches
        cases htouches with
        | @token _ i hp hprev hpos =>
          have hlt : i < src.length := by
            have := (List.getElem?_eq_some_iff.mp hb).1
            omega
          have hbefore : src[i]? = some src[i] := List.getElem?_eq_getElem hlt
          rw [hpos] at hb
          refine .arrow (by simp [hpos]) hbefore hb
            ((hrecalls.equals_iff hprev hbefore).mpr hequals) (asChar_toUInt8 (by decide))
      · next harrow =>
        rcases Nat.lt_or_ge c.toNat 128 with hascii | hwide
        · have hb := h.stands.getElem?_ascii hascii
          rw [utf8Size_of_ascii hascii]
          refine .mark rfl hb (.inl (asChar_toUInt8 hascii)) hc hword ?_
          rintro rfl
          exact h.notBehind fun hequals ↦ harrow ⟨rfl, hequals⟩
        · have hsize := c.utf8Size_pos
          obtain ⟨b, hb, hbyte⟩ := h.stands.wideFrom hwide (c.utf8Size - 1) (by omega)
          rw [← Nat.add_sub_assoc hsize] at hb
          refine .mark rfl hb (.inr ⟨hwide, hbyte⟩) hc hword ?_
          rintro rfl
          exact absurd hwide (by decide)
  · show s.preceding.extend s.adjacent c ≠ .literal
    cases hword : isWordChar c with
    | true => simp [extend_of_word hword]
    | false =>
      rw [extend_of_mark hword]
      split <;> simp

theorem Couples.openParen (h : Couples src st s ('(' :: rest)) :
    Couples src { st with
      parens := s.preceding.opensControlHeader :: st.parens
      prev := some st.pos
      pos := st.pos + 1 } s.openParen rest := by
  have hb := h.stands.getElem?_ascii (c := '(') (by decide)
  refine h.passed rfl rfl (congrArg (_ :: ·) h.parens) h.braces h.closed ?_
    (by simp [ScanState.openParen]) rfl
  exact .mark rfl hb (.inl (asChar_toUInt8 (by decide))) (by decide) (by decide) (by simp)

theorem Couples.closeParen (h : Couples src st s (')' :: rest)) :
    Couples src { st with
      parens := st.parens.tail
      closed := some (st.pos, st.parens.headD false)
      prev := some st.pos
      pos := st.pos + 1 } s.closeParen rest := by
  have hb := h.stands.getElem?_ascii (c := ')') (by decide)
  have hclose : asChar ')'.toUInt8 = ')' := asChar_toUInt8 (by decide)
  refine h.passed rfl rfl (congrArg List.tail h.parens) h.braces ?_ ?_
    (by simp [ScanState.closeParen]) rfl
  · rintro i allowed ⟨⟩
    exact ⟨_, hb, .inl hclose⟩
  · rw [ScanState.closeParen, ← h.parens]
    exact .closer rfl hb (.inl hclose) rfl

theorem Couples.openBrace (h : Couples src st s ('\x7b' :: rest)) :
    Couples src { st with
      braces := s.preceding.opensObject :: st.braces
      prev := some st.pos
      pos := st.pos + 1 } s.openBrace rest := by
  have hb := h.stands.getElem?_ascii (c := '\x7b') (by decide)
  refine h.passed rfl rfl h.parens (congrArg (_ :: ·) h.braces) h.closed ?_
    (by simp [ScanState.openBrace]) rfl
  exact .mark rfl hb (.inl (asChar_toUInt8 (by decide))) (by decide) (by decide) (by simp)

theorem Couples.closeBrace (h : Couples src st s ('\x7d' :: rest)) :
    Couples src { st with
      braces := st.braces.tail
      closed := some (st.pos, !st.braces.headD false)
      prev := some st.pos
      pos := st.pos + 1 } s.closeBrace rest := by
  have hb := h.stands.getElem?_ascii (c := '\x7d') (by decide)
  have hclose : asChar '\x7d'.toUInt8 = '\x7d' := asChar_toUInt8 (by decide)
  refine h.passed rfl rfl h.parens (congrArg List.tail h.braces) ?_ ?_
    (by simp [ScanState.closeBrace]) rfl
  · rintro i allowed ⟨⟩
    exact ⟨_, hb, .inr hclose⟩
  · rw [ScanState.closeBrace, ← h.braces]
    exact .closer rfl hb (.inr hclose) rfl

/-! ### Literals and comments keep states coupled -/

/-- Directly behind a character that is in no word and is no equals sign. -/
theorem Stands.behind {pos : Nat} (front : List Char) (h : Stands src pos (front ++ c :: rest))
    (hascii : c.toNat < 128) (hword : isWordChar c = false) (hequals : c ≠ '=') :
    wordBefore src (pos + byteSize front + 1) = [] ∧
      NotBehind src (pos + byteSize front + 1) '=' := by
  have hb := h.append.getElem?_ascii hascii
  refine ⟨?_, notBehind_succ hb (by rwa [asChar_toUInt8 hascii])⟩
  rw [wordBefore_succ hb, isWordByte, asChar_toUInt8 hascii, hword]
  rfl

/-- A literal is remembered by the byte that it starts with. -/
theorem Couples.literal {read : List Char} (h : Couples src st s (c :: (read ++ rest)))
    (hopen : c ∈ ['\'', '"', '/'])
    (hend : ∀ b, src[st.pos + byteSize (c :: read)]? = some b →
      wordBefore src (st.pos + byteSize (c :: read)) = [] ∨ (asChar b).isAlpha = false)
    (hbehind : NotBehind src (st.pos + byteSize (c :: read)) '=') :
    Couples src (st.passLiteral (st.pos + byteSize (c :: read))) s.afterLiteral rest := by
  have hascii : c.toNat < 128 := by
    simp only [List.mem_cons, List.not_mem_nil, or_false] at hopen
    rcases hopen with rfl | rfl | rfl <;> decide
  have hlength := h.stands.length_eq h.pos_le
  have hstands := h.stands
  rw [← List.cons_append] at hlength hstands
  rw [byteSize_append] at hlength
  refine ⟨hstands.append, by simp only [State.passLiteral]; omega, h.parens, h.braces, h.closed,
    .literal rfl (h.stands.getElem?_ascii hascii) ?_, .literal hend hbehind⟩
  rw [asChar_toUInt8 hascii]
  simp only [List.mem_cons, List.not_mem_nil, or_false] at hopen ⊢
  rcases hopen with rfl | rfl | rfl <;> simp

theorem Couples.afterString {quote : Char} {text : List Char}
    (h : Couples src st s (quote :: (text ++ rest))) (hquote : quote = '\'' ∨ quote = '"')
    (htext : StringRest quote text) :
    Couples src (st.passLiteral (st.pos + byteSize (quote :: text))) s.afterLiteral rest := by
  obtain ⟨front, rfl⟩ := List.getLast?_eq_some_iff.mp htext.getLast?
  have hform : quote.toNat < 128 ∧ isWordChar quote = false ∧ quote ≠ '=' := by
    rcases hquote with rfl | rfl <;> decide
  have hstands : Stands src st.pos ((quote :: front) ++ quote :: rest) := by
    simpa using h.stands
  obtain ⟨hbefore, hbehind⟩ := hstands.behind _ hform.1 hform.2.1 hform.2.2
  have hend : st.pos + byteSize (quote :: (front ++ [quote])) =
      st.pos + byteSize (quote :: front) + 1 := by
    simp [utf8Size_of_ascii hform.1, Nat.add_assoc]
  refine h.literal (by simp only [List.mem_cons]; tauto) (fun _ _ ↦ .inl ?_) ?_
  · rwa [hend]
  · rwa [hend]

theorem Couples.afterRegex {text flags : List Char}
    (h : Couples src st s ('/' :: (text ++ (flags ++ rest)))) (htext : RegexRest false text)
    (hflags : FlagsBefore flags rest) :
    Couples src (st.passLiteral (st.pos + byteSize ('/' :: (text ++ flags)))) s.afterLiteral
      rest := by
  rw [← List.append_assoc] at h
  refine h.literal (by simp) (fun b hb ↦ .inr ?_) ?_
  · -- the flags take all letters
    have hstands := h.stands
    rw [← List.cons_append] at hstands
    cases rest with
    | nil =>
      rw [hstands.append.getElem?_nil] at hb
      cases hb
    | cons d rest =>
      obtain ⟨b', hb', hd⟩ := hstands.append.exists_getElem?
      obtain rfl := Option.some.inj (hb.symm.trans hb')
      rcases hd with ⟨_, hd⟩ | ⟨_, hwide⟩
      · rw [hd]
        exact Bool.eq_false_iff.mpr (hflags.2 d rfl)
      · exact not_isAlpha_of_wide hwide
  · obtain ⟨front, rfl⟩ := List.getLast?_eq_some_iff.mp htext.getLast?
    obtain ⟨before, d, hread, hd⟩ : ∃ before d, '/' :: (front ++ ['/'] ++ flags) = before ++ [d] ∧
        d.toNat < 128 ∧ d ≠ '=' := by
      rcases List.eq_nil_or_concat flags with rfl | ⟨init, d, rfl⟩
      · exact ⟨'/' :: front, '/', by simp, by decide⟩
      · have halpha := hflags.1 d (by simp)
        exact ⟨'/' :: (front ++ ['/'] ++ init), d, by simp, ascii_of_isAlpha halpha,
          fun hequals ↦ by rw [hequals] at halpha; cases halpha⟩
    have hstands := h.stands
    rw [← List.cons_append, hread, List.append_assoc] at hstands
    rw [hread, byteSize_append, ← Nat.add_assoc, byteSize_cons, utf8Size_of_ascii hd.1]
    refine notBehind_succ (hstands.append.getElem?_ascii hd.1) ?_
    rw [asChar_toUInt8 hd.1]
    exact hd.2

/-- A comment is not remembered. -/
theorem Couples.comment {read : List Char} (h : Couples src st s (read ++ rest))
    (hend : ∀ b, src[st.pos + byteSize read]? = some b → isWordByte b ∨ asChar b = '>' →
      wordBefore src (st.pos + byteSize read) = [] ∧
        NotBehind src (st.pos + byteSize read) '=') :
    Couples src { st with pos := st.pos + byteSize read } s.afterSpace rest := by
  have hlength := h.stands.length_eq h.pos_le
  rw [byteSize_append] at hlength
  exact ⟨h.stands.append, by dsimp only; omega, h.parens, h.braces, h.closed,
    h.recalls.of_eq rfl rfl, .apart hend⟩

theorem Couples.afterBlockComment {text : List Char}
    (h : Couples src st s (('/' :: '*' :: text) ++ rest)) (htext : BlockCommentRest text) :
    Couples src { st with pos := st.pos + byteSize ('/' :: '*' :: text) } s.afterSpace rest := by
  refine h.comment fun _ _ _ ↦ ?_
  obtain ⟨front, rfl⟩ := List.getLast?_eq_some_iff.mp htext.getLast?
  have hstands : Stands src st.pos (('/' :: '*' :: front) ++ '/' :: rest) := by
    simpa using h.stands
  have hend : st.pos + byteSize ('/' :: '*' :: (front ++ ['/'])) =
      st.pos + byteSize ('/' :: '*' :: front) + 1 := by
    simp [Nat.add_assoc]
  rw [hend]
  exact hstands.behind _ (by decide) (by decide) (by decide)

theorem Couples.afterLineComment {line : List Char} (h : Couples src st s (line ++ rest))
    (hline : CommentLineBefore line rest) :
    Couples src { st with pos := st.pos + byteSize line } s.afterSpace rest := by
  refine h.comment fun b hb hbyte ↦ ?_
  -- the comment ends in front of a line feed, or the text ends
  exfalso
  rcases hline.2 with rfl | hbreak
  · rw [h.stands.append.getElem?_nil] at hb
    cases hb
  · obtain ⟨after, rfl⟩ := List.head?_eq_some_iff.mp hbreak
    rw [h.stands.append.getElem?_ascii (by decide), Option.some.injEq] at hb
    subst hb
    rw [isWordByte, asChar_toUInt8 (by decide)] at hbyte
    revert hbyte
    decide

/-! ### Templates -/

/-- Behind its closing backtick a template is remembered by its opening one. -/
theorem Nests.afterTemplate {start : Nat} (h : Nests src st s)
    (hstands : Stands src st.pos ('`' :: rest)) (hpos : st.pos ≤ src.length)
    (hopen : src[start]? = some '`'.toUInt8) :
    Couples src { st with prev := some start, pos := st.pos + 1 } s.afterLiteral rest := by
  obtain ⟨hbefore, hbehind⟩ :=
    hstands.behind [] (by decide) (by decide) (by decide)
  have hlength := hstands.length_eq hpos
  rw [byteSize_cons, utf8Size_of_ascii (by decide)] at hlength
  refine ⟨hstands.tail_ascii (by decide), by dsimp only; omega, h.parens, h.braces, h.closed,
    .literal rfl hopen ?_, .literal (fun _ _ ↦ .inl hbefore) hbehind⟩
  rw [asChar_toUInt8 (by decide)]
  simp

/-- A substitution starts like a text. -/
theorem Nests.enterSubstitution (h : Nests src st s)
    (hstands : Stands src st.pos ('$' :: '\x7b' :: rest)) (hpos : st.pos ≤ src.length)
    (start : Nat) :
    Couples src { st with pos := st.pos + 2, prev := none, braces := true :: st.braces }
      (s.enterSubstitution start) rest := by
  have hlength := hstands.length_eq hpos
  rw [byteSize_cons, byteSize_cons, utf8Size_of_ascii (by decide),
    utf8Size_of_ascii (by decide)] at hlength
  refine ⟨(hstands.tail_ascii (by decide)).tail_ascii (by decide), by dsimp only; omega, h.parens,
    congrArg (true :: ·) h.braces, h.closed, .nothing rfl, .apart fun _ _ _ ↦ ?_⟩
  exact hstands.behind ['$'] (by decide) (by decide) (by decide)

end BrowserScript.Wrapper.Bytes
