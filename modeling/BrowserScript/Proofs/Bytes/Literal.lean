import BrowserScript.Proofs.Bytes.Encoding

/-!
The skippers on bytes find the ends that the skippers on characters find. An escape takes one byte
behind its backslash, and the rest of the escaped character is passed byte by byte; where the text
ends behind the backslash, the place that is left is one behind the end, and no byte is looked up
there.
-/

set_option autoImplicit false
set_option relaxedAutoImplicit false

namespace BrowserScript.Wrapper.Bytes

open Text

/-- The place behind a literal, or the report that it has none. -/
def endOr (kind : LiteralKind) (start : Nat) : Option Place → Except Stop Nat
  | some p => .ok p.offset
  | none => .error (.unterminated kind start)

variable {src : List UInt8} {start pos : Nat} {text : List Char}

/-! ### Strings -/

theorem skipString_of_none {quote : Char} (h : src[pos]? = none) :
    skipString src quote start pos = .error (.unterminated .stringLiteral start) := by
  rw [skipString]
  split <;> simp_all

theorem skipString_of_some {quote : Char} {b : UInt8} (h : src[pos]? = some b) :
    skipString src quote start pos =
      if asChar b = '\\' then skipString src quote start (pos + 2)
      else if asChar b = '\n' then .error (.unterminated .stringLiteral start)
      else if asChar b = quote then .ok (pos + 1)
      else skipString src quote start (pos + 1) := by
  rw [skipString]
  split <;> simp_all

theorem skipString_of_wide {quote : Char} (hquote : quote.toNat < 128) {i : Nat} {b : UInt8}
    (h : src[i]? = some b) (hb : 128 ≤ (asChar b).toNat) :
    skipString src quote start i = skipString src quote start (i + 1) := by
  have hne : ∀ d : Char, d.toNat < 128 → asChar b ≠ d := fun d hd heq ↦ by
    rw [heq] at hb
    omega
  rw [skipString_of_some h, if_neg (hne _ (by decide)), if_neg (hne _ (by decide)),
    if_neg (hne _ hquote)]

theorem skipString_eq {quote : Char} (hquote : quote.toNat < 128) (h : Stands src pos text) :
    skipString src quote start pos =
      endOr .stringLiteral start (Wrapper.skipString quote pos text) := by
  fun_induction Wrapper.skipString quote pos text with
  | case1 pos => exact skipString_of_none h.getElem?_nil
  | case2 pos =>
    have hnone : src[pos + 2]? = none := by
      have hend := (h.tail_ascii (by decide)).getElem?_eq 1
      simpa using hend
    rw [skipString_of_some (h.getElem?_ascii (by decide)), if_pos (asChar_toUInt8 (by decide)),
      skipString_of_none hnone]
    rfl
  | case3 pos e rest ih =>
    have hescaped := h.tail_ascii (by decide)
    have hskip := hescaped.eq_of_escaped (f := skipString src quote start) fun i b ↦
      skipString_of_wide hquote
    rw [skipString_of_some (h.getElem?_ascii (by decide)), if_pos (asChar_toUInt8 (by decide)),
      hskip, ih hescaped.tail]
  | case4 pos rest =>
    rw [skipString_of_some (h.getElem?_ascii (by decide)),
      if_neg (by rw [asChar_toUInt8] <;> decide), if_pos (asChar_toUInt8 (by decide))]
    rfl
  | case5 pos rest hescape hbreak =>
    rw [skipString_of_some (h.getElem?_ascii hquote), asChar_toUInt8 hquote, if_neg hescape,
      if_neg hbreak, if_pos rfl]
    rfl
  | case6 pos c rest hescape hbreak hclose ih =>
    rw [← ih h.tail]
    refine h.eq_of_passed fun i b hb hc ↦ ?_
    rcases hc with rfl | hwide
    · rw [skipString_of_some hb, if_neg hescape, if_neg hbreak, if_neg hclose]
    · exact skipString_of_wide hquote hb hwide

/-! ### Regular expressions -/

theorem skipFlags_of_none (h : src[pos]? = none) : skipFlags src pos = pos := by
  rw [skipFlags]
  split <;> simp_all

theorem skipFlags_of_some {b : UInt8} (h : src[pos]? = some b) :
    skipFlags src pos = if (asChar b).isAlpha then skipFlags src (pos + 1) else pos := by
  rw [skipFlags]
  split <;> simp_all

theorem not_isAlpha_of_wide {c : Char} (h : 128 ≤ c.toNat) : c.isAlpha = false := by
  by_contra halpha
  have hsize := utf8Size_of_isAlpha (by simpa using halpha)
  have hle := UInt32.le_iff_toNat_le.mp (Char.utf8Size_eq_one_iff.mp hsize)
  exact absurd (Nat.le_trans h hle) (by decide)

theorem ascii_of_isAlpha {c : Char} (h : c.isAlpha) : c.toNat < 128 := by
  by_contra hwide
  rw [not_isAlpha_of_wide (Nat.not_lt.mp hwide)] at h
  cases h

theorem skipFlags_eq (h : Stands src pos text) :
    skipFlags src pos = (Wrapper.skipFlags pos text).offset := by
  fun_induction Wrapper.skipFlags pos text with
  | case1 pos => exact skipFlags_of_none h.getElem?_nil
  | case2 pos c rest hc ih =>
    have hascii := ascii_of_isAlpha hc
    rw [skipFlags_of_some (h.getElem?_ascii hascii), asChar_toUInt8 hascii, if_pos hc,
      ih (h.tail_ascii hascii)]
  | case3 pos c rest hc =>
    obtain ⟨b, hb, ⟨_, rfl⟩ | ⟨_, hwide⟩⟩ := h.exists_getElem?
    · rw [skipFlags_of_some hb, if_neg hc]
    · rw [skipFlags_of_some hb, not_isAlpha_of_wide hwide]
      rfl

theorem skipRegex_of_none {inClass : Bool} (h : src[pos]? = none) :
    skipRegex src start inClass pos = .error (.unterminated .regex start) := by
  rw [skipRegex]
  split <;> simp_all

theorem skipRegex_of_some {inClass : Bool} {b : UInt8} (h : src[pos]? = some b) :
    skipRegex src start inClass pos =
      if asChar b = '\\' then skipRegex src start inClass (pos + 2)
      else if asChar b = '\n' then .error (.unterminated .regex start)
      else if asChar b = '[' then skipRegex src start true (pos + 1)
      else if asChar b = ']' then skipRegex src start false (pos + 1)
      else if asChar b = '/' ∧ inClass = false then .ok (skipFlags src (pos + 1))
      else skipRegex src start inClass (pos + 1) := by
  rw [skipRegex]
  split <;> simp_all

theorem skipRegex_of_wide {inClass : Bool} {i : Nat} {b : UInt8} (h : src[i]? = some b)
    (hb : 128 ≤ (asChar b).toNat) :
    skipRegex src start inClass i = skipRegex src start inClass (i + 1) := by
  have hne : ∀ d : Char, d.toNat < 128 → asChar b ≠ d := fun d hd heq ↦ by
    rw [heq] at hb
    omega
  rw [skipRegex_of_some h, if_neg (hne _ (by decide)), if_neg (hne _ (by decide)),
    if_neg (hne _ (by decide)), if_neg (hne _ (by decide)),
    if_neg fun hslash ↦ hne _ (by decide) hslash.1]

theorem skipRegex_eq {inClass : Bool} (h : Stands src pos text) :
    skipRegex src start inClass pos =
      endOr .regex start (Wrapper.skipRegex inClass pos text) := by
  fun_induction Wrapper.skipRegex inClass pos text with
  | case1 inClass pos => exact skipRegex_of_none h.getElem?_nil
  | case2 inClass pos =>
    have hnone : src[pos + 2]? = none := by
      have hend := (h.tail_ascii (by decide)).getElem?_eq 1
      simpa using hend
    rw [skipRegex_of_some (h.getElem?_ascii (by decide)), if_pos (asChar_toUInt8 (by decide)),
      skipRegex_of_none hnone]
    rfl
  | case3 inClass pos e rest ih =>
    have hescaped := h.tail_ascii (by decide)
    have hskip := hescaped.eq_of_escaped (f := skipRegex src start inClass) fun i b ↦
      skipRegex_of_wide
    rw [skipRegex_of_some (h.getElem?_ascii (by decide)), if_pos (asChar_toUInt8 (by decide)),
      hskip, ih hescaped.tail]
  | case4 inClass pos rest =>
    rw [skipRegex_of_some (h.getElem?_ascii (by decide)), asChar_toUInt8 (by decide)]
    rfl
  | case5 inClass pos rest _ _ ih =>
    rw [skipRegex_of_some (h.getElem?_ascii (by decide)), asChar_toUInt8 (by decide),
      ← ih (h.tail_ascii (by decide))]
    rfl
  | case6 inClass pos rest _ _ _ ih =>
    rw [skipRegex_of_some (h.getElem?_ascii (by decide)), asChar_toUInt8 (by decide),
      ← ih (h.tail_ascii (by decide))]
    rfl
  | case7 inClass pos c rest hescape hbreak hopen hclose hend =>
    obtain ⟨rfl, rfl⟩ := hend
    rw [skipRegex_of_some (h.getElem?_ascii (by decide)), asChar_toUInt8 (by decide),
      skipFlags_eq (h.tail_ascii (by decide))]
    rfl
  | case8 inClass pos c rest hescape hbreak hopen hclose hend ih =>
    rw [← ih h.tail]
    refine h.eq_of_passed fun i b hb hc ↦ ?_
    rcases hc with rfl | hwide
    · rw [skipRegex_of_some hb, if_neg hescape, if_neg hbreak, if_neg hopen, if_neg hclose,
        if_neg hend]
    · exact skipRegex_of_wide hb hwide

/-! ### Comments -/

/-- The rest of a text is a part of it that can be cut out. -/
theorem part_of_stands (h : Stands src pos text) (hpos : pos ≤ src.length) :
    part src pos src.length = .ok (encode text) := by
  rw [part, if_pos ⟨hpos, Nat.le_refl _⟩, List.take_length]
  exact congrArg Except.ok h

/-- The bytes of a text without a character of ASCII do not stand for it. -/
theorem asChar_ne_of_mem {d : Char} (hd : d.toNat < 128) (htext : d ∉ text) {b : UInt8}
    (hb : b ∈ encode text) : asChar b ≠ d := by
  obtain ⟨c, hc, hbyte⟩ := List.mem_flatMap.mp hb
  rintro rfl
  rcases Nat.lt_or_ge c.toNat 128 with hascii | hwide
  · rw [utf8EncodeChar_of_ascii hascii, List.mem_singleton] at hbyte
    rw [hbyte, asChar_toUInt8 hascii] at htext
    exact htext hc
  · exact Nat.not_le.mpr hd (le_asChar_of_mem hwide hbyte)

theorem skipLineComment_eq (h : Stands src pos text) (hpos : pos ≤ src.length) :
    skipLineComment src pos = .ok (Wrapper.skipLineComment pos text).offset := by
  obtain ⟨line, ⟨hline, hend⟩, hsplit, hoffset⟩ :=
    skipLineComment_eq_iff.mp (Eq.refl (Wrapper.skipLineComment pos text))
  generalize (Wrapper.skipLineComment pos text).rest = rest at hend hsplit
  have hlength := h.length_eq hpos
  have hnone : (encode line).findIdx? (fun b ↦ asChar b = '\n') = none := by
    rw [List.findIdx?_eq_none_iff]
    intro b hb
    exact decide_eq_false (asChar_ne_of_mem (by decide) hline hb)
  rw [skipLineComment, part_of_stands h hpos, hoffset, hsplit]
  simp only [bind, Except.bind, pure, Except.pure, encode_append, List.findIdx?_append, hnone]
  rw [hsplit, byteSize_append] at hlength
  rcases hend with rfl | hend
  · simp [hlength]
  · obtain ⟨after, rfl⟩ : ∃ after, rest = '\n' :: after := by
      cases rest with
      | nil => cases hend
      | cons c after =>
        cases hend
        exact ⟨after, rfl⟩
    have hbreak : asChar '\n'.toUInt8 = '\n' := asChar_toUInt8 (by decide)
    simp [utf8EncodeChar_of_ascii (show '\n'.toNat < 128 by decide), List.findIdx?_cons, hbreak]

/-- The end of a comment is looked for one byte further on. -/
theorem commentEnd_cons {b : UInt8} {bytes : List UInt8}
    (h : ¬(asChar b = '*' ∧ bytes.head?.any (asChar · = '/'))) :
    commentEnd (b :: bytes) = (commentEnd bytes).map (· + 1) := by
  cases bytes with
  | nil => rfl
  | cons b' bytes => rw [commentEnd, if_neg (by simpa using h)]

theorem commentEnd_append {wide : List UInt8} (h : ∀ b ∈ wide, asChar b ≠ '*')
    (bytes : List UInt8) :
    commentEnd (wide ++ bytes) = (commentEnd bytes).map (· + wide.length) := by
  induction wide with
  | nil => simp
  | cons b wide ih =>
    obtain ⟨hb, hwide⟩ := List.forall_mem_cons.mp h
    rw [List.cons_append, commentEnd_cons fun hend ↦ hb hend.1, ih hwide, Option.map_map]
    rfl

/-- The end of a comment is found where the skipper on characters finds it. -/
theorem map_commentEnd (offset : Nat) (text : List Char) :
    (commentEnd (encode text)).map (fun i ↦ offset + i + 2) =
      (Wrapper.skipBlockComment offset text).map Place.offset := by
  fun_induction Wrapper.skipBlockComment offset text with
  | case1 => rfl
  | case2 offset c rest hend =>
    obtain ⟨rfl, hslash⟩ := hend
    obtain ⟨after, rfl⟩ : ∃ after, rest = '/' :: after := by
      cases rest with
      | nil => cases hslash
      | cons d after =>
        cases hslash
        exact ⟨after, rfl⟩
    rfl
  | case3 offset c rest hopen ih =>
    rw [← ih, encode_cons]
    rcases Nat.lt_or_ge c.toNat 128 with hc | hc
    · have hnext : ¬(asChar c.toUInt8 = '*' ∧ (encode rest).head?.any (asChar · = '/')) := by
        rw [asChar_toUInt8 hc]
        rintro ⟨rfl, hslash⟩
        have hhead := (Stands.whole rest).any_head? (d := '/') (by decide)
        rw [← List.head?_eq_getElem?] at hhead
        exact hopen ⟨rfl, hhead.mp hslash⟩
      rw [utf8EncodeChar_of_ascii hc, List.singleton_append, commentEnd_cons hnext,
        utf8Size_of_ascii hc, Option.map_map]
      congr 1
      funext i
      simp only [Function.comp_apply]
      omega
    · have hwide : ∀ b ∈ String.utf8EncodeChar c, asChar b ≠ '*' := by
        intro b hb heq
        have hle := le_asChar_of_mem hc hb
        rw [heq] at hle
        exact absurd hle (by decide)
      rw [commentEnd_append hwide, String.length_utf8EncodeChar, Option.map_map]
      congr 1
      funext i
      simp only [Function.comp_apply]
      omega

theorem skipBlockComment_eq (h : Stands src (start + 2) text) (hpos : start + 2 ≤ src.length) :
    skipBlockComment src start =
      endOr .blockComment start (Wrapper.skipBlockComment (start + 2) text) := by
  have hfind := map_commentEnd (start + 2) text
  rw [skipBlockComment, part_of_stands h hpos]
  simp only [bind, Except.bind]
  cases hend : commentEnd (encode text) with
  | none =>
    rw [hend, Option.map_none, eq_comm, Option.map_eq_none_iff] at hfind
    rw [hfind]
    rfl
  | some i =>
    rw [hend, Option.map_some, eq_comm, Option.map_eq_some_iff] at hfind
    obtain ⟨p, hp, hoffset⟩ := hfind
    rw [hp, endOr, hoffset]
    rfl

end BrowserScript.Wrapper.Bytes
