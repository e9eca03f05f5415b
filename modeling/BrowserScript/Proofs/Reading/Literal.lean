import BrowserScript.Proofs.Reading.Stretch
import BrowserScript.Script.Token.Text

/-!
The texts that readers of literals take. An escape takes one character, with digits behind it,
unless it is one of the few long ones (`readEscape_forms`). Strings, template text and patterns of
regular expressions that are read without a fault therefore have the forms by which a reader of
wrappers knows them, or hold a long escape (`exists_stringRest_of_readString`,
`exists_stretch_of_readChunk`, `exists_regexRest_of_readRegexPattern`).
-/

set_option autoImplicit false
set_option relaxedAutoImplicit false

namespace BrowserScript.Reading

open Script Wrapper

/-! ### Escapes -/

/-- Characters of digits and names that no literal ends with. -/
def IsDigitLike (c : Char) : Prop := c.isAlphanum ∨ c = '_'

theorem IsDigitLike.not_special {c : Char} (h : IsDigitLike c) :
    c ∉ ['\'', '"', '`', '/', '\x7b', '\x7d', '\\', '\n', '$'] := by
  intro hc
  simp only [List.mem_cons, List.not_mem_nil, or_false] at hc
  rcases hc with rfl | rfl | rfl | rfl | rfl | rfl | rfl | rfl | rfl <;> revert h <;>
    simp [IsDigitLike]

theorem isDigitLike_of_digitBelow? {radix d : Nat} {c : Char} (h : digitBelow? radix c = some d) :
    IsDigitLike c := by
  obtain ⟨hvalue, _⟩ := Option.filter_eq_some_iff.mp h
  refine .inl ?_
  rw [digitValue?] at hvalue
  simp only [Char.isAlphanum, Char.isAlpha, Char.isUpper, Char.isLower, Char.isDigit,
    Bool.or_eq_true, Bool.and_eq_true, decide_eq_true_eq]
  split at hvalue
  · next hdigit => exact .inr hdigit
  · split at hvalue
    · next hlower => exact .inl (.inr hlower)
    · split at hvalue
      · next hupper => exact .inl (.inl hupper)
      · cases hvalue

theorem forall_take_readEscapeDigits (count value : Nat) (cs : List Char) :
    ∀ c ∈ cs.take (readEscapeDigits count value cs).length, IsDigitLike c := by
  fun_induction readEscapeDigits count value cs with
  | case1 | case2 | case4 => simp
  | case3 count value rest more ih => exact List.forall_mem_cons.mpr ⟨.inr rfl, ih⟩
  | case5 count value c rest _ d hd more ih =>
    refine List.forall_mem_cons.mpr ⟨isDigitLike_of_digitBelow? hd, ?_⟩
    by_cases hlimit : value * 16 + d < escapeLimit
    · simpa only [more, if_pos hlimit] using ih
    · simp [more, if_neg hlimit]

theorem length_digits_readEscapeDigits_le (count value : Nat) (cs : List Char) :
    (readEscapeDigits count value cs).digits.length ≤ (readEscapeDigits count value cs).length := by
  fun_induction readEscapeDigits count value cs with
  | case1 | case2 | case4 => exact Nat.le_refl _
  | case3 count value rest more ih => exact Nat.le_succ_of_le ih
  | case5 count value c rest _ d hd more ih =>
    refine Nat.succ_le_succ ?_
    by_cases hlimit : value * 16 + d < escapeLimit
    · simpa only [more, if_pos hlimit] using ih
    · simp [more, if_neg hlimit]

/-- The text of an escape, behind its backslash. -/
def EscapeText (text : List Char) : Prop :=
  ∃ c more, text = c :: more ∧
    ((∀ d ∈ more, IsDigitLike d) ∨ c = '\r' ∧ more = ['\n'] ∨ c = 'u' ∧ more.head? = some '\x7b')

variable {cs : List Char}

theorem escapeText_single (c : Char) (rest : List Char) : EscapeText ((c :: rest).take 1) :=
  ⟨c, [], rfl, .inl (by simp)⟩

theorem escapeText_of_digits {c : Char} {rest : List Char} {n : Nat}
    (hdigits : ∀ d ∈ rest.take n, IsDigitLike d) : EscapeText ((c :: rest).take (1 + n)) :=
  ⟨c, rest.take n, by rw [Nat.add_comm, List.take_succ_cons], .inl hdigits⟩

theorem two_le_length_readBracedEscape (cs : List Char) : 2 ≤ (readBracedEscape cs).length := by
  unfold readBracedEscape
  extract_lets digits separator n length itself
  split
  · exact Nat.le_add_right 2 _
  · split
    · exact Nat.le_add_right 2 _
    · split
      next chars length' hpair =>
      have hlength : 2 ≤ length' := by
        split at hpair <;> cases hpair <;> exact Nat.le_add_right 2 _
      split
      · exact Nat.le_succ_of_le hlength
      · exact hlength

theorem escapeText_readFourDigitEscape (c : Char) (cs : List Char) :
    EscapeText ((c :: cs).take (readFourDigitEscape cs).length) := by
  have hdigits := forall_take_readEscapeDigits 4 0 cs
  have hle := length_digits_readEscapeDigits_le 4 0 cs
  unfold readFourDigitEscape
  extract_lets digits separator n length itself
  split
  · exact escapeText_of_digits hdigits
  · next hfour =>
    split
    · refine escapeText_of_digits fun d hd ↦ hdigits d ?_
      have hsub : cs.take itself.length <+: cs.take digits.length := by
        refine List.take_prefix_take_left (Nat.le_trans ?_ (Nat.le_trans (Nat.not_lt.mp hfour) hle))
        exact (List.length_take_le 4 cs)
      exact hsub.subset hd
    · exact escapeText_of_digits hdigits

theorem escapeText_readTwoDigitEscape (c : Char) (cs : List Char) :
    EscapeText ((c :: cs).take (readTwoDigitEscape cs).length) := by
  have hdigits := forall_take_readEscapeDigits 2 0 cs
  unfold readTwoDigitEscape
  extract_lets digits separator length
  split <;> exact escapeText_of_digits hdigits

theorem escapeText_readUnicodeEscape (cs : List Char) :
    EscapeText (('u' :: cs).take (readUnicodeEscape cs).length) := by
  unfold readUnicodeEscape
  split
  · next rest =>
    obtain ⟨n, hn⟩ := Nat.exists_eq_add_of_le (two_le_length_readBracedEscape rest)
    rw [hn, Nat.add_comm]
    exact ⟨'u', '\x7b' :: rest.take n, by simp, .inr (.inr ⟨rfl, rfl⟩)⟩
  · exact escapeText_readFourDigitEscape 'u' _

theorem forall_take_leadingOctal {n : Nat} (hn : n ≤ (leadingOctal cs).length) :
    ∀ c ∈ cs.take n, IsDigitLike c := by
  have hwhile := List.takeWhile_prefix (l := cs) fun c ↦ (digitBelow? 8 c).isSome
  intro c hc
  rw [leadingOctal] at hn
  have hsub : cs.take n <+: cs.takeWhile fun c ↦ (digitBelow? 8 c).isSome := by
    rw [List.prefix_iff_eq_take.mp hwhile]
    exact List.take_prefix_take_left (Nat.le_trans hn (List.length_filterMap_le _ _))
  obtain ⟨d, hd⟩ := Option.isSome_iff_exists.mp
    (List.all_eq_true.mp List.all_takeWhile c (hsub.subset hc))
  exact isDigitLike_of_digitBelow? hd

theorem escapeText_readOctalEscape {c : Char} {rest : List Char}
    (hc : (digitBelow? 8 c).isSome) :
    EscapeText ((c :: rest).take (readOctalEscape (c :: rest)).length) := by
  obtain ⟨d, hd⟩ := Option.isSome_iff_exists.mp hc
  have hfirst : leadingOctal ((c :: rest).take 3) = d :: leadingOctal (rest.take 2) := by
    simp [leadingOctal, hd]
  have hlength : ∃ n, (readOctalEscape (c :: rest)).length = n + 1 ∧
      n + 1 ≤ (leadingOctal ((c :: rest).take 3)).length := by
    simp only [readOctalEscape, hfirst]
    split
    · refine ⟨min 1 (leadingOctal (rest.take 2)).length, by simp, ?_⟩
      simp only [List.length_cons]
      omega
    · exact ⟨_, rfl, Nat.le_refl _⟩
  obtain ⟨n, hn, hle⟩ := hlength
  have hall := forall_take_leadingOctal hle
  have hthree : (leadingOctal ((c :: rest).take 3)).length ≤ 3 := by
    refine Nat.le_trans (List.length_filterMap_le _ _) ?_
    refine Nat.le_trans (List.takeWhile_prefix _).length_le (List.length_take_le 3 _)
  rw [List.take_take, Nat.min_eq_left (Nat.le_trans hle hthree), List.take_succ_cons] at hall
  rw [hn, List.take_succ_cons]
  exact ⟨c, rest.take n, rfl, .inl (List.forall_mem_cons.mp hall).2⟩

/-- An escape is one character, which digits may follow, or one of the two long forms. -/
theorem escapeText_readEscape (h : cs ≠ []) : EscapeText (cs.take (readEscape cs).length) := by
  fun_cases readEscape cs with
  | case1 => exact (h rfl).elim
  | case8 rest =>
    split
    · next hpair =>
      refine ⟨'\r', ['\n'], ?_, .inr (.inl ⟨rfl, rfl⟩)⟩
      rw [eq_cons_of_head? hpair]
      rfl
    · exact escapeText_single _ _
  | case10 rest => exact escapeText_readTwoDigitEscape 'x' rest
  | case11 rest => exact escapeText_readUnicodeEscape rest
  | case13 c rest _ _ _ _ _ _ _ _ _ _ _ hc => exact escapeText_readOctalEscape hc
  | _ => exact escapeText_single _ _

theorem HoldsLongEscape.append {text : List Char} (h : HoldsLongEscape text) (part : List Char) :
    HoldsLongEscape (part ++ text) :=
  h.imp (·.trans (List.suffix_append part text).isInfix)
    (·.trans (List.suffix_append part text).isInfix)

/-! ### Strings -/

variable {quote : Char} {part text : List Char}

theorem stringRest_append (hquote : quote = '\'' ∨ quote = '"') (hpart : ∀ c ∈ part, IsDigitLike c)
    (htext : StringRest quote text) : StringRest quote (part ++ text) := by
  induction part with
  | nil => exact htext
  | cons c part ih =>
    obtain ⟨hc, hrest⟩ := List.forall_mem_cons.mp hpart
    have hspecial := hc.not_special
    simp only [List.mem_cons, List.not_mem_nil, or_false, not_or] at hspecial
    refine .char (by simp [hspecial]) (by simp [hspecial]) ?_ (ih hrest)
    rcases hquote with rfl | rfl <;> simp [hspecial]

/-- A string with an escape in front has the form of a string, or holds a long escape. -/
theorem stringRest_escape (hquote : quote = '\'' ∨ quote = '"') (hpart : EscapeText part)
    (htext : StringRest quote text ∨ HoldsLongEscape text) :
    StringRest quote ('\\' :: part ++ text) ∨ HoldsLongEscape ('\\' :: part ++ text) := by
  rcases htext with htext | htext
  · obtain ⟨c, more, rfl, hdigits | ⟨rfl, rfl⟩ | ⟨rfl, hbrace⟩⟩ := hpart
    · exact .inl (.escape c (stringRest_append hquote hdigits htext))
    · exact .inr (.inl (List.prefix_append ['\\', '\r', '\n'] text).isInfix)
    · rw [eq_cons_of_head? hbrace]
      exact .inr (.inr (List.prefix_append ['\\', 'u', '\x7b'] _).isInfix)
  · exact .inr (htext.append _)

/-- What is read as a string without a fault, up to its closing quote. -/
theorem exists_stringRest_of_readStringFrom (hquote : quote = '\'' ∨ quote = '"') (strict : Bool)
    (start : Nat) (read : List Char) (faults : List Placed) (pos : Nat) (cs : List Char)
    (hfatal : (readStringFrom strict quote start read faults pos cs).fatal = none)
    (hfaults : (readStringFrom strict quote start read faults pos cs).faults = []) :
    ∃ text, cs = text ++ (readStringFrom strict quote start read faults pos cs).after.text ∧
      (StringRest quote text ∨ HoldsLongEscape text) := by
  fun_induction readStringFrom strict quote start read faults pos cs with
  | case1 => cases (List.append_eq_nil_iff.mp hfaults).2
  | case2 read faults pos rest => exact ⟨[quote], rfl, .inl .close⟩
  | case3 => cases (List.append_eq_nil_iff.mp hfaults).2
  | case4 => cases hfatal
  | case5 read faults pos rest escape faults' after chars hchars _ _ ih =>
    obtain ⟨text, hafter, htext⟩ := ih hfatal hfaults
    have hrest : rest ≠ [] := by
      rintro rfl
      cases hchars
    refine ⟨'\\' :: rest.take escape.length ++ text, ?_,
      stringRest_escape hquote (escapeText_readEscape hrest) htext⟩
    rw [List.append_assoc, ← hafter, List.cons_append, List.take_append_drop]
  | case6 read faults pos c rest hc hbreak hescape ih =>
    obtain ⟨text, hrest, htext⟩ := ih hfatal hfaults
    refine ⟨c :: text, congrArg (c :: ·) hrest, htext.imp (fun h ↦ ?_) fun h ↦ h.append [c]⟩
    exact .char hescape (fun h ↦ hbreak (.inl h)) hc h

theorem exists_stringRest_of_readString (hquote : quote = '\'' ∨ quote = '"') {strict : Bool}
    {start : Nat} (hfatal : (readString strict quote start cs).fatal = none)
    (hfaults : (readString strict quote start cs).faults = []) :
    ∃ text, cs = text ++ (readString strict quote start cs).after.text ∧
      (StringRest quote text ∨ HoldsLongEscape text) :=
  exists_stringRest_of_readStringFrom hquote strict start [] [] (start + 1) cs hfatal hfaults

/-! ### Template text -/

theorem templateStretch_append (hpart : ∀ c ∈ part, IsDigitLike c) (htext : TemplateStretch text) :
    TemplateStretch (part ++ text) := by
  induction part with
  | nil => exact htext
  | cons c part ih =>
    obtain ⟨hc, hrest⟩ := List.forall_mem_cons.mp hpart
    have hspecial := hc.not_special
    simp only [List.mem_cons, List.not_mem_nil, or_false, not_or] at hspecial
    exact .char (by simp [hspecial]) (by simp [hspecial]) (by simp [hspecial]) (ih hrest)

theorem templateStretch_escape (hpart : EscapeText part)
    (htext : TemplateStretch text ∨ HoldsLongEscape text) :
    TemplateStretch ('\\' :: part ++ text) ∨ HoldsLongEscape ('\\' :: part ++ text) := by
  rcases htext with htext | htext
  · obtain ⟨c, more, rfl, hdigits | ⟨rfl, rfl⟩ | ⟨rfl, hbrace⟩⟩ := hpart
    · exact .inl (.escape c (templateStretch_append hdigits htext))
    · exact .inl (.escape '\r' (.char (by decide) (by decide) (by simp) htext))
    · rw [eq_cons_of_head? hbrace]
      exact .inr (.inr (List.prefix_append ['\\', 'u', '\x7b'] _).isInfix)
  · exact .inr (htext.append _)

/-- The mark that ends a stretch of template text. -/
def chunkMark (opensSubstitution : Bool) : List Char :=
  if opensSubstitution then ['$', '\x7b'] else ['`']

/-- Template text in front of the mark that ends it. -/
def EndsChunk (cs : List Char) (chunk : TemplateChunk) : Prop :=
  ∃ text, cs = text ++ chunk.after.text ∧ (TemplateStretch text ∨ HoldsLongEscape text) ∧
    chunkMark chunk.opensSubstitution <+: chunk.after.text

variable {chunk : TemplateChunk}

theorem EndsChunk.nil (hcs : cs = chunk.after.text)
    (hmark : chunkMark chunk.opensSubstitution <+: cs) : EndsChunk cs chunk :=
  ⟨[], hcs, .inl .nil, hcs ▸ hmark⟩

theorem EndsChunk.char {c : Char} (h : EndsChunk cs chunk) (hescape : c ≠ '\\') (hquote : c ≠ '`')
    (hopen : ¬(c = '$' ∧ cs.head? = some '\x7b')) : EndsChunk (c :: cs) chunk := by
  obtain ⟨text, rfl, htext, hmark⟩ := h
  refine ⟨c :: text, rfl, htext.imp (fun h ↦ .char hescape hquote ?_ h) fun h ↦ h.append [c], hmark⟩
  cases text with
  | nil => simp
  | cons d text => exact hopen

theorem EndsChunk.escape {n : Nat} (h : EndsChunk (cs.drop n) chunk)
    (hpart : EscapeText (cs.take n)) : EndsChunk ('\\' :: cs) chunk := by
  obtain ⟨text, htext, hform, hmark⟩ := h
  refine ⟨'\\' :: cs.take n ++ text, ?_, templateStretch_escape hpart hform, hmark⟩
  rw [List.append_assoc, ← htext, List.cons_append, List.take_append_drop]

/-- What is read as template text, up to the mark that ends it. -/
theorem endsChunk_readChunkFrom (chunk : TemplateChunk) (pos : Nat) (cs : List Char)
    (hopens : chunk.opensSubstitution = false)
    (hclosed : (readChunkFrom chunk pos cs).isClosed = true) :
    EndsChunk cs (readChunkFrom chunk pos cs) := by
  fun_induction readChunkFrom chunk pos cs with
  | case1 => cases hclosed
  | case2 chunk pos rest => exact .nil rfl (by simp [chunkMark, hopens])
  | case3 chunk pos c rest _ hopen =>
    refine .nil rfl ?_
    rw [hopen.1, eq_cons_of_head? hopen.2]
    exact List.prefix_append ['$', '\x7b'] _
  | case4 chunk pos rest escape chars fault _ _ _ ih =>
    have hrest : rest ≠ [] := by
      rintro rfl
      rw [List.drop_nil, readChunkFrom] at hclosed
      cases hclosed
    exact (ih hopens hclosed).escape (escapeText_readEscape hrest)
  | case5 chunk pos c rest hquote hopen hescape isPair read ih =>
    have hmore := ih hopens hclosed
    -- a line break of two characters is read at once
    by_cases hpair : c = '\r' ∧ rest.head? = some '\n'
    · have hread : isPair = true := by simp [isPair, hpair]
      simp only [hread, dif_pos, if_pos] at hmore ⊢
      have hfeed := hmore.char (show '\n' ≠ '\\' by decide) (by decide) (by simp)
      rw [← eq_cons_of_head? hpair.2] at hfeed
      exact hfeed.char hescape hquote hopen
    · have hread : isPair = false := by simpa [isPair] using hpair
      simp only [hread] at hmore ⊢
      exact hmore.char hescape hquote hopen

/-! ### Regular expressions -/

/-- The rest of a regular expression; the second flag tells whether its first character stands
behind a backslash. -/
def PatternRest (inClass : Bool) : Bool → List Char → Prop
  | false, text => RegexRest inClass text
  | true, text => ∃ e more, text = e :: more ∧ RegexRest inClass more

/-- What is read as the pattern of a regular expression, up to its closing slash. -/
theorem exists_patternRest_of_readRegexPattern (inClass escaped : Bool) (read : List Char)
    (pos : Nat) (cs : List Char) {pattern : List Char} {after : Remaining}
    (h : readRegexPattern inClass escaped read pos cs = .ok (pattern, after)) :
    ∃ text, cs = text ++ after.text ∧ PatternRest inClass escaped text := by
  fun_induction readRegexPattern inClass escaped read pos cs with
  | case1 | case2 => cases h
  | case3 inClass read pos c rest _ ih =>
    obtain ⟨text, rfl, htext⟩ := ih h
    exact ⟨c :: text, rfl, c, text, rfl, htext⟩
  | case4 inClass escaped read pos c rest _ hescaped hslash =>
    cases h
    obtain rfl : escaped = false := by simpa using hescaped
    rw [hslash.1, hslash.2]
    exact ⟨['/'], rfl, .close⟩
  | case5 inClass escaped read pos c rest hbreak hescaped hslash next ih =>
    obtain ⟨text, rfl, htext⟩ := ih h
    obtain rfl : escaped = false := by simpa using hescaped
    refine ⟨c :: text, rfl, ?_⟩
    by_cases hback : c = '\\'
    · subst hback
      obtain ⟨e, more, rfl, hmore⟩ := htext
      exact .escape e hmore
    · rw [decide_eq_false hback] at htext
      by_cases hopen : c = '['
      · subst hopen
        exact .openClass htext
      · by_cases hclose : c = ']'
        · subst hclose
          exact .closeClass htext
        · have hsame : next = inClass := by simp [next, hopen, hclose]
          rw [hsame] at htext
          by_cases hmark : c = '/'
          · subst hmark
            obtain rfl : inClass = true := by simpa using hslash
            exact .slash htext
          · have hfeed : c ≠ '\n' := by
              rintro rfl
              exact hbreak rfl
            exact .char (by simp [hback, hopen, hclose, hmark, hfeed]) htext

end BrowserScript.Reading
