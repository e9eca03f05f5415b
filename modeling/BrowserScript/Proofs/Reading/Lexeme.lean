import BrowserScript.Proofs.Reading.Literal
import BrowserScript.Script.Token.Lexeme

/-!
What a token and the blanks in front of it take of a script. `Lexeme.Formed` says of each kind of
token which text it has; a token that is no brace, backtick or stray text is a stretch of the script
(`Lexeme.Formed.stretch`). The token that is read from a text on stands behind a stretch of blanks
and has its form, unless a fault has been met (`stretch_nextLexeme`, `formed_nextLexeme`).
-/

set_option autoImplicit false
set_option relaxedAutoImplicit false

namespace BrowserScript.Reading

open Script Wrapper

/-! ### Numbers -/

theorem IsDigitLike.plain {c : Char} (h : IsDigitLike c) :
    c ∉ ['\'', '"', '`', '/', '\x7b', '\x7d'] := by
  have hspecial := h.not_special
  simp only [List.mem_cons, List.not_mem_nil, or_false, not_or] at hspecial ⊢
  exact ⟨hspecial.1, hspecial.2.1, hspecial.2.2.1, hspecial.2.2.2.1, hspecial.2.2.2.2.1,
    hspecial.2.2.2.2.2.1⟩

variable {cs rest : List Char}

theorem stretch_readDigitRun (radix : Nat) (cs : List Char) :
    Stretch cs (readDigitRun radix cs).rest := by
  fun_induction readDigitRun radix cs with
  | case1 => exact .refl []
  | case2 rest run ih => exact .char (by decide) ih
  | case3 c rest => exact .refl (c :: rest)
  | case4 c rest _ d hd run ih => exact .char (isDigitLike_of_digitBelow? hd).plain ih

theorem stretch_drop_one {c : Char} (hc : c ∉ ['\'', '"', '`', '/', '\x7b', '\x7d'])
    (h : cs.head? = some c) : Stretch cs (cs.drop 1) := by
  have hstretch := Stretch.char hc (.refl (cs.drop 1))
  rwa [← eq_cons_of_head? h] at hstretch

/-- A number, or what should have been one, has been read from a text on. -/
structure TakesNumber (cs : List Char) (step : TokenStep) : Prop where
  stretch : Stretch cs step.after.text
  token : match step.token with
    | .number .. | .bigint .. | .stray _ => True
    | _ => False

theorem TakesNumber.refuseName {step : TokenStep} (h : TakesNumber cs step) :
    TakesNumber cs (Script.refuseName step) := by
  unfold Script.refuseName
  split
  · exact ⟨h.stretch, trivial⟩
  · exact h

theorem takesNumber_readRadixNumber {radix start : Nat} (h : Stretch cs (cs.drop 2)) :
    TakesNumber cs (readRadixNumber radix start cs) := by
  have hrun := h.trans (stretch_readDigitRun radix (cs.drop 2))
  unfold readRadixNumber
  extract_lets run pos faults after value
  split
  · exact ⟨hrun, trivial⟩
  · split
    · next hn => exact ⟨hrun.trans (stretch_drop_one (by decide) hn), trivial⟩
    · exact .refuseName ⟨hrun, trivial⟩

theorem stretch_readFraction (pos : Nat) (cs : List Char) :
    Stretch cs (readFraction pos cs).2.1.text := by
  unfold readFraction
  split
  · next hpoint =>
    exact (stretch_drop_one (by decide) hpoint).trans (stretch_readDigitRun 10 (cs.drop 1))
  · exact .refl cs

/-- What should have been an exponent has been read, or an exponent if there is one. -/
def TakesExponent (cs : List Char) : Except TokenStep (Int × Remaining × List Placed) → Prop
  | .error step => TakesNumber cs step
  | .ok (_, after, _) => Stretch cs after.text

theorem takesExponent_readExponent (pos : Nat) (cs : List Char) :
    TakesExponent cs (readExponent pos cs) := by
  unfold readExponent
  split
  · next hletter =>
    have hfirst : Stretch cs (cs.drop 1) := by
      rcases hletter with hletter | hletter <;> exact stretch_drop_one (by decide) hletter
    generalize cs.drop 1 = more at hfirst
    split
    · exact ⟨hfirst, trivial⟩
    · next c rest =>
      have hsigned : Stretch cs (if c = '+' || c = '-' then rest else c :: rest) := by
        split
        · next hsign =>
          refine hfirst.trans (.char ?_ (.refl rest))
          rcases by simpa using hsign with rfl | rfl <;> decide
        · exact hfirst
      have hrun := hsigned.trans (stretch_readDigitRun 10 _)
      extract_lets signed digitsPos run value
      split
      · exact ⟨hrun, trivial⟩
      · exact hrun
  · exact .refl cs

theorem takesNumber_readDecimalRest {start : Nat} {whole : DigitRun} {faults : List Placed}
    (h : Stretch cs whole.rest) : TakesNumber cs (readDecimalRest start cs whole faults) := by
  have hfraction := h.trans (stretch_readFraction (start + whole.length) whole.rest)
  have hexponent := takesExponent_readExponent
    (readFraction (start + whole.length) whole.rest).2.1.pos
    (readFraction (start + whole.length) whole.rest).2.1.text
  unfold readDecimalRest
  dsimp only
  split
  · next step hstep =>
    rw [hstep] at hexponent
    exact ⟨hfraction.trans hexponent.stretch, hexponent.token⟩
  · next exponent after exponentFaults hstep =>
    rw [hstep] at hexponent
    exact .refuseName ⟨hfraction.trans hexponent, trivial⟩

theorem takesNumber_readOldOctal {strict : Bool} {start : Nat} {whole : DigitRun}
    {faults : List Placed} (h : Stretch cs whole.rest) :
    TakesNumber cs (readOldOctal strict start cs whole faults) := by
  unfold readOldOctal
  extract_lets step
  have hstep : TakesNumber cs step := .refuseName ⟨h, trivial⟩
  split <;> exact ⟨hstep.stretch, hstep.token⟩

theorem takesNumber_readDecimal (strict : Bool) (start : Nat) (cs : List Char) :
    TakesNumber cs (readDecimal strict start cs) := by
  have hwhole := stretch_readDigitRun 10 cs
  unfold readDecimal
  extract_lets whole faults leadingZero
  split
  · next hbig =>
    simp only [Bool.and_eq_true, decide_eq_true_eq] at hbig
    exact ⟨hwhole.trans (stretch_drop_one (by decide) hbig.1), trivial⟩
  · split
    · exact takesNumber_readDecimalRest hwhole
    · split
      · exact takesNumber_readOldOctal hwhole
      · exact takesNumber_readDecimalRest hwhole

theorem takesNumber_readNumber (strict : Bool) (start : Nat) (cs : List Char) :
    TakesNumber cs (readNumber strict start cs) := by
  unfold readNumber
  split
  · next c rest =>
    have htwo {d : Char} (hd : d ∉ ['\'', '"', '`', '/', '\x7b', '\x7d']) (hc : c = d) :
        Stretch ('0' :: c :: rest) (('0' :: c :: rest).drop 2) :=
      .char (by decide) (.char (hc ▸ hd) (.refl rest))
    split
    · next hc => exact takesNumber_readRadixNumber (hc.elim (htwo (by decide)) (htwo (by decide)))
    · split
      · next hc => exact takesNumber_readRadixNumber (hc.elim (htwo (by decide)) (htwo (by decide)))
      · split
        · next hc =>
          exact takesNumber_readRadixNumber (hc.elim (htwo (by decide)) (htwo (by decide)))
        · exact takesNumber_readDecimal strict start _
  · exact takesNumber_readDecimal strict start cs

/-! ### Names -/

theorem isNameFollow_plain {c : Char} (h : isNameFollow c) :
    c ∉ ['\'', '"', '`', '/', '\x7b', '\x7d'] := by
  intro hc
  simp only [List.mem_cons, List.not_mem_nil, or_false] at hc
  rcases hc with rfl | rfl | rfl | rfl | rfl | rfl <;> cases h

/-- A name is a run of characters of names, and, if it does not end with these, goes on with an
escape. -/
structure NameText (cs name after letters more : List Char) : Prop where
  text : cs = letters ++ (more ++ after)
  letters : ∀ c ∈ letters, isNameFollow c ∧ c ∈ name
  stops : (more = [] ∧ ∀ c, after.head? = some c → isNameFollow c = false) ∨ ['\\', 'u'] <+: more

variable {name after letters more : List Char}

theorem NameText.char {c : Char} (h : NameText cs name after letters more) (hc : isNameFollow c)
    (hname : c ∈ name) : NameText (c :: cs) name after (c :: letters) more :=
  ⟨congrArg (c :: ·) h.text, List.forall_mem_cons.mpr ⟨⟨hc, hname⟩, h.letters⟩, h.stops⟩

theorem NameText.stretch_more (h : NameText cs name after letters more) :
    Stretch (more ++ after) after := by
  rcases h.stops with ⟨rfl, _⟩ | hescape
  · exact .refl after
  · exact .odd (.inr (.inr (.inr hescape.isInfix))) after

/-- A name is a stretch. -/
theorem NameText.stretch (h : NameText cs name after letters more) : Stretch cs after := by
  rw [h.text]
  exact (Stretch.plain (fun c hc ↦ isNameFollow_plain (h.letters c hc).1) _).trans h.stretch_more

theorem exists_nameText_of_readNameFrom (token : NameToken) (pos : Nat) (cs : List Char)
    (hfatal : (readNameFrom token pos cs).fatal = none) :
    (∀ c ∈ token.name, c ∈ (readNameFrom token pos cs).name) ∧
      ∃ letters more, NameText cs (readNameFrom token pos cs).name
        (readNameFrom token pos cs).after.text letters more := by
  fun_induction readNameFrom token pos cs with
  | case1 => exact ⟨fun _ hc ↦ hc, [], [], rfl, by simp, .inl ⟨rfl, by simp⟩⟩
  | case2 token pos c rest hc ih =>
    obtain ⟨hname, letters, more, htext⟩ := ih hfatal
    obtain ⟨hfirst, hothers⟩ := List.forall_mem_cons.mp hname
    exact ⟨hothers, c :: letters, more, htext.char hc hfirst⟩
  | case3 token pos c rest hc =>
    exact ⟨fun _ hd ↦ hd, [], [], rfl, by simp, .inl ⟨rfl, by simpa using hc⟩⟩
  | case4 => cases hfatal
  | case5 token pos c rest _ hback hu escape stop faults chars _ ih =>
    obtain ⟨hname, letters, more, htext⟩ := ih hfatal
    obtain rfl : c = '\\' := by simpa using hback
    have hrest := eq_cons_of_head? (show rest.head? = some 'u' by simpa using hu)
    have hescape : ∃ tail, rest.take escape.length = 'u' :: tail := by
      obtain ⟨d, tail, htake, _⟩ := escapeText_readUnicodeEscape (rest.drop 1)
      have hhead := congrArg List.head? htake
      rw [List.head?_take] at hhead
      split at hhead
      · cases hhead
      · cases hhead
        exact ⟨tail, by rw [hrest]; exact htake⟩
    obtain ⟨tail, htail⟩ := hescape
    refine ⟨fun d hd ↦ hname d (List.mem_append_right _ hd), [],
      '\\' :: (rest.take escape.length ++ (letters ++ more)), ?_, by simp, .inr ?_⟩
    · have hdrop := htext.text
      rw [← List.append_assoc] at hdrop
      rw [List.nil_append, List.cons_append, List.append_assoc, ← hdrop, List.take_append_drop]
    · rw [htail]
      exact List.prefix_append ['\\', 'u'] _
  | case6 => cases hfatal

/-- What is read as a name. -/
theorem exists_nameText_of_readName {start : Remaining} (hfatal : (readName start).fatal = none) :
    ∃ letters more, NameText start.text (readName start).name (readName start).after.text letters
      more := by
  obtain ⟨_, letters, more, htext⟩ := exists_nameText_of_readNameFrom { name := [], after := start }
    start.pos start.text hfatal
  exact ⟨letters, more, htext.text, fun c hc ↦ ⟨(htext.letters c hc).1,
    List.mem_reverse.mpr (htext.letters c hc).2⟩, htext.stops⟩

/-! ### Regular expressions -/

theorem isName_of_isAlpha {c : Char} (h : c.isAlpha) : isNameStart c ∧ isNameFollow c := by
  have hascii : c.toNat < 0x80 := by
    simp only [Char.isAlpha, Char.isUpper, Char.isLower, Bool.or_eq_true, Bool.and_eq_true,
      decide_eq_true_eq, UInt32.le_iff_toNat_le] at h
    have hz : 'z'.val.toNat = 122 := rfl
    have hZ : 'Z'.val.toNat = 90 := rfl
    have hc : c.toNat = c.val.toNat := rfl
    omega
  rw [isNameStart, isNameFollow, if_pos hascii, if_pos hascii]
  simp [h]

/-- What is read as flags is letters, in front of something else. -/
theorem exists_flags_of_readFlags {start : Remaining} (hfatal : (readFlags start).fatal = none)
    (hflags : ∀ c ∈ (readFlags start).name, c.isAlpha) :
    ∃ flags rest, start.text = flags ++ rest ∧ FlagsBefore flags rest ∧
      Stretch rest (readFlags start).after.text := by
  unfold readFlags at hfatal hflags ⊢
  split
  · next hstart =>
    rw [if_pos hstart] at hfatal hflags
    obtain ⟨letters, more, htext⟩ := exists_nameText_of_readName hfatal
    refine ⟨letters, _, htext.text, ⟨fun c hc ↦ hflags c (htext.letters c hc).2, ?_⟩, ?_⟩
    · intro c hc halpha
      rcases htext.stops with ⟨rfl, hstop⟩ | hescape
      · have hfollow := hstop c hc
        rw [(isName_of_isAlpha halpha).2] at hfollow
        cases hfollow
      · obtain ⟨tail, rfl⟩ := hescape
        cases hc
        revert halpha
        decide
    · exact htext.stretch_more
  · next hstart =>
    refine ⟨[], start.text, rfl, ⟨by simp, fun c hc halpha ↦ hstart ?_⟩, .refl start.text⟩
    rw [hc]
    exact (isName_of_isAlpha halpha).1

/-- What is read as a regular expression is a stretch, with its opening slash. -/
theorem stretch_readRegex {start : Remaining} {regex : RegexToken}
    (hslash : start.text.head? ≠ some '/') (hstar : start.text.head? ≠ some '*')
    (h : readRegex start = .ok regex) (hfatal : regex.flags.fatal = none)
    (hflags : ∀ c ∈ regex.flags.name, c.isAlpha) :
    Stretch ('/' :: start.text) regex.flags.after.text := by
  unfold readRegex at h
  cases hpattern : readRegexPattern false false [] start.pos start.text with
  | error stop =>
    rw [hpattern] at h
    cases h
  | ok found =>
    obtain ⟨pattern, after⟩ := found
    rw [hpattern] at h
    cases h
    obtain ⟨text, htext, hrest⟩ :=
      exists_patternRest_of_readRegexPattern false false [] _ _ hpattern
    obtain ⟨flags, rest, hafter, hbefore, hstretch⟩ := exists_flags_of_readFlags hfatal hflags
    have hhead : start.text.head? = text.head? := by
      rw [htext]
      exact List.head?_append_of_ne_nil text (RegexRest.ne_nil hrest)
    rw [hhead] at hslash hstar
    have hitem := Stretch.item (.regex text flags)
      ⟨hslash, hstar, hrest, hbefore⟩ hstretch
    rw [htext, hafter]
    simpa [Item.text] using hitem

/-! ### Marks -/

/-- All marks. -/
def allMarks : List String := longMarks ++ shortMarks.map String.singleton

theorem plain_of_mem_allMarks {mark : String} (h : mark ∈ allMarks)
    (hother : mark ∉ ["\x7b", "\x7d", "`", "/", "/="]) :
    ∀ c ∈ mark.toList, c ∉ ['\'', '"', '`', '/', '\x7b', '\x7d'] := by
  have hall : (allMarks.all fun m ↦ ["\x7b", "\x7d", "`", "/", "/="].contains m ||
      m.toList.all fun c ↦ decide (c ∉ ['\'', '"', '`', '/', '\x7b', '\x7d'])) := by
    decide +kernel
  rcases Bool.or_eq_true_iff.mp (List.all_eq_true.mp hall mark h) with hlisted | hplain
  · exact (hother (List.contains_iff_mem.mp hlisted)).elim
  · simpa only [List.all_eq_true, decide_eq_true_eq] using hplain

theorem markOf_eq_some {c : Char} {mark : String} (h : markOf c rest = some mark) :
    mark ∈ allMarks ∧ c :: rest = mark.toList ++ (c :: rest).drop mark.length := by
  have hdrop {text : List Char} (hstarts : mark.toList <+: text) :
      text = mark.toList ++ text.drop mark.length := by
    rw [← String.length_toList, List.prefix_iff_eq_append.mp hstarts]
  unfold markOf at h
  split at h
  · next found hfind =>
    cases h
    have hmem := List.mem_of_find?_eq_some hfind
    have hstarts : mark.toList <+: c :: rest.take 3 :=
      List.isPrefixOf_iff_prefix.mp (List.find?_some hfind :)
    refine ⟨List.mem_append_left _ hmem, hdrop (hstarts.trans ?_)⟩
    exact List.cons_prefix_cons.mpr ⟨rfl, List.take_prefix 3 rest⟩
  · split at h
    · next hshort =>
      cases h
      refine ⟨List.mem_append_right _ (List.mem_map.mpr ⟨c, by simpa using hshort, rfl⟩), hdrop ?_⟩
      rw [String.toList_singleton]
      exact List.prefix_append [c] rest
    · cases h

/-! ### Tokens -/

/-- Is this a token with the text of whole items? A backtick is only the start of one. -/
def isWhole : Token → Bool
  | .eof | .stray _ => false
  | .mark mark => mark ≠ "`"
  | _ => true

/-- The text of a token is of its kind; that of a stray token may be any. -/
def Formed (token : Token) (text after : List Char) : Prop :=
  match token with
  | .eof => text = [] ∧ after = [] ∨ text = '\x00' :: after
  | .stray _ => True
  | .mark mark => mark ∈ allMarks ∧ text = mark.toList ++ after ∧
      (mark = "/" → after.head? ≠ some '/' ∧ after.head? ≠ some '*')
  | _ => Stretch text after

/-- A token that holds whole items is a stretch. -/
theorem Formed.stretch {token : Token} {text after : List Char} (h : Formed token text after)
    (hwhole : isWhole token) : Stretch text after := by
  cases token with
  | eof | stray => cases hwhole
  | mark mark =>
    obtain ⟨hmem, rfl, hslash⟩ := h
    by_cases hdivides : mark = "/"
    · subst hdivides
      exact .item .division (hslash rfl) (.refl after)
    · by_cases hassigns : mark = "/="
      · subst hassigns
        have hequals : Stretch ('=' :: after) after := .char (by decide) (.refl after)
        exact .item .division (show some '=' ≠ some '/' ∧ some '=' ≠ some '*' by decide) hequals
      · by_cases hopens : mark = "\x7b"
        · subst hopens
          exact .item .openBrace trivial (.refl after)
        · by_cases hcloses : mark = "\x7d"
          · subst hcloses
            exact .item .closeBrace trivial (.refl after)
          · have hbacktick : mark ≠ "`" := of_decide_eq_true hwhole
            exact .plain (plain_of_mem_allMarks hmem
              (by simp [hbacktick, hdivides, hassigns, hopens, hcloses])) after
  | word | number | bigint | string => exact h

theorem formed_readWordToken (around : Surroundings) (here : Remaining) :
    Formed (readWordToken around here).token here.text (readWordToken around here).after.text := by
  unfold readWordToken
  extract_lets name text token
  cases hfatal : name.fatal with
  | some stray =>
    have htoken : token = .stray stray := by simp only [token, hfatal]
    rw [htoken]
    trivial
  | none =>
    obtain ⟨letters, more, htext⟩ := exists_nameText_of_readName hfatal
    have htoken : token = .word text ∨ ∃ stray, token = .stray stray := by
      simp only [token, hfatal]
      split
      · exact .inr ⟨_, rfl⟩
      · exact .inl rfl
    rcases htoken with htoken | ⟨stray, htoken⟩
    · rw [htoken]
      exact htext.stretch
    · rw [htoken]
      trivial

theorem formed_readStringToken {strict : Bool} {here : Remaining} {quote : Char} {rest : List Char}
    (hquote : quote = '\'' ∨ quote = '"') (hhere : here.text = quote :: rest)
    (hfaults : (readStringToken strict here quote rest).faults = []) :
    Formed (readStringToken strict here quote rest).token here.text
      (readStringToken strict here quote rest).after.text := by
  unfold readStringToken
  extract_lets string token
  cases hfatal : string.fatal with
  | some stray =>
    have htoken : token = .stray stray := by simp only [token, hfatal]
    rw [htoken]
    trivial
  | none =>
    obtain ⟨text, htext, hform⟩ := exists_stringRest_of_readString hquote hfatal hfaults
    simp only [token, hfatal]
    rw [hhere, htext]
    exact .item (.string quote text) ⟨hquote, hform⟩ (.refl _)

theorem TakesNumber.formed {step : TokenStep} (h : TakesNumber cs step) :
    Formed step.token cs step.after.text := by
  have htoken := h.token
  cases hkind : step.token with
  | number | bigint => exact h.stretch
  | stray => trivial
  | eof | mark | word | string =>
    rw [hkind] at htoken
    exact htoken.elim

theorem formed_readToken {around : Surroundings} {lineBreak : Bool} {here : Remaining}
    (hcomment : ∀ rest, here.text = '/' :: rest →
      rest.head? ≠ some '/' ∧ rest.head? ≠ some '*')
    (hfaults : (readToken around lineBreak here).faults = []) :
    Formed (readToken around lineBreak here).token here.text
      (readToken around lineBreak here).after.text := by
  obtain ⟨pos, text⟩ := here
  revert hfaults
  unfold readToken
  cases text with
  | nil => exact fun _ ↦ .inl ⟨rfl, rfl⟩
  | cons c rest =>
    dsimp only
    split
    · next hnull =>
      rw [hnull]
      exact fun _ ↦ .inr rfl
    · split
      · exact fun _ ↦ formed_readWordToken around _
      · split
        · exact fun _ ↦ (takesNumber_readNumber around.strict pos _).formed
        · split
          · next hquote => exact formed_readStringToken hquote.symm rfl
          · split
            · exact fun _ ↦ trivial
            · split
              · next mark hmark =>
                obtain ⟨hmem, htext⟩ := markOf_eq_some hmark
                refine fun _ ↦ ⟨hmem, htext, fun hslash ↦ hcomment _ ?_⟩
                rw [htext, hslash]
                rfl
              · exact fun _ ↦ trivial

/-! ### Lexemes -/

theorem stretch_skipInterpreterLine (cs : List Char) :
    Stretch cs (cs.drop (skipInterpreterLine cs)) := by
  unfold skipInterpreterLine
  split
  · next hmark =>
    have hline := List.takeWhile_prefix (l := cs) fun c ↦ !isLineBreak c
    have htext := List.prefix_iff_eq_append.mp hline
    have hodd : ['#', '!'] <+: cs.takeWhile fun c ↦ !isLineBreak c := by
      rw [eq_append_of_take hmark]
      exact List.prefix_append ['#', '!'] _
    have hstretch := Stretch.odd (.inl hodd)
      (cs.drop (cs.takeWhile fun c ↦ !isLineBreak c).length)
    rwa [htext] at hstretch
  · exact .refl cs

variable {around : Surroundings} {isFirst : Bool} {here : Remaining}

/-- Blanks in front of a token are a stretch. -/
theorem stretch_nextLexeme (hfaults : (nextLexeme around isFirst here).faults = []) :
    Stretch here.text (nextLexeme around isFirst here).here.text := by
  obtain ⟨hblank, _⟩ := List.append_eq_nil_iff.mp hfaults
  refine Stretch.trans ?_ (stretch_skipBlank hblank)
  cases isFirst with
  | true => exact stretch_skipInterpreterLine here.text
  | false => exact .refl here.text

theorem formed_nextLexeme (hfaults : (nextLexeme around isFirst here).faults = []) :
    Formed (nextLexeme around isFirst here).token (nextLexeme around isFirst here).here.text
      (nextLexeme around isFirst here).after.text := by
  obtain ⟨_, hstep⟩ := List.append_eq_nil_iff.mp hfaults
  exact formed_readToken (fun _ ↦ not_comment_skipBlank _ _ _ _ _ _) hstep

end BrowserScript.Reading
