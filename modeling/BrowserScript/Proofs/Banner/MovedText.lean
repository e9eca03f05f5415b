import Mathlib
import BrowserScript.Script.Token.Lexeme

/-!
Reading tokens from a text that stands further on. No reader of tokens looks at the offset of what
it reads: where the text stands `n` characters further on, it finds the same tokens and the same
faults, `n` characters further on, and leaves the same text behind (`nextLexeme_moved`,
`readRegex_moved`, `readChunk_moved`).
-/

set_option autoImplicit false
set_option relaxedAutoImplicit false

namespace BrowserScript.Script

/-! ### Places further on -/

def Placed.moved (n : Nat) (p : Placed) : Placed := ⟨p.fault, p.pos + n⟩

def Remaining.moved (n : Nat) (r : Remaining) : Remaining := ⟨r.pos + n, r.text⟩

def Stray.moved (n : Nat) (s : Stray) : Stray := ⟨s.placed.moved n, s.stop + n⟩

/-- Only stray text has a place of its own. -/
def Token.moved (n : Nat) : Token → Token
  | .stray s => .stray (s.moved n)
  | t => t

def TokenStep.moved (n : Nat) (s : TokenStep) : TokenStep :=
  ⟨s.token.moved n, s.after.moved n, s.faults.map (Placed.moved n)⟩

def Lexeme.moved (n : Nat) (l : Lexeme) : Lexeme :=
  { l.toTokenStep.moved n with
    start := l.start + n
    here := l.here.moved n
    lineBreak := l.lineBreak }

def Blank.moved (n : Nat) (b : Blank) : Blank :=
  { b with
    after := b.after.moved n
    tokenStart := b.tokenStart.map (· + n)
    faults := b.faults.map (Placed.moved n) }

def NameToken.moved (n : Nat) (t : NameToken) : NameToken :=
  { t with
    after := t.after.moved n
    fatal := t.fatal.map (Stray.moved n)
    faults := t.faults.map (Placed.moved n) }

def StringToken.moved (n : Nat) (t : StringToken) : StringToken :=
  { t with
    after := t.after.moved n
    fatal := t.fatal.map (Stray.moved n)
    faults := t.faults.map (Placed.moved n) }

def TemplateChunk.moved (n : Nat) (c : TemplateChunk) : TemplateChunk :=
  { c with
    after := c.after.moved n
    fault := c.fault.map (Placed.moved n)
    faults := c.faults.map (Placed.moved n) }

def RegexToken.moved (n : Nat) (t : RegexToken) : RegexToken := ⟨t.pattern, t.flags.moved n⟩

variable (n : Nat)

@[simp] theorem Remaining.moved_text (r : Remaining) : (r.moved n).text = r.text := rfl

theorem Remaining.drop_moved (r : Remaining) (k : Nat) : (r.moved n).drop k = (r.drop k).moved n :=
  congrArg (Remaining.mk · _) (Nat.add_right_comm _ _ _)

theorem Escape.separatorFaults_moved (e : Escape) (pos : Nat) :
    e.separatorFaults (pos + n) = (e.separatorFaults pos).map (Placed.moved n) := by
  unfold Escape.separatorFaults
  cases e.separator with
  | none => rfl
  | some offset => simp [Placed.moved, Nat.add_right_comm]

/-! ### Blanks -/

theorem orElse_some_moved (tokenStart : Option Nat) (pos : Nat) :
    (tokenStart.map (· + n)).or (some (pos + n)) = (tokenStart.or (some pos)).map (· + n) := by
  cases tokenStart <;> rfl

theorem skipBlank_moved (mode : BlankMode) (lineBreak : Bool) (tokenStart : Option Nat)
    (faults : List Placed) (pos : Nat) (cs : List Char) :
    skipBlank mode lineBreak (tokenStart.map (· + n)) (faults.map (Placed.moved n)) (pos + n) cs =
      (skipBlank mode lineBreak tokenStart faults pos cs).moved n := by
  fun_induction skipBlank mode lineBreak tokenStart faults pos cs with
  | case1 mode lineBreak tokenStart faults pos =>
    rw [skipBlank]
    by_cases h : mode = .blockComment <;> simp [h, Blank.moved, Remaining.moved, Placed.moved]
  | case2 _ _ _ _ _ _ h ih | case4 _ _ _ _ _ _ h ih | case6 _ _ _ _ _ _ h ih =>
    rw [skipBlank, if_pos h, Nat.add_right_comm]
    exact ih
  | case3 _ _ _ _ _ _ h ih | case5 _ _ _ _ _ _ h ih =>
    rw [skipBlank, if_neg h, Nat.add_right_comm]
    exact ih
  | case7 _ _ _ _ _ _ hbreak hblank ih =>
    rw [skipBlank, if_neg hbreak, if_pos hblank, Nat.add_right_comm]
    exact ih
  | case8 _ _ _ _ _ _ hbreak hblank hline ih =>
    rw [skipBlank, if_neg hbreak, if_neg hblank, if_pos hline, Nat.add_right_comm]
    exact ih
  | case9 _ _ _ _ _ _ hbreak hblank hline hblock ih =>
    rw [skipBlank, if_neg hbreak, if_neg hblank, if_neg hline, if_pos hblock, Nat.add_right_comm]
    exact ih
  | case10 _ _ _ _ _ _ hbreak hblank hline hblock hopen ih =>
    rw [skipBlank, if_neg hbreak, if_neg hblank, if_neg hline, if_neg hblock, if_pos hopen,
      orElse_some_moved, Nat.add_right_comm]
    exact ih
  | case11 _ _ _ _ _ _ hbreak hblank hline hblock hopen hclose ih =>
    rw [skipBlank, if_neg hbreak, if_neg hblank, if_neg hline, if_neg hblock, if_neg hopen,
      if_pos hclose, orElse_some_moved, Nat.add_right_comm]
    exact ih
  | case12 _ _ _ _ _ _ hbreak hblank hline hblock hopen hclose hmark ih =>
    rw [skipBlank, if_neg hbreak, if_neg hblank, if_neg hline, if_neg hblock, if_neg hopen,
      if_neg hclose, if_pos hmark, orElse_some_moved, Nat.add_right_comm]
    rwa [List.map_append] at ih
  | case13 _ _ _ _ _ _ hbreak hblank hline hblock hopen hclose hmark =>
    rw [skipBlank, if_neg hbreak, if_neg hblank, if_neg hline, if_neg hblock, if_neg hopen,
      if_neg hclose, if_neg hmark]
    rfl

/-! ### Names -/

theorem nameEscapeFaults_moved (chars : List Char) (pos : Nat) :
    nameEscapeFaults chars (pos + n) = (nameEscapeFaults chars pos).map (Placed.moved n) := by
  unfold nameEscapeFaults
  split <;> rfl

theorem readNameFrom_moved (token : NameToken) (pos : Nat) (cs : List Char) :
    readNameFrom (token.moved n) (pos + n) cs = (readNameFrom token pos cs).moved n := by
  fun_induction readNameFrom token pos cs with
  | case1 => rw [readNameFrom]; rfl
  | case2 token pos c rest hc ih =>
    rw [readNameFrom, if_pos hc, Nat.add_right_comm]
    exact ih
  | case3 token pos c rest hc hback =>
    rw [readNameFrom, if_neg hc, if_pos hback]
    rfl
  | case4 token pos c rest hc hback hu =>
    rw [readNameFrom, if_neg hc, if_neg hback, if_pos hu]
    simp [NameToken.moved, Remaining.moved, Stray.moved, Stray.at, Placed.moved, Nat.add_right_comm]
  | case5 token pos c rest hc hback hu escape stop faults chars hchars ih =>
    have hchars : (readUnicodeEscape (rest.drop 1)).chars = .ok chars := hchars
    rw [readNameFrom, if_neg hc, if_neg hback, if_neg hu]
    simp only [hchars]
    rw [← ih]
    simp only [NameToken.moved, stop, faults, escape, List.map_append, nameEscapeFaults_moved,
      Escape.separatorFaults_moved, Nat.add_right_comm _ n]
  | case6 token pos c rest hc hback hu escape stop faults fault offset hfault =>
    have hfault : (readUnicodeEscape (rest.drop 1)).chars = .error (fault, offset) := hfault
    rw [readNameFrom, if_neg hc, if_neg hback, if_neg hu]
    simp only [hfault]
    simp only [NameToken.moved, Remaining.moved, Stray.moved, Placed.moved, stop, faults, escape,
      List.map_append, Escape.separatorFaults_moved, Nat.add_right_comm _ n, Option.map_some]

theorem readName_moved (start : Remaining) :
    readName (start.moved n) = (readName start).moved n := by
  have h := readNameFrom_moved n { name := [], after := start } start.pos start.text
  exact congrArg (fun token : NameToken ↦ { token with name := token.name.reverse }) h

theorem readFlags_moved (start : Remaining) :
    readFlags (start.moved n) = (readFlags start).moved n := by
  unfold readFlags
  rw [Remaining.moved_text]
  split
  · exact readName_moved n start
  · rfl

/-! ### Strings and templates -/

theorem Escape.strayAt_moved (e : Escape) (fault : Fault) (pos : Nat) :
    e.strayAt fault (pos + n) = (e.strayAt fault pos).moved n := by
  unfold Escape.strayAt
  split <;> simp [Stray.moved, Placed.moved, Nat.add_right_comm]

theorem readStringFrom_moved (strict : Bool) (quote : Char) (start : Nat) (read : List Char)
    (faults : List Placed) (pos : Nat) (cs : List Char) :
    readStringFrom strict quote (start + n) read (faults.map (Placed.moved n)) (pos + n) cs =
      (readStringFrom strict quote start read faults pos cs).moved n := by
  fun_induction readStringFrom strict quote start read faults pos cs with
  | case1 => rw [readStringFrom]; simp [StringToken.moved, Remaining.moved, Placed.moved]
  | case2 read faults pos rest =>
    rw [readStringFrom, if_pos rfl]
    simp [StringToken.moved, Remaining.moved, Nat.add_right_comm]
  | case3 read faults pos c rest hquote hbreak =>
    rw [readStringFrom, if_neg hquote, if_pos hbreak]
    simp [StringToken.moved, Remaining.moved, Placed.moved]
  | case4 read faults pos rest escape allFaults after fault offset hfault hquote hbreak =>
    have hfault : (readEscape rest).chars = .error (fault, offset) := hfault
    rw [readStringFrom, if_neg hquote, if_neg hbreak, if_pos rfl]
    simp only [hfault]
    simp only [StringToken.moved, Remaining.moved, allFaults, after, escape, List.map_append,
      Escape.separatorFaults_moved, Escape.strayAt_moved, Nat.add_right_comm _ n, Option.map_some]
    split <;> rfl
  | case5 read faults pos rest escape allFaults after chars hchars hquote hbreak ih =>
    have hchars : (readEscape rest).chars = .ok chars := hchars
    rw [readStringFrom, if_neg hquote, if_neg hbreak, if_pos rfl]
    simp only [hchars]
    rw [← ih]
    simp only [allFaults, after, escape, List.map_append, Escape.separatorFaults_moved,
      Nat.add_right_comm _ n]
    split <;> rfl
  | case6 read faults pos c rest hquote hbreak hback ih =>
    rw [readStringFrom, if_neg hquote, if_neg hbreak, if_neg hback, Nat.add_right_comm]
    exact ih

theorem readString_moved (strict : Bool) (quote : Char) (start : Nat) (cs : List Char) :
    readString strict quote (start + n) cs = (readString strict quote start cs).moved n := by
  have h := readStringFrom_moved n strict quote start [] [] (start + 1) cs
  rwa [Nat.add_right_comm] at h

theorem readChunkFrom_moved (chunk : TemplateChunk) (pos : Nat) (cs : List Char) :
    readChunkFrom (chunk.moved n) (pos + n) cs = (readChunkFrom chunk pos cs).moved n := by
  fun_induction readChunkFrom chunk pos cs with
  | case1 => rw [readChunkFrom]; rfl
  | case2 chunk pos rest => rw [readChunkFrom, if_pos rfl]; rfl
  | case3 chunk pos c rest htick hdollar =>
    rw [readChunkFrom, if_neg htick, if_pos hdollar]
    rfl
  | case4 chunk pos rest escape chars fault hread htick hdollar ih =>
    rw [readChunkFrom, if_neg htick, if_neg hdollar, if_pos rfl, ← ih]
    cases hchars : (readEscape rest).chars with
    | error found =>
      simp only [escape, hchars] at hread
      cases hread
      simp only [hchars, TemplateChunk.moved, Placed.moved, escape, List.map_append,
        Escape.separatorFaults_moved, Option.map_or, Option.map_some, Nat.add_right_comm _ n]
    | ok found =>
      simp only [escape, hchars] at hread
      cases hread
      simp only [hchars, TemplateChunk.moved, escape, List.map_append,
        Escape.separatorFaults_moved, Option.map_or, Nat.add_right_comm _ n]
      split <;> rfl
  | case5 chunk pos c rest htick hdollar hback isPair read ih =>
    have hpos : (if isPair then pos + n + 2 else pos + n + 1) =
        (if isPair then pos + 2 else pos + 1) + n := by
      split <;> omega
    rw [readChunkFrom, if_neg htick, if_neg hdollar, if_neg hback]
    show readChunkFrom _ (if isPair then pos + n + 2 else pos + n + 1) _ = _
    rw [hpos]
    exact ih

theorem readChunk_moved (start : Remaining) :
    readChunk (start.moved n) = (readChunk start).moved n :=
  congrArg (fun chunk : TemplateChunk ↦
    { chunk with raw := chunk.raw.reverse, value := chunk.value.reverse })
    (readChunkFrom_moved n { raw := [], value := [], after := start } start.pos start.text)

/-! ### Regular expressions -/

theorem readRegexPattern_moved (inClass escaped : Bool) (read : List Char) (pos : Nat)
    (cs : List Char) :
    readRegexPattern inClass escaped read (pos + n) cs =
      match readRegexPattern inClass escaped read pos cs with
      | .error stop => .error (stop.moved n)
      | .ok (pattern, after) => .ok (pattern, after.moved n) := by
  induction cs generalizing inClass escaped read pos with
  | nil => rfl
  | cons c rest ih =>
    simp only [readRegexPattern]
    split
    · rfl
    · split
      · rw [Nat.add_right_comm]
        exact ih inClass false (c :: read) (pos + 1)
      · split
        · simp [Remaining.moved, Nat.add_right_comm]
        · rw [Nat.add_right_comm]
          exact ih _ _ (c :: read) (pos + 1)

theorem readRegex_moved (start : Remaining) :
    readRegex (start.moved n) =
      match readRegex start with
      | .error stop => .error (stop.moved n)
      | .ok regex => .ok (regex.moved n) := by
  have hpattern := readRegexPattern_moved n false false [] start.pos start.text
  unfold readRegex
  rw [show (start.moved n).pos = start.pos + n from rfl, Remaining.moved_text, hpattern]
  cases readRegexPattern false false [] start.pos start.text with
  | error stop => rfl
  | ok found =>
    obtain ⟨pattern, after⟩ := found
    simp only [Except.map, readFlags_moved]
    rfl

/-! ### Numbers -/

theorem separatorFaults_moved (run : DigitRun) (pos : Nat) :
    separatorFaults run (pos + n) = (separatorFaults run pos).map (Placed.moved n) := by
  unfold separatorFaults
  split <;> rfl

theorem refuseName_moved (step : TokenStep) :
    refuseName (step.moved n) = (refuseName step).moved n := by
  unfold refuseName
  rw [show (step.moved n).after.text = step.after.text from rfl]
  split <;> rfl

theorem noDigits_moved (radix start : Nat) (run : DigitRun) :
    noDigits radix (start + n) run = (noDigits radix start run).moved n := by
  simp [noDigits, TokenStep.moved, Token.moved, Stray.moved, Placed.moved, Remaining.moved,
    separatorFaults_moved, Nat.add_right_comm]

theorem readRadixNumber_moved (radix start : Nat) (cs : List Char) :
    readRadixNumber radix (start + n) cs = (readRadixNumber radix start cs).moved n := by
  unfold readRadixNumber
  extract_lets run pos faults after value pos' faults' after'
  have hpos : pos = pos' + n := Nat.add_right_comm _ _ _
  have hafter : after = after'.moved n := by
    simp [after, after', hpos, Remaining.moved, Nat.add_right_comm]
  have hfaults : faults = faults'.map (Placed.moved n) := by
    rw [show faults = separatorFaults run pos from rfl, hpos, separatorFaults_moved]
  rw [hpos, hafter, hfaults]
  split
  · exact noDigits_moved n radix pos' run
  · split
    · rw [Remaining.drop_moved]
      rfl
    · exact refuseName_moved n ⟨.number value _, after', faults'⟩

theorem readFraction_moved (pos : Nat) (cs : List Char) :
    readFraction (pos + n) cs =
      ((readFraction pos cs).1, (readFraction pos cs).2.1.moved n,
        (readFraction pos cs).2.2.map (Placed.moved n)) := by
  unfold readFraction
  split
  · simp only [Nat.add_right_comm _ n, separatorFaults_moved, Remaining.moved]
  · rfl

theorem readExponent_moved (pos : Nat) (cs : List Char) :
    readExponent (pos + n) cs =
      match readExponent pos cs with
      | .error step => .error (step.moved n)
      | .ok (exponent, after, faults) =>
        .ok (exponent, after.moved n, faults.map (Placed.moved n)) := by
  unfold readExponent
  split
  · generalize cs.drop 1 = more
    cases more with
    | nil =>
      simp only [TokenStep.moved, Token.moved, Stray.moved, Stray.at, Placed.moved, Remaining.moved,
        Nat.add_right_comm _ n, List.map_nil]
    | cons c rest =>
      dsimp only
      have hpos : (if c = '+' || c = '-' then pos + n + 2 else pos + n + 1) =
          (if c = '+' || c = '-' then pos + 2 else pos + 1) + n := by
        split <;> omega
      rw [hpos]
      generalize (if c = '+' || c = '-' then pos + 2 else pos + 1) = digitsPos
      generalize readDigitRun 10 (if c = '+' || c = '-' then rest else c :: rest) = run
      split
      · rw [noDigits_moved]
      · simp only [separatorFaults_moved, Remaining.moved, Nat.add_right_comm _ n]
  · rfl

theorem readDecimalRest_moved (start : Nat) (cs : List Char) (whole : DigitRun)
    (faults : List Placed) :
    readDecimalRest (start + n) cs whole (faults.map (Placed.moved n)) =
      (readDecimalRest start cs whole faults).moved n := by
  unfold readDecimalRest
  rw [Nat.add_right_comm, readFraction_moved]
  generalize readFraction (start + whole.length) whole.rest = fraction
  obtain ⟨digits, afterFraction, fractionFaults⟩ := fraction
  dsimp only
  rw [show (afterFraction.moved n).pos = afterFraction.pos + n from rfl, Remaining.moved_text,
    readExponent_moved]
  cases readExponent afterFraction.pos afterFraction.text with
  | error step => simp only [TokenStep.moved, List.map_append]
  | ok found =>
    obtain ⟨exponent, after, exponentFaults⟩ := found
    dsimp only
    rw [← refuseName_moved]
    have hlength : (after.moved n).pos - (start + n) = after.pos - start :=
      Nat.add_sub_add_right _ _ _
    simp only [hlength, TokenStep.moved, Token.moved, List.map_append]

theorem readOldOctal_moved (strict : Bool) (start : Nat) (cs : List Char) (whole : DigitRun)
    (faults : List Placed) :
    readOldOctal strict (start + n) cs whole (faults.map (Placed.moved n)) =
      (readOldOctal strict start cs whole faults).moved n := by
  unfold readOldOctal
  rw [Nat.add_right_comm]
  have hstep := refuseName_moved n ⟨.number (digitsFloat 8 whole.digits) (rawText cs whole.length),
    ⟨start + whole.length, whole.rest⟩, faults⟩
  simp only [TokenStep.moved, Token.moved, Remaining.moved] at hstep
  rw [hstep]
  generalize refuseName _ = step
  obtain ⟨token, after, stepFaults⟩ := step
  cases token with
  | number =>
    simp only [TokenStep.moved, Token.moved, List.map_append]
    split <;> rfl
  | _ => rfl

theorem readDecimal_moved (strict : Bool) (start : Nat) (cs : List Char) :
    readDecimal strict (start + n) cs = (readDecimal strict start cs).moved n := by
  unfold readDecimal
  dsimp only
  rw [separatorFaults_moved]
  split
  · simp only [TokenStep.moved, Token.moved, Remaining.moved, Nat.add_right_comm _ n]
  · split
    · exact readDecimalRest_moved n _ _ _ _
    · split
      · exact readOldOctal_moved n _ _ _ _ _
      · rw [← readDecimalRest_moved, List.map_append]
        split <;> rfl

theorem readNumber_moved (strict : Bool) (start : Nat) (cs : List Char) :
    readNumber strict (start + n) cs = (readNumber strict start cs).moved n := by
  unfold readNumber
  split
  · simp only [readRadixNumber_moved, readDecimal_moved]
    split
    · rfl
    · split
      · rfl
      · split <;> rfl
  · exact readDecimal_moved n strict start cs

/-! ### Tokens -/

theorem readWordToken_moved (around : Surroundings) (here : Remaining) :
    readWordToken around (here.moved n) = (readWordToken around here).moved n := by
  unfold readWordToken
  rw [readName_moved]
  generalize readName here = name
  obtain ⟨name, after, hasEscape, fatal, faults⟩ := name
  cases fatal with
  | some stray => rfl
  | none =>
    dsimp only [NameToken.moved, Option.map_none]
    split <;> rfl

theorem readStringToken_moved (strict : Bool) (here : Remaining) (quote : Char)
    (rest : List Char) :
    readStringToken strict (here.moved n) quote rest =
      (readStringToken strict here quote rest).moved n := by
  unfold readStringToken
  rw [show (here.moved n).pos = here.pos + n from rfl, readString_moved]
  generalize readString strict quote here.pos rest = string
  obtain ⟨value, after, fatal, faults⟩ := string
  cases fatal with
  | some stray => rfl
  | none =>
    have hlength : after.pos + n - (here.pos + n) = after.pos - here.pos :=
      Nat.add_sub_add_right _ _ _
    simp only [StringToken.moved, Option.map_none, TokenStep.moved, Token.moved, Remaining.moved,
      hlength]

theorem readConflictMark_moved (here : Remaining) :
    readConflictMark (here.moved n) = (readConflictMark here).moved n := by
  unfold readConflictMark
  rw [Remaining.drop_moved]
  have hblank := skipBlank_moved n .lineComment true none [] (here.drop 7).pos (here.drop 7).text
  simp only [Option.map_none, List.map_nil] at hblank
  simp only [Remaining.moved] at hblank ⊢
  rw [hblank]
  simp only [Blank.moved, TokenStep.moved, Token.moved, Stray.moved, Placed.moved, Remaining.moved,
    List.map_cons, Nat.add_right_comm _ n]

theorem readToken_moved (around : Surroundings) (lineBreak : Bool) (here : Remaining) :
    readToken around lineBreak (here.moved n) = (readToken around lineBreak here).moved n := by
  obtain ⟨pos, text⟩ := here
  unfold readToken
  cases text with
  | nil => rfl
  | cons c rest =>
    have hdrop (k : Nat) := Remaining.drop_moved n ⟨pos, c :: rest⟩ k
    have hnumber := readNumber_moved n around.strict pos (c :: rest)
    simp only [Remaining.moved_text, readWordToken_moved, readStringToken_moved,
      readConflictMark_moved, hdrop]
    split
    · rfl
    · split
      · rfl
      · split
        · exact hnumber
        · split
          · rfl
          · split
            · rfl
            · cases markOf c rest <;> rfl

/-- What is found behind blanks that have been skipped. -/
def lexemeBehind (around : Surroundings) (blank : Blank) : Lexeme :=
  let step := readToken around blank.lineBreak blank.after
  { token := step.token
    after := step.after
    faults := blank.faults ++ step.faults
    start := blank.tokenStart.getD blank.after.pos
    here := blank.after
    lineBreak := blank.lineBreak }

theorem nextLexeme_eq (around : Surroundings) (isFirst : Bool) (here : Remaining) :
    nextLexeme around isFirst here =
      lexemeBehind around (skipBlank .between isFirst none []
        (here.pos + if isFirst then skipInterpreterLine here.text else 0)
        (here.text.drop (if isFirst then skipInterpreterLine here.text else 0))) := rfl

theorem lexemeBehind_moved (around : Surroundings) (blank : Blank) :
    lexemeBehind around (blank.moved n) = (lexemeBehind around blank).moved n := by
  obtain ⟨after, lineBreak, tokenStart, faults⟩ := blank
  simp only [lexemeBehind, Blank.moved, readToken_moved, Lexeme.moved, TokenStep.moved,
    List.map_append]
  cases tokenStart <;> rfl

theorem nextLexeme_moved (around : Surroundings) (isFirst : Bool) (here : Remaining) :
    nextLexeme around isFirst (here.moved n) = (nextLexeme around isFirst here).moved n := by
  have hblank (pos : Nat) (cs : List Char) := skipBlank_moved n .between isFirst none [] pos cs
  simp only [Option.map_none, List.map_nil] at hblank
  rw [nextLexeme_eq, nextLexeme_eq, ← lexemeBehind_moved, ← hblank, Remaining.moved_text,
    show (here.moved n).pos = here.pos + n from rfl, Nat.add_right_comm]

end BrowserScript.Script
