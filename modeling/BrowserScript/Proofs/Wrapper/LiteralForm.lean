import Mathlib
import BrowserScript.Wrapper.Literal

/-!
The forms of literals and comments, each as the texts that may follow its opening delimiter, and
the agreement of the skippers with them. A skipper finds the end of a literal exactly when a
prefix of what is left has the form of that literal (`skipString_eq_some_iff`,
`skipBlockComment_eq_some_iff`, `skipRegex_eq_some_iff`, `skipTemplateText_eq_closed_iff`,
`skipTemplateText_eq_substitution_iff`, `skipLineComment_eq_iff`), and then it stops right behind
that prefix. Flags and line comments go on as far as they can, so their forms also say what may
stand behind them.
-/

set_option autoImplicit false
set_option relaxedAutoImplicit false

namespace BrowserScript.Wrapper

open Text

/-! ### Forms -/

/-- A string behind its opening quote. -/
inductive StringRest (quote : Char) : List Char → Prop
  | close : StringRest quote [quote]
  | escape (e : Char) {text : List Char} (htext : StringRest quote text) :
    StringRest quote ('\\' :: e :: text)
  | char {c : Char} {text : List Char} (hescape : c ≠ '\\') (hbreak : c ≠ '\n') (hquote : c ≠ quote)
    (htext : StringRest quote text) : StringRest quote (c :: text)

/-- A block comment behind its opening mark. -/
inductive BlockCommentRest : List Char → Prop
  | close : BlockCommentRest ['*', '/']
  | char {c : Char} {text : List Char} (hopen : ¬(c = '*' ∧ text.head? = some '/'))
    (htext : BlockCommentRest text) : BlockCommentRest (c :: text)

/-- A regular expression up to its closing slash, behind its opening one; the flag tells whether a
class is open. -/
inductive RegexRest : Bool → List Char → Prop
  | close : RegexRest false ['/']
  | escape {inClass : Bool} (e : Char) {text : List Char} (htext : RegexRest inClass text) :
    RegexRest inClass ('\\' :: e :: text)
  | openClass {inClass : Bool} {text : List Char} (htext : RegexRest true text) :
    RegexRest inClass ('[' :: text)
  | closeClass {inClass : Bool} {text : List Char} (htext : RegexRest false text) :
    RegexRest inClass (']' :: text)
  | slash {text : List Char} (htext : RegexRest true text) : RegexRest true ('/' :: text)
  | char {inClass : Bool} {c : Char} {text : List Char} (hc : c ∉ ['\\', '\n', '[', ']', '/'])
    (htext : RegexRest inClass text) : RegexRest inClass (c :: text)

/-- A stretch of template text up to the mark that ends it. -/
inductive TemplateStretch : List Char → Prop
  | nil : TemplateStretch []
  | escape (e : Char) {text : List Char} (htext : TemplateStretch text) :
    TemplateStretch ('\\' :: e :: text)
  | char {c : Char} {text : List Char} (hescape : c ≠ '\\') (hquote : c ≠ '`')
    (hopen : ¬(c = '$' ∧ text.head? = some '\x7b')) (htext : TemplateStretch text) :
    TemplateStretch (c :: text)

/-- A run of letters that ends where no further letter follows. -/
def FlagsBefore (flags rest : List Char) : Prop :=
  (∀ c ∈ flags, c.isAlpha) ∧ ∀ c, rest.head? = some c → ¬c.isAlpha

/-- The text of a line comment that ends before a line feed or at the end of the text. -/
def CommentLineBefore (line rest : List Char) : Prop :=
  '\n' ∉ line ∧ (rest = [] ∨ rest.head? = some '\n')

theorem StringRest.ne_nil {quote : Char} {text : List Char} (h : StringRest quote text) :
    text ≠ [] := by
  cases h <;> simp

theorem BlockCommentRest.ne_nil {text : List Char} (h : BlockCommentRest text) : text ≠ [] := by
  cases h <;> simp

theorem RegexRest.ne_nil {inClass : Bool} {text : List Char} (h : RegexRest inClass text) :
    text ≠ [] := by
  cases h <;> simp

theorem StringRest.getLast? {quote : Char} {text : List Char} (h : StringRest quote text) :
    text.getLast? = some quote := by
  induction h with
  | close => rfl
  | escape e htext ih => simp [List.getLast?_cons, ih]
  | char _ _ _ htext ih => simp [List.getLast?_cons, ih]

theorem BlockCommentRest.getLast? {text : List Char} (h : BlockCommentRest text) :
    text.getLast? = some '/' := by
  induction h with
  | close => rfl
  | char _ htext ih => simp [List.getLast?_cons, ih]

theorem RegexRest.getLast? {inClass : Bool} {text : List Char} (h : RegexRest inClass text) :
    text.getLast? = some '/' := by
  induction h with
  | close => rfl
  | escape e htext ih => simp [List.getLast?_cons, ih]
  | openClass _ ih | closeClass _ ih | slash _ ih => simp [List.getLast?_cons, ih]
  | char _ htext ih => simp [List.getLast?_cons, ih]

@[simp] theorem utf8Size_of_ascii {c : Char} (h : c.toNat < 128) : c.utf8Size = 1 :=
  Char.utf8Size_eq_one_iff.mpr (UInt32.le_iff_toNat_le.mpr (Nat.le_of_lt_succ h))

theorem utf8Size_of_isAlpha {c : Char} (h : c.isAlpha) : c.utf8Size = 1 := by
  simp only [Char.isAlpha, Char.isUpper, Char.isLower, ge_iff_le, Bool.or_eq_true,
    Bool.and_eq_true, decide_eq_true_eq] at h
  refine Char.utf8Size_eq_one_iff.mpr ?_
  rcases h with h | h
  · exact UInt32.le_trans h.2 (by decide)
  · exact UInt32.le_trans h.2 (by decide)

/-! ### Strings -/

theorem skipString_append {quote : Char} {text : List Char} (h : StringRest quote text)
    (hescape : quote ≠ '\\') (hbreak : quote ≠ '\n') (hsize : quote.utf8Size = 1) (offset : Nat)
    (rest : List Char) :
    skipString quote offset (text ++ rest) = some ⟨offset + byteSize text, rest⟩ := by
  induction h generalizing offset with
  | close =>
    rw [List.cons_append, skipString.eq_def]
    simp only [hescape, hbreak, ↓reduceIte, List.nil_append, byteSize_cons, byteSize_nil, hsize]
  | escape e htext ih =>
    simp only [List.cons_append, skipString, ↓reduceIte, ih, byteSize_cons, Nat.add_assoc]
    rfl
  | char hc hb hq htext ih =>
    rw [List.cons_append, skipString.eq_def]
    simp only [hc, hb, hq, ↓reduceIte, ih, byteSize_cons, Nat.add_assoc]

/-- Assumes: a quote of one byte that is neither a backslash nor a line feed. The end of a string
is found exactly behind a text that has the form of one. -/
theorem skipString_eq_some_iff {quote : Char} (hescape : quote ≠ '\\') (hbreak : quote ≠ '\n')
    (hsize : quote.utf8Size = 1) {offset : Nat} {cs : List Char} {p : Place} :
    skipString quote offset cs = some p ↔
      ∃ text, StringRest quote text ∧ cs = text ++ p.rest ∧ p.offset = offset + byteSize text := by
  constructor
  · intro h
    fun_induction skipString quote offset cs with
    | case1 => cases h
    | case2 => cases h
    | case3 offset e rest ih =>
      obtain ⟨text, htext, hrest, hoffset⟩ := ih h
      refine ⟨'\\' :: e :: text, .escape e htext, by rw [hrest]; rfl, ?_⟩
      rw [hoffset, byteSize_cons, byteSize_cons, Nat.add_assoc, Nat.add_assoc]
      rfl
    | case4 => cases h
    | case5 offset rest =>
      cases h
      exact ⟨[quote], .close, rfl, by simp [hsize]⟩
    | case6 offset c rest hc hb hq ih =>
      obtain ⟨text, htext, hrest, hoffset⟩ := ih h
      refine ⟨c :: text, .char hc hb hq htext, by rw [hrest]; rfl, ?_⟩
      rw [hoffset, byteSize_cons, Nat.add_assoc]
  · rintro ⟨text, htext, rfl, hoffset⟩
    rw [skipString_append htext hescape hbreak hsize, ← hoffset]

/-! ### Comments -/

theorem skipLineComment_append {line rest : List Char} (h : CommentLineBefore line rest)
    (offset : Nat) : skipLineComment offset (line ++ rest) = ⟨offset + byteSize line, rest⟩ := by
  obtain ⟨hline, hrest⟩ := h
  induction line generalizing offset with
  | nil =>
    cases rest with
    | nil => rfl
    | cons c rest =>
      simp only [reduceCtorEq, List.head?_cons, Option.some.injEq, false_or] at hrest
      simp only [List.nil_append, skipLineComment, hrest, ↓reduceIte, byteSize_nil, Nat.add_zero]
  | cons c line ih =>
    simp only [List.mem_cons, not_or] at hline
    rw [List.cons_append, skipLineComment, if_neg (Ne.symm hline.1), ih _ hline.2, byteSize_cons,
      Nat.add_assoc]

/-- A line comment is read up to the first line feed, or to the end of the text. -/
theorem skipLineComment_eq_iff {offset : Nat} {cs : List Char} {p : Place} :
    skipLineComment offset cs = p ↔
      ∃ line, CommentLineBefore line p.rest ∧ cs = line ++ p.rest ∧
        p.offset = offset + byteSize line := by
  constructor
  · rintro rfl
    fun_induction skipLineComment offset cs with
    | case1 offset => exact ⟨[], ⟨by simp, .inl rfl⟩, rfl, rfl⟩
    | case2 offset rest => exact ⟨[], ⟨by simp, .inr rfl⟩, rfl, rfl⟩
    | case3 offset c rest hc ih =>
      obtain ⟨line, ⟨hline, hend⟩, hrest, hoffset⟩ := ih
      refine ⟨c :: line, ⟨?_, hend⟩, congrArg (c :: ·) hrest, ?_⟩
      · simp only [List.mem_cons, not_or]
        exact ⟨Ne.symm hc, hline⟩
      · rw [hoffset, byteSize_cons, Nat.add_assoc]
  · rintro ⟨line, hline, rfl, hoffset⟩
    rw [skipLineComment_append hline, ← hoffset]

theorem skipBlockComment_append {text : List Char} (h : BlockCommentRest text) (offset : Nat)
    (rest : List Char) :
    skipBlockComment offset (text ++ rest) = some ⟨offset + byteSize text, rest⟩ := by
  induction h generalizing offset with
  | close => simp [skipBlockComment]
  | @char c text hopen htext ih =>
    have hhead : ¬(c = '*' ∧ (text ++ rest).head? = some '/') := by
      rwa [List.head?_append_of_ne_nil _ htext.ne_nil]
    rw [List.cons_append, skipBlockComment, if_neg hhead, ih, byteSize_cons, Nat.add_assoc]

/-- The end of a block comment is found exactly behind a text that has the form of one. -/
theorem skipBlockComment_eq_some_iff {offset : Nat} {cs : List Char} {p : Place} :
    skipBlockComment offset cs = some p ↔
      ∃ text, BlockCommentRest text ∧ cs = text ++ p.rest ∧ p.offset = offset + byteSize text := by
  constructor
  · intro h
    fun_induction skipBlockComment offset cs with
    | case1 => cases h
    | case2 offset c rest hclose =>
      cases h
      obtain ⟨rfl, hslash⟩ := hclose
      cases rest with
      | nil => cases hslash
      | cons d rest =>
        cases hslash
        exact ⟨['*', '/'], .close, rfl, rfl⟩
    | case3 offset c rest hopen ih =>
      obtain ⟨text, htext, hrest, hoffset⟩ := ih h
      refine ⟨c :: text, .char ?_ htext, by rw [hrest]; rfl, ?_⟩
      · rwa [hrest, List.head?_append_of_ne_nil _ htext.ne_nil] at hopen
      · rw [hoffset, byteSize_cons, Nat.add_assoc]
  · rintro ⟨text, htext, rfl, hoffset⟩
    rw [skipBlockComment_append htext, ← hoffset]

/-! ### Regular expressions -/

theorem skipFlags_append {flags rest : List Char} (h : FlagsBefore flags rest) (offset : Nat) :
    skipFlags offset (flags ++ rest) = ⟨offset + byteSize flags, rest⟩ := by
  obtain ⟨hflags, hrest⟩ := h
  induction flags generalizing offset with
  | nil =>
    cases rest with
    | nil => rfl
    | cons c rest => rw [List.nil_append, skipFlags, if_neg (hrest c rfl)]; rfl
  | cons c flags ih =>
    simp only [List.mem_cons, forall_eq_or_imp] at hflags
    rw [List.cons_append, skipFlags, if_pos hflags.1, ih _ hflags.2, byteSize_cons,
      utf8Size_of_isAlpha hflags.1, Nat.add_assoc]

theorem exists_flags (offset : Nat) (cs : List Char) :
    ∃ flags, FlagsBefore flags (skipFlags offset cs).rest ∧
      cs = flags ++ (skipFlags offset cs).rest ∧
        (skipFlags offset cs).offset = offset + byteSize flags := by
  fun_induction skipFlags offset cs with
  | case1 offset => exact ⟨[], ⟨by simp, by simp⟩, rfl, rfl⟩
  | case2 offset c rest hc ih =>
    obtain ⟨flags, ⟨hflags, hend⟩, hrest, hoffset⟩ := ih
    refine ⟨c :: flags, ⟨?_, hend⟩, congrArg (c :: ·) hrest, ?_⟩
    · simpa only [List.mem_cons, forall_eq_or_imp] using ⟨hc, hflags⟩
    · rw [hoffset, byteSize_cons, utf8Size_of_isAlpha hc, Nat.add_assoc]
  | case3 offset c rest hc =>
    refine ⟨[], ⟨by simp, fun d hd => ?_⟩, rfl, rfl⟩
    cases hd
    exact hc

theorem skipRegex_append {inClass : Bool} {text flags rest : List Char}
    (h : RegexRest inClass text) (hflags : FlagsBefore flags rest) (offset : Nat) :
    skipRegex inClass offset (text ++ (flags ++ rest)) =
      some ⟨offset + byteSize text + byteSize flags, rest⟩ := by
  induction h generalizing offset with
  | close =>
    rw [List.cons_append, skipRegex.eq_def]
    simp [skipFlags_append hflags]
  | escape e htext ih =>
    simp only [List.cons_append, skipRegex, ↓reduceIte, ih, byteSize_cons, Nat.add_assoc]
    rfl
  | openClass htext ih =>
    rw [List.cons_append, skipRegex.eq_def]
    simp [ih, Nat.add_assoc]
  | closeClass htext ih =>
    rw [List.cons_append, skipRegex.eq_def]
    simp [ih, Nat.add_assoc]
  | slash htext ih =>
    rw [List.cons_append, skipRegex.eq_def]
    simp [ih, Nat.add_assoc]
  | char hc htext ih =>
    rw [List.cons_append, skipRegex.eq_def]
    simp only [List.mem_cons, List.not_mem_nil, or_false, not_or] at hc
    simp [hc, ih, Nat.add_assoc]

/-- The end of a regular expression is found exactly behind a text that has the form of one and
all the letters that follow. -/
theorem skipRegex_eq_some_iff {inClass : Bool} {offset : Nat} {cs : List Char} {p : Place} :
    skipRegex inClass offset cs = some p ↔
      ∃ text flags, RegexRest inClass text ∧ FlagsBefore flags p.rest ∧
        cs = text ++ (flags ++ p.rest) ∧ p.offset = offset + byteSize text + byteSize flags := by
  constructor
  · intro h
    fun_induction skipRegex inClass offset cs with
    | case1 => cases h
    | case2 => cases h
    | case3 inClass offset e rest ih =>
      obtain ⟨text, flags, htext, hflags, hrest, hoffset⟩ := ih h
      refine ⟨'\\' :: e :: text, flags, .escape e htext, hflags, by rw [hrest]; rfl, ?_⟩
      simp only [hoffset, byteSize_cons, ← Nat.add_assoc]
      rfl
    | case4 => cases h
    | case5 inClass offset rest _ _ ih =>
      obtain ⟨text, flags, htext, hflags, hrest, hoffset⟩ := ih h
      refine ⟨'[' :: text, flags, .openClass htext, hflags, by rw [hrest]; rfl, ?_⟩
      simp only [hoffset, byteSize_cons, ← Nat.add_assoc]
      rfl
    | case6 inClass offset rest _ _ _ ih =>
      obtain ⟨text, flags, htext, hflags, hrest, hoffset⟩ := ih h
      refine ⟨']' :: text, flags, .closeClass htext, hflags, by rw [hrest]; rfl, ?_⟩
      simp only [hoffset, byteSize_cons, ← Nat.add_assoc]
      rfl
    | case7 inClass offset c rest _ _ _ _ hclose =>
      cases h
      obtain ⟨rfl, rfl⟩ := hclose
      obtain ⟨flags, hflags, hrest, hoffset⟩ := exists_flags (offset + 1) rest
      exact ⟨['/'], flags, .close, hflags, congrArg ('/' :: ·) hrest, hoffset⟩
    | case8 inClass offset c rest hescape hbreak hopen hclose hslash ih =>
      obtain ⟨text, flags, htext, hflags, hrest, hoffset⟩ := ih h
      refine ⟨c :: text, flags, ?_, hflags, by rw [hrest]; rfl, ?_⟩
      · by_cases hc : c = '/'
        · subst hc
          simp only [true_and, Bool.not_eq_false] at hslash
          subst hslash
          exact .slash htext
        · exact .char (by simp [hescape, hbreak, hopen, hclose, hc]) htext
      · simp only [hoffset, byteSize_cons, Nat.add_assoc]
  · rintro ⟨text, flags, htext, hflags, rfl, hoffset⟩
    rw [skipRegex_append htext hflags, ← hoffset]

/-! ### Templates -/

/-- Behind a stretch of template text, and in front of the mark that ends it, the skipper goes on
as it does from the mark. -/
theorem skipTemplateText_append {text : List Char} (h : TemplateStretch text) (offset : Nat)
    {rest : List Char} (hrest : rest.head? ≠ some '\x7b') :
    skipTemplateText offset (text ++ rest) = skipTemplateText (offset + byteSize text) rest := by
  induction h generalizing offset with
  | nil => rfl
  | escape e htext ih =>
    simp only [List.cons_append, skipTemplateText, ↓reduceIte, ih, byteSize_cons, Nat.add_assoc]
    rfl
  | @char c text hescape hquote hopen htext ih =>
    have hhead : ¬(c = '$' ∧ (text ++ rest).head? = some '\x7b') := by
      cases text with
      | nil => exact fun h => hrest h.2
      | cons d text => exact hopen
    rw [List.cons_append, skipTemplateText.eq_def]
    simp only [hescape, hquote, hhead, ↓reduceIte, ih, byteSize_cons, Nat.add_assoc]

theorem skipTemplateText_closed {text : List Char} (h : TemplateStretch text) (offset : Nat)
    (rest : List Char) :
    skipTemplateText offset (text ++ '`' :: rest) = .closed ⟨offset + byteSize text + 1, rest⟩ := by
  rw [skipTemplateText_append h offset (by simp), skipTemplateText.eq_def]
  simp

theorem skipTemplateText_substitution {text : List Char} (h : TemplateStretch text) (offset : Nat)
    (rest : List Char) :
    skipTemplateText offset (text ++ '$' :: '\x7b' :: rest) =
      .substitution ⟨offset + byteSize text + 2, rest⟩ := by
  rw [skipTemplateText_append h offset (by simp), skipTemplateText.eq_def]
  simp

/-- The end that is found for template text: a mark behind a stretch of such text. -/
private def EndsStretch (offset : Nat) (cs : List Char) : TemplateText → Prop
  | .closed p => ∃ text, TemplateStretch text ∧ cs = text ++ '`' :: p.rest ∧
      p.offset = offset + byteSize text + 1
  | .substitution p => ∃ text, TemplateStretch text ∧ cs = text ++ '$' :: '\x7b' :: p.rest ∧
      p.offset = offset + byteSize text + 2
  | .unterminated => True

/-- Assumes: characters that extend any stretch of template text in front of `cs`. They also
extend the stretch whose end has been found. -/
private theorem EndsStretch.prepend {offset : Nat} {cs : List Char} {found : TemplateText}
    (more : List Char) (h : EndsStretch (offset + byteSize more) cs found)
    (hmore : ∀ text rest, cs = text ++ rest → TemplateStretch text →
      TemplateStretch (more ++ text)) :
    EndsStretch offset (more ++ cs) found := by
  cases found with
  | unterminated => trivial
  | closed p =>
    obtain ⟨text, htext, rfl, hoffset⟩ := h
    refine ⟨more ++ text, hmore _ _ rfl htext, by simp, ?_⟩
    rw [hoffset, byteSize_append, Nat.add_assoc offset]
  | substitution p =>
    obtain ⟨text, htext, rfl, hoffset⟩ := h
    refine ⟨more ++ text, hmore _ _ rfl htext, by simp, ?_⟩
    rw [hoffset, byteSize_append, Nat.add_assoc offset]

private theorem endsStretch_skipTemplateText (offset : Nat) (cs : List Char) :
    EndsStretch offset cs (skipTemplateText offset cs) := by
  fun_induction skipTemplateText offset cs with
  | case1 => trivial
  | case2 => trivial
  | case3 offset e rest ih =>
    have hsize : offset + 1 + e.utf8Size = offset + byteSize ['\\', e] := Nat.add_assoc offset 1 _
    rw [hsize] at ih ⊢
    exact EndsStretch.prepend ['\\', e] ih fun text _ _ htext ↦ .escape e htext
  | case4 offset rest => exact ⟨[], .nil, rfl, rfl⟩
  | case5 offset c rest _ _ hopen =>
    obtain ⟨rfl, hbrace⟩ := hopen
    cases rest with
    | nil => cases hbrace
    | cons d rest =>
      cases hbrace
      exact ⟨[], .nil, rfl, rfl⟩
  | case6 offset c rest hescape hquote hopen ih =>
    refine EndsStretch.prepend [c] ih fun text _ htext hstretch ↦
      .char hescape hquote (fun hbrace ↦ hopen ⟨hbrace.1, ?_⟩) hstretch
    cases text with
    | nil => cases hbrace.2
    | cons d text => rw [htext]; exact hbrace.2

/-- Template text ends with a backtick exactly behind a stretch of such text. -/
theorem skipTemplateText_eq_closed_iff {offset : Nat} {cs : List Char} {p : Place} :
    skipTemplateText offset cs = .closed p ↔
      ∃ text, TemplateStretch text ∧ cs = text ++ '`' :: p.rest ∧
        p.offset = offset + byteSize text + 1 := by
  constructor
  · intro h
    have hends := endsStretch_skipTemplateText offset cs
    rwa [h] at hends
  · rintro ⟨text, htext, rfl, hoffset⟩
    rw [skipTemplateText_closed htext, ← hoffset]

/-- Template text ends with the start of a substitution exactly behind a stretch of such text. -/
theorem skipTemplateText_eq_substitution_iff {offset : Nat} {cs : List Char} {p : Place} :
    skipTemplateText offset cs = .substitution p ↔
      ∃ text, TemplateStretch text ∧ cs = text ++ '$' :: '\x7b' :: p.rest ∧
        p.offset = offset + byteSize text + 2 := by
  constructor
  · intro h
    have hends := endsStretch_skipTemplateText offset cs
    rwa [h] at hends
  · rintro ⟨text, htext, rfl, hoffset⟩
    rw [skipTemplateText_substitution htext, ← hoffset]

end BrowserScript.Wrapper
