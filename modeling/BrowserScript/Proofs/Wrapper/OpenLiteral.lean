import BrowserScript.Proofs.Wrapper.WrapperShape

/-!
Literals and comments without an end. A skipper finds no end exactly when what is left has the form
of an open literal: a stretch of its text, cut off by a line feed or by the end of the whole text
(`skipString_eq_none_iff`, `skipRegex_eq_none_iff`, `skipBlockComment_eq_none_iff`,
`skipTemplateText_eq_unterminated_iff`). From this the places where the scanner gives up are listed
(`move_eq_stop_some_iff`). It may give up deep inside a template, long behind its backtick; a run
that leaves a template open is therefore split at that backtick (`Run.exists_openingSplit`), and so
every failure is traced back to the delimiter of the innermost construct that is open
(`unwrap_unterminated_iff`).
-/

set_option autoImplicit false
set_option relaxedAutoImplicit false

namespace BrowserScript.Wrapper

open Text

/-! ### Forms of open literals -/

/-- Characters of a string: none is its quote or a line feed, unless a backslash stands in front. -/
inductive StringStretch (quote : Char) : List Char → Prop
  | nil : StringStretch quote []
  | escape (e : Char) {text : List Char} (htext : StringStretch quote text) :
    StringStretch quote ('\\' :: e :: text)
  | char {c : Char} {text : List Char} (hescape : c ≠ '\\') (hbreak : c ≠ '\n') (hquote : c ≠ quote)
    (htext : StringStretch quote text) : StringStretch quote (c :: text)

/-- Characters of a regular expression: none is a line feed or, outside of a class, a slash, unless
a backslash stands in front; the flag tells whether a class is open. -/
inductive RegexStretch : Bool → List Char → Prop
  | nil (inClass : Bool) : RegexStretch inClass []
  | escape {inClass : Bool} (e : Char) {text : List Char} (htext : RegexStretch inClass text) :
    RegexStretch inClass ('\\' :: e :: text)
  | openClass {inClass : Bool} {text : List Char} (htext : RegexStretch true text) :
    RegexStretch inClass ('[' :: text)
  | closeClass {inClass : Bool} {text : List Char} (htext : RegexStretch false text) :
    RegexStretch inClass (']' :: text)
  | slash {text : List Char} (htext : RegexStretch true text) : RegexStretch true ('/' :: text)
  | char {inClass : Bool} {c : Char} {text : List Char} (hc : c ∉ ['\\', '\n', '[', ']', '/'])
    (htext : RegexStretch inClass text) : RegexStretch inClass (c :: text)

/-- The text ends, or ends behind one more backslash. -/
def TextEnds (rest : List Char) : Prop := rest = [] ∨ rest = ['\\']

/-- The line ends, or the text does. -/
def LineEnds (rest : List Char) : Prop := rest.head? = some '\n' ∨ TextEnds rest

/-- The rest of a string that has no end. -/
def StringOpen (quote : Char) (cs : List Char) : Prop :=
  ∃ text rest, cs = text ++ rest ∧ StringStretch quote text ∧ LineEnds rest

/-- The rest of a regular expression that has no end. -/
def RegexOpen (inClass : Bool) (cs : List Char) : Prop :=
  ∃ text rest, cs = text ++ rest ∧ RegexStretch inClass text ∧ LineEnds rest

/-- The rest of a template that ends in its own text, outside of its substitutions. -/
def TemplateTextOpen (cs : List Char) : Prop :=
  ∃ text rest, cs = text ++ rest ∧ TemplateStretch text ∧ TextEnds rest

theorem StringOpen.escape {quote : Char} {cs : List Char} (h : StringOpen quote cs) (e : Char) :
    StringOpen quote ('\\' :: e :: cs) := by
  obtain ⟨text, rest, rfl, htext, hrest⟩ := h
  exact ⟨'\\' :: e :: text, rest, rfl, .escape e htext, hrest⟩

theorem RegexOpen.escape {inClass : Bool} {cs : List Char} (h : RegexOpen inClass cs) (e : Char) :
    RegexOpen inClass ('\\' :: e :: cs) := by
  obtain ⟨text, rest, rfl, htext, hrest⟩ := h
  exact ⟨'\\' :: e :: text, rest, rfl, .escape e htext, hrest⟩

theorem TemplateTextOpen.escape {cs : List Char} (h : TemplateTextOpen cs) (e : Char) :
    TemplateTextOpen ('\\' :: e :: cs) := by
  obtain ⟨text, rest, rfl, htext, hrest⟩ := h
  exact ⟨'\\' :: e :: text, rest, rfl, .escape e htext, hrest⟩

/-! ### Where the skippers find no end -/

theorem skipString_stretch {quote : Char} {text rest : List Char} (h : StringStretch quote text)
    (hrest : LineEnds rest) (offset : Nat) : skipString quote offset (text ++ rest) = none := by
  induction h generalizing offset with
  | nil =>
    rcases hrest with hbreak | rfl | rfl
    · obtain ⟨tail, rfl⟩ := List.head?_eq_some_iff.mp hbreak
      rw [List.nil_append, skipString.eq_def]
      simp
    · rfl
    · rfl
  | escape e htext ih => simp only [List.cons_append, skipString, ↓reduceIte, ih]
  | char hc hb hq htext ih =>
    rw [List.cons_append, skipString.eq_def]
    simp only [hc, hb, hq, ↓reduceIte, ih]

/-- No end of a string is found exactly where its line ends first. -/
theorem skipString_eq_none_iff {quote : Char} {offset : Nat} {cs : List Char} :
    skipString quote offset cs = none ↔ StringOpen quote cs := by
  constructor
  · intro h
    fun_induction skipString quote offset cs with
    | case1 => exact ⟨[], [], rfl, .nil, .inr (.inl rfl)⟩
    | case2 => exact ⟨[], ['\\'], rfl, .nil, .inr (.inr rfl)⟩
    | case3 offset e rest ih => exact (ih h).escape e
    | case4 offset rest => exact ⟨[], '\n' :: rest, rfl, .nil, .inl rfl⟩
    | case5 => cases h
    | case6 offset c rest hc hb hq ih =>
      obtain ⟨text, tail, rfl, htext, htail⟩ := ih h
      exact ⟨c :: text, tail, rfl, .char hc hb hq htext, htail⟩
  · rintro ⟨text, rest, rfl, htext, hrest⟩
    exact skipString_stretch htext hrest offset

theorem skipRegex_stretch {inClass : Bool} {text rest : List Char} (h : RegexStretch inClass text)
    (hrest : LineEnds rest) (offset : Nat) : skipRegex inClass offset (text ++ rest) = none := by
  induction h generalizing offset with
  | nil inClass =>
    rcases hrest with hbreak | rfl | rfl
    · obtain ⟨tail, rfl⟩ := List.head?_eq_some_iff.mp hbreak
      rw [List.nil_append, skipRegex.eq_def]
      simp
    · rfl
    · rfl
  | escape e htext ih => simp only [List.cons_append, skipRegex, ↓reduceIte, ih]
  | openClass htext ih | closeClass htext ih | slash htext ih =>
    rw [List.cons_append, skipRegex.eq_def]
    simp [ih]
  | char hc htext ih =>
    rw [List.cons_append, skipRegex.eq_def]
    simp only [List.mem_cons, List.not_mem_nil, or_false, not_or] at hc
    simp [hc, ih]

/-- No end of a regular expression is found exactly where its line ends first. -/
theorem skipRegex_eq_none_iff {inClass : Bool} {offset : Nat} {cs : List Char} :
    skipRegex inClass offset cs = none ↔ RegexOpen inClass cs := by
  constructor
  · intro h
    fun_induction skipRegex inClass offset cs with
    | case1 => exact ⟨[], [], rfl, .nil _, .inr (.inl rfl)⟩
    | case2 => exact ⟨[], ['\\'], rfl, .nil _, .inr (.inr rfl)⟩
    | case3 inClass offset e rest ih => exact (ih h).escape e
    | case4 inClass offset rest => exact ⟨[], '\n' :: rest, rfl, .nil _, .inl rfl⟩
    | case5 inClass offset rest _ _ ih =>
      obtain ⟨text, tail, rfl, htext, htail⟩ := ih h
      exact ⟨'[' :: text, tail, rfl, .openClass htext, htail⟩
    | case6 inClass offset rest _ _ _ ih =>
      obtain ⟨text, tail, rfl, htext, htail⟩ := ih h
      exact ⟨']' :: text, tail, rfl, .closeClass htext, htail⟩
    | case7 => cases h
    | case8 inClass offset c rest hescape hbreak hopen hclose hslash ih =>
      obtain ⟨text, tail, rfl, htext, htail⟩ := ih h
      refine ⟨c :: text, tail, rfl, ?_, htail⟩
      by_cases hc : c = '/'
      · subst hc
        simp only [true_and, Bool.not_eq_false] at hslash
        subst hslash
        exact .slash htext
      · exact .char (by simp [hescape, hbreak, hopen, hclose, hc]) htext
  · rintro ⟨text, rest, rfl, htext, hrest⟩
    exact skipRegex_stretch htext hrest offset

/-- No end of a block comment is found exactly where its closing mark does not occur. -/
theorem skipBlockComment_eq_none_iff {offset : Nat} {cs : List Char} :
    skipBlockComment offset cs = none ↔ ¬['*', '/'] <:+: cs := by
  fun_induction skipBlockComment offset cs with
  | case1 => simp
  | case2 offset c rest hclose =>
    obtain ⟨rfl, hslash⟩ := hclose
    obtain ⟨tail, rfl⟩ := List.head?_eq_some_iff.mp hslash
    simp only [reduceCtorEq, false_iff, not_not]
    exact (List.prefix_append ['*', '/'] tail).isInfix
  | case3 offset c rest hopen ih =>
    have hhere : ¬['*', '/'] <+: c :: rest := by
      rintro ⟨tail, htail⟩
      obtain ⟨rfl, rfl⟩ := List.cons.inj htail
      exact hopen ⟨rfl, rfl⟩
    rw [ih, List.infix_cons_iff, or_iff_right hhere]

theorem skipTemplateText_of_textEnds {rest : List Char} (h : TextEnds rest) (offset : Nat) :
    skipTemplateText offset rest = .unterminated := by
  rcases h with rfl | rfl <;> rfl

/-- Template text has no end exactly where the whole text ends first. -/
theorem skipTemplateText_eq_unterminated_iff {offset : Nat} {cs : List Char} :
    skipTemplateText offset cs = .unterminated ↔ TemplateTextOpen cs := by
  constructor
  · intro h
    fun_induction skipTemplateText offset cs with
    | case1 => exact ⟨[], [], rfl, .nil, .inl rfl⟩
    | case2 => exact ⟨[], ['\\'], rfl, .nil, .inr rfl⟩
    | case3 offset e rest ih => exact (ih h).escape e
    | case4 => cases h
    | case5 => cases h
    | case6 offset c rest hescape hquote hopen ih =>
      obtain ⟨text, tail, rfl, htext, htail⟩ := ih h
      refine ⟨c :: text, tail, rfl, .char hescape hquote (fun hbrace ↦ hopen ?_) htext, htail⟩
      refine ⟨hbrace.1, ?_⟩
      rw [List.head?_append, hbrace.2]
      rfl
  · rintro ⟨text, rest, rfl, htext, hrest⟩
    have hhead : rest.head? ≠ some '\x7b' := by
      rcases hrest with rfl | rfl <;> simp
    rw [skipTemplateText_append htext offset hhead]
    exact skipTemplateText_of_textEnds hrest _

/-! ### Where the scanner gives up -/

/-- In state `s` the text starts with the delimiter of a literal or comment of the kind, and no end
of it follows; a template ends in its first stretch of text. -/
inductive Broken (s : ScanState) : LiteralKind → List Char → Prop
  | stringLiteral {quote : Char} {cs : List Char} (hquote : quote = '\'' ∨ quote = '"')
    (hopen : StringOpen quote cs) : Broken s .stringLiteral (quote :: cs)
  | blockComment {cs : List Char} (hopen : ¬['*', '/'] <:+: cs) :
    Broken s .blockComment ('/' :: '*' :: cs)
  | regex {cs : List Char} (hallowed : s.preceding.regexAllowed) (hslash : cs.head? ≠ some '/')
    (hstar : cs.head? ≠ some '*') (hopen : RegexOpen false cs) : Broken s .regex ('/' :: cs)
  | template {cs : List Char} (hopen : TemplateTextOpen cs) : Broken s .template ('`' :: cs)

/-- Inside a substitution with `depth` open braces, the text ends; or the substitution ends, and the
template around it is not closed behind it. -/
def NeverResumed (depth : Nat) (cs : List Char) : Prop :=
  cs = [] ∨ depth = 0 ∧ ∃ text, cs = '\x7d' :: text ∧ TemplateTextOpen text

variable {s next : ScanState} {offset start : Nat} {read rest cs : List Char}
  {brace : Option Brace} {braces : List (Nat × Brace)} {kind : LiteralKind}
  {literal : Unterminated} {template : OpenTemplate} {inner outer : List OpenTemplate}

theorem afterTemplateText_eq_stop_iff {found : TemplateText} :
    s.afterTemplateText start found = .stop (some literal) ↔
      found = .unterminated ∧ literal = ⟨.template, start⟩ := by
  cases found <;> simp [ScanState.afterTemplateText, eq_comm]

theorem Broken.move_eq (h : Broken s kind cs) (offset : Nat) :
    s.move offset cs = .stop (some ⟨kind, offset⟩) := by
  cases h with
  | stringLiteral hquote hopen =>
    rw [ScanState.move, if_pos hquote, skipString_eq_none_iff.mpr hopen]
  | @blockComment cs hopen =>
    rw [ScanState.move, if_neg (by decide), if_neg (by decide), if_pos rfl, ScanState.moveSlash,
      if_neg (by simp), List.head?_cons, if_pos rfl, List.tail_cons,
      skipBlockComment_eq_none_iff.mpr hopen]
  | regex hallowed hslash hstar hopen =>
    rw [ScanState.move, if_neg (by decide), if_neg (by decide), if_pos rfl, ScanState.moveSlash,
      if_neg hslash, if_neg hstar, if_pos hallowed, skipRegex_eq_none_iff.mpr hopen]
  | template hopen =>
    rw [ScanState.move, if_neg (by decide), if_pos rfl,
      skipTemplateText_eq_unterminated_iff.mpr hopen]
    rfl

theorem NeverResumed.move_eq (h : NeverResumed template.depth cs)
    (htemplates : s.templates = template :: outer) (offset : Nat) :
    s.move offset cs = .stop (some ⟨.template, template.start⟩) := by
  obtain ⟨start, depth⟩ := template
  rcases h with rfl | ⟨rfl, text, rfl, hopen⟩
  · rw [ScanState.move, htemplates]
    rfl
  · rw [ScanState.move, if_neg (by decide), if_neg (by decide), if_neg (by decide),
      if_neg (by decide), if_neg (by decide), if_neg (by decide), if_pos rfl,
      ScanState.moveCloseBrace, htemplates]
    exact afterTemplateText_eq_stop_iff.mpr
      ⟨skipTemplateText_eq_unterminated_iff.mpr hopen, rfl⟩

theorem moveSlash_eq_stop_some (h : s.moveSlash offset cs = .stop (some literal)) :
    literal.start = offset ∧ Broken s literal.kind ('/' :: cs) := by
  revert h
  fun_cases ScanState.moveSlash s offset cs with
  | case1 | case3 | case5 | case6 => exact fun h ↦ by cases h
  | case2 _ hstar hskip =>
    rintro ⟨⟩
    obtain ⟨tail, rfl⟩ := List.head?_eq_some_iff.mp hstar
    exact ⟨rfl, .blockComment (skipBlockComment_eq_none_iff.mp hskip)⟩
  | case4 hslash hstar hallowed hskip =>
    rintro ⟨⟩
    exact ⟨rfl, .regex hallowed hslash hstar (skipRegex_eq_none_iff.mp hskip)⟩

theorem moveCloseBrace_eq_stop_some (h : s.moveCloseBrace offset cs = .stop (some literal)) :
    ∃ template outer, literal = ⟨.template, template.start⟩ ∧ s.templates = template :: outer ∧
      NeverResumed template.depth ('\x7d' :: cs) := by
  revert h
  fun_cases ScanState.moveCloseBrace s offset cs with
  | case1 | case2 => exact fun h ↦ by cases h
  | case3 start outer hinner =>
    intro h
    obtain ⟨hskip, rfl⟩ := afterTemplateText_eq_stop_iff.mp h
    refine ⟨⟨start, 0⟩, outer, rfl, hinner, .inr ⟨rfl, cs, rfl, ?_⟩⟩
    exact skipTemplateText_eq_unterminated_iff.mp hskip

/-- The scanner gives up in front of a literal or comment that has no end, or because of the
template around it. -/
theorem move_eq_stop_some_iff :
    s.move offset cs = .stop (some literal) ↔
      literal.start = offset ∧ Broken s literal.kind cs ∨
        ∃ template outer, literal = ⟨.template, template.start⟩ ∧
          s.templates = template :: outer ∧ NeverResumed template.depth cs := by
  constructor
  · fun_cases ScanState.move s offset cs with
    | case1 =>
      intro h
      simp only [Move.stop.injEq, Option.map_eq_some_iff] at h
      obtain ⟨template, hhead, rfl⟩ := h
      obtain ⟨outer, htemplates⟩ := List.head?_eq_some_iff.mp hhead
      exact .inr ⟨template, outer, rfl, htemplates, .inl rfl⟩
    | case2 c rest hquote hskip =>
      rintro ⟨⟩
      exact .inl ⟨rfl, .stringLiteral hquote (skipString_eq_none_iff.mp hskip)⟩
    | case4 rest =>
      intro h
      obtain ⟨hskip, rfl⟩ := afterTemplateText_eq_stop_iff.mp h
      exact .inl ⟨rfl, .template (skipTemplateText_eq_unterminated_iff.mp hskip)⟩
    | case5 rest => exact fun h ↦ .inl (moveSlash_eq_stop_some h)
    | case8 rest =>
      intro h
      unfold ScanState.moveOpenBrace at h
      split at h <;> cases h
    | case9 rest => exact fun h ↦ .inr (moveCloseBrace_eq_stop_some h)
    | case3 | case6 | case7 | case10 | case11 => exact fun h ↦ by cases h
  · rintro (⟨rfl, hbroken⟩ | ⟨template, outer, rfl, htemplates, hend⟩)
    · exact hbroken.move_eq _
    · exact hend.move_eq htemplates offset

/-! ### Back to the backtick of an open template -/

/-- A template that is open behind a step was open in front of it, or the step has opened it. -/
theorem Step.templates_cases (h : Step s offset read rest brace next)
    (hopen : next.templates = inner ++ template :: outer) :
    brace = none ∧ ((∃ inner' depth, s.templates = inner' ++ ⟨template.start, depth⟩ :: outer) ∨
      inner = [] ∧ template.start = offset ∧ s.templates = outer ∧ ∃ text, read = '`' :: text) := by
  have hstill : ∀ {depth : Nat}, s.templates = inner ++ ⟨template.start, depth⟩ :: outer →
      ∃ inner' depth, s.templates = inner' ++ ⟨template.start, depth⟩ :: outer :=
    fun hopen ↦ ⟨inner, _, hopen⟩
  cases h with
  | stringLiteral | template | lineComment | blockComment | regex | division | openParen
  | closeParen | space | char => exact ⟨rfl, .inl (hstill hopen)⟩
  | substitution =>
    refine ⟨rfl, ?_⟩
    cases inner with
    | nil =>
      obtain ⟨rfl, rfl⟩ := List.cons.inj hopen
      exact .inr ⟨rfl, rfl, rfl, _, rfl⟩
    | cons _ inner => exact .inl ⟨inner, _, (List.cons.inj hopen).2⟩
  | openBrace _ houter | closeBrace _ houter =>
    have hnil : s.templates = inner ++ template :: outer := hopen
    rw [houter] at hnil
    simp at hnil
  | openInner _ hinner | closeInner _ hinner | nextSubstitution _ hinner =>
    refine ⟨rfl, .inl ?_⟩
    cases inner with
    | nil =>
      obtain ⟨rfl, rfl⟩ := List.cons.inj hopen
      exact ⟨[], _, hinner⟩
    | cons t inner =>
      obtain ⟨rfl, rfl⟩ := List.cons.inj hopen
      exact ⟨_ :: inner, _, hinner⟩
  | closeTemplate _ hinner =>
    exact ⟨rfl, .inl ⟨_ :: inner, _, hinner.trans (congrArg _ hopen)⟩⟩

/-- A run in parts: up to the backtick of a template that it leaves open, and from there on. -/
structure OpeningSplit (s next : ScanState) (offset start : Nat) (before inside rest : List Char)
    (braces : List (Nat × Brace)) (middle : ScanState) : Prop where
  start_eq : start = offset + byteSize before
  front : Run s offset before ('`' :: (inside ++ rest)) braces middle
  back : Run middle start ('`' :: inside) rest [] next

/-- A step in front of a run that is split. -/
theorem OpeningSplit.of_step {m middle : ScanState} {before inside : List Char}
    (h : OpeningSplit m next (offset + byteSize read) start before inside rest braces middle)
    (hstep : Step s offset read (before ++ '`' :: (inside ++ rest)) brace m) :
    OpeningSplit s next offset start (read ++ before) inside rest
      (bracePassed brace ++ shiftBraces (byteSize read) braces) middle where
  start_eq := by rw [h.start_eq, byteSize_append, Nat.add_assoc]
  front := .step hstep h.front
  back := h.back

/-- A template that is open behind a run was open in front of it, or the run is split where it has
opened it; from there on nothing is closed below the template, and no brace is structural. -/
theorem Run.exists_openingSplit (h : Run s offset read rest braces next)
    (hopen : next.templates = inner ++ template :: outer) :
    (braces = [] ∧ ∃ inner' depth, s.templates = inner' ++ ⟨template.start, depth⟩ :: outer) ∨
      ∃ before inside middle, read = before ++ '`' :: inside ∧ middle.templates = outer ∧
        OpeningSplit s next offset template.start before inside rest braces middle := by
  induction h with
  | refl s offset => exact .inl ⟨rfl, inner, template.depth, hopen⟩
  | @step s m next offset read more rest brace braces hstep hrun ih =>
    rcases ih hopen with ⟨rfl, inner', depth, hopen'⟩ | ⟨before, inside, middle, rfl, rfl, hsplit⟩
    · -- the template is open behind the step
      obtain ⟨rfl, hstill | ⟨-, hstart, rfl, text, rfl⟩⟩ := hstep.templates_cases hopen'
      · exact .inl ⟨rfl, hstill⟩
      · refine .inr ⟨[], text ++ more, s, rfl, rfl, hstart, ?_, ?_⟩
        · exact .refl _ _ _
        · rw [show template.start = offset from hstart]
          exact .step hstep hrun
    · refine .inr ⟨read ++ before, inside, middle, by simp, rfl, hsplit.of_step ?_⟩
      simpa using hstep

/-! ### Innermost open constructs -/

/-- In state `s` at the byte `start` the text starts with the delimiter of a literal or comment of
the kind, and this has no end. What a template holds is read as code inside its substitutions; all
that has been opened there is closed again where the text ends, or where the text of the template
goes on for the last time. -/
inductive Unclosed (s : ScanState) (start : Nat) : LiteralKind → List Char → Prop
  | broken {kind : LiteralKind} {cs : List Char} (h : Broken s kind cs) : Unclosed s start kind cs
  | template {inside rest : List Char} {next : ScanState} {depth : Nat}
    (hrun : Run s start ('`' :: inside) rest [] next)
    (hopen : next.templates = ⟨start, depth⟩ :: s.templates) (hend : NeverResumed depth rest) :
    Unclosed s start .template ('`' :: (inside ++ rest))

/-- Assumes: a run up to a literal or comment without an end. The scan fails because of it. -/
theorem Unclosed.scanBraces_eq (h : Unclosed next (offset + byteSize read) kind rest)
    (hrun : Run s offset read rest braces next) :
    scanBraces s offset (read ++ rest) =
      ⟨shiftBraces offset braces, some ⟨kind, offset + byteSize read⟩⟩ := by
  rw [scanBraces_append_of_run hrun]
  cases h with
  | broken h => simp [scanBraces_of_stop (h.move_eq _)]
  | @template inside rest last depth hinside hopen hend =>
    rw [← List.cons_append, scanBraces_append_of_run hinside,
      scanBraces_of_stop (hend.move_eq hopen _)]
    simp

theorem Verdict.undecided {trace : BraceTrace}
    (h : Verdict trace (.error (.unterminated literal))) :
    trace.failure = some literal ∧ Undecided trace.braces := by
  cases h with
  | unterminated hfailure hundecided => exact ⟨hfailure, hundecided⟩

/-- A scan that fails has come to a literal or comment without an end. -/
theorem exists_unclosed_of_failure {text : List Char}
    (h : (structuralBraces text).failure = some literal) :
    ∃ before rest s, text = before ++ rest ∧ byteSize before = literal.start ∧
      Run {} 0 before rest (structuralBraces text).braces s ∧
        Unclosed s literal.start literal.kind rest := by
  obtain ⟨read, rest, braces, next, failure, rfl, hrun, hstop, htrace⟩ :=
    exists_run_scanBraces {} 0 text
  rw [structuralBraces, htrace] at h ⊢
  rw [shiftBraces_zero]
  obtain rfl : failure = some literal := h
  rcases move_eq_stop_some_iff.mp hstop with ⟨hstart, hbroken⟩ |
    ⟨template, outer, rfl, htemplates, hend⟩
  · refine ⟨read, rest, next, rfl, ?_, hrun, .broken hbroken⟩
    rw [hstart, Nat.zero_add]
  · -- no template is open at the start of the text, so the run has opened this one
    have hopen : next.templates = [] ++ template :: outer := htemplates
    rcases hrun.exists_openingSplit hopen with ⟨-, inner', _, hnone⟩ |
      ⟨before, inside, middle, rfl, rfl, hsplit⟩
    · simp at hnone
    · refine ⟨before, '`' :: (inside ++ rest), middle, by simp, ?_, hsplit.front, ?_⟩
      · rw [hsplit.start_eq, Nat.zero_add]
      · exact .template hsplit.back htemplates hend

/-! ### The wording of the failure -/

theorem append_ne_append {first second : String} (n : Nat) (hfirst : n ≤ first.toList.length)
    (hsecond : n ≤ second.toList.length) (h : first.toList.take n ≠ second.toList.take n)
    (a b : String) : first ++ a ≠ second ++ b := by
  intro heq
  apply h
  have htake := congrArg (List.take n) (congrArg String.toList heq)
  rwa [String.toList_append, String.toList_append, List.take_append_of_le_length hfirst,
    List.take_append_of_le_length hsecond] at htake

theorem LiteralKind.take_description (kind kind' : LiteralKind) :
    1 ≤ kind.description.toList.length ∧
      (kind ≠ kind' →
        kind.description.toList.take 1 ≠ kind'.description.toList.take 1) := by
  cases kind <;> cases kind' <;> decide

theorem description_append_inj {kind' : LiteralKind} {a b : String}
    (h : kind.description ++ a = kind'.description ++ b) : kind = kind' := by
  by_contra hne
  obtain ⟨hlength, htake⟩ := kind.take_description kind'
  exact append_ne_append 1 hlength (kind'.take_description kind).1 (htake hne) a b h

/-- The causes that are no literal without an end are worded otherwise from the start. -/
theorem message_ne_unterminated {cause : ShapeError}
    (hcause : ∀ literal, cause ≠ .unterminated literal) (text : String) :
    cause.message ≠ "unterminated " ++ text := by
  cases cause with
  | closingFirst offset =>
    have hmessage : (ShapeError.closingFirst offset).message =
        "unmatched `\x7d` at byte " ++ (toString offset ++ " before the function body") :=
      String.append_assoc
    rw [hmessage]
    exact append_ne_append 3 (by decide) (by decide) (by decide) _ _
  | noBrace =>
    rw [← String.append_empty (s := ShapeError.noBrace.message)]
    exact append_ne_append 2 (by decide) (by decide) (by decide) _ _
  | neverClosed opening =>
    have hmessage : (ShapeError.neverClosed opening).message =
        "function body opened at byte " ++ (toString opening ++ " is never closed") :=
      String.append_assoc
    rw [hmessage]
    exact append_ne_append 1 (by decide) (by decide) (by decide) _ _
  | braceAfterBody offset closing =>
    have hmessage : (ShapeError.braceAfterBody offset closing).message =
        "unexpected brace at byte " ++ (toString offset ++
          (" after the function body closed at byte " ++ toString closing)) :=
      String.append_assoc.trans String.append_assoc
    rw [hmessage]
    exact append_ne_append 3 (by decide) (by decide) (by decide) _ _
  | unterminated literal => exact (hcause literal rfl).elim

theorem message_unterminated (literal : Unterminated) :
    (ShapeError.unterminated literal).message = "unterminated " ++
      (literal.kind.description ++ (" starting at byte " ++ toString literal.start)) :=
  String.append_assoc.trans String.append_assoc

/-- No other cause is worded like a literal without an end, nor is one at another place. -/
theorem message_eq_unterminated_iff {cause : ShapeError} :
    cause.message =
        "unterminated " ++ (kind.description ++ (" starting at byte " ++ toString start)) ↔
      cause = .unterminated ⟨kind, start⟩ := by
  constructor
  · intro h
    by_cases hliteral : ∃ literal, cause = .unterminated literal
    · obtain ⟨⟨kind', start'⟩, rfl⟩ := hliteral
      rw [message_unterminated, String.append_right_inj] at h
      have hkind : kind' = kind := description_append_inj h
      subst hkind
      rw [String.append_right_inj, String.append_right_inj] at h
      have hstart : start' = start := Nat.repr_inj.mp h
      rw [hstart]
    · exact (message_ne_unterminated (fun literal hl ↦ hliteral ⟨literal, hl⟩) _ h).elim
  · rintro rfl
    exact message_unterminated ⟨kind, start⟩

/-- Unwrapping a bundle fails with the report of a literal or comment without an end exactly if one
stands at the place that is named, reached in code, before the braces have decided the shape of
the bundle. -/
theorem unwrap_unterminated_iff {bundle globalObject : String} :
    (∃ cause, (unwrap bundle globalObject).outcome = .error (.malformedBundle cause) ∧
        cause.message =
          "unterminated " ++ (kind.description ++ (" starting at byte " ++ toString start))) ↔
      isIdentifier globalObject ∧ ∃ before rest braces s,
        dropByteOrderMark bundle.toList = before ++ rest ∧ byteSize before = start ∧
          Run {} 0 before rest braces s ∧ Undecided braces ∧ Unclosed s start kind rest := by
  simp only [message_eq_unterminated_iff, exists_eq_right]
  constructor
  · intro h
    have hglobal : isIdentifier globalObject := by
      by_contra hglobal
      have hbody : bodyFor bundle globalObject = .error (.invalidGlobal globalObject) :=
        if_neg hglobal
      rw [unwrap, hbody] at h
      cases h
    rw [outcome_unwrap hglobal] at h
    cases hbody : functionBody (dropByteOrderMark bundle.toList) with
    | ok body =>
      rw [hbody] at h
      cases h
    | error cause =>
      rw [hbody] at h
      obtain rfl : cause = .unterminated ⟨kind, start⟩ := by simpa using h
      obtain ⟨hfailure, hundecided⟩ := (functionBody_eq_error_iff.mp hbody).undecided
      obtain ⟨before, rest, s, htext, hstart, hrun, hunclosed⟩ :=
        exists_unclosed_of_failure hfailure
      exact ⟨hglobal, before, rest, _, s, htext, hstart, hrun, hundecided, hunclosed⟩
  · rintro ⟨hglobal, before, rest, braces, s, htext, rfl, hrun, hundecided, hunclosed⟩
    have hscan : structuralBraces (before ++ rest) = ⟨braces, some ⟨kind, byteSize before⟩⟩ := by
      have hunclosed' : Unclosed s (0 + byteSize before) kind rest := by rwa [Nat.zero_add]
      rw [structuralBraces, hunclosed'.scanBraces_eq hrun, shiftBraces_zero, Nat.zero_add]
    have hverdict : Verdict (structuralBraces (before ++ rest))
        (.error (.unterminated ⟨kind, byteSize before⟩)) := by
      rw [hscan]
      exact .unterminated rfl hundecided
    rw [outcome_unwrap hglobal, htext, functionBody_eq_error_iff.mpr hverdict]

end BrowserScript.Wrapper
