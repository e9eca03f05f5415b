import BrowserScript.Proofs.Wrapper.LiteralExchange
import BrowserScript.Proofs.Wrapper.SideBySide
import BrowserScript.Proofs.Wrapper.StandaloneBody

/-!
Line feeds with carriage returns in front. In code, comments and templates the two line endings are
read alike. In a string or a regular expression a line feed may only stand behind a backslash, and
an escape takes one character, so the carriage return comes between the two. A bundle in which none
of them goes on over a line (`ContinuesLine`) is unwrapped with either ending, and the results
differ in the endings only; any other bundle is refused with carriage returns
(`unwrap_breakLines_iff`).
-/

set_option autoImplicit false
set_option relaxedAutoImplicit false

namespace BrowserScript.Wrapper

open Text

/-- Puts a carriage return in front of every line feed. -/
def breakLines (text : List Char) : List Char :=
  text.flatMap fun c ↦ if c = '\n' then ['\r', '\n'] else [c]

@[simp] theorem breakLines_nil : breakLines [] = [] := rfl

@[simp] theorem breakLines_lineFeed (text : List Char) :
    breakLines ('\n' :: text) = '\r' :: '\n' :: breakLines text := rfl

theorem breakLines_cons {c : Char} (hc : c ≠ '\n') (text : List Char) :
    breakLines (c :: text) = c :: breakLines text := by
  rw [breakLines, List.flatMap_cons, if_neg hc]
  rfl

@[simp] theorem breakLines_append (first second : List Char) :
    breakLines (first ++ second) = breakLines first ++ breakLines second :=
  List.flatMap_append

/-- Text on one line stays as it is. -/
theorem breakLines_of_not_mem {text : List Char} (h : '\n' ∉ text) : breakLines text = text := by
  induction text with
  | nil => rfl
  | cons c text ih =>
    rw [List.mem_cons, not_or] at h
    rw [breakLines_cons (Ne.symm h.1), ih h.2]

/-- Text between two marks that hold no line feed. -/
theorem breakLines_between {c : Char} {close : List Char} (hc : c ≠ '\n') (hclose : '\n' ∉ close)
    (text : List Char) : breakLines (c :: (text ++ close)) = c :: (breakLines text ++ close) := by
  rw [breakLines_cons hc, breakLines_append, breakLines_of_not_mem hclose]

/-- What a text starts with is kept, up to line feeds. -/
theorem head?_breakLines {c : Char} (hc : c ≠ '\r') (hbreak : c ≠ '\n') (text : List Char) :
    (breakLines text).head? = some c ↔ text.head? = some c := by
  cases text with
  | nil => rfl
  | cons d text =>
    by_cases hd : d = '\n'
    · subst hd
      simp [hc.symm, hbreak.symm]
    · simp [breakLines_cons hd]

theorem dropByteOrderMark_breakLines (text : List Char) :
    dropByteOrderMark (breakLines text) = breakLines (dropByteOrderMark text) := by
  cases text with
  | nil => rfl
  | cons c text =>
    by_cases hc : c = '\n'
    · subst hc
      rfl
    · rw [breakLines_cons hc]
      simp only [dropByteOrderMark]
      split
      · rfl
      · rw [breakLines_cons hc]

/-! ### Templates and block comments -/

variable {m n : Nat} {cs text rest flags : List Char}

theorem BlockCommentRest.breakLines (h : BlockCommentRest text) :
    BlockCommentRest (breakLines text) := by
  induction h with
  | close => exact .close
  | @char c text hopen htext ih =>
    by_cases hc : c = '\n'
    · subst hc
      exact .char (by simp) (.char (by simp) ih)
    · rw [breakLines_cons hc]
      refine .char (fun hend ↦ hopen (hend.imp_right ?_)) ih
      exact (head?_breakLines (by decide) (by decide) text).mp

theorem TemplateStretch.breakLines (h : TemplateStretch text) :
    TemplateStretch (breakLines text) := by
  induction h with
  | nil => exact .nil
  | @escape e text htext ih =>
    by_cases he : e = '\n'
    · subst he
      exact .escape '\r' (.char (by decide) (by decide) (by simp) ih)
    · rw [breakLines_cons (by decide), breakLines_cons he]
      exact .escape e ih
  | @char c text hescape hquote hopen htext ih =>
    by_cases hc : c = '\n'
    · subst hc
      exact .char (by decide) (by decide) (by simp) (.char (by decide) (by decide) (by simp) ih)
    · rw [breakLines_cons hc]
      refine .char hescape hquote (fun hend ↦ hopen (hend.imp_right ?_)) ih
      exact (head?_breakLines (by decide) (by decide) text).mp

theorem skipBlockComment_breakLines_eq_none (h : skipBlockComment m cs = none) :
    skipBlockComment n (breakLines cs) = none := by
  fun_induction skipBlockComment m cs generalizing n with
  | case1 => rfl
  | case2 => cases h
  | case3 m c rest hopen ih =>
    by_cases hc : c = '\n'
    · subst hc
      rw [breakLines_lineFeed, skipBlockComment, if_neg (by simp), skipBlockComment,
        if_neg (by simp), ih h]
    · rw [breakLines_cons hc, skipBlockComment, if_neg, ih h]
      exact fun hend ↦ hopen (hend.imp_right (head?_breakLines (by decide) (by decide) rest).mp)

theorem skipTemplateText_cons {c : Char} (hescape : c ≠ '\\') (hquote : c ≠ '`')
    (hopen : ¬(c = '$' ∧ rest.head? = some '\x7b')) :
    skipTemplateText n (c :: rest) = skipTemplateText (n + c.utf8Size) rest := by
  conv => lhs; rw [skipTemplateText.eq_def]
  simp only [hescape, hquote, hopen, if_false]

theorem skipTemplateText_breakLines_eq_unterminated (h : skipTemplateText m cs = .unterminated) :
    skipTemplateText n (breakLines cs) = .unterminated := by
  fun_induction skipTemplateText m cs generalizing n with
  | case1 | case2 => rfl
  | case3 m e rest ih =>
    by_cases he : e = '\n'
    · subst he
      have hfeed := @skipTemplateText_cons (n + 1 + '\r'.utf8Size) (breakLines rest) '\n'
        (by decide) (by decide) (by simp)
      exact hfeed.trans (ih h)
    · rw [breakLines_cons (by decide), breakLines_cons he]
      exact ih h
  | case4 | case5 => cases h
  | case6 m c rest hescape hquote hopen ih =>
    by_cases hc : c = '\n'
    · subst hc
      rw [breakLines_lineFeed, skipTemplateText_cons (by decide) (by decide) (by simp),
        skipTemplateText_cons (by decide) (by decide) (by simp), ih h]
    · rw [breakLines_cons hc, skipTemplateText_cons hescape hquote, ih h]
      exact fun hend ↦ hopen (hend.imp_right (head?_breakLines (by decide) (by decide) rest).mp)

/-! ### Strings and regular expressions -/

@[simp] theorem skipString_lineFeed (quote : Char) (n : Nat) (rest : List Char) :
    skipString quote n ('\n' :: rest) = none := by
  rw [skipString.eq_def]
  rfl

@[simp] theorem skipRegex_lineFeed (inClass : Bool) (n : Nat) (rest : List Char) :
    skipRegex inClass n ('\n' :: rest) = none := by
  rw [skipRegex.eq_def]
  rfl

/-- A string that ends where all line feeds have carriage returns in front is on one line. -/
theorem exists_stringRest_of_breakLines {quote : Char} {p : Place}
    (hquote : quote = '\'' ∨ quote = '"') (h : skipString quote n (breakLines cs) = some p) :
    ∃ text rest, cs = text ++ rest ∧ StringRest quote text ∧ '\n' ∉ text := by
  have hform : quote ≠ '\n' ∧ quote ≠ '\r' := by
    rcases hquote with rfl | rfl <;> decide
  have hfrom : ∀ _ : Nat, ∃ text rest, cs = text ++ rest ∧ StringRest quote text ∧ '\n' ∉ text := by
    intro m
    fun_induction skipString quote m cs generalizing n with
    | case1 | case2 => cases h
    | case3 m e rest ih =>
      by_cases he : e = '\n'
      · subst he
        simp [breakLines_cons, skipString] at h
      · rw [breakLines_cons (by decide), breakLines_cons he] at h
        obtain ⟨text, rest', rfl, htext, hline⟩ := ih h
        exact ⟨'\\' :: e :: text, rest', rfl, .escape e htext, by simp [hline, Ne.symm he]⟩
    | case4 m rest => simp [skipString, hform.2.symm] at h
    | case5 m rest => exact ⟨[quote], rest, rfl, .close, by simp [hform.1.symm]⟩
    | case6 m c rest hescape hfeed hclose ih =>
      rw [breakLines_cons hfeed, skipString.eq_def] at h
      simp only [hescape, hfeed, hclose, if_false] at h
      obtain ⟨text, rest', rfl, htext, hline⟩ := ih h
      exact ⟨c :: text, rest', rfl, .char hescape hfeed hclose htext,
        by simp [hline, Ne.symm hfeed]⟩
  exact hfrom 0

/-- So is a regular expression. -/
theorem exists_regexRest_of_breakLines {inClass : Bool} {p : Place}
    (h : skipRegex inClass n (breakLines cs) = some p) :
    ∃ text rest, cs = text ++ rest ∧ RegexRest inClass text ∧ '\n' ∉ text := by
  have hfrom : ∀ _ : Nat,
      ∃ text rest, cs = text ++ rest ∧ RegexRest inClass text ∧ '\n' ∉ text := by
    intro m
    fun_induction skipRegex inClass m cs generalizing n with
    | case1 | case2 => cases h
    | case3 inClass m e rest ih =>
      by_cases he : e = '\n'
      · subst he
        simp [breakLines_cons, skipRegex] at h
      · rw [breakLines_cons (by decide), breakLines_cons he] at h
        obtain ⟨text, rest', rfl, htext, hline⟩ := ih h
        exact ⟨'\\' :: e :: text, rest', rfl, .escape e htext, by simp [hline, Ne.symm he]⟩
    | case4 inClass m rest => simp [skipRegex] at h
    | case5 inClass m rest _ _ ih =>
      rw [breakLines_cons (by decide), skipRegex.eq_def] at h
      obtain ⟨text, rest', rfl, htext, hline⟩ := ih h
      exact ⟨'[' :: text, rest', rfl, .openClass htext, by simp [hline]⟩
    | case6 inClass m rest _ _ _ ih =>
      rw [breakLines_cons (by decide), skipRegex.eq_def] at h
      obtain ⟨text, rest', rfl, htext, hline⟩ := ih h
      exact ⟨']' :: text, rest', rfl, .closeClass htext, by simp [hline]⟩
    | case7 inClass m c rest hescape hfeed hopen hclose hend =>
      obtain ⟨rfl, rfl⟩ := hend
      exact ⟨['/'], rest, rfl, .close, by simp⟩
    | case8 inClass m c rest hescape hfeed hopen hclose hend ih =>
      rw [breakLines_cons hfeed, skipRegex.eq_def] at h
      simp only [hescape, hfeed, hopen, hclose, hend, if_false] at h
      obtain ⟨text, rest', rfl, htext, hline⟩ := ih h
      refine ⟨c :: text, rest', rfl, ?_, by simp [hline, Ne.symm hfeed]⟩
      by_cases hslash : c = '/'
      · subst hslash
        cases inClass with
        | false => exact (hend ⟨rfl, rfl⟩).elim
        | true => exact .slash htext
      · exact .char (by simp [hescape, hfeed, hopen, hclose, hslash]) htext
  exact hfrom 0

theorem skipString_breakLines_eq_none {quote : Char} (hquote : quote = '\'' ∨ quote = '"')
    (h : skipString quote m cs = none) : skipString quote n (breakLines cs) = none := by
  have hform : quote ≠ '\n' ∧ quote ≠ '\\' ∧ quote.utf8Size = 1 := by
    rcases hquote with rfl | rfl <;> decide
  rw [Option.eq_none_iff_forall_ne_some]
  intro p hp
  obtain ⟨text, rest, rfl, htext, -⟩ := exists_stringRest_of_breakLines hquote hp
  rw [skipString_append htext hform.2.1 hform.1 hform.2.2] at h
  cases h

/-- A string that goes on over a line has no end with the other line endings. -/
theorem skipString_breakLines_of_mem {quote : Char} (hquote : quote = '\'' ∨ quote = '"')
    (htext : StringRest quote text) (hbreak : '\n' ∈ text) (rest : List Char) :
    skipString quote n (breakLines (text ++ rest)) = none := by
  have hform : quote ≠ '\n' ∧ quote ≠ '\\' ∧ quote.utf8Size = 1 := by
    rcases hquote with rfl | rfl <;> decide
  rw [Option.eq_none_iff_forall_ne_some]
  intro p hp
  obtain ⟨text', rest', hsame, htext', hline⟩ := exists_stringRest_of_breakLines hquote hp
  -- the two strings start at one place, so they are the same
  have hskip := skipString_append htext hform.2.1 hform.1 hform.2.2 0 rest
  rw [hsame, skipString_append htext' hform.2.1 hform.1 hform.2.2 0 rest', Option.some.injEq,
    Place.mk.injEq] at hskip
  rw [hskip.2] at hsame
  rw [List.append_cancel_right hsame] at hbreak
  exact hline hbreak

theorem skipRegex_breakLines_eq_none (h : skipRegex false m cs = none) :
    skipRegex false n (breakLines cs) = none := by
  rw [Option.eq_none_iff_forall_ne_some]
  intro p hp
  obtain ⟨text, rest, rfl, htext, -⟩ := exists_regexRest_of_breakLines hp
  obtain ⟨flags, hflags, hrest, -⟩ := exists_flags 0 rest
  rw [hrest, skipRegex_append htext hflags] at h
  cases h

/-- A regular expression that goes on over a line has no end either. -/
theorem skipRegex_breakLines_of_mem (htext : RegexRest false text) (hflags : FlagsBefore flags rest)
    (hbreak : '\n' ∈ text ++ flags) :
    skipRegex false n (breakLines (text ++ (flags ++ rest))) = none := by
  rw [Option.eq_none_iff_forall_ne_some]
  intro p hp
  obtain ⟨text', rest', hsame, htext', hline⟩ := exists_regexRest_of_breakLines hp
  obtain ⟨flags', hflags', hrest', -⟩ := exists_flags 0 rest'
  generalize (skipFlags 0 rest').rest = after at hflags' hrest'
  subst hrest'
  -- the two regular expressions start at one place, so they are the same
  have hskip := skipRegex_append htext hflags 0
  rw [hsame, skipRegex_append htext' hflags' 0, Option.some.injEq, Place.mk.injEq] at hskip
  rw [hskip.2, ← List.append_assoc, ← List.append_assoc] at hsame
  rw [List.append_cancel_right hsame, List.mem_append] at hbreak
  rcases hbreak with hbreak | hbreak
  · exact hline hbreak
  · exact absurd (hflags'.1 _ hbreak) (by decide)

/-! ### The two line endings side by side -/

variable {s t next : ScanState} {read : List Char} {brace : Option Brace}

/-- What one step reads, the scanner reads with the other line endings. Not so a string or a regular
expression with a line feed, and a comment takes the carriage return behind it as well. -/
theorem Step.exists_run_breakLines (h : Step s m read rest brace next) (hst : ReadsLike s t)
    (hline : ∀ kind, kind = .string ∨ kind = .regex → CompleteLiteral kind read → '\n' ∉ read)
    (hcomment : ['/', '/'] <+: read → rest.head? ≠ some '\n') (n : Nat) :
    ∃ next', Run t n (breakLines read) (breakLines rest) (bracePassed brace) next' ∧
      ReadsLike next next' := by
  have hhead : ∀ {c : Char}, c ≠ '\r' → c ≠ '\n' → rest.head? ≠ some c →
      (breakLines rest).head? ≠ some c := fun hc hbreak ↦ (head?_breakLines hc hbreak rest).not.mpr
  cases h with
  | @stringLiteral quote text _ hquote htext =>
    rw [breakLines_of_not_mem (hline .string (.inl rfl) (.string hquote htext))]
    exact ⟨_, .single (.stringLiteral _ hquote htext), hst.afterLiteral⟩
  | @template text _ htext =>
    rw [breakLines_between (by decide) (by decide)]
    exact ⟨_, .single (.template _ htext.breakLines), hst.afterLiteral⟩
  | @substitution text _ htext =>
    rw [breakLines_between (by decide) (by decide)]
    exact ⟨_, .single (.substitution _ htext.breakLines), hst.enterSubstitution _ _⟩
  | @lineComment text _ htext =>
    have hend : rest = [] := by
      rcases htext.2 with hend | hbreak
      · exact hend
      · exact (hcomment ⟨text, rfl⟩ hbreak).elim
    subst hend
    have hread : breakLines ('/' :: '/' :: text) = '/' :: '/' :: text :=
      breakLines_of_not_mem (by simpa using htext.1)
    rw [hread]
    exact ⟨_, .single (.lineComment ⟨htext.1, .inl rfl⟩), hst.afterSpace⟩
  | @blockComment text _ htext =>
    rw [breakLines_cons (by decide), breakLines_cons (by decide)]
    exact ⟨_, .single (.blockComment _ htext.breakLines), hst.afterSpace⟩
  | @regex text flags _ hallowed hslash hstar htext hflags =>
    have hliteral : CompleteLiteral .regex ('/' :: (text ++ flags)) :=
      .regex hslash hstar htext hflags.1
    rw [breakLines_of_not_mem (hline .regex (.inr rfl) hliteral)]
    rw [hst.followed.regexAllowed] at hallowed
    refine ⟨_, .single (.regex hallowed hslash hstar htext ⟨hflags.1, fun c hc ↦ ?_⟩),
      hst.afterLiteral⟩
    -- no letter comes in front, so no letter is in front
    intro halpha
    have hform : c ≠ '\r' ∧ c ≠ '\n' := by
      constructor <;> (rintro rfl; cases halpha)
    exact hflags.2 c ((head?_breakLines hform.1 hform.2 rest).mp hc) halpha
  | division hallowed hslash hstar =>
    rw [hst.followed.regexAllowed] at hallowed
    exact ⟨_, .single (.division hallowed (hhead (by decide) (by decide) hslash)
      (hhead (by decide) (by decide) hstar)), hst.afterChar _⟩
  | openParen => exact ⟨_, .single (.openParen _), hst.openParen⟩
  | closeParen => exact ⟨_, .single (.closeParen _), hst.closeParen⟩
  | openBrace _ houter =>
    exact ⟨_, .single (.openBrace _ (templates_eq_nil_of_depths hst.depths houter)),
      hst.openBrace⟩
  | openInner _ hinner =>
    obtain ⟨start, outer', hinner', houter⟩ := exists_templates_of_depths hst.depths hinner
    exact ⟨_, .single (.openInner _ hinner'),
      hst.openBrace.withTemplates (congrArg (_ :: ·) houter)⟩
  | closeBrace _ houter =>
    exact ⟨_, .single (.closeBrace _ (templates_eq_nil_of_depths hst.depths houter)),
      hst.closeBrace⟩
  | closeInner _ hinner =>
    obtain ⟨start, outer', hinner', houter⟩ := exists_templates_of_depths hst.depths hinner
    exact ⟨_, .single (.closeInner _ hinner'),
      hst.closeBrace.withTemplates (congrArg (_ :: ·) houter)⟩
  | @closeTemplate _ _ text _ hinner htext =>
    obtain ⟨start, outer', hinner', houter⟩ := exists_templates_of_depths hst.depths hinner
    rw [breakLines_between (by decide) (by decide)]
    exact ⟨_, .single (.closeTemplate _ hinner' htext.breakLines),
      (hst.closeBrace.withTemplates houter).afterLiteral⟩
  | @nextSubstitution _ _ text _ hinner htext =>
    obtain ⟨start, outer', hinner', houter⟩ := exists_templates_of_depths hst.depths hinner
    rw [breakLines_between (by decide) (by decide)]
    exact ⟨_, .single (.nextSubstitution _ hinner' htext.breakLines),
      (hst.closeBrace.withTemplates houter).enterSubstitution _ _⟩
  | @space c _ hspace =>
    by_cases hc : c = '\n'
    · subst hc
      have hreturn : Step t n ['\r'] (['\n'] ++ breakLines rest) none t.afterSpace :=
        .space _ (by decide)
      have hfeed : Step t.afterSpace (n + byteSize ['\r']) ['\n'] (breakLines rest) none
          t.afterSpace.afterSpace := .space _ (by decide)
      exact ⟨_, (Run.single hreturn).append (.single hfeed), hst.afterSpace⟩
    · rw [breakLines_of_not_mem (by simpa using Ne.symm hc)]
      exact ⟨_, .single (.space _ hspace), hst.afterSpace⟩
  | @char c _ hc hspace =>
    have hbreak : '\n' ∉ [c] := by
      rw [List.mem_singleton]
      rintro rfl
      cases hspace
    rw [breakLines_of_not_mem hbreak]
    exact ⟨_, .single (.char _ hc hspace), hst.afterChar _⟩

/-- A step that reads two slashes first reads a line comment. -/
theorem Step.lineComment_of_prefix (h : Step s m read rest brace next)
    (hcomment : ['/', '/'] <+: read) :
    ∃ text, read = '/' :: '/' :: text ∧ CommentLineBefore ('/' :: text) rest ∧ brace = none ∧
      next = s.afterSpace := by
  cases h with
  | @lineComment text _ htext => exact ⟨text, rfl, htext, rfl, rfl⟩
  | @stringLiteral quote text _ hquote => rcases hquote with rfl | rfl <;> simp at hcomment
  | @regex text flags _ hallowed hslash hstar htext hflags =>
    refine (hslash ?_).elim
    rw [List.cons_prefix_cons] at hcomment
    obtain ⟨after, hafter⟩ := hcomment.2
    rw [← List.head?_append_of_ne_nil text htext.ne_nil, ← hafter]
    rfl
  | char _ hc => simp at hcomment
  | space _ hspace => simp at hcomment
  | _ => simp at hcomment

/-- A line comment and the end of its line. -/
theorem Step.exists_runs_breakLines_comment (h : Step s m read ('\n' :: rest) brace next)
    (hst : ReadsLike s t) (hcomment : ['/', '/'] <+: read) (n : Nat) :
    brace = none ∧ Run s m (read ++ ['\n']) rest [] next.afterSpace ∧ ∃ next',
      Run t n (breakLines (read ++ ['\n'])) (breakLines rest) [] next' ∧
        ReadsLike next.afterSpace next' := by
  obtain ⟨text, rfl, htext, rfl, rfl⟩ := h.lineComment_of_prefix hcomment
  have hline : '\n' ∉ '/' :: '/' :: text := by simpa using htext.1
  have hread : breakLines ('/' :: '/' :: text ++ ['\n']) =
      '/' :: '/' :: (text ++ ['\r']) ++ ['\n'] := by
    rw [breakLines_append, breakLines_of_not_mem hline]
    simp
  have hcomment' : Step t n ('/' :: '/' :: (text ++ ['\r'])) (['\n'] ++ breakLines rest) none
      t.afterSpace := .lineComment ⟨by simpa using htext.1, .inr rfl⟩
  have hcomment : Step s m ('/' :: '/' :: text) (['\n'] ++ rest) none s.afterSpace := h
  rw [hread]
  exact ⟨rfl, (Run.single hcomment).append (.single (.space _ (by decide))), _,
    (Run.single hcomment').append (.single (.space _ (by decide))), hst.afterSpace.afterSpace⟩

/-! ### Texts that are not read to their ends -/

theorem breakLines_eq_nil_iff : breakLines cs = [] ↔ cs = [] := by
  cases cs with
  | nil => simp
  | cons c rest =>
    by_cases hc : c = '\n'
    · simp [hc]
    · simp [breakLines_cons hc]

theorem afterTemplateText_eq_stop {start : Nat} {found : TemplateText}
    {failure : Option Unterminated} (h : s.afterTemplateText start found = .stop failure) :
    found = .unterminated := by
  cases found with
  | unterminated => rfl
  | closed | substitution => cases h

theorem exists_stop_moveSlash_breakLines {failure : Option Unterminated}
    (h : s.moveSlash m rest = .stop failure) (hst : ReadsLike s t) (n : Nat) :
    ∃ failure', t.moveSlash n (breakLines rest) = .stop failure' := by
  revert h
  fun_cases ScanState.moveSlash s m rest with
  | case1 | case3 | case5 | case6 => simp
  | case2 hslash hstar hskip =>
    intro _
    obtain ⟨after, rfl⟩ := List.head?_eq_some_iff.mp hstar
    rw [List.tail_cons] at hskip
    rw [breakLines_cons (by decide), ScanState.moveSlash, if_neg (by simp), if_pos List.head?_cons,
      List.tail_cons, skipBlockComment_breakLines_eq_none hskip]
    exact ⟨_, rfl⟩
  | case4 hslash hstar hallowed hskip =>
    intro _
    rw [hst.followed.regexAllowed] at hallowed
    rw [ScanState.moveSlash,
      if_neg ((head?_breakLines (by decide) (by decide) rest).not.mpr hslash),
      if_neg ((head?_breakLines (by decide) (by decide) rest).not.mpr hstar), if_pos hallowed,
      skipRegex_breakLines_eq_none hskip]
    exact ⟨_, rfl⟩

/-- Where a literal has no end, it has none with the other line endings. -/
theorem exists_stop_breakLines {failure : Option Unterminated}
    (h : s.move m cs = .stop failure) (hst : ReadsLike s t) (n : Nat) :
    ∃ failure', t.move n (breakLines cs) = .stop failure' ∧
      (failure = none ↔ failure' = none) := by
  have houter : s.templates = [] ↔ t.templates = [] :=
    ⟨templates_eq_nil_of_depths hst.depths, templates_eq_nil_of_depths hst.depths.symm⟩
  suffices hstop : ∃ failure', t.move n (breakLines cs) = .stop failure' by
    obtain ⟨failure', hstop⟩ := hstop
    refine ⟨failure', hstop, ?_⟩
    have hend := @move_eq_stop_none_iff s m cs
    have hend' := @move_eq_stop_none_iff t n (breakLines cs)
    rw [h, Move.stop.injEq] at hend
    rw [hstop, Move.stop.injEq] at hend'
    rw [hend, hend', houter, breakLines_eq_nil_iff]
  revert h
  fun_cases ScanState.move s m cs with
  | case1 => exact fun _ ↦ ⟨_, rfl⟩
  | case2 c rest hquote hskip =>
    intro _
    have hbreak : c ≠ '\n' := by rcases hquote with rfl | rfl <;> decide
    rw [breakLines_cons hbreak, ScanState.move, if_pos hquote,
      skipString_breakLines_eq_none hquote hskip]
    exact ⟨_, rfl⟩
  | case4 rest =>
    intro h
    have hskip := skipTemplateText_breakLines_eq_unterminated (n := n + 1)
      (afterTemplateText_eq_stop h)
    rw [breakLines_cons (by decide), ScanState.move, if_neg (by decide), if_pos rfl, hskip]
    exact ⟨_, rfl⟩
  | case5 rest =>
    intro h
    rw [breakLines_cons (by decide), ScanState.move, if_neg (by decide), if_neg (by decide),
      if_pos rfl]
    exact exists_stop_moveSlash_breakLines h hst n
  | case8 rest => fun_cases ScanState.moveOpenBrace s m rest <;> simp
  | case9 rest =>
    fun_cases ScanState.moveCloseBrace s m rest with
    | case1 | case2 => simp
    | case3 start outer hinner =>
      intro h
      obtain ⟨start', outer', hinner', -⟩ := exists_templates_of_depths hst.depths hinner
      have hskip := skipTemplateText_breakLines_eq_unterminated (n := n + 1)
        (afterTemplateText_eq_stop h)
      rw [breakLines_cons (by decide), ScanState.move, if_neg (by decide), if_neg (by decide),
        if_neg (by decide), if_neg (by decide), if_neg (by decide), if_neg (by decide), if_pos rfl,
        ScanState.moveCloseBrace, hinner']
      dsimp only
      rw [hskip]
      exact ⟨_, rfl⟩
  | case3 | case6 | case7 | case10 | case11 => simp

/-! ### Strings and regular expressions of more than one line -/

/-- From a place on, the scanner reads a string or a regular expression with a line feed. -/
inductive ContinuesLine : ScanState → Nat → List Char → Prop
  | here {s next : ScanState} {n : Nat} {kind : HiddenKind} {literal rest : List Char}
    {brace : Option Brace} (hkind : kind = .string ∨ kind = .regex)
    (hliteral : CompleteLiteral kind literal) (hstep : Step s n literal rest brace next)
    (hbreak : '\n' ∈ literal) : ContinuesLine s n (literal ++ rest)
  | later {s next : ScanState} {n : Nat} {read rest : List Char} {brace : Option Brace}
    (hstep : Step s n read rest brace next)
    (hlater : ContinuesLine next (n + byteSize read) rest) : ContinuesLine s n (read ++ rest)

theorem not_continuesLine_nil (s : ScanState) (n : Nat) : ¬ContinuesLine s n [] := by
  intro h
  generalize htext : [] = text at h
  cases h with
  | here _ _ hstep => exact hstep.ne_nil (List.append_eq_nil_iff.mp htext.symm).1
  | later hstep => exact hstep.ne_nil (List.append_eq_nil_iff.mp htext.symm).1

/-- Behind a step that reads no such literal, the text behind it decides. -/
theorem continuesLine_step_iff (h : Step s n read rest brace next)
    (hline : ∀ kind, kind = .string ∨ kind = .regex → CompleteLiteral kind read → '\n' ∉ read) :
    ContinuesLine s n (read ++ rest) ↔ ContinuesLine next (n + byteSize read) rest := by
  refine ⟨fun hcontinues ↦ ?_, .later h⟩
  generalize htext : read ++ rest = text at hcontinues
  cases hcontinues with
  | @here _ _ _ kind _ _ _ hkind hliteral hstep hbreak =>
    obtain ⟨rfl, rfl, -, -⟩ := h.unique hstep htext
    exact (hline kind hkind hliteral hbreak).elim
  | later hstep hlater =>
    obtain ⟨rfl, rfl, -, rfl⟩ := h.unique hstep htext
    exact hlater

/-- What is read as a regular expression is allowed as one, and read up to its last flag. -/
theorem Step.regex_allowed (h : Step s m ('/' :: (text ++ flags)) rest brace next)
    (hslash : text.head? ≠ some '/') (hstar : text.head? ≠ some '*')
    (htext : RegexRest false text) : s.preceding.regexAllowed ∧ FlagsBefore flags rest := by
  have hhead : (text ++ (flags ++ rest)).head? = text.head? :=
    List.head?_append_of_ne_nil text htext.ne_nil
  cases hallowed : s.preceding.regexAllowed with
  | false =>
    have hdivision : Step s m ['/'] (text ++ (flags ++ rest)) none (s.afterChar '/') :=
      .division hallowed (by rwa [hhead]) (by rwa [hhead])
    have hread := (h.unique hdivision (by simp)).1
    simp [htext.ne_nil] at hread
  | true =>
    obtain ⟨flags', hflags, hrest, -⟩ := exists_flags 0 (flags ++ rest)
    generalize (skipFlags 0 (flags ++ rest)).rest = rest' at hflags hrest
    have hregex : Step s m ('/' :: (text ++ flags')) rest' none s.afterLiteral :=
      .regex hallowed hslash hstar htext hflags
    obtain ⟨hread, hsame, -⟩ := h.unique hregex (by simp [hrest])
    rw [List.cons.injEq, List.append_cancel_left_eq] at hread
    rw [hread.2, hsame]
    exact ⟨rfl, hflags⟩

/-- With the other line endings such a literal has no end. -/
theorem exists_stop_of_continued {kind : HiddenKind} (h : Step s m read rest brace next)
    (hkind : kind = .string ∨ kind = .regex) (hliteral : CompleteLiteral kind read)
    (hbreak : '\n' ∈ read) (hst : ReadsLike s t) (n : Nat) :
    ∃ literal, t.move n (breakLines (read ++ rest)) = .stop (some literal) := by
  cases hliteral with
  | @string quote text hquote htext =>
    have hquote' : quote ≠ '\n' := by rcases hquote with rfl | rfl <;> decide
    rw [List.cons_append, breakLines_cons hquote', ScanState.move, if_pos hquote,
      skipString_breakLines_of_mem hquote htext (by simpa [hquote'.symm] using hbreak)]
    exact ⟨_, rfl⟩
  | @regex text flags hslash hstar htext hflags =>
    obtain ⟨hallowed, hends⟩ := h.regex_allowed hslash hstar htext
    have hnone : skipRegex false (n + 1) (breakLines (text ++ (flags ++ rest))) = none :=
      skipRegex_breakLines_of_mem htext hends (by simpa using hbreak)
    have hhead : ∀ c : Char, c ≠ '\r' → c ≠ '\n' → text.head? ≠ some c →
        (breakLines (text ++ (flags ++ rest))).head? ≠ some c := by
      intro c hreturn hbreak hc
      rw [ne_eq, head?_breakLines hreturn hbreak, List.head?_append_of_ne_nil text htext.ne_nil]
      exact hc
    rw [hst.followed.regexAllowed] at hallowed
    rw [List.cons_append, List.append_assoc, breakLines_cons (by decide), ScanState.move,
      if_neg (by decide), if_neg (by decide), if_pos rfl, ScanState.moveSlash,
      if_neg (hhead '/' (by decide) (by decide) hslash),
      if_neg (hhead '*' (by decide) (by decide) hstar), if_pos hallowed, hnone]
    exact ⟨_, rfl⟩
  | _ => simp at hkind

/-! ### Bundles -/

/-- Pieces of a text, and of the text with the other line endings, both read to their ends. -/
structure ReadBothWays (s t : ScanState) (m n : Nat) (text : List Char) (pieces : List Piece) :
    Prop where
  text_eq : sideText Piece.first pieces = text
  breaks : ∀ p ∈ pieces, p.second = breakLines p.first
  braces : BracePieces Piece.first pieces
  first : ReadInPieces Piece.first s m pieces
  second : ReadInPieces Piece.second t n pieces

theorem sideText_second {pieces : List Piece} (h : ∀ p ∈ pieces, p.second = breakLines p.first) :
    sideText Piece.second pieces = breakLines (sideText Piece.first pieces) := by
  induction pieces with
  | nil => rfl
  | cons p pieces ih =>
    obtain ⟨hp, hpieces⟩ := List.forall_mem_cons.mp h
    rw [sideText_cons, sideText_cons, breakLines_append, hp, ih hpieces]

theorem ReadBothWays.second_eq {pieces : List Piece} (h : ReadBothWays s t m n text pieces) :
    sideText Piece.second pieces = breakLines text := by
  rw [sideText_second h.breaks, h.text_eq]

/-- Both texts are read to their ends, or the text with the other line endings is not; in this case
the first one is not either, or a literal in it goes on over a line. -/
inductive BothWays (s t : ScanState) (m n : Nat) (text : List Char) : Prop
  | read {pieces : List Piece} (h : ReadBothWays s t m n text pieces)
    (hline : ¬ContinuesLine s m text)
  | stopped (hstop : (scanBraces t n (breakLines text)).failure ≠ none)
    (hcause : ContinuesLine s m text ∨ (scanBraces s m text).failure ≠ none)

/-- A part of the text in front of the rest, which passes a brace only if it is one. -/
theorem BothWays.prepend {next' : ScanState}
    (h : BothWays next next' (m + byteSize read) (n + byteSize (breakLines read)) rest)
    (hrun : Run s m read rest (bracePassed brace) next)
    (hrun' : Run t n (breakLines read) (breakLines rest) (bracePassed brace) next')
    (hbrace : ∀ b, brace = some b → read = [b.char])
    (hline : ContinuesLine s m (read ++ rest) ↔ ContinuesLine next (m + byteSize read) rest) :
    BothWays s t m n (read ++ rest) := by
  cases h with
  | @read pieces hread hcontinues =>
    have hsecond := hread.second_eq
    obtain ⟨rfl, hbreaks, hbraces, hfirst, hsecond'⟩ := hread
    rw [← hsecond] at hrun'
    have hall : ReadBothWays s t m n (read ++ sideText Piece.first pieces)
        (⟨read, breakLines read, brace⟩ :: pieces) :=
      ⟨rfl, List.forall_mem_cons.mpr ⟨rfl, hbreaks⟩, List.forall_mem_cons.mpr ⟨hbrace, hbraces⟩,
        hfirst.cons hrun, hsecond'.cons hrun'⟩
    exact .read hall (hline.not.mpr hcontinues)
  | stopped hstop hcause =>
    refine .stopped ?_ (hcause.imp hline.mpr fun hfailure ↦ ?_)
    · rwa [breakLines_append, scanBraces_append_of_run hrun']
    · rwa [scanBraces_append_of_run hrun]

/-- A line comment in front of the rest; the line feed behind it belongs to it. -/
theorem BothWays.prepend_comment {after : List Char}
    (hstep : Step s m read ('\n' :: after) brace next) (hst : ReadsLike s t) (hcomment : ['/', '/'] <+: read)
    (hline : ContinuesLine s m (read ++ '\n' :: after) ↔
      ContinuesLine next (m + byteSize read) ('\n' :: after))
    (hafter : ∀ next', ReadsLike next.afterSpace next' →
      BothWays next.afterSpace next' (m + byteSize (read ++ ['\n']))
        (n + byteSize (breakLines (read ++ ['\n']))) after) :
    BothWays s t m n (read ++ '\n' :: after) := by
  obtain ⟨rfl, hrun, next', hrun', hnext⟩ := hstep.exists_runs_breakLines_comment hst hcomment n
  have hfeed : Step next (m + byteSize read) ['\n'] after none next.afterSpace :=
    .space _ (by decide)
  have hmore := hline.trans (continuesLine_step_iff hfeed fun kind _ hliteral ↦ by
    cases hliteral with
    | string hquote => rcases hquote with hquote | hquote <;> cases hquote)
  rw [List.append_cons, Nat.add_assoc, ← byteSize_append] at hmore
  rw [List.append_cons]
  exact (hafter next' hnext).prepend (show Run _ _ _ _ (bracePassed none) _ from hrun) hrun'
    (fun b hb ↦ by cases hb) hmore

theorem bothWays (text : List Char) (hst : ReadsLike s t) (m n : Nat) :
    BothWays s t m n text := by
  -- on the length of the text: what has been read leaves less of it
  induction hlength : text.length using Nat.strongRecOn generalizing text s t m n with
  | ind length ih =>
    rcases stop_or_step s m text with ⟨failure, hstop⟩ | ⟨read, rest, brace, next, rfl, hstep⟩
    · obtain ⟨failure', hstop', hnone⟩ := exists_stop_breakLines hstop hst n
      cases failure with
      | none =>
        obtain ⟨rfl, houter⟩ := move_eq_stop_none_iff.mp hstop
        have houter' := templates_eq_nil_of_depths hst.depths houter
        have hread : ReadBothWays s t m n [] [] :=
          ⟨rfl, by simp, by simp [BracePieces], readInPieces_nil houter, readInPieces_nil houter'⟩
        exact .read hread (not_continuesLine_nil s m)
      | some literal =>
        refine .stopped ?_ (.inr ?_)
        · rw [scanBraces_of_stop hstop']
          exact fun h ↦ nomatch hnone.mpr h
        · rw [scanBraces_of_stop hstop]
          exact Option.some_ne_none literal
    · rw [List.length_append] at hlength
      have hpos := List.length_pos_iff.mpr hstep.ne_nil
      by_cases hbad : ∃ kind, (kind = .string ∨ kind = .regex) ∧ CompleteLiteral kind read ∧
          '\n' ∈ read
      · obtain ⟨kind, hkind, hliteral, hbreak⟩ := hbad
        obtain ⟨literal, hstop⟩ := exists_stop_of_continued hstep hkind hliteral hbreak hst n
        refine .stopped ?_ (.inl (.here hkind hliteral hstep hbreak))
        rw [scanBraces_of_stop hstop]
        exact Option.some_ne_none literal
      · have hline : ∀ kind, kind = .string ∨ kind = .regex → CompleteLiteral kind read →
            '\n' ∉ read := fun kind hkind hliteral hbreak ↦
          hbad ⟨kind, hkind, hliteral, hbreak⟩
        have hsame := continuesLine_step_iff hstep hline
        by_cases hcomment : ['/', '/'] <+: read ∧ rest.head? = some '\n'
        · -- the comment and the line feed behind it are one piece
          obtain ⟨hcomment, hbreak⟩ := hcomment
          obtain ⟨after, rfl⟩ := List.head?_eq_some_iff.mp hbreak
          have hshort : after.length < length := by
            simp only [List.length_cons] at hlength
            omega
          exact .prepend_comment hstep hst hcomment hsame fun next' hnext ↦
            ih after.length hshort after hnext _ _ rfl
        · obtain ⟨next', hrun', hnext⟩ := hstep.exists_run_breakLines hst hline
            (fun hslashes hbreak ↦ hcomment ⟨hslashes, hbreak⟩) n
          exact (ih rest.length (by omega) rest hnext _ _ rfl).prepend (.single hstep) hrun'
            (fun b hb ↦ by subst hb; exact hstep.read_of_brace) hsame

/-- A text is a wrapper with the other line endings exactly if it is one and no string or regular
expression in it goes on over a line, and then the body has the other line endings. -/
theorem functionBody_breakLines_iff {body' : List Char} :
    functionBody (breakLines text) = .ok body' ↔
      ¬ContinuesLine {} 0 text ∧
        ∃ body, functionBody text = .ok body ∧ body' = breakLines body := by
  have hfailure : ∀ {text body : List Char}, functionBody text = .ok body →
      (scanBraces {} 0 text).failure = none := fun hbody ↦ by
    obtain ⟨_, _, _, hpair⟩ := exists_split_of_functionBody hbody
    obtain ⟨_, _, _, hend⟩ := hpair.exists_inner
    exact hend
  cases bothWays text (.refl {}) 0 0 with
  | @read pieces hread hline =>
    have hsecond := hread.second_eq
    obtain ⟨rfl, hbreaks, hbraces, hfirst, hread'⟩ := hread
    have hbraces' : BracePieces Piece.second pieces := by
      intro p hp b hb
      rw [hbreaks p hp, hbraces p hp b hb]
      cases b <;> rfl
    have hinner : ∀ {inner : List Piece}, inner <:+: pieces →
        sideText Piece.second inner = breakLines (sideText Piece.first inner) := fun hinner ↦
      sideText_second fun p hp ↦ hbreaks p (hinner.subset hp)
    rw [← hsecond]
    constructor
    · intro hbody
      obtain ⟨inner, hpart, rfl, hbody'⟩ := hread'.exists_inner hfirst hbraces' hbraces hbody
      exact ⟨hline, _, hbody', hinner hpart⟩
    · rintro ⟨-, body, hbody, rfl⟩
      obtain ⟨inner, hpart, rfl, hbody'⟩ := hfirst.exists_inner hread' hbraces hbraces' hbody
      rw [hbody', hinner hpart]
  | stopped hstop hcause =>
    constructor
    · exact fun hbody ↦ (hstop (hfailure hbody)).elim
    · rintro ⟨hline, body, hbody, -⟩
      rcases hcause with hcontinues | hfails
      · exact (hline hcontinues).elim
      · exact (hfails (hfailure hbody)).elim

/-- Unwrapping a bundle with a carriage return in front of every line feed succeeds exactly if
unwrapping the bundle does and no string or regular expression in the bundle goes on over a line.
Then every line feed of the result has a carriage return in front, and nothing else is different. -/
theorem unwrap_breakLines_iff {bundle globalObject value : String} :
    (unwrap (String.ofList (breakLines bundle.toList)) globalObject).outcome = .ok value ↔
      ¬ContinuesLine {} 0 (dropByteOrderMark bundle.toList) ∧
        ∃ value', (unwrap bundle globalObject).outcome = .ok value' ∧
          value = String.ofList (breakLines value'.toList) := by
  have hdeclares : isIdentifier globalObject → ∀ body : List Char,
      String.ofList (breakLines
        ("var scope = " ++ globalObject ++ ";" ++ String.ofList body).toList) =
          "var scope = " ++ globalObject ++ ";" ++ String.ofList (breakLines body) := by
    intro hglobal body
    have hline : '\n' ∉ ("var scope = " ++ globalObject ++ ";").toList := by
      simp only [String.toList_append, List.mem_append, not_or]
      refine ⟨⟨by decide, fun hbreak ↦ ?_⟩, by decide⟩
      exact absurd (isWordChar_of_isIdentifier hglobal _ hbreak) (by decide)
    rw [String.toList_append, breakLines_append, breakLines_of_not_mem hline, String.ofList_append,
      String.ofList_toList, String.toList_ofList]
  simp only [outcome_unwrap_eq_ok_iff, String.toList_ofList, dropByteOrderMark_breakLines,
    functionBody_breakLines_iff]
  constructor
  · rintro ⟨hglobal, _, ⟨hline, body, hbody, rfl⟩, rfl⟩
    exact ⟨hline, _, ⟨hglobal, body, hbody, rfl⟩, (hdeclares hglobal body).symm⟩
  · rintro ⟨hline, _, ⟨hglobal, body, hbody, rfl⟩, rfl⟩
    exact ⟨hglobal, _, ⟨hline, body, hbody, rfl⟩, hdeclares hglobal body⟩

/-- A string that goes on over a line ends with the one line ending only. -/
example : (unwrap "\x7b'a\\\nb'\x7d" "window").outcome = .ok "var scope = window;'a\\\nb'" ∧
    (unwrap "\x7b'a\\\x0d\nb'\x7d" "window").outcome.isOk = false := by
  decide +kernel

end BrowserScript.Wrapper
