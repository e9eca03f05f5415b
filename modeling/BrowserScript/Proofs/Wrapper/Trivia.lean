import BrowserScript.Proofs.Wrapper.SideBySide
import BrowserScript.Proofs.Wrapper.Surroundings

/-!
White space and comments decide nothing. A state behind a space stays what it is while trivia are
read (`Trivia.run`), so trivia may be inserted wherever the scanner stands behind a space: it goes
on behind them in the same state (`Run.insert_trivia`), reads what follows alike and decides alike
in it (`decidesAlike_of_runs`), and the body is the same up to what has been inserted
(`unwrap_insert_trivia`).

A space at the end of a line comment is no such place. The comment goes on up to the first line feed
of what is inserted, and a block comment around that line feed loses its opening mark
(`insertion_behind_lineComment_fails`).
-/

set_option autoImplicit false
set_option relaxedAutoImplicit false

namespace BrowserScript.Wrapper

open Text

variable {s t next middle : ScanState} {offset : Nat} {read rest : List Char}
  {brace : Option Brace} {braces : List (Nat × Brace)}

/-! ### Trivia -/

/-- White space and complete comments, a line comment with the line feed that ends it. -/
inductive Trivia : List Char → Prop
  | nil : Trivia []
  | space {c : Char} {text : List Char} (hspace : isSpace c) (htext : Trivia text) :
    Trivia (c :: text)
  | lineComment {line text : List Char} (hline : '\n' ∉ line) (htext : Trivia text) :
    Trivia ('/' :: '/' :: (line ++ '\n' :: text))
  | blockComment {comment text : List Char} (hcomment : BlockCommentRest comment)
    (htext : Trivia text) : Trivia ('/' :: '*' :: (comment ++ text))

theorem afterSpace_of_not_adjacent (h : s.adjacent = false) : s.afterSpace = s := by
  rw [ScanState.afterSpace, ← h]

/-- Behind a space, trivia are read to their end, and nothing changes. -/
theorem Trivia.run {trivia : List Char} (h : Trivia trivia) (hs : s.adjacent = false)
    (offset : Nat) (rest : List Char) : Run s offset trivia rest [] s := by
  have hspace : ∀ {read rest : List Char} {offset : Nat},
      Step s offset read rest none s.afterSpace → Run s offset read rest [] s := by
    intro read rest offset hstep
    rw [afterSpace_of_not_adjacent hs] at hstep
    exact .single hstep
  induction h generalizing offset with
  | nil => exact .refl s offset rest
  | space hc _ ih => exact (hspace (.space _ hc)).append (ih _)
  | @lineComment line text hline _ ih =>
    have hcomment : Step s offset ('/' :: '/' :: line) ('\n' :: text ++ rest) none s.afterSpace :=
      .lineComment ⟨by simpa using hline, .inr rfl⟩
    have hbreak : Run s (offset + byteSize ('/' :: '/' :: line)) ('\n' :: text) rest [] s :=
      (hspace (.space _ rfl)).append (ih _)
    exact (hspace hcomment).append hbreak
  | @blockComment comment text hcomment _ ih =>
    exact (hspace (.blockComment _ hcomment)).append (ih _)

/-! ### Runs in parts -/

theorem Run.of_nil (h : Run s offset [] rest braces next) : braces = [] ∧ next = s := by
  generalize hread : ([] : List Char) = read at h
  cases h with
  | refl => exact ⟨rfl, rfl⟩
  | step hstep _ => exact (hstep.ne_nil (List.append_eq_nil_iff.mp hread.symm).1).elim

/-- The scanner that stands at a place of a text, and at a later one, reads what is between. -/
theorem Run.exists_behind {first second : List Char} {all : List (Nat × Brace)}
    (h : Run s offset first (second ++ rest) braces middle)
    (hall : Run s offset (first ++ second) rest all next) :
    ∃ later, Run middle (offset + byteSize first) second rest later next := by
  generalize hbehind : second ++ rest = behind at h
  induction h generalizing all with
  | refl => exact ⟨all, hall⟩
  | @step s m middle offset read more behind brace braces hstep _ ih =>
    subst hbehind
    generalize htext : read ++ more ++ second = text at hall
    cases hall with
    | refl =>
      rw [List.append_assoc] at htext
      exact (hstep.ne_nil (List.append_eq_nil_iff.mp htext).1).elim
    | @step _ m' _ _ read' more' _ _ _ hstep' hrun' =>
      have hsame : read ++ (more ++ (second ++ rest)) = read' ++ (more' ++ rest) := by
        simp only [← List.append_assoc, htext]
      obtain ⟨rfl, -, -, rfl⟩ := hstep.unique hstep' hsame
      rw [List.append_assoc] at htext
      obtain rfl := List.append_cancel_left htext
      rw [byteSize_append, ← Nat.add_assoc]
      exact ih hrun' rfl

/-- A step that ends with a space reads that space alone, or a line comment. -/
theorem Step.of_last_space {c : Char} (h : Step s offset read rest brace next)
    (hlast : read.getLast? = some c) (hspace : isSpace c) :
    brace = none ∧ next = s.afterSpace ∧ (read = [c] ∨
      ∃ line, read = '/' :: '/' :: line ∧ CommentLineBefore ('/' :: line) rest) := by
  have hother : ∀ {d : Char}, read.getLast? = some d → isSpace d = false → False := by
    intro d hd hno
    obtain rfl : d = c := Option.some.inj (hd.symm.trans hlast)
    rw [hspace] at hno
    cases hno
  cases h with
  | @stringLiteral quote text _ hquote htext =>
    refine (hother (d := quote) (by simp [List.getLast?_cons, htext.getLast?]) ?_).elim
    rcases hquote with rfl | rfl <;> rfl
  | template | closeTemplate => exact (hother (d := '`') (by simp [List.getLast?_cons]) rfl).elim
  | substitution | nextSubstitution =>
    exact (hother (d := '\x7b') (by simp [List.getLast?_cons]) rfl).elim
  | lineComment htext => exact ⟨rfl, rfl, .inr ⟨_, rfl, htext⟩⟩
  | blockComment _ htext =>
    exact (hother (d := '/') (by simp [List.getLast?_cons, htext.getLast?]) rfl).elim
  | @regex text flags _ _ _ _ htext hflags =>
    rcases List.eq_nil_or_concat flags with rfl | ⟨front, letter, rfl⟩
    · exact (hother (d := '/') (by simp [List.getLast?_cons, htext.getLast?]) rfl).elim
    · have hletter : letter.isAlpha := hflags.1 letter (by simp)
      refine (hother (d := letter) (by simp [List.getLast?_cons]) ?_).elim
      by_contra hno
      simp only [isSpace, Bool.not_eq_false, Bool.or_eq_true, decide_eq_true_eq] at hno
      rcases hno with (((rfl | rfl) | rfl) | rfl) | rfl <;> exact absurd hletter (by decide)
  | division => exact (hother rfl rfl).elim
  | openParen => exact (hother rfl rfl).elim
  | closeParen => exact (hother rfl rfl).elim
  | openBrace | openInner => exact (hother rfl rfl).elim
  | closeBrace | closeInner => exact (hother rfl rfl).elim
  | space => exact ⟨rfl, rfl, .inl (by rw [← Option.some.inj hlast]; rfl)⟩
  | char _ _ hno => exact (hother rfl hno).elim

/-! ### Insertion -/

/-- The scanner reads a line comment at the end of the text, in front of the second text. -/
def EndsInLineComment (s : ScanState) (offset : Nat) (text rest : List Char) : Prop :=
  ∃ front line braces next, text = front ++ '/' :: '/' :: line ∧ '\n' ∉ line ∧
    Run s offset front ('/' :: '/' :: (line ++ rest)) braces next

/-- What stands behind the first line feed of a text is trivia, if the text has a line feed. -/
def TriviaBehindBreak (text : List Char) : Prop :=
  ∀ head tail, text = head ++ '\n' :: tail → '\n' ∉ head → Trivia tail

/-- A line comment takes what is inserted up to its first line feed. -/
theorem Step.insert_trivia {line trivia : List Char}
    (hline : CommentLineBefore ('/' :: line) rest) (hbreak : TriviaBehindBreak trivia)
    (s : ScanState) (offset : Nat) :
    Run s offset ('/' :: '/' :: line ++ trivia) rest [] s.afterSpace := by
  have hcomment : ∀ more rest : List Char, '\n' ∉ more →
      (rest = [] ∨ rest.head? = some '\n') →
        Run s offset ('/' :: '/' :: (line ++ more)) rest [] s.afterSpace := by
    intro more rest hmore hrest
    refine .single (.lineComment ⟨fun hmem ↦ ?_, hrest⟩)
    exact (List.mem_append.mp (show '\n' ∈ ('/' :: line) ++ more from hmem)).elim hline.1 hmore
  by_cases hmem : '\n' ∈ trivia
  · obtain ⟨head, tail, rfl, hhead⟩ := List.eq_append_cons_of_mem hmem
    have htail : Trivia ('\n' :: tail) := .space rfl (hbreak head tail rfl hhead)
    have hrun := (hcomment head ('\n' :: tail ++ rest) hhead (.inr rfl)).append
      (htail.run rfl _ rest)
    simpa using hrun
  · simpa using hcomment trivia rest hmem hline.2

/-- Behind a space that the scanner has read, trivia may be inserted in front of any text. Behind a
line comment they may be if they are trivia from their first line feed on. -/
theorem Run.insert_trivia {c : Char} {trivia : List Char} (h : Run s offset read rest braces next)
    (hlast : read.getLast? = some c) (hspace : isSpace c) (htrivia : Trivia trivia)
    (hbreak : EndsInLineComment s offset read rest → TriviaBehindBreak trivia) :
    Run s offset (read ++ trivia) rest braces next := by
  induction h with
  | refl => cases hlast
  | @step s m next offset read more rest brace braces hstep hrun ih =>
    cases more with
    | nil =>
      -- the last step: what is inserted stands behind it, or becomes a part of the comment
      rw [List.append_nil] at hlast hbreak
      rw [List.nil_append] at hstep
      obtain ⟨rfl, rfl⟩ := hrun.of_nil
      obtain ⟨rfl, rfl, rfl | ⟨line, rfl, hline⟩⟩ := hstep.of_last_space hlast hspace
      · have hrest := htrivia.run (s := s.afterSpace) rfl (offset + byteSize [c]) rest
        have hbefore : Run s offset [c] (trivia ++ rest) [] s.afterSpace := .single (.space _ hspace)
        simpa [bracePassed] using hbefore.append hrest
      · have hend : EndsInLineComment s offset ('/' :: '/' :: line) rest :=
          ⟨[], line, [], s, rfl, fun hmem ↦ hline.1 (List.mem_cons_of_mem _ hmem), .refl _ _ _⟩
        simpa [bracePassed] using Step.insert_trivia hline (hbreak hend) s offset
    | cons d more =>
      have hlook : Step s offset read (d :: more ++ trivia ++ rest) brace m :=
        hstep.of_look (by simp) (by simp) (by simp) (by simp)
      have hlater := ih (by simpa [List.getLast?_append] using hlast) fun hend ↦ by
        obtain ⟨front, line, braces', t, hmore, hline, hfront⟩ := hend
        rw [hmore] at hstep
        refine hbreak ⟨read ++ front, line, _, t, by rw [hmore, List.append_assoc], hline,
          .step (by simpa using hstep) hfront⟩
      simpa using Run.step hlook hlater

/-! ### Decisions -/

/-- Where the scanner stands in what follows the first text, it stands in it behind the second text
as well, and everything from there on is read alike. -/
def DecidesAlike (first second rest : List Char) : Prop :=
  ∀ read more, rest = read ++ more → ∀ braces s, Run {} 0 (first ++ read) more braces s →
    ∃ braces' t, Run {} 0 (second ++ read) more braces' t ∧ ReadsLike s t

theorem decidesAlike_of_runs {first second : List Char} {braces' : List (Nat × Brace)}
    (hfirst : Run {} 0 first rest braces s) (hsecond : Run {} 0 second rest braces' t)
    (hst : ReadsLike s t) : DecidesAlike first second rest := by
  rintro read more rfl all last hall
  obtain ⟨later, hlater⟩ := hfirst.exists_behind hall
  obtain ⟨last', hlater', hlast⟩ := hlater.exists_of_readsLike hst (0 + byteSize second)
  exact ⟨_, last', hsecond.append hlater', hlast⟩

/-! ### Unwrapping -/

theorem getLast?_dropByteOrderMark {before : List Char} {c : Char}
    (hlast : before.getLast? = some c) (hspace : isSpace c) :
    (dropByteOrderMark before).getLast? = some c ∧ ∀ rest : List Char,
      dropByteOrderMark (before ++ rest) = dropByteOrderMark before ++ rest := by
  obtain ⟨front, rfl⟩ := List.getLast?_eq_some_iff.mp hlast
  have hmark : c ≠ byteOrderMark := by
    rintro rfl
    exact absurd hspace (by decide)
  rw [dropByteOrderMark_append_of_head?_ne (by simpa using hmark)]
  refine ⟨by simp, fun rest ↦ ?_⟩
  rw [List.append_assoc, dropByteOrderMark_append_of_head?_ne (by simpa using hmark),
    List.append_assoc]

/-- Assumes: two texts that are wrappers only together, with bodies that are related. So are the
results of unwrapping them. -/
theorem unwrap_of_bodies {text text' : List Char} {globalObject : String}
    {related : List Char → List Char → Prop}
    (hbody : ∀ body, functionBody (dropByteOrderMark text) = .ok body →
      ∃ body', functionBody (dropByteOrderMark text') = .ok body' ∧ related body body')
    (hbody' : ∀ body', functionBody (dropByteOrderMark text') = .ok body' →
      ∃ body, functionBody (dropByteOrderMark text) = .ok body) :
    ((∃ value, (unwrap (String.ofList text) globalObject).outcome = .ok value) ↔
      ∃ value', (unwrap (String.ofList text') globalObject).outcome = .ok value') ∧
    ∀ value value', (unwrap (String.ofList text) globalObject).outcome = .ok value →
      (unwrap (String.ofList text') globalObject).outcome = .ok value' →
      ∃ body body', related body body' ∧
        value = "var scope = " ++ globalObject ++ ";" ++ String.ofList body ∧
        value' = "var scope = " ++ globalObject ++ ";" ++ String.ofList body' := by
  simp only [outcome_unwrap_eq_ok_iff, String.toList_ofList]
  refine ⟨⟨?_, ?_⟩, ?_⟩
  · rintro ⟨_, hglobal, body, hok, _⟩
    obtain ⟨body', hok', _⟩ := hbody body hok
    exact ⟨_, hglobal, body', hok', rfl⟩
  · rintro ⟨_, hglobal, body', hok', _⟩
    obtain ⟨body, hok⟩ := hbody' body' hok'
    exact ⟨_, hglobal, body, hok, rfl⟩
  · rintro value value' ⟨_, body, hok, hvalue⟩ ⟨_, body', hok', hvalue'⟩
    obtain ⟨body'', hok'', hrelated⟩ := hbody body hok
    obtain rfl : body'' = body' := Except.ok.inj (hok''.symm.trans hok')
    exact ⟨body, body'', hrelated, hvalue, hvalue'⟩

/-- Assumes: a text at whose end the scanner stands behind a space, and trivia; and where that space
belongs to a line comment, that the trivia are trivia from their first line feed on. With the trivia
inserted there the text is unwrapped if and only if it is without them; the results are equal, or
the trivia stand at that place of the body and all else is the same. Everything behind the trivia is
read as it is without them: the scanner stands at the same places and decides alike there. -/
theorem unwrap_insert_trivia {before rest trivia : List Char} {c : Char} {globalObject : String}
    (hlast : before.getLast? = some c) (hspace : isSpace c)
    (hrun : Run {} 0 (dropByteOrderMark before) rest braces s) (htrivia : Trivia trivia)
    (hbreak : EndsInLineComment {} 0 (dropByteOrderMark before) rest →
      TriviaBehindBreak trivia) :
    (((∃ value, (unwrap (String.ofList (before ++ rest)) globalObject).outcome = .ok value) ↔
        ∃ value', (unwrap (String.ofList (before ++ (trivia ++ rest))) globalObject).outcome =
          .ok value') ∧
      ∀ value value',
        (unwrap (String.ofList (before ++ rest)) globalObject).outcome = .ok value →
        (unwrap (String.ofList (before ++ (trivia ++ rest))) globalObject).outcome = .ok value' →
        ∃ body body', ExchangedBody (dropByteOrderMark before) [] trivia rest body body' ∧
          value = "var scope = " ++ globalObject ++ ";" ++ String.ofList body ∧
          value' = "var scope = " ++ globalObject ++ ";" ++ String.ofList body') ∧
    DecidesAlike (dropByteOrderMark before) (dropByteOrderMark before ++ trivia) rest ∧
    DecidesAlike (dropByteOrderMark before ++ trivia) (dropByteOrderMark before) rest := by
  obtain ⟨hlast', hmark⟩ := getLast?_dropByteOrderMark hlast hspace
  have hinserted := hrun.insert_trivia hlast' hspace htrivia hbreak
  have hplain : Run {} 0 (dropByteOrderMark before ++ []) rest braces s := by
    rwa [List.append_nil]
  have hfront : ∀ b ∈ braces, b.1 < byteSize (dropByteOrderMark before) :=
    fun b hb ↦ hrun.offset_lt_of_mem hb
  obtain ⟨hrelocates, hside⟩ := traces_of_runs hplain hinserted (.refl s) hfront
  obtain ⟨hrelocates', hside'⟩ := traces_of_runs hinserted hplain (.refl s) hfront
  refine ⟨unwrap_of_bodies (fun body hbody ↦ ?_) fun body' hbody' ↦ ?_,
    decidesAlike_of_runs hrun hinserted (.refl s), decidesAlike_of_runs hinserted hrun (.refl s)⟩
  · rw [hmark] at hbody ⊢
    exact exists_exchangedBody_of_relocates hrelocates hside hbody
  · rw [hmark] at hbody' ⊢
    obtain ⟨body, hbody, _⟩ := exists_exchangedBody_of_relocates hrelocates' hside' hbody'
    exact ⟨body, hbody⟩

/-- A function whose body starts with some text. -/
theorem exists_run_functionStart {text rest : List Char} {braces : List (Nat × Brace)}
    (htext : ∀ s : ScanState, s.templates = [] → ∃ next, Run s 12 text rest braces next) :
    ∃ braces' next, Run {} 0 ("(function()\x7b".toList ++ text) rest braces' next := by
  have hheader : Plain "(function()".toList := by simp [Plain]
  obtain ⟨s, hrun, houter⟩ :=
    exists_run_of_plainText hheader {} 0 ('\x7b' :: text ++ rest)
  obtain ⟨next, hbody⟩ := htext s.openBrace houter
  have hall := hrun.append (.append (.single (.openBrace (text ++ rest) houter)) hbody)
  exact ⟨_, next, hall⟩

/-- A division behind a space stays one behind a block comment and a line comment that hold quotes,
braces and slashes. -/
theorem unwrap_insert_trivia_before_division :
    ∃ braces s,
      "(function()\x7ba ".toList.getLast? = some ' ' ∧ isSpace ' ' ∧
      Run {} 0 (dropByteOrderMark "(function()\x7ba ".toList) "/b/c\x7d)();".toList braces s ∧
      Trivia "/*\n\x7d'*/\t//\x7b`\n".toList ∧
      (EndsInLineComment {} 0 (dropByteOrderMark "(function()\x7ba ".toList)
          "/b/c\x7d)();".toList → TriviaBehindBreak "/*\n\x7d'*/\t//\x7b`\n".toList) ∧
      ((∃ value, (unwrap (.ofList ("(function()\x7ba ".toList ++ "/b/c\x7d)();".toList))
          "window").outcome = .ok value) ↔
        ∃ value', (unwrap (.ofList ("(function()\x7ba ".toList ++
          ("/*\n\x7d'*/\t//\x7b`\n".toList ++ "/b/c\x7d)();".toList)))
          "window").outcome = .ok value') := by
  obtain ⟨braces, s, hrun⟩ : ∃ braces s, Run {} 0 ("(function()\x7b".toList ++ ['a', ' '])
      "/b/c\x7d)();".toList braces s :=
    exists_run_functionStart fun s _ ↦
      ⟨_, .step (.char _ (by decide) (by decide)) (.single (.space _ rfl))⟩
  have htrivia : Trivia "/*\n\x7d'*/\t//\x7b`\n".toList := by
    have hline : Trivia ('/' :: '/' :: (['\x7b', '`'] ++ '\n' :: [])) :=
      .lineComment (by decide) .nil
    refine @Trivia.blockComment ['\n', '\x7d', '\'', '*', '/'] _ ?_ (@Trivia.space '\t' _ rfl hline)
    exact .char (by decide) (.char (by decide) (.char (by decide) .close))
  have hbreak : EndsInLineComment {} 0 (dropByteOrderMark "(function()\x7ba ".toList)
      "/b/c\x7d)();".toList → TriviaBehindBreak "/*\n\x7d'*/\t//\x7b`\n".toList := by
    rintro ⟨front, line, _, _, htext, _⟩
    have hslash : '/' ∈ dropByteOrderMark "(function()\x7ba ".toList := by
      rw [htext]
      simp
    exact absurd hslash (by decide)
  have hlast : "(function()\x7ba ".toList.getLast? = some ' ' := by decide
  exact ⟨braces, s, hlast, rfl, hrun, htrivia, hbreak,
    (unwrap_insert_trivia hlast rfl hrun htrivia hbreak).1.1⟩

/-- The scanner stands behind a space at the end of a line comment, and a block comment that is
inserted there loses its opening mark: the text is a wrapper only without it. -/
theorem insertion_behind_lineComment_fails :
    ∃ braces s,
      "(function()\x7b// ".toList.getLast? = some ' ' ∧ isSpace ' ' ∧
      Run {} 0 (dropByteOrderMark "(function()\x7b// ".toList) "\n\x7d)();".toList braces s ∧
      Trivia "/*\n*/".toList ∧
      (unwrap (.ofList ("(function()\x7b// ".toList ++ "\n\x7d)();".toList)) "window").outcome =
        .ok "var scope = window;// \n" ∧
      (unwrap (.ofList ("(function()\x7b// ".toList ++ ("/*\n*/".toList ++ "\n\x7d)();".toList)))
        "window").outcome = .error (.malformedBundle (.unterminated ⟨.regex, 19⟩)) := by
  obtain ⟨braces, s, hrun⟩ : ∃ braces s, Run {} 0 ("(function()\x7b".toList ++ ['/', '/', ' '])
      "\n\x7d)();".toList braces s :=
    exists_run_functionStart fun s _ ↦ ⟨_, .single (.lineComment ⟨by decide, .inr rfl⟩)⟩
  have htrivia : Trivia "/*\n*/".toList :=
    @Trivia.blockComment ['\n', '*', '/'] _ (.char (by decide) .close) .nil
  exact ⟨braces, s, by decide, by decide, hrun, htrivia, by decide +kernel, by decide +kernel⟩

end BrowserScript.Wrapper
