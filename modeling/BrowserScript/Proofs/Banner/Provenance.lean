import Mathlib
import BrowserScript.Proofs.Banner.Comment
import BrowserScript.Proofs.Banner.MovedText
import BrowserScript.Proofs.Minification.Envelope

/-!
Scripts under a banner. Whatever a grammar asks a text for, one token after the other, it finds the
same in a script and in the script under a comment, further on (`Script.tokens_under`). The end of
the comment can be told in the text again (`split_at_bannerEnd_iff`). So the banner of a descriptor
with safe fields leaves the minified script as it is, and in any other banner what follows the mark
in the field is read as script (`minify_stamps`).
-/

set_option autoImplicit false
set_option relaxedAutoImplicit false

namespace BrowserScript

open Script

variable {rest : List Char}

/-! ### Tokens behind a comment -/

namespace Script

/-- The rest of a block comment up to the first mark that ends one. -/
theorem skipBlank_blockComment {inner : List Char} (lineBreak : Bool) (tokenStart : Option Nat)
    (faults : List Placed) (pos : Nat) (h : ¬['*', '/'] <:+: inner ++ ['*']) :
    skipBlank .blockComment lineBreak tokenStart faults pos (inner ++ '*' :: '/' :: rest) =
      skipBlank .between (lineBreak || inner.any isLineBreak) tokenStart faults
        (pos + inner.length + 2) rest := by
  induction inner generalizing lineBreak pos with
  | nil =>
    rw [List.nil_append, skipBlank, if_pos ⟨rfl, rfl⟩]
    simp
  | cons c inner ih =>
    have hnot : ¬(c = '*' ∧ (inner ++ '*' :: '/' :: rest).head? = some '/') := by
      have hnext : (inner ++ ['*']).head? = (inner ++ '*' :: '/' :: rest).head? := by
        cases inner <;> rfl
      rw [← hnext, ← mark_prefix_cons]
      exact fun hprefix ↦ h hprefix.isInfix
    have hinner : ¬['*', '/'] <:+: inner ++ ['*'] := fun hin ↦ h (hin.trans
      (List.suffix_cons c _).isInfix)
    rw [List.cons_append, skipBlank, if_neg hnot, ih _ _ hinner]
    simp only [List.any_cons, List.length_cons, Bool.or_assoc]
    congr 1
    omega

/-- A comment at the start of a line, up to the first mark that ends one. -/
theorem skipBlank_comment {front : List Char} (pos : Nat) (hopen : ['/', '*'] <+: front)
    (h : ¬['*', '/'] <:+: front ++ ['*']) :
    skipBlank .between true none [] pos (front ++ '*' :: '/' :: rest) =
      skipBlank .between true none [] (pos + front.length + 2) rest := by
  obtain ⟨inner, rfl⟩ := hopen
  have hinner : ¬['*', '/'] <:+: inner ++ ['*'] := fun hin ↦
    h (hin.trans (List.suffix_append ['/', '*'] _).isInfix)
  have hslash : isLineBreak '/' = false ∧ isBlank '/' = false := by decide
  rw [List.append_assoc]
  show skipBlank .between true none [] pos ('/' :: '*' :: (inner ++ '*' :: '/' :: rest)) = _
  rw [skipBlank, if_neg (by simp [hslash.1]), if_neg (by simp [hslash.2]), if_neg (by simp),
    if_pos ⟨rfl, rfl⟩]
  show skipBlank .blockComment true none [] (pos + 2) (inner ++ '*' :: '/' :: rest) = _
  rw [skipBlank_blockComment true none [] (pos + 2) hinner]
  simp only [Bool.true_or, List.length_append, List.length_cons, List.length_nil]
  congr 1
  omega

/-- What a grammar wants from a text: a token, the regular expression that starts with a token if
that is a slash, or template text. -/
inductive Request where
  | token (around : Surroundings)
  | regex (around : Surroundings)
  | chunk
  deriving DecidableEq

inductive Found where
  | token (lexeme : Lexeme)
  | regex (slash : Lexeme) (regex : RegexToken)
  /-- A regular expression without an end. -/
  | openRegex (slash : Lexeme) (stop : Remaining)
  | chunk (chunk : TemplateChunk)

namespace Found

/-- What is left behind it. The mark that ends template text goes with it. -/
def after : Found → Remaining
  | token l => l.after
  | regex _ r => r.flags.after
  | openRegex _ stop => stop
  | chunk c => c.after.drop (if c.opensSubstitution then 2 else 1)

def moved (n : Nat) : Found → Found
  | token l => .token (l.moved n)
  | regex slash r => .regex (slash.moved n) (r.moved n)
  | openRegex slash stop => .openRegex (slash.moved n) (stop.moved n)
  | chunk c => .chunk (c.moved n)

theorem after_moved (n : Nat) (found : Found) : (found.moved n).after = found.after.moved n := by
  cases found with
  | chunk c => exact Remaining.drop_moved n c.after _
  | _ => rfl

end Found

/-- What starts at a token, where a regular expression may stand. -/
def regexAt (lexeme : Lexeme) : Found :=
  if lexeme.token.isMark "/" || lexeme.token.isMark "/=" then
    match readRegex (lexeme.here.drop 1) with
    | .ok regex => .regex lexeme regex
    | .error stop => .openRegex lexeme stop
  else .token lexeme

def Request.answer (isFirst : Bool) (here : Remaining) : Request → Found
  | token around => .token (nextLexeme around isFirst here)
  | regex around => regexAt (nextLexeme around isFirst here)
  | chunk => .chunk (readChunk here)

/-- What a grammar finds, from the start of a text or from somewhere behind it. -/
def answers : List Request → Bool → Remaining → List Found
  | [], _, _ => []
  | request :: requests, isFirst, here =>
    request.answer isFirst here :: answers requests false (request.answer isFirst here).after

def tokens (requests : List Request) (text : String) : List Found :=
  answers requests true ⟨0, scriptChars text⟩

variable (n : Nat)

theorem isMark_moved (token : Token) (mark : String) :
    (token.moved n).isMark mark = token.isMark mark := by
  cases token <;> rfl

theorem regexAt_moved (lexeme : Lexeme) :
    regexAt (lexeme.moved n) = (regexAt lexeme).moved n := by
  unfold regexAt
  rw [show (lexeme.moved n).token = lexeme.token.moved n from rfl, isMark_moved, isMark_moved,
    show (lexeme.moved n).here = lexeme.here.moved n from rfl, Remaining.drop_moved,
    readRegex_moved]
  split
  · cases readRegex (lexeme.here.drop 1) <;> rfl
  · rfl

theorem Request.answer_moved (isFirst : Bool) (here : Remaining) (request : Request) :
    request.answer isFirst (here.moved n) = (request.answer isFirst here).moved n := by
  cases request with
  | token around => exact congrArg Found.token (nextLexeme_moved n around isFirst here)
  | regex around =>
    rw [Request.answer, Request.answer, nextLexeme_moved, regexAt_moved]
  | chunk => exact congrArg Found.chunk (readChunk_moved n here)

theorem answers_moved (requests : List Request) (isFirst : Bool) (here : Remaining) :
    answers requests isFirst (here.moved n) =
      (answers requests isFirst here).map (Found.moved n) := by
  induction requests generalizing isFirst here with
  | nil => rfl
  | cons request requests ih =>
    rw [answers, answers, List.map_cons, Request.answer_moved, Found.after_moved, ih]

theorem scriptChars_of_head {text : String} {c : Char} (h : text.toList.head? = some c)
    (hc : c ≠ '\uFEFF') : scriptChars text = text.toList := by
  unfold scriptChars
  split
  · next rest htext =>
    rw [htext] at h
    cases h
    exact (hc rfl).elim
  · rfl

/-- The first token of a text starts behind the comment that the text starts with. -/
theorem nextLexeme_behind_comment (around : Surroundings) {front : List Char}
    (hopen : ['/', '*'] <+: front) (h : ¬['*', '/'] <:+: front ++ ['*']) :
    nextLexeme around true ⟨0, front ++ '*' :: '/' :: rest⟩ =
      lexemeBehind around (skipBlank .between true none [] (front.length + 2) rest) := by
  have hline : skipInterpreterLine (front ++ '*' :: '/' :: rest) = 0 := by
    obtain ⟨inner, rfl⟩ := hopen
    rfl
  rw [nextLexeme_eq, if_pos rfl, hline, Nat.add_zero, List.drop_zero, skipBlank_comment 0 hopen h,
    Nat.zero_add]

/-- In front of a script that starts with a parenthesis, on a line of its own, a comment changes the
place of the first token and nothing else. -/
theorem nextLexeme_under (around : Surroundings) {comment script : List Char}
    (hcomment : IsComment comment) (hscript : script.head? = some '(') :
    nextLexeme around true ⟨0, comment ++ '\n' :: script⟩ =
      (nextLexeme around true ⟨0, script⟩).moved (comment.length + 1) := by
  obtain ⟨front, hopen, rfl, hfirst⟩ := hcomment
  have hline : skipInterpreterLine script = 0 := by
    rw [skipInterpreterLine, if_neg]
    intro h
    cases script <;> simp_all
  have hmoved := skipBlank_moved (front.length + 3) .between true none [] 0 script
  rw [Option.map_none, List.map_nil, Nat.zero_add] at hmoved
  rw [List.append_assoc]
  refine (nextLexeme_behind_comment around hopen hfirst).trans ?_
  rw [nextLexeme_eq around true ⟨0, script⟩, if_pos rfl]
  dsimp only
  rw [hline, List.drop_zero, ← lexemeBehind_moved, List.length_append]
  show lexemeBehind around (skipBlank .between true none [] (front.length + 2) ('\n' :: script)) = _
  rw [skipBlank, if_pos (by decide), hmoved]
  rfl

theorem toList_under (banner script : String) :
    (banner ++ "\n" ++ script).toList = banner.toList ++ '\n' :: script.toList := by
  simp [String.toList_append]

theorem scriptChars_under {banner script : String} (hopen : ['/', '*'] <+: banner.toList) :
    scriptChars (banner ++ "\n" ++ script) = banner.toList ++ '\n' :: script.toList := by
  have hhead : (banner ++ "\n" ++ script).toList.head? = some '/' := by
    obtain ⟨inner, hbanner⟩ := hopen
    rw [toList_under, ← hbanner]
    rfl
  rw [scriptChars_of_head hhead (by decide), toList_under]

theorem tokens_under {banner script : String} (hcomment : IsComment banner.toList)
    (hscript : script.toList.head? = some '(') {requests : List Request}
    (hfirst : requests.head? ≠ some .chunk) :
    tokens requests (banner ++ "\n" ++ script) =
      (tokens requests script).map (Found.moved (banner.length + 1)) := by
  have hopen : ['/', '*'] <+: banner.toList := by
    obtain ⟨front, hopen, hbanner, -⟩ := hcomment
    rw [hbanner]
    exact hopen.trans (List.prefix_append front _)
  rw [tokens, tokens, scriptChars_under hopen, scriptChars_of_head hscript (by decide)]
  cases requests with
  | nil => rfl
  | cons request requests =>
    have hmoved (around : Surroundings) := nextLexeme_under around hcomment hscript
    have hanswer : request.answer true ⟨0, banner.toList ++ '\n' :: script.toList⟩ =
        (request.answer true ⟨0, script.toList⟩).moved (banner.length + 1) := by
      cases request with
      | token around =>
        rw [Request.answer, hmoved, String.length_toList]
        rfl
      | regex around =>
        rw [Request.answer, hmoved, regexAt_moved, String.length_toList]
        rfl
      | chunk => exact (hfirst rfl).elim
    rw [answers, answers, List.map_cons, hanswer, Found.after_moved, answers_moved]

end Script

/-! ### The mark between a banner and a script -/

/-- What every banner ends with. -/
def bannerEnd : List Char := ['*', '*', '*', '/']

/-- Nothing of a comment stands behind a mark that ends one. -/
theorem IsComment.eq_nil_of_mark {comment front more : List Char} (h : IsComment comment)
    (hmark : comment = front ++ '*' :: '/' :: more) : more = [] := by
  obtain ⟨inner, -, rfl, hfirst⟩ := h
  by_contra hmore
  refine hfirst ⟨front, more.dropLast, ?_⟩
  have hdrop := congrArg List.dropLast hmark
  rwa [show inner ++ ['*', '/'] = inner ++ ['*'] ++ ['/'] by simp, List.dropLast_concat,
    show front ++ '*' :: '/' :: more = front ++ ['*', '/'] ++ more by simp,
    List.dropLast_append_of_ne_nil hmore, eq_comm] at hdrop

/-- A text falls into a comment and what follows it, on the next line, where the end of a banner
with a line break behind it stands first. -/
theorem split_at_bannerEnd_iff {comment script front back : List Char}
    (hcomment : IsComment comment) (hend : bannerEnd <:+ comment) :
    (comment ++ '\n' :: script = front ++ (bannerEnd ++ '\n' :: back) ∧
        ¬bannerEnd ++ ['\n'] <:+: front ++ bannerEnd) ↔
      front ++ bannerEnd = comment ∧ back = script := by
  have hmark (before more : List Char) :
      before ++ bannerEnd ++ more = before ++ ['*', '*'] ++ '*' :: '/' :: more := by
    simp [bannerEnd]
  constructor
  · rintro ⟨heq, hfirst⟩
    rw [← List.append_assoc] at heq
    rcases List.append_eq_append_iff.mp heq with ⟨more, hfront, htail⟩ | ⟨more, hbanner, htail⟩
    · cases more with
      | nil => exact ⟨hfront.trans (List.append_nil _), (List.cons.inj htail).2.symm⟩
      | cons c more =>
        -- the comment would be a part of what stands in front of the first end of a banner
        obtain ⟨rfl, -⟩ := List.cons.inj htail
        obtain ⟨before, rfl⟩ := hend
        exact (hfirst ⟨before, more, by rw [hfront]; simp⟩).elim
    · obtain rfl := hcomment.eq_nil_of_mark (hbanner.trans (hmark front more))
      exact ⟨(hbanner.trans (List.append_nil _)).symm, (List.cons.inj htail).2⟩
  · rintro ⟨rfl, rfl⟩
    refine ⟨by simp, fun ⟨before, more, hin⟩ ↦ ?_⟩
    have hmore : front ++ bannerEnd = before ++ bannerEnd ++ '\n' :: more := by
      rw [← hin]
      simp
    cases hcomment.eq_nil_of_mark (hmore.trans (hmark before _))

/-! ### The product -/

/-- A script under the banner of a descriptor, in one text. -/
structure Stamped (d : BuildDescriptor) (script code : String) : Prop where
  code_eq : code = d.banner ++ "\n" ++ script
  /-- A safe banner changes the places of all that is found in the script, and nothing else. -/
  found : d.IsCommentSafe → ∀ requests : List Request, requests.head? ≠ some .chunk →
    tokens requests code = (tokens requests script).map (Found.moved (d.banner.length + 1))
  /-- A safe banner goes up to where the end of a banner with a line break first stands. -/
  split : d.IsCommentSafe → ∀ front back,
    (code.toList = front ++ (bannerEnd ++ '\n' :: back) ∧
        ¬bannerEnd ++ ['\n'] <:+: front ++ bannerEnd) ↔
      front ++ bannerEnd = d.banner.toList ∧ back = script.toList
  /-- The comment of an unsafe banner ends with a mark inside of a field, and the first token is
  looked for right behind it, in the rest of the field and of the banner. -/
  escape : ¬d.IsCommentSafe → ∃ before field behind front rest, d.Holds before field behind ∧
    field.toList = front ++ '*' :: '/' :: rest ∧ IsComment (before ++ (front ++ ['*', '/'])) ∧
      ∀ around, nextLexeme around true ⟨0, scriptChars code⟩ =
        lexemeBehind around (skipBlank .between true none []
          (before ++ (front ++ ['*', '/'])).length (rest ++ (behind ++ '\n' :: script.toList)))

namespace BuildDescriptor

variable {d : BuildDescriptor}

theorem bannerEnd_suffix_banner (d : BuildDescriptor) : bannerEnd <:+ d.banner.toList := by
  have htail : d.tail ++ ['*', '/'] =
      ['\n', ' ', '*', '\n'] ++ (d.copyrightLines.toList ++ [' ']) ++ bannerEnd := by
    simp [tail, bannerEnd]
  rw [toList_banner, htail]
  simp only [← List.append_assoc]
  exact List.suffix_append _ _

theorem stamped (d : BuildDescriptor) {script : String} (hscript : script.toList.head? = some '(') :
    Stamped d script (d.banner ++ "\n" ++ script) where
  code_eq := rfl
  found hsafe _ hfirst := tokens_under ((isComment_banner_iff d).mpr hsafe) hscript hfirst
  split hsafe front back := by
    rw [toList_under]
    exact split_at_bannerEnd_iff ((isComment_banner_iff d).mpr hsafe) d.bannerEnd_suffix_banner
  escape hunsafe := by
    obtain ⟨before, field, behind, front, rest, hholds, hfield, hfirst⟩ := exists_early_end hunsafe
    have hopen : ['/', '*'] <+: before ++ front := hholds.open_prefix.trans (List.prefix_append _ _)
    rw [← List.append_assoc] at hfirst
    refine ⟨before, field, behind, front, rest, hholds, hfield,
      ⟨before ++ front, hopen, by simp, hfirst⟩, fun around ↦ ?_⟩
    have hcode : d.banner.toList ++ '\n' :: script.toList =
        before ++ front ++ '*' :: '/' :: (rest ++ (behind ++ '\n' :: script.toList)) := by
      rw [hholds.toList_banner, hfield]
      simp
    have hbanner : ['/', '*'] <+: d.banner.toList := by
      rw [hholds.toList_banner]
      exact hholds.open_prefix.trans (List.prefix_append _ _)
    rw [scriptChars_under hbanner, hcode, nextLexeme_behind_comment around hopen hfirst]
    simp [Nat.add_assoc]

end BuildDescriptor

/-- The banner of a descriptor is one comment exactly if no field holds the mark that ends one. What
minification makes of a text is a script under that banner, for every descriptor. -/
theorem minify_stamps (text : String) (d : BuildDescriptor) :
    (IsComment d.banner.toList ↔ d.IsCommentSafe) ∧
      ∀ result, (minify text d).outcome = .ok result →
        ∃ statements, readBaselineScript text = .ok statements ∧
          Stamped d (minifiedText statements) result.code := by
  refine ⟨d.isComment_banner_iff, fun result hresult ↦ ?_⟩
  rw [outcome_minify] at hresult
  cases hread : readBaselineScript text with
  | error cause =>
    rw [hread] at hresult
    cases hresult
  | ok statements =>
    rw [hread] at hresult
    cases hresult
    have hscript : (minifiedText statements).toList.head? = some '(' := by
      rw [minifiedText, printScript_envelope (encloses_envelope _)]
      simp [String.toList_append]
    exact ⟨statements, rfl, d.stamped hscript⟩

/-- Fields that look like parts of the mark, and one that holds it. -/
theorem minify_stamps_call :
    (∃ result statements, (minify "f()" ⟨"a/", "*", "/* ***", true⟩).outcome = .ok result ∧
      readBaselineScript "f()" = .ok statements ∧
        Stamped ⟨"a/", "*", "/* ***", true⟩ (minifiedText statements) result.code ∧
          BuildDescriptor.IsCommentSafe ⟨"a/", "*", "/* ***", true⟩) ∧
      ∃ result statements, (minify "f()" ⟨"a", "*/1", "c", false⟩).outcome = .ok result ∧
        readBaselineScript "f()" = .ok statements ∧
          Stamped ⟨"a", "*/1", "c", false⟩ (minifiedText statements) result.code ∧
            ¬BuildDescriptor.IsCommentSafe ⟨"a", "*/1", "c", false⟩ := by
  have hminify (d : BuildDescriptor) : ∃ result, (minify "f()" d).outcome = .ok result := by
    have hread : (readBaselineScript "f()").isOk := by decide +kernel
    rw [outcome_minify]
    cases hresult : readBaselineScript "f()" with
    | error cause =>
      rw [hresult] at hread
      cases hread
    | ok statements => exact ⟨_, rfl⟩
  obtain ⟨result, hresult⟩ := hminify ⟨"a/", "*", "/* ***", true⟩
  obtain ⟨statements, hread, hstamped⟩ :=
    (minify_stamps "f()" ⟨"a/", "*", "/* ***", true⟩).2 result hresult
  obtain ⟨result', hresult'⟩ := hminify ⟨"a", "*/1", "c", false⟩
  obtain ⟨statements', hread', hstamped'⟩ :=
    (minify_stamps "f()" ⟨"a", "*/1", "c", false⟩).2 result' hresult'
  exact ⟨⟨result, statements, hresult, hread, hstamped, by decide +kernel⟩,
    result', statements', hresult', hread', hstamped', by decide +kernel⟩

end BrowserScript
