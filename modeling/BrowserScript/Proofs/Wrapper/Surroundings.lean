import BrowserScript.Proofs.Wrapper.StandaloneBody
import BrowserScript.Proofs.Wrapper.LiteralExchange
import BrowserScript.Proofs.Wrapper.Truncation

/-!
The text around a body. What the scanner has read matters to what follows only through the next
decisions (`ReadsLike`), and text without delimiters behind another text adds no brace and no
failure (`relocates_append_plain`). So the wrapper around a body has no part in what the body is
(`unwrap_of_wrapper_iff`), and a second bundle behind a first one is always seen
(`unwrap_of_two_bundles`).
-/

set_option autoImplicit false
set_option relaxedAutoImplicit false

namespace BrowserScript.Wrapper

open Text

variable {s t next : ScanState} {offset : Nat} {read rest text : List Char} {brace : Option Brace}
  {braces : List (Nat × Brace)}

/-! ### Text without delimiters -/

/-- Text that holds no delimiter of a literal, a comment or a group. -/
def Plain (text : List Char) : Prop := ∀ c ∈ text, c ∉ ['\'', '"', '`', '/', '\x7b', '\x7d']

theorem plain_nil : Plain [] := fun _ hc ↦ by cases hc

theorem exists_step_of_plainChar {c : Char} (hc : c ∉ ['\'', '"', '`', '/', '\x7b', '\x7d'])
    (s : ScanState) (offset : Nat) (rest : List Char) :
    ∃ next, Step s offset [c] rest none next ∧ next.templates = s.templates := by
  by_cases hopen : c = '('
  · subst hopen
    exact ⟨_, .openParen rest, rfl⟩
  by_cases hclose : c = ')'
  · subst hclose
    exact ⟨_, .closeParen rest, rfl⟩
  by_cases hspace : isSpace c
  · exact ⟨_, .space rest hspace, rfl⟩
  · refine ⟨_, .char rest ?_ (by simpa using hspace), rfl⟩
    simp only [List.mem_cons, List.not_mem_nil, or_false, not_or] at hc ⊢
    simp [hc, hopen, hclose]

/-- Plain text is read to its end from every state. -/
theorem exists_run_of_plainText (htext : Plain text) (s : ScanState) (offset : Nat)
    (rest : List Char) :
    ∃ next, Run s offset text rest [] next ∧ next.templates = s.templates := by
  induction text generalizing s offset with
  | nil => exact ⟨s, .refl s offset rest, rfl⟩
  | cons c text ih =>
    obtain ⟨hc, htext⟩ := List.forall_mem_cons.mp htext
    obtain ⟨middle, hstep, hmiddle⟩ := exists_step_of_plainChar hc s offset (text ++ rest)
    obtain ⟨next, hrun, hnext⟩ := ih htext middle (offset + byteSize [c])
    exact ⟨next, .step hstep hrun, hnext.trans hmiddle⟩

theorem scanBraces_of_plainText (htext : Plain text) (s : ScanState) (offset : Nat) :
    scanBraces s offset text = ⟨[], s.templates.head?.map fun t ↦ ⟨.template, t.start⟩⟩ := by
  obtain ⟨next, hrun, hnext⟩ := exists_run_of_plainText htext s offset []
  have hscan := scanBraces_append_of_run hrun
  rw [List.append_nil, scanBraces_of_stop (show next.move _ [] = .stop _ from rfl)] at hscan
  simpa [hnext] using hscan

/-! ### Plain text behind another text -/

theorem Plain.not_mem_getLast? {first second : List Char} {c : Char} (hplain : Plain second)
    (hne : second ≠ []) (hlast : (first ++ second).getLast? = some c) :
    c ∉ ['\'', '"', '`', '/', '\x7b', '\x7d'] := by
  rw [List.getLast?_append_of_ne_nil first hne] at hlast
  exact hplain c (List.mem_of_getLast? hlast)

/-- The last token of a text takes a part of what stands behind it, or nothing, and leaves the
scanner in the same state. -/
theorem Step.exists_append (h : Step s offset read [] brace next)
    (hslash : read.getLast? ≠ some '/') (text : List Char) :
    ∃ gap later, text = gap ++ later ∧ Step s offset (read ++ gap) later brace next := by
  have hsame : Step s offset read text brace next →
      ∃ gap later, text = gap ++ later ∧ Step s offset (read ++ gap) later brace next :=
    fun hstep ↦ ⟨[], text, rfl, by rwa [List.append_nil]⟩
  cases h with
  | stringLiteral _ hquote hrest => exact hsame (.stringLiteral _ hquote hrest)
  | template _ hrest => exact hsame (.template _ hrest)
  | substitution _ hrest => exact hsame (.substitution _ hrest)
  | @lineComment line _ hline =>
    obtain ⟨gap, hgap, htext, _⟩ := skipLineComment_eq_iff.mp (Eq.refl (skipLineComment 0 text))
    refine ⟨gap, _, htext, .lineComment ⟨fun hmem ↦ ?_, hgap.2⟩⟩
    exact (List.mem_append.mp (show '\n' ∈ ('/' :: line) ++ gap from hmem)).elim hline.1 hgap.1
  | blockComment _ hrest => exact hsame (.blockComment _ hrest)
  | @regex body flags _ hallowed hnotSlash hnotStar hbody hflags =>
    obtain ⟨gap, hgap, htext, _⟩ := exists_flags 0 text
    have hall : FlagsBefore (flags ++ gap) (skipFlags 0 text).rest :=
      ⟨fun c hc ↦ (List.mem_append.mp hc).elim (hflags.1 c) (hgap.1 c), hgap.2⟩
    refine ⟨gap, _, htext, ?_⟩
    have hstep := @Step.regex s offset body (flags ++ gap) _ hallowed hnotSlash hnotStar hbody hall
    simpa using hstep
  | division => exact (hslash rfl).elim
  | openParen => exact hsame (.openParen _)
  | closeParen => exact hsame (.closeParen _)
  | openBrace _ houter => exact hsame (.openBrace _ houter)
  | openInner _ hinner => exact hsame (.openInner _ hinner)
  | closeBrace _ houter => exact hsame (.closeBrace _ houter)
  | closeInner _ hinner => exact hsame (.closeInner _ hinner)
  | closeTemplate _ hinner hrest => exact hsame (.closeTemplate _ hinner hrest)
  | nextSubstitution _ hinner hrest => exact hsame (.nextSubstitution _ hinner hrest)
  | space _ hspace => exact hsame (.space _ hspace)
  | char _ hc hspace => exact hsame (.char _ hc hspace)

/-- What a token takes of plain text behind a text it could have left: the text is a token without
it. -/
theorem Step.of_plain_end {gap later : List Char} (h : Step s offset (read ++ gap) later brace next)
    (hread : read ≠ []) (hgap : gap ≠ []) (hplain : Plain gap) :
    ∃ next', Step s offset read [] none next' := by
  -- a token of one character, or one that ends with a delimiter, takes no plain text at its end
  have hlast : ∀ {c : Char}, c ∈ ['\'', '"', '`', '/', '\x7b', '\x7d'] →
      (read ++ gap).getLast? ≠ some c :=
    fun hc hend ↦ hplain.not_mem_getLast? hgap hend hc
  have hsingle : ∀ {c : Char}, read ++ gap ≠ [c] := fun heq ↦ by
    rcases List.append_eq_singleton_iff.mp heq with ⟨rfl, _⟩ | ⟨_, rfl⟩
    · exact hread rfl
    · exact hgap rfl
  generalize hall : read ++ gap = all at h hlast hsingle
  cases h with
  | @stringLiteral quote _ _ hquote hrest =>
    refine (hlast (c := quote) ?_ (by simp [List.getLast?_cons, hrest.getLast?])).elim
    rcases hquote with rfl | rfl <;> decide
  | template | closeTemplate => exact (hlast (c := '`') (by decide) (by simp [List.getLast?_cons])).elim
  | substitution | nextSubstitution =>
    exact (hlast (c := '\x7b') (by decide) (by simp [List.getLast?_cons])).elim
  | blockComment _ hrest =>
    exact (hlast (c := '/') (by decide) (by simp [List.getLast?_cons, hrest.getLast?])).elim
  | openParen | closeParen | openBrace | openInner | closeBrace | closeInner | space | char | division =>
    exact (hsingle rfl).elim
  | @lineComment line _ hline =>
    obtain ⟨c, read, rfl⟩ := List.exists_cons_of_ne_nil hread
    obtain ⟨rfl, hline'⟩ := List.cons.inj hall
    rcases List.append_eq_cons_iff.mp hline' with ⟨rfl, rfl⟩ | ⟨read, rfl, rfl⟩
    · exact (hplain '/' List.mem_cons_self (by decide)).elim
    · exact ⟨_, .lineComment ⟨fun hmem ↦ hline.1 (List.mem_append_left gap hmem), .inl rfl⟩⟩
  | @regex body flags _ hallowed hnotSlash hnotStar hbody hflags =>
    obtain ⟨c, read, rfl⟩ := List.exists_cons_of_ne_nil hread
    obtain ⟨rfl, hbodyFlags⟩ := List.cons.inj hall
    have hregex : ∀ {taken : List Char}, (∀ c ∈ taken, c ∈ flags) → read = body ++ taken →
        ∃ next', Step s offset ('/' :: read) [] none next' := by
      rintro taken htaken rfl
      exact ⟨_, .regex hallowed hnotSlash hnotStar hbody
        ⟨fun c hc ↦ hflags.1 c (htaken c hc), by simp⟩⟩
    rcases List.append_eq_append_iff.mp hbodyFlags with ⟨part, rfl, rfl⟩ | ⟨taken, rfl, rfl⟩
    · by_cases hpart : part = []
      · exact @hregex [] (by simp) (by simp [hpart])
      · have hslash := hbody.getLast?
        rw [List.getLast?_append_of_ne_nil read hpart] at hslash
        exact (hplain '/' (List.mem_append_left flags (List.mem_of_getLast? hslash))
          (by decide)).elim
    · exact hregex (fun c hc ↦ List.mem_append_left gap hc) rfl

theorem Relocates.prepend {place : Nat → Nat} {trace trace' : BraceTrace}
    (h : Relocates place trace trace') {braces braces' : List (Nat × Brace)}
    (hbraces : braces' = braces.map fun b ↦ (place b.1, b.2)) :
    Relocates place ⟨braces ++ trace.braces, trace.failure⟩
      ⟨braces' ++ trace'.braces, trace'.failure⟩ :=
  ⟨by rw [List.map_append, hbraces, h.1], h.2⟩

/-- Where the scanner finds no end of a token, it finds none with plain text behind it. -/
theorem exists_stop_append_plain {c : Char} {cs : List Char} {failure : Option Unterminated}
    (hstop : s.move offset (c :: cs) = .stop failure) (htext : Plain text) :
    ∃ failure', s.move offset (c :: cs ++ text) = .stop failure' ∧ failure' ≠ none := by
  rcases stop_or_step s offset (c :: cs ++ text) with
    ⟨failure', hstop'⟩ | ⟨read, rest, brace, next, hread, hstep⟩
  · refine ⟨failure', hstop', ?_⟩
    rintro rfl
    exact move_cons_ne_stop_none _ _ _ _ hstop'
  · -- the token would end in front of the plain text, or could do so
    have hends : ∃ read rest brace next, c :: cs = read ++ rest ∧
        Step s offset read rest brace next := by
      rcases List.append_eq_append_iff.mp hread with ⟨gap, rfl, rfl⟩ | ⟨rest', hcs, rfl⟩
      · by_cases hgap : gap = []
        · subst hgap
          refine ⟨c :: cs, [], brace, next, by simp, ?_⟩
          exact .of_lookAllows (by simpa using hstep) (lookAllows_of_cut [] rest)
        · have hplain : Plain gap := fun d hd ↦ htext d (List.mem_append_left rest hd)
          obtain ⟨next', hstep'⟩ := hstep.of_plain_end (List.cons_ne_nil c cs) hgap hplain
          exact ⟨c :: cs, [], none, next', by simp, hstep'⟩
      · exact ⟨read, rest', brace, next, hcs, hstep.of_lookAllows (lookAllows_of_cut rest' text)⟩
    obtain ⟨read, rest, brace, next, hcs, hstep⟩ := hends
    rw [hcs] at hstop
    exact (stop_ne_onward _ _ _ _ (hstop.symm.trans (move_append_of_step hstep))).elim

/-- Plain text behind a text adds no structural brace and no failure, unless a slash in front of it
becomes the start of a regular expression or a comment. -/
theorem relocates_append_plain (htext : Plain text) (cs : List Char)
    (hslash : cs.getLast? ≠ some '/') (s : ScanState) (offset : Nat) :
    Relocates id (scanBraces s offset cs) (scanBraces s offset (cs ++ text)) := by
  -- on the length of the text in front: a token of it leaves less of it
  induction hlength : cs.length using Nat.strongRecOn generalizing s offset cs with
  | ind length ih =>
    cases cs with
    | nil =>
      have hnil := scanBraces_of_plainText plain_nil s offset
      rw [List.nil_append, scanBraces_of_plainText htext, hnil]
      exact ⟨rfl, Iff.rfl⟩
    | cons c cs =>
      rcases stop_or_step s offset (c :: cs) with
        ⟨failure, hstop⟩ | ⟨read, rest, brace, next, hread, hstep⟩
      · obtain ⟨failure', hstop', hfailure'⟩ := exists_stop_append_plain hstop htext
        have hfailure : failure ≠ none := by
          rintro rfl
          exact move_cons_ne_stop_none _ _ _ _ hstop
        rw [scanBraces_of_stop hstop, scanBraces_of_stop hstop']
        exact ⟨rfl, by simp [hfailure, hfailure']⟩
      · rw [hread] at hslash hlength ⊢
        by_cases hrest : rest = []
        · subst hrest
          rw [List.append_nil] at hslash ⊢
          obtain ⟨gap, later, rfl, hstep'⟩ := hstep.exists_append hslash text
          have hlater : Plain later := fun d hd ↦ htext d (List.mem_append_right gap hd)
          have hscan := scanBraces_append_of_run (.single hstep)
          have hscan' := scanBraces_append_of_run (.single hstep')
          have hnil := scanBraces_of_plainText plain_nil
          rw [List.append_nil, hnil] at hscan
          rw [scanBraces_of_plainText hlater] at hscan'
          rw [hscan, ← List.append_assoc, hscan']
          exact ⟨by simp, Iff.rfl⟩
        · have hstep' := hstep.of_lookAllows (lookAllows_append_of_ne_nil hrest text)
          have hshort : rest.length < length := by
            have hpos := List.length_pos_iff.mpr hstep.ne_nil
            rw [List.length_append] at hlength
            omega
          rw [List.getLast?_append_of_ne_nil read hrest] at hslash
          rw [List.append_assoc, scanBraces_append_of_run (.single hstep),
            scanBraces_append_of_run (.single hstep')]
          exact (ih rest.length hshort rest hslash next _ rfl).prepend (by simp)

/-! ### The wrapper around a body -/

variable {front back body : List Char}

/-- Where the braces of a text move to the place of the text in a larger one, and no other braces
are added, the two texts have the same body, or none. -/
theorem functionBody_iff_of_relocates
    (h : Relocates (byteSize front + ·) (structuralBraces text)
      (structuralBraces (front ++ (text ++ back)))) :
    functionBody (front ++ (text ++ back)) = .ok body ↔ functionBody text = .ok body := by
  have hwithin : ∀ {body}, functionBody text = .ok body →
      functionBody (front ++ (text ++ back)) = .ok body := by
    intro body hbody
    obtain ⟨before, after, rfl, hpair⟩ := exists_split_of_functionBody hbody
    have hpair' := hpair.relocate h
    have htext : front ++ (before ++ '\x7b' :: (body ++ '\x7d' :: after) ++ back) =
        front ++ before ++ '\x7b' :: (body ++ '\x7d' :: (after ++ back)) := by simp
    rw [htext, ← Nat.add_assoc, ← Nat.add_assoc, ← byteSize_append] at hpair'
    rw [htext]
    exact functionBody_of_pair hpair'
  refine ⟨fun hbody ↦ ?_, hwithin⟩
  -- the pair of the larger text moves back, so the smaller one has a body as well
  have hback : Relocates (· - byteSize front) (structuralBraces (front ++ (text ++ back)))
      (structuralBraces text) := by
    refine ⟨?_, h.2.symm⟩
    rw [h.1, List.map_map]
    refine (List.map_id _).symm.trans (List.map_congr_left fun b _ ↦ ?_)
    simp
  obtain ⟨_, _, _, hpair⟩ := exists_split_of_functionBody hbody
  obtain ⟨before, body', after, htext, hfirst, hlast⟩ :=
    exists_split_of_pair (hpair.relocate hback)
  have hbody' : functionBody text = .ok body' := by
    have hpair' := hpair.relocate hback
    rw [hfirst, hlast, htext] at hpair'
    rw [htext]
    exact functionBody_of_pair hpair'
  rw [hbody', ← hbody, hwithin hbody']

/-- Behind a header that leaves no header of a control statement open, the opening brace of a body
leads where it leads at the start of a text. -/
theorem exists_run_header (hplain : Plain front) (hend : front.getLast? = some ')')
    (hparens : true ∉ openParens (front.map Element.char).reverse) (rest : List Char) :
    ∃ s, Run {} 0 front ('\x7b' :: rest) [] s ∧ s.templates = [] ∧
      ReadsLike s.openBrace ({} : ScanState).openBrace := by
  obtain ⟨s, hrun, htracks, hbraces, htemplates⟩ :=
    exists_run_of_plain .initial hplain 0 ('\x7b' :: rest)
  rw [List.append_nil] at htracks
  refine ⟨s, hrun, htemplates, .of_eq rfl rfl, fun n ↦ ?_, fun n ↦ ?_, ?_⟩
  · rw [ScanState.openBrace, htracks.parens, List.getD_eq_getElem?_getD]
    cases hget : (openParens (front.map Element.char).reverse)[n]? with
    | none => rfl
    | some control =>
      cases control with
      | false => rfl
      | true => exact (hparens (List.mem_of_getElem? hget)).elim
  · obtain ⟨name, rfl⟩ := List.getLast?_eq_some_iff.mp hend
    have hclose : s.preceding.opensObject = false := by
      rw [htracks.preceding, List.map_append, List.reverse_append]
      rfl
    rw [ScanState.openBrace, ScanState.openBrace, hclose, hbraces]
    rfl
  · rw [ScanState.openBrace, ScanState.openBrace, htemplates]

theorem relocates_wrapper {trailer : List Char} (hplain : Plain front)
    (hend : front.getLast? = some ')')
    (hparens : true ∉ openParens (front.map Element.char).reverse) (htrailer : Plain trailer)
    (body : List Char) :
    Relocates (byteSize front + ·) (structuralBraces ('\x7b' :: (body ++ ['\x7d'])))
      (structuralBraces (front ++ ('\x7b' :: (body ++ ['\x7d']) ++ trailer))) := by
  obtain ⟨s, hrun, houter, hs⟩ :=
    exists_run_header hplain hend hparens (body ++ ['\x7d'] ++ trailer)
  have hwrapped := structuralBraces_of_firstBrace hrun houter
  have hbare := structuralBraces_of_firstBrace (.refl {} 0 ('\x7b' :: (body ++ ['\x7d']))) rfl
  obtain ⟨braces, failure, failure', hscan, hscan', hfailure⟩ :=
    exists_scanBraces_of_readsLike hs (byteSize front + 1) 1 (body ++ ['\x7d'])
  obtain ⟨hbraces, hend'⟩ := relocates_append_plain htrailer (body ++ ['\x7d']) (by simp)
    s.openBrace (byteSize front + 1)
  rw [hscan] at hbraces hend'
  rw [List.cons_append, hwrapped, hbraces]
  simp only [List.nil_append, byteSize_nil, Nat.zero_add] at hbare
  rw [hbare, hscan']
  refine ⟨?_, hfailure.symm.trans hend'⟩
  simp [shiftBraces, Function.comp_def, Nat.add_assoc]

/-- Assumes: a header that ends with a closing parenthesis and leaves no header of a control
statement open, and no delimiters in the header or the trailer. The wrapper that they make around a
body is unwrapped to the same text as the body in braces alone, or neither of the two is. -/
theorem unwrap_of_wrapper_iff {header body trailer globalObject value : String}
    (hheader : Plain header.toList) (hend : header.toList.getLast? = some ')')
    (hparens : true ∉ openParens
      ((dropByteOrderMark header.toList).map Element.char).reverse)
    (htrailer : Plain trailer.toList) :
    (unwrap (header ++ "\x7b" ++ body ++ "\x7d" ++ trailer) globalObject).outcome = .ok value ↔
      (unwrap ("\x7b" ++ body ++ "\x7d") globalObject).outcome = .ok value := by
  have hmark : dropByteOrderMark (header ++ "\x7b" ++ body ++ "\x7d" ++ trailer).toList =
      dropByteOrderMark header.toList ++
        ('\x7b' :: (body.toList ++ ['\x7d']) ++ trailer.toList) := by
    rw [← dropByteOrderMark_append_of_head?_ne (by simp [byteOrderMark])]
    simp
  have hmark' : dropByteOrderMark ("\x7b" ++ body ++ "\x7d").toList =
      '\x7b' :: (body.toList ++ ['\x7d']) := by
    simp [dropByteOrderMark, byteOrderMark]
  obtain ⟨hplain, hend'⟩ : Plain (dropByteOrderMark header.toList) ∧
      (dropByteOrderMark header.toList).getLast? = some ')' := by
    obtain ⟨name, hname⟩ := List.getLast?_eq_some_iff.mp hend
    rw [hname] at hheader ⊢
    rw [dropByteOrderMark_append_of_head?_ne (by simp [byteOrderMark])]
    refine ⟨fun c hc ↦ hheader c ?_, by simp⟩
    exact (dropByteOrderMark_sublist name |>.append_right [')']).subset hc
  have hbody := fun {body'} ↦ @functionBody_iff_of_relocates _ _ _ body'
    (relocates_wrapper hplain hend' hparens htrailer body.toList)
  simp only [outcome_unwrap_eq_ok_iff, hmark, hmark', hbody]

theorem unwrap_of_wrapper_with_argument :
    Plain "(function(scope)".toList ∧ "(function(scope)".toList.getLast? = some ')' ∧
      (true ∉ openParens
        ((dropByteOrderMark "(function(scope)".toList).map Element.char).reverse) ∧
      Plain "(this));".toList ∧
      ((unwrap ("(function(scope)" ++ "\x7b" ++ "if(a)/\x7d/.test(b)" ++ "\x7d" ++ "(this));")
          "window").outcome = .ok "var scope = window;if(a)/\x7d/.test(b)" ↔
        (unwrap ("\x7b" ++ "if(a)/\x7d/.test(b)" ++ "\x7d") "window").outcome =
          .ok "var scope = window;if(a)/\x7d/.test(b)") := by
  have hheader : Plain "(function(scope)".toList := by simp [Plain]
  have htrailer : Plain "(this));".toList := by simp [Plain]
  exact ⟨hheader, by decide, by decide, htrailer,
    unwrap_of_wrapper_iff hheader (by decide) (by decide) htrailer⟩

/-! ### Two bundles -/

/-- The scanner reads a text to its end, where no parenthesis is open. -/
def ParensClosed (text : List Char) : Prop :=
  ∃ braces s, Run {} 0 text [] braces s ∧ s.parens = []

/-- A mark behind which an expression may start, but no object, is like the start of a text. -/
theorem FollowedAlike.of_mark {c : Char} (hpreceding : s.preceding = .mark c)
    (hregex : c ≠ ']' ∧ c ≠ '/') (hobject : c ≠ '>' ∧ c ∉ operandChars) (harrow : c ≠ '=') :
    FollowedAlike s {} := by
  have hextend : ∀ (adjacent : Bool) (d : Char),
      (Preceding.mark c).extend adjacent d = Preceding.nothing.extend false d := by
    intro adjacent d
    unfold Preceding.extend
    split
    · cases adjacent <;> rfl
    · simp [harrow]
  refine ⟨?_, ?_, ?_, fun d ↦ ?_, fun d ↦ ?_⟩ <;> rw [hpreceding]
  · simp [Preceding.regexAllowed, hregex]
  · simp [Preceding.opensObject, hobject]
  · rfl
  · exact hextend _ d
  · exact hextend false d

/-- Behind a semicolon or a byte order mark, where nothing is open, everything is read as from the
start of a text. -/
theorem ReadsLike.initial_of_mark {c : Char} (hc : c = ';' ∨ c = byteOrderMark)
    (hparens : t.parens = []) (hbraces : t.braces = []) (houter : t.templates = []) :
    ReadsLike (t.afterChar c) {} := by
  have hmark : (t.afterChar c).preceding = .mark c := by
    rw [ScanState.afterChar, extend_of_mark (by rcases hc with rfl | rfl <;> decide)]
    exact if_neg fun harrow ↦ by rcases hc with rfl | rfl <;> exact absurd harrow.1 (by decide)
  refine ⟨.of_mark hmark ?_ ?_ ?_, fun n ↦ ?_, fun n ↦ ?_, ?_⟩
  · rcases hc with rfl | rfl <;> decide
  · rcases hc with rfl | rfl <;> decide
  · rcases hc with rfl | rfl <;> decide
  · rw [ScanState.afterChar, hparens]
  · rw [ScanState.afterChar, hbraces]
  · rw [ScanState.afterChar, houter]

theorem Verdict.staysOpen {trace : BraceTrace} {first last : Nat}
    (h : Verdict trace (.ok (first, last))) : StaysOpen 0 trace.braces ∧ depth trace.braces = 0 := by
  obtain ⟨inner, hbraces, hreturn, _⟩ := h.exists_inner
  obtain ⟨hopen, _, _⟩ := returnsAt_opening_cons_iff.mp hreturn
  rw [hbraces]
  refine ⟨fun part hpart ↦ ?_, hreturn.2⟩
  rcases List.prefix_concat_iff.mp (show part <+: (first, .opening) :: inner ++ _ from hpart) with
    rfl | hpart
  · exact Int.le_of_eq hreturn.2.symm
  · refine staysOpen_opening_cons.mpr (fun part hpart ↦ ?_) part hpart
    have hdepth := hopen part hpart
    push_cast
    omega

/-- At the end of a wrapper in which all parentheses are closed, nothing is open. -/
theorem exists_run_of_pair {first last : Nat} (hclosed : ParensClosed text)
    (hpair : Verdict (structuralBraces text) (.ok (first, last))) :
    ∃ s, Run {} 0 text [] (structuralBraces text).braces s ∧ s.parens = [] ∧ s.braces = [] ∧
      s.templates = [] := by
  obtain ⟨braces, s, hrun, hparens⟩ := hclosed
  have hscan := scanBraces_append_of_run hrun
  rw [List.append_nil, scanBraces_of_stop (show s.move _ [] = .stop _ from rfl), List.append_nil,
    shiftBraces_zero] at hscan
  obtain ⟨_, hend⟩ := hpair.exists_inner
  have houter : s.templates = [] := by
    have hfailure := hend.2.2
    rw [structuralBraces, hscan] at hfailure
    simpa using hfailure
  obtain ⟨hopen, hdepth⟩ := hpair.staysOpen
  rw [structuralBraces, hscan] at hopen hdepth ⊢
  exact ⟨s, hrun, hparens, hrun.braces_eq_nil hopen hdepth houter, houter⟩

/-- Behind a separator, where nothing is open, a text is read as from its start. A byte order mark
in front of it changes nothing. -/
theorem exists_run_separator (hparens : s.parens = []) (hbraces : s.braces = [])
    (houter : s.templates = []) (offset : Nat) (second : List Char) :
    ∃ mark t, second = mark ++ dropByteOrderMark second ∧
      Run s offset ('\n' :: ';' :: mark) (dropByteOrderMark second) [] t ∧ ReadsLike t {} := by
  have hspace : ∀ rest, Step s offset ['\n'] rest none s.afterSpace := fun rest ↦
    .space rest rfl
  have hsemicolon : ∀ rest, Run s offset ['\n', ';'] rest [] (s.afterSpace.afterChar ';') :=
    fun rest ↦ .step (hspace _) (.single (.char rest (by decide) rfl))
  by_cases hmark : second.head? = some byteOrderMark
  · obtain ⟨rest, rfl⟩ := List.head?_eq_some_iff.mp hmark
    refine ⟨[byteOrderMark], _, by simp [dropByteOrderMark], ?_,
      .initial_of_mark (t := s.afterSpace.afterChar ';') (.inr rfl) hparens hbraces houter⟩
    exact (hsemicolon _).append (.single (.char _ (by decide) (by decide)))
  · rw [dropByteOrderMark_of_head?_ne hmark]
    exact ⟨[], _, rfl, hsemicolon second,
      .initial_of_mark (t := s.afterSpace) (.inl rfl) hparens hbraces houter⟩

/-- Behind a wrapper in which all parentheses are closed, and a separator, the braces of a second
text are those that it has alone. -/
theorem braces_of_two_texts {first second : List Char} {opening closing : Nat}
    (hclosed : ParensClosed first)
    (hpair : Verdict (structuralBraces first) (.ok (opening, closing))) :
    (structuralBraces (first ++ '\n' :: ';' :: second)).braces =
      (structuralBraces first).braces ++
        shiftBraces (byteSize first + 2 + (byteSize second - byteSize (dropByteOrderMark second)))
          (structuralBraces (dropByteOrderMark second)).braces := by
  obtain ⟨s, hrun, hparens, hbraces, houter⟩ := exists_run_of_pair hclosed hpair
  obtain ⟨mark, t, hmark, hrun', ht⟩ :=
    exists_run_separator hparens hbraces houter (0 + byteSize first) second
  have htext : first ++ '\n' :: ';' :: second =
      first ++ ('\n' :: ';' :: mark) ++ dropByteOrderMark second := by
    nth_rewrite 1 [hmark]
    simp
  have hsize : byteSize first + 2 + (byteSize second - byteSize (dropByteOrderMark second)) =
      0 + byteSize (first ++ '\n' :: ';' :: mark) := by
    have hsecond := congrArg byteSize hmark
    rw [byteSize_append] at hsecond
    simp
    omega
  -- the first text is read in front of the separator as it is read alone
  have hlook : LookAllows [] ('\n' :: ';' :: mark ++ dropByteOrderMark second) := by
    constructor <;> simp [Char.isAlpha, Char.isUpper, Char.isLower]
  have hall := (hrun.of_lookAllows hlook).append hrun'
  obtain ⟨braces, failure, failure', hscan, hscan', _⟩ := exists_scanBraces_of_readsLike ht
    (0 + byteSize (first ++ '\n' :: ';' :: mark)) 0 (dropByteOrderMark second)
  have hsecond : (structuralBraces (dropByteOrderMark second)).braces = braces := by
    rw [structuralBraces, hscan', shiftBraces_zero]
  have htrace := scanBraces_append_of_run hall
  rw [← htext, hscan] at htrace
  rw [hsecond, hsize, structuralBraces, htrace, shiftBraces_zero, shiftBraces_nil, List.append_nil]

/-- Assumes: two bundles that are unwrapped, and all parentheses closed at the end of the first one.
One behind the other they are no bundle: the opening brace of the second body is reported, behind
the closing brace of the first one. -/
theorem unwrap_of_two_bundles {first second globalObject value value' : String}
    (hclosed : ParensClosed (dropByteOrderMark first.toList))
    (hfirst : (unwrap first globalObject).outcome = .ok value)
    (hsecond : (unwrap second globalObject).outcome = .ok value') :
    ∃ opening closing opening' closing',
      Verdict (structuralBraces (dropByteOrderMark first.toList)) (.ok (opening, closing)) ∧
      Verdict (structuralBraces (dropByteOrderMark second.toList)) (.ok (opening', closing')) ∧
      (unwrap (first ++ "\n;" ++ second) globalObject).outcome =
        .error (.malformedBundle (.braceAfterBody
          (byteSize (dropByteOrderMark first.toList) + 2 +
            (byteSize second.toList - byteSize (dropByteOrderMark second.toList)) + opening')
          closing)) := by
  obtain ⟨hglobal, _, hbody, _⟩ := outcome_unwrap_eq_ok_iff.mp hfirst
  obtain ⟨_, _, hbody', _⟩ := outcome_unwrap_eq_ok_iff.mp hsecond
  obtain ⟨_, _, _, hpair⟩ := exists_split_of_functionBody hbody
  obtain ⟨_, _, _, hpair'⟩ := exists_split_of_functionBody hbody'
  refine ⟨_, _, _, _, hpair, hpair', (outcome_unwrap_iff hglobal).mpr (.rejected ?_)⟩
  have htext : (first ++ "\n;" ++ second).toList =
      first.toList ++ '\n' :: ';' :: second.toList := by simp
  rw [htext, dropByteOrderMark_append_of_head?_ne (by simp [byteOrderMark])]
  obtain ⟨inner, hinner, hreturn, _⟩ := hpair.exists_inner
  obtain ⟨inner', hinner', _⟩ := hpair'.exists_inner
  have hbraces := @braces_of_two_texts _ second.toList _ _ hclosed hpair
  rw [hinner, hinner', shiftBraces_cons, List.cons_append, List.append_assoc] at hbraces
  exact .braceAfterBody hbraces hreturn

theorem unwrap_of_two_bundles_with_mark :
    ParensClosed (dropByteOrderMark "\x7ba\x7d".toList) ∧
      (unwrap "\x7ba\x7d" "window").outcome = .ok "var scope = window;a" ∧
      (unwrap "\uFEFF(function()\x7bb\x7d)()" "window").outcome = .ok "var scope = window;b" ∧
      ∃ opening closing opening' closing',
        Verdict (structuralBraces (dropByteOrderMark "\x7ba\x7d".toList))
          (.ok (opening, closing)) ∧
        Verdict (structuralBraces
          (dropByteOrderMark "\uFEFF(function()\x7bb\x7d)()".toList)) (.ok (opening', closing')) ∧
        (unwrap ("\x7ba\x7d" ++ "\n;" ++ "\uFEFF(function()\x7bb\x7d)()") "window").outcome =
          .error (.malformedBundle (.braceAfterBody
            (byteSize (dropByteOrderMark "\x7ba\x7d".toList) + 2 +
              (byteSize "\uFEFF(function()\x7bb\x7d)()".toList -
                byteSize (dropByteOrderMark "\uFEFF(function()\x7bb\x7d)()".toList)) + opening')
            closing)) := by
  have hclosed : ParensClosed (dropByteOrderMark "\x7ba\x7d".toList) := by
    have hrun : Run {} 0 (['\x7b'] ++ (['a'] ++ ['\x7d'])) [] _ _ :=
      .step (.openBrace _ rfl) (.step (.char _ (by decide) (by decide))
        (.single (.closeBrace _ rfl)))
    exact ⟨_, _, hrun, rfl⟩
  have hfirst : (unwrap "\x7ba\x7d" "window").outcome = .ok "var scope = window;a" := by
    decide +kernel
  have hsecond : (unwrap "\uFEFF(function()\x7bb\x7d)()" "window").outcome =
      .ok "var scope = window;b" := by decide +kernel
  exact ⟨hclosed, hfirst, hsecond, unwrap_of_two_bundles hclosed hfirst hsecond⟩

end BrowserScript.Wrapper
