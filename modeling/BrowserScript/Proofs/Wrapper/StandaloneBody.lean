import BrowserScript.Assembly
import BrowserScript.Proofs.Wrapper.NestedCode

/-!
The body of a wrapper stands on its own. Behind the declaration that is put in front of it the
scanner reads the body as it has read it inside of the wrapper, although it has forgotten what
stands in front of the body there: nothing in the body closes a brace of the wrapper, a closed
parenthesis of the wrapper is none of a control header, and `;` in front of a text leads to the same
decisions as an opening brace does (`InBody`, `Run.exists_of_inBody`). So an unwrapped bundle leaves
nothing open, and no text behind it becomes part of a literal, a comment or a group of the bundle
(`unwrap_selfTerminated`).
-/

set_option autoImplicit false
set_option relaxedAutoImplicit false

namespace BrowserScript.Wrapper

open Text

/-! ### Nesting -/

/-- The number of braces that are open in substitutions, those of the substitutions included. -/
def innerBraces (templates : List OpenTemplate) : Nat :=
  (templates.map fun t ↦ t.depth + 1).sum

@[simp] theorem innerBraces_nil : innerBraces [] = 0 := rfl

@[simp] theorem innerBraces_cons (t : OpenTemplate) (templates : List OpenTemplate) :
    innerBraces (t :: templates) = t.depth + 1 + innerBraces templates := rfl

/-- The scanner remembers one brace for each of `d` open groups, and one for each brace that is open
in a substitution. -/
def Nested (d : Nat) (s : ScanState) : Prop := s.braces.length = d + innerBraces s.templates

/-- The number of open groups behind a structural brace. -/
def groupsAfter (d : Nat) : Option Brace → Nat
  | none => d
  | some .opening => d + 1
  | some .closing => d - 1

variable {s t next : ScanState} {offset d : Nat} {read rest : List Char} {brace : Option Brace}
  {braces : List (Nat × Brace)} {outer : Bool}

theorem Step.nested (h : Step s offset read rest brace next) (hs : Nested d s)
    (hclose : brace = some .closing → 0 < d) : Nested (groupsAfter d brace) next := by
  unfold Nested at *
  cases h with
  | stringLiteral | template | lineComment | blockComment | regex | division | openParen
  | closeParen | space | char => exact hs
  | substitution =>
    simp only [ScanState.enterSubstitution, groupsAfter, List.length_cons, innerBraces_cons]
    omega
  | openBrace _ houter =>
    simp only [ScanState.openBrace, groupsAfter, List.length_cons]
    omega
  | openInner _ hinner =>
    rw [hinner] at hs
    simp only [ScanState.openBrace, groupsAfter, List.length_cons, innerBraces_cons] at hs ⊢
    omega
  | closeBrace _ houter =>
    have hd := hclose rfl
    simp only [ScanState.closeBrace, groupsAfter, List.length_tail]
    omega
  | closeInner _ hinner =>
    rw [hinner] at hs
    simp only [ScanState.closeBrace, groupsAfter, List.length_tail, innerBraces_cons] at hs ⊢
    omega
  | closeTemplate _ hinner =>
    rw [hinner] at hs
    simp only [ScanState.afterLiteral, ScanState.closeBrace, groupsAfter, List.length_tail,
      innerBraces_cons] at hs ⊢
    omega
  | nextSubstitution _ hinner =>
    rw [hinner] at hs
    simp only [ScanState.enterSubstitution, ScanState.closeBrace, groupsAfter, List.length_cons,
      List.length_tail, innerBraces_cons] at hs ⊢
    omega

/-- No brace of a step and what follows closes more groups than are open, so neither does the step,
nor what follows. -/
theorem StaysOpen.behind_step {n : Nat}
    (h : StaysOpen d (bracePassed brace ++ shiftBraces n braces)) :
    (brace = some .closing → 0 < d) ∧ StaysOpen (groupsAfter d brace) braces := by
  rcases brace with _ | _ | _
  · exact ⟨by simp, staysOpen_shiftBraces.mp h⟩
  · exact ⟨by simp, staysOpen_shiftBraces.mp (staysOpen_opening_cons.mp h)⟩
  · cases d with
    | zero => exact (not_staysOpen_closing_cons h).elim
    | succ d => exact ⟨fun _ ↦ d.succ_pos, staysOpen_shiftBraces.mp (staysOpen_closing_cons.mp h)⟩

theorem Run.nested (h : Run s offset read rest braces next) (hs : Nested d s)
    (hopen : StaysOpen d braces) : ∃ d', Nested d' next ∧ (d' : Int) = d + depth braces := by
  induction h generalizing d with
  | refl => exact ⟨d, hs, by simp [depth]⟩
  | @step _ _ _ _ _ _ _ brace _ hstep _ ih =>
    obtain ⟨hclose, hopen'⟩ := hopen.behind_step
    obtain ⟨d', hnext, hdepth⟩ := ih (hstep.nested hs hclose) hopen'
    refine ⟨d', hnext, ?_⟩
    rw [depth_append, depth_shiftBraces, hdepth]
    rcases brace with _ | _ | _
    · simp [bracePassed, groupsAfter, depth]
    · simp [bracePassed, groupsAfter, depth]
      omega
    · have hd := hclose rfl
      simp [bracePassed, groupsAfter, depth]
      omega

/-- Where all groups have been closed, outside of templates, the scanner remembers no brace. -/
theorem Run.braces_eq_nil (h : Run {} 0 read rest braces s) (hopen : StaysOpen 0 braces)
    (hdepth : depth braces = 0) (houter : s.templates = []) : s.braces = [] := by
  obtain ⟨d, hnested, hd⟩ := h.nested (show Nested 0 {} from rfl) hopen
  obtain rfl : d = 0 := by simpa [hdepth] using hd
  rwa [Nested, houter, innerBraces_nil, Nat.zero_add, List.length_eq_zero_iff] at hnested

/-! ### The same text in front of and behind less -/

/-- Two tokens behind which everything is read in the same way. -/
structure Preceding.ActsLike (p q : Preceding) : Prop where
  regexAllowed : p.regexAllowed = q.regexAllowed
  opensObject : p.opensObject = q.opensObject
  opensControlHeader : p.opensControlHeader = q.opensControlHeader
  extend : ∀ adjacent c, p.extend adjacent c = q.extend adjacent c

theorem Preceding.ActsLike.refl (p : Preceding) : p.ActsLike p := ⟨rfl, rfl, rfl, fun _ _ ↦ rfl⟩

/-- The body of a function starts like a statement. -/
theorem actsLike_openBrace_semicolon : (Preceding.mark '\x7b').ActsLike (.mark ';') where
  regexAllowed := rfl
  opensObject := rfl
  opensControlHeader := rfl
  extend adjacent c := by
    unfold Preceding.extend
    split
    · cases adjacent <;> rfl
    · simp

/-- The scanner is at a place of a body in state `s` inside of a wrapper, and in state `t` where the
body stands alone. The wrapper adds one brace below all others, and parentheses below all others
that start no control header. -/
structure InBody (outer : Bool) (s t : ScanState) : Prop where
  preceding : s.preceding.ActsLike t.preceding
  adjacent : s.adjacent = t.adjacent
  parens : ∀ n, s.parens.getD n false = t.parens.getD n false
  braces : s.braces = t.braces ++ [outer]
  depths : s.templates.map OpenTemplate.depth = t.templates.map OpenTemplate.depth

namespace InBody

theorem afterLiteral (h : InBody outer s t) : InBody outer s.afterLiteral t.afterLiteral :=
  ⟨.refl _, rfl, h.parens, h.braces, h.depths⟩

theorem afterSpace (h : InBody outer s t) : InBody outer s.afterSpace t.afterSpace :=
  ⟨h.preceding, rfl, h.parens, h.braces, h.depths⟩

theorem afterChar (h : InBody outer s t) (c : Char) :
    InBody outer (s.afterChar c) (t.afterChar c) := by
  refine ⟨?_, rfl, h.parens, h.braces, h.depths⟩
  rw [ScanState.afterChar, ScanState.afterChar, h.adjacent, h.preceding.extend]
  exact .refl _

theorem openParen (h : InBody outer s t) : InBody outer s.openParen t.openParen := by
  refine ⟨.refl _, rfl, fun n ↦ ?_, h.braces, h.depths⟩
  cases n with
  | zero => exact h.preceding.opensControlHeader
  | succ n => exact h.parens n

theorem closeParen (h : InBody outer s t) : InBody outer s.closeParen t.closeParen := by
  have htail : ∀ (parens : List Bool) (n : Nat),
      parens.tail.getD n false = parens.getD (n + 1) false := fun parens n ↦ by cases parens <;> rfl
  have hhead : ∀ parens : List Bool, parens.headD false = parens.getD 0 false := fun parens ↦ by
    cases parens <;> rfl
  refine ⟨?_, rfl, fun n ↦ ?_, h.braces, h.depths⟩
  · rw [ScanState.closeParen, ScanState.closeParen, hhead, hhead, h.parens]
    exact .refl _
  · exact (htail s.parens n).trans ((h.parens (n + 1)).trans (htail t.parens n).symm)

theorem openBrace (h : InBody outer s t) : InBody outer s.openBrace t.openBrace := by
  refine ⟨.refl _, rfl, h.parens, ?_, h.depths⟩
  rw [ScanState.openBrace, ScanState.openBrace, h.preceding.opensObject, h.braces]
  rfl

/-- A brace of the body closes one of the body. -/
theorem closeBrace (h : InBody outer s t) (hopen : t.braces ≠ []) :
    InBody outer s.closeBrace t.closeBrace := by
  obtain ⟨object, braces, hbraces⟩ := List.exists_cons_of_ne_nil hopen
  have hs := h.braces
  rw [hbraces] at hs
  refine ⟨?_, rfl, h.parens, ?_, h.depths⟩
  · rw [ScanState.closeBrace, ScanState.closeBrace, hs, hbraces]
    exact .refl _
  · rw [ScanState.closeBrace, ScanState.closeBrace, hs, hbraces]
    rfl

theorem enterSubstitution (h : InBody outer s t) (m n : Nat) :
    InBody outer (s.enterSubstitution m) (t.enterSubstitution n) :=
  ⟨.refl _, rfl, h.parens, congrArg (true :: ·) h.braces, congrArg (0 :: ·) h.depths⟩

theorem withTemplates (h : InBody outer s t) {inner inner' : List OpenTemplate}
    (hdepths : inner.map OpenTemplate.depth = inner'.map OpenTemplate.depth) :
    InBody outer { s with templates := inner } { t with templates := inner' } :=
  ⟨h.preceding, h.adjacent, h.parens, h.braces, hdepths⟩

end InBody

/-- A step in a body inside of a wrapper is one in the body alone. -/
theorem Step.exists_of_inBody (h : Step s offset read rest brace next) (hst : InBody outer s t)
    (ht : Nested d t) (hclose : brace = some .closing → 0 < d) (offset' : Nat) :
    ∃ next', Step t offset' read rest brace next' ∧ InBody outer next next' := by
  -- a closing brace has an opening one in the body, as a group or a substitution is open there
  have hinside : ∀ {template : OpenTemplate} {outer : List OpenTemplate},
      t.templates = template :: outer → t.braces ≠ [] := by
    rintro template outer htemplates hnil
    rw [Nested, htemplates, hnil, List.length_nil, innerBraces_cons] at ht
    omega
  cases h with
  | stringLiteral _ hquote htext => exact ⟨_, .stringLiteral _ hquote htext, hst.afterLiteral⟩
  | template _ htext => exact ⟨_, .template _ htext, hst.afterLiteral⟩
  | substitution _ htext => exact ⟨_, .substitution _ htext, hst.enterSubstitution _ _⟩
  | lineComment htext => exact ⟨_, .lineComment htext, hst.afterSpace⟩
  | blockComment _ htext => exact ⟨_, .blockComment _ htext, hst.afterSpace⟩
  | regex hallowed hslash hstar htext hflags =>
    rw [hst.preceding.regexAllowed] at hallowed
    exact ⟨_, .regex hallowed hslash hstar htext hflags, hst.afterLiteral⟩
  | division hallowed hslash hstar =>
    rw [hst.preceding.regexAllowed] at hallowed
    exact ⟨_, .division hallowed hslash hstar, hst.afterChar _⟩
  | openParen => exact ⟨_, .openParen _, hst.openParen⟩
  | closeParen => exact ⟨_, .closeParen _, hst.closeParen⟩
  | openBrace _ houter =>
    exact ⟨_, .openBrace _ (templates_eq_nil_of_depths hst.depths houter), hst.openBrace⟩
  | openInner _ hinner =>
    obtain ⟨start, outer', hinner', houter⟩ := exists_templates_of_depths hst.depths hinner
    exact ⟨_, .openInner _ hinner', hst.openBrace.withTemplates (congrArg (_ :: ·) houter)⟩
  | closeBrace _ houter =>
    have houter' := templates_eq_nil_of_depths hst.depths houter
    have hopen : t.braces ≠ [] := by
      rintro hnil
      have hd := hclose rfl
      rw [Nested, houter', hnil, List.length_nil, innerBraces_nil] at ht
      omega
    exact ⟨_, .closeBrace _ houter', hst.closeBrace hopen⟩
  | closeInner _ hinner =>
    obtain ⟨start, outer', hinner', houter⟩ := exists_templates_of_depths hst.depths hinner
    exact ⟨_, .closeInner _ hinner',
      (hst.closeBrace (hinside hinner')).withTemplates (congrArg (_ :: ·) houter)⟩
  | closeTemplate _ hinner htext =>
    obtain ⟨start, outer', hinner', houter⟩ := exists_templates_of_depths hst.depths hinner
    exact ⟨_, .closeTemplate _ hinner' htext,
      ((hst.closeBrace (hinside hinner')).withTemplates houter).afterLiteral⟩
  | nextSubstitution _ hinner htext =>
    obtain ⟨start, outer', hinner', houter⟩ := exists_templates_of_depths hst.depths hinner
    exact ⟨_, .nextSubstitution _ hinner' htext,
      ((hst.closeBrace (hinside hinner')).withTemplates houter).enterSubstitution _ _⟩
  | space _ hspace => exact ⟨_, .space _ hspace, hst.afterSpace⟩
  | char _ hc hspace => exact ⟨_, .char _ hc hspace, hst.afterChar _⟩

/-- A run through a body inside of a wrapper, which closes none of the wrapper's braces, is one
through the body alone. -/
theorem Run.exists_of_inBody (h : Run s offset read rest braces next) (hst : InBody outer s t)
    (ht : Nested d t) (hopen : StaysOpen d braces) (offset' : Nat) :
    ∃ next', Run t offset' read rest braces next' ∧ InBody outer next next' := by
  induction h generalizing t d offset' with
  | refl => exact ⟨t, .refl _ _ _, hst⟩
  | step hstep _ ih =>
    obtain ⟨hclose, hopen'⟩ := hopen.behind_step
    obtain ⟨middle', hstep', hmiddle⟩ := hstep.exists_of_inBody hst ht hclose offset'
    obtain ⟨next', hrun', hnext⟩ := ih hmiddle (hstep'.nested ht hclose) hopen' _
    exact ⟨next', .step hstep' hrun', hnext⟩

/-! ### Unwrapped bundles -/

/-- In front of the first structural brace of a text no parenthesis is open that belongs to the
header of a control statement. -/
def NoHeaderOpen (text : List Char) : Prop :=
  ∃ before rest s, text = before ++ '\x7b' :: rest ∧ Run {} 0 before ('\x7b' :: rest) [] s ∧
    s.templates = [] ∧ true ∉ s.parens

theorem noHeaderOpen_of_plain {before rest : List Char}
    (hplain : ∀ c ∈ before, c ∉ ['\'', '"', '`', '/', '\x7b', '\x7d'])
    (hparens : true ∉ openParens (before.map Element.char).reverse) :
    NoHeaderOpen (before ++ '\x7b' :: rest) := by
  obtain ⟨s, hrun, hs, _, htemplates⟩ := exists_run_of_plain .initial hplain 0 ('\x7b' :: rest)
  rw [List.append_nil] at hs
  exact ⟨before, rest, s, rfl, hrun, htemplates, hs.parens ▸ hparens⟩

/-- The scanner reads the text to its end, passes the braces, and is then outside of all literals,
comments and groups, also in front of a separator and any other text. -/
structure SelfTerminated (text : List Char) (braces : List (Nat × Brace)) : Prop where
  trace : structuralBraces text = ⟨braces, none⟩
  depth_eq_zero : depth braces = 0
  exists_run : ∃ last : ScanState, last.templates = [] ∧ last.braces = [] ∧
    Run {} 0 text [] braces last ∧
    ∀ later : String, Run {} 0 text (statementSeparator ++ later).toList braces last

theorem isWordChar_of_isIdentifier {name : String} (h : isIdentifier name) :
    ∀ c ∈ name.toList, isWordChar c := by
  rw [isIdentifier] at h
  cases hname : name.toList with
  | nil => simp
  | cons c rest =>
    rw [hname] at h
    simp only [Bool.and_eq_true, List.all_eq_true] at h
    exact List.forall_mem_cons.mpr ⟨by rw [isWordChar, h.1, Bool.true_or], h.2⟩

theorem isWordChar_not_delimiter {c : Char} (h : isWordChar c) :
    c ∉ ['\'', '"', '`', '/', '\x7b', '\x7d', '(', ')'] := by
  intro hc
  simp only [List.mem_cons, List.not_mem_nil, or_false] at hc
  rcases hc with rfl | rfl | rfl | rfl | rfl | rfl | rfl | rfl <;> exact absurd h (by decide)

/-- The scanner behind the declaration of the scope. -/
theorem exists_run_scopeDeclaration {globalObject : String} (hglobal : isIdentifier globalObject)
    (rest : List Char) :
    ∃ t : ScanState, Run {} 0 (scopeDeclaration globalObject).toList rest [] t ∧
      t.preceding = .mark ';' ∧ t.adjacent = true ∧ t.parens = [] ∧ t.braces = [] ∧
        t.templates = [] := by
  have htext : (scopeDeclaration globalObject).toList =
      ("var scope = ".toList ++ globalObject.toList) ++ [';'] := by
    rw [scopeDeclaration, String.toList_append, String.toList_append]
    rfl
  have hfront : ∀ c ∈ "var scope = ".toList,
      c ∉ ['\'', '"', '`', '/', '\x7b', '\x7d', '(', ')'] := by simp
  have hplain : ∀ c ∈ (scopeDeclaration globalObject).toList,
      c ∉ ['\'', '"', '`', '/', '\x7b', '\x7d', '(', ')'] := by
    rw [htext]
    intro c hc
    simp only [List.mem_append, List.mem_singleton] at hc
    rcases hc with (hc | hc) | rfl
    · exact hfront c hc
    · exact isWordChar_not_delimiter (isWordChar_of_isIdentifier hglobal c hc)
    · decide
  have hplain' : ∀ c ∈ (scopeDeclaration globalObject).toList,
      c ∉ ['\'', '"', '`', '/', '\x7b', '\x7d'] := fun c hc hmem ↦
    hplain c hc (List.mem_append_left ['(', ')'] hmem)
  have hparens : ∀ c ∈ (scopeDeclaration globalObject).toList, c ≠ '(' ∧ c ≠ ')' := fun c hc ↦ by
    constructor <;> (rintro rfl; exact hplain _ hc (by decide))
  obtain ⟨t, hrun, ht, hbraces, htemplates⟩ := exists_run_of_plain .initial hplain' 0 rest
  refine ⟨t, hrun, ?_, ?_, ?_, hbraces, htemplates⟩
  · rw [ht.preceding, htext, List.map_append, List.reverse_append]
    exact lastToken_of_mark rfl (by decide) rfl _
  · rw [ht.adjacent, htext, List.map_append, List.reverse_append]
    rfl
  · rw [ht.parens]
    exact openParens_chars hparens []

/-- Behind the opening brace of a wrapper the scanner is where it is behind the declaration of the
scope, as far as the body can tell. -/
theorem inBody_initial (hparens : true ∉ s.parens) (hbraces : s.braces = [])
    (houter : s.templates = []) (hpreceding : t.preceding = .mark ';')
    (hadjacent : t.adjacent = true) (hparens' : t.parens = []) (hbraces' : t.braces = [])
    (houter' : t.templates = []) :
    InBody s.preceding.opensObject s.openBrace t := by
  refine ⟨?_, hadjacent.symm, fun n ↦ ?_, ?_, ?_⟩
  · rw [hpreceding]
    exact actsLike_openBrace_semicolon
  · rw [hparens', List.getD_nil, List.getD_eq_getElem?_getD]
    cases hget : s.openBrace.parens[n]? with
    | none => rfl
    | some control =>
      cases control with
      | false => rfl
      | true => exact (hparens (List.mem_of_getElem? hget)).elim
  · rw [hbraces', ScanState.openBrace, hbraces]
    rfl
  · rw [houter', ScanState.openBrace, houter]

/-- The scanner's way through the body of a wrapper: from behind the opening brace, where it is in
the state that `s` leads to, up to the closing brace. -/
structure BodyRun (s next : ScanState) (before body after : List Char)
    (inner : List (Nat × Brace)) : Prop where
  front_templates : s.templates = []
  front_braces : s.braces = []
  front_parens : true ∉ s.parens
  run : Run s.openBrace (byteSize before + 1) body ('\x7d' :: after) inner next
  templates : next.templates = []
  staysOpen : StaysOpen 0 inner
  depth_eq_zero : depth inner = 0

theorem Step.templates_of_brace {passed : Brace} (h : Step s offset read rest (some passed) next) :
    s.templates = [] := by
  cases h with
  | openBrace _ houter => exact houter
  | closeBrace _ houter => exact houter

/-- Assumes: a first structural brace, which opens. Behind it the scanner goes on from its state
there. -/
theorem structuralBraces_of_firstBrace {before rest : List Char}
    (hrun : Run {} 0 before ('\x7b' :: rest) [] s) (houter : s.templates = []) :
    structuralBraces (before ++ '\x7b' :: rest) =
      ⟨(byteSize before, .opening) :: (scanBraces s.openBrace (byteSize before + 1) rest).braces,
        (scanBraces s.openBrace (byteSize before + 1) rest).failure⟩ := by
  have hbrace : Run s (byteSize before) ['\x7b'] rest [(0, .opening)] s.openBrace :=
    .single (.openBrace rest houter)
  rw [structuralBraces, scanBraces_append_of_run hrun, Nat.zero_add]
  exact scanBraces_append_of_run hbrace

/-- Assumes: the outermost pair of a text, with no header open in front of it. The scanner goes
through the text between the pair. -/
theorem exists_bodyRun {text : List Char} {first last : Nat} (hheader : NoHeaderOpen text)
    (hpair : Verdict (structuralBraces text) (.ok (first, last))) :
    ∃ before body after inner s next, text = before ++ '\x7b' :: (body ++ '\x7d' :: after) ∧
      last = byteSize before + 1 + byteSize body ∧
      (structuralBraces text).braces = (byteSize before, .opening) ::
        (shiftBraces (byteSize before + 1) inner ++
          [(byteSize before + 1 + byteSize body, .closing)]) ∧
      first = byteSize before ∧ BodyRun s next before body after inner := by
  obtain ⟨before, rest, s, rfl, hrun, houter, hparens⟩ := hheader
  have hbraces : s.braces = [] := hrun.braces_eq_nil (staysOpen_nil 0) rfl houter
  obtain ⟨read, rest, braces, next, failure, rfl, hbody, hstop, htrace⟩ :=
    exists_run_scanBraces s.openBrace (byteSize before + 1) rest
  rw [structuralBraces_of_firstBrace hrun houter, htrace] at hpair ⊢
  obtain ⟨between, hall, hreturn, hend⟩ := hpair.exists_inner
  obtain rfl : failure = none := hend
  obtain ⟨rfl, _⟩ := move_eq_stop_none_iff.mp hstop
  obtain ⟨hfirst, hinner⟩ := List.cons.inj hall
  obtain ⟨front, back, rfl, rfl, hback⟩ := List.map_eq_append_iff.mp hinner
  obtain ⟨⟨place, passed⟩, tail, rfl, hlast, htail⟩ := List.map_eq_cons_iff.mp hback
  obtain rfl : tail = [] := List.map_eq_nil_iff.mp htail
  obtain ⟨rfl, rfl⟩ := Prod.mk.inj hlast
  obtain ⟨hopen, hdepth, _⟩ := returnsAt_opening_cons_iff.mp hreturn
  obtain ⟨body, after, middle, middle', inner, rfl, rfl, _, hsplit⟩ :=
    hbody.exists_braceSplit rfl
  refine ⟨before, body, after, front, s, middle, by simp [Brace.char], rfl, ?_,
    (congrArg Prod.fst hfirst).symm, ⟨houter, hbraces, hparens, ?_,
      hsplit.pass.templates_of_brace, staysOpen_shiftBraces.mp hopen, ?_⟩⟩
  · rw [shiftBraces_append]
    rfl
  · simpa [Brace.char] using hsplit.front
  · rwa [← depth_shiftBraces (byteSize before + 1)]

/-- Assumes: an identifier for the global object. Behind the declaration of the scope the body of a
wrapper is read as inside of the wrapper. -/
theorem BodyRun.selfTerminated {before body after : List Char} {inner : List (Nat × Brace)}
    (h : BodyRun s next before body after inner) {globalObject : String}
    (hglobal : isIdentifier globalObject) :
    SelfTerminated ((scopeDeclaration globalObject).toList ++ body)
      (shiftBraces (byteSize (scopeDeclaration globalObject).toList) inner) := by
  -- what stands behind the body does not matter, as long as it adds nothing to the last token
  have hrun : ∃ last : ScanState, last.templates = [] ∧ last.braces = [] ∧
      ∀ rest, Detached rest → Run {} 0 ((scopeDeclaration globalObject).toList ++ body) rest
        (shiftBraces (byteSize (scopeDeclaration globalObject).toList) inner) last := by
    obtain ⟨t, hdeclaration, hpreceding, hadjacent, hparens, hbraces, htemplates⟩ :=
      exists_run_scopeDeclaration hglobal (body ++ '\x7d' :: after)
    have hinitial := inBody_initial h.front_parens h.front_braces h.front_templates hpreceding
      hadjacent hparens hbraces htemplates
    have hnested : Nested 0 t := by rw [Nested, hbraces, htemplates]; rfl
    obtain ⟨last, hbody, hlast⟩ := h.run.exists_of_inBody hinitial hnested h.staysOpen
      (0 + byteSize (scopeDeclaration globalObject).toList)
    have hall := hdeclaration.append hbody
    have houter := templates_eq_nil_of_depths hlast.depths h.templates
    exact ⟨last, houter, hall.braces_eq_nil (staysOpen_shiftBraces.mpr h.staysOpen)
      ((depth_shiftBraces _ inner).trans h.depth_eq_zero) houter, fun rest hrest ↦
        hall.of_lookAllows (hrest.lookAllows (by decide) after)⟩
  obtain ⟨last, htemplates, hbraces, hrun⟩ := hrun
  have hend := hrun [] detached_nil
  refine ⟨?_, (depth_shiftBraces _ inner).trans h.depth_eq_zero, last, htemplates, hbraces, hend,
    ?_⟩
  · have hscan := scanBraces_append_of_run hend
    rw [scanBraces_of_stop (move_eq_stop_none_iff.mpr ⟨rfl, htemplates⟩)] at hscan
    simpa [structuralBraces] using hscan
  · intro later
    rw [String.toList_append]
    exact hrun _ (detached_semicolon later.toList)

/-- Two splits of a text at the same place. -/
theorem append_inj_of_byteSize_eq {first second first' second' : List Char}
    (h : first ++ second = first' ++ second') (hsize : byteSize first = byteSize first') :
    first = first' ∧ second = second' := by
  have htake := takeBytes_byteSize_append first second
  have hdrop := dropBytes_byteSize_append first second
  rw [h, hsize, takeBytes_byteSize_append] at htake
  rw [h, hsize, dropBytes_byteSize_append] at hdrop
  exact ⟨htake.symm, hdrop.symm⟩

/-- Assumes: a bundle that is unwrapped, with no header of a control statement open in front of its
body. The result holds the structural braces of the body, up to their place, and leaves nothing
open, also in front of a separator and any other text. -/
theorem unwrap_selfTerminated {bundle globalObject value : String}
    (hheader : NoHeaderOpen (dropByteOrderMark bundle.toList))
    (hvalue : (unwrap bundle globalObject).outcome = .ok value) :
    ∃ before body after inner,
      dropByteOrderMark bundle.toList = before ++ '\x7b' :: (body ++ '\x7d' :: after) ∧
      value = scopeDeclaration globalObject ++ String.ofList body ∧
      (structuralBraces (dropByteOrderMark bundle.toList)).braces = (byteSize before, .opening) ::
        (shiftBraces (byteSize before + 1) inner ++
          [(byteSize before + 1 + byteSize body, .closing)]) ∧
      SelfTerminated value.toList
        (shiftBraces (byteSize (scopeDeclaration globalObject).toList) inner) := by
  obtain ⟨hglobal, body, hbody, rfl⟩ := outcome_unwrap_eq_ok_iff.mp hvalue
  generalize dropByteOrderMark bundle.toList = text at *
  obtain ⟨before, after, rfl, hpair⟩ := exists_split_of_functionBody hbody
  obtain ⟨before', body', after', inner, s, next, htext, hlast, hbraces, hfirst, hrun⟩ :=
    exists_bodyRun hheader hpair
  -- the two splits of the text are one, as the pair is in the same place
  obtain ⟨rfl, htail⟩ := append_inj_of_byteSize_eq htext hfirst
  obtain ⟨rfl, _⟩ := append_inj_of_byteSize_eq (List.cons.inj htail).2 (by omega)
  refine ⟨before, body, after, inner, rfl, rfl, hbraces, ?_⟩
  rw [String.toList_append, String.toList_ofList]
  exact hrun.selfTerminated hglobal

theorem unwrap_selfTerminated_regex_behind_header :
    NoHeaderOpen (dropByteOrderMark "(function()\x7bif(a)/\x7b/.test(b)\x7d)()".toList) ∧
      (unwrap "(function()\x7bif(a)/\x7b/.test(b)\x7d)()" "window").outcome =
        .ok "var scope = window;if(a)/\x7b/.test(b)" ∧
      ∃ before body after inner,
        dropByteOrderMark "(function()\x7bif(a)/\x7b/.test(b)\x7d)()".toList =
          before ++ '\x7b' :: (body ++ '\x7d' :: after) ∧
        "var scope = window;if(a)/\x7b/.test(b)" =
          scopeDeclaration "window" ++ String.ofList body ∧
        (structuralBraces (dropByteOrderMark
            "(function()\x7bif(a)/\x7b/.test(b)\x7d)()".toList)).braces =
          (byteSize before, .opening) ::
            (shiftBraces (byteSize before + 1) inner ++
              [(byteSize before + 1 + byteSize body, .closing)]) ∧
        SelfTerminated "var scope = window;if(a)/\x7b/.test(b)".toList
          (shiftBraces (byteSize (scopeDeclaration "window").toList) inner) := by
  have hheader : NoHeaderOpen
      (dropByteOrderMark "(function()\x7bif(a)/\x7b/.test(b)\x7d)()".toList) :=
    @noHeaderOpen_of_plain "(function()".toList "if(a)/\x7b/.test(b)\x7d)()".toList (by simp)
      (by decide)
  have hvalue : (unwrap "(function()\x7bif(a)/\x7b/.test(b)\x7d)()" "window").outcome =
      .ok "var scope = window;if(a)/\x7b/.test(b)" := by decide +kernel
  exact ⟨hheader, hvalue, unwrap_selfTerminated hheader hvalue⟩

end BrowserScript.Wrapper
