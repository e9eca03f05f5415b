import BrowserScript.Proofs.Wrapper.CodeHistory
import BrowserScript.Proofs.Wrapper.WrapperShape

/-!
The scanner reads nested code to its end. `Code` generates the texts of a grammar of plain
characters, strings, templates with code in their substitutions, comments, groups in braces, regular
expressions and divisions, each slash read as the whole history in front of it demands.
`Code.exists_run` follows the scanner through any such text: nothing is left open, and the
structural braces are those of the groups outside of templates. A bundle that is a group of code
between code without groups is therefore unwrapped to the text inside the group
(`unwrap_of_code`).
-/

set_option autoImplicit false
set_option relaxedAutoImplicit false

namespace BrowserScript.Wrapper

open Text

mutual

/-- Code behind the first history: its text, the braces of its groups with their offsets, and the
history behind it. The braces inside of templates are not listed, but what stands there is part of
the history, since parentheses are matched over the whole text. -/
inductive Code : List Element → List Char → List (Nat × Brace) → List Element → Prop
  | nil (history : List Element) : Code history [] [] history
  | plain {history after : List Element} {c : Char} {rest : List Char}
    {braces : List (Nat × Brace)} (hplain : c ∉ ['\'', '"', '`', '/', '\x7b', '\x7d'])
    (hrest : Code (.char c :: history) rest braces after) :
    Code history (c :: rest) (shiftBraces c.utf8Size braces) after
  | string {history after : List Element} {quote : Char} {text rest : List Char}
    {braces : List (Nat × Brace)} (hquote : quote = '\'' ∨ quote = '"')
    (htext : StringRest quote text) (hrest : Code (.literal :: history) rest braces after) :
    Code history (quote :: text ++ rest) (shiftBraces (byteSize (quote :: text)) braces) after
  | template {history inner after : List Element} {text rest : List Char}
    {braces : List (Nat × Brace)} (htext : TemplateRest history text inner)
    (hrest : Code (.literal :: inner) rest braces after) :
    Code history ('`' :: text ++ rest) (shiftBraces (byteSize ('`' :: text)) braces) after
  | lineComment {history after : List Element} {line rest : List Char}
    {braces : List (Nat × Brace)} (hline : '\n' ∉ line)
    (hrest : Code (.comment :: history) ('\n' :: rest) braces after) :
    Code history ('/' :: '/' :: line ++ '\n' :: rest)
      (shiftBraces (byteSize ('/' :: '/' :: line)) braces) after
  | blockComment {history after : List Element} {text rest : List Char}
    {braces : List (Nat × Brace)} (htext : BlockCommentRest text)
    (hrest : Code (.comment :: history) rest braces after) :
    Code history ('/' :: '*' :: text ++ rest)
      (shiftBraces (byteSize ('/' :: '*' :: text)) braces) after
  | group {history closed after : List Element} {inside rest : List Char}
    {inner later : List (Nat × Brace)} (hinside : Code (.openBrace :: history) inside inner closed)
    (hrest : Code (.closeBrace (opensObject history) :: closed) rest later after) :
    Code history ('\x7b' :: (inside ++ '\x7d' :: rest))
      ((0, .opening) :: (shiftBraces 1 inner ++
        (1 + byteSize inside, .closing) :: shiftBraces (1 + byteSize inside + 1) later)) after
  | regex {history after : List Element} {text flags rest : List Char}
    {braces : List (Nat × Brace)} (hstart : regexMayStart history)
    (hslash : text.head? ≠ some '/') (hstar : text.head? ≠ some '*')
    (htext : RegexRest false text) (hflags : FlagsBefore flags rest)
    (hrest : Code (.literal :: history) rest braces after) :
    Code history ('/' :: (text ++ flags) ++ rest)
      (shiftBraces (byteSize ('/' :: (text ++ flags))) braces) after
  | division {history after : List Element} {rest : List Char} {braces : List (Nat × Brace)}
    (hstart : regexMayStart history = false) (hslash : rest.head? ≠ some '/')
    (hstar : rest.head? ≠ some '*') (hrest : Code (.char '/' :: history) rest braces after) :
    Code history ('/' :: rest) (shiftBraces 1 braces) after

/-- A template behind its opening backtick, or behind one of its substitutions. -/
inductive TemplateRest : List Element → List Char → List Element → Prop
  | close {text : List Char} (history : List Element) (htext : TemplateStretch text) :
    TemplateRest history (text ++ ['`']) history
  | substitution {history inner after : List Element} {text inside rest : List Char}
    {braces : List (Nat × Brace)} (htext : TemplateStretch text)
    (hinside : Code (.substitution :: history) inside braces inner)
    (hrest : TemplateRest inner rest after) :
    TemplateRest history (text ++ '$' :: '\x7b' :: (inside ++ '\x7d' :: rest)) after

end

/-! ### What may stand behind code -/

/-- A text that adds nothing to the last element of the code in front of it. -/
def Detached (rest : List Char) : Prop :=
  ∀ c, rest.head? = some c → ¬c.isAlpha ∧ c ≠ '/' ∧ c ≠ '*'

theorem detached_nil : Detached [] := fun _ hc ↦ by cases hc

theorem detached_openBrace (rest : List Char) : Detached ('\x7b' :: rest) := fun c hc ↦ by
  cases hc
  decide

theorem detached_closeBrace (rest : List Char) : Detached ('\x7d' :: rest) := fun c hc ↦ by
  cases hc
  decide

theorem detached_semicolon (rest : List Char) : Detached (';' :: rest) := fun c hc ↦ by
  cases hc
  decide

/-- A detached text may stand behind whatever is read in front of a character, unless that character
ends a line. -/
theorem Detached.lookAllows {rest : List Char} (h : Detached rest) {c : Char} (hc : c ≠ '\n')
    (text : List Char) : LookAllows (c :: text) rest where
  slash hslash := ((h _ hslash).2.1 rfl).elim
  star hstar := ((h _ hstar).2.2 rfl).elim
  lineEnd hend := by simp [hc] at hend
  letter _ c hhead := (h c hhead).1

theorem FlagsBefore.append {flags rest tail : List Char} (h : FlagsBefore flags rest)
    (htail : Detached tail) : FlagsBefore flags (rest ++ tail) := by
  refine ⟨h.1, fun c hc ↦ ?_⟩
  cases rest with
  | nil => exact (htail c hc).1
  | cons d rest => exact h.2 c hc

theorem Detached.head?_append_ne {rest tail : List Char} {c : Char} (htail : Detached tail)
    (hc : c = '/' ∨ c = '*') (hrest : rest.head? ≠ some c) : (rest ++ tail).head? ≠ some c := by
  cases rest with
  | nil =>
    intro hhead
    obtain ⟨_, hslash, hstar⟩ := htail c hhead
    rcases hc with rfl | rfl
    · exact hslash rfl
    · exact hstar rfl
  | cons d rest => exact hrest

/-! ### Runs through code -/

variable {s : ScanState} {history after : List Element} {offset : Nat}

/-- The scanner is where it was with respect to groups and templates. -/
def ScanState.SameNesting (s next : ScanState) : Prop :=
  next.braces = s.braces ∧ next.templates = s.templates

/-- Inside of templates braces are not structural. -/
def shownBraces (s : ScanState) (braces : List (Nat × Brace)) : List (Nat × Brace) :=
  if s.templates = [] then braces else []

@[simp] theorem shownBraces_nil (s : ScanState) : shownBraces s [] = [] := ite_self []

theorem shownBraces_of_eq_nil (h : s.templates = []) (braces : List (Nat × Brace)) :
    shownBraces s braces = braces :=
  if_pos h

theorem shownBraces_of_eq_cons {t : OpenTemplate} {outer : List OpenTemplate}
    (h : s.templates = t :: outer) (braces : List (Nat × Brace)) : shownBraces s braces = [] :=
  if_neg (by simp [h])

theorem shownBraces_shift (s : ScanState) (n : Nat) (braces : List (Nat × Brace)) :
    shownBraces s (shiftBraces n braces) = shiftBraces n (shownBraces s braces) := by
  rw [shownBraces, shownBraces]
  split <;> rfl

theorem shownBraces_append (s : ScanState) (first second : List (Nat × Brace)) :
    shownBraces s (first ++ second) = shownBraces s first ++ shownBraces s second := by
  unfold shownBraces
  split <;> rfl

theorem ScanState.SameNesting.shownBraces {next : ScanState} (h : s.SameNesting next)
    (braces : List (Nat × Brace)) : Wrapper.shownBraces next braces = shownBraces s braces := by
  rw [Wrapper.shownBraces, h.2, Wrapper.shownBraces]

theorem ScanState.SameNesting.trans {middle next : ScanState} (h : s.SameNesting middle)
    (h' : middle.SameNesting next) : s.SameNesting next :=
  ⟨h'.1.trans h.1, h'.2.trans h.2⟩

/-- A plain character is read in one step. -/
theorem exists_step_of_plain (h : Tracks s history) {c : Char}
    (hplain : c ∉ ['\'', '"', '`', '/', '\x7b', '\x7d']) (offset : Nat) (rest : List Char) :
    ∃ next, Step s offset [c] rest none next ∧ Tracks next (.char c :: history) ∧
      s.SameNesting next := by
  simp only [List.mem_cons, List.not_mem_nil, or_false, not_or] at hplain
  by_cases hopen : c = '('
  · subst hopen
    exact ⟨_, .openParen rest, h.openParen, rfl, rfl⟩
  · by_cases hclose : c = ')'
    · subst hclose
      exact ⟨_, .closeParen rest, h.closeParen, rfl, rfl⟩
    · cases hspace : isSpace c with
      | true => exact ⟨_, .space rest hspace, h.afterSpace hspace, rfl, rfl⟩
      | false =>
        exact ⟨_, .char rest (by simp [hplain, hopen, hclose]) hspace,
          h.afterChar hspace hopen hclose, rfl, rfl⟩

/-- Text without delimiters is read one character after another. -/
theorem exists_run_of_plain (h : Tracks s history) {text : List Char}
    (hplain : ∀ c ∈ text, c ∉ ['\'', '"', '`', '/', '\x7b', '\x7d']) (offset : Nat)
    (rest : List Char) :
    ∃ next, Run s offset text rest [] next ∧
      Tracks next ((text.map Element.char).reverse ++ history) ∧ s.SameNesting next := by
  induction text generalizing s history offset with
  | nil => exact ⟨s, .refl s offset rest, h, rfl, rfl⟩
  | cons c text ih =>
    obtain ⟨hc, htext⟩ := List.forall_mem_cons.mp hplain
    obtain ⟨middle, hstep, hmiddle, hnesting⟩ := exists_step_of_plain h hc offset (text ++ rest)
    obtain ⟨next, hrun, hnext, hnesting'⟩ := ih hmiddle htext (offset + byteSize [c])
    exact ⟨next, .step hstep hrun, by simpa using hnext, hnesting.trans hnesting'⟩

/-- A text has been read through, from a state that tracks the first history to one that tracks
the second one. -/
def Passes (s : ScanState) (offset : Nat) (text rest : List Char) (braces : List (Nat × Brace))
    (after : List Element) : Prop :=
  ∃ next, Run s offset text rest (shownBraces s braces) next ∧ Tracks next after ∧
    s.SameNesting next

/-- A step that passes no structural brace, in front of code that is read through. -/
theorem Passes.of_step {middle : ScanState} {read more rest : List Char}
    {braces : List (Nat × Brace)} (hstep : Step s offset read (more ++ rest) none middle)
    (hnesting : s.SameNesting middle)
    (hmore : Passes middle (offset + byteSize read) more rest braces after) :
    Passes s offset (read ++ more) rest (shiftBraces (byteSize read) braces) after := by
  obtain ⟨next, hrun, htracks, hnesting'⟩ := hmore
  refine ⟨next, ?_, htracks, hnesting.trans hnesting'⟩
  rw [shownBraces_shift, ← hnesting.shownBraces]
  exact .step hstep hrun

theorem Passes.append {between : List Element} {read more rest : List Char}
    {braces later : List (Nat × Brace)} (hread : Passes s offset read (more ++ rest) braces between)
    (hmore : ∀ middle, Tracks middle between →
      Passes middle (offset + byteSize read) more rest later after) :
    Passes s offset (read ++ more) rest (braces ++ shiftBraces (byteSize read) later) after := by
  obtain ⟨middle, hrun, htracks, hnesting⟩ := hread
  obtain ⟨next, hrun', htracks', hnesting'⟩ := hmore middle htracks
  refine ⟨next, ?_, htracks', hnesting.trans hnesting'⟩
  rw [hnesting.shownBraces] at hrun'
  have hall := hrun.append hrun'
  rwa [← shownBraces_shift, ← shownBraces_append] at hall

/-- Assumes: the inside of a group is read through. So is the group. -/
theorem passes_group (htracks : Tracks s history) {inside rest : List Char}
    {inner : List (Nat × Brace)} {closed : List Element}
    (hinside : ∀ s', Tracks s' (.openBrace :: history) →
      Passes s' (offset + 1) inside ('\x7d' :: rest) inner closed) :
    Passes s offset ('\x7b' :: (inside ++ ['\x7d'])) rest
      ((0, .opening) :: (shiftBraces 1 inner ++ [(1 + byteSize inside, .closing)]))
      (.closeBrace (opensObject history) :: closed) := by
  have hobject := htracks.opensObject
  cases houter : s.templates with
  | nil =>
    obtain ⟨m, hrun, hm, hbraces, htemplates⟩ := hinside s.openBrace htracks.openBrace
    rw [shownBraces_of_eq_nil (show s.openBrace.templates = [] from houter)] at hrun
    have houter' : m.templates = [] := htemplates.trans houter
    have hall := Run.step (.openBrace _ houter) (hrun.append (.single (.closeBrace rest houter')))
    refine ⟨m.closeBrace, ?_, hm.closeBrace ?_, ?_, htemplates⟩
    · rw [shownBraces_of_eq_nil houter]
      simpa [bracePassed] using hall
    · rw [hbraces]
      exact hobject
    · exact congrArg List.tail hbraces
  | cons t outer =>
    let inSubstitution : ScanState :=
      { s.openBrace with templates := ⟨t.start, t.depth + 1⟩ :: outer }
    obtain ⟨m, hrun, hm, hbraces, htemplates⟩ :=
      hinside inSubstitution (htracks.openBrace.withTemplates _)
    rw [shownBraces_of_eq_cons (show inSubstitution.templates = _ from rfl)] at hrun
    have hall := Run.step (.openInner _ houter)
      (hrun.append (.single (.closeInner rest htemplates)))
    refine ⟨{ m.closeBrace with templates := ⟨t.start, t.depth⟩ :: outer }, ?_,
      (hm.closeBrace ?_).withTemplates _, ?_, houter.symm⟩
    · rw [shownBraces_of_eq_cons houter]
      simpa [bracePassed] using hall
    · rw [hbraces]
      exact hobject
    · exact congrArg List.tail hbraces

/-- The scanner stands in front of a character behind which the text of a template that starts at
`start` follows, and it goes on from `s` behind that text. -/
structure EntersTemplate (s' : ScanState) (offset : Nat) (lead : Char) (start : Nat)
    (s : ScanState) : Prop where
  close : ∀ {text : List Char} (rest : List Char), TemplateStretch text →
    Step s' offset (lead :: (text ++ ['`'])) rest none s.afterLiteral
  substitution : ∀ {text : List Char} (rest : List Char), TemplateStretch text →
    Step s' offset (lead :: (text ++ ['$', '\x7b'])) rest none (s.enterSubstitution start)

theorem entersTemplate_backtick (s : ScanState) (offset : Nat) :
    EntersTemplate s offset '`' offset s :=
  ⟨fun rest htext ↦ .template rest htext, fun rest htext ↦ .substitution rest htext⟩

theorem entersTemplate_closeBrace {start : Nat} {outer : List OpenTemplate}
    (hinner : s.templates = ⟨start, 0⟩ :: outer) (offset : Nat) :
    EntersTemplate s offset '\x7d' start { s.closeBrace with templates := outer } :=
  ⟨fun rest htext ↦ .closeTemplate rest hinner htext,
    fun rest htext ↦ .nextSubstitution rest hinner htext⟩

mutual

/-- Code is read through, whatever detached text stands behind it. -/
theorem Code.passes {history after : List Element} {text : List Char}
    {braces : List (Nat × Brace)} (h : Code history text braces after) {s : ScanState}
    (htracks : Tracks s history) (offset : Nat) {rest : List Char} (hrest : Detached rest) :
    Passes s offset text rest braces after := by
  match h with
  | .nil _ => exact ⟨s, by rw [shownBraces_nil]; exact .refl s offset rest, htracks, rfl, rfl⟩
  | .plain hplain hmore =>
    obtain ⟨next, hstep, hnext, hnesting⟩ := exists_step_of_plain htracks hplain offset _
    exact .of_step hstep hnesting (hmore.passes hnext _ hrest)
  | .string hquote htext hmore =>
    exact .of_step (.stringLiteral _ hquote htext) ⟨rfl, rfl⟩
      (hmore.passes (.afterLiteral htracks.parens) _ hrest)
  | @Code.template _ inner _ text more _ htext hmore =>
    have hread : Passes s offset ('`' :: text) (more ++ rest) [] (.literal :: inner) := by
      rw [Passes, shownBraces_nil]
      exact htext.passes (entersTemplate_backtick s offset) htracks.parens (more ++ rest)
    exact hread.append fun m hm ↦ hmore.passes hm _ hrest
  | .lineComment hline hmore =>
    exact .of_step (.lineComment ⟨by simpa using hline, .inr rfl⟩) ⟨rfl, rfl⟩
      (hmore.passes htracks.afterComment _ hrest)
  | .blockComment htext hmore =>
    exact .of_step (.blockComment _ htext) ⟨rfl, rfl⟩ (hmore.passes htracks.afterComment _ hrest)
  | @Code.group _ _ _ inside more _ _ hinside hmore =>
    have hread := passes_group htracks fun m hm ↦
      hinside.passes hm (offset + 1) (detached_closeBrace (more ++ rest))
    have hall := hread.append fun m hm ↦ hmore.passes hm _ hrest
    simpa [shiftBraces_add, Nat.add_assoc] using hall
  | .regex hstart hslash hstar htext hflags hmore =>
    have hallowed := htracks.regexAllowed.trans hstart
    exact .of_step (.regex hallowed hslash hstar htext (hflags.append hrest)) ⟨rfl, rfl⟩
      (hmore.passes (.afterLiteral htracks.parens) _ hrest)
  | .division hstart hslash hstar hmore =>
    have hallowed := htracks.regexAllowed.trans hstart
    exact .of_step (.division hallowed (hrest.head?_append_ne (.inl rfl) hslash)
      (hrest.head?_append_ne (.inr rfl) hstar)) ⟨rfl, rfl⟩
      (hmore.passes (htracks.afterChar (by decide) (by decide) (by decide)) _ hrest)

/-- The rest of a template is read through, together with the character in front of it. -/
theorem TemplateRest.passes {history inner : List Element} {text : List Char}
    (h : TemplateRest history text inner) {s' s : ScanState} {offset start : Nat} {lead : Char}
    (henter : EntersTemplate s' offset lead start s) (hparens : s.parens = openParens history)
    (rest : List Char) : ∃ next, Run s' offset (lead :: text) rest [] next ∧
      Tracks next (.literal :: inner) ∧ s.SameNesting next := by
  match h with
  | .close _ htext =>
    exact ⟨_, .single (henter.close rest htext), .afterLiteral hparens, rfl, rfl⟩
  | @TemplateRest.substitution _ _ _ text inside tail _ htext hinside htail =>
    have hstep := henter.substitution (inside ++ '\x7d' :: tail ++ rest) htext
    obtain ⟨m, hrun, hm, hbraces, htemplates⟩ :=
      hinside.passes (.enterSubstitution hparens start)
        (offset + byteSize (lead :: (text ++ ['$', '\x7b']))) (detached_closeBrace (tail ++ rest))
    rw [shownBraces_of_eq_cons (show (s.enterSubstitution start).templates = _ from rfl)] at hrun
    obtain ⟨next, hrun', hnext, hbraces', htemplates'⟩ :=
      htail.passes (entersTemplate_closeBrace htemplates _) hm.parens rest
    have hall := Run.step hstep (hrun.append hrun')
    refine ⟨next, by simpa [bracePassed] using hall, hnext, ?_, htemplates'⟩
    exact hbraces'.trans (congrArg List.tail hbraces)

end

/-! ### The braces of code -/

/-- Every closing brace closes an opening one, and none is left open. -/
structure Balanced (braces : List (Nat × Brace)) : Prop where
  depth_eq_zero : depth braces = 0
  staysOpen : StaysOpen 0 braces

theorem depth_shiftBraces (n : Nat) (braces : List (Nat × Brace)) :
    depth (shiftBraces n braces) = depth braces := by
  induction braces with
  | nil => rfl
  | cons b braces ih =>
    obtain ⟨place, passed⟩ := b
    cases passed <;> simp only [shiftBraces_cons, depth, ih]

theorem staysOpen_shiftBraces {d n : Nat} {braces : List (Nat × Brace)} :
    StaysOpen d (shiftBraces n braces) ↔ StaysOpen d braces := by
  constructor
  · intro h part hpart
    have hdepth := h (shiftBraces n part) (hpart.map _)
    rwa [depth_shiftBraces] at hdepth
  · intro h part hpart
    obtain ⟨part', hpart', rfl⟩ := List.prefix_map_iff.mp hpart
    have hdepth := h part' hpart'
    rwa [← depth_shiftBraces n part'] at hdepth

theorem staysOpen_append {d : Nat} {first second : List (Nat × Brace)}
    (hfirst : StaysOpen d first) (hdepth : depth first = 0) (hsecond : StaysOpen d second) :
    StaysOpen d (first ++ second) := by
  rintro part ⟨tail, htail⟩
  rcases List.append_eq_append_iff.mp htail with ⟨more, rfl, _⟩ | ⟨more, rfl, rfl⟩
  · exact hfirst part (List.prefix_append part more)
  · rw [depth_append, hdepth, Int.zero_add]
    exact hsecond more (List.prefix_append more tail)

namespace Balanced

variable {braces inner later : List (Nat × Brace)}

theorem nil : Balanced [] := ⟨rfl, staysOpen_nil 0⟩

theorem shift (h : Balanced braces) (n : Nat) : Balanced (shiftBraces n braces) :=
  ⟨(depth_shiftBraces n braces).trans h.depth_eq_zero, staysOpen_shiftBraces.mpr h.staysOpen⟩

theorem group (hinner : Balanced inner) (hlater : Balanced later) (first last : Nat) :
    Balanced ((first, .opening) :: (inner ++ (last, .closing) :: later)) := by
  constructor
  · simp [depth, depth_append, hinner.depth_eq_zero, hlater.depth_eq_zero]
  · have hinner' : StaysOpen 1 inner := fun part hpart ↦ by
      have hdepth := hinner.staysOpen part hpart
      push_cast at hdepth ⊢
      omega
    exact staysOpen_opening_cons.mpr (staysOpen_append hinner' hinner.depth_eq_zero
      (staysOpen_closing_cons.mpr hlater.staysOpen))

theorem returnsAt (h : Balanced inner) (first last : Nat) :
    ReturnsAt ((first, .opening) :: inner) (last, .closing) :=
  returnsAt_opening_cons_iff.mpr ⟨h.staysOpen, h.depth_eq_zero, rfl⟩

end Balanced

theorem Code.balanced {history after : List Element} {text : List Char}
    {braces : List (Nat × Brace)} (h : Code history text braces after) : Balanced braces := by
  match h with
  | .nil _ => exact .nil
  | .group hinside hmore => exact (hinside.balanced.shift 1).group (hmore.balanced.shift _) _ _
  | .plain _ hmore => exact hmore.balanced.shift _
  | .string _ _ hmore => exact hmore.balanced.shift _
  | .template _ hmore => exact hmore.balanced.shift _
  | .lineComment _ hmore => exact hmore.balanced.shift _
  | .blockComment _ hmore => exact hmore.balanced.shift _
  | .regex _ _ _ _ _ hmore => exact hmore.balanced.shift _
  | .division _ _ _ hmore => exact hmore.balanced.shift _

/-! ### Bundles of code -/

/-- The structural braces of code that is a whole text are those of its groups. -/
theorem structuralBraces_of_code {text : List Char} {braces : List (Nat × Brace)}
    (h : Code [] text braces after) : structuralBraces text = ⟨braces, none⟩ := by
  obtain ⟨next, hrun, _, _, htemplates⟩ := h.passes .initial 0 detached_nil
  rw [shownBraces_of_eq_nil rfl] at hrun
  have hend : next.move (0 + byteSize text) [] = .stop none :=
    move_eq_stop_none_iff.mpr ⟨rfl, htemplates⟩
  have hscan := scanBraces_append_of_run hrun
  rw [scanBraces_of_stop hend] at hscan
  simpa [structuralBraces] using hscan

/-- Code in front of detached code is code. -/
theorem Code.append {history middle after : List Element} {first second : List Char}
    {braces later : List (Nat × Brace)} (hfirst : Code history first braces middle)
    (hsecond : Code middle second later after) (hdetached : Detached second) :
    Code history (first ++ second) (braces ++ shiftBraces (byteSize first) later) after := by
  match hfirst with
  | .nil _ => simpa using hsecond
  | .plain hplain hmore =>
    simpa [shiftBraces_add] using Code.plain hplain (hmore.append hsecond hdetached)
  | .string hquote htext hmore =>
    simpa [shiftBraces_add] using Code.string hquote htext (hmore.append hsecond hdetached)
  | .template htext hmore =>
    simpa [shiftBraces_add] using Code.template htext (hmore.append hsecond hdetached)
  | .lineComment hline hmore =>
    simpa [shiftBraces_add] using Code.lineComment hline (hmore.append hsecond hdetached)
  | .blockComment htext hmore =>
    simpa [shiftBraces_add] using Code.blockComment htext (hmore.append hsecond hdetached)
  | .group hinside hmore =>
    simpa [shiftBraces_add] using Code.group hinside (hmore.append hsecond hdetached)
  | .regex hstart hslash hstar htext hflags hmore =>
    simpa [shiftBraces_add] using Code.regex hstart hslash hstar htext (hflags.append hdetached)
      (hmore.append hsecond hdetached)
  | .division hstart hslash hstar hmore =>
    simpa [shiftBraces_add] using Code.division hstart
      (hdetached.head?_append_ne (.inl rfl) hslash) (hdetached.head?_append_ne (.inr rfl) hstar)
      (hmore.append hsecond hdetached)

/-- Text without delimiters is code. -/
theorem code_of_plain {text : List Char}
    (hplain : ∀ c ∈ text, c ∉ ['\'', '"', '`', '/', '\x7b', '\x7d']) (history : List Element) :
    Code history text [] ((text.map Element.char).reverse ++ history) := by
  induction text generalizing history with
  | nil => exact .nil history
  | cons c text ih =>
    obtain ⟨hc, htext⟩ := List.forall_mem_cons.mp hplain
    simpa using Code.plain hc (ih htext (.char c :: history))

/-- Assumes: an identifier for the global object, and a bundle that is a group of code between code
without groups. Its structural braces are those of the groups, and unwrapping it gives the code
inside the outermost one. -/
theorem unwrap_of_code {bundle globalObject : String} {header body trailer : List Char}
    {inner : List (Nat × Brace)} {before inside after : List Element}
    (hglobal : isIdentifier globalObject)
    (htext : dropByteOrderMark bundle.toList = header ++ '\x7b' :: (body ++ '\x7d' :: trailer))
    (hheader : Code [] header [] before) (hbody : Code (.openBrace :: before) body inner inside)
    (htrailer : Code (.closeBrace (opensObject before) :: inside) trailer [] after) :
    structuralBraces (dropByteOrderMark bundle.toList) =
        ⟨(byteSize header, .opening) :: (shiftBraces (byteSize header + 1) inner ++
          [(byteSize header + 1 + byteSize body, .closing)]), none⟩ ∧
      (unwrap bundle globalObject).outcome =
        .ok ("var scope = " ++ globalObject ++ ";" ++ String.ofList body) := by
  have hcode := hheader.append (hbody.group htrailer) (detached_openBrace _)
  have hbraces := structuralBraces_of_code hcode
  rw [← htext] at hbraces
  have hbraces' : structuralBraces (dropByteOrderMark bundle.toList) =
      ⟨(byteSize header, .opening) :: (shiftBraces (byteSize header + 1) inner ++
        [(byteSize header + 1 + byteSize body, .closing)]), none⟩ := by
    simpa [shiftBraces_add, Nat.add_assoc] using hbraces
  have hreturn := (hbody.balanced.shift (byteSize header + 1)).returnsAt (byteSize header)
    (byteSize header + 1 + byteSize body)
  have hpair : Verdict (structuralBraces (dropByteOrderMark bundle.toList))
      (.ok (byteSize header, byteSize header + 1 + byteSize body)) := by
    rw [hbraces']
    exact .pair rfl hreturn rfl
  refine ⟨hbraces', (outcome_unwrap hglobal).trans ?_⟩
  rw [htext] at hpair ⊢
  rw [functionBody_of_pair hpair]
  rfl

theorem unwrap_regex_in_template :
    structuralBraces (dropByteOrderMark "(function()\x7bx=`$\x7b/\x7d/\x7d`\x7d)();".toList) =
        ⟨[(11, .opening), (22, .closing)], none⟩ ∧
      (unwrap "(function()\x7bx=`$\x7b/\x7d/\x7d`\x7d)();" "window").outcome =
        .ok "var scope = window;x=`$\x7b/\x7d/\x7d`" := by
  have hheader : Code [] "(function()".toList [] _ := code_of_plain (by simp) []
  have hregex : Code (.substitution :: .char '=' :: .char 'x' :: .openBrace ::
      ("(function()".toList.map Element.char).reverse) ['/', '\x7d', '/'] [] _ :=
    @Code.regex _ _ ['\x7d', '/'] [] [] _ rfl (by decide) (by decide) (.char (by decide) .close)
      ⟨by simp, by simp⟩ (.nil _)
  have htemplate := @TemplateRest.substitution _ _ _ [] _ _ _ .nil hregex (.close _ .nil)
  have hbody := @Code.plain _ _ 'x' _ _ (by decide)
    (@Code.plain _ _ '=' _ _ (by decide) (.template htemplate (.nil _)))
  have htrailer := @code_of_plain ")();".toList (by simp)
  have h := @unwrap_of_code "(function()\x7bx=`$\x7b/\x7d/\x7d`\x7d)();" "window" _ _ _ _ _ _ _
    (by decide) (by decide) hheader hbody (htrailer _)
  exact ⟨h.1.trans (by decide), h.2.trans (congrArg Except.ok (by decide))⟩

end BrowserScript.Wrapper
