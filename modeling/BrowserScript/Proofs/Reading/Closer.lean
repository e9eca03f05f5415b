import BrowserScript.Proofs.Reading.Item
import BrowserScript.Proofs.Wrapper.ScanRun

/-!
Slashes behind a closing parenthesis or brace. The scanner has decided when the group was opened,
and keeps the decisions of all open groups on its stacks. Looking back from the closer for the
opener that belongs to it (`openerOf`), over any groups between the two, finds the place of the
decision: the slash starts a regular expression behind a parenthesis exactly if a control word
stands in front of the opener, and behind a brace exactly if nothing in front of the opener asks for
an operand (`slash_behind_closer`). This is what the words say, not what the grammar does: a method
with the name of a control word has a header, and a block behind a colon is an object.
-/

set_option autoImplicit false
set_option relaxedAutoImplicit false

namespace BrowserScript.Reading

open Text Wrapper

/-! ### Openers -/

/-- What an element does to the groups of one kind. -/
inductive Turn where
  | opens
  | closes
  | passes
  deriving DecidableEq, Repr

def parenTurn : Element → Turn
  | .char c => if c = '(' then .opens else if c = ')' then .closes else .passes
  | _ => .passes

def braceTurn : Element → Turn
  | .openBrace | .substitution => .opens
  | .closeBrace _ => .closes
  | _ => .passes

/-- Looks back through a history for the element that opened the group around its end, or the one
`inner` groups further out, and gives it with the history in front of it. -/
def openerOf (turn : Element → Turn) : Nat → List Element → Option (Element × List Element)
  | _, [] => none
  | inner, e :: history =>
    match turn e with
    | .opens =>
      match inner with
      | 0 => some (e, history)
      | inner + 1 => openerOf turn inner history
    | .closes => openerOf turn (inner + 1) history
    | .passes => openerOf turn inner history

/-- A stack with a flag for each open group. -/
structure FlagsGroups (turn : Element → Turn) (flag : Element → List Element → Bool)
    (stack : List Element → List Bool) : Prop where
  nil : stack [] = []
  opens : ∀ e history, turn e = .opens → stack (e :: history) = flag e history :: stack history
  closes : ∀ e history, turn e = .closes → stack (e :: history) = (stack history).tail
  passes : ∀ e history, turn e = .passes → stack (e :: history) = stack history

/-- The flags on the stack are those of the openers that are found by looking back. -/
theorem FlagsGroups.getD_eq {turn : Element → Turn} {flag : Element → List Element → Bool}
    {stack : List Element → List Bool} (h : FlagsGroups turn flag stack) (inner : Nat)
    (history : List Element) :
    (stack history).getD inner false =
      (openerOf turn inner history).any fun o ↦ flag o.1 o.2 := by
  induction history generalizing inner with
  | nil =>
    rw [h.nil]
    rfl
  | cons e history ih =>
    cases hturn : turn e with
    | opens =>
      rw [h.opens e history hturn]
      cases inner with
      | zero => simp [openerOf, hturn]
      | succ inner =>
        rw [List.getD_cons_succ]
        simpa only [openerOf, hturn] using ih inner
    | closes =>
      rw [h.closes e history hturn, getD_tail]
      simpa only [openerOf, hturn] using ih (inner + 1)
    | passes =>
      rw [h.passes e history hturn]
      simpa only [openerOf, hturn] using ih inner

/-- A control word stands in front of a parenthesis. -/
def opensHeader (front : List Element) : Bool :=
  controlWords.contains (lastWord (significant front))

/-- A brace opens an operand: an object literal, or a substitution. -/
def opensOperand : Element → List Element → Bool
  | .substitution, _ => true
  | _, front => opensObject front

theorem flagsGroups_openParens :
    FlagsGroups parenTurn (fun _ front ↦ opensHeader front) openParens where
  nil := rfl
  opens e history h := by
    cases e with
    | char c =>
      by_cases hopen : c = '('
      · rw [openParens, if_pos hopen]
        rfl
      · by_cases hclose : c = ')' <;> simp [parenTurn, hopen, hclose] at h
    | _ => cases h
  closes e history h := by
    cases e with
    | char c =>
      by_cases hopen : c = '('
      · simp [parenTurn, hopen] at h
      · by_cases hclose : c = ')'
        · rw [openParens, if_neg hopen, if_pos hclose]
        · simp [parenTurn, hopen, hclose] at h
    | _ => cases h
  passes e history h := by
    cases e with
    | char c =>
      by_cases hopen : c = '('
      · simp [parenTurn, hopen] at h
      · by_cases hclose : c = ')'
        · simp [parenTurn, hclose] at h
        · rw [openParens, if_neg hopen, if_neg hclose]
    | _ => rfl

theorem flagsGroups_braceFlags : FlagsGroups braceTurn opensOperand braceFlags where
  nil := rfl
  opens e history h := by cases e <;> first | rfl | cases h
  closes e history h := by cases e <;> first | rfl | cases h
  passes e history h := by cases e <;> first | rfl | cases h

/-! ### The history of a scan -/

/-- What template text ends with: its backtick, or the start of a substitution. -/
def templateEnd (text : List Char) : Element :=
  if text.getLast? = some '`' then .literal else .substitution

/-- The elements of what one step reads, the last one first. A closing brace is told what it
closes. -/
def stepElements (object : Bool) : List Char → List Element
  | [] => []
  | c :: text =>
    if c = '\'' ∨ c = '"' then [.literal]
    else if c = '`' then [templateEnd text]
    else if c = '\x7b' then [.openBrace]
    else if c = '\x7d' then
      if text = [] then [.closeBrace object] else [templateEnd text, .closeBrace object]
    else if c = '/' then
      if text = [] then [.char '/']
      else if text.head? = some '/' ∨ text.head? = some '*' then [.comment]
      else [.literal]
    else [.char c]

/-- From the start of a text the scanner has read the first part, in front of the second one; behind
the elements of the history it is in the state. -/
inductive Scanned : List Char → List Char → List Element → ScanState → Prop
  | start (text : List Char) : Scanned [] text [] {}
  | step {before read rest : List Char} {history : List Element} {s next : ScanState}
    {brace : Option Brace} (h : Scanned before (read ++ rest) history s)
    (hstep : Step s (byteSize before) read rest brace next) :
    Scanned (before ++ read) rest (stepElements (s.braces.headD false) read ++ history) next

/-- A state remembers a history, in which every closing brace closes what is open there. -/
structure Remembers (s : ScanState) (history : List Element) : Prop where
  tracks : Tracks s history
  braces : s.braces = braceFlags history
  closed : ∀ object before, .closeBrace object :: before <:+ history →
    object = (braceFlags before).headD false

variable {s next : ScanState} {n : Nat} {before read rest : List Char} {brace : Option Brace}
  {braces : List (Nat × Brace)} {history : List Element}

theorem Remembers.initial : Remembers {} [] :=
  ⟨.initial, rfl, fun _ _ h ↦ nomatch List.suffix_nil.mp h⟩

/-- An element that is no closing brace is behind all of them. -/
theorem Remembers.closed_cons (h : Remembers s history) {e : Element}
    (he : ∀ object, e ≠ .closeBrace object) {object : Bool} {front : List Element}
    (hfront : .closeBrace object :: front <:+ e :: history) :
    object = (braceFlags front).headD false := by
  rcases List.suffix_cons_iff.mp hfront with heq | hsuffix
  · exact (he object (List.cons.inj heq).1.symm).elim
  · exact h.closed object front hsuffix

/-- Behind an element that neither opens nor closes a brace. -/
theorem Remembers.cons (h : Remembers s history) {e : Element} (he : braceTurn e = .passes)
    (htracks : Tracks next (e :: history)) (hbraces : next.braces = s.braces) :
    Remembers next (e :: history) := by
  refine ⟨htracks, ?_, fun object front ↦ h.closed_cons ?_⟩
  · rw [hbraces, h.braces, flagsGroups_braceFlags.passes e history he]
  · rintro object rfl
    cases he

theorem Remembers.openBrace (h : Remembers s history) :
    Remembers s.openBrace (.openBrace :: history) := by
  refine ⟨h.tracks.openBrace, ?_, fun object front ↦ h.closed_cons (fun _ ↦ Element.noConfusion)⟩
  rw [braceFlags, ← h.tracks.opensObject, ← h.braces]
  rfl

theorem Remembers.closeBrace (h : Remembers s history) :
    Remembers s.closeBrace (.closeBrace (s.braces.headD false) :: history) := by
  refine ⟨h.tracks.closeBrace rfl, ?_, fun object front hfront ↦ ?_⟩
  · rw [braceFlags, ← h.braces]
    rfl
  · rcases List.suffix_cons_iff.mp hfront with heq | hsuffix
    · obtain ⟨hobject, rfl⟩ := List.cons.inj heq
      rw [← h.braces]
      exact Element.closeBrace.inj hobject
    · exact h.closed object front hsuffix

theorem Remembers.withTemplates (h : Remembers s history) (templates : List OpenTemplate) :
    Remembers { s with templates := templates } history :=
  ⟨h.tracks.withTemplates templates, h.braces, h.closed⟩

theorem Remembers.afterLiteral (h : Remembers s history) :
    Remembers s.afterLiteral (.literal :: history) :=
  h.cons rfl (.afterLiteral h.tracks.parens) rfl

theorem Remembers.enterSubstitution (h : Remembers s history) (start : Nat) :
    Remembers (s.enterSubstitution start) (.substitution :: history) := by
  refine ⟨.enterSubstitution h.tracks.parens start, ?_,
    fun object front ↦ h.closed_cons (fun _ ↦ Element.noConfusion)⟩
  rw [braceFlags, ← h.braces]
  rfl

@[simp] theorem templateEnd_backtick (text : List Char) :
    templateEnd (text ++ ['`']) = .literal := by
  simp [templateEnd]

@[simp] theorem templateEnd_substitution (text : List Char) :
    templateEnd (text ++ ['$', '\x7b']) = .substitution := by
  simp [templateEnd]

theorem remembers_step (h : Step s n read rest brace next) (hs : Remembers s history) :
    Remembers next (stepElements (s.braces.headD false) read ++ history) := by
  cases h with
  | stringLiteral _ hquote _ =>
    rw [stepElements, if_pos hquote]
    exact hs.afterLiteral
  | template => simpa [stepElements] using hs.afterLiteral
  | substitution => simpa [stepElements] using hs.enterSubstitution n
  | lineComment | blockComment =>
    simpa [stepElements] using hs.cons rfl hs.tracks.afterComment rfl
  | @regex text flags _ _ hslash hstar htext _ =>
    have hhead : (text ++ flags).head? = text.head? := List.head?_append_of_ne_nil text htext.ne_nil
    simpa [stepElements, hhead, hslash, hstar, htext.ne_nil] using hs.afterLiteral
  | division =>
    exact hs.cons rfl (hs.tracks.afterChar (by decide) (by decide) (by decide)) rfl
  | openParen => exact hs.cons rfl hs.tracks.openParen rfl
  | closeParen => exact hs.cons rfl hs.tracks.closeParen rfl
  | openBrace => exact hs.openBrace
  | openInner => exact hs.openBrace.withTemplates _
  | closeBrace => exact hs.closeBrace
  | closeInner => exact hs.closeBrace.withTemplates _
  | @closeTemplate _ outer =>
    simpa [stepElements] using (hs.closeBrace.withTemplates outer).afterLiteral
  | @nextSubstitution start outer =>
    simpa [stepElements] using (hs.closeBrace.withTemplates outer).enterSubstitution start
  | @space c _ hspace =>
    have hplain := (isSpace_not_delimiter hspace).1
    simp only [List.mem_cons, List.not_mem_nil, or_false, not_or] at hplain
    simpa [stepElements, hplain] using hs.cons (e := .char c) rfl (hs.tracks.afterSpace hspace) rfl
  | @char c _ hc hspace =>
    simp only [List.mem_cons, List.not_mem_nil, or_false, not_or] at hc
    have htracks := hs.tracks.afterChar hspace hc.2.2.2.2.1 hc.2.2.2.2.2.1
    simpa [stepElements, hc] using hs.cons rfl htracks rfl

theorem Scanned.remembers (h : Scanned before rest history s) : Remembers s history := by
  induction h with
  | start => exact .initial
  | step _ hstep ih => exact remembers_step hstep ih

/-- What has been scanned goes on with a run. -/
theorem Scanned.append (h : Scanned before (read ++ rest) history s)
    (hrun : Run s (byteSize before) read rest braces next) :
    ∃ later, Scanned (before ++ read) rest (later ++ history) next := by
  generalize hn : byteSize before = n at hrun
  induction hrun generalizing before history with
  | refl => exact ⟨[], by simpa using h⟩
  | @step _ _ _ _ first more _ _ _ hstep _ ih =>
    subst hn
    rw [List.append_assoc] at h
    obtain ⟨later, hlater⟩ := ih (h.step hstep) (byteSize_append before first)
    rw [← List.append_assoc later, List.append_assoc before] at hlater
    exact ⟨_, hlater⟩

/-- Every text up to which the scanner gets has been scanned. -/
theorem exists_scanned (h : Run {} 0 read rest braces s) :
    ∃ history, Scanned read rest history s := by
  obtain ⟨history, hscanned⟩ := (Scanned.start (read ++ rest)).append h
  exact ⟨_, hscanned⟩

/-! ### Slashes -/

/-- The scanner reads a regular expression from the slash at the byte `n`, in front of the text, or
finds that it has no end. -/
def StartsRegex (s : ScanState) (n : Nat) (rest : List Char) : Prop :=
  s.move n ('/' :: rest) =
    match skipRegex false (n + 1) rest with
    | none => .stop (some ⟨.regex, n⟩)
    | some p => .pass s.afterLiteral p

/-- The scanner takes the slash for a division. -/
def Divides (s : ScanState) (n : Nat) (rest : List Char) : Prop :=
  s.move n ('/' :: rest) = .pass (s.afterChar '/') ⟨n + 1, rest⟩

/-- A slash that starts no comment starts a regular expression where one is allowed. -/
theorem startsRegex_if_allowed (s : ScanState) (n : Nat) (hslash : rest.head? ≠ some '/')
    (hstar : rest.head? ≠ some '*') :
    if s.preceding.regexAllowed then StartsRegex s n rest else Divides s n rest := by
  have hmove : s.move n ('/' :: rest) = s.moveSlash n rest := by simp [ScanState.move]
  rw [StartsRegex, Divides, hmove, ScanState.moveSlash, if_neg hslash, if_neg hstar]
  split <;> rfl

/-- Assumes: a slash that starts no comment, somewhere in a text. Behind a closing parenthesis it
starts a regular expression if a control word stands in front of the parenthesis that was closed,
and divides otherwise. Behind a closing brace it divides if what stands in front of the brace that
was closed asks for an operand, and starts a regular expression otherwise. -/
theorem slash_behind_closer (h : Scanned before ('/' :: rest) history s)
    (hslash : rest.head? ≠ some '/') (hstar : rest.head? ≠ some '*') :
    (∀ front, significant history = .char ')' :: front →
      if (openerOf parenTurn 0 front).any fun o ↦ opensHeader o.2 then
        StartsRegex s (byteSize before) rest
      else Divides s (byteSize before) rest) ∧
    ∀ object front, significant history = .closeBrace object :: front →
      if (openerOf braceTurn 0 front).any fun o ↦ opensOperand o.1 o.2 then
        Divides s (byteSize before) rest
      else StartsRegex s (byteSize before) rest := by
  have hs := h.remembers
  have hmove := startsRegex_if_allowed s (byteSize before) hslash hstar
  rw [hs.tracks.regexAllowed, regexMayStart] at hmove
  constructor
  · intro front hfront
    rw [hfront] at hmove
    rwa [← flagsGroups_openParens.getD_eq 0 front, ← headD_eq_getD]
  · intro object front hfront
    have hobject : object = (braceFlags front).headD false :=
      hs.closed object front (hfront ▸ List.dropWhile_suffix _)
    rw [hfront] at hmove
    rw [← flagsGroups_braceFlags.getD_eq 0 front, ← headD_eq_getD, ← hobject]
    cases object <;> exact hmove

/-- A regular expression behind the header of an `if`. -/
theorem slash_behind_closer_header :
    ∃ history s, Scanned ['i', 'f', '(', 'a', ')'] ['/', 'b', '/'] history s ∧
      ['b', '/'].head? ≠ some '/' ∧ ['b', '/'].head? ≠ some '*' ∧
      StartsRegex s 5 ['b', '/'] := by
  let s : ScanState := {}
  have hword : Scanned ['i', 'f'] ['(', 'a', ')', '/', 'b', '/'] [.char 'f', .char 'i']
      ((s.afterChar 'i').afterChar 'f') :=
    ((Scanned.start _).step (.char _ (by decide) rfl)).step (.char _ (by decide) rfl)
  have hheader : Scanned ['i', 'f', '(', 'a', ')'] ['/', 'b', '/']
      [.char ')', .char 'a', .char '(', .char 'f', .char 'i']
      ((((s.afterChar 'i').afterChar 'f').openParen).afterChar 'a').closeParen :=
    ((hword.step (.openParen _)).step (.char _ (by decide) rfl)).step (.closeParen _)
  have hslash : ['b', '/'].head? ≠ some '/' := by decide
  have hstar : ['b', '/'].head? ≠ some '*' := by decide
  exact ⟨_, _, hheader, hslash, hstar, (slash_behind_closer hheader hslash hstar).1 _ rfl⟩

/-- A method with the name of a control word has a header, so what is divided becomes the start of a
regular expression. -/
example : (structuralBraces "x.if(a)/2".toList).failure = some ⟨.regex, 7⟩ := by
  decide +kernel

end BrowserScript.Reading
