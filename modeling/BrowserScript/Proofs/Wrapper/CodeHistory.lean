import BrowserScript.Wrapper.Scanner

/-!
What stands in front of a place of a script, element by element, and the reading of slashes and
braces off it. `regexMayStart` and `opensObject` look back through the whole history: past space and
comments, along the word at its end, and through all parentheses for the one that a closing
parenthesis belongs to. The scanner keeps a summary instead; `Tracks` says what the summary of a
history is, and under it the scanner decides as the history does (`Tracks.regexAllowed`,
`Tracks.opensObject`).
-/

set_option autoImplicit false
set_option relaxedAutoImplicit false

namespace BrowserScript.Wrapper

open Text

/-! ### Histories -/

/-- An element of a script, as far as what follows it depends on it. Histories hold elements with
the most recent one first. -/
inductive Element where
  | char (c : Char)
  | literal
  | comment
  /-- The start of a template's substitution. -/
  | substitution
  | openBrace
  | closeBrace (object : Bool)
  deriving DecidableEq, Repr

def Element.isBlank : Element → Bool
  | .char c => isSpace c
  | .comment => true
  | _ => false

/-- The history up to its last element that is neither space nor a comment. -/
def significant (history : List Element) : List Element := history.dropWhile Element.isBlank

/-- The word characters at the end of a history, the last one first. -/
def wordLetters : List Element → List Char
  | .char c :: history => if isWordChar c then c :: wordLetters history else []
  | _ => []

/-- The word at the end of a history, empty if the history does not end with one. -/
def lastWord (history : List Element) : String := String.ofList (wordLetters history).reverse

/-- The parentheses that are open after a history, innermost first; `true` for one that stands
behind a control word. -/
def openParens : List Element → List Bool
  | .char c :: history =>
    if c = '(' then controlWords.contains (lastWord (significant history)) :: openParens history
    else if c = ')' then (openParens history).tail
    else openParens history
  | _ :: history => openParens history
  | [] => []

/-- What no character of a text changes, the whole text does not change. -/
theorem eq_of_chars {α : Type} {f : List Element → α} {text : List Char}
    (h : ∀ c ∈ text, ∀ history, f (.char c :: history) = f history) (history : List Element) :
    f ((text.map Element.char).reverse ++ history) = f history := by
  induction text generalizing history with
  | nil => rfl
  | cons c text ih =>
    obtain ⟨hc, htext⟩ := List.forall_mem_cons.mp h
    rw [List.map_cons, List.reverse_cons, List.append_assoc]
    exact (ih htext (.char c :: history)).trans (hc history)

theorem openParens_chars {text : List Char} (h : ∀ c ∈ text, c ≠ '(' ∧ c ≠ ')')
    (history : List Element) :
    openParens ((text.map Element.char).reverse ++ history) = openParens history :=
  eq_of_chars (fun c hc history ↦ by
    rw [openParens, if_neg (h c hc).1, if_neg (h c hc).2]) history

/-- Whether a slash after a history starts a regular expression. -/
def regexMayStart (history : List Element) : Bool :=
  match significant history with
  | .char c :: before =>
    if c = ')' then (openParens before).headD false
    else if isWordChar c then regexWords.contains (lastWord (.char c :: before))
    else c ≠ ']' && c ≠ '/'
  | .literal :: _ => false
  | .closeBrace object :: _ => !object
  | _ => true

/-- Whether a brace after a history opens an object literal. -/
def opensObject (history : List Element) : Bool :=
  match significant history with
  | .char c :: before =>
    if c = '>' then before.head? ≠ some (.char '=')
    else if isWordChar c then expressionWords.contains (lastWord (.char c :: before))
    else operandChars.contains c
  | _ => false

/-! ### The summary of a history -/

/-- Whether a history ends with an element that a word or an arrow may go on with. -/
def endsAdjacent : List Element → Bool
  | .char c :: _ => !isSpace c
  | .literal :: _ | .openBrace :: _ | .closeBrace _ :: _ => true
  | _ => false

/-- The last token of a history. -/
def lastToken : List Element → Preceding
  | .char c :: history =>
    if isSpace c then lastToken history
    else if c = ')' then .closer ((openParens history).headD false)
    else (lastToken history).extend (endsAdjacent history) c
  | .literal :: _ => .literal
  | .comment :: history => lastToken history
  | .substitution :: _ => .nothing
  | .openBrace :: _ => .mark '\x7b'
  | .closeBrace object :: _ => .closer (!object)
  | [] => .nothing

theorem lastToken_significant (history : List Element) :
    lastToken (significant history) = lastToken history := by
  induction history with
  | nil => rfl
  | cons e history ih =>
    by_cases hblank : e.isBlank
    · rw [significant, List.dropWhile_cons_of_pos hblank, ← significant, ih]
      cases e with
      | char c => exact (if_pos hblank).symm
      | comment => rfl
      | _ => cases hblank
    · rw [significant, List.dropWhile_cons_of_neg hblank]

theorem isWordChar_not_space {c : Char} (h : isWordChar c) : isSpace c = false ∧ c ≠ ')' := by
  constructor
  · refine Bool.eq_false_iff.mpr fun hspace ↦ ?_
    simp only [isSpace, Bool.or_eq_true, decide_eq_true_eq] at hspace
    rcases hspace with (((rfl | rfl) | rfl) | rfl) | rfl <;> exact absurd h (by decide)
  · rintro rfl
    exact absurd h (by decide)

/-- A character behind anything but a word starts one. -/
theorem extend_of_not_word {adjacent : Bool} {p : Preceding} {c : Char} (hc : isWordChar c)
    (hp : adjacent → ∀ letters, p ≠ .word letters) : p.extend adjacent c = .word [c] := by
  unfold Preceding.extend
  rw [if_pos hc]
  split
  · next letters => exact (hp rfl letters rfl).elim
  · rfl

/-- A character that is no part of words does not end with one. -/
theorem extend_ne_word {adjacent : Bool} {p : Preceding} {c : Char} (hc : isWordChar c = false)
    (letters : List Char) : p.extend adjacent c ≠ .word letters := by
  unfold Preceding.extend
  rw [if_neg (by simp [hc])]
  split <;> simp

/-- The word at the end of a history is its last token. -/
theorem lastToken_of_isWordChar {c : Char} (hc : isWordChar c) (history : List Element) :
    lastToken (.char c :: history) = .word (wordLetters (.char c :: history)) := by
  -- on the history: the letters of the word in front of `c` are at its end
  induction history generalizing c with
  | nil =>
    obtain ⟨hspace, hparen⟩ := isWordChar_not_space hc
    simp [lastToken, hspace, hparen, wordLetters, hc, extend_of_not_word hc]
  | cons e history ih =>
    obtain ⟨hspace, hparen⟩ := isWordChar_not_space hc
    rw [lastToken, if_neg (by simp [hspace]), if_neg hparen, wordLetters, if_pos hc]
    cases e with
    | char d =>
      cases hd : isWordChar d with
      | true =>
        have hadjacent : endsAdjacent (.char d :: history) = true := by
          simp [endsAdjacent, (isWordChar_not_space hd).1]
        rw [ih hd, hadjacent, Preceding.extend, if_pos hc]
      | false =>
        rw [wordLetters, if_neg (by simp [hd])]
        refine extend_of_not_word hc fun hadjacent letters ↦ ?_
        simp only [endsAdjacent, Bool.not_eq_true'] at hadjacent
        rw [lastToken, if_neg (by simp [hadjacent])]
        split
        · simp
        · exact extend_ne_word hd letters
    | comment => exact extend_of_not_word hc fun hadjacent ↦ by cases hadjacent
    | literal | substitution | openBrace | closeBrace =>
      exact extend_of_not_word hc fun _ letters ↦ by simp [lastToken]

theorem lastToken_closeParen (history : List Element) :
    lastToken (.char ')' :: history) = .closer ((openParens history).headD false) := rfl

/-- What a character makes of a token that is no part of words. -/
theorem extend_of_mark {c : Char} (hc : isWordChar c = false) (adjacent : Bool) (p : Preceding) :
    p.extend adjacent c = if c = '>' ∧ adjacent ∧ p = .mark '=' then .arrow else .mark c := by
  unfold Preceding.extend
  rw [if_neg (by simp [hc])]
  simp [and_assoc]

theorem endsAdjacent_and_lastToken_iff (history : List Element) :
    endsAdjacent history ∧ lastToken history = .mark '=' ↔ history.head? = some (.char '=') := by
  cases history with
  | nil => simp [endsAdjacent]
  | cons e history =>
    cases e with
    | char d =>
      simp only [List.head?_cons, Option.some.injEq, Element.char.injEq]
      constructor
      · rintro ⟨hadjacent, htoken⟩
        simp only [endsAdjacent, Bool.not_eq_true'] at hadjacent
        cases hd : isWordChar d with
        | true => simp [lastToken_of_isWordChar hd] at htoken
        | false =>
          rw [lastToken, if_neg (by simp [hadjacent]), extend_of_mark hd] at htoken
          split at htoken
          · cases htoken
          · split at htoken
            · cases htoken
            · exact Preceding.mark.inj htoken
      · rintro rfl
        have hmark := extend_of_mark (show isWordChar '=' = false from rfl)
        exact ⟨rfl, hmark (endsAdjacent history) (lastToken history)⟩
    | literal | substitution | openBrace | closeBrace => simp [lastToken]
    | comment => simp [endsAdjacent]

/-- A character that is no part of words, neither space nor a closing parenthesis, is a mark, unless
it completes an arrow. -/
theorem lastToken_of_mark {c : Char} (hspace : isSpace c = false) (hparen : c ≠ ')')
    (hc : isWordChar c = false) (history : List Element) :
    lastToken (.char c :: history) =
      if c = '>' ∧ history.head? = some (.char '=') then .arrow else .mark c := by
  rw [lastToken, if_neg (by simp [hspace]), if_neg hparen, extend_of_mark hc]
  simp only [endsAdjacent_and_lastToken_iff]

/-! ### Decisions -/

theorem isBlank_head_significant {history before : List Element} {e : Element}
    (h : significant history = e :: before) : e.isBlank = false := by
  have hhead := List.head?_dropWhile_not Element.isBlank history
  rw [← significant, h] at hhead
  simpa using hhead

/-- The scanner allows a regular expression where the history does. -/
theorem regexAllowed_lastToken (history : List Element) :
    (lastToken history).regexAllowed = regexMayStart history := by
  rw [← lastToken_significant, regexMayStart]
  cases hsignificant : significant history with
  | nil => rfl
  | cons e before =>
    have hblank := isBlank_head_significant hsignificant
    cases e with
    | char c =>
      dsimp only
      by_cases hparen : c = ')'
      · rw [if_pos hparen, hparen]
        rfl
      · rw [if_neg hparen]
        cases hc : isWordChar c with
        | true =>
          rw [lastToken_of_isWordChar hc]
          rfl
        | false =>
          rw [if_neg Bool.false_ne_true, lastToken_of_mark hblank hparen hc]
          split
          · next harrow =>
            rw [harrow.1]
            rfl
          · rfl
    | comment => cases hblank
    | literal | substitution | openBrace | closeBrace => rfl

/-- The scanner reads an object literal where the history does. -/
theorem opensObject_lastToken (history : List Element) :
    (lastToken history).opensObject = opensObject history := by
  rw [← lastToken_significant, opensObject]
  cases hsignificant : significant history with
  | nil => rfl
  | cons e before =>
    have hblank := isBlank_head_significant hsignificant
    cases e with
    | char c =>
      dsimp only
      cases hc : isWordChar c with
      | true =>
        have hmark : c ≠ '>' := by
          rintro rfl
          cases hc
        rw [lastToken_of_isWordChar hc, if_neg hmark]
        rfl
      | false =>
        by_cases hparen : c = ')'
        · subst hparen
          rfl
        · rw [lastToken_of_mark hblank hparen hc]
          by_cases hmark : c = '>'
          · by_cases harrow : before.head? = some (.char '=') <;>
              simp [hmark, harrow, Preceding.opensObject]
          · simp [hmark, Preceding.opensObject]
    | comment => cases hblank
    | literal | substitution | openBrace | closeBrace => rfl

/-- The scanner sees the header of a control statement where a control word ends the history. -/
theorem opensControlHeader_lastToken (history : List Element) :
    (lastToken history).opensControlHeader =
      controlWords.contains (lastWord (significant history)) := by
  rw [← lastToken_significant]
  cases hsignificant : significant history with
  | nil => rfl
  | cons e before =>
    have hblank := isBlank_head_significant hsignificant
    cases e with
    | char c =>
      cases hc : isWordChar c with
      | true =>
        rw [lastToken_of_isWordChar hc]
        rfl
      | false =>
        have hword : lastWord (.char c :: before) = "" := by
          rw [lastWord, wordLetters, if_neg (by simp [hc])]
          rfl
        rw [hword]
        by_cases hparen : c = ')'
        · subst hparen
          rfl
        · rw [lastToken_of_mark hblank hparen hc]
          split <;> rfl
    | comment => cases hblank
    | literal | substitution | openBrace | closeBrace => rfl

/-! ### States that track a history -/

/-- The scanner remembers the summary of a history. -/
structure Tracks (s : ScanState) (history : List Element) : Prop where
  preceding : s.preceding = lastToken history
  adjacent : s.adjacent = endsAdjacent history
  parens : s.parens = openParens history

namespace Tracks

variable {s : ScanState} {history : List Element}

theorem initial : Tracks {} [] := ⟨rfl, rfl, rfl⟩

theorem regexAllowed (h : Tracks s history) :
    s.preceding.regexAllowed = regexMayStart history := by
  rw [h.preceding, regexAllowed_lastToken]

theorem opensObject (h : Tracks s history) :
    s.preceding.opensObject = Wrapper.opensObject history := by
  rw [h.preceding, opensObject_lastToken]

theorem afterLiteral (hparens : s.parens = openParens history) :
    Tracks s.afterLiteral (.literal :: history) :=
  ⟨rfl, rfl, hparens⟩

theorem afterComment (h : Tracks s history) : Tracks s.afterSpace (.comment :: history) :=
  ⟨h.preceding, rfl, h.parens⟩

theorem enterSubstitution (hparens : s.parens = openParens history) (start : Nat) :
    Tracks (s.enterSubstitution start) (.substitution :: history) :=
  ⟨rfl, rfl, hparens⟩

theorem withTemplates (h : Tracks s history) (templates : List OpenTemplate) :
    Tracks { s with templates := templates } history :=
  ⟨h.preceding, h.adjacent, h.parens⟩

theorem openBrace (h : Tracks s history) : Tracks s.openBrace (.openBrace :: history) :=
  ⟨rfl, rfl, h.parens⟩

theorem closeBrace (h : Tracks s history) {object : Bool}
    (hobject : s.braces.headD false = object) :
    Tracks s.closeBrace (.closeBrace object :: history) := by
  subst hobject
  exact ⟨rfl, rfl, h.parens⟩

theorem afterSpace (h : Tracks s history) {c : Char} (hspace : isSpace c) :
    Tracks s.afterSpace (.char c :: history) := by
  refine ⟨?_, by simp [ScanState.afterSpace, endsAdjacent, hspace], ?_⟩
  · rw [lastToken, if_pos hspace]
    exact h.preceding
  · have hparen : c ≠ '(' ∧ c ≠ ')' := by
      constructor <;> (rintro rfl; cases hspace)
    rw [openParens, if_neg hparen.1, if_neg hparen.2]
    exact h.parens

theorem afterChar (h : Tracks s history) {c : Char} (hspace : isSpace c = false)
    (hopen : c ≠ '(') (hclose : c ≠ ')') : Tracks (s.afterChar c) (.char c :: history) := by
  refine ⟨?_, by simp [ScanState.afterChar, endsAdjacent, hspace], ?_⟩
  · rw [lastToken, if_neg (by simp [hspace]), if_neg hclose, ← h.preceding, ← h.adjacent]
    rfl
  · rw [openParens, if_neg hopen, if_neg hclose]
    exact h.parens

theorem openParen (h : Tracks s history) : Tracks s.openParen (.char '(' :: history) := by
  refine ⟨?_, rfl, ?_⟩
  · rw [lastToken_of_mark (by decide) (by decide) (by decide)]
    rfl
  · rw [openParens, if_pos rfl, ← opensControlHeader_lastToken, ← h.preceding, ← h.parens]
    rfl

theorem closeParen (h : Tracks s history) : Tracks s.closeParen (.char ')' :: history) := by
  refine ⟨?_, rfl, ?_⟩
  · rw [lastToken_closeParen, ← h.parens]
    rfl
  · rw [openParens, if_neg (by decide), if_pos rfl, ← h.parens]
    rfl

end Tracks

end BrowserScript.Wrapper
