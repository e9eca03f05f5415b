import Mathlib
import BrowserScript.Wrapper.ByteScanner

/-!
What the scanner on bytes has passed, and what it remembers of it. The scanner stands at the head of
one of two loops: the one over code, outside of all templates or inside of a substitution, and the
one over the text of a template. A turn of a loop is a step (`Step`), which may pass a piece of the
text, and the pieces that were passed are the history of a head (`Reaches`). Looking back through
the history for the openers that no closer belongs to (`openers`) finds the groups that are open.
-/

set_option autoImplicit false
set_option relaxedAutoImplicit false

namespace BrowserScript.Wrapper.Bytes

open Text

/-! ### Pieces -/

/-- What code is grouped by. -/
inductive Group where
  | paren
  | brace
  deriving DecidableEq, Repr

def Group.opening : Group → Char
  | paren => '('
  | brace => '\x7b'

def Group.closing : Group → Char
  | paren => ')'
  | brace => '\x7d'

/-- What is passed at the head of a loop, with the place that it starts at. -/
inductive Piece where
  /-- A space or a comment. -/
  | blank (start : Nat)
  /-- A string, a template or a regular expression. -/
  | literal (start : Nat)
  /-- A byte that is read as it is. -/
  | byte (place : Nat)
  /-- What opens a group, and what it is taken for: the parenthesis of a control header, the brace
  of an object. -/
  | opener (group : Group) (place : Nat) (flag : Bool)
  | closer (group : Group) (place : Nat)
  /-- The mark in front of the code of a substitution. -/
  | substitution (place : Nat)
  deriving DecidableEq, Repr

namespace Piece

def isBlank : Piece → Bool
  | blank _ => true
  | _ => false

/-- The place that is remembered for a piece. -/
def place : Piece → Option Nat
  | literal place | byte place | opener _ place _ | closer _ place => some place
  | blank _ | substitution _ => none

/-- A substitution is a group of braces. -/
def opens (group : Group) : Piece → Bool
  | opener g _ _ => g = group
  | substitution _ => group = .brace
  | _ => false

def closes (group : Group) : Piece → Bool
  | closer g _ => g = group
  | _ => false

/-- What an opener is taken for. A substitution is an operand, as an object is. -/
def flag : Piece → Bool
  | opener _ _ flag => flag
  | substitution _ => true
  | _ => false

/-- What stands in the text at the start of a piece. -/
def Fits (src : List UInt8) : Piece → Prop
  | blank start => ∃ b, src[start]? = some b ∧ (isSpace (asChar b) ∨ asChar b = '/')
  | literal start => ∃ b, src[start]? = some b ∧ asChar b ∈ ['\'', '"', '`', '/']
  | byte place => ∃ b, src[place]? = some b ∧ isSpace (asChar b) = false ∧
      asChar b ∉ ['\'', '"', '`', '(', ')', '\x7b', '\x7d']
  | opener group place _ => ∃ b, src[place]? = some b ∧ asChar b = group.opening
  | closer group place => ∃ b, src[place]? = some b ∧ asChar b = group.closing
  | substitution place => ∃ b, src[place]? = some b ∧ asChar b = '$'

end Piece

/-- The piece that starts with a byte of code other than a backtick. What a slash starts, and what
an opener is taken for, is decided by what is remembered there. -/
def pieceAt (src : List UInt8) (st : State) (b : UInt8) : Piece :=
  if asChar b = '\'' ∨ asChar b = '"' then .literal st.pos
  else if asChar b = '/' then
    if src[st.pos + 1]?.any (asChar · = '/') ∨ src[st.pos + 1]?.any (asChar · = '*') then
      .blank st.pos
    else if (regexAllowed src st).toOption = some true then .literal st.pos
    else .byte st.pos
  else if asChar b = '(' then
    .opener .paren st.pos ((opensControlHeader src st).toOption = some true)
  else if asChar b = ')' then .closer .paren st.pos
  else if asChar b = '\x7b' then .opener .brace st.pos ((opensObject src st).toOption = some true)
  else if asChar b = '\x7d' then .closer .brace st.pos
  else if isSpace (asChar b) then .blank st.pos
  else .byte st.pos

/-! ### Heads -/

/-- The head of a loop: what is remembered there, the template whose text is read, if it is not
code, and the substitutions around, innermost first, with the number of braces open inside. -/
structure Head where
  state : State := {}
  template : Option Nat := none
  outer : List OpenTemplate := []

variable {src : List UInt8} {st next : State} {b : UInt8} {start place depth : Nat}
  {outer : List OpenTemplate} {group : Group} {piece : Piece} {pieces before : List Piece}

/-- A turn of a loop, from its head to the next one, over a piece or over none. Outside of all
substitutions a brace ends a search, and the next one goes on behind it. -/
inductive Step (src : List UInt8) : Head → Option Piece → Head → Prop
  | on {st next : State} {outer : List OpenTemplate} {b : UInt8} (hb : src[st.pos]? = some b)
    (hturn : turn src st b = .ok (.on next)) :
    Step src ⟨st, none, outer⟩ (some (pieceAt src st b)) ⟨next, none, outer⟩
  | brace {st next : State} {b : UInt8} {brace : Brace} (hb : src[st.pos]? = some b)
    (hturn : turn src st b = .ok (.brace brace next)) :
    Step src ⟨st, none, []⟩ (some (pieceAt src st b)) ⟨next, none, []⟩
  | opens {st next : State} {start depth : Nat} {outer : List OpenTemplate} {b : UInt8}
    (hb : src[st.pos]? = some b) (hturn : turn src st b = .ok (.brace .opening next)) :
    Step src ⟨st, none, ⟨start, depth⟩ :: outer⟩ (some (pieceAt src st b))
      ⟨next, none, ⟨start, depth + 1⟩ :: outer⟩
  | closes {st next : State} {start depth : Nat} {outer : List OpenTemplate} {b : UInt8}
    (hb : src[st.pos]? = some b) (hturn : turn src st b = .ok (.brace .closing next)) :
    Step src ⟨st, none, ⟨start, depth + 2⟩ :: outer⟩ (some (pieceAt src st b))
      ⟨next, none, ⟨start, depth + 1⟩ :: outer⟩
  /-- The last brace of a substitution leads back to the text of the template. -/
  | leaves {st next : State} {start : Nat} {outer : List OpenTemplate} {b : UInt8}
    (hb : src[st.pos]? = some b) (hturn : turn src st b = .ok (.brace .closing next)) :
    Step src ⟨st, none, ⟨start, 1⟩ :: outer⟩ (some (pieceAt src st b)) ⟨next, some start, outer⟩
  | enters {st : State} {outer : List OpenTemplate} {b : UInt8} (hb : src[st.pos]? = some b)
    (hturn : turn src st b = .ok .template) :
    Step src ⟨st, none, outer⟩ none ⟨{ st with pos := st.pos + 1 }, some st.pos, outer⟩
  | escape {st : State} {start : Nat} {outer : List OpenTemplate} {b : UInt8}
    (hb : src[st.pos]? = some b) (hescape : asChar b = '\\') :
    Step src ⟨st, some start, outer⟩ none ⟨{ st with pos := st.pos + 2 }, some start, outer⟩
  | char {st : State} {start : Nat} {outer : List OpenTemplate} {b : UInt8}
    (hb : src[st.pos]? = some b) (hescape : asChar b ≠ '\\') (hclose : asChar b ≠ '`')
    (hdollar : ¬(asChar b = '$' ∧ src[st.pos + 1]?.any (asChar · = '\x7b'))) :
    Step src ⟨st, some start, outer⟩ none ⟨{ st with pos := st.pos + 1 }, some start, outer⟩
  | substitutes {st : State} {start : Nat} {outer : List OpenTemplate} {b : UInt8}
    (hb : src[st.pos]? = some b) (hdollar : asChar b = '$')
    (hbrace : src[st.pos + 1]?.any (asChar · = '\x7b')) :
    Step src ⟨st, some start, outer⟩ (some (.substitution st.pos))
      ⟨{ st with pos := st.pos + 2, prev := none, braces := true :: st.braces }, none,
        ⟨start, 1⟩ :: outer⟩
  | ends {st : State} {start : Nat} {outer : List OpenTemplate} {b : UInt8}
    (hb : src[st.pos]? = some b) (hclose : asChar b = '`') :
    Step src ⟨st, some start, outer⟩ (some (.literal start))
      ⟨{ st with pos := st.pos + 1, prev := some start }, none, outer⟩

/-- The heads that a fresh scanner gets to, each with the pieces in front of it, latest first. -/
inductive Reaches (src : List UInt8) : List Piece → Head → Prop
  | fresh : Reaches src [] {}
  | step {pieces : List Piece} {head next : Head} {piece : Option Piece}
    (h : Reaches src pieces head) (hstep : Step src head piece next) :
    Reaches src (piece.toList ++ pieces) next

/-- What is remembered between searches for braces, the first of which a fresh scanner makes. -/
inductive Searched (src : List UInt8) : State → Prop
  | fresh : Searched src {}
  | next {st next : State} {found : Option (Nat × Brace)} (h : Searched src st)
    (hnext : nextBrace src st = .ok (found, next)) : Searched src next

/-! ### Looking back -/

/-- The openers of the groups that are open behind a history, innermost first, without those of the
`inner` innermost ones. -/
def openersAround (group : Group) : Nat → List Piece → List Piece
  | _, [] => []
  | inner, piece :: before =>
    if piece.opens group then
      match inner with
      | 0 => piece :: openersAround group 0 before
      | inner + 1 => openersAround group inner before
    else if piece.closes group then openersAround group (inner + 1) before
    else openersAround group inner before

def openers (group : Group) (pieces : List Piece) : List Piece := openersAround group 0 pieces

/-- Without the blanks at the end. -/
def significant (pieces : List Piece) : List Piece := pieces.dropWhile Piece.isBlank

/-- The place of the last piece that is no blank; none at the start of a text and of a
substitution. -/
def lastPlace (pieces : List Piece) : Option Nat := (significant pieces).head?.bind Piece.place

/-- A regular expression may follow what closes a group: the header of a control statement, but not
an object. -/
def allowsRegex (group : Group) (before : List Piece) : Bool :=
  match group with
  | .paren => (openers .paren before).head?.any Piece.flag
  | .brace => !(openers .brace before).head?.any Piece.flag

/-- The last closer, and whether a regular expression may follow it. -/
def lastClosed : List Piece → Option (Nat × Bool)
  | [] => none
  | .closer group place :: before => some (place, allowsRegex group before)
  | _ :: before => lastClosed before

/-- Every closing brace up to here closes a brace or a substitution that is open. -/
def NoStrayBrace (pieces : List Piece) : Prop :=
  ∀ before, before <:+ pieces → before.countP (·.closes .brace) ≤ before.countP (·.opens .brace)

/-- One group further out is one more group that is left out. -/
theorem openersAround_succ (group : Group) (inner : Nat) (pieces : List Piece) :
    openersAround group (inner + 1) pieces = (openersAround group inner pieces).tail := by
  induction pieces generalizing inner with
  | nil => rfl
  | cons piece before ih =>
    by_cases hopens : piece.opens group
    · cases inner with
      | zero => simp [openersAround, hopens]
      | succ inner => simpa [openersAround, hopens] using ih inner
    · by_cases hcloses : piece.closes group
      · simpa [openersAround, hopens, hcloses] using ih (inner + 1)
      · simpa [openersAround, hopens, hcloses] using ih inner

theorem openers_cons_of_opens (h : piece.opens group) :
    openers group (piece :: before) = piece :: openers group before := by
  simp [openers, openersAround, h]

theorem openers_cons_of_closes (h : piece.closes group) :
    openers group (piece :: before) = (openers group before).tail := by
  have hopens : piece.opens group = false := by
    cases piece <;> simp_all [Piece.closes, Piece.opens]
  simpa [openers, openersAround, h, hopens] using openersAround_succ group 0 before

theorem openers_cons_of_passes (hopens : piece.opens group = false)
    (hcloses : piece.closes group = false) :
    openers group (piece :: before) = openers group before := by
  simp [openers, openersAround, hopens, hcloses]

theorem mem_of_mem_openers (h : piece ∈ openers group pieces) : piece ∈ pieces := by
  induction pieces with
  | nil => cases h
  | cons last before ih =>
    cases hopens : last.opens group with
    | true =>
      rw [openers_cons_of_opens hopens] at h
      exact List.mem_cons.mpr ((List.mem_cons.mp h).imp_right ih)
    | false =>
      refine List.mem_cons_of_mem _ (ih ?_)
      cases hcloses : last.closes group with
      | true => exact List.mem_of_mem_tail (openers_cons_of_closes hcloses ▸ h)
      | false => exact openers_cons_of_passes hopens hcloses ▸ h

theorem NoStrayBrace.tail (h : NoStrayBrace (piece :: pieces)) : NoStrayBrace pieces :=
  fun before hbefore ↦ h before (hbefore.trans (List.suffix_cons piece pieces))

/-- As long as no closer is stray, one group is open for each opener, less one for each closer. -/
theorem NoStrayBrace.length_openers (h : NoStrayBrace pieces) :
    (openers .brace pieces).length + pieces.countP (·.closes .brace) =
      pieces.countP (·.opens .brace) := by
  induction pieces with
  | nil => rfl
  | cons piece before ih =>
    have hbefore := ih h.tail
    have hcount := h _ (List.suffix_refl _)
    cases hopens : piece.opens .brace with
    | true =>
      have hcloses : piece.closes .brace = false := by
        cases piece <;> simp_all [Piece.closes, Piece.opens]
      simp only [openers_cons_of_opens hopens, List.countP_cons, hopens, hcloses,
        List.length_cons, if_true, Bool.false_eq_true, if_false]
      omega
    | false =>
      cases hcloses : piece.closes .brace with
      | true =>
        simp only [List.countP_cons, hopens, hcloses, if_true, Bool.false_eq_true, if_false]
          at hcount ⊢
        rw [openers_cons_of_closes hcloses, List.length_tail]
        omega
      | false =>
        simpa [openers_cons_of_passes hopens hcloses, List.countP_cons, hopens, hcloses]
          using hbefore

/-- A closing brace that is not stray belongs to an opener. -/
theorem NoStrayBrace.exists_opener (h : NoStrayBrace (.closer .brace place :: pieces)) :
    ∃ opener rest, openers .brace pieces = opener :: rest := by
  have hbefore := h.tail.length_openers
  have hcount := h _ (List.suffix_refl _)
  rw [List.countP_cons_of_pos rfl, List.countP_cons_of_neg (by simp [Piece.opens])] at hcount
  exact List.exists_cons_of_length_pos (by omega)

@[simp] theorem significant_blank : significant (.blank place :: before) = significant before := rfl

theorem significant_of_not_blank (h : piece.isBlank = false) :
    significant (piece :: before) = piece :: before := by
  simp [significant, h]

theorem mem_of_mem_significant (h : piece ∈ significant pieces) : piece ∈ pieces :=
  (List.dropWhile_suffix _).subset h

/-- Behind a closer, but for blanks, it is the last one. -/
theorem lastClosed_of_significant (h : significant pieces = .closer group place :: before) :
    lastClosed pieces = some (place, allowsRegex group before) := by
  induction pieces with
  | nil => cases h
  | cons piece rest ih =>
    cases piece with
    | blank => exact ih h
    | closer =>
      obtain ⟨hpiece, rfl⟩ := List.cons.inj h
      cases hpiece
      rfl
    | _ => cases h

theorem exists_closer_of_lastClosed {allowed : Bool}
    (h : lastClosed pieces = some (place, allowed)) :
    ∃ group, .closer group place ∈ pieces := by
  induction pieces with
  | nil => cases h
  | cons piece rest ih =>
    cases piece with
    | closer group =>
      cases h
      exact ⟨group, List.mem_cons_self⟩
    | _ =>
      obtain ⟨group, hgroup⟩ := ih h
      exact ⟨group, List.mem_cons_of_mem _ hgroup⟩

end BrowserScript.Wrapper.Bytes
