import BrowserScript.BuildError
import BrowserScript.Unwrapping

/-!
The scanner of wrappers over the bytes of a text. It keeps a position, looks bytes up by their
index, and cuts parts out of the text, and each of these may fault: an index may lie behind the end,
a part may begin or end inside of a character, a depth may have to go below zero. Braces, templates
and the substitutions inside of templates call each other; every call stands further on in the text
than the one that it comes from, or hands on the place that it stands at.
-/

set_option autoImplicit false
set_option relaxedAutoImplicit false

namespace BrowserScript.Wrapper.Bytes

open Text

/-- The UTF-8 form of a text. -/
def encode (text : List Char) : List UInt8 := text.flatMap String.utf8EncodeChar

/-- An access that a text does not allow. -/
inductive Fault where
  /-- No byte has the index. -/
  | byte (index : Nat)
  /-- The bounds of a part are out of order, or the part goes on behind the end. -/
  | part (low high : Nat)
  /-- A part begins or ends inside of a character. -/
  | boundary (low high : Nat)
  /-- A depth is to be lowered that is zero. -/
  | depth
  deriving DecidableEq, Repr

/-- What keeps a scan from its result. -/
inductive Stop where
  | fault (fault : Fault)
  | refused (cause : BuildError)
  deriving DecidableEq, Repr

def Stop.malformed (cause : ShapeError) : Stop := .refused (.malformedBundle cause)

def Stop.unterminated (kind : LiteralKind) (start : Nat) : Stop :=
  .malformed (.unterminated ⟨kind, start⟩)

/-! ### Access -/

/-- The character that a byte is on its own. -/
def asChar (b : UInt8) : Char := Char.ofUInt8 b

def byteAt (src : List UInt8) (index : Nat) : Except Stop UInt8 :=
  match src[index]? with
  | some b => .ok b
  | none => .error (.fault (.byte index))

/-- The bytes from `low` up to `high`. -/
def part (src : List UInt8) (low high : Nat) : Except Stop (List UInt8) :=
  if low ≤ high ∧ high ≤ src.length then .ok ((src.take high).drop low)
  else .error (.fault (.part low high))

/-- No character goes on at a boundary. -/
def isBoundary (src : List UInt8) (index : Nat) : Bool :=
  index = 0 || index = src.length || src[index]?.any fun b ↦ b < 0x80 || 0xC0 ≤ b

/-- The bytes from `low` up to `high`, which are a text of their own. -/
def textPart (src : List UInt8) (low high : Nat) : Except Stop (List UInt8) :=
  if isBoundary src low && isBoundary src high then part src low high
  else .error (.fault (.boundary low high))

def lower : Nat → Except Stop Nat
  | 0 => .error (.fault .depth)
  | depth + 1 => .ok depth

/-! ### Literals and comments -/

/-- The place behind a string. An escape takes the two bytes at its start, which may end inside of a
character or behind the text. -/
def skipString (src : List UInt8) (quote : Char) (start pos : Nat) : Except Stop Nat :=
  match h : src[pos]? with
  | none => .error (.unterminated .stringLiteral start)
  | some b =>
    have : pos < src.length := (List.getElem?_eq_some_iff.mp h).1
    if asChar b = '\\' then skipString src quote start (pos + 2)
    else if asChar b = '\n' then .error (.unterminated .stringLiteral start)
    else if asChar b = quote then .ok (pos + 1)
    else skipString src quote start (pos + 1)
  termination_by src.length - pos

/-- The place behind the letters from a place on. -/
def skipFlags (src : List UInt8) (pos : Nat) : Nat :=
  match h : src[pos]? with
  | none => pos
  | some b =>
    have : pos < src.length := (List.getElem?_eq_some_iff.mp h).1
    if (asChar b).isAlpha then skipFlags src (pos + 1) else pos
  termination_by src.length - pos

/-- The place behind a regular expression and its flags. -/
def skipRegex (src : List UInt8) (start : Nat) (inClass : Bool) (pos : Nat) : Except Stop Nat :=
  match h : src[pos]? with
  | none => .error (.unterminated .regex start)
  | some b =>
    have : pos < src.length := (List.getElem?_eq_some_iff.mp h).1
    if asChar b = '\\' then skipRegex src start inClass (pos + 2)
    else if asChar b = '\n' then .error (.unterminated .regex start)
    else if asChar b = '[' then skipRegex src start true (pos + 1)
    else if asChar b = ']' then skipRegex src start false (pos + 1)
    else if asChar b = '/' ∧ inClass = false then .ok (skipFlags src (pos + 1))
    else skipRegex src start inClass (pos + 1)
  termination_by src.length - pos

/-- The place of the next line feed, or the end of the text. -/
def skipLineComment (src : List UInt8) (pos : Nat) : Except Stop Nat := do
  let rest ← part src pos src.length
  return match rest.findIdx? fun b ↦ asChar b = '\n' with
    | some i => pos + i
    | none => src.length

/-- The index of the first `*/`. -/
def commentEnd : List UInt8 → Option Nat
  | b :: b' :: rest =>
    if asChar b = '*' ∧ asChar b' = '/' then some 0
    else (commentEnd (b' :: rest)).map (· + 1)
  | _ => none

/-- The place behind the block comment that starts at `start`. -/
def skipBlockComment (src : List UInt8) (start : Nat) : Except Stop Nat := do
  let rest ← part src (start + 2) src.length
  match commentEnd rest with
  | some i => return start + 2 + i + 2
  | none => throw (.unterminated .blockComment start)

/-! ### What stands in front of a place -/

/-- What the scanner remembers. -/
structure State where
  pos : Nat := 0
  /-- The last byte that is neither space nor part of a comment; the start of a literal stands for
  the literal. -/
  prev : Option Nat := none
  /-- Open parentheses, innermost first; `true` for a control header. -/
  parens : List Bool := []
  /-- Open braces, innermost first; `true` for an object literal or a substitution. -/
  braces : List Bool := []
  /-- The last closing parenthesis or brace, and whether a regular expression may follow it. -/
  closed : Option (Nat × Bool) := none
  deriving DecidableEq, Repr

def isWordByte (b : UInt8) : Bool := isWordChar (asChar b)

def isOneOf (words : List String) (word : List UInt8) : Bool :=
  words.any fun w ↦ encode w.toList = word

/-- Where the word at the end of a text starts. -/
def wordStart (bytes : List UInt8) : Nat :=
  bytes.length - (bytes.reverse.takeWhile isWordByte).length

/-- The word that ends with the last byte that is remembered. -/
def prevWord (src : List UInt8) (st : State) : Except Stop (Option (List UInt8)) :=
  match st.prev with
  | none => .ok none
  | some prev => do
    let b ← byteAt src prev
    if isWordByte b then
      let front ← part src 0 (prev + 1)
      let word ← part src (wordStart front) (prev + 1)
      return some word
    else return none

/-- The last byte allows a regular expression, unless it closes something. -/
def regexAllowedBehind (src : List UInt8) (st : State) (prev : Nat) : Except Stop Bool := do
  match ← prevWord src st with
  | some word => return isOneOf regexWords word
  | none =>
    let b ← byteAt src prev
    return !([')', ']', '\'', '"', '`', '/'].contains (asChar b))

def regexAllowed (src : List UInt8) (st : State) : Except Stop Bool :=
  match st.prev, st.closed with
  | none, _ => .ok true
  | some prev, some (place, allowed) =>
    if place = prev then .ok allowed else regexAllowedBehind src st prev
  | some prev, none => regexAllowedBehind src st prev

/-- A `>` opens an object unless it ends an arrow. -/
def opensObject (src : List UInt8) (st : State) : Except Stop Bool :=
  match st.prev with
  | none => .ok false
  | some prev => do
    match ← prevWord src st with
    | some word => return isOneOf expressionWords word
    | none =>
      let b ← byteAt src prev
      if asChar b = '>' then
        if prev = 0 then return true
        else
          let before ← byteAt src (prev - 1)
          return asChar before ≠ '='
      else return operandChars.contains (asChar b)

def opensControlHeader (src : List UInt8) (st : State) : Except Stop Bool := do
  match ← prevWord src st with
  | some word => return isOneOf controlWords word
  | none => return false

/-! ### Tokens -/

/-- What the scanner does at a byte: it goes on, passes a brace, or enters a template. -/
inductive Turn where
  | on (next : State)
  | brace (brace : Brace) (next : State)
  | template
  deriving DecidableEq, Repr

/-- Behind a byte that is read as it is. -/
def State.pass (st : State) (b : UInt8) : State :=
  { st with prev := if isSpace (asChar b) then st.prev else some st.pos, pos := st.pos + 1 }

def State.passLiteral (st : State) (pos : Nat) : State :=
  { st with prev := some st.pos, pos := pos }

/-- What a slash starts. -/
def slashTurn (src : List UInt8) (st : State) (b : UInt8) : Except Stop Turn :=
  if src[st.pos + 1]?.any (asChar · = '/') then do
    let pos ← skipLineComment src st.pos
    return .on { st with pos := pos }
  else if src[st.pos + 1]?.any (asChar · = '*') then do
    let pos ← skipBlockComment src st.pos
    return .on { st with pos := pos }
  else do
    if ← regexAllowed src st then
      let pos ← skipRegex src st.pos false (st.pos + 1)
      return .on (st.passLiteral pos)
    else return .on (st.pass b)

def turn (src : List UInt8) (st : State) (b : UInt8) : Except Stop Turn :=
  if asChar b = '\'' ∨ asChar b = '"' then do
    let pos ← skipString src (asChar b) st.pos (st.pos + 1)
    return .on (st.passLiteral pos)
  else if asChar b = '`' then .ok .template
  else if asChar b = '/' then slashTurn src st b
  else if asChar b = '(' then do
    let control ← opensControlHeader src st
    return .on ({ st with parens := control :: st.parens }.pass b)
  else if asChar b = ')' then
    .ok (.on ({ st with
      parens := st.parens.tail
      closed := some (st.pos, st.parens.headD false) }.pass b))
  else if asChar b = '\x7b' then do
    let object ← opensObject src st
    return .brace .opening ({ st with braces := object :: st.braces }.pass b)
  else if asChar b = '\x7d' then
    .ok (.brace .closing ({ st with
      braces := st.braces.tail
      closed := some (st.pos, !st.braces.headD false) }.pass b))
  else .ok (.on (st.pass b))

/-- Where a turn leads to. -/
def Turn.next? : Turn → Option State
  | .on next | .brace _ next => some next
  | .template => none

theorem skipString_pos_lt {src : List UInt8} {quote : Char} {start pos p : Nat}
    (h : skipString src quote start pos = .ok p) : pos < p := by
  fun_induction skipString src quote start pos with
  | case1 | case3 => cases h
  | case2 pos _ _ _ _ ih | case5 pos _ _ _ _ _ _ ih =>
    have := ih h
    omega
  | case4 => cases h; exact Nat.lt_succ_self _

theorem le_skipFlags (src : List UInt8) (pos : Nat) : pos ≤ skipFlags src pos := by
  fun_induction skipFlags src pos with
  | case1 | case3 => exact Nat.le_refl _
  | case2 => omega

theorem skipRegex_pos_lt {src : List UInt8} {start pos p : Nat} {inClass : Bool}
    (h : skipRegex src start inClass pos = .ok p) : pos < p := by
  fun_induction skipRegex src start inClass pos with
  | case1 | case3 => cases h
  | case2 _ _ _ _ _ _ ih | case4 _ _ _ _ _ _ _ _ ih | case5 _ _ _ _ _ _ _ _ _ ih
  | case7 _ _ _ _ _ _ _ _ _ _ ih =>
    have := ih h
    omega
  | case6 _ pos =>
    cases h
    exact le_skipFlags src (pos + 1)

/-- A line comment is at least the slash that it starts with. -/
theorem skipLineComment_pos_lt {src : List UInt8} {b : UInt8} {pos p : Nat}
    (hb : src[pos]? = some b) (hslash : asChar b = '/') (h : skipLineComment src pos = .ok p) :
    pos < p := by
  obtain ⟨hpos, hget⟩ := List.getElem?_eq_some_iff.mp hb
  have hpart : part src pos src.length = .ok (src.drop pos) := by
    simp [part, Nat.le_of_lt hpos]
  rw [skipLineComment, hpart] at h
  simp only [bind, Except.bind, pure, Except.pure, Except.ok.injEq] at h
  subst h
  split
  · next i hi =>
    cases i with
    | zero => simp [List.drop_eq_getElem_cons hpos, hget, hslash, List.findIdx?_cons] at hi
    | succ i => omega
  · exact hpos

theorem skipBlockComment_pos_lt {src : List UInt8} {start p : Nat}
    (h : skipBlockComment src start = .ok p) : start < p := by
  simp only [skipBlockComment, bind, Except.bind, pure, Except.pure] at h
  split at h
  · cases h
  · split at h <;> cases h
    omega

theorem slashTurn_pos_lt {src : List UInt8} {st : State} {b : UInt8} {t : Turn} {next : State}
    (hb : src[st.pos]? = some b) (hslash : asChar b = '/') (h : slashTurn src st b = .ok t)
    (hnext : t.next? = some next) : st.pos < next.pos := by
  unfold slashTurn at h
  simp only [bind, Except.bind, pure, Except.pure] at h
  split at h
  · split at h
    · cases h
    · next hskip =>
      cases h
      cases hnext
      exact skipLineComment_pos_lt hb hslash hskip
  · split at h
    · split at h
      · cases h
      · next hskip =>
        cases h
        cases hnext
        exact skipBlockComment_pos_lt hskip
    · split at h
      · cases h
      · split at h
        · split at h
          · cases h
          · next hskip =>
            cases h
            cases hnext
            exact Nat.lt_of_succ_lt (skipRegex_pos_lt hskip)
        · cases h
          cases hnext
          exact Nat.lt_succ_self _

/-- Every turn goes on in the text. -/
theorem turn_pos_lt {src : List UInt8} {st : State} {b : UInt8} {t : Turn} {next : State}
    (hb : src[st.pos]? = some b) (h : turn src st b = .ok t) (hnext : t.next? = some next) :
    st.pos < next.pos := by
  unfold turn at h
  simp only [bind, Except.bind, pure, Except.pure] at h
  split at h
  · split at h
    · cases h
    · next hskip =>
      cases h
      cases hnext
      exact Nat.lt_of_succ_lt (skipString_pos_lt hskip)
  · split at h
    · cases h
      cases hnext
    · split at h
      · next hslash => exact slashTurn_pos_lt hb hslash h hnext
      · -- all other turns read one byte
        repeat' split at h
        all_goals
          cases h
          try (cases hnext; exact Nat.lt_succ_self _)

/-! ### The scan -/

/-- A brace with its index, if there is one, and what is remembered behind it. A brace is behind the
place that the search for it started at. -/
abbrev Found (src : List UInt8) (st : State) : Type :=
  { found : Option (Nat × Brace) × State //
    found.1.isSome → st.pos < src.length ∧ st.pos < found.2.pos }

mutual

/-- The next brace outside of literals and comments. -/
def findBrace (src : List UInt8) (st : State) : Except Stop (Found src st) :=
  match hb : src[st.pos]? with
  | none => .ok ⟨(none, st), by simp⟩
  | some b =>
    have hlt : st.pos < src.length := (List.getElem?_eq_some_iff.mp hb).1
    match hturn : turn src st b with
    | .error stop => .error stop
    | .ok (.brace brace next) =>
      .ok ⟨(some (st.pos, brace), next), fun _ ↦ ⟨hlt, turn_pos_lt hb hturn rfl⟩⟩
    | .ok (.on next) =>
      have hnext : st.pos < next.pos := turn_pos_lt hb hturn rfl
      match findBrace src next with
      | .error stop => .error stop
      | .ok ⟨found, hfound⟩ =>
        .ok ⟨found, fun h ↦ ⟨hlt, Nat.lt_trans hnext (hfound h).2⟩⟩
    | .ok .template =>
      match passTemplate src st.pos { st with pos := st.pos + 1 } with
      | .error stop => .error stop
      | .ok ⟨after, hafter⟩ =>
        have hnext : st.pos < after.pos := Nat.lt_of_succ_lt hafter
        match findBrace src { after with prev := some st.pos } with
        | .error stop => .error stop
        | .ok ⟨found, hfound⟩ =>
          .ok ⟨found, fun h ↦ ⟨hlt, Nat.lt_trans hnext (hfound h).2⟩⟩
  termination_by (src.length - st.pos, 0)

/-- Reads template text up to the backtick that ends the template, which starts at `start`. -/
def passTemplate (src : List UInt8) (start : Nat) (st : State) :
    Except Stop { next : State // st.pos < next.pos } :=
  match hb : src[st.pos]? with
  | none => .error (.unterminated .template start)
  | some b =>
    have hlt : st.pos < src.length := (List.getElem?_eq_some_iff.mp hb).1
    if asChar b = '\\' then
      match passTemplate src start { st with pos := st.pos + 2 } with
      | .error stop => .error stop
      | .ok ⟨next, hnext⟩ => .ok ⟨next, Nat.lt_trans (by simp) hnext⟩
    else if asChar b = '`' then .ok ⟨{ st with pos := st.pos + 1 }, Nat.lt_succ_self _⟩
    else if asChar b = '$' ∧ src[st.pos + 1]?.any (asChar · = '\x7b') then
      match passSubstitution src start 1
        { st with pos := st.pos + 2, prev := none, braces := true :: st.braces } with
      | .error stop => .error stop
      | .ok ⟨after, hafter⟩ =>
        have : st.pos < after.pos := Nat.lt_of_lt_of_le (by simp) hafter
        match passTemplate src start after with
        | .error stop => .error stop
        | .ok ⟨next, hnext⟩ => .ok ⟨next, Nat.lt_trans this hnext⟩
    else
      match passTemplate src start { st with pos := st.pos + 1 } with
      | .error stop => .error stop
      | .ok ⟨next, hnext⟩ => .ok ⟨next, Nat.lt_trans (by simp) hnext⟩
  termination_by (src.length - st.pos, 0)

/-- Reads the code of a substitution up to the brace that ends it, as long as `depth` braces are
open. -/
def passSubstitution (src : List UInt8) (start depth : Nat) (st : State) :
    Except Stop { next : State // st.pos ≤ next.pos } :=
  if depth = 0 then .ok ⟨st, Nat.le_refl _⟩
  else
    match findBrace src st with
    | .error stop => .error stop
    | .ok ⟨(none, _), _⟩ => .error (.unterminated .template start)
    | .ok ⟨(some (_, .opening), after), hafter⟩ =>
      have _ : st.pos < src.length := (hafter rfl).1
      have hlt : st.pos < after.pos := (hafter rfl).2
      match passSubstitution src start (depth + 1) after with
      | .error stop => .error stop
      | .ok ⟨next, hnext⟩ => .ok ⟨next, Nat.le_trans (Nat.le_of_lt hlt) hnext⟩
    | .ok ⟨(some (_, .closing), after), hafter⟩ =>
      have _ : st.pos < src.length := (hafter rfl).1
      have hlt : st.pos < after.pos := (hafter rfl).2
      match lower depth with
      | .error stop => .error stop
      | .ok lowered =>
        match passSubstitution src start lowered after with
        | .error stop => .error stop
        | .ok ⟨next, hnext⟩ => .ok ⟨next, Nat.le_trans (Nat.le_of_lt hlt) hnext⟩
  termination_by (src.length - st.pos, 1)

end

def nextBrace (src : List UInt8) (st : State) : Except Stop (Option (Nat × Brace) × State) :=
  (findBrace src st).map Subtype.val

def skipTemplate (src : List UInt8) (start : Nat) (st : State) : Except Stop State :=
  (passTemplate src start st).map Subtype.val

def skipSubstitution (src : List UInt8) (start depth : Nat) (st : State) : Except Stop State :=
  (passSubstitution src start depth st).map Subtype.val

/-- A brace is found behind the place where the search for it starts. -/
theorem nextBrace_pos_lt {src : List UInt8} {st next : State} {brace : Nat × Brace}
    (h : nextBrace src st = .ok (some brace, next)) :
    st.pos < src.length ∧ st.pos < next.pos := by
  rw [nextBrace] at h
  cases hfound : findBrace src st with
  | error stop =>
    rw [hfound] at h
    cases h
  | ok found =>
    rw [hfound] at h
    have hval : found.1 = (some brace, next) := Except.ok.inj h
    have hpos := found.2
    rw [hval] at hpos
    exact hpos rfl

theorem nextBrace_eq (src : List UInt8) (st : State) :
    nextBrace src st =
      match src[st.pos]? with
      | none => .ok (none, st)
      | some b =>
        match turn src st b with
        | .error stop => .error stop
        | .ok (.on next) => nextBrace src next
        | .ok (.brace brace next) => .ok (some (st.pos, brace), next)
        | .ok .template =>
          match skipTemplate src st.pos { st with pos := st.pos + 1 } with
          | .error stop => .error stop
          | .ok after => nextBrace src { after with prev := some st.pos } := by
  rw [nextBrace, findBrace]
  split
  · next hb =>
    conv => rhs; rw [hb]
    rfl
  · next b hb =>
    conv => rhs; rw [hb]
    dsimp only
    split
    case h_1 stop hturn =>
      conv => rhs; rw [hturn]
      rfl
    case h_2 brace next hturn =>
      conv => rhs; rw [hturn]
      rfl
    case h_3 next hturn =>
      conv => rhs; rw [hturn]
      show Except.map _ _ = nextBrace src next
      rw [nextBrace]
      cases findBrace src next <;> rfl
    case h_4 hturn =>
      conv => rhs; rw [hturn]
      rw [skipTemplate]
      cases passTemplate src st.pos { st with pos := st.pos + 1 } with
      | error stop => rfl
      | ok after =>
        show Except.map _ _ = nextBrace src { after.1 with prev := some st.pos }
        rw [nextBrace]
        cases hfound : findBrace src { after.1 with prev := some st.pos } <;>
          simp [hfound, Except.map]

theorem skipTemplate_eq (src : List UInt8) (start : Nat) (st : State) :
    skipTemplate src start st =
      match src[st.pos]? with
      | none => .error (.unterminated .template start)
      | some b =>
        if asChar b = '\\' then skipTemplate src start { st with pos := st.pos + 2 }
        else if asChar b = '`' then .ok { st with pos := st.pos + 1 }
        else if asChar b = '$' ∧ src[st.pos + 1]?.any (asChar · = '\x7b') then
          match skipSubstitution src start 1
            { st with pos := st.pos + 2, prev := none, braces := true :: st.braces } with
          | .error stop => .error stop
          | .ok after => skipTemplate src start after
        else skipTemplate src start { st with pos := st.pos + 1 } := by
  rw [skipTemplate, passTemplate]
  split
  · next hb =>
    conv => rhs; rw [hb]
    rfl
  · next b hb =>
    conv => rhs; rw [hb]
    dsimp only
    split
    · rw [skipTemplate]
      cases passTemplate src start { st with pos := st.pos + 2 } <;> rfl
    · split
      · rfl
      · split
        · rw [skipSubstitution]
          cases passSubstitution src start 1
            { st with pos := st.pos + 2, prev := none, braces := true :: st.braces } with
          | error stop => rfl
          | ok after =>
            show Except.map _ _ = skipTemplate src start after.1
            rw [skipTemplate]
            cases hnext : passTemplate src start after.1 <;> simp [hnext, Except.map]
        · rw [skipTemplate]
          cases passTemplate src start { st with pos := st.pos + 1 } <;> rfl

theorem skipSubstitution_eq (src : List UInt8) (start depth : Nat) (st : State) :
    skipSubstitution src start depth st =
      if depth = 0 then .ok st
      else
        match nextBrace src st with
        | .error stop => .error stop
        | .ok (none, _) => .error (.unterminated .template start)
        | .ok (some (_, .opening), after) => skipSubstitution src start (depth + 1) after
        | .ok (some (_, .closing), after) =>
          match lower depth with
          | .error stop => .error stop
          | .ok lowered => skipSubstitution src start lowered after := by
  rw [skipSubstitution, passSubstitution]
  split
  · rfl
  · rw [nextBrace]
    cases hfound : findBrace src st with
    | error stop => rfl
    | ok found =>
      obtain ⟨⟨_ | ⟨place, _ | _⟩, after⟩, hafter⟩ := found
      · rfl
      · show Except.map _ _ = skipSubstitution src start (depth + 1) after
        rw [skipSubstitution]
        cases hnext : passSubstitution src start (depth + 1) after <;> simp [hnext, Except.map]
      · dsimp only [Except.map]
        cases lower depth with
        | error stop => rfl
        | ok lowered =>
          show Except.map _ _ = skipSubstitution src start lowered after
          rw [skipSubstitution]
          cases hnext : passSubstitution src start lowered after <;> simp [hnext, Except.map]

/-! ### The body -/

/-- Follows the braces until `depth` open ones are closed; answers with the index of the last
one and what is remembered behind it. -/
def closingBrace (src : List UInt8) (opening depth : Nat) (st : State) :
    Except Stop (Nat × State) :=
  match h : nextBrace src st with
  | .error stop => .error stop
  | .ok (none, _) => .error (.malformed (.neverClosed opening))
  | .ok (some (_, .opening), next) =>
    have := nextBrace_pos_lt h
    closingBrace src opening (depth + 1) next
  | .ok (some (closing, .closing), next) =>
    have := nextBrace_pos_lt h
    match lower depth with
    | .error stop => .error stop
    | .ok lowered =>
      if lowered = 0 then .ok (closing, next) else closingBrace src opening lowered next
  termination_by src.length - st.pos

/-- The indices of the outermost pair, provided that it is the only one. -/
def outermostPair (src : List UInt8) : Except Stop (Nat × Nat) := do
  match ← nextBrace src {} with
  | (none, _) => throw (.malformed .noBrace)
  | (some (place, .closing), _) => throw (.malformed (.closingFirst place))
  | (some (opening, .opening), st) =>
    let (closing, st) ← closingBrace src opening 1 st
    match ← nextBrace src st with
    | (some (place, _), _) => throw (.malformed (.braceAfterBody place closing))
    | (none, _) => return (opening, closing)

/-- The bytes between the braces of the one wrapper. -/
def functionBody (src : List UInt8) : Except Stop (List UInt8) := do
  let (opening, closing) ← outermostPair src
  textPart src (opening + 1) closing

/-- The bytes of an unwrapped bundle. -/
def unwrap (bundle globalObject : String) : Except Stop (List UInt8) :=
  if isIdentifier globalObject then do
    let body ← functionBody (encode (dropByteOrderMark bundle.toList))
    return encode (scopeDeclaration globalObject).toList ++ body
  else .error (.refused (.invalidGlobal globalObject))

end BrowserScript.Wrapper.Bytes
