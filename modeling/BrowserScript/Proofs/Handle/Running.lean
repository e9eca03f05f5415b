import Mathlib
import BrowserScript.Proofs.Reading.Reader

/-!
Running a reader from one state. A reader that looks at a token leaves it at hand, whether it was at
hand before, had been looked at in advance, or is read only now (`Shows`); all that the readers of
single tokens answer follows from the token. What a compound reader does is then put together from
its parts, one after the other (`run_bind`).
-/

set_option autoImplicit false
set_option relaxedAutoImplicit false

namespace BrowserScript.Script

variable {α β : Type} {s s' : ReadState} {l : Lexeme} {name : String}

/-! ### Composed readers -/

@[simp]
theorem run_bind (x : Reader α) (f : α → Reader β) (s : ReadState) :
    (x >>= f) s = match x s with
      | (.ok a, s') => f a s'
      | (.error e, s') => (.error e, s') := by
  show ExceptT.bindCont f (x s).1 (x s).2 = _
  rcases x s with ⟨_ | a, s'⟩ <;> rfl

@[simp]
theorem run_map (f : α → β) (x : Reader α) (s : ReadState) :
    (f <$> x) s = match x s with
      | (.ok a, s') => (.ok (f a), s')
      | (.error e, s') => (.error e, s') := by
  rw [map_eq_pure_bind, run_bind]
  rfl

@[simp]
theorem run_pure (a : α) (s : ReadState) : (pure a : Reader α) s = (.ok a, s) := rfl

@[simp]
theorem run_throw (placed : Placed) (s : ReadState) :
    (throw placed : Reader α) s = (.error placed, s) := rfl

@[simp]
theorem run_get (s : ReadState) : (get : Reader ReadState) s = (.ok s, s) := rfl

@[simp]
theorem run_modify (f : ReadState → ReadState) (s : ReadState) :
    (modify f : Reader Unit) s = (.ok (), f s) := rfl

@[simp]
theorem run_context (s : ReadState) : Reader.context s = (.ok s.context, s) := rfl

@[simp]
theorem run_previousStart (s : ReadState) :
    Reader.previousStart s = (.ok s.previousStart, s) := rfl

@[simp]
theorem run_noteIf (condition : Bool) (fault : Fault) (pos : Nat) (s : ReadState) :
    Reader.noteIf condition fault pos s =
      if condition then Reader.note fault pos s else (.ok (), s) := by
  cases condition <;> rfl

@[simp]
theorem run_tryCatch (x : Reader α) (handle : Placed → Reader α) (s : ReadState) :
    (tryCatch x handle) s = match x s with
      | (.ok a, s') => (.ok a, s')
      | (.error e, s') => handle e s' := by
  simp only [tryCatch, tryCatchThe, MonadExceptOf.tryCatch, ExceptT.tryCatch, ExceptT.mk, bind,
    StateT.bind]
  rcases x s with ⟨_ | a, s'⟩ <;> rfl

def ReadState.inContext (s : ReadState) (c : Context) : ReadState := { s with context := c }

@[simp]
theorem ReadState.inContext_inContext (s : ReadState) (c c' : Context) :
    (s.inContext c).inContext c' = s.inContext c' := rfl

@[simp]
theorem ReadState.inContext_self (s : ReadState) : s.inContext s.context = s := rfl

/-- The context is changed for the part only. -/
theorem run_within (change : Context → Context) (part : Reader α) (s : ReadState) :
    Reader.within change part s =
      match part (s.inContext (change s.context)) with
      | (result, s') => (result, s'.inContext s.context) := by
  simp only [Reader.within, run_bind, run_get, run_modify, Reading.tryFinally_run]
  show (match part (s.inContext (change s.context)) with
    | (.ok a, s') => _
    | (.error e, s') => _) = _
  rcases part (s.inContext (change s.context)) with ⟨_ | a, s'⟩ <;> rfl

/-- A change that changes nothing here. -/
theorem run_within_of_eq {change : Context → Context} (h : change s.context = s.context)
    (part : Reader α) :
    Reader.within change part s =
      match part s with
      | (result, s') => (result, s'.inContext s.context) := by
  rw [run_within, h, ReadState.inContext_self]

/-! ### The token at hand -/

/-- A token of the script, neither its end nor text that is no token. -/
def Token.IsPlain (token : Token) : Prop := token ≠ .eof ∧ ∀ stray, token ≠ .stray stray

theorem isPlain_of_word (h : l.token = .word name) : l.token.IsPlain := by simp [Token.IsPlain, h]

theorem isPlain_of_mark {mark : String} (h : l.token = .mark mark) : l.token.IsPlain := by
  simp [Token.IsPlain, h]

/-- The state behind a token that has been passed. -/
def ReadState.behind (s : ReadState) (l : Lexeme) : ReadState :=
  { s with current := none, previousStart := l.start, previousEnd := l.after.pos }

/-- A reader that looks at a token finds this one, and leaves it at hand. -/
structure Shows (s : ReadState) (l : Lexeme) (s' : ReadState) : Prop where
  lexeme : Reader.lexeme s = (.ok l, s')
  current : s'.current = some l

theorem Shows.of_current (h : s.current = some l) : Shows s l s :=
  ⟨by simp [Reader.lexeme, h], h⟩

theorem keep?_of_isPlain (h : l.token.IsPlain) : Reader.keep? l = some l := by
  unfold Reader.keep?
  split
  · next heof => exact absurd heof h.1
  · rfl

/-- A token that has been looked at in advance. -/
theorem Shows.of_next (hcurrent : s.current = none) (hnext : s.next = some l)
    (htoken : l.token.IsPlain) : Shows s l { s with current := some l, next := none } := by
  refine ⟨?_, rfl⟩
  simp [Reader.lexeme, hcurrent, hnext, keep?_of_isPlain htoken]

/-- The state in which a token that has just been read is at hand. -/
def ReadState.shown (s : ReadState) (l : Lexeme) : ReadState :=
  { s with current := some l, next := none, rest := l.after }

/-- A token that is read only now. -/
theorem Shows.of_read (hcurrent : s.current = none) (hnext : s.next = none)
    (hread : s.readLexeme = l) (hfaults : l.faults = []) (htoken : l.token.IsPlain) :
    Shows s l (s.shown l) := by
  refine ⟨?_, rfl⟩
  simp only [Reader.lexeme, run_bind, run_get, hcurrent, hnext, Reader.readLexeme, hread, hfaults]
  show (_, { s with current := Reader.keep? l, next := none, rest := l.after }) = _
  rw [keep?_of_isPlain htoken]
  rfl

namespace Shows

theorem again (h : Shows s l s') : Shows s' l s' := .of_current h.current

theorem token (h : Shows s l s') : Reader.token s = (.ok l.token, s') := by
  simp [Reader.token, h.lexeme]

theorem isMark (h : Shows s l s') (mark : String) :
    Reader.isMark mark s = (.ok (l.token.isMark mark), s') := by
  simp [Reader.isMark, h.token]

theorem isWord (h : Shows s l s') (word : String) :
    Reader.isWord word s = (.ok (l.token.isWord word), s') := by
  simp [Reader.isWord, h.token]

theorem here (h : Shows s l s') (htoken : l.token.IsPlain) :
    Reader.here s = (.ok l.start, s') := by
  simp [Reader.here, h.lexeme, htoken.1]

theorem isEof (h : Shows s l s') (htoken : l.token.IsPlain) :
    Reader.isEof s = (.ok false, s') := by
  simp [Reader.isEof, h.token, htoken.1]

theorem demandToken (h : Shows s l s') (hword : l.token = .word name) :
    Reader.demandToken s = (.ok (), s') := by
  simp [Reader.demandToken, h.token, hword]

theorem advance (h : Shows s l s') : Reader.advance s = (.ok (), s'.behind l) := by
  simp [Reader.advance, h.lexeme, ReadState.behind]

theorem eatMark (h : Shows s l s') (mark : String) :
    Reader.eatMark mark s =
      if l.token.isMark mark then (.ok true, s'.behind l) else (.ok false, s') := by
  cases hmark : l.token.isMark mark <;> simp [Reader.eatMark, h.isMark, hmark, h.again.advance]

theorem eatWord (h : Shows s l s') (word : String) :
    Reader.eatWord word s =
      if l.token.isWord word then (.ok true, s'.behind l) else (.ok false, s') := by
  cases hword : l.token.isWord word <;> simp [Reader.eatWord, h.isWord, hword, h.again.advance]

end Shows

theorem passStray_of_current (hcurrent : s.current = some l) (htoken : l.token.IsPlain) :
    Reader.passStray s = (.ok none, s) := by
  simp [Reader.passStray, (Shows.of_current hcurrent).token, htoken.2]

/-- The state with one more fault noted. -/
def ReadState.noting (s : ReadState) (placed : Placed) : ReadState :=
  { s with faults := placed :: s.faults }

/-- At a token only the fault itself is noted. -/
theorem note_of_current (hcurrent : s.current = some l) (htoken : l.token.IsPlain) (fault : Fault)
    (pos : Nat) : Reader.note fault pos s = (.ok (), s.noting ⟨fault, pos⟩) := by
  simp [Reader.note, passStray_of_current hcurrent htoken, ReadState.noting]

/-- A fault at a token is raised where the token starts. -/
theorem raiseHere_of_current (hcurrent : s.current = some l) (htoken : l.token.IsPlain)
    (fault : Fault) :
    (Reader.raiseHere fault : Reader α) s = (.error ⟨fault, l.start⟩, s) := by
  have hstart : Reader.tokenStart s = (.ok l.start, s) := by simp [Reader.tokenStart, hcurrent]
  simp [Reader.raiseHere, Reader.raise, hstart, passStray_of_current hcurrent htoken]

/-! ### Tokens to come -/

/-- The state behind a token that has been read and passed. -/
def ReadState.past (s : ReadState) (l : Lexeme) : ReadState := (s.shown l).behind l

@[simp]
theorem ReadState.shown_behind (s : ReadState) (l : Lexeme) : (s.shown l).behind l = s.past l := rfl

/-- These are the next tokens, none of which has been looked at, by the rules of every context. -/
inductive Upcoming : ReadState → List Lexeme → Prop
  | nil (s : ReadState) : Upcoming s []
  | cons {s : ReadState} {l : Lexeme} {later : List Lexeme} (hcurrent : s.current = none)
      (hnext : s.next = none) (hread : ∀ c, (s.inContext c).readLexeme = l)
      (hfaults : l.faults = []) (htoken : l.token.IsPlain) (hlater : Upcoming (s.past l) later) :
      Upcoming s (l :: later)

theorem Upcoming.inContext {tokens : List Lexeme} (h : Upcoming s tokens) (c : Context) :
    Upcoming (s.inContext c) tokens := by
  induction h with
  | nil => exact .nil _
  | cons hcurrent hnext hread hfaults htoken _ ih =>
    exact .cons hcurrent hnext hread hfaults htoken ih

/-- The first token is found; behind it the others come. -/
theorem Upcoming.step {later : List Lexeme} (h : Upcoming s (l :: later)) :
    Shows s l (s.shown l) ∧ Upcoming (s.past l) later := by
  cases h with
  | cons hcurrent hnext hread hfaults htoken hlater =>
    exact ⟨.of_read hcurrent hnext (hread s.context) hfaults htoken, hlater⟩

end BrowserScript.Script
