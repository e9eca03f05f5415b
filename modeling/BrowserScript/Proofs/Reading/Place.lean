import BrowserScript.Proofs.Reading.Lexeme
import BrowserScript.Script.Grammar.State

/-!
What the state of a reader says of the script. `Sound` holds of a state behind items, where the
tokens that have been looked at are the next ones of the script. Readers keep this up as long as no
fault has been noted, so what is known of a state (`At`) is one of three things: nothing, that there
is a fault, or that the state is sound unless there is one. A reader that fails leaves less behind
than it has found (`Standing.left`).
-/

set_option autoImplicit false
set_option relaxedAutoImplicit false

namespace BrowserScript.Reading

open Script Wrapper

/-! ### Tokens that have been looked at -/

/-- Tokens behind which a reader may look at another one before it passes them. -/
def looksAhead : Token → Bool
  | .word _ => true
  | .mark mark => mark = "?" || mark = "."
  | _ => false

/-- The token has its form, and is not the end of the text. -/
structure Kind (lexeme : Lexeme) : Prop where
  formed : Formed lexeme.token lexeme.here.text lexeme.after.text
  not_eof : lexeme.token ≠ .eof

/-- From the first text on items have been read, and then a token, if there is one. -/
def Ahead (text : List Char) (next : Option Lexeme) (rest : List Char) : Prop :=
  match next with
  | none => Stretch text rest
  | some l => Stretch text l.here.text ∧ Kind l ∧ l.after.text = rest

/-- Items have been read, and the tokens are the next ones behind them. -/
def Sound (script : List Char) (current next : Option Lexeme) (rest : List Char) : Prop :=
  match current with
  | none => Ahead script next rest
  | some c => Stretch script c.here.text ∧ Kind c ∧
      (next = none ∧ c.after.text = rest ∨ looksAhead c.token ∧ Ahead c.after.text next rest)

variable {script rest text : List Char} {current next : Option Lexeme} {c l : Lexeme}

theorem Sound.initial (script : List Char) : Sound script none none script := .refl script

/-- The token that has been looked at in advance is now at hand. -/
theorem Sound.takeNext (h : Sound script none (some l) rest) : Sound script (some l) none rest := by
  obtain ⟨hhere, hkind, hrest⟩ := h
  exact ⟨hhere, hkind, .inl ⟨rfl, hrest⟩⟩

theorem Formed.stretch_eof {after : List Char} (h : Formed .eof text after) :
    Stretch text after := by
  rcases h with ⟨rfl, rfl⟩ | rfl
  · exact .refl []
  · exact .char (by decide) (.refl after)

/-- Reading the next token, or the end of the text. -/
theorem Ahead.read (h : Ahead text none rest) (hblank : Stretch rest l.here.text)
    (hformed : Formed l.token l.here.text l.after.text) :
    Ahead text (Reader.keep? l) l.after.text := by
  have hhere : Stretch text l.here.text := Stretch.trans h hblank
  unfold Reader.keep?
  split
  · next heof =>
    rw [heof] at hformed
    exact hhere.trans hformed.stretch_eof
  · next hnot => exact ⟨hhere, ⟨hformed, hnot⟩, rfl⟩

theorem Sound.read (h : Sound script none none rest) (hblank : Stretch rest l.here.text)
    (hformed : Formed l.token l.here.text l.after.text) :
    Sound script (Reader.keep? l) none l.after.text := by
  have hread := Ahead.read h hblank hformed
  cases hkeep : Reader.keep? l with
  | none =>
    rw [hkeep] at hread
    exact hread
  | some k =>
    rw [hkeep] at hread
    exact Sound.takeNext hread

/-- Looking at the token behind the one at hand. -/
theorem Sound.peek (h : Sound script (some c) none rest) (hlooks : looksAhead c.token)
    (hblank : Stretch rest l.here.text) (hformed : Formed l.token l.here.text l.after.text) :
    Sound script (some c) (Reader.keep? l) l.after.text := by
  obtain ⟨hhere, hkind, hnext⟩ := h
  have hahead : Ahead c.after.text none rest := by
    rcases hnext with ⟨_, rfl⟩ | ⟨_, hahead⟩
    · exact .refl _
    · exact hahead
  exact ⟨hhere, hkind, .inr ⟨hlooks, hahead.read hblank hformed⟩⟩

/-- Passing a token that holds whole items. -/
theorem Sound.pass (h : Sound script (some c) next rest) (hwhole : isWhole c.token) :
    Sound script none next rest := by
  obtain ⟨hhere, hkind, hnext⟩ := h
  have hafter := hhere.trans (hkind.formed.stretch hwhole)
  rcases hnext with ⟨rfl, rfl⟩ | ⟨_, hahead⟩
  · exact hafter
  · cases next with
    | none => exact hafter.trans hahead
    | some n => exact ⟨hafter.trans hahead.1, hahead.2⟩

/-- A mark that is no question mark and no point stands in front of what is left. -/
theorem Sound.mark {mark : String} (h : Sound script (some c) next rest)
    (hmark : c.token = .mark mark) (hlooks : looksAhead (.mark mark) = false) :
    next = none ∧ c.after.text = rest ∧ c.here.text = mark.toList ++ rest ∧
      Stretch script (mark.toList ++ rest) := by
  obtain ⟨hhere, hkind, hnext⟩ := h
  have hformed := hkind.formed
  rw [hmark] at hnext hformed
  rcases hnext with ⟨rfl, rfl⟩ | ⟨htrue, _⟩
  · exact ⟨rfl, rfl, hformed.2.1, hformed.2.1 ▸ hhere⟩
  · rw [hlooks] at htrue
    cases htrue

/-! ### What is known of a state -/

/-- What is known of a state: nothing, that a fault has been noted, or that it is a sound one in
this script, unless a fault has been noted. -/
inductive Standing where
  | unknown
  | faulty
  | sound (script : List Char)

/-- What is known of a state that a reader which fails has left behind. -/
def Standing.left : Standing → Standing
  | .sound _ => .unknown
  | st => st

/-- Of a state with these parts so much is known. -/
def Standing.Admits (st : Standing) (current next : Option Lexeme) (rest : List Char)
    (openRegex : Option Placed) (faults : List Placed) : Prop :=
  match st with
  | .unknown => True
  | .faulty => faults ≠ []
  | .sound script => faults ≠ [] ∨ openRegex = none ∧ Sound script current next rest

/-- So much is known of a state. -/
def At (st : Standing) (s : ReadState) : Prop :=
  st.Admits s.current s.next s.rest.text s.openRegex s.faults

/-- The token at hand, if it has been read, if only in advance. -/
def hand (s : ReadState) : Option Lexeme := s.current.or s.next

/-- The token at hand is this one, unless a fault has been noted. -/
def Shows (token : Token) (s : ReadState) : Prop :=
  s.faults ≠ [] ∨ token ≠ .eof ∧ ∃ l, hand s = some l ∧ l.token = token

/-- The token behind the one at hand is this one, unless a fault has been noted. -/
def ShowsNext (token : Token) (s : ReadState) : Prop :=
  s.faults ≠ [] ∨ token ≠ .eof ∧ s.current ≠ none ∧ ∃ l, s.next = some l ∧ l.token = token

/-- The token at hand holds whole items. -/
def Ready (s : ReadState) : Prop := ∃ token, isWhole token ∧ Shows token s

/-- What the first state shows the second one shows as well. -/
structure Kept (before s : ReadState) : Prop where
  shows : ∀ token, Shows token before → Shows token s
  showsNext : ∀ token, ShowsNext token before → ShowsNext token s

/-- The end of the text has been reached, or a null character, which is taken for it; at least that
holds of a sound state. -/
def Ended (st : Standing) (s : ReadState) : Prop :=
  match st with
  | .sound script => s.faults ≠ [] ∨
      s.current = none ∧ s.next = none ∧ (s.rest.text = [] ∨ '\x00' ∈ script)
  | _ => True

variable {st : Standing} {s before after : ReadState} {token : Token}

@[simp, grind =] theorem Standing.left_left (st : Standing) : st.left.left = st.left := by
  cases st <;> rfl

/-- What is known of a state rests on its tokens and faults alone. -/
@[grind =]
theorem at_with (s : ReadState) (previousStart previousEnd : Nat) (context : Context)
    (arrowStart : Option Nat) (labels : List String) (trailingCommas : List (Nat × Nat))
    (templateStart bound : Nat) :
    At st { s with previousStart, previousEnd, context, arrowStart, labels, trailingCommas,
                   templateStart, bound } = At st s :=
  rfl

@[grind =]
theorem shows_with (s : ReadState) (previousStart previousEnd : Nat) (context : Context)
    (arrowStart : Option Nat) (labels : List String) (trailingCommas : List (Nat × Nat))
    (templateStart bound : Nat) :
    Shows token { s with previousStart, previousEnd, context, arrowStart, labels, trailingCommas,
                         templateStart, bound } = Shows token s :=
  rfl

@[grind =]
theorem kept_with (s : ReadState) (previousStart previousEnd : Nat) (context : Context)
    (arrowStart : Option Nat) (labels : List String) (trailingCommas : List (Nat × Nat))
    (templateStart bound : Nat) :
    Kept { s with previousStart, previousEnd, context, arrowStart, labels, trailingCommas,
                  templateStart, bound } after ↔ Kept s after :=
  ⟨fun h ↦ ⟨h.shows, h.showsNext⟩, fun h ↦ ⟨h.shows, h.showsNext⟩⟩

theorem At.left (h : At st s) : At st.left s := by
  cases st with
  | unknown | sound => trivial
  | faulty => exact h

theorem at_of_fault (h : s.faults ≠ []) : At st s := by
  cases st with
  | unknown => trivial
  | faulty => exact h
  | sound => exact .inl h

theorem at_unknown (s : ReadState) : At .unknown s := trivial

/-- A reader that keeps faults leaves behind as much as one that fails. -/
theorem At.left_of_faults (h : At st before) (hfaults : before.faults ≠ [] → s.faults ≠ []) :
    At st.left s := by
  cases st with
  | unknown | sound => trivial
  | faulty => exact hfaults h

theorem At.left_again (h : At st.left before) (hfaults : before.faults ≠ [] → s.faults ≠ []) :
    At st.left s := by
  have hleft := h.left_of_faults hfaults
  rwa [Standing.left_left] at hleft

theorem shows_of_fault (h : s.faults ≠ []) : Shows token s := .inl h

theorem Kept.refl (s : ReadState) : Kept s s := ⟨fun _ h ↦ h, fun _ h ↦ h⟩

theorem Kept.ready (h : Kept before s) (hready : Ready before) : Ready s := by
  obtain ⟨token, hwhole, hshows⟩ := hready
  exact ⟨token, hwhole, h.shows token hshows⟩

theorem Kept.trans (h : Kept before s) (h' : Kept s after) : Kept before after :=
  ⟨fun token hshows ↦ h'.shows token (h.shows token hshows),
    fun token hshows ↦ h'.showsNext token (h.showsNext token hshows)⟩

theorem kept_of_fault (h : s.faults ≠ []) : Kept before s := ⟨fun _ _ ↦ .inl h, fun _ _ ↦ .inl h⟩

theorem Shows.ready (h : Shows token s) (hwhole : isWhole token) : Ready s := ⟨token, hwhole, h⟩

theorem ready_of_fault (h : s.faults ≠ []) : Ready s := ⟨.mark "", rfl, .inl h⟩

/-- Where no token is at hand, and none behind it, only faults have to be kept. -/
theorem Kept.of_none (hcurrent : before.current = none) (hnext : before.next = none)
    (hfaults : before.faults ≠ [] → s.faults ≠ []) : Kept before s := by
  refine ⟨?_, ?_⟩
  · rintro token (hfault | ⟨_, k, hk, _⟩)
    · exact .inl (hfaults hfault)
    · rw [hand, hcurrent, hnext] at hk
      cases hk
  · rintro token (hfault | ⟨_, hnone, _⟩)
    · exact .inl (hfaults hfault)
    · exact (hnone hcurrent).elim

/-! ### The token at hand -/

/-- The token has been found at hand. -/
structure Finds (st : Standing) (before : ReadState) (l : Lexeme) (s : ReadState) : Prop where
  stands : At st s
  kept : Kept before s
  current : l.token = .eof ∨ s.current = some l
  only : ∀ token, Shows token s → s.faults ≠ [] ∨ l.token = token
  ended : l.token = .eof → Ended st s

theorem Finds.shows (h : Finds st before l s) (hnot : l.token ≠ .eof) : Shows l.token s := by
  refine .inr ⟨hnot, l, ?_, rfl⟩
  rw [hand, h.current.resolve_left hnot]
  rfl

theorem finds_current (hstands : At st s) (hcurrent : s.current = some l) : Finds st s l s := by
  have hhand : hand s = some l := by
    rw [hand, hcurrent]
    rfl
  refine ⟨hstands, .refl s, .inr hcurrent, ?_, ?_⟩
  · rintro token (hfault | ⟨_, k, hk, rfl⟩)
    · exact .inl hfault
    · rw [hhand] at hk
      cases hk
      exact .inr rfl
  · intro heof
    cases st with
    | unknown | faulty => trivial
    | sound =>
      refine hstands.imp_right fun hsound ↦ ?_
      have hkind := hsound.2
      rw [hcurrent] at hkind
      exact (hkind.2.1.not_eof heof).elim

theorem keep?_eq_some (h : l.token ≠ .eof) : Reader.keep? l = some l := by
  unfold Reader.keep?
  split
  · next heof => exact (h heof).elim
  · rfl

theorem keep?_eq_none (h : l.token = .eof) : Reader.keep? l = none := by
  unfold Reader.keep?
  rw [h]

/-- A state in which the token has been put at hand. -/
theorem finds_of_keep (hstands : At st s) (hkept : Kept before s)
    (hcurrent : s.current = Reader.keep? l) (hnext : s.next = none)
    (hended : l.token = .eof → Ended st s) : Finds st before l s := by
  refine ⟨hstands, hkept, ?_, ?_, hended⟩
  · by_cases heof : l.token = .eof
    · exact .inl heof
    · exact .inr (hcurrent.trans (keep?_eq_some heof))
  · rintro token (hfault | ⟨hnot, k, hk, rfl⟩)
    · exact .inl hfault
    · rw [hand, hcurrent, hnext, Option.or_none] at hk
      by_cases heof : l.token = .eof
      · rw [keep?_eq_none heof] at hk
        cases hk
      · rw [keep?_eq_some heof] at hk
        cases hk
        exact .inr rfl

/-- The token that has been looked at in advance is taken. -/
theorem finds_takeNext (hstands : At st s) (hcurrent : s.current = none) (hnext : s.next = some l) :
    Finds st s l { s with current := Reader.keep? l, next := none } := by
  have hhand : hand s = some l := by rw [hand, hcurrent, hnext, Option.none_or]
  have hsound {script : List Char} (hs : Sound script s.current s.next s.rest.text) :
      l.token ≠ .eof ∧ Sound script (some l) none s.rest.text := by
    rw [hcurrent, hnext] at hs
    exact ⟨hs.2.1.not_eof, hs.takeNext⟩
  refine finds_of_keep ?_ ?_ rfl rfl fun heof ↦ ?_
  · cases st with
    | unknown => trivial
    | faulty => exact hstands
    | sound =>
      refine hstands.imp_right fun h ↦ ⟨h.1, ?_⟩
      rw [keep?_eq_some (hsound h.2).1]
      exact (hsound h.2).2
  · refine ⟨?_, ?_⟩
    · rintro token (hfault | ⟨hnot, k, hk, rfl⟩)
      · exact .inl hfault
      · cases hhand.symm.trans hk
        refine .inr ⟨hnot, l, ?_, rfl⟩
        rw [hand, keep?_eq_some hnot]
        rfl
    · rintro token (hfault | ⟨_, hnone, _⟩)
      · exact .inl hfault
      · exact (hnone hcurrent).elim
  · cases st with
    | unknown | faulty => trivial
    | sound => exact hstands.imp_right fun h ↦ ((hsound h.2).1 heof).elim

/-- What a state has noted stays noted when a token is read. -/
theorem faults_readLexeme (h : s.faults ≠ []) : s.readLexeme.faults.reverse ++ s.faults ≠ [] :=
  List.append_ne_nil_of_right_ne_nil _ h

/-- The next token of a sound state. -/
theorem readLexeme_sound (hregex : s.openRegex = none) (hfaults : s.readLexeme.faults = []) :
    Stretch s.rest.text s.readLexeme.here.text ∧
      Formed s.readLexeme.token s.readLexeme.here.text s.readLexeme.after.text := by
  have hnext : s.readLexeme = nextLexeme s.context.toSurroundings (s.rest.pos = 0) s.rest := by
    rw [ReadState.readLexeme, hregex]
  rw [hnext] at hfaults ⊢
  exact ⟨stretch_nextLexeme hfaults, formed_nextLexeme hfaults⟩

/-- Reading a token keeps a state sound, or notes a fault. -/
theorem sound_or_fault (h : At (.sound script) s) :
    s.readLexeme.faults.reverse ++ s.faults ≠ [] ∨
    s.openRegex = none ∧ Sound script s.current s.next s.rest.text ∧
      Stretch s.rest.text s.readLexeme.here.text ∧
      Formed s.readLexeme.token s.readLexeme.here.text s.readLexeme.after.text := by
  rcases h with hfault | ⟨hregex, hsound⟩
  · exact .inl (faults_readLexeme hfault)
  · by_cases hfaults : s.readLexeme.faults = []
    · exact .inr ⟨hregex, hsound, readLexeme_sound hregex hfaults⟩
    · exact .inl (by simp [hfaults])

/-- The next token is read. -/
theorem finds_read (hstands : At st s) (hcurrent : s.current = none) (hnext : s.next = none) :
    Finds st s s.readLexeme
      { s with
        rest := s.readLexeme.after
        faults := s.readLexeme.faults.reverse ++ s.faults
        current := Reader.keep? s.readLexeme
        next := none } := by
  refine finds_of_keep ?_ (.of_none hcurrent hnext faults_readLexeme) rfl rfl fun heof ↦ ?_
  · cases st with
    | unknown => trivial
    | faulty => exact faults_readLexeme hstands
    | sound =>
      refine (sound_or_fault hstands).imp_right fun ⟨hregex, hsound, hblank, hformed⟩ ↦ ⟨hregex, ?_⟩
      rw [hcurrent, hnext] at hsound
      exact hsound.read hblank hformed
  · cases st with
    | unknown | faulty => trivial
    | sound =>
      refine (sound_or_fault hstands).imp_right fun ⟨_, hsound, hblank, hformed⟩ ↦
        ⟨keep?_eq_none heof, rfl, ?_⟩
      rw [hcurrent, hnext] at hsound
      rw [heof] at hformed
      rcases hformed with ⟨_, hafter⟩ | hnull
      · exact .inl hafter
      · refine .inr ((Stretch.trans hsound hblank).suffix.subset ?_)
        rw [hnull]
        exact List.mem_cons_self

/-! ### Behind the token at hand -/

/-- What a state leaves that passes the token it has found. -/
theorem Finds.pass (h : Finds st before l s) (hready : Ready before)
    (hcurrent : after.current = none) (hsame : after.next = s.next ∧ after.rest = s.rest ∧
      after.openRegex = s.openRegex ∧ after.faults = s.faults) :
    At st after := by
  obtain ⟨hnext, hrest, hregex, hfaults⟩ := hsame
  have hstands := h.stands
  cases st with
  | unknown => trivial
  | faulty =>
    intro hnone
    exact hstands (hfaults.symm.trans hnone)
  | sound =>
    obtain ⟨token, hwhole, hshows⟩ := hready
    rw [At, hcurrent, hnext, hrest, hregex, hfaults]
    rcases h.only token (h.kept.shows token hshows) with hfault | rfl
    · exact .inl hfault
    · have hnot : l.token ≠ .eof := by
        intro heof
        rw [heof] at hwhole
        cases hwhole
      refine hstands.imp_right fun ⟨hregex, hsound⟩ ↦ ⟨hregex, ?_⟩
      rw [h.current.resolve_left hnot] at hsound
      exact hsound.pass hwhole

/-- The token behind the one at hand is at hand when that has been passed. -/
theorem ShowsNext.pass (h : ShowsNext token s) (hcurrent : after.current = none)
    (hnext : after.next = s.next) (hfaults : after.faults = s.faults) : Shows token after := by
  rcases h with hfault | ⟨hnot, _, l, hl, htoken⟩
  · exact .inl (hfaults ▸ hfault)
  · refine .inr ⟨hnot, l, ?_, htoken⟩
    rw [hand, hcurrent, hnext, hl]
    rfl

/-- A token behind which another one may be looked at has been found at hand. -/
theorem Finds.looksAhead (h : Finds st before l s)
    (hlooks : ∃ token, looksAhead token ∧ Shows token before) :
    s.faults ≠ [] ∨ looksAhead l.token ∧ s.current = some l := by
  obtain ⟨token, hlooks, hshows⟩ := hlooks
  refine (h.only token (h.kept.shows token hshows)).imp_right ?_
  rintro rfl
  refine ⟨hlooks, h.current.resolve_left fun heof ↦ ?_⟩
  rw [heof] at hlooks
  cases hlooks

/-- The token behind the one at hand has been read before. -/
theorem Finds.showsNext {n : Lexeme} (h : Finds st before l s)
    (hlooks : ∃ token, Reading.looksAhead token ∧ Shows token before) (hnext : s.next = some n)
    (hnot : n.token ≠ .eof) : ShowsNext n.token s := by
  refine (h.looksAhead hlooks).imp_right fun ⟨_, hcurrent⟩ ↦ ⟨hnot, ?_, n, hnext, rfl⟩
  rw [hcurrent]
  exact Option.some_ne_none l

/-- The token behind the one at hand is read. -/
theorem Finds.peek (h : Finds st before l s)
    (hlooks : ∃ token, Reading.looksAhead token ∧ Shows token before) (hnext : s.next = none) :
    At st { s with
      rest := s.readLexeme.after
      faults := s.readLexeme.faults.reverse ++ s.faults
      next := Reader.keep? s.readLexeme } := by
  have hstands := h.stands
  cases st with
  | unknown => trivial
  | faulty => exact faults_readLexeme hstands
  | sound =>
    rcases h.looksAhead hlooks with hfault | ⟨htoken, hcurrent⟩
    · exact .inl (faults_readLexeme hfault)
    · refine (sound_or_fault hstands).imp_right fun ⟨hregex, hsound, hblank, hformed⟩ ↦ ⟨hregex, ?_⟩
      rw [hcurrent, hnext] at hsound
      exact hcurrent ▸ hsound.peek htoken hblank hformed

/-- What is shown stays shown when the token behind the one at hand is read. -/
theorem Kept.peek (hnext : s.next = none) (hcurrent : after.current = s.current)
    (hfaults : s.faults ≠ [] → after.faults ≠ [])
    (hafter : s.faults ≠ [] ∨ s.current ≠ none) : Kept s after := by
  refine ⟨?_, ?_⟩
  · rintro token (hfault | ⟨hnot, k, hk, rfl⟩)
    · exact .inl (hfaults hfault)
    · refine hafter.imp hfaults fun _ ↦ ⟨hnot, k, ?_, rfl⟩
      rw [hand, hnext, Option.or_none] at hk
      rw [hand, hcurrent, hk]
      rfl
  · rintro token (hfault | ⟨_, _, k, hk, _⟩)
    · exact .inl (hfaults hfault)
    · rw [hnext] at hk
      cases hk

end BrowserScript.Reading
