import Mathlib
import BrowserScript.Proofs.Reading.Place

/-!
What the readers of single tokens leave behind. Those that only look keep what the state shows; the
ones that pass a token need to know that it holds whole items. How much is known of the states is
the same in all that is said of one reader, so it stands around the statements (`Known`).
-/

set_option autoImplicit false
set_option relaxedAutoImplicit false
set_option mvcgen.warning false

namespace BrowserScript.Reading

open Script Std.Do

attribute [grind →] Finds.stands Finds.kept Finds.ended Finds.shows Shows.ready Kept.trans
  Kept.shows Kept.showsNext Kept.ready

attribute [grind ←] At.left at_of_fault kept_of_fault shows_of_fault ready_of_fault Kept.refl
  at_unknown

/-! ### Tokens -/

@[grind =]
theorem isMark_iff {token : Token} {mark : String} : token.isMark mark ↔ token = .mark mark := by
  cases token <;> simp [Token.isMark]

@[grind =]
theorem isWord_iff {token : Token} {word : String} : token.isWord word ↔ token = .word word := by
  cases token <;> simp [Token.isWord]

@[grind ←]
theorem isWhole_mark {mark : String} (h : mark ≠ "`") : isWhole (.mark mark) := decide_eq_true h

@[grind =]
theorem isWhole_word (word : String) : isWhole (.word word) = true := rfl

@[grind =]
theorem isWhole_string (value raw : String) : isWhole (.string value raw) = true := rfl

@[grind =]
theorem isWhole_number (value : Float) (raw : String) : isWhole (.number value raw) = true := rfl

@[grind =]
theorem isWhole_bigint (digits raw : String) : isWhole (.bigint digits raw) = true := rfl

@[grind =]
theorem looksAhead_word (word : String) : looksAhead (.word word) = true := rfl

@[grind =]
theorem looksAhead_question : looksAhead (.mark "?") = true := rfl

@[grind =]
theorem looksAhead_point : looksAhead (.mark ".") = true := rfl

/-! ### Claims -/

/-- What is known of the states in which readers run. -/
class Known where
  standing : Standing

export Known (standing)

variable {before : ReadState} {α : Type}

section Claims

variable [Known]

/-- So much is known of a state. -/
abbrev Holds : Assertion (.except Placed (.arg ReadState .pure)) :=
  fun s ↦ ⌜At standing s⌝

/-- So much is known of this state. -/
abbrev From (before : ReadState) : Assertion (.except Placed (.arg ReadState .pure)) :=
  fun s ↦ ⌜s = before ∧ At standing s⌝

/-- So much is known of a state, and the token at hand holds whole items. -/
abbrev HoldsReady : Assertion (.except Placed (.arg ReadState .pure)) :=
  fun s ↦ ⌜At standing s ∧ Ready s⌝

/-- As much is known as before, and what can be known of a state behind a reader that fails. -/
abbrev Keeps : PostCond α (.except Placed (.arg ReadState .pure)) :=
  post⟨fun _ s ↦ ⌜At standing s⌝, fun _ s ↦ ⌜At standing.left s⌝⟩

/-- The reader fails. -/
abbrev Fails : PostCond α (.except Placed (.arg ReadState .pure)) :=
  post⟨fun _ _ ↦ ⌜False⌝, fun _ s ↦ ⌜At standing.left s⌝⟩

/-- A reader that passes nothing may note faults. -/
abbrev Checks (before : ReadState) : PostCond α (.except Placed (.arg ReadState .pure)) :=
  post⟨fun _ s ↦ ⌜s.faults ≠ [] ∨ s = before⌝, fun _ s ↦ ⌜At standing.left s⌝⟩

/-- It is enough to show of a reader whatever follows from what is claimed of it: this keeps the
claim apart from what is known of the last step of the reader. -/
theorem looks_of_every {P : Assertion (.except Placed (.arg ReadState .pure))} {reader : Reader α}
    (h : ∀ R : ReadState → Prop, (∀ s, At standing s ∧ Kept before s → R s) →
      ⦃P⦄ reader ⦃⇓ _ s => ⌜R s⌝⦄) :
    ⦃P⦄ reader ⦃⇓ _ s => ⌜At standing s ∧ Kept before s⌝⦄ :=
  h _ fun _ h ↦ h

theorem checks_of_every {P : Assertion (.except Placed (.arg ReadState .pure))} {reader : Reader α}
    (h : ∀ R : ReadState → Prop, (∀ s, s.faults ≠ [] ∨ s = before → R s) →
      ⦃P⦄ reader ⦃post⟨fun _ s ↦ ⌜R s⌝, fun _ s ↦ ⌜At standing.left s⌝⟩⦄) :
    ⦃P⦄ reader ⦃Checks before⦄ :=
  h _ fun _ h ↦ h

end Claims

/-! ### Looking -/

@[spec]
theorem tokenStart_spec : ⦃fun s ↦ ⌜s = before⌝⦄ Reader.tokenStart ⦃⇓ _ s => ⌜s = before⌝⦄ := by
  mvcgen [Reader.tokenStart]

@[spec]
theorem previousStart_spec : ⦃fun s ↦ ⌜s = before⌝⦄ Reader.previousStart
    ⦃⇓ _ s => ⌜s = before⌝⦄ := by
  mvcgen [Reader.previousStart]

@[spec]
theorem context_spec : ⦃fun s ↦ ⌜s = before⌝⦄ Reader.context ⦃⇓ _ s => ⌜s = before⌝⦄ := by
  mvcgen [Reader.context]

section Looking

variable [Known]

@[spec]
theorem lexeme_spec : ⦃From before⦄ Reader.lexeme
    ⦃⇓ l s => ⌜Finds standing before l s⌝⦄ := by
  mvcgen [Reader.lexeme, Reader.readLexeme]
  case vc1.h_1 s hs l hcurrent =>
    obtain ⟨rfl, hstands⟩ := hs
    exact finds_current hstands hcurrent
  case vc2.h_2.h_1 s hs hcurrent _ l hnext _ =>
    obtain ⟨rfl, hstands⟩ := hs
    exact finds_takeNext hstands hcurrent hnext
  case vc3.h_2.h_2 s hs hcurrent _ hnext l _ =>
    obtain ⟨rfl, hstands⟩ := hs
    exact finds_read hstands hcurrent hnext

@[spec]
theorem token_spec : ⦃From before⦄ Reader.token
    ⦃⇓ t s => ⌜At standing s ∧ Kept before s ∧ (t ≠ .eof → Shows t s) ∧
      (t = .eof → Ended standing s)⌝⦄ := by
  mvcgen [Reader.token]
  all_goals grind -ring -linarith

@[spec]
theorem lineBreak_spec : ⦃From before⦄ Reader.lineBreak
    ⦃⇓ _ s => ⌜At standing s ∧ Kept before s⌝⦄ := by
  mvcgen [Reader.lineBreak]
  all_goals grind -ring -linarith

@[spec]
theorem here_spec : ⦃From before⦄ Reader.here
    ⦃⇓ _ s => ⌜At standing s ∧ Kept before s⌝⦄ := by
  mvcgen [Reader.here]
  all_goals grind -ring -linarith

@[spec]
theorem isMark_spec (mark : String) : ⦃From before⦄ Reader.isMark mark
    ⦃⇓ r s => ⌜At standing s ∧ Kept before s ∧ (r → Shows (.mark mark) s)⌝⦄ := by
  mvcgen [Reader.isMark]
  all_goals grind -ring -linarith

@[spec]
theorem isWord_spec (word : String) : ⦃From before⦄ Reader.isWord word
    ⦃⇓ r s => ⌜At standing s ∧ Kept before s ∧ (r → Shows (.word word) s)⌝⦄ := by
  mvcgen [Reader.isWord]
  all_goals grind -ring -linarith

@[spec]
theorem isEof_spec : ⦃From before⦄ Reader.isEof
    ⦃⇓ r s => ⌜At standing s ∧ Kept before s ∧ (r → Ended standing s)⌝⦄ := by
  mvcgen [Reader.isEof]
  all_goals grind -ring -linarith

@[spec]
theorem described_spec : ⦃From before⦄ Reader.described
    ⦃⇓ _ s => ⌜At standing s ∧ Kept before s⌝⦄ := by
  mvcgen [Reader.described]
  all_goals grind -ring -linarith

@[spec]
theorem atStatementEnd_spec : ⦃From before⦄ Reader.atStatementEnd
    ⦃⇓ _ s => ⌜At standing s ∧ Kept before s⌝⦄ := by
  refine looks_of_every fun R hR ↦ ?_
  mvcgen [Reader.atStatementEnd]
  all_goals grind -ring -linarith

/-! ### Passing -/

/-- A token of any kind is passed by readers that note a fault, or fail. -/
theorem pass_any_spec : ⦃Holds⦄ Reader.advance ⦃⇓ _ s => ⌜At standing.left s⌝⦄ := by
  mvcgen [Reader.advance]
  case vc2.post.success s hstands l after hfinds t =>
    exact hfinds.stands.left_of_faults fun h ↦ h

@[spec]
theorem advance_spec :
    ⦃fun s ↦ ⌜s = before ∧ At standing s ∧ Ready s⌝⦄ Reader.advance
    ⦃⇓ _ s => ⌜At standing s ∧ ∀ token, ShowsNext token before → Shows token s⌝⦄ := by
  mvcgen [Reader.advance]
  case vc1.pre s hs => exact ⟨trivial, hs.2.1⟩
  case vc2.post.success s hs l after hfinds t =>
    obtain ⟨rfl, _, hready⟩ := hs
    exact ⟨hfinds.pass hready rfl ⟨rfl, rfl, rfl, rfl⟩,
      fun token hnext ↦ (hfinds.kept.showsNext token hnext).pass rfl rfl rfl⟩

/-- The token at hand must be one behind which another one may be looked at. -/
@[spec]
theorem peek_spec :
    ⦃fun s ↦ ⌜s = before ∧ At standing s ∧ ∃ t, looksAhead t ∧ Shows t s⌝⦄ Reader.peek
    ⦃⇓ l s => ⌜At standing s ∧ Kept before s ∧ (l.token ≠ .eof → ShowsNext l.token s)⌝⦄ := by
  mvcgen [Reader.peek, Reader.readLexeme]
  case vc1.pre s hs => exact ⟨trivial, hs.2.1⟩
  case vc2.post.success.h_1 s hs l after hfinds n hnext =>
    obtain ⟨rfl, _, hlooks⟩ := hs
    exact ⟨hfinds.stands, hfinds.kept, hfinds.showsNext hlooks hnext⟩
  case vc3.post.success.h_2 s hs l after hfinds hnext n t =>
    obtain ⟨rfl, _, hlooks⟩ := hs
    have hcurrent := (hfinds.looksAhead hlooks).imp_right fun h ↦
      show after.current ≠ none by simp [h.2]
    refine ⟨hfinds.peek hlooks hnext,
      hfinds.kept.trans (.peek hnext rfl faults_readLexeme hcurrent),
      fun hnot ↦ hcurrent.imp faults_readLexeme fun h ↦ ⟨hnot, h, n, keep?_eq_some hnot, rfl⟩⟩

end Looking

/-! ### Noting faults -/

theorem passStray_spec [Known] : ⦃Holds⦄ Reader.passStray ⦃⇓ _ s => ⌜At standing.left s⌝⦄ := by
  mvcgen [Reader.passStray, -advance_spec, pass_any_spec]
  all_goals grind -ring -linarith

@[spec]
theorem note_spec (fault : Fault) (pos : Nat) :
    ⦃⌜True⌝⦄ Reader.note fault pos ⦃⇓ _ s => ⌜s.faults ≠ []⌝⦄ := by
  have hstray := @passStray_spec ⟨.unknown⟩
  mvcgen [Reader.note, hstray]
  simp

@[spec]
theorem noteIf_spec (condition : Bool) (fault : Fault) (pos : Nat) :
    ⦃fun s ↦ ⌜s = before⌝⦄ Reader.noteIf condition fault pos
    ⦃⇓ _ s => ⌜s.faults ≠ [] ∨ condition = false ∧ s = before⌝⦄ := by
  mvcgen [Reader.noteIf]
  all_goals grind -ring -linarith

variable [Known]

@[spec]
theorem raise_spec (fault : Fault) (pos : Nat) :
    ⦃Holds⦄ Reader.raise (α := α) fault pos ⦃Fails⦄ := by
  mvcgen [Reader.raise, passStray_spec]
  all_goals grind -ring -linarith

@[spec]
theorem raiseEnd_spec : ⦃Holds⦄ Reader.raiseEnd (α := α) ⦃Fails⦄ := by
  mvcgen [Reader.raiseEnd]
  all_goals grind -ring -linarith

@[spec]
theorem raiseHere_spec (fault : Fault) :
    ⦃Holds⦄ Reader.raiseHere (α := α) fault ⦃Fails⦄ := by
  mvcgen [Reader.raiseHere]
  all_goals grind -ring -linarith

@[spec]
theorem demandToken_spec : ⦃From before⦄ Reader.demandToken
    ⦃post⟨fun _ s ↦ ⌜At standing s ∧ Kept before s⌝, fun _ s ↦ ⌜At standing.left s⌝⟩⦄ := by
  mvcgen [Reader.demandToken, -advance_spec, pass_any_spec]
  all_goals grind -ring -linarith

@[spec]
theorem raiseUnexpected_spec (wanted : String) :
    ⦃Holds⦄ Reader.raiseUnexpected (α := α) wanted ⦃Fails⦄ := by
  mvcgen [Reader.raiseUnexpected]
  all_goals grind -ring -linarith

@[spec]
theorem raiseExpected_spec (wanted : String) :
    ⦃Holds⦄ Reader.raiseExpected (α := α) wanted ⦃Fails⦄ := by
  mvcgen [Reader.raiseExpected]
  all_goals grind -ring -linarith

/-! ### Passing what is expected -/

@[spec]
theorem eatMark_spec {mark : String} (hmark : mark ≠ "`") :
    ⦃From before⦄ Reader.eatMark mark
    ⦃⇓ r s => ⌜At standing s ∧ (r = false → Kept before s)⌝⦄ := by
  mvcgen [Reader.eatMark]
  all_goals grind -ring -linarith

@[spec]
theorem eatWord_spec (word : String) :
    ⦃From before⦄ Reader.eatWord word
    ⦃⇓ r s => ⌜At standing s ∧ (r = false → Kept before s)⌝⦄ := by
  mvcgen [Reader.eatWord]
  all_goals grind -ring -linarith

@[spec]
theorem expectMark_spec {mark : String} (hmark : mark ≠ "`") :
    ⦃Holds⦄ Reader.expectMark mark ⦃Keeps⦄ := by
  mvcgen [Reader.expectMark]
  all_goals grind -ring -linarith

@[spec]
theorem expectWord_spec (word : String) : ⦃Holds⦄ Reader.expectWord word ⦃Keeps⦄ := by
  mvcgen [Reader.expectWord]
  all_goals grind -ring -linarith

@[spec]
theorem eatSemicolon_spec : ⦃From before⦄ Reader.eatSemicolon
    ⦃⇓ r s => ⌜At standing s ∧ (r = false → Kept before s)⌝⦄ := by
  mvcgen [Reader.eatSemicolon]
  all_goals grind -ring -linarith

@[spec]
theorem expectSemicolon_spec : ⦃Holds⦄ Reader.expectSemicolon ⦃Keeps⦄ := by
  mvcgen [Reader.expectSemicolon]
  all_goals grind -ring -linarith

/-! ### Parts -/

omit [Known] in
/-- What holds behind a reader holds of the outcome and the state of its run. -/
theorem wp_iff (reader : Reader α) (Q : PostCond α (.except Placed (.arg ReadState .pure)))
    (s : ReadState) : (wp⟦reader⟧ Q s).down ↔
      match reader s with
      | (.ok a, s') => (Q.1 a s').down
      | (.error e, s') => (Q.2.1 e s').down := by
  rcases hrun : reader s with ⟨_ | _, _⟩ <;>
    simp [wp, PredTrans.apply, PredTrans.pushExcept, PredTrans.pushArg, ExceptT.run, StateT.run,
      Id.run, pure, PredTrans.pure, hrun]

omit [Known] in
/-- What is done in the end is done behind every part; a fault that it raises itself counts. -/
theorem tryFinally_run {β : Type} (part : Reader α) (finish : Reader β) (s : ReadState) :
    tryFinally part finish s = match part s with
      | (.ok a, s') => match finish s' with
        | (.ok _, s'') => (.ok a, s'')
        | (.error e, s'') => (.error e, s'')
      | (.error e, s') => match finish s' with
        | (.ok _, s'') => (.error e, s'')
        | (.error e', s'') => (.error e', s'') := by
  simp only [tryFinally, MonadFinally.tryFinally', ExceptT.mk, bind, StateT.bind, Functor.map,
    ExceptT.map, pure]
  rcases part s with ⟨_ | a, s'⟩ <;> dsimp only <;>
    rcases finish s' with ⟨_ | b, s''⟩ <;> rfl

omit [Known] in
/-- What holds behind a part with something that is done in the end. -/
@[spec]
theorem tryFinally_spec {β : Type} (part : Reader α) (finish : Reader β)
    (Q : PostCond α (.except Placed (.arg ReadState .pure))) :
    ⦃wp⟦part⟧ (fun a ↦ wp⟦finish⟧ (fun _ ↦ Q.1 a, Q.2),
      fun e ↦ wp⟦finish⟧ (fun _ ↦ Q.2.1 e, Q.2), ())⦄ tryFinally part finish ⦃Q⦄ := by
  intro s h
  rw [wp_iff] at h ⊢
  rw [tryFinally_run]
  revert h
  rcases part s with ⟨_ | a, s'⟩ <;> simp only [wp_iff] <;>
    rcases finish s' with ⟨_ | b, s''⟩ <;> exact id

/-- Parts are read as long as there are further ones. -/
theorem collect_spec {item : Reader (Option α)} {P : ReadState → Prop}
    (hitem : ⦃Holds⦄ item
      ⦃post⟨fun r s ↦ ⌜At standing s ∧ (r = none → P s)⌝, fun _ s ↦ ⌜At standing.left s⌝⟩⦄)
    (bound : Nat) (found : List α) :
    ⦃Holds⦄ Reader.collect item bound found
    ⦃post⟨fun _ s ↦ ⌜At standing s ∧ P s⌝, fun _ s ↦ ⌜At standing.left s⌝⟩⦄ := by
  induction bound generalizing found with
  | zero =>
    mvcgen [Reader.collect]
    all_goals grind -ring -linarith
  | succ bound ih =>
    mvcgen [Reader.collect, hitem, ih]
    all_goals grind -ring -linarith

theorem many_spec {item : Reader (Option α)} {P : ReadState → Prop}
    (hitem : ⦃Holds⦄ item
      ⦃post⟨fun r s ↦ ⌜At standing s ∧ (r = none → P s)⌝, fun _ s ↦ ⌜At standing.left s⌝⟩⦄) :
    ⦃Holds⦄ Reader.many item
    ⦃post⟨fun _ s ↦ ⌜At standing s ∧ P s⌝, fun _ s ↦ ⌜At standing.left s⌝⟩⦄ := by
  have hcollect := collect_spec hitem
  mvcgen [Reader.many, hcollect]

@[spec]
theorem many_keeps {item : Reader (Option α)} (hitem : ⦃Holds⦄ item ⦃Keeps⦄) :
    ⦃Holds⦄ Reader.many item ⦃Keeps⦄ := by
  have hcollect := @collect_spec α _ item (fun _ ↦ True) (by simpa using hitem)
  mvcgen [Reader.many, hcollect]
  exact id

/-- Something is done with each element of a list. -/
theorem forIn_keeps {β : Type} {items : List α} {start : β} {body : α → β → Reader (ForInStep β)}
    (hbody : ∀ a b, ⦃Holds⦄ body a b ⦃Keeps⦄) : ⦃Holds⦄ forIn items start body ⦃Keeps⦄ := by
  induction items generalizing start with
  | nil =>
    rw [List.forIn_nil]
    mvcgen
  | cons a items ih =>
    rw [List.forIn_cons]
    mvcgen [hbody, -Spec.forIn_list, ih]

/-- Each element of a list is checked. -/
theorem forIn_checks {β : Type} {items : List α} {start : β} {body : α → β → Reader (ForInStep β)}
    (hbody : ∀ a b before, ⦃From before⦄ body a b ⦃Checks before⦄) :
    ⦃From before⦄ forIn items start body ⦃Checks before⦄ := by
  induction items generalizing before start with
  | nil =>
    rw [List.forIn_nil]
    mvcgen
    all_goals grind -ring -linarith
  | cons a items ih =>
    rw [List.forIn_cons]
    refine checks_of_every fun R hR ↦ ?_
    mvcgen [hbody, -Spec.forIn_list, ih]
    all_goals grind -ring -linarith

end BrowserScript.Reading
