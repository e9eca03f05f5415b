import BrowserScript.Proofs.Wrapper.WrapperShape

/-!
Texts that are cut off. In front of the cut the scanner reads what it reads of the whole text, and a
token that the cut divides holds no structural brace, so the braces of the first part of a text are
those of the whole text in front of the cut (`exists_hidden_of_cut`). A bundle that is cut off
before its body is closed is therefore malformed, and one that is cut off behind it has the same
body or ends inside of a literal or comment (`unwrap_of_cut`).
-/

set_option autoImplicit false
set_option relaxedAutoImplicit false

namespace BrowserScript.Wrapper

open Text

variable {s next : ScanState} {offset : Nat} {read rest cut later : List Char}
  {brace : Option Brace} {braces : List (Nat × Brace)}

/-! ### Steps in front of a cut -/

theorem lookAllows_of_cut (rest later : List Char) : LookAllows (rest ++ later) rest := by
  cases rest <;> constructor <;> simp

theorem lookAllows_append_of_ne_nil (hrest : rest ≠ []) (later : List Char) :
    LookAllows rest (rest ++ later) := by
  cases rest with
  | nil => exact (hrest rfl).elim
  | cons c rest => constructor <;> simp

/-- What is left of a text behind a step is determined. -/
theorem Step.rest_eq {read' rest' : List Char} {brace' : Option Brace} {next' : ScanState}
    (h : Step s offset read rest brace next) (h' : Step s offset read' rest' brace' next')
    (htext : read ++ rest = read' ++ rest') : rest = rest' := by
  have hmove := move_append_of_step h
  rw [htext, move_append_of_step h'] at hmove
  have hplace := congrArg (fun m ↦ m.place?.map Place.rest) hmove
  cases brace <;> cases brace' <;> simpa [Move.onward, Move.place?, eq_comm] using hplace

/-- A structural brace is passed whatever stands behind it. -/
theorem Step.of_brace {passed : Brace} (h : Step s offset read rest (some passed) next)
    (rest' : List Char) : Step s offset read rest' (some passed) next := by
  cases h with
  | openBrace _ houter => exact .openBrace rest' houter
  | closeBrace _ houter => exact .closeBrace rest' houter

theorem braces_scanBraces_nil (s : ScanState) (offset : Nat) :
    (scanBraces s offset []).braces = [] := by
  rw [scanBraces_of_stop (show s.move offset [] = .stop _ from rfl)]

/-- The first part of a token holds no structural brace. -/
theorem braces_scanBraces_of_cut_token (h : Step s offset (cut ++ later) rest brace next)
    (hlater : later ≠ []) : (scanBraces s offset cut).braces = [] := by
  have hlonger : ∀ {tail : List Char}, rest ≠ tail ++ (later ++ rest) := fun htail ↦ by
    have hlength := congrArg List.length htail
    have hpos := List.length_pos_iff.mpr hlater
    simp only [List.length_append] at hlength
    omega
  rcases stop_or_step s offset cut with ⟨failure, hstop⟩ | ⟨read, tail, brace', next', rfl, hstep⟩
  · rw [scanBraces_of_stop hstop]
  · -- with text left in front of the cut, the step would be the same in the whole text
    have htail : tail = [] := by
      by_contra hne
      have hwhole := hstep.of_lookAllows (lookAllows_append_of_ne_nil hne (later ++ rest))
      exact hlonger (h.rest_eq hwhole (by simp))
    subst htail
    have hbrace : brace' = none := by
      cases brace' with
      | none => rfl
      | some passed =>
        exact (hlonger (h.rest_eq (hstep.of_brace ([] ++ (later ++ rest))) (by simp))).elim
    subst hbrace
    rw [scanBraces_append_of_run (.single hstep)]
    simp [bracePassed, braces_scanBraces_nil]

/-! ### Runs in front of a cut -/

/-- The braces of a run are split by a cut through its text: the scanner passes those in front of
the cut when it reads the first part alone, and the others stand behind the cut. -/
structure SplitBraces (s : ScanState) (offset : Nat) (cut : List Char)
    (braces shown hidden : List (Nat × Brace)) : Prop where
  braces_eq : braces = shown ++ hidden
  scan_eq : (scanBraces s offset cut).braces = shiftBraces offset shown
  shown_lt : ∀ b ∈ shown, b.1 < byteSize cut
  hidden_ge : ∀ b ∈ hidden, byteSize cut ≤ b.1

theorem byteSize_pos_of_ne_nil {text : List Char} (h : text ≠ []) : 0 < byteSize text := by
  cases text with
  | nil => exact (h rfl).elim
  | cons c text => exact Nat.add_pos_left c.utf8Size_pos _

/-- A step in front of a run that is split. -/
theorem SplitBraces.of_step {middle : ScanState} {shown hidden : List (Nat × Brace)}
    (h : SplitBraces middle (offset + byteSize read) cut braces shown hidden)
    (hstep : Step s offset read cut brace middle) :
    SplitBraces s offset (read ++ cut) (bracePassed brace ++ shiftBraces (byteSize read) braces)
      (bracePassed brace ++ shiftBraces (byteSize read) shown)
      (shiftBraces (byteSize read) hidden) where
  braces_eq := by rw [h.braces_eq, shiftBraces_append, List.append_assoc]
  scan_eq := by
    rw [scanBraces_append_of_run (.single hstep)]
    dsimp only
    rw [h.scan_eq, shiftBraces_append, shiftBraces_add]
  shown_lt := by
    intro b hb
    have hpos := byteSize_pos_of_ne_nil hstep.ne_nil
    rw [byteSize_append]
    rcases List.mem_append.mp hb with hb | hb
    · obtain ⟨passed, _, rfl⟩ := List.mem_map.mp hb
      exact Nat.add_pos_left hpos _
    · obtain ⟨c, hc, rfl⟩ := List.mem_map.mp hb
      exact Nat.add_lt_add_left (h.shown_lt c hc) _
  hidden_ge := by
    intro b hb
    obtain ⟨c, hc, rfl⟩ := List.mem_map.mp hb
    rw [byteSize_append]
    exact Nat.add_le_add_left (h.hidden_ge c hc) _

/-- A cut through the first token of a run. -/
theorem splitBraces_of_cut_token {middle : ScanState} {more tail : List Char}
    (hstep : Step s offset (cut ++ tail) (more ++ rest) brace middle) (htail : tail ≠ []) :
    SplitBraces s offset cut (bracePassed brace ++ shiftBraces (byteSize (cut ++ tail)) braces) []
      (bracePassed brace ++ shiftBraces (byteSize (cut ++ tail)) braces) where
  braces_eq := rfl
  scan_eq := braces_scanBraces_of_cut_token hstep htail
  shown_lt := by simp
  hidden_ge := by
    intro b hb
    rcases List.mem_append.mp hb with hb | hb
    · obtain ⟨passed, hpassed, rfl⟩ := List.mem_map.mp hb
      cases brace with
      | none => cases hpassed
      | some passed =>
        -- a brace is one character, so there is none of it in front of the cut
        have hread := hstep.read_of_brace
        rcases List.append_eq_singleton_iff.mp hread with ⟨rfl, _⟩ | ⟨_, hnil⟩
        · exact Nat.le_refl 0
        · exact (htail hnil).elim
    · obtain ⟨b, _, rfl⟩ := List.mem_map.mp hb
      rw [byteSize_append, Nat.add_assoc]
      exact Nat.le_add_right _ _

theorem Run.exists_splitBraces (h : Run s offset read rest braces next)
    (hread : read = cut ++ later) :
    ∃ shown hidden, SplitBraces s offset cut braces shown hidden := by
  -- on the run: the cut is behind the first token, or it goes through this token
  induction h generalizing cut with
  | refl s offset =>
    obtain ⟨rfl, _⟩ := List.append_eq_nil_iff.mp hread.symm
    exact ⟨[], [], rfl, braces_scanBraces_nil s offset, by simp, by simp⟩
  | @step s middle _ offset read more rest brace braces hstep _ ih =>
    have hbehind : ∀ part, cut = read ++ part → more = part ++ later →
        ∃ shown hidden, SplitBraces s offset cut
          (bracePassed brace ++ shiftBraces (byteSize read) braces) shown hidden := by
      rintro part rfl rfl
      obtain ⟨shown, hidden, hsplit⟩ := ih rfl
      rw [List.append_assoc] at hstep
      exact ⟨_, _, hsplit.of_step (hstep.of_lookAllows (lookAllows_of_cut part (later ++ rest)))⟩
    rcases List.append_eq_append_iff.mp hread with ⟨part, hcut, hmore⟩ | ⟨tail, rfl, hlater⟩
    · exact hbehind part hcut hmore
    · by_cases htail : tail = []
      · subst htail
        exact hbehind [] (by simp) (by simpa using hlater.symm)
      · exact ⟨_, _, splitBraces_of_cut_token hstep htail⟩

/-- Assumes: a text that is scanned to its end. The structural braces of its first part are those in
front of the cut. -/
theorem exists_hidden_of_cut {text : List Char} (htext : text = cut ++ later)
    (hend : (structuralBraces text).failure = none) :
    ∃ hidden, (structuralBraces text).braces = (structuralBraces cut).braces ++ hidden ∧
      (∀ b ∈ (structuralBraces cut).braces, b.1 < byteSize cut) ∧
        ∀ b ∈ hidden, byteSize cut ≤ b.1 := by
  obtain ⟨read, rest, braces, next, failure, htext', hrun, hstop, htrace⟩ :=
    exists_run_scanBraces {} 0 text
  have htrace' : structuralBraces text = ⟨braces, failure⟩ := by
    rw [structuralBraces, htrace, shiftBraces_zero]
  rw [htrace'] at hend ⊢
  obtain rfl : failure = none := hend
  obtain ⟨rfl, _⟩ := move_eq_stop_none_iff.mp hstop
  rw [List.append_nil] at htext'
  obtain ⟨shown, hidden, hsplit⟩ := hrun.exists_splitBraces (htext'.symm.trans htext)
  have hcut : (structuralBraces cut).braces = shown := by
    rw [structuralBraces, hsplit.scan_eq, shiftBraces_zero]
  rw [hcut]
  exact ⟨hidden, hsplit.braces_eq, hsplit.shown_lt, hsplit.hidden_ge⟩

/-! ### The outermost pair of a text that is cut off -/

variable {text : List Char} {first last : Nat}

/-- A text that is cut off before its outermost pair is closed has no such pair. -/
theorem Verdict.exists_error_of_cut (h : Verdict (structuralBraces text) (.ok (first, last)))
    (htext : text = cut ++ later) (hle : byteSize cut ≤ last) :
    ∃ cause, Verdict (structuralBraces cut) (.error cause) := by
  obtain ⟨inner, hbraces, hreturn, hend⟩ := h.exists_inner
  obtain ⟨hidden, hsplit, hshown, _⟩ := exists_hidden_of_cut htext hend
  have hverdict := verdict_outermostPair (structuralBraces cut)
  cases hpair : (structuralBraces cut).outermostPair with
  | error cause => exact ⟨cause, hpair ▸ hverdict⟩
  | ok pair =>
    exfalso
    rw [hpair] at hverdict
    obtain ⟨inner', hcutBraces, hreturn', _⟩ := hverdict.exists_inner
    have hprefix : (structuralBraces cut).braces <+:
        ((first, .opening) :: inner) ++ [(last, .closing)] :=
      ⟨hidden, by rw [← hsplit, hbraces]; rfl⟩
    rcases List.prefix_concat_iff.mp hprefix with hall | hprefix
    · exact absurd (hshown (last, .closing) (by simp [hall])) (Nat.not_lt.mpr hle)
    · -- the depth comes back to zero at the end of the pair, before the last brace of the text
      rw [hcutBraces] at hprefix
      exact hreturn.1 _ hprefix (by simp) hreturn'.2

/-- A text that is cut off behind its outermost pair has the same pair, or a literal or comment is
left open. -/
theorem Verdict.of_cut (h : Verdict (structuralBraces text) (.ok (first, last)))
    (htext : text = cut ++ later) (hlt : last < byteSize cut) :
    (∃ literal, Verdict (structuralBraces cut) (.error (.unterminated literal))) ∨
      Verdict (structuralBraces cut) (.ok (first, last)) := by
  obtain ⟨inner, hbraces, hreturn, hend⟩ := h.exists_inner
  obtain ⟨hidden, hsplit, _, hhidden⟩ := exists_hidden_of_cut htext hend
  have hnil : hidden = [] := List.eq_nil_iff_forall_not_mem.mpr fun b hb ↦ by
    have hwithin := (within_of_pair h b (by simp [hsplit, hb])).2
    have hbehind := hhidden b hb
    omega
  rw [hnil, List.append_nil] at hsplit
  have hcutBraces := hsplit.symm.trans hbraces
  cases hfailure : (structuralBraces cut).failure with
  | none => exact .inr (.pair hcutBraces hreturn hfailure)
  | some literal => exact .inl ⟨literal, .unterminated hfailure (hcutBraces ▸ .closed hreturn)⟩

/-! ### Bundles that are cut off -/

/-- Assumes: a bundle without a byte order mark that is unwrapped, and a first part of it. The part
is malformed if it ends before the body is closed. Otherwise it is unwrapped to the same text,
unless a literal or comment is left open in it. -/
theorem unwrap_of_cut {bundle globalObject value : String}
    (hmark : bundle.toList.head? ≠ some byteOrderMark)
    (hvalue : (unwrap bundle globalObject).outcome = .ok value)
    (hcut : bundle.toList = cut ++ later) :
    ∃ opening closing, Verdict (structuralBraces bundle.toList) (.ok (opening, closing)) ∧
      (byteSize cut ≤ closing →
        ∃ cause, (unwrap (String.ofList cut) globalObject).outcome =
          .error (.malformedBundle cause)) ∧
      (closing < byteSize cut →
        (∃ literal, (unwrap (String.ofList cut) globalObject).outcome =
          .error (.malformedBundle (.unterminated literal))) ∨
        (unwrap (String.ofList cut) globalObject).outcome = .ok value) := by
  obtain ⟨hglobal, body, hbody, rfl⟩ := outcome_unwrap_eq_ok_iff.mp hvalue
  rw [dropByteOrderMark_of_head?_ne hmark] at hbody
  obtain ⟨before, after, htext, hpair⟩ := exists_split_of_functionBody hbody
  have hmark' : dropByteOrderMark (String.ofList cut).toList = cut := by
    rw [String.toList_ofList]
    refine dropByteOrderMark_of_head?_ne fun hhead ↦ hmark ?_
    rw [hcut, List.head?_append, hhead, Option.some_or]
  refine ⟨_, _, hpair, fun hle ↦ ?_, fun hlt ↦ ?_⟩
  · obtain ⟨cause, hcause⟩ := hpair.exists_error_of_cut hcut hle
    exact ⟨cause, (outcome_unwrap_iff hglobal).mpr (.rejected (hmark'.symm ▸ hcause))⟩
  · rcases hpair.of_cut hcut hlt with ⟨literal, hcause⟩ | hpair'
    · exact .inl ⟨literal, (outcome_unwrap_iff hglobal).mpr (.rejected (hmark'.symm ▸ hcause))⟩
    · refine .inr (outcome_unwrap_eq_ok_iff.mpr ⟨hglobal, body, ?_, rfl⟩)
      -- the closing brace stands in front of the cut, and so does the body
      have hsplit : before ++ '\x7b' :: body ++ '\x7d' :: after = cut ++ later := by
        rw [← hcut, htext]
        simp
      obtain ⟨gap, rfl, _⟩ := exists_split_of_lt hsplit (by simp; omega)
      have hcutText : before ++ '\x7b' :: body ++ '\x7d' :: gap =
          before ++ '\x7b' :: (body ++ '\x7d' :: gap) := by simp
      rw [hmark']
      rw [hcutText] at hpair' ⊢
      exact functionBody_of_pair hpair'

theorem unwrap_of_cut_in_substitution :
    (unwrap "\x7bf()\x7d`$\x7b1\x7d`" "window").outcome = .ok "var scope = window;f()" ∧
      ∃ opening closing, Verdict (structuralBraces "\x7bf()\x7d`$\x7b1\x7d`".toList)
          (.ok (opening, closing)) ∧
        (byteSize "\x7bf()\x7d`$\x7b1".toList ≤ closing →
          ∃ cause, (unwrap (.ofList "\x7bf()\x7d`$\x7b1".toList) "window").outcome =
            .error (.malformedBundle cause)) ∧
        (closing < byteSize "\x7bf()\x7d`$\x7b1".toList →
          (∃ literal, (unwrap (.ofList "\x7bf()\x7d`$\x7b1".toList) "window").outcome =
            .error (.malformedBundle (.unterminated literal))) ∨
          (unwrap (.ofList "\x7bf()\x7d`$\x7b1".toList) "window").outcome =
            .ok "var scope = window;f()") := by
  have hvalue : (unwrap "\x7bf()\x7d`$\x7b1\x7d`" "window").outcome =
      .ok "var scope = window;f()" := by decide +kernel
  exact ⟨hvalue, @unwrap_of_cut _ "\x7d`".toList _ _ _ (by decide) hvalue (by decide)⟩

end BrowserScript.Wrapper
