import Mathlib
import BrowserScript.Proofs.Reading.Parts
import BrowserScript.Script.Grammar.Literal

/-!
What readers of templates and of regular expressions leave behind. Template text is an item together
with the mark in front of it and the mark behind it, so a template is read through two more kinds of
states: in front of template text (`BeforeText`), and behind it, with the mark at hand that ends it
(`BehindText`).
-/

set_option autoImplicit false
set_option relaxedAutoImplicit false
set_option mvcgen.warning false

namespace BrowserScript.Reading

open Script Wrapper Std.Do

/-! ### Template text -/

/-- The marks in front of template text. -/
def opensText : List String := ["`", "\x7d"]

/-- The marks behind template text. -/
def closesText : List String := ["`", "$\x7b"]

/-- A mark in front of template text has been passed. -/
def BeforeText (script : List Char) (s : ReadState) : Prop :=
  s.openRegex = none ∧ s.current = none ∧ s.next = none ∧
    ∃ mark ∈ opensText, Stretch script (mark.toList ++ s.rest.text)

/-- The mark at hand ends template text. -/
def BehindText (script : List Char) (s : ReadState) : Prop :=
  s.openRegex = none ∧ s.next = none ∧ Stretch script s.rest.text ∧
    ∃ c, s.current = some c ∧ ∃ mark ∈ closesText, c.token = .mark mark

/-- What is known of a state where a sound one would be of this kind. -/
def Knows (st : Standing) (P : List Char → ReadState → Prop) (s : ReadState) : Prop :=
  match st with
  | .unknown => True
  | .faulty => s.faults ≠ []
  | .sound script => s.faults ≠ [] ∨ P script s

variable {st : Standing} {P : List Char → ReadState → Prop} {s before after : ReadState}

theorem knows_of_fault (h : s.faults ≠ []) : Knows st P s := by
  cases st with
  | unknown => trivial
  | faulty => exact h
  | sound => exact .inl h

theorem Knows.imp {P' : List Char → ReadState → Prop} (h : Knows st P s)
    (hfaults : s.faults ≠ [] → after.faults ≠ [])
    (himp : ∀ script, P script s → after.faults ≠ [] ∨ P' script after) : Knows st P' after := by
  cases st with
  | unknown => trivial
  | faulty => exact hfaults h
  | sound script => exact h.elim (fun hfault ↦ .inl (hfaults hfault)) (himp script)

theorem Knows.left (h : Knows st P s) (hfaults : s.faults ≠ [] → after.faults ≠ []) :
    At st.left after := by
  cases st with
  | unknown | sound => trivial
  | faulty => exact hfaults h

theorem drop_chunkMark (opensSubstitution : Bool) (rest : List Char) :
    (chunkMark opensSubstitution ++ rest).drop (if opensSubstitution then "$\x7b" else "`").length =
      rest := by
  cases opensSubstitution <;> rfl

/-- Template text is an item, with the marks around it. -/
theorem stretch_text {mark : String} (hmark : mark ∈ opensText) {text : List Char}
    (htext : TemplateStretch text ∨ HoldsLongEscape text) (opensSubstitution : Bool)
    (rest : List Char) :
    Stretch (mark.toList ++ (text ++ (chunkMark opensSubstitution ++ rest))) rest := by
  have hitem (resumes : Bool) :=
    Stretch.item (.template resumes opensSubstitution text) htext (.refl rest)
  simp only [Item.text, List.cons_append, List.append_assoc] at hitem
  simp only [opensText, List.mem_cons, List.not_mem_nil, or_false] at hmark
  rcases hmark with rfl | rfl
  · exact hitem false
  · exact hitem true

/-- Template text that is closed is read as an item. -/
theorem stretch_readChunk {mark : String} (hmark : mark ∈ opensText) {start : Remaining}
    (hclosed : (readChunk start).isClosed) :
    Stretch (mark.toList ++ start.text) (Reader.chunkEnd (readChunk start)).after.text := by
  obtain ⟨text, hstart, htext, rest, hrest⟩ := endsChunk_readChunkFrom
    { raw := [], value := [], after := start } start.pos start.text rfl hclosed
  have hafter : (Reader.chunkEnd (readChunk start)).after.text = rest := by
    simp only [Reader.chunkEnd, readChunk, Remaining.drop, ← hrest]
    exact drop_chunkMark _ rest
  rw [hstart, hafter, ← hrest]
  exact stretch_text hmark htext _ rest

/-- A mark in front of template text has been found at hand, and is passed. -/
theorem Finds.beforeText {l : Lexeme} {mark : String} (h : Finds st before l s)
    (hmark : mark ∈ opensText) (hshows : Shows (.mark mark) before)
    (hcurrent : after.current = none) (hsame : after.next = s.next ∧ after.rest = s.rest ∧
      after.openRegex = s.openRegex ∧ after.faults = s.faults) : Knows st BeforeText after := by
  obtain ⟨hnext, hrest, hregex, hfaults⟩ := hsame
  have hstands := h.stands
  cases st with
  | unknown => trivial
  | faulty => exact fun hnone ↦ hstands (hfaults.symm.trans hnone)
  | sound =>
    rw [Knows, BeforeText, hcurrent, hnext, hrest, hregex, hfaults]
    rcases h.only _ (h.kept.shows _ hshows) with hfault | htoken
    · exact .inl hfault
    · refine hstands.imp_right fun ⟨hregex, hsound⟩ ↦ ?_
      rw [h.current.resolve_left (by simp [htoken])] at hsound
      have hlooks : Reading.looksAhead (.mark mark) = false := by
        simp only [opensText, List.mem_cons, List.not_mem_nil, or_false] at hmark
        rcases hmark with rfl | rfl <;> decide
      obtain ⟨hnone, _, _, hstretch⟩ := hsound.mark htoken hlooks
      exact ⟨hregex, rfl, hnone, mark, hmark, hstretch⟩

/-- Template text is passed, and the mark that ends it is at hand. -/
theorem Knows.behindText (h : Knows st BeforeText s) (hclosed : (readChunk s.rest).isClosed)
    (hcurrent : after.current = some (Reader.chunkEnd (readChunk s.rest)))
    (hrest : after.rest = (Reader.chunkEnd (readChunk s.rest)).after)
    (hsame : after.next = s.next ∧ after.openRegex = s.openRegex)
    (hfaults : s.faults ≠ [] → after.faults ≠ []) : Knows st BehindText after := by
  refine h.imp hfaults fun script ⟨hregex, _, hnext, mark, hmark, hstretch⟩ ↦ .inr ?_
  rw [BehindText, hsame.1, hsame.2, hrest]
  refine ⟨hregex, hnext, hstretch.trans (stretch_readChunk hmark hclosed), _, hcurrent, ?_⟩
  unfold Reader.chunkEnd
  cases (readChunk s.rest).opensSubstitution
  · exact ⟨"`", by decide, rfl⟩
  · exact ⟨"$\x7b", by decide, rfl⟩

/-- The mark that ends template text is passed. -/
theorem Knows.pass (h : Knows st BehindText s) (hcurrent : after.current = none)
    (hsame : after.next = s.next ∧ after.rest = s.rest ∧ after.openRegex = s.openRegex ∧
      after.faults = s.faults) : At st after := by
  obtain ⟨hnext, hrest, hregex, hfaults⟩ := hsame
  rw [At, hcurrent, hnext, hrest, hregex, hfaults]
  cases st with
  | unknown => trivial
  | faulty => exact h
  | sound =>
    refine h.imp_right ?_
    rintro ⟨hregex, hnone, hstretch, -⟩
    refine ⟨hregex, ?_⟩
    rw [hnone]
    exact hstretch

/-! ### Templates -/

section Templates

variable [Known] {parts : Parts}

/-- A mark in front of template text is passed. -/
theorem advance_opensText_spec {mark : String} (hmark : mark ∈ opensText) :
    ⦃fun s ↦ ⌜At standing s ∧ Shows (.mark mark) s⌝⦄ Reader.advance
    ⦃⇓ _ s => ⌜Knows standing BeforeText s⌝⦄ := by
  mvcgen [Reader.advance, -advance_spec]
  case vc1.pre s hs => exact ⟨trivial, hs.1⟩
  case vc2.post.success s hs l after hfinds t =>
    exact hfinds.beforeText hmark hs.2 rfl ⟨rfl, rfl, rfl, rfl⟩

theorem readQuasi_spec (isTagged : Bool) :
    ⦃fun s ↦ ⌜Knows standing BeforeText s⌝⦄ Reader.readQuasi isTagged
    ⦃post⟨fun _ s ↦ ⌜Knows standing BehindText s⌝, fun _ s ↦ ⌜At standing.left s⌝⟩⦄ := by
  mvcgen [Reader.readQuasi, Reader.settle]
  case vc1.isTrue.h_1.isTrue s h start chunk _ hclosed t t' _ fault hfault htagged value =>
    exact h.behindText hclosed rfl rfl ⟨rfl, rfl⟩ (List.append_ne_nil_of_right_ne_nil _)
  case vc2.isTrue.h_1.isFalse s h start chunk _ hclosed t t' _ fault hfault htagged =>
    exact h.left (List.append_ne_nil_of_right_ne_nil _)
  case vc3.isTrue.h_2 s h start chunk _ hclosed t t' _ hfault value =>
    exact h.behindText hclosed rfl rfl ⟨rfl, rfl⟩ (List.append_ne_nil_of_right_ne_nil _)
  case vc4.isFalse s h start chunk _ hclosed t => exact h.left id

/-- The mark that ends template text is found at hand. -/
theorem lexeme_behindText_spec :
    ⦃fun s ↦ ⌜Knows standing BehindText s⌝⦄ Reader.lexeme
    ⦃⇓ _ s => ⌜Knows standing BehindText s⌝⦄ := by
  mvcgen [Reader.lexeme, Reader.readLexeme, -lexeme_spec]
  case vc2.h_2.h_1 s h hcurrent _ l hnext t =>
    refine h.imp id fun _ hbehind ↦ ?_
    rw [hbehind.2.1] at hnext
    cases hnext
  case vc3.h_2.h_2 s h hcurrent _ hnext l t =>
    refine h.imp faults_readLexeme fun _ hbehind ↦ ?_
    obtain ⟨-, -, -, c, hc, -⟩ := hbehind
    rw [hc] at hcurrent
    cases hcurrent

theorem advance_behindText_spec :
    ⦃fun s ↦ ⌜Knows standing BehindText s⌝⦄ Reader.advance ⦃⇓ _ s => ⌜At standing s⌝⦄ := by
  mvcgen [Reader.advance, -advance_spec, -lexeme_spec, lexeme_behindText_spec]
  case vc2.post.success s _ l after h t => exact h.pass rfl ⟨rfl, rfl, rfl, rfl⟩

theorem isMark_behindText_spec (mark : String) :
    ⦃fun s ↦ ⌜Knows standing BehindText s⌝⦄ Reader.isMark mark
    ⦃⇓ _ s => ⌜Knows standing BehindText s⌝⦄ := by
  mvcgen [Reader.isMark, Reader.token, -isMark_spec, -token_spec, -lexeme_spec,
    lexeme_behindText_spec]

theorem eatMark_behindText_spec (mark : String) :
    ⦃fun s ↦ ⌜Knows standing BehindText s⌝⦄ Reader.eatMark mark
    ⦃⇓ r s => ⌜(r → At standing s) ∧ (r = false → Knows standing BehindText s)⌝⦄ := by
  mvcgen [Reader.eatMark, -eatMark_spec, -isMark_spec, -advance_spec, isMark_behindText_spec,
    advance_behindText_spec]
  all_goals grind -ring -linarith

theorem expectMark_behindText_spec (mark : String) :
    ⦃fun s ↦ ⌜Knows standing BehindText s⌝⦄ Reader.expectMark mark ⦃Keeps⦄ := by
  have hraise := @raiseExpected_spec Unit ⟨standing.left⟩ mark
  have hleft {s : ReadState} (h : Knows standing BehindText s) : At standing.left s := h.left id
  mvcgen [Reader.expectMark, -expectMark_spec, -eatMark_spec, -raiseExpected_spec,
    eatMark_behindText_spec, hraise]
  all_goals grind -ring -linarith

/-- The brace that closes a substitution is passed. -/
theorem expectMark_opensText_spec {mark : String} (hmark : mark ∈ opensText) :
    ⦃Holds⦄ Reader.expectMark mark
    ⦃post⟨fun _ s ↦ ⌜Knows standing BeforeText s⌝, fun _ s ↦ ⌜At standing.left s⌝⟩⦄ := by
  have hpass := advance_opensText_spec hmark
  mvcgen [Reader.expectMark, Reader.eatMark, -expectMark_spec, -eatMark_spec, -advance_spec, hpass]
  all_goals grind -ring -linarith

theorem readSubstitutions_spec (h : PartsKeep parts) (isTagged : Bool) (bound : Nat) :
    ⦃fun s ↦ ⌜Knows standing BehindText s⌝⦄ Reader.readSubstitutions parts isTagged bound
    ⦃Keeps⦄ := by
  induction bound with
  | zero =>
    have hraise := @raiseEnd_spec (List Quasi × List Expr) ⟨standing.left⟩
    have hleft {s : ReadState} (h : Knows standing BehindText s) : At standing.left s := h.left id
    mvcgen [Reader.readSubstitutions, -raiseEnd_spec, hraise]
    all_goals grind -ring -linarith
  | succ bound ih =>
    have hclose := @expectMark_opensText_spec _ "\x7d" (by decide)
    have hend := expectMark_behindText_spec "`"
    mvcgen [Reader.readSubstitutions, Reader.withIn, Reader.within, -eatMark_spec, -expectMark_spec,
      eatMark_behindText_spec, hclose, hend, readQuasi_spec, ih]
    all_goals grind -ring -linarith

@[spec]
theorem readTemplate_spec (h : PartsKeep parts) (isTagged : Bool) :
    ⦃fun s ↦ ⌜At standing s ∧ Shows (.mark "`") s⌝⦄ Reader.readTemplate parts isTagged ⦃Keeps⦄ := by
  have hopen := @advance_opensText_spec _ "`" (by decide)
  mvcgen [Reader.readTemplate, -advance_spec, hopen, readQuasi_spec, readSubstitutions_spec]

end Templates

/-! ### Regular expressions -/

theorem isAlpha_of_mem_regexFlags {c : Char} (h : c ∈ Reader.regexFlags) : c.isAlpha := by
  simp only [Reader.regexFlags, List.mem_cons, List.not_mem_nil, or_false] at h
  rcases h with rfl | rfl | rfl | rfl | rfl | rfl | rfl | rfl <;> rfl

/-- A mark at which a regular expression may start is a slash that starts no comment. -/
theorem Sound.slash {script rest : List Char} {next : Option Lexeme} {c : Lexeme}
    (h : Sound script (some c) next rest) {mark : String} (hmark : mark ∈ ["/", "/="])
    (htoken : c.token = .mark mark) :
    next = none ∧ Stretch script ('/' :: (c.here.drop 1).text) ∧
      (c.here.drop 1).text.head? ≠ some '/' ∧ (c.here.drop 1).text.head? ≠ some '*' := by
  have hformed := h.2.1.formed
  have hlooks : looksAhead (.mark mark) = false := by
    simp only [List.mem_cons, List.not_mem_nil, or_false] at hmark
    rcases hmark with rfl | rfl <;> decide
  obtain ⟨hnext, hrest, htext, hstretch⟩ := h.mark htoken hlooks
  rw [htoken] at hformed
  rw [← htext] at hstretch
  rw [Remaining.drop, htext]
  rw [htext] at hstretch
  simp only [List.mem_cons, List.not_mem_nil, or_false] at hmark
  rcases hmark with rfl | rfl
  · exact ⟨hnext, hstretch, hrest ▸ hformed.2.2 rfl⟩
  · exact ⟨hnext, hstretch, by simp, by simp⟩

/-- A regular expression is passed, if its flags are ones that there are. -/
theorem Finds.regex {l : Lexeme} (h : Finds st before l s) {mark : String}
    (hmark : mark ∈ ["/", "/="]) (hshows : Shows (.mark mark) before) {regex : RegexToken}
    (hread : readRegex (l.here.drop 1) = .ok regex) (hfatal : regex.flags.fatal = none)
    (hflags : (regex.flags.name.any fun flag ↦ !Reader.regexFlags.contains flag) = false)
    (hcurrent : after.current = none) (hrest : after.rest = regex.flags.after)
    (hsame : after.next = s.next ∧ after.openRegex = s.openRegex)
    (hfaults : s.faults ≠ [] → after.faults ≠ []) : At st after := by
  obtain ⟨hnext, hregex⟩ := hsame
  have hstands := h.stands
  cases st with
  | unknown => trivial
  | faulty => exact hfaults hstands
  | sound =>
    rw [At, hcurrent, hnext, hrest, hregex]
    rcases h.only _ (h.kept.shows _ hshows) with hfault | htoken
    · exact .inl (hfaults hfault)
    · rcases hstands with hfault | ⟨hnone, hsound⟩
      · exact .inl (hfaults hfault)
      · rw [h.current.resolve_left (by simp [htoken])] at hsound
        obtain ⟨hnext, hstretch, hslash, hstar⟩ := hsound.slash hmark htoken
        refine .inr ⟨hnone, ?_⟩
        rw [hnext]
        refine hstretch.trans (stretch_readRegex hslash hstar hread hfatal fun c hc ↦ ?_)
        have hknown := List.any_eq_false.mp hflags c hc
        exact isAlpha_of_mem_regexFlags (by simpa using hknown)

section Regex

variable [Known]

theorem raiseOpenRegex_spec {α : Type} (slash : Nat) (start stop : Remaining) :
    ⦃fun s ↦ ⌜At standing.left s⌝⦄ Reader.raiseOpenRegex (α := α) slash start stop ⦃Fails⦄ := by
  have hraise := @raiseHere_spec α ⟨standing.left⟩
  mvcgen [Reader.raiseOpenRegex, Reader.settle, -raiseHere_spec, hraise]
  case vc1.pre fault s h t t' => exact h.left_again id
  all_goals grind -ring -linarith

theorem checkFlags_spec (pos : Nat) (flags : List Char) :
    ⦃fun s ↦ ⌜(flags.any fun flag ↦ !Reader.regexFlags.contains flag) = false → At standing s⌝⦄
    Reader.checkFlags pos flags ⦃⇓ _ s => ⌜At standing s⌝⦄ := by
  mvcgen [Reader.checkFlags]
  all_goals grind -ring -linarith

@[spec]
theorem readRegexLiteral_spec :
    ⦃fun s ↦ ⌜At standing s ∧ ∃ mark ∈ ["/", "/="], Shows (.mark mark) s⌝⦄ Reader.readRegexLiteral
    ⦃Keeps⦄ := by
  have hraise := @raiseHere_spec Expr ⟨standing.left⟩
  mvcgen [Reader.readRegexLiteral, Reader.settle, raiseOpenRegex_spec, checkFlags_spec,
    -raiseHere_spec, hraise]
  case vc4.post.success.h_2.h_1.pre s _ l slash start regex _ after hfinds t stray _ t' =>
    exact hfinds.stands.left_of_faults (List.append_ne_nil_of_right_ne_nil _)
  case vc7.post.success.h_2.h_2.pre s hs l slash start regex hread after hfinds t hfatal t' =>
    obtain ⟨_, mark, hmark, hshows⟩ := hs
    exact fun hflags ↦ hfinds.regex hmark hshows hread hfatal hflags rfl rfl ⟨rfl, rfl⟩
      (List.append_ne_nil_of_right_ne_nil _)
  all_goals grind -ring -linarith

end Regex

end BrowserScript.Reading
