import Mathlib
import BrowserScript.Proofs.Reading.Statement
import BrowserScript.Script.Grammar.Document

/-!
Every text that is a script can be read as items. The readers of each depth keep what is known of a
state (`partsKeep_below`), so a script that is read without a fault has been read as items from its
first character to its end, or to a null character, which is taken for the end
(`exists_reads_of_parse`).
-/

set_option autoImplicit false
set_option relaxedAutoImplicit false
set_option mvcgen.warning false

namespace BrowserScript.Reading

open Script Std.Do

/-- The readers for constructs of less than a given depth keep what is known of a state. -/
theorem partsKeep_below (depth : Nat) : PartsKeep (Parts.below depth) := by
  induction depth with
  | zero =>
    have hraise {α : Type} [Known] : ⦃Holds⦄ Reader.raiseEnd (α := α) ⦃Keeps⦄ := by
      mvcgen
      exact False.elim
    exact ⟨hraise, hraise, hraise, hraise, fun _ ↦ hraise, fun _ ↦ hraise⟩
  | succ depth ih =>
    exact ⟨readAssignment_spec ih, readUnary_spec ih, readLeftHandSide_spec ih,
      readCallee_spec ih, readStatement_spec ih, readPattern_spec ih⟩

theorem isEof_ended_spec [Known] :
    ⦃Holds⦄ Reader.isEof ⦃⇓ r s => ⌜At standing s ∧ (r → Ended standing s)⌝⦄ := by
  mvcgen
  all_goals grind -ring -linarith

theorem readScript_spec [Known] (depth : Nat) :
    ⦃Holds⦄ Reader.readScript (Parts.below depth)
    ⦃post⟨fun _ s ↦ ⌜At standing s ∧ Ended standing s⌝, fun _ s ↦ ⌜At standing.left s⌝⟩⦄ := by
  have hstatements := readStatements_spec isEof_ended_spec (partsKeep_below depth) true
    fun s context h ↦ h
  mvcgen [Reader.readScript, hstatements]

/-- A fault that has been noted stands until the end of the script. -/
theorem faults_of_many {depth : Nat} {s s' : ReadState} {found : List (Stmt × Bool × Nat)}
    (hfaults : s.faults ≠ [])
    (hrun : Reader.many (Reader.readBodyStatement (Parts.below depth) Reader.isEof) s =
      (.ok found, s')) : s'.faults ≠ [] := by
  let _ : Known := ⟨.faulty⟩
  have hmany :=
    many_spec (readBodyStatement_spec isEof_ended_spec (partsKeep_below depth)) s hfaults
  rw [wp_iff, hrun] at hmany
  exact hmany.1

/-- A script in which there is no null character has been read as items to its end. -/
theorem At.stretch {script : List Char} {s : ReadState} (h : At (.sound script) s)
    (hended : Ended (.sound script) s) (hfaults : s.faults = []) (hnull : '\x00' ∉ script) :
    Stretch script [] := by
  obtain ⟨_, hsound⟩ := h.resolve_left (absurd hfaults)
  obtain ⟨hcurrent, hnext, hrest⟩ := hended.resolve_left (absurd hfaults)
  rw [hcurrent, hnext, hrest.resolve_right hnull] at hsound
  exact hsound

/-- Assumes: a text that is a script, without a null character. Its characters are read as items,
from the first one to the last. -/
theorem exists_reads_of_parse {text : String} {statements : List Stmt}
    (hparse : parse text = .ok statements) (hnull : '\x00' ∉ scriptChars text) :
    ∃ items, Reads items [] ∧ itemsText items = scriptChars text := by
  have hrun := @readScript_spec ⟨.sound (scriptChars text)⟩ (depthBound (scriptChars text).length)
    { script := scriptChars text, rest := ⟨0, scriptChars text⟩,
      bound := 2 * (scriptChars text).length + 1 } (.inr ⟨rfl, .initial _⟩)
  rw [wp_iff] at hrun
  unfold parse at hparse
  dsimp only at hparse
  split at hparse
  case h_1 => cases hparse
  case h_2 found s heq =>
    rw [heq] at hrun
    split at hparse
    case h_1 => cases hparse
    case h_2 hlast =>
      have hfaults : s.faults = [] := List.getLast?_eq_none_iff.mp hlast
      obtain ⟨items, hitems, htext⟩ :=
        (hrun.1.stretch hrun.2 hfaults hnull).exists_reads (.nil (scriptChars text))
      exact ⟨items, hitems, by simpa [itemsText] using htext⟩

end BrowserScript.Reading
