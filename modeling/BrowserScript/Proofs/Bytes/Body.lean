import BrowserScript.Proofs.Bytes.Scan
import BrowserScript.Proofs.Wrapper.WrapperShape

/-!
Unwrapping over the bytes of a text. The two scanners pass the same structural braces at the same
places and stop at the same literals (`Couples.traces`), so they find the same outermost pair of
braces (`outermostPair_encode`). Both braces are characters of their own, so what stands between
them is a text, and it can be cut out of the bytes (`functionBody_encode`). No access faults on the
way: every result of the scanner on bytes is one of the scanner on characters, which knows no fault
(`unwrap_faultless`).
-/

set_option autoImplicit false
set_option relaxedAutoImplicit false

namespace BrowserScript.Wrapper.Bytes

open Text

variable {src : List UInt8} {st : State} {s : ScanState} {text : List Char}

/-! ### The braces of a text -/

/-- What a search for a brace tells of the trace of a text of `n` characters. -/
inductive Traces (src : List UInt8) (trace : BraceTrace) (n : Nat) :
    Except Stop (Option (Nat × Brace) × State) → Prop
  | brace {place : Nat} {b : Brace} {next : State} {s : ScanState} {rest : List Char}
    (hcouples : Couples src next s rest) (houter : s.templates = []) (hshort : rest.length < n)
    (htrace : trace = (scanBraces s next.pos rest).cons place b) :
    Traces src trace n (.ok (some (place, b), next))
  | ended {next : State} (htrace : trace = ⟨[], none⟩) : Traces src trace n (.ok (none, next))
  | stopped {kind : LiteralKind} {start : Nat} (htrace : trace = ⟨[], some ⟨kind, start⟩⟩) :
    Traces src trace n (.error (.unterminated kind start))

/-- Outside of templates a search takes the first brace of the trace, or finds that there is
none. -/
theorem Couples.traces (h : Couples src st s text) (houter : s.templates = []) :
    Traces src (scanBraces s st.pos text) text.length (nextBrace src st) := by
  have hfinds := h.finds
  generalize nextBrace src st = result at hfinds
  cases hfinds with
  | @brace b middle place rest next hpasses htemplates hpos hcouples =>
    rw [houter] at htemplates
    have hmove : middle.move place (b.char :: rest) =
        .brace b (behindBrace middle b) ⟨next.pos, rest⟩ := by
      cases b <;>
        simp [ScanState.move, ScanState.moveOpenBrace, ScanState.moveCloseBrace, Brace.char,
          htemplates, behindBrace, hpos]
    have hle := hpasses.length_le
    simp only [List.length_cons] at hle
    refine .brace hcouples (by cases b <;> exact htemplates) (by omega) ?_
    rw [scanBraces_of_passes hpasses,
      scanBraces_of_onward (show _ = Move.onward (some b) _ _ from hmove)]
    rfl
  | ended hpasses htemplates =>
    refine .ended ((scanBraces_of_passes hpasses).trans ?_)
    exact scanBraces_of_stop (move_eq_stop_none_iff.mpr ⟨rfl, htemplates.trans houter⟩)
  | stopped hpasses hstop =>
    exact .stopped ((scanBraces_of_passes hpasses).trans (scanBraces_of_stop hstop))

/-! ### The outermost pair -/

theorem closingBrace_eq (src : List UInt8) (opening depth : Nat) (st : State) :
    closingBrace src opening (depth + 1) st =
      match nextBrace src st with
      | .error stop => .error stop
      | .ok (none, _) => .error (.malformed (.neverClosed opening))
      | .ok (some (_, .opening), next) => closingBrace src opening (depth + 2) next
      | .ok (some (closing, .closing), next) =>
        if depth = 0 then .ok (closing, next) else closingBrace src opening depth next := by
  rw [closingBrace]
  split <;> simp_all [lower]

/-- The two scanners find the same closing brace, in front of the same braces, or report the same
mistake. -/
inductive SameClosing (src : List UInt8) (failure : Option Unterminated) :
    Except ShapeError (Nat × List (Nat × Brace)) → Except Stop (Nat × State) → Prop
  | closed {closing : Nat} {later : List (Nat × Brace)} {next : State} {s : ScanState}
    {rest : List Char} (hcouples : Couples src next s rest) (houter : s.templates = [])
    (htrace : scanBraces s next.pos rest = ⟨later, failure⟩) :
    SameClosing src failure (.ok (closing, later)) (.ok (closing, next))
  | refused (cause : ShapeError) :
    SameClosing src failure (.error cause) (.error (.malformed cause))

theorem Couples.closingBrace (h : Couples src st s text) (houter : s.templates = [])
    (opening depth : Nat) :
    SameClosing src (scanBraces s st.pos text).failure
      (Wrapper.closingBrace opening (scanBraces s st.pos text).failure depth
        (scanBraces s st.pos text).braces)
      (closingBrace src opening (depth + 1) st) := by
  -- on the length of the text: every brace that is passed leaves less of it
  induction hlength : text.length using Nat.strongRecOn generalizing st s text depth with
  | ind length ih =>
    subst hlength
    have htraces := h.traces houter
    rw [closingBrace_eq]
    generalize nextBrace src st = result at htraces
    cases htraces with
    | @brace place b next s' rest hcouples houter' hshort htrace =>
      rw [htrace, BraceTrace.cons]
      cases b with
      | opening => exact ih rest.length hshort hcouples houter' (depth + 1) rfl
      | closing =>
        cases depth with
        | zero => exact .closed hcouples houter' rfl
        | succ depth => exact ih rest.length hshort hcouples houter' depth rfl
    | ended htrace =>
      rw [htrace]
      exact .refused _
    | stopped htrace =>
      rw [htrace]
      exact .refused _

/-- The scanner on bytes finds the pair that the scanner on characters finds, or reports the same
mistake. -/
theorem outermostPair_encode (text : List Char) :
    outermostPair (encode text) =
      (structuralBraces text).outermostPair.mapError Stop.malformed := by
  have htraces := (Couples.initial text).traces rfl
  rw [show scanBraces {} _ text = structuralBraces text from rfl] at htraces
  rw [outermostPair]
  generalize nextBrace (encode text) {} = result at htraces
  cases htraces with
  | @brace opening b next s rest hcouples houter hshort htrace =>
    rw [htrace, BraceTrace.cons, BraceTrace.outermostPair]
    cases b with
    | closing => rfl
    | opening =>
      have hclosing : SameClosing _ _ _ (closingBrace (encode text) opening 1 next) :=
        hcouples.closingBrace houter opening 0
      simp only [bind, Except.bind]
      generalize Wrapper.closingBrace opening _ 0 _ = found at hclosing ⊢
      generalize closingBrace (encode text) opening 1 next = found' at hclosing ⊢
      cases hclosing with
      | refused cause => rfl
      | @closed closing later next s rest hcouples houter htrace =>
        have htraces := hcouples.traces houter
        rw [htrace] at htraces
        dsimp only
        generalize nextBrace (encode text) next = result at htraces ⊢
        cases htraces with
        | brace _ _ _ htrace =>
          simp only [BraceTrace.cons, BraceTrace.mk.injEq] at htrace
          rw [htrace.1]
          rfl
        | ended htrace =>
          simp only [BraceTrace.mk.injEq] at htrace
          rw [htrace.1, htrace.2]
          rfl
        | stopped htrace =>
          simp only [BraceTrace.mk.injEq] at htrace
          rw [htrace.1, htrace.2]
          rfl
  | ended htrace =>
    rw [htrace]
    rfl
  | stopped htrace =>
    rw [htrace]
    rfl

/-! ### The body -/

/-- A character starts with a byte that is none of the later ones of a character. -/
theorem exists_first (c : Char) :
    ∃ b bytes, String.utf8EncodeChar c = b :: bytes ∧ (b < 0x80 ∨ 0xC0 ≤ b) := by
  unfold String.utf8EncodeChar
  dsimp only
  split
  · next hsize =>
    refine ⟨_, _, rfl, .inl (UInt8.lt_iff_toNat_lt.mpr ?_)⟩
    simp only [UInt8.toNat_ofNat', UInt8.reduceToNat]
    omega
  · split
    · refine ⟨_, _, rfl, .inr (UInt8.le_iff_toNat_le.mpr ?_)⟩
      simp only [UInt8.toNat_ofNat', UInt8.reduceToNat]
      omega
    · split
      · refine ⟨_, _, rfl, .inr (UInt8.le_iff_toNat_le.mpr ?_)⟩
        simp only [UInt8.toNat_ofNat', UInt8.reduceToNat]
        omega
      · refine ⟨_, _, rfl, .inr (UInt8.le_iff_toNat_le.mpr ?_)⟩
        simp only [UInt8.toNat_ofNat', UInt8.reduceToNat]
        omega

/-- Where a character starts, a part may begin or end. -/
theorem Stands.isBoundary {pos : Nat} {c : Char} {rest : List Char}
    (h : Stands src pos (c :: rest)) : isBoundary src pos := by
  obtain ⟨b, bytes, hencode, hb⟩ := exists_first c
  have hget := h.getElem?_eq 0
  rw [encode_cons, hencode] at hget
  have hfirst : src[pos]? = some b := by simpa using hget
  simp [Bytes.isBoundary, hfirst, hb]

/-- What stands between two braces of a text can be cut out of its bytes. -/
theorem textPart_encode (before body after : List Char) :
    textPart (encode (before ++ '\x7b' :: (body ++ '\x7d' :: after))) (byteSize before + 1)
      (byteSize before + 1 + byteSize body) = .ok (encode body) := by
  generalize hsrc : encode (before ++ '\x7b' :: (body ++ '\x7d' :: after)) = src
  have hwhole : Stands src 0 (before ++ '\x7b' :: (body ++ '\x7d' :: after)) := hsrc.symm
  have hbody : Stands src (byteSize before + 1) (body ++ '\x7d' :: after) := by
    have hbehind := hwhole.append.tail_ascii (by decide)
    rwa [Nat.zero_add] at hbehind
  have hlow : isBoundary src (byteSize before + 1) := by
    cases body <;> exact hbody.isBoundary
  have hlength := hwhole.length_eq (Nat.zero_le _)
  have hpart : part src (byteSize before + 1) (byteSize before + 1 + byteSize body) =
      .ok (encode body) := by
    have hle : byteSize before + 1 + byteSize body ≤ src.length := by
      simp only [byteSize_append, byteSize_cons,
        utf8Size_of_ascii (show '\x7b'.toNat < 128 by decide)] at hlength
      omega
    rw [part, if_pos ⟨Nat.le_add_right _ _, hle⟩, List.drop_take, Nat.add_sub_cancel_left,
      show src.drop (byteSize before + 1) = _ from hbody, encode_append, ← length_encode,
      List.take_left]
  rw [textPart, hlow, hbody.append.isBoundary, Bool.and_self, if_pos rfl, hpart]

/-- The body of a wrapper, as bytes. -/
theorem functionBody_encode (text : List Char) :
    functionBody (encode text) =
      match Wrapper.functionBody text with
      | .ok body => .ok (encode body)
      | .error cause => .error (.malformed cause) := by
  cases hbody : Wrapper.functionBody text with
  | error cause =>
    rw [functionBody, outermostPair_encode,
      outermostPair_eq_iff.mpr (functionBody_eq_error_iff.mp hbody)]
    rfl
  | ok body =>
    obtain ⟨before, after, rfl, hpair⟩ := exists_split_of_functionBody hbody
    rw [functionBody, outermostPair_encode, outermostPair_eq_iff.mpr hpair]
    exact textPart_encode before body after

/-- What unwrapping the bytes of a bundle comes to: the bytes of what unwrapping its text comes to,
or the same mistake. -/
def bytesOf : Except BuildError String → Except Stop (List UInt8)
  | .ok value => .ok (encode value.toList)
  | .error cause => .error (.refused cause)

theorem unwrap_eq (bundle globalObject : String) :
    unwrap bundle globalObject = bytesOf (BrowserScript.unwrap bundle globalObject).outcome := by
  by_cases hglobal : isIdentifier globalObject
  · rw [unwrap, if_pos hglobal, outcome_unwrap hglobal, functionBody_encode]
    cases Wrapper.functionBody (dropByteOrderMark bundle.toList) with
    | ok body =>
      show Except.ok _ = Except.ok _
      rw [String.toList_append, String.toList_ofList, encode_append]
    | error cause => rfl
  · rw [unwrap, if_neg hglobal, BrowserScript.unwrap, bodyFor, if_neg hglobal]
    rfl

/-- Both braces of the outermost pair are characters of the text, in this order, and what stands
between them is cut out as a text. -/
structure CutsAt (text : List Char) (opening closing : Nat) : Prop where
  lt : opening < closing
  split : ∃ before body after, text = before ++ '\x7b' :: (body ++ '\x7d' :: after) ∧
    opening = byteSize before ∧ closing = byteSize before + 1 + byteSize body ∧
      textPart (encode text) (opening + 1) closing = .ok (encode body)

theorem cutsAt_of_outermostPair {text : List Char} {opening closing : Nat}
    (h : outermostPair (encode text) = .ok (opening, closing)) : CutsAt text opening closing := by
  rw [outermostPair_encode] at h
  cases hpair : (structuralBraces text).outermostPair with
  | error cause =>
    rw [hpair] at h
    cases h
  | ok pair =>
    rw [hpair] at h
    cases h
    have hverdict := outermostPair_eq_iff.mp hpair
    obtain ⟨before, body, after, rfl, rfl, rfl⟩ := exists_split_of_pair hverdict
    exact ⟨by omega, before, body, after, rfl, rfl, rfl, textPart_encode before body after⟩

/-- Every call of the scan hands on a later place than the one that it starts at. -/
structure GoesOn (src : List UInt8) : Prop where
  brace : ∀ {st next : State} {found : Nat × Brace},
    nextBrace src st = .ok (some found, next) → st.pos < src.length ∧ st.pos < next.pos
  template : ∀ {start : Nat} {st next : State},
    skipTemplate src start st = .ok next → st.pos < next.pos
  substitution : ∀ {start depth : Nat} {st next : State},
    skipSubstitution src start (depth + 1) st = .ok next → st.pos < next.pos

theorem pos_lt_of_skipTemplate {start : Nat} {next : State}
    (h : skipTemplate src start st = .ok next) : st.pos < next.pos := by
  rw [skipTemplate] at h
  cases hpass : passTemplate src start st with
  | error stop =>
    rw [hpass] at h
    cases h
  | ok after =>
    rw [hpass] at h
    cases h
    exact after.2

theorem pos_le_of_skipSubstitution {start depth : Nat} {next : State}
    (h : skipSubstitution src start depth st = .ok next) : st.pos ≤ next.pos := by
  rw [skipSubstitution] at h
  cases hpass : passSubstitution src start depth st with
  | error stop =>
    rw [hpass] at h
    cases h
  | ok after =>
    rw [hpass] at h
    cases h
    exact after.2

theorem pos_lt_of_skipSubstitution {start depth : Nat} {next : State}
    (h : skipSubstitution src start (depth + 1) st = .ok next) : st.pos < next.pos := by
  rw [skipSubstitution_eq, if_neg depth.succ_ne_zero] at h
  cases hfound : nextBrace src st with
  | error stop =>
    rw [hfound] at h
    cases h
  | ok found =>
    rw [hfound] at h
    obtain ⟨_ | ⟨place, _ | _⟩, after⟩ := found
    · cases h
    · exact Nat.lt_of_lt_of_le (nextBrace_pos_lt hfound).2 (pos_le_of_skipSubstitution h)
    · exact Nat.lt_of_lt_of_le (nextBrace_pos_lt hfound).2 (pos_le_of_skipSubstitution h)

theorem goesOn (src : List UInt8) : GoesOn src :=
  ⟨nextBrace_pos_lt, pos_lt_of_skipTemplate, pos_lt_of_skipSubstitution⟩

/-- Unwrapping the bytes of a bundle makes no access that faults, for every bundle and every global
object. It comes to the text or to the mistake that unwrapping the characters of the bundle comes
to; the part that is cut out stands between two braces of the text, in order, and is a text of its
own; and the calls of the scan all go on in the bytes, which is what it ends by. -/
theorem unwrap_faultless (bundle globalObject : String) :
    (∀ fault, unwrap bundle globalObject ≠ .error (.fault fault)) ∧
      unwrap bundle globalObject = bytesOf (BrowserScript.unwrap bundle globalObject).outcome ∧
        (∀ opening closing,
          outermostPair (encode (dropByteOrderMark bundle.toList)) = .ok (opening, closing) →
            CutsAt (dropByteOrderMark bundle.toList) opening closing) ∧
          GoesOn (encode (dropByteOrderMark bundle.toList)) := by
  refine ⟨fun fault hfault ↦ ?_, unwrap_eq bundle globalObject,
    fun _ _ ↦ cutsAt_of_outermostPair, goesOn _⟩
  rw [unwrap_eq] at hfault
  cases houtcome : (BrowserScript.unwrap bundle globalObject).outcome <;>
    (rw [houtcome] at hfault; cases hfault)

end BrowserScript.Wrapper.Bytes
