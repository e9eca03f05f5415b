import BrowserScript.Proofs.Wrapper.ScanRun
import BrowserScript.Unwrapping

/-!
Which texts are a wrapper around a body, and what is reported of the others. The structural braces
of a text are read as a word: the text is a wrapper exactly when the first brace opens, the depth
comes back to zero for the first time at the last brace, and the scan ends without a failure.
`Outcome` lists this case and every other one with what is reported of it, and
`outcome_unwrap_iff` says that unwrapping a bundle gives exactly the outcome that is listed; since
different cases are listed with different outcomes, no two of them can hold of one text.
-/

set_option autoImplicit false
set_option relaxedAutoImplicit false

namespace BrowserScript.Wrapper

open Text

/-! ### Depths -/

/-- Opening braces minus closing ones. -/
def depth : List (Nat × Brace) → Int
  | [] => 0
  | (_, .opening) :: braces => depth braces + 1
  | (_, .closing) :: braces => depth braces - 1

/-- The depth never comes back to zero, at no brace of the list. -/
def NeverReturns (braces : List (Nat × Brace)) : Prop :=
  ∀ first, first <+: braces → first ≠ [] → depth first ≠ 0

/-- The depth comes back to zero at the brace `last` for the first time. -/
def ReturnsAt (braces : List (Nat × Brace)) (last : Nat × Brace) : Prop :=
  NeverReturns braces ∧ depth (braces ++ [last]) = 0

/-- From `d + 1` open braces on, the depth stays positive. -/
def StaysOpen (d : Nat) (braces : List (Nat × Brace)) : Prop :=
  ∀ first, first <+: braces → -(d : Int) ≤ depth first

theorem depth_append (first second : List (Nat × Brace)) :
    depth (first ++ second) = depth first + depth second := by
  induction first with
  | nil => simp [depth]
  | cons b first ih =>
    obtain ⟨place, passed⟩ := b
    cases passed <;> simp only [List.cons_append, depth, ih] <;> omega

theorem staysOpen_nil (d : Nat) : StaysOpen d [] := by
  intro first hfirst
  rw [List.prefix_nil.mp hfirst]
  simp [depth]

theorem staysOpen_opening_cons {d place : Nat} {braces : List (Nat × Brace)} :
    StaysOpen d ((place, .opening) :: braces) ↔ StaysOpen (d + 1) braces := by
  constructor
  · intro h first hfirst
    have hdepth := h ((place, .opening) :: first) (List.cons_prefix_cons.mpr ⟨rfl, hfirst⟩)
    simp only [depth] at hdepth
    push_cast
    omega
  · intro h first hfirst
    cases first with
    | nil => simp [depth]
    | cons b first =>
      obtain ⟨rfl, htail⟩ := List.cons_prefix_cons.mp hfirst
      have hdepth := h first htail
      simp only [depth]
      push_cast at hdepth
      omega

theorem staysOpen_closing_cons {d place : Nat} {braces : List (Nat × Brace)} :
    StaysOpen (d + 1) ((place, .closing) :: braces) ↔ StaysOpen d braces := by
  constructor
  · intro h first hfirst
    have hdepth := h ((place, .closing) :: first) (List.cons_prefix_cons.mpr ⟨rfl, hfirst⟩)
    simp only [depth] at hdepth
    push_cast at hdepth
    omega
  · intro h first hfirst
    cases first with
    | nil =>
      simp only [depth]
      omega
    | cons b first =>
      obtain ⟨rfl, htail⟩ := List.cons_prefix_cons.mp hfirst
      have hdepth := h first htail
      simp only [depth]
      push_cast
      omega

theorem not_staysOpen_closing_cons {place : Nat} {braces : List (Nat × Brace)} :
    ¬StaysOpen 0 ((place, .closing) :: braces) := by
  intro h
  have hdepth := h [(place, .closing)] (by simp)
  simp [depth] at hdepth

/-- The depth stays positive throughout a list of braces, or there is a first brace at which it
does not. -/
theorem staysOpen_or_returns (d : Nat) (braces : List (Nat × Brace)) :
    StaysOpen d braces ∨ ∃ inner place later, braces = inner ++ (place, .closing) :: later ∧
      StaysOpen d inner ∧ depth inner = -(d : Int) := by
  induction braces generalizing d with
  | nil => exact .inl (staysOpen_nil d)
  | cons b braces ih =>
    obtain ⟨place, passed⟩ := b
    cases passed with
    | opening =>
      rcases ih (d + 1) with hopen | ⟨inner, close, later, rfl, hopen, hdepth⟩
      · exact .inl (staysOpen_opening_cons.mpr hopen)
      · refine .inr ⟨(place, .opening) :: inner, close, later, rfl,
          staysOpen_opening_cons.mpr hopen, ?_⟩
        simp only [depth, hdepth]
        push_cast
        omega
    | closing =>
      cases d with
      | zero => exact .inr ⟨[], place, braces, rfl, staysOpen_nil 0, rfl⟩
      | succ d =>
        rcases ih d with hopen | ⟨inner, close, later, rfl, hopen, hdepth⟩
        · exact .inl (staysOpen_closing_cons.mpr hopen)
        · refine .inr ⟨(place, .closing) :: inner, close, later, rfl,
            staysOpen_closing_cons.mpr hopen, ?_⟩
          simp only [depth, hdepth]
          push_cast
          omega

theorem neverReturns_opening_cons_iff {place : Nat} {inner : List (Nat × Brace)} :
    NeverReturns ((place, .opening) :: inner) ↔ StaysOpen 0 inner := by
  constructor
  · intro h
    rcases staysOpen_or_returns 0 inner with hopen | ⟨before, close, later, rfl, _, hdepth⟩
    · exact hopen
    · refine (h ((place, .opening) :: (before ++ [(close, .closing)])) ?_ (by simp) ?_).elim
      · exact List.cons_prefix_cons.mpr ⟨rfl, by simp⟩
      · simp [depth, depth_append, hdepth]
  · intro h first hfirst hne
    cases first with
    | nil => exact (hne rfl).elim
    | cons b first =>
      obtain ⟨rfl, htail⟩ := List.cons_prefix_cons.mp hfirst
      have hdepth := h first htail
      simp only [depth]
      omega

theorem returnsAt_opening_cons_iff {place : Nat} {inner : List (Nat × Brace)}
    {last : Nat × Brace} :
    ReturnsAt ((place, .opening) :: inner) last ↔
      StaysOpen 0 inner ∧ depth inner = 0 ∧ last.2 = .closing := by
  rw [ReturnsAt, neverReturns_opening_cons_iff]
  refine and_congr_right fun hopen ↦ ?_
  have hdepth := hopen inner (List.prefix_refl inner)
  obtain ⟨close, passed⟩ := last
  cases passed <;> simp [depth, depth_append] <;> omega

/-! ### The outermost pair -/

variable {opening : Nat} {failure : Option Unterminated}

theorem closingBrace_of_staysOpen {d : Nat} {braces : List (Nat × Brace)}
    (h : StaysOpen d braces) :
    closingBrace opening failure d braces =
      .error (BraceTrace.stop ⟨[], failure⟩ (.neverClosed opening)) := by
  fun_induction closingBrace opening failure d braces with
  | case1 => rfl
  | case2 d place braces ih => exact ih (staysOpen_opening_cons.mp h)
  | case3 place braces => exact (not_staysOpen_closing_cons h).elim
  | case4 d place braces ih => exact ih (staysOpen_closing_cons.mp h)

theorem closingBrace_append {d close : Nat} {inner later : List (Nat × Brace)}
    (h : StaysOpen d inner) (hdepth : depth inner = -(d : Int)) :
    closingBrace opening failure d (inner ++ (close, .closing) :: later) = .ok (close, later) := by
  induction inner generalizing d with
  | nil =>
    have hd : d = 0 := by
      simp only [depth] at hdepth
      omega
    subst hd
    rfl
  | cons b inner ih =>
    obtain ⟨place, passed⟩ := b
    cases passed with
    | opening =>
      refine ih (staysOpen_opening_cons.mp h) ?_
      simp only [depth] at hdepth
      push_cast
      omega
    | closing =>
      cases d with
      | zero => exact (not_staysOpen_closing_cons h).elim
      | succ d =>
        refine ih (staysOpen_closing_cons.mp h) ?_
        simp only [depth] at hdepth
        push_cast at hdepth
        omega

/-- The braces of a text leave open what is reported of it: there is none, the depth has not come
back to zero, or it has done so at the last one. -/
inductive Undecided : List (Nat × Brace) → Prop
  | none : Undecided []
  | inside {first : Nat} {inner : List (Nat × Brace)}
    (hopen : NeverReturns ((first, .opening) :: inner)) : Undecided ((first, .opening) :: inner)
  | closed {first : Nat} {inner : List (Nat × Brace)} {last : Nat × Brace}
    (hreturn : ReturnsAt ((first, .opening) :: inner) last) :
    Undecided ((first, .opening) :: (inner ++ [last]))

/-- What is reported of the braces of a text and the failure that ends them: the offsets of the one
outermost pair, or why there is none. -/
inductive Verdict (trace : BraceTrace) : Except ShapeError (Nat × Nat) → Prop
  | pair {first : Nat} {inner : List (Nat × Brace)} {last : Nat × Brace}
    (hbraces : trace.braces = (first, .opening) :: (inner ++ [last]))
    (hreturn : ReturnsAt ((first, .opening) :: inner) last) (hend : trace.failure = none) :
    Verdict trace (.ok (first, last.1))
  | closingFirst {first : Nat} {later : List (Nat × Brace)}
    (hbraces : trace.braces = (first, .closing) :: later) :
    Verdict trace (.error (.closingFirst first))
  | noBrace (hbraces : trace.braces = []) (hend : trace.failure = none) :
    Verdict trace (.error .noBrace)
  | neverClosed {first : Nat} {inner : List (Nat × Brace)}
    (hbraces : trace.braces = (first, .opening) :: inner)
    (hopen : NeverReturns ((first, .opening) :: inner)) (hend : trace.failure = none) :
    Verdict trace (.error (.neverClosed first))
  | braceAfterBody {first : Nat} {inner later : List (Nat × Brace)} {last next : Nat × Brace}
    (hbraces : trace.braces = (first, .opening) :: (inner ++ last :: next :: later))
    (hreturn : ReturnsAt ((first, .opening) :: inner) last) :
    Verdict trace (.error (.braceAfterBody next.1 last.1))
  | unterminated {literal : Unterminated} (hfailure : trace.failure = some literal)
    (hundecided : Undecided trace.braces) : Verdict trace (.error (.unterminated literal))

theorem outermostPair_of_staysOpen {trace : BraceTrace} {first : Nat}
    {inner : List (Nat × Brace)} (hbraces : trace.braces = (first, .opening) :: inner)
    (hopen : StaysOpen 0 inner) :
    trace.outermostPair = .error (trace.stop (.neverClosed first)) := by
  rw [BraceTrace.outermostPair, hbraces]
  dsimp only
  rw [closingBrace_of_staysOpen hopen]
  rfl

theorem outermostPair_of_returnsAt {first : Nat} {inner : List (Nat × Brace)}
    {last : Nat × Brace} (hreturn : ReturnsAt ((first, .opening) :: inner) last)
    (later : List (Nat × Brace)) (failure : Option Unterminated) :
    BraceTrace.outermostPair ⟨(first, .opening) :: (inner ++ last :: later), failure⟩ =
      match later, failure with
      | next :: _, _ => .error (.braceAfterBody next.1 last.1)
      | [], some literal => .error (.unterminated literal)
      | [], none => .ok (first, last.1) := by
  obtain ⟨hopen, hdepth, hlast⟩ := returnsAt_opening_cons_iff.mp hreturn
  obtain ⟨close, passed⟩ := last
  cases hlast
  rw [BraceTrace.outermostPair]
  dsimp only
  rw [closingBrace_append hopen (by simpa using hdepth)]
  cases later <;> cases failure <;> rfl

/-- Something is reported of every trace, and it is what the search for the outermost pair gives. -/
theorem verdict_outermostPair (trace : BraceTrace) : Verdict trace trace.outermostPair := by
  obtain ⟨braces, failure⟩ := trace
  rcases braces with _ | ⟨⟨first, _ | _⟩, inner⟩
  · cases failure with
    | none => exact .noBrace rfl rfl
    | some literal => exact .unterminated rfl .none
  · rcases staysOpen_or_returns 0 inner with hopen | ⟨inner, close, later, rfl, hopen, hdepth⟩
    · rw [outermostPair_of_staysOpen rfl hopen]
      have hnever := @neverReturns_opening_cons_iff first inner |>.mpr hopen
      cases failure with
      | none => exact .neverClosed rfl hnever rfl
      | some literal => exact .unterminated rfl (.inside hnever)
    · have hreturn : ReturnsAt ((first, .opening) :: inner) (close, .closing) :=
        returnsAt_opening_cons_iff.mpr ⟨hopen, by simpa using hdepth, rfl⟩
      rw [outermostPair_of_returnsAt hreturn]
      rcases later with _ | ⟨next, later⟩
      · cases failure with
        | none => exact .pair rfl hreturn rfl
        | some literal => exact .unterminated rfl (.closed hreturn)
      · exact .braceAfterBody rfl hreturn
  · exact .closingFirst rfl

theorem Undecided.outermostPair {trace : BraceTrace} {literal : Unterminated}
    (h : Undecided trace.braces) (hfailure : trace.failure = some literal) :
    trace.outermostPair = .error (.unterminated literal) := by
  obtain ⟨braces, failure⟩ := trace
  cases hfailure
  cases h with
  | none => rfl
  | inside hopen =>
    exact outermostPair_of_staysOpen rfl (neverReturns_opening_cons_iff.mp hopen)
  | closed hreturn => exact outermostPair_of_returnsAt hreturn [] (some literal)

/-- The cases that `Verdict` lists are all there are, and no two of them hold of one trace. -/
theorem outermostPair_eq_iff {trace : BraceTrace} {result : Except ShapeError (Nat × Nat)} :
    trace.outermostPair = result ↔ Verdict trace result := by
  constructor
  · rintro rfl
    exact verdict_outermostPair trace
  · intro h
    obtain ⟨braces, failure⟩ := trace
    cases h with
    | pair hbraces hreturn hend =>
      cases hbraces
      cases hend
      exact outermostPair_of_returnsAt hreturn [] none
    | closingFirst hbraces =>
      cases hbraces
      rfl
    | noBrace hbraces hend =>
      cases hbraces
      cases hend
      rfl
    | neverClosed hbraces hopen hend =>
      cases hend
      exact outermostPair_of_staysOpen hbraces (neverReturns_opening_cons_iff.mp hopen)
    | @braceAfterBody _ _ later _ next hbraces hreturn =>
      cases hbraces
      exact outermostPair_of_returnsAt hreturn (next :: later) failure
    | unterminated hfailure hundecided => exact hundecided.outermostPair hfailure

/-! ### The text around and inside the pair -/

/-- A character that stands in front of the end of the first part of a text. -/
theorem exists_split_of_lt {before later outer rest : List Char} {c : Char}
    (htext : before ++ c :: later = outer ++ rest) (hlt : byteSize before < byteSize outer) :
    ∃ body, outer = before ++ c :: body ∧ later = body ++ rest := by
  rcases List.append_eq_append_iff.mp htext with ⟨middle, rfl, hlater⟩ | ⟨middle, rfl, _⟩
  · cases middle with
    | nil => simp at hlt
    | cons e body =>
      obtain ⟨rfl, rfl⟩ := List.cons.inj hlater
      exact ⟨body, rfl, rfl⟩
  · rw [byteSize_append] at hlt
    omega

/-- A place that does not stand in front of the end of the first part of a text. -/
theorem exists_split_of_le {before later outer rest : List Char}
    (htext : before ++ later = outer ++ rest) (hle : byteSize outer ≤ byteSize before) :
    ∃ gap, before = outer ++ gap ∧ rest = gap ++ later := by
  rcases List.append_eq_append_iff.mp htext with ⟨middle, rfl, rfl⟩ | ⟨middle, rfl, hrest⟩
  · cases middle with
    | nil => exact ⟨[], by simp, rfl⟩
    | cons c middle =>
      have hpos := c.utf8Size_pos
      rw [byteSize_append, byteSize_cons] at hle
      omega
  · exact ⟨middle, rfl, hrest⟩

theorem between_wrapper (before body after : List Char) :
    between (byteSize before + 1) (byteSize before + 1 + byteSize body)
      (before ++ '\x7b' :: (body ++ '\x7d' :: after)) = body := by
  have hsize : byteSize before + 1 = byteSize (before ++ ['\x7b']) := by simp
  have htext : before ++ '\x7b' :: (body ++ '\x7d' :: after) =
      before ++ ['\x7b'] ++ (body ++ '\x7d' :: after) := by simp
  rw [between, Nat.add_sub_cancel_left, hsize, htext, dropBytes_byteSize_append,
    takeBytes_byteSize_append]

/-- An outermost pair encloses all other braces, and nothing is left open behind it. -/
theorem Verdict.exists_inner {trace : BraceTrace} {first last : Nat}
    (h : Verdict trace (.ok (first, last))) :
    ∃ inner, trace.braces = (first, .opening) :: (inner ++ [(last, .closing)]) ∧
      ReturnsAt ((first, .opening) :: inner) (last, .closing) ∧ trace.failure = none := by
  -- the result is named, as the other kinds of verdict are about a result of another form
  generalize hresult : Except.ok (first, last) = result at h
  cases h with
  | @pair _ inner close hbraces hreturn hend =>
    cases hresult
    obtain ⟨_, _, hlast⟩ := returnsAt_opening_cons_iff.mp hreturn
    obtain ⟨place, passed⟩ := close
    cases hlast
    exact ⟨inner, hbraces, hreturn, hend⟩
  | _ => cases hresult

theorem Verdict.mem_braces {trace : BraceTrace} {first last : Nat}
    (h : Verdict trace (.ok (first, last))) :
    (first, .opening) ∈ trace.braces ∧ (last, .closing) ∈ trace.braces := by
  obtain ⟨inner, hbraces, _, _⟩ := h.exists_inner
  simp [hbraces]

theorem Verdict.lt_of_sorted {trace : BraceTrace} {first last : Nat}
    (h : Verdict trace (.ok (first, last)))
    (hsorted : trace.braces.Pairwise fun a b ↦ a.1 < b.1) : first < last := by
  obtain ⟨inner, hbraces, _, _⟩ := h.exists_inner
  rw [hbraces] at hsorted
  exact (List.pairwise_cons.mp hsorted).1 (last, .closing) (by simp)

/-- Assumes: the outermost pair of the structural braces of a text. It splits the text. -/
theorem exists_split_of_pair {text : List Char} {first last : Nat}
    (h : Verdict (structuralBraces text) (.ok (first, last))) :
    ∃ before body after, text = before ++ '\x7b' :: (body ++ '\x7d' :: after) ∧
      first = byteSize before ∧ last = byteSize before + 1 + byteSize body := by
  obtain ⟨hfirst, hlast⟩ := h.mem_braces
  have hlt := h.lt_of_sorted (sorted_structuralBraces text)
  obtain ⟨before, later, htext, rfl⟩ := exists_split_of_mem_braces hfirst
  obtain ⟨outer, after, htext', rfl⟩ := exists_split_of_mem_braces hlast
  obtain ⟨body, rfl, rfl⟩ := exists_split_of_lt (htext.symm.trans htext') hlt
  exact ⟨before, body, after, htext, rfl, by simp [Brace.char]; omega⟩

theorem functionBody_of_pair {before body after : List Char}
    (h : Verdict (structuralBraces (before ++ '\x7b' :: (body ++ '\x7d' :: after)))
      (.ok (byteSize before, byteSize before + 1 + byteSize body))) :
    functionBody (before ++ '\x7b' :: (body ++ '\x7d' :: after)) = .ok body := by
  rw [functionBody, outermostPair_eq_iff.mpr h]
  exact congrArg Except.ok (between_wrapper before body after)

theorem functionBody_eq_error_iff {text : List Char} {cause : ShapeError} :
    functionBody text = .error cause ↔ Verdict (structuralBraces text) (.error cause) := by
  rw [← outermostPair_eq_iff, functionBody]
  cases (structuralBraces text).outermostPair with
  | ok pair => constructor <;> (intro h; cases h)
  | error cause' => constructor <;> (intro h; cases h; rfl)

/-- The body of a wrapper stands between the outermost pair of its structural braces. -/
theorem exists_split_of_functionBody {text body : List Char} (h : functionBody text = .ok body) :
    ∃ before after, text = before ++ '\x7b' :: (body ++ '\x7d' :: after) ∧
      Verdict (structuralBraces text)
        (.ok (byteSize before, byteSize before + 1 + byteSize body)) := by
  have hverdict := verdict_outermostPair (structuralBraces text)
  cases hpair : (structuralBraces text).outermostPair with
  | ok pair =>
    obtain ⟨first, last⟩ := pair
    rw [hpair] at hverdict
    obtain ⟨before, body', after, rfl, rfl, rfl⟩ := exists_split_of_pair hverdict
    obtain rfl : body' = body := Except.ok.inj ((functionBody_of_pair hverdict).symm.trans h)
    exact ⟨before, after, rfl, hverdict⟩
  | error cause =>
    rw [hpair] at hverdict
    rw [functionBody_eq_error_iff.mpr hverdict] at h
    cases h

/-! ### Byte order marks -/

theorem dropByteOrderMark_of_head?_ne {cs : List Char} (h : cs.head? ≠ some byteOrderMark) :
    dropByteOrderMark cs = cs := by
  cases cs with
  | nil => rfl
  | cons c rest => exact if_neg fun hc ↦ h (congrArg some hc)

theorem dropByteOrderMark_append_of_head?_ne {second : List Char}
    (h : second.head? ≠ some byteOrderMark) (first : List Char) :
    dropByteOrderMark (first ++ second) = dropByteOrderMark first ++ second := by
  cases first with
  | nil => exact dropByteOrderMark_of_head?_ne h
  | cons c first =>
    simp only [List.cons_append, dropByteOrderMark]
    split <;> rfl

theorem dropByteOrderMark_sublist (cs : List Char) : (dropByteOrderMark cs).Sublist cs := by
  cases cs with
  | nil => exact .slnil
  | cons c rest =>
    rw [dropByteOrderMark]
    split
    · exact List.sublist_cons_self c rest
    · exact .refl _

/-! ### The outcome of unwrapping -/

/-- What unwrapping a text gives: the body between the outermost pair of structural braces, which
are all in it, or the reason why there is no such pair. -/
inductive Outcome (text : List Char) (globalObject : String) : Except BuildError String → Prop
  | accepted {before body after : List Char}
    (htext : text = before ++ '\x7b' :: (body ++ '\x7d' :: after))
    (hpair : Verdict (structuralBraces text)
      (.ok (byteSize before, byteSize before + 1 + byteSize body)))
    (hwithin : ∀ b ∈ (structuralBraces text).braces,
      byteSize before ≤ b.1 ∧ b.1 ≤ byteSize before + 1 + byteSize body) :
    Outcome text globalObject (.ok ("var scope = " ++ globalObject ++ ";" ++ String.ofList body))
  | rejected {cause : ShapeError} (hcause : Verdict (structuralBraces text) (.error cause)) :
    Outcome text globalObject (.error (.malformedBundle cause))

/-- Assumes: the outermost pair of a text. No brace stands in front of it or behind it. -/
theorem within_of_pair {text : List Char} {first last : Nat}
    (h : Verdict (structuralBraces text) (.ok (first, last))) :
    ∀ b ∈ (structuralBraces text).braces, first ≤ b.1 ∧ b.1 ≤ last := by
  obtain ⟨inner, hbraces, _, _⟩ := h.exists_inner
  have hsorted := sorted_structuralBraces text
  rw [hbraces] at hsorted ⊢
  obtain ⟨hfirst, hinner⟩ := List.pairwise_cons.mp hsorted
  intro b hb
  rcases List.mem_cons.mp hb with rfl | hb
  · exact ⟨Nat.le_refl _, Nat.le_of_lt (hfirst (last, .closing) (by simp))⟩
  · refine ⟨Nat.le_of_lt (hfirst b hb), ?_⟩
    rcases List.mem_append.mp hb with hb | hb
    · exact Nat.le_of_lt ((List.pairwise_append.mp hinner).2.2 b hb (last, .closing) (by simp))
    · exact Nat.le_of_eq (congrArg Prod.fst (List.mem_singleton.mp hb))

theorem outcome_unwrap {bundle globalObject : String} (hglobal : isIdentifier globalObject) :
    (unwrap bundle globalObject).outcome =
      match functionBody (dropByteOrderMark bundle.toList) with
      | .ok body => .ok (scopeDeclaration globalObject ++ String.ofList body)
      | .error cause => .error (.malformedBundle cause) := by
  rw [unwrap, bodyFor, if_pos hglobal, bundleBody]
  cases functionBody (dropByteOrderMark bundle.toList) <;> rfl

theorem outcome_unwrap_eq_ok_iff {bundle globalObject value : String} :
    (unwrap bundle globalObject).outcome = .ok value ↔ isIdentifier globalObject ∧
      ∃ body, functionBody (dropByteOrderMark bundle.toList) = .ok body ∧
        value = "var scope = " ++ globalObject ++ ";" ++ String.ofList body := by
  by_cases hglobal : isIdentifier globalObject
  · rw [outcome_unwrap hglobal]
    cases functionBody (dropByteOrderMark bundle.toList) with
    | ok body => simp [hglobal, scopeDeclaration, eq_comm]
    | error cause => simp
  · have hbody : bodyFor bundle globalObject = .error (.invalidGlobal globalObject) :=
      if_neg hglobal
    rw [unwrap, hbody]
    simp [hglobal, Logged.stage, Logged.map, Except.map]

/-- Assumes: an identifier for the global object. Unwrapping a bundle gives the listed outcome of
its text and no other one. -/
theorem outcome_unwrap_iff {bundle globalObject : String} {result : Except BuildError String}
    (hglobal : isIdentifier globalObject) :
    (unwrap bundle globalObject).outcome = result ↔
      Outcome (dropByteOrderMark bundle.toList) globalObject result := by
  rw [outcome_unwrap hglobal]
  generalize dropByteOrderMark bundle.toList = text
  constructor
  · rintro rfl
    cases hbody : functionBody text with
    | ok body =>
      obtain ⟨before, after, rfl, hpair⟩ := exists_split_of_functionBody hbody
      exact .accepted rfl hpair (within_of_pair hpair)
    | error cause => exact .rejected (functionBody_eq_error_iff.mp hbody)
  · intro h
    cases h with
    | accepted htext hpair hwithin =>
      subst htext
      rw [functionBody_of_pair hpair]
      rfl
    | rejected hcause => rw [functionBody_eq_error_iff.mpr hcause]

theorem outcome_of_assignment :
    isIdentifier "window" ∧
      Outcome (dropByteOrderMark "(function(){var a=1;})();".toList) "window"
        (.ok "var scope = window;var a=1;") :=
  ⟨by decide, (outcome_unwrap_iff (by decide)).mp (by decide +kernel)⟩

end BrowserScript.Wrapper
