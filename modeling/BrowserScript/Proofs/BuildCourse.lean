import BrowserScript.Build
import BrowserScript.Proofs.Baseline.Acceptance
import BrowserScript.Proofs.Wrapper.WrapperShape

/-!
The course of a build: which stage ends it, what it reports, and what it has written to the log by
then. `BuildCourse` has one case for each way a build can go. A case names what the stages before
have made and what its own stage finds, so nothing that a later stage would find plays a part in it,
and the log holds the records of the stages before. `build_eq_iff` says that a build takes exactly
the course that is listed for its sources.
-/

set_option autoImplicit false
set_option relaxedAutoImplicit false

namespace BrowserScript

open Script Text Wrapper

/-! ### Names of global objects -/

/-- ASCII letters, digits, underscores and dollar signs, with no digit in front. -/
structure AsciiIdentifier (name : String) : Prop where
  ne_nil : name.toList ≠ []
  start : ∀ c, name.toList.head? = some c → ¬c.isDigit
  chars : ∀ c ∈ name.toList, c.isAlphanum ∨ c = '_' ∨ c = '$'

theorem isWordChar_iff {c : Char} : isWordChar c ↔ c.isAlphanum ∨ c = '_' ∨ c = '$' := by
  simp only [isWordChar, isWordStart, Char.isAlphanum, Bool.or_eq_true, decide_eq_true_eq]
  tauto

theorem isWordStart_iff {c : Char} : isWordStart c ↔ isWordChar c ∧ ¬c.isDigit := by
  constructor
  · intro hstart
    refine ⟨by simp [isWordChar, hstart], fun hdigit ↦ ?_⟩
    simp only [isWordStart, Char.isAlpha, Char.isUpper, Char.isLower, Char.isDigit,
      Bool.or_eq_true, Bool.and_eq_true, decide_eq_true_eq] at hstart hdigit
    rcases hstart with ((hupper | hlower) | rfl) | rfl
    · exact absurd (UInt32.le_trans hupper.1 hdigit.2) (by decide)
    · exact absurd (UInt32.le_trans hlower.1 hdigit.2) (by decide)
    · exact absurd hdigit (by decide)
    · exact absurd hdigit (by decide)
  · rintro ⟨hchar, hdigit⟩
    simpa [isWordChar, hdigit] using hchar

theorem isIdentifier_iff {name : String} : isIdentifier name ↔ AsciiIdentifier name := by
  unfold isIdentifier
  cases hname : name.toList with
  | nil => exact ⟨nofun, fun h ↦ (h.ne_nil hname).elim⟩
  | cons first rest =>
    rw [Bool.and_eq_true, List.all_eq_true, isWordStart_iff]
    constructor
    · rintro ⟨⟨hfirst, hdigit⟩, hrest⟩
      refine ⟨by simp [hname], fun c hc ↦ ?_, fun c hc ↦ ?_⟩
      · rw [hname] at hc
        obtain rfl : first = c := Option.some.inj hc
        exact hdigit
      · rw [hname, List.mem_cons] at hc
        rcases hc with rfl | hc
        · exact isWordChar_iff.mp hfirst
        · exact isWordChar_iff.mp (hrest c hc)
    · intro h
      have hchars : ∀ c ∈ first :: rest, isWordChar c := fun c hc ↦
        isWordChar_iff.mpr (h.chars c (hname ▸ hc))
      exact ⟨⟨hchars first (by simp), h.start first (by simp [hname])⟩,
        fun c hc ↦ hchars c (by simp [hc])⟩

/-! ### Reading a script -/

namespace Script

/-- The whole reading of a text: what it ends with, and the state it leaves. -/
def reading (text : String) : Except Placed (List Stmt) × ReadState :=
  let chars := scriptChars text
  Reader.readScript (Parts.below (depthBound chars.length))
    { script := chars, rest := ⟨0, chars⟩, bound := 2 * chars.length + 1 }

/-- What a text is refused for: the fault that stops the reading, whatever has been noted before; or
else, of the faults that do not stop it, the one that is noted first. -/
inductive Faulty (text : String) (fault : Placed) : Prop
  | raised {state : ReadState} (hread : reading text = (.error fault, state))
  | noted {statements : List Stmt} {state : ReadState} {later : List Placed}
    (hread : reading text = (.ok statements, state)) (hfirst : state.faults = later ++ [fault])

/-- A text is read to its end, and no fault is noted. -/
def Faultless (text : String) (statements : List Stmt) : Prop :=
  ∃ state, reading text = (.ok statements, state) ∧ state.faults = []

theorem parse_of_reading {text : String} {result : Except Placed (List Stmt)} {state : ReadState}
    (h : reading text = (result, state)) :
    parse text = result.bind fun statements ↦
      match state.faults.getLast? with
      | some fault => .error fault
      | none => .ok statements := by
  unfold reading at h
  dsimp only at h
  rw [parse, h]
  cases result <;> rfl

theorem parse_eq_error_iff {text : String} {fault : Placed} :
    parse text = .error fault ↔ Faulty text fault := by
  constructor
  · intro h
    rcases hread : reading text with ⟨result, state⟩
    rw [parse_of_reading hread] at h
    cases result with
    | error raised =>
      obtain rfl : raised = fault := Except.error.inj h
      exact .raised hread
    | ok statements =>
      cases hlast : state.faults.getLast? with
      | none => simp [Except.bind, hlast] at h
      | some noted =>
        obtain rfl : noted = fault := by simpa [Except.bind, hlast] using h
        obtain ⟨later, hfaults⟩ := List.getLast?_eq_some_iff.mp hlast
        exact .noted hread hfaults
  · intro h
    cases h with
    | raised hread => rw [parse_of_reading hread]; rfl
    | noted hread hfirst =>
      rw [parse_of_reading hread, hfirst]
      simp [Except.bind]

theorem parse_eq_ok_iff {text : String} {statements : List Stmt} :
    parse text = .ok statements ↔ Faultless text statements := by
  constructor
  · intro h
    rcases hread : reading text with ⟨result, state⟩
    rw [parse_of_reading hread] at h
    cases result with
    | error raised => cases h
    | ok read =>
      cases hlast : state.faults.getLast? with
      | some noted => simp [Except.bind, hlast] at h
      | none =>
        obtain rfl : read = statements := by simpa [Except.bind, hlast] using h
        exact ⟨state, hread, List.getLast?_eq_none_iff.mp hlast⟩
  · rintro ⟨state, hread, hfaults⟩
    rw [parse_of_reading hread, hfaults]
    rfl

end Script

/-! ### Sizes -/

theorem utf8ByteSize_ofList (cs : List Char) : (String.ofList cs).utf8ByteSize = byteSize cs := by
  rw [String.utf8ByteSize_ofList]
  induction cs with
  | nil => rfl
  | cons c cs ih => rw [String.utf8Len_cons, ih, byteSize_cons, Nat.add_comm]

theorem utf8ByteSize_eq_byteSize (text : String) : text.utf8ByteSize = byteSize text.toList := by
  rw [← utf8ByteSize_ofList, String.ofList_toList]

theorem byteSize_dropByteOrderMark (cs : List Char) :
    byteSize (dropByteOrderMark cs) + (if cs.head? = some byteOrderMark then 3 else 0) =
      byteSize cs := by
  cases cs with
  | nil => rfl
  | cons c rest =>
    by_cases hc : c = byteOrderMark
    · subst hc
      have hsize : byteOrderMark.utf8Size = 3 := by decide
      simp [dropByteOrderMark, hsize, Nat.add_comm]
    · simp [dropByteOrderMark, hc]

/-! ### The course of a build -/

/-- A bundle, behind a byte order mark if it has one, is one wrapper around the body. -/
def WrapperAround (body bundle : String) : Prop :=
  ∃ before after,
    dropByteOrderMark bundle.toList = before ++ '\x7b' :: (body.toList ++ '\x7d' :: after) ∧
      Verdict (structuralBraces (dropByteOrderMark bundle.toList))
        (.ok (byteSize before, byteSize before + 1 + byteSize body.toList))

/-- The script that is minified, spelled out. -/
def joined (sources : Sources) (globalObject body : String) : String :=
  sources.metadata ++ ";" ++ ("var scope = " ++ globalObject ++ ";" ++ body) ++ ";" ++
    sources.starter

/-- The size of the script that is minified, from the sizes of its parts. -/
def joinedSize (sources : Sources) (globalObject body : String) : Nat :=
  sources.metadata.utf8ByteSize + sources.starter.utf8ByteSize + globalObject.utf8ByteSize +
    body.utf8ByteSize + 15

/-- What is in the log when a script is about to be minified. -/
def joinedRecords (sources : Sources) (globalObject body : String) : List LogRecord :=
  [.unwrapped sources.bundle.utf8ByteSize body.utf8ByteSize,
    .assembled (joinedSize sources globalObject body)]

/-- A build of the sources writes the records to the log and ends with the outcome. -/
inductive BuildCourse (sources : Sources) (d : BuildDescriptor) (globalObject : String) :
    List LogRecord → Except BuildError MinifiedScript → Prop
  | invalidGlobal (hglobal : ¬AsciiIdentifier globalObject) :
    BuildCourse sources d globalObject [] (.error (.invalidGlobal globalObject))
  | malformedBundle {cause : ShapeError} (hglobal : AsciiIdentifier globalObject)
    (hcause : Verdict (structuralBraces (dropByteOrderMark sources.bundle.toList)) (.error cause)) :
    BuildCourse sources d globalObject [] (.error (.malformedBundle cause))
  | notAScript {body : String} {fault : Placed} (hglobal : AsciiIdentifier globalObject)
    (hbody : WrapperAround body sources.bundle)
    (hfault : Faulty (joined sources globalObject body) fault) :
    BuildCourse sources d globalObject (joinedRecords sources globalObject body)
      (.error (.notAScript fault.fault.message
        (.ofOffset (scriptChars (joined sources globalObject body)) fault.pos)))
  | beyondBaseline {body : String} {statements : List Stmt} {use : NewerUse}
    (hglobal : AsciiIdentifier globalObject) (hbody : WrapperAround body sources.bundle)
    (hread : Faultless (joined sources globalObject body) statements)
    (hnewer : (newerInStmts statements).head? = some use) :
    BuildCourse sources d globalObject (joinedRecords sources globalObject body)
      (.error (.beyondBaseline use.feature.text
        (.ofOffset (scriptChars (joined sources globalObject body)) use.pos)))
  | built {body code : String} {statements : List Stmt} (hglobal : AsciiIdentifier globalObject)
    (hbody : WrapperAround body sources.bundle)
    (hread : Faultless (joined sources globalObject body) statements)
    (hold : ∀ node, InScript node statements → ∀ use, ¬NewerNode node use)
    (hcode : code = d.banner ++ "\n" ++ minifiedText statements) :
    BuildCourse sources d globalObject
      (joinedRecords sources globalObject body ++
        [.minified d.name d.version (joinedSize sources globalObject body)
          (code.utf8ByteSize - d.banner.utf8ByteSize - 1)])
      (.ok ⟨code⟩)

variable {sources : Sources} {d : BuildDescriptor} {globalObject bundle body text : String}

/-! ### The stages -/

theorem WrapperAround.functionBody_eq (h : WrapperAround body bundle) :
    functionBody (dropByteOrderMark bundle.toList) = .ok body.toList := by
  obtain ⟨before, after, htext, hpair⟩ := h
  rw [htext] at hpair ⊢
  exact functionBody_of_pair hpair

theorem wrapperAround_of_functionBody {cs : List Char}
    (h : functionBody (dropByteOrderMark bundle.toList) = .ok cs) :
    WrapperAround (String.ofList cs) bundle := by
  obtain ⟨before, after, htext, hpair⟩ := exists_split_of_functionBody h
  exact ⟨before, after, by rwa [String.toList_ofList], by rwa [String.toList_ofList]⟩

theorem unwrap_of_invalidGlobal (h : ¬AsciiIdentifier globalObject) :
    unwrap bundle globalObject = ⟨[], .error (.invalidGlobal globalObject)⟩ := by
  rw [unwrap, bodyFor, if_neg (mt isIdentifier_iff.mp h)]
  rfl

theorem unwrap_of_malformedBundle {cause : ShapeError} (hglobal : AsciiIdentifier globalObject)
    (hcause : functionBody (dropByteOrderMark bundle.toList) = .error cause) :
    unwrap bundle globalObject = ⟨[], .error (.malformedBundle cause)⟩ := by
  rw [unwrap, bodyFor, if_pos (isIdentifier_iff.mpr hglobal), bundleBody, hcause]
  rfl

theorem unwrap_of_wrapperAround (hglobal : AsciiIdentifier globalObject)
    (hbody : WrapperAround body bundle) :
    unwrap bundle globalObject =
      ⟨[.unwrapped bundle.utf8ByteSize body.utf8ByteSize],
        .ok ("var scope = " ++ globalObject ++ ";" ++ body)⟩ := by
  rw [unwrap, bodyFor, if_pos (isIdentifier_iff.mpr hglobal), bundleBody, hbody.functionBody_eq]
  dsimp only
  rw [String.ofList_toList]
  rfl

theorem utf8ByteSize_joined (sources : Sources) (globalObject body : String) :
    (joined sources globalObject body).utf8ByteSize = joinedSize sources globalObject body := by
  have hsemicolon : ";".utf8ByteSize = 1 := by decide
  have hscope : "var scope = ".utf8ByteSize = 12 := by decide
  simp only [joined, joinedSize, String.utf8ByteSize_append, hsemicolon, hscope]
  omega

theorem assembled_of_wrapperAround (hglobal : AsciiIdentifier globalObject)
    (hbody : WrapperAround body sources.bundle) :
    assembled sources globalObject =
      ⟨joinedRecords sources globalObject body, .ok (joined sources globalObject body)⟩ := by
  rw [assembled, unwrap_of_wrapperAround hglobal hbody, joinedRecords, ← utf8ByteSize_joined]
  rfl

theorem minify_of_error {cause : BuildError} (h : readBaselineScript text = .error cause) :
    minify text d = ⟨[], .error cause⟩ := by
  rw [minify, h]
  rfl

theorem minify_of_ok {statements : List Stmt} {code : String}
    (h : readBaselineScript text = .ok statements)
    (hcode : code = d.banner ++ "\n" ++ minifiedText statements) :
    minify text d =
      ⟨[.minified d.name d.version text.utf8ByteSize
          (code.utf8ByteSize - d.banner.utf8ByteSize - 1)], .ok ⟨code⟩⟩ := by
  have hbreak : "\n".utf8ByteSize = 1 := by decide
  have hsize : code.utf8ByteSize - d.banner.utf8ByteSize - 1 =
      (minifiedText statements).utf8ByteSize := by
    rw [hcode, String.utf8ByteSize_append, String.utf8ByteSize_append, hbreak]
    omega
  rw [minify, h, hsize, hcode]
  rfl

theorem build_of_wrapperAround (hglobal : AsciiIdentifier globalObject)
    (hbody : WrapperAround body sources.bundle) :
    build sources d globalObject =
      ⟨joinedRecords sources globalObject body ++
          (minify (joined sources globalObject body) d).records,
        (minify (joined sources globalObject body) d).outcome⟩ := by
  rw [build, assembled_of_wrapperAround hglobal hbody]
  rfl

theorem readBaselineScript_of_faulty {fault : Placed} (h : Faulty text fault) :
    readBaselineScript text =
      .error (.notAScript fault.fault.message (.ofOffset (scriptChars text) fault.pos)) := by
  rw [readBaselineScript, parse_eq_error_iff.mpr h]

theorem readBaselineScript_of_newer {statements : List Stmt} {use : NewerUse}
    (hread : Faultless text statements) (hnewer : (newerInStmts statements).head? = some use) :
    readBaselineScript text =
      .error (.beyondBaseline use.feature.text (.ofOffset (scriptChars text) use.pos)) := by
  obtain ⟨later, hlater⟩ := List.head?_eq_some_iff.mp hnewer
  rw [readBaselineScript, parse_eq_ok_iff.mpr hread]
  dsimp only
  rw [hlater]

theorem readBaselineScript_of_old {statements : List Stmt} (hread : Faultless text statements)
    (hold : newerInStmts statements = []) : readBaselineScript text = .ok statements := by
  rw [readBaselineScript, parse_eq_ok_iff.mpr hread]
  dsimp only
  rw [hold]

/-! ### Every build takes its course -/

theorem BuildCourse.build_eq {records : List LogRecord} {outcome : Except BuildError MinifiedScript}
    (h : BuildCourse sources d globalObject records outcome) :
    build sources d globalObject = ⟨records, outcome⟩ := by
  cases h with
  | invalidGlobal hglobal =>
    rw [build, assembled, unwrap_of_invalidGlobal hglobal]
    rfl
  | malformedBundle hglobal hcause =>
    rw [build, assembled,
      unwrap_of_malformedBundle hglobal (functionBody_eq_error_iff.mpr hcause)]
    rfl
  | notAScript hglobal hbody hfault =>
    rw [build_of_wrapperAround hglobal hbody, minify_of_error (readBaselineScript_of_faulty hfault)]
    simp
  | beyondBaseline hglobal hbody hread hnewer =>
    rw [build_of_wrapperAround hglobal hbody,
      minify_of_error (readBaselineScript_of_newer hread hnewer)]
    simp
  | built hglobal hbody hread hold hcode =>
    have hnone := newerInStmts_eq_nil_iff.mpr hold
    rw [build_of_wrapperAround hglobal hbody,
      minify_of_ok (readBaselineScript_of_old hread hnone) hcode, utf8ByteSize_joined]

theorem exists_buildCourse (sources : Sources) (d : BuildDescriptor) (globalObject : String) :
    ∃ records outcome, BuildCourse sources d globalObject records outcome := by
  by_cases hglobal : AsciiIdentifier globalObject
  · cases hbody : functionBody (dropByteOrderMark sources.bundle.toList) with
    | error cause =>
      exact ⟨_, _, .malformedBundle hglobal (functionBody_eq_error_iff.mp hbody)⟩
    | ok cs =>
      have hwrapper := wrapperAround_of_functionBody hbody
      cases hparse : parse (joined sources globalObject (String.ofList cs)) with
      | error fault =>
        exact ⟨_, _, .notAScript hglobal hwrapper (parse_eq_error_iff.mp hparse)⟩
      | ok statements =>
        have hread := parse_eq_ok_iff.mp hparse
        cases hnewer : (newerInStmts statements).head? with
        | some use => exact ⟨_, _, .beyondBaseline hglobal hwrapper hread hnewer⟩
        | none =>
          have hold := newerInStmts_eq_nil_iff.mp (List.head?_eq_none_iff.mp hnewer)
          exact ⟨_, _, .built hglobal hwrapper hread hold rfl⟩
  · exact ⟨_, _, .invalidGlobal hglobal⟩

/-- The braces around the body of a bundle, and the mark in front of it, take up bytes of it. -/
theorem WrapperAround.size_le (h : WrapperAround body bundle) :
    body.utf8ByteSize + 2 + (if bundle.toList.head? = some byteOrderMark then 3 else 0) ≤
      bundle.utf8ByteSize := by
  obtain ⟨before, after, htext, -⟩ := h
  have hmark := byteSize_dropByteOrderMark bundle.toList
  rw [htext] at hmark
  simp only [byteSize_append, byteSize_cons] at hmark
  have hopen : '\x7b'.utf8Size = 1 := by decide
  have hclose : '\x7d'.utf8Size = 1 := by decide
  rw [utf8ByteSize_eq_byteSize, utf8ByteSize_eq_byteSize]
  omega

/-- A build takes the course that is listed for its sources and no other one; and the body of its
bundle is smaller than the bundle, by the braces and by the byte order mark if there is one. -/
theorem build_eq_iff (sources : Sources) (d : BuildDescriptor) (globalObject : String) :
    (∀ records outcome, build sources d globalObject = ⟨records, outcome⟩ ↔
      BuildCourse sources d globalObject records outcome) ∧
    ∀ bundleSize bodySize later,
      (build sources d globalObject).records = .unwrapped bundleSize bodySize :: later →
      bodySize + 2 ≤ bundleSize ∧
        (sources.bundle.toList.head? = some byteOrderMark → bodySize + 5 ≤ bundleSize) := by
  obtain ⟨records, outcome, hcourse⟩ := exists_buildCourse sources d globalObject
  rw [hcourse.build_eq]
  constructor
  · intro records' outcome'
    constructor
    · rintro ⟨⟩
      exact hcourse
    · intro h
      rw [← hcourse.build_eq, h.build_eq]
  · intro bundleSize bodySize later hrecords
    obtain ⟨body, hbody, hsizes⟩ : ∃ body, WrapperAround body sources.bundle ∧
        records.head? = some (.unwrapped sources.bundle.utf8ByteSize body.utf8ByteSize) := by
      cases hcourse with
      | invalidGlobal | malformedBundle => cases hrecords
      | notAScript _ hbody | beyondBaseline _ hbody | built _ hbody => exact ⟨_, hbody, rfl⟩
    have hsize := hbody.size_le
    rw [show records = _ from hrecords, List.head?_cons] at hsizes
    obtain ⟨rfl, rfl⟩ := LogRecord.unwrapped.inj (Option.some.inj hsizes)
    constructor
    · omega
    · intro hmark
      rw [if_pos hmark] at hsize
      omega

theorem build_eq_iff_fault_behind_mark :
    (build ⟨")", "\uFEFF(function()\x7ba\x7d)()", ""⟩ ⟨"A", "1", "", true⟩ "window").records =
        [.unwrapped 20 1, .assembled 23] ∧
      1 + 2 ≤ 20 ∧
      ("\uFEFF(function()\x7ba\x7d)()".toList.head? = some byteOrderMark → 1 + 5 ≤ 20) := by
  have hrecords : (build ⟨")", "\uFEFF(function()\x7ba\x7d)()", ""⟩ ⟨"A", "1", "", true⟩
      "window").records = [.unwrapped 20 1, .assembled 23] := by decide +kernel
  exact ⟨hrecords, (build_eq_iff _ _ _).2 _ _ _ hrecords⟩

end BrowserScript
