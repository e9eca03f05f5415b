import BrowserScript.Proofs.Wrapper.SideBySide
import BrowserScript.Proofs.Wrapper.StandaloneBody

/-!
Other names in the code of a bundle. Of a name the scanner keeps the word of ASCII at its end, or
its last character if there is no such word (`nameToken`). What it decides behind the name rests on
whether this is one of a few words, so names behind which it decides alike may be exchanged for each
other (`TakenAlike`): the bundle is a wrapper as before, and its body has the other names
(`unwrap_renamed`). Names that are ordinary, that is, end with a word that is none of those, are all
taken alike (`OrdinaryName.takenAlike`).
-/

set_option autoImplicit false
set_option relaxedAutoImplicit false

namespace BrowserScript.Wrapper

open Text

/-! ### Names -/

/-- A character of words, or any character beyond ASCII. -/
def isNameChar (c : Char) : Bool := isWordChar c || decide (128 ≤ c.toNat)

/-- The token that the scanner keeps of a name. -/
def nameToken (name : List Char) : Preceding :=
  match name.reverse with
  | [] => .nothing
  | c :: before => if isWordChar c then .word (c :: before.takeWhile isWordChar) else .mark c

/-- Behind a name. -/
def ScanState.afterName (s : ScanState) (name : List Char) : ScanState :=
  { s with preceding := nameToken name, adjacent := true }

/-- A name that stands here is no part of a word that stands in front, and none of its letters are
flags of a regular expression. -/
def NameMayStart (s : ScanState) : Prop :=
  s.adjacent → s.preceding ≠ .literal ∧ ∀ letters, s.preceding ≠ .word letters

variable {s t next : ScanState} {m n : Nat} {c : Char} {name old new rest : List Char}

theorem isNameChar_plain (h : isNameChar c) :
    c ∉ ['\'', '"', '`', '/', '(', ')', '\x7b', '\x7d'] ∧ isSpace c = false := by
  rw [isNameChar, Bool.or_eq_true, decide_eq_true_eq] at h
  rcases h with hword | hwide
  · have hplain := isWordChar_not_delimiter hword
    refine ⟨fun hc ↦ hplain ?_, (isWordChar_not_space hword).1⟩
    simp only [List.mem_cons, List.not_mem_nil, or_false] at hc ⊢
    tauto
  · have hne : ∀ d : Char, d.toNat < 128 → c ≠ d := fun d hd heq ↦ by
      rw [heq] at hwide
      omega
    refine ⟨fun hc ↦ ?_, Bool.eq_false_iff.mpr fun hspace ↦ ?_⟩
    · simp only [List.mem_cons, List.not_mem_nil, or_false] at hc
      rcases hc with hc | hc | hc | hc | hc | hc | hc | hc <;> exact hne _ (by decide) hc
    · simp only [isSpace, Bool.or_eq_true, decide_eq_true_eq] at hspace
      rcases hspace with (((hc | hc) | hc) | hc) | hc <;> exact hne _ (by decide) hc

/-- A character of names that is in no word is a mark. -/
theorem extend_of_wide (h : isNameChar c) (hword : isWordChar c = false) (adjacent : Bool)
    (p : Preceding) : p.extend adjacent c = .mark c := by
  rw [extend_of_mark hword, if_neg]
  rintro ⟨rfl, -⟩
  exact absurd h (by decide)

theorem nameToken_concat (name : List Char) (c : Char) :
    nameToken (name ++ [c]) =
      if isWordChar c then .word (c :: name.reverse.takeWhile isWordChar) else .mark c := by
  rw [nameToken, List.reverse_append]
  rfl

/-- The next character of a name goes on with its token. -/
theorem extend_nameToken (hne : name ≠ []) (hc : isNameChar c) :
    (nameToken name).extend true c = nameToken (name ++ [c]) := by
  rw [nameToken_concat]
  cases hword : isWordChar c with
  | false => exact extend_of_wide hc hword true _
  | true =>
    obtain ⟨before, d, rfl⟩ := name.eq_nil_or_concat'.resolve_left hne
    rw [nameToken_concat, List.reverse_append, List.reverse_singleton, List.singleton_append,
      List.takeWhile_cons]
    cases isWordChar d <;> simp [Preceding.extend, hword]

/-- A name is read character by character, and its token is left. -/
theorem run_of_name (hne : name ≠ []) (hname : ∀ c ∈ name, isNameChar c)
    (hstart : ∀ c, isWordChar c → s.preceding.extend s.adjacent c = .word [c]) (n : Nat)
    (rest : List Char) : Run s n name rest [] (s.afterName name) := by
  induction name using List.reverseRecOn generalizing rest with
  | nil => exact (hne rfl).elim
  | append_singleton name c ih =>
    have hc : isNameChar c := hname c (by simp)
    obtain ⟨hplain, hspace⟩ := isNameChar_plain hc
    rcases eq_or_ne name [] with rfl | hname'
    · have hafter : s.afterChar c = s.afterName [c] := by
        rw [ScanState.afterChar, ScanState.afterName]
        congr 1
        cases hword : isWordChar c with
        | true => rw [hstart c hword, nameToken, List.reverse_singleton]; simp [hword]
        | false => rw [extend_of_wide hc hword, nameToken, List.reverse_singleton]; simp [hword]
      have hstep : Step s n [c] rest none (s.afterChar c) := .char rest hplain hspace
      rw [hafter] at hstep
      exact .single hstep
    · have hrun := ih hname' (fun d hd ↦ hname d (by simp [hd])) ([c] ++ rest)
      have hafter : (s.afterName name).afterChar c = s.afterName (name ++ [c]) :=
        congrArg (fun p ↦ { s with preceding := p, adjacent := true })
          (extend_nameToken hname' hc)
      have hstep : Step (s.afterName name) (n + byteSize name) [c] rest none
          ((s.afterName name).afterChar c) := .char rest hplain hspace
      rw [hafter] at hstep
      exact hrun.append (.single hstep)

/-! ### Names that are taken alike -/

/-- Two names behind which the scanner decides alike. -/
structure TakenAlike (old new : List Char) : Prop where
  old_ne : old ≠ []
  new_ne : new ≠ []
  old_chars : ∀ c ∈ old, isNameChar c
  new_chars : ∀ c ∈ new, isNameChar c
  regexAllowed : (nameToken old).regexAllowed = (nameToken new).regexAllowed
  opensObject : (nameToken old).opensObject = (nameToken new).opensObject
  opensControlHeader : (nameToken old).opensControlHeader = (nameToken new).opensControlHeader

/-- A name that ends with a word that is none of those that matter. -/
structure OrdinaryName (name : List Char) : Prop where
  chars : ∀ c ∈ name, isNameChar c
  word : ∃ letters, nameToken name = .word letters ∧
    String.ofList letters.reverse ∉ regexWords ++ controlWords

theorem OrdinaryName.decides (h : OrdinaryName name) :
    name ≠ [] ∧ (nameToken name).regexAllowed = false ∧ (nameToken name).opensObject = false ∧
      (nameToken name).opensControlHeader = false := by
  obtain ⟨letters, htoken, hword⟩ := h.word
  rw [List.mem_append, not_or] at hword
  have hexpression : expressionWords ⊆ regexWords := by
    intro word hmem
    exact List.mem_cons_of_mem _ (List.mem_cons_of_mem _ hmem)
  refine ⟨?_, ?_⟩
  · rintro rfl
    cases htoken
  · rw [htoken]
    simp only [Preceding.regexAllowed, Preceding.opensObject, Preceding.opensControlHeader,
      Preceding.isWordOf]
    refine ⟨?_, ?_, ?_⟩ <;> rw [List.contains_eq_mem, decide_eq_false_iff_not]
    · exact hword.1
    · exact fun hmem ↦ hword.1 (hexpression hmem)
    · exact hword.2

theorem OrdinaryName.takenAlike (h : OrdinaryName old) (h' : OrdinaryName new) :
    TakenAlike old new := by
  obtain ⟨hne, hregex, hobject, hcontrol⟩ := h.decides
  obtain ⟨hne', hregex', hobject', hcontrol'⟩ := h'.decides
  exact ⟨hne, hne', h.chars, h'.chars, hregex.trans hregex'.symm, hobject.trans hobject'.symm,
    hcontrol.trans hcontrol'.symm⟩

/-! ### Reading a text with other names -/

/-- Pieces of a text that the scanner reads from here to its end, and of the text with some names
exchanged. -/
inductive Renamed : ScanState → Nat → List Piece → Prop
  | nil {s : ScanState} (n : Nat) (houter : s.templates = []) : Renamed s n []
  | keep {s next : ScanState} {n : Nat} {read : List Char} {brace : Option Brace}
    {pieces : List Piece} (hstep : Step s n read (sideText Piece.first pieces) brace next)
    (hlater : Renamed next (n + byteSize read) pieces) : Renamed s n (⟨read, read, brace⟩ :: pieces)
  | name {s : ScanState} {n : Nat} {old new : List Char} {pieces : List Piece}
    (hnames : TakenAlike old new) (hfront : NameMayStart s)
    (hback : ∀ c, (sideText Piece.first pieces).head? = some c → isNameChar c = false)
    (hlater : Renamed (s.afterName old) (n + byteSize old) pieces) :
    Renamed s n (⟨old, new, none⟩ :: pieces)

variable {pieces : List Piece} {read : List Char} {brace : Option Brace}

theorem NameMayStart.extend (h : NameMayStart s) (c : Char) (hword : isWordChar c) :
    s.preceding.extend s.adjacent c = .word [c] :=
  extend_of_not_word hword fun hadjacent ↦ (h hadjacent).2

/-- A text and the text with other names start alike, except for names, which are no flags. -/
theorem Renamed.head_eq (h : Renamed s n pieces) :
    (sideText Piece.first pieces).head? = (sideText Piece.second pieces).head? ∨
      ∃ c d, (sideText Piece.first pieces).head? = some c ∧
        (sideText Piece.second pieces).head? = some d ∧ isNameChar c ∧ isNameChar d ∧
          NameMayStart s := by
  cases h with
  | nil => exact .inl rfl
  | keep hstep hlater =>
    left
    rw [sideText_cons, sideText_cons, List.head?_append_of_ne_nil _ hstep.ne_nil,
      List.head?_append_of_ne_nil _ hstep.ne_nil]
  | @name _ _ old new _ hnames hfront hback hlater =>
    right
    obtain ⟨c, old, rfl⟩ := List.exists_cons_of_ne_nil hnames.old_ne
    obtain ⟨d, new, rfl⟩ := List.exists_cons_of_ne_nil hnames.new_ne
    exact ⟨c, d, rfl, rfl, hnames.old_chars c (by simp), hnames.new_chars d (by simp), hfront⟩

/-- A step in front of a text is made in front of the text with other names. -/
theorem Renamed.step_second (h : Renamed next m pieces)
    (hstep : Step s n read (sideText Piece.first pieces) brace next) :
    Step s n read (sideText Piece.second pieces) brace next := by
  rcases h.head_eq with hhead | ⟨c, d, hfirst, hsecond, hc, hd, hstart⟩
  · refine hstep.of_look ?_ ?_ ?_ ?_
    · rw [hhead]; exact id
    · rw [hhead]; exact id
    · rw [← List.head?_eq_none_iff, ← List.head?_eq_none_iff, hhead]; exact id
    · rw [hhead]; exact fun _ _ ↦ id
  · have hne : ∀ e, isNameChar e = false → (sideText Piece.second pieces).head? ≠ some e := by
      rintro e he heq
      rw [hsecond, Option.some.injEq] at heq
      subst heq
      exact absurd hd (by simp [he])
    refine hstep.of_look (fun heq ↦ (hne _ (by decide) heq).elim)
      (fun heq ↦ (hne _ (by decide) heq).elim) ?_ ?_
    · rw [← List.head?_eq_none_iff, hfirst]
      rintro (hnone | hfeed)
      · cases hnone
      · rw [Option.some.injEq] at hfeed
        subst hfeed
        exact absurd hc (by decide)
    · exact fun hliteral hadjacent ↦ ((hstart hadjacent).1 hliteral).elim

/-- Two states in which a text is read alike up to the tokens that names in front of it leave: the
text does not start with a character that goes on with a name. -/
structure ReadsLikeBehindName (text : List Char) (s t : ScanState) : Prop where
  apart : ReadsLike s.afterSpace t.afterSpace
  extend : ∀ c, (isNameChar c → ∃ d, text.head? = some d ∧ isNameChar d) →
    s.preceding.extend s.adjacent c = t.preceding.extend t.adjacent c

theorem ReadsLike.behindName (h : ReadsLike s t) (text : List Char) :
    ReadsLikeBehindName text s t :=
  ⟨h.afterSpace, fun c _ ↦ h.followed.extend c⟩

theorem ReadsLikeBehindName.before (h : ReadsLikeBehindName (read ++ rest) s t)
    (hne : read ≠ []) : ReadsLikeBefore read s t := by
  refine ⟨h.apart, fun c hc ↦ h.extend c fun hname ↦ ⟨c, ?_, hname⟩⟩
  rw [List.head?_append_of_ne_nil _ hne, hc]

theorem nameToken_ne_equals (hname : ∀ c ∈ name, isNameChar c) : nameToken name ≠ .mark '=' := by
  rcases name.eq_nil_or_concat' with rfl | ⟨before, d, rfl⟩
  · exact Preceding.noConfusion
  · rw [nameToken_concat]
    split
    · exact Preceding.noConfusion
    · rw [ne_eq, Preceding.mark.injEq]
      rintro rfl
      exact absurd (hname '=' (by simp)) (by decide)

/-- Behind two names that are taken alike everything is read alike. -/
theorem TakenAlike.behind (h : TakenAlike old new) (hst : ReadsLike s.afterSpace t.afterSpace)
    (hback : ∀ c, rest.head? = some c → isNameChar c = false) :
    ReadsLikeBehindName rest (s.afterName old) (t.afterName new) := by
  have happart : ∀ (p q : Preceding) (c : Char), p.extend false c = q.extend false c := by
    intro p q c
    simp [Preceding.extend]
  refine ⟨⟨⟨h.regexAllowed, h.opensObject, h.opensControlHeader, happart _ _, happart _ _⟩,
    hst.parens, hst.braces, hst.depths⟩, fun c hc ↦ ?_⟩
  have hplain : isNameChar c = false := by
    rw [Bool.eq_false_iff]
    intro hname
    obtain ⟨d, hd, hnamed⟩ := hc hname
    exact absurd hnamed (by simp [hback d hd])
  have hword : isWordChar c = false := by
    rw [isNameChar, Bool.or_eq_false_iff] at hplain
    exact hplain.1
  have hmark : ∀ {name : List Char}, (∀ d ∈ name, isNameChar d) →
      (nameToken name).extend true c = .mark c := fun hname ↦ by
    rw [extend_of_mark hword, if_neg]
    exact fun hequals ↦ nameToken_ne_equals hname hequals.2.2
  exact (hmark h.old_chars).trans (hmark h.new_chars).symm

theorem Renamed.bracePieces (h : Renamed s n pieces) :
    BracePieces Piece.first pieces ∧ BracePieces Piece.second pieces := by
  induction h with
  | nil => simp [BracePieces]
  | @keep _ _ _ read brace _ hstep _ ih =>
    have hbrace : ∀ b, brace = some b → read = [b.char] := fun b hb ↦ by
      rw [hb] at hstep
      exact hstep.read_of_brace
    exact ⟨List.forall_mem_cons.mpr ⟨hbrace, ih.1⟩, List.forall_mem_cons.mpr ⟨hbrace, ih.2⟩⟩
  | name _ _ _ _ ih =>
    exact ⟨List.forall_mem_cons.mpr ⟨fun b hb ↦ (nomatch hb), ih.1⟩,
      List.forall_mem_cons.mpr ⟨fun b hb ↦ (nomatch hb), ih.2⟩⟩

theorem Renamed.read_first (h : Renamed s n pieces) : ReadInPieces Piece.first s n pieces := by
  induction h with
  | nil _ houter => exact readInPieces_nil houter
  | keep hstep _ ih => exact ih.cons (.single hstep)
  | name hnames hfront _ _ ih =>
    exact ih.cons (run_of_name hnames.old_ne hnames.old_chars hfront.extend _ _)

/-- The text with other names is read like the text. -/
theorem Renamed.read_second (h : Renamed s n pieces)
    (hst : ReadsLikeBehindName (sideText Piece.first pieces) s t) (m : Nat) :
    ReadInPieces Piece.second t m pieces := by
  -- on the pieces: the two states stay alike
  induction h generalizing t m with
  | nil _ houter => exact readInPieces_nil (templates_eq_nil_of_depths hst.apart.depths houter)
  | @keep _ _ _ read _ pieces hstep hlater ih =>
    obtain ⟨next', hstep', hnext⟩ :=
      (hlater.step_second hstep).exists_of_readsLikeBefore (hst.before hstep.ne_nil) m
    exact (ih (hnext.behindName _) _).cons (.single hstep')
  | @name s _ old _ pieces hnames hfront hback _ ih =>
    have hstart : ∀ c, isWordChar c → t.preceding.extend t.adjacent c = .word [c] := by
      intro c hword
      obtain ⟨d, old, rfl⟩ := List.exists_cons_of_ne_nil hnames.old_ne
      rw [← hst.extend c fun _ ↦ ⟨d, rfl, hnames.old_chars d (by simp)⟩]
      exact hfront.extend c hword
    exact (ih (hnames.behind hst.apart hback) _).cons
      (run_of_name hnames.new_ne hnames.new_chars hstart _ _)

/-! ### Bundles -/

/-- Assumes: a bundle that can be unwrapped, and the bundle with names exchanged for names that are
taken alike. This bundle can be unwrapped as well, and its body has the other names. -/
theorem unwrap_renamed {bundle renamed globalObject value : String} (hpieces : Renamed {} 0 pieces)
    (hbundle : dropByteOrderMark bundle.toList = sideText Piece.first pieces)
    (hrenamed : dropByteOrderMark renamed.toList = sideText Piece.second pieces)
    (h : (unwrap bundle globalObject).outcome = .ok value) :
    ∃ inner, inner <:+: pieces ∧
      value = "var scope = " ++ globalObject ++ ";" ++
        String.ofList (sideText Piece.first inner) ∧
      (unwrap renamed globalObject).outcome = .ok ("var scope = " ++ globalObject ++ ";" ++
        String.ofList (sideText Piece.second inner)) := by
  obtain ⟨hglobal, body, hbody, rfl⟩ := outcome_unwrap_eq_ok_iff.mp h
  rw [hbundle] at hbody
  obtain ⟨hbraces, hbraces'⟩ := hpieces.bracePieces
  have hst : ReadsLikeBehindName (sideText Piece.first pieces) {} {} :=
    (ReadsLike.refl {}).behindName _
  obtain ⟨inner, hpart, rfl, hbody'⟩ :=
    hpieces.read_first.exists_inner (hpieces.read_second hst 0) hbraces hbraces' hbody
  rw [← hrenamed] at hbody'
  exact ⟨inner, hpart, rfl, outcome_unwrap_eq_ok_iff.mpr ⟨hglobal, _, hbody', rfl⟩⟩

/-- A name that begins beyond ASCII, in front of a division. -/
theorem unwrap_renamed_division :
    ∃ pieces : List Piece, Renamed {} 0 pieces ∧
      dropByteOrderMark "\x7ba/b\x7d".toList = sideText Piece.first pieces ∧
      dropByteOrderMark "\x7béa/b\x7d".toList = sideText Piece.second pieces ∧
      (unwrap "\x7ba/b\x7d" "window").outcome = .ok "var scope = window;a/b" ∧
      ∃ inner, inner <:+: pieces ∧
        "var scope = window;a/b" =
          "var scope = " ++ "window" ++ ";" ++ String.ofList (sideText Piece.first inner) ∧
        (unwrap "\x7béa/b\x7d" "window").outcome = .ok ("var scope = " ++ "window" ++ ";" ++
          String.ofList (sideText Piece.second inner)) := by
  have hlast : ∀ c ∈ ['a'], isNameChar c := List.forall_mem_singleton.mpr (by decide)
  have hold : OrdinaryName ['a'] := ⟨hlast, ['a'], by decide, by decide⟩
  have hnew : OrdinaryName ['é', 'a'] :=
    ⟨List.forall_mem_cons.mpr ⟨by decide, hlast⟩, ['a'], by decide, by decide⟩
  have hnames : TakenAlike ['a'] ['é', 'a'] := hold.takenAlike hnew
  have hfront : NameMayStart (ScanState.openBrace {}) := fun _ ↦
    ⟨Preceding.noConfusion, fun _ ↦ Preceding.noConfusion⟩
  have hpieces : Renamed {} 0 [⟨['\x7b'], ['\x7b'], some .opening⟩, ⟨['a'], ['é', 'a'], none⟩,
      ⟨['/'], ['/'], none⟩, ⟨['b'], ['b'], none⟩, ⟨['\x7d'], ['\x7d'], some .closing⟩] :=
    .keep (.openBrace _ rfl) (.name hnames hfront (fun c hc ↦ Option.some.inj hc ▸ rfl)
      (.keep (.division (by decide) (by decide) (by decide))
        (.keep (.char _ (by decide) (by decide)) (.keep (.closeBrace _ rfl) (.nil _ rfl)))))
  have hbundle : (unwrap "\x7ba/b\x7d" "window").outcome = .ok "var scope = window;a/b" := by
    decide +kernel
  exact ⟨_, hpieces, by decide +kernel, by decide +kernel, hbundle,
    unwrap_renamed hpieces (by decide +kernel) (by decide +kernel) hbundle⟩

/-- A name that ends with a control word is not taken like others in front of a parenthesis. -/
example : (unwrap "\x7bf(x)/2\x7d" "window").outcome = .ok "var scope = window;f(x)/2" ∧
    (unwrap "\x7béif(x)/2\x7d" "window").outcome.isOk = false := by
  decide +kernel

end BrowserScript.Wrapper
