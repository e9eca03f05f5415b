import BrowserScript.Proofs.Wrapper.WrapperShape

/-!
What is inside a literal or comment does not matter. Where the scanner stands in front of a complete
literal, that literal may be exchanged for any other one of its kind: the scanner goes on behind it
in the same state, so the two texts have the same structural braces, up to the offsets behind the
literal (`exists_traces_of_exchange`). Both texts are wrappers or none of them is, and the bodies
are equal, or the one literal stands in the one body where the other stands in the other
(`unwrap_exchange`).
-/

set_option autoImplicit false
set_option relaxedAutoImplicit false

namespace BrowserScript.Wrapper

open Text

/-! ### Complete literals -/

/-- The kinds of texts that hide their characters from the scanner. -/
inductive HiddenKind where
  | string
  | template
  | blockComment
  | lineComment
  | regex
  deriving DecidableEq, Repr

/-- One complete literal or comment of a kind. A template has no substitutions, and a line comment
goes up to its line feed, which is no part of it. -/
inductive CompleteLiteral : HiddenKind → List Char → Prop
  | string {quote : Char} {text : List Char} (hquote : quote = '\'' ∨ quote = '"')
    (htext : StringRest quote text) : CompleteLiteral .string (quote :: text)
  | template {text : List Char} (htext : TemplateStretch text) :
    CompleteLiteral .template ('`' :: (text ++ ['`']))
  | blockComment {text : List Char} (htext : BlockCommentRest text) :
    CompleteLiteral .blockComment ('/' :: '*' :: text)
  | lineComment {line : List Char} (hline : '\n' ∉ line) :
    CompleteLiteral .lineComment ('/' :: '/' :: line)
  | regex {text flags : List Char} (hslash : text.head? ≠ some '/') (hstar : text.head? ≠ some '*')
    (htext : RegexRest false text) (hflags : ∀ c ∈ flags, c.isAlpha) :
    CompleteLiteral .regex ('/' :: (text ++ flags))

namespace HiddenKind

/-- A literal of the kind may be read from the state in front of the text. -/
def MayStand (s : ScanState) (rest : List Char) : HiddenKind → Prop
  | .lineComment => rest = [] ∨ rest.head? = some '\n'
  | .regex => s.preceding.regexAllowed ∧ ∀ c, rest.head? = some c → ¬c.isAlpha
  | .string | .template | .blockComment => True

/-- The state behind a literal of the kind. -/
def next (s : ScanState) : HiddenKind → ScanState
  | .blockComment | .lineComment => s.afterSpace
  | .string | .template | .regex => s.afterLiteral

end HiddenKind

variable {kind : HiddenKind} {s : ScanState} {literal literal' rest : List Char}

/-- A complete literal is read in one step, and the state behind it does not depend on what is
inside. -/
theorem CompleteLiteral.step (h : CompleteLiteral kind literal) (hplace : kind.MayStand s rest)
    (offset : Nat) : Step s offset literal rest none (kind.next s) := by
  cases h with
  | string hquote htext => exact .stringLiteral rest hquote htext
  | template htext => exact .template rest htext
  | blockComment htext => exact .blockComment rest htext
  | lineComment hline => exact .lineComment ⟨by simpa using hline, hplace⟩
  | regex hslash hstar htext hflags =>
    exact .regex hplace.1 hslash hstar htext ⟨hflags, hplace.2⟩

/-- Literals of one kind look the same from in front of them. -/
theorem CompleteLiteral.sameLook (h : CompleteLiteral kind literal)
    (h' : CompleteLiteral kind literal') (rest : List Char) :
    SameLook (literal ++ rest) (literal' ++ rest) := by
  cases h with
  | string hquote _ =>
    cases h' with
    | string hquote' _ => rcases hquote with rfl | rfl <;> rcases hquote' with rfl | rfl <;>
        constructor <;> simp [Char.isAlpha, Char.isUpper, Char.isLower]
  | template => cases h' with | template => constructor <;> simp
  | blockComment => cases h' with | blockComment => constructor <;> simp
  | lineComment => cases h' with | lineComment => constructor <;> simp
  | regex => cases h' with | regex => constructor <;> simp

theorem CompleteLiteral.head?_ne_byteOrderMark (h : CompleteLiteral kind literal) :
    literal.head? ≠ some byteOrderMark := by
  cases h with
  | string hquote _ => rcases hquote with rfl | rfl <;> simp [byteOrderMark]
  | _ => simp [byteOrderMark]

/-! ### The two traces -/

variable {before : List Char} {braces : List (Nat × Brace)}

/-- The trace of a text, with its braces moved. -/
def Relocates (place : Nat → Nat) (trace trace' : BraceTrace) : Prop :=
  trace'.braces = trace.braces.map (fun b ↦ (place b.1, b.2)) ∧
    (trace.failure = none ↔ trace'.failure = none)

/-- Places in front of the first `low` bytes stay, and places behind the `size` bytes that follow
move behind `size'` bytes. -/
def movePlace (low size size' n : Nat) : Nat := if n < low then n else n - size + size'

theorem movePlace_of_lt {low size size' n : Nat} (h : n < low) : movePlace low size size' n = n :=
  if_pos h

theorem movePlace_add (low size size' n : Nat) :
    movePlace low size size' (low + size + n) = low + size' + n := by
  rw [movePlace, if_neg (by omega)]
  omega

/-- Assumes: two texts behind a first one, which hold no structural braces and leave the scanner in
states in which everything is read alike. With either of them the structural braces are the same, up
to the offsets behind the two texts, and none of them stands in the two texts. -/
theorem traces_of_runs {first second : List Char} {t : ScanState}
    (hrun : Run {} 0 (before ++ first) rest braces s)
    (hrun' : Run {} 0 (before ++ second) rest braces t) (hst : ReadsLike s t)
    (hfront : ∀ b ∈ braces, b.1 < byteSize before) :
    Relocates (movePlace (byteSize before) (byteSize first) (byteSize second))
        (structuralBraces (before ++ (first ++ rest)))
        (structuralBraces (before ++ (second ++ rest))) ∧
      ∀ b ∈ (structuralBraces (before ++ (first ++ rest))).braces,
        b.1 < byteSize before ∨ byteSize before + byteSize first ≤ b.1 := by
  obtain ⟨later, failure, failure', hscan, hscan', hfailure⟩ :=
    exists_scanBraces_of_readsLike hst (byteSize before + byteSize first)
      (byteSize before + byteSize second) rest
  have htrace := scanBraces_append_of_run hrun
  have htrace' := scanBraces_append_of_run hrun'
  rw [Nat.zero_add, byteSize_append, hscan, shiftBraces_zero, List.append_assoc] at htrace
  rw [Nat.zero_add, byteSize_append, hscan', shiftBraces_zero, List.append_assoc] at htrace'
  rw [structuralBraces, structuralBraces, htrace, htrace']
  refine ⟨⟨?_, hfailure⟩, fun b hb ↦ ?_⟩
  · have hstays : braces.map (fun b ↦ (movePlace (byteSize before) (byteSize first)
        (byteSize second) b.1, b.2)) = braces := by
      refine (List.map_congr_left fun b hb ↦ ?_).trans braces.map_id
      rw [movePlace_of_lt (hfront b hb)]
      rfl
    dsimp only
    rw [List.map_append, hstays, shiftBraces, shiftBraces, List.map_map]
    congr 1
    refine List.map_congr_left fun b hb ↦ ?_
    simp only [Function.comp_apply, movePlace_add]
  · rcases List.mem_append.mp hb with hb | hb
    · exact .inl (hfront b hb)
    · obtain ⟨b, _, rfl⟩ := List.mem_map.mp hb
      exact .inr (Nat.le_add_right _ _)

/-- Assumes: the scanner stands in front of a complete literal, and another one of its kind. The
structural braces of the two texts are the same, up to the offsets behind the literal, and all
others stand in front of it. -/
theorem exists_traces_of_exchange (hrun : Run {} 0 before (literal ++ rest) braces s)
    (hliteral : CompleteLiteral kind literal) (hliteral' : CompleteLiteral kind literal')
    (hplace : kind.MayStand s rest) :
    Relocates (movePlace (byteSize before) (byteSize literal) (byteSize literal'))
        (structuralBraces (before ++ (literal ++ rest)))
        (structuralBraces (before ++ (literal' ++ rest))) ∧
      ∀ b ∈ (structuralBraces (before ++ (literal ++ rest))).braces,
        b.1 < byteSize before ∨ byteSize before + byteSize literal ≤ b.1 := by
  have hbehind : ∀ {text : List Char}, CompleteLiteral kind text →
      Run {} 0 (before ++ text) rest braces (kind.next s) := by
    intro text htext
    have hrun' := hrun.of_sameLook (hliteral.sameLook htext rest)
    simpa [bracePassed] using hrun'.append (.single (htext.step hplace _))
  exact traces_of_runs (hbehind hliteral) (hbehind hliteral') (.refl _)
    fun b hb ↦ hrun.offset_lt_of_mem hb

/-! ### The outermost pair of relocated braces -/

theorem depth_map (place : Nat → Nat) (braces : List (Nat × Brace)) :
    depth (braces.map fun b ↦ (place b.1, b.2)) = depth braces := by
  induction braces with
  | nil => rfl
  | cons b braces ih =>
    obtain ⟨n, passed⟩ := b
    cases passed <;> simp only [List.map_cons, depth, ih]

theorem NeverReturns.map {braces : List (Nat × Brace)} (h : NeverReturns braces)
    (place : Nat → Nat) : NeverReturns (braces.map fun b ↦ (place b.1, b.2)) := by
  intro part hpart hne
  obtain ⟨part', hpart', rfl⟩ := List.prefix_map_iff.mp hpart
  rw [depth_map]
  exact h part' hpart' (fun hnil ↦ hne (by rw [hnil]; rfl))

theorem ReturnsAt.map {braces : List (Nat × Brace)} {last : Nat × Brace}
    (h : ReturnsAt braces last) (place : Nat → Nat) :
    ReturnsAt (braces.map fun b ↦ (place b.1, b.2)) (place last.1, last.2) := by
  refine ⟨h.1.map place, ?_⟩
  have hdepth := depth_map place (braces ++ [last])
  rw [List.map_append, h.2] at hdepth
  exact hdepth

/-- Where the braces are moved, the outermost pair moves with them. -/
theorem Verdict.relocate {trace trace' : BraceTrace} {first last : Nat} {place : Nat → Nat}
    (h : Verdict trace (.ok (first, last))) (hplace : Relocates place trace trace') :
    Verdict trace' (.ok (place first, place last)) := by
  obtain ⟨inner, hbraces, hreturn, hend⟩ := h.exists_inner
  refine .pair ?_ (hreturn.map place) (hplace.2.mp hend)
  rw [hplace.1, hbraces]
  simp

/-! ### The two bodies -/

/-- The body of a text, and of the text in which a literal is exchanged. The literal stands behind
the body or in front of it, and the bodies are the same; or it stands in the body, and it is
exchanged there. -/
inductive ExchangedBody (before literal literal' rest : List Char) :
    List Char → List Char → Prop
  | behindBody {front body gap : List Char}
    (hbefore : before = front ++ '\x7b' :: (body ++ '\x7d' :: gap))
    (hpair : Verdict (structuralBraces (before ++ (literal ++ rest)))
      (.ok (byteSize front, byteSize front + 1 + byteSize body))) :
    ExchangedBody before literal literal' rest body body
  | insideBody {front head tail after : List Char} (hbefore : before = front ++ '\x7b' :: head)
    (hrest : rest = tail ++ '\x7d' :: after)
    (hpair : Verdict (structuralBraces (before ++ (literal ++ rest)))
      (.ok (byteSize front, byteSize front + 1 + byteSize (head ++ (literal ++ tail))))) :
    ExchangedBody before literal literal' rest (head ++ (literal ++ tail))
      (head ++ (literal' ++ tail))
  | inFront {gap body after : List Char} (hrest : rest = gap ++ '\x7b' :: (body ++ '\x7d' :: after))
    (hpair : Verdict (structuralBraces (before ++ (literal ++ rest)))
      (.ok (byteSize (before ++ (literal ++ gap)),
        byteSize (before ++ (literal ++ gap)) + 1 + byteSize body))) :
    ExchangedBody before literal literal' rest body body

/-- Assumes: a text whose body is known, and the braces of the text in which a part without braces
is exchanged. That text has a body as well. -/
theorem exists_exchangedBody_of_relocates {body : List Char}
    (hrelocates : Relocates (movePlace (byteSize before) (byteSize literal) (byteSize literal'))
      (structuralBraces (before ++ (literal ++ rest)))
      (structuralBraces (before ++ (literal' ++ rest))))
    (hside : ∀ b ∈ (structuralBraces (before ++ (literal ++ rest))).braces,
      b.1 < byteSize before ∨ byteSize before + byteSize literal ≤ b.1)
    (hbody : functionBody (before ++ (literal ++ rest)) = .ok body) :
    ∃ body', functionBody (before ++ (literal' ++ rest)) = .ok body' ∧
      ExchangedBody before literal literal' rest body body' := by
  obtain ⟨front, after, htext, hpair⟩ := exists_split_of_functionBody hbody
  have hpair' := hpair.relocate hrelocates
  obtain ⟨hfirst, hlast⟩ := hpair.mem_braces
  -- both braces of the pair stand in front of the literal, or behind it, or around it
  rcases hside _ hfirst with hlt | hle
  · obtain ⟨head, rfl, hlater⟩ := exists_split_of_lt htext.symm hlt
    rw [movePlace_of_lt hlt] at hpair'
    rcases hside _ hlast with hlt' | hle'
    · rw [movePlace_of_lt hlt'] at hpair'
      simp only [byteSize_append, byteSize_cons] at hlt'
      obtain ⟨gap, rfl, rfl⟩ := exists_split_of_lt hlater (by simp at hlt'; omega)
      refine ⟨body, ?_, .behindBody rfl hpair⟩
      simpa using @functionBody_of_pair front body (gap ++ (literal' ++ rest))
        (by simpa using hpair')
    · rw [← List.append_assoc] at hlater
      obtain ⟨tail, rfl, rfl⟩ := exists_split_of_le hlater (by simp at hle' ⊢; omega)
      have hmove := movePlace_add (byteSize (front ++ '\x7b' :: head)) (byteSize literal)
        (byteSize literal') (byteSize tail)
      have hsize : ∀ text : List Char, byteSize (front ++ '\x7b' :: head) + byteSize text +
          byteSize tail = byteSize front + 1 + byteSize (head ++ (text ++ tail)) := fun text ↦ by
        simp
        omega
      rw [hsize, hsize] at hmove
      rw [List.append_assoc head literal tail] at hpair hpair' ⊢
      rw [hmove] at hpair'
      refine ⟨head ++ (literal' ++ tail), ?_, .insideBody rfl rfl hpair⟩
      simpa using @functionBody_of_pair front (head ++ (literal' ++ tail)) after
        (by simpa using hpair')
  · rw [← List.append_assoc] at htext
    obtain ⟨gap, rfl, rfl⟩ := exists_split_of_le htext.symm (by simpa using hle)
    have hmove := movePlace_add (byteSize before) (byteSize literal) (byteSize literal')
    have hfirst' := hmove (byteSize gap)
    have hlast' := hmove (byteSize gap + 1 + byteSize body)
    have hsize : ∀ text : List Char, byteSize before + byteSize text + byteSize gap =
        byteSize (before ++ (text ++ gap)) := fun text ↦ by
      simp
      omega
    simp only [← Nat.add_assoc, hsize] at hfirst' hlast'
    rw [List.append_assoc before literal gap] at hpair hpair'
    rw [hfirst', hlast'] at hpair'
    refine ⟨body, ?_, .inFront rfl hpair⟩
    simpa using @functionBody_of_pair (before ++ (literal' ++ gap)) body after
      (by simpa using hpair')

/-- Assumes: a text whose body is known, in which the scanner stands in front of a complete literal.
With another literal of the kind the text has a body as well. -/
theorem exists_exchangedBody {body : List Char}
    (hrun : Run {} 0 before (literal ++ rest) braces s)
    (hliteral : CompleteLiteral kind literal) (hliteral' : CompleteLiteral kind literal')
    (hplace : kind.MayStand s rest)
    (hbody : functionBody (before ++ (literal ++ rest)) = .ok body) :
    ∃ body', functionBody (before ++ (literal' ++ rest)) = .ok body' ∧
      ExchangedBody before literal literal' rest body body' := by
  obtain ⟨hrelocates, hside⟩ := exists_traces_of_exchange hrun hliteral hliteral' hplace
  exact exists_exchangedBody_of_relocates hrelocates hside hbody

theorem dropByteOrderMark_append (hliteral : CompleteLiteral kind literal)
    (before rest : List Char) : dropByteOrderMark (before ++ (literal ++ rest)) =
      dropByteOrderMark before ++ (literal ++ rest) := by
  refine dropByteOrderMark_append_of_head?_ne ?_ before
  rw [List.head?_append_of_ne_nil literal (by cases hliteral <;> simp)]
  exact hliteral.head?_ne_byteOrderMark

/-- Assumes: a text in which the scanner stands in front of a complete literal that may stand there,
and another literal of the kind. The text is unwrapped with the one literal if and only if it is
with the other one, and the two results are what the two bodies give. -/
theorem unwrap_exchange {globalObject : String}
    (hrun : Run {} 0 (dropByteOrderMark before) (literal ++ rest) braces s)
    (hliteral : CompleteLiteral kind literal) (hliteral' : CompleteLiteral kind literal')
    (hplace : kind.MayStand s rest) :
    ((∃ value, (unwrap (String.ofList (before ++ (literal ++ rest))) globalObject).outcome =
        .ok value) ↔
      ∃ value', (unwrap (String.ofList (before ++ (literal' ++ rest))) globalObject).outcome =
        .ok value') ∧
    ∀ value value',
      (unwrap (String.ofList (before ++ (literal ++ rest))) globalObject).outcome = .ok value →
      (unwrap (String.ofList (before ++ (literal' ++ rest))) globalObject).outcome = .ok value' →
      ∃ body body', ExchangedBody (dropByteOrderMark before) literal literal' rest body body' ∧
        value = "var scope = " ++ globalObject ++ ";" ++ String.ofList body ∧
        value' = "var scope = " ++ globalObject ++ ";" ++ String.ofList body' := by
  have hrun' := hrun.of_sameLook (hliteral.sameLook hliteral' rest)
  simp only [outcome_unwrap_eq_ok_iff, String.toList_ofList, dropByteOrderMark_append hliteral,
    dropByteOrderMark_append hliteral']
  refine ⟨⟨?_, ?_⟩, ?_⟩
  · rintro ⟨_, hglobal, body, hbody, _⟩
    obtain ⟨body', hbody', _⟩ := exists_exchangedBody hrun hliteral hliteral' hplace hbody
    exact ⟨_, hglobal, body', hbody', rfl⟩
  · rintro ⟨_, hglobal, body, hbody, _⟩
    obtain ⟨body', hbody', _⟩ := exists_exchangedBody hrun' hliteral' hliteral hplace hbody
    exact ⟨_, hglobal, body', hbody', rfl⟩
  · rintro value value' ⟨_, body, hbody, hvalue⟩ ⟨_, body', hbody', hvalue'⟩
    obtain ⟨body'', hbody'', hexchanged⟩ :=
      exists_exchangedBody hrun hliteral hliteral' hplace hbody
    obtain rfl : body'' = body' := Except.ok.inj (hbody''.symm.trans hbody')
    exact ⟨body, body'', hexchanged, hvalue, hvalue'⟩

theorem unwrap_exchange_letter_for_brace :
    CompleteLiteral .string "'a'".toList ∧ CompleteLiteral .string "'\x7d'".toList ∧
      ((∃ value, (unwrap (.ofList (['\x7b'] ++ ("'a'".toList ++ ['\x7d']))) "window").outcome =
          .ok value) ↔
        ∃ value', (unwrap (.ofList (['\x7b'] ++ ("'\x7d'".toList ++ ['\x7d']))) "window").outcome =
          .ok value') := by
  have hletter : CompleteLiteral .string "'a'".toList :=
    .string (.inl rfl) (.char (by decide) (by decide) (by decide) .close)
  have hbrace : CompleteLiteral .string "'\x7d'".toList :=
    .string (.inl rfl) (.char (by decide) (by decide) (by decide) .close)
  have hrun : Run {} 0 (dropByteOrderMark ['\x7b']) ("'a'".toList ++ ['\x7d']) _ _ :=
    .single (.openBrace _ rfl)
  exact ⟨hletter, hbrace, (unwrap_exchange hrun hletter hbrace trivial).1⟩

end BrowserScript.Wrapper
