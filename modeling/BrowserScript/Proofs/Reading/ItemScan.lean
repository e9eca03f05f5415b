import BrowserScript.Proofs.Reading.Item
import BrowserScript.Proofs.Wrapper.NestedCode

/-!
The scanner of wrappers passes the items of a reading one by one, as long as they agree with the
history (`Reads.exists_run`). What it finds structural are the braces outside of templates, so the
group that holds all braces of a text is the body of its wrapper (`unwrap_of_reads`).
-/

set_option autoImplicit false
set_option relaxedAutoImplicit false

namespace BrowserScript.Reading

open Text Wrapper

/-! ### Open templates -/

/-- For each open substitution, innermost first, the number of groups that are open in it. -/
def innerDepths : List Opener → List Nat
  | [] => []
  | .substitution :: opened => 0 :: innerDepths opened
  | .brace :: opened =>
    match innerDepths opened with
    | [] => []
    | d :: depths => (d + 1) :: depths

/-- The number of groups that are open outside of all templates. -/
def outerDepth : List Opener → Nat
  | [] => 0
  | .substitution :: opened => outerDepth opened
  | .brace :: opened => if innerDepths opened = [] then outerDepth opened + 1 else outerDepth opened

theorem innerDepths_brace_eq_nil {opened : List Opener} :
    innerDepths (.brace :: opened) = [] ↔ innerDepths opened = [] := by
  rw [innerDepths]
  split <;> simp_all

/-- The structural brace of an item, at its start. -/
def Item.braces (opened : List Opener) : Item → List (Nat × Brace)
  | .openBrace => if innerDepths opened = [] then [(0, .opening)] else []
  | .closeBrace => if innerDepths opened = [] then [(0, .closing)] else []
  | _ => []

/-- The structural braces of items, the last of which comes first, by their offsets from the start
of the items. -/
def itemsBraces (opened : List Opener) : List Item → List (Nat × Brace)
  | [] => []
  | item :: items =>
    itemsBraces opened items ++ shiftBraces (byteSize (itemsText items))
      (item.braces ((openedBy opened items).getD []))

/-! ### The scanner behind items -/

/-- The scanner remembers a history and what is open behind it. -/
structure Follows (s : ScanState) (history : List Element) (opened : List Opener) : Prop where
  tracks : Tracks s history
  braces : s.braces = braceFlags history
  depths : s.templates.map OpenTemplate.depth = innerDepths opened

variable {s : ScanState} {history : List Element} {opened next : List Opener} {offset : Nat}
  {rest : List Char}

theorem Follows.initial : Follows {} [] [] := ⟨.initial, rfl, rfl⟩

theorem Follows.templates_eq_nil (h : Follows s history opened) (houter : innerDepths opened = []) :
    s.templates = [] := by
  have hdepths := h.depths
  rwa [houter, List.map_eq_nil_iff] at hdepths

theorem Follows.templates_eq_cons (h : Follows s history opened) {d : Nat} {depths : List Nat}
    (hinner : innerDepths opened = d :: depths) :
    ∃ start outer, s.templates = ⟨start, d⟩ :: outer ∧ outer.map OpenTemplate.depth = depths := by
  have hdepths := h.depths
  rw [hinner, List.map_eq_cons_iff] at hdepths
  obtain ⟨⟨start, _⟩, outer, htemplates, rfl, houter⟩ := hdepths
  exact ⟨start, outer, htemplates, houter⟩

/-- Plain text is read through, one character after another. -/
theorem Follows.exists_run_plain (h : Follows s history opened) {text : List Char}
    (hplain : ∀ c ∈ text, c ∉ ['\'', '"', '`', '/', '\x7b', '\x7d']) (offset : Nat)
    (rest : List Char) :
    ∃ s', Run s offset text rest [] s' ∧
      Follows s' ((text.map Element.char).reverse ++ history) opened := by
  obtain ⟨s', hrun, htracks, hbraces, htemplates⟩ := exists_run_of_plain h.tracks hplain offset rest
  have hflags := eq_of_chars (f := braceFlags) (fun c (_ : c ∈ text) _ ↦ rfl) history
  exact ⟨s', hrun, htracks, by rw [hbraces, h.braces, hflags], by rw [htemplates, h.depths]⟩

theorem Follows.exists_run_openBrace (h : Follows s history opened) (offset : Nat)
    (rest : List Char) :
    ∃ s', Run s offset ['\x7b'] rest (Item.openBrace.braces opened) s' ∧
      Follows s' (.openBrace :: history) (.brace :: opened) := by
  have hflags : s.preceding.opensObject :: s.braces = braceFlags (.openBrace :: history) := by
    rw [braceFlags, h.tracks.opensObject, h.braces]
  rw [Item.braces]
  cases hinner : innerDepths opened with
  | nil =>
    have houter := h.templates_eq_nil hinner
    refine ⟨_, .single (.openBrace rest houter), h.tracks.openBrace, hflags, ?_⟩
    rw [innerDepths, hinner]
    exact congrArg _ houter
  | cons d depths =>
    obtain ⟨start, outer, htemplates, houter⟩ := h.templates_eq_cons hinner
    refine ⟨_, .single (.openInner rest htemplates), h.tracks.openBrace.withTemplates _, hflags, ?_⟩
    rw [innerDepths, hinner, ← houter]
    rfl

theorem Follows.exists_run_closeBrace (h : Follows s history (.brace :: opened)) (offset : Nat)
    (rest : List Char) :
    ∃ s', Run s offset ['\x7d'] rest (Item.closeBrace.braces (.brace :: opened)) s' ∧
      Follows s' (.closeBrace ((braceFlags history).headD false) :: history) opened := by
  have hobject : s.braces.headD false = (braceFlags history).headD false := by rw [h.braces]
  have hflags : s.braces.tail = (braceFlags history).tail := by rw [h.braces]
  rw [Item.braces]
  cases hinner : innerDepths opened with
  | nil =>
    have hinner' := innerDepths_brace_eq_nil.mpr hinner
    have houter := h.templates_eq_nil hinner'
    rw [if_pos hinner']
    exact ⟨_, .single (.closeBrace rest houter), h.tracks.closeBrace hobject, hflags, by
      rw [hinner]; exact congrArg _ houter⟩
  | cons d depths =>
    have hinner' : innerDepths (.brace :: opened) = (d + 1) :: depths := by rw [innerDepths, hinner]
    obtain ⟨start, outer, htemplates, houter⟩ := h.templates_eq_cons hinner'
    rw [if_neg (by simp [hinner'])]
    exact ⟨_, .single (.closeInner rest htemplates),
      (h.tracks.closeBrace hobject).withTemplates _, hflags, by rw [hinner, ← houter]; rfl⟩

/-- The state behind the brace that closes a substitution, outside of its template. -/
theorem Follows.leaveSubstitution (h : Follows s history (.substitution :: opened)) :
    ∃ start outer, s.templates = ⟨start, 0⟩ :: outer ∧
      outer.map OpenTemplate.depth = innerDepths opened ∧
      ({ s.closeBrace with templates := outer } : ScanState).parens =
        openParens (.closeBrace true :: history) ∧
      ({ s.closeBrace with templates := outer } : ScanState).braces =
        braceFlags (.closeBrace true :: history) := by
  obtain ⟨start, outer, htemplates, houter⟩ := h.templates_eq_cons rfl
  exact ⟨start, outer, htemplates, houter, h.tracks.parens, congrArg List.tail h.braces⟩

theorem Follows.exists_run_template (h : Follows s history opened) {resumes continues : Bool}
    {text : List Char} (htext : TemplateStretch text)
    (hturn : (Item.template resumes continues text).turn opened = some next) (offset : Nat)
    (rest : List Char) :
    ∃ s', Run s offset (Item.template resumes continues text).text rest [] s' ∧
      Follows s' ((Item.template resumes continues text).elements history) next := by
  cases resumes with
  | false =>
    cases continues with
    | false =>
      cases hturn
      exact ⟨_, .single (.template rest htext), .afterLiteral h.tracks.parens, h.braces, h.depths⟩
    | true =>
      cases hturn
      exact ⟨_, .single (.substitution rest htext), .enterSubstitution h.tracks.parens offset,
        congrArg (true :: ·) h.braces, congrArg (0 :: ·) h.depths⟩
  | true =>
    rcases opened with _ | ⟨_ | _, opened⟩
    · cases continues <;> cases hturn
    · cases continues <;> cases hturn
    · obtain ⟨start, outer, htemplates, houter, hparens, hbraces⟩ := h.leaveSubstitution
      cases continues with
      | false =>
        cases hturn
        exact ⟨_, .single (.closeTemplate rest htemplates htext), .afterLiteral hparens, hbraces,
          houter⟩
      | true =>
        cases hturn
        exact ⟨_, .single (.nextSubstitution rest htemplates htext),
          .enterSubstitution hparens start, congrArg (true :: ·) hbraces,
          congrArg (0 :: ·) houter⟩

/-- An item that agrees with the history is read through. -/
theorem Follows.exists_run_item (h : Follows s history opened) {item : Item}
    (hform : item.Formed rest) (hagrees : item.Agrees history rest)
    (hturn : item.turn opened = some next) (offset : Nat) :
    ∃ s', Run s offset item.text rest (item.braces opened) s' ∧
      Follows s' (item.elements history) next := by
  cases item with
  | plain text =>
    cases hturn
    exact h.exists_run_plain hform offset rest
  | string quote text =>
    cases hturn
    exact ⟨_, .single (.stringLiteral rest hform.1 hagrees), .afterLiteral h.tracks.parens,
      h.braces, h.depths⟩
  | lineComment text =>
    cases hturn
    obtain ⟨line, hline, hend⟩ := hform
    have hbreak : '\n' ∉ line := fun hmem ↦ hline _ hmem (by decide)
    have htext : '\n' ∉ '/' :: text := by
      rcases hend with ⟨rfl, _⟩ | ⟨rfl, _⟩ <;> simpa using hbreak
    exact ⟨_, .single (.lineComment ⟨htext, hagrees⟩), h.tracks.afterComment, h.braces, h.depths⟩
  | blockComment text =>
    cases hturn
    exact ⟨_, .single (.blockComment rest hform), h.tracks.afterComment, h.braces, h.depths⟩
  | division =>
    cases hturn
    have hallowed := h.tracks.regexAllowed.trans hagrees
    exact ⟨_, .single (.division hallowed hform.1 hform.2),
      h.tracks.afterChar (by decide) (by decide) (by decide), h.braces, h.depths⟩
  | regex text flags =>
    cases hturn
    obtain ⟨hslash, hstar, htext, hflags⟩ := hform
    have hallowed := h.tracks.regexAllowed.trans hagrees
    exact ⟨_, .single (.regex hallowed hslash hstar htext hflags), .afterLiteral h.tracks.parens,
      h.braces, h.depths⟩
  | openBrace =>
    cases hturn
    exact h.exists_run_openBrace offset rest
  | closeBrace =>
    rcases opened with _ | ⟨_ | _, opened⟩
    · cases hturn
    · cases hturn
      exact h.exists_run_closeBrace offset rest
    · cases hturn
  | template resumes continues text => exact h.exists_run_template hagrees hturn offset rest
  | odd text => exact hagrees.elim

variable {items : List Item}

/-- A reading that agrees is a run of the scanner. -/
theorem Reads.exists_run (h : Reads items rest) (hopened : openedBy [] items = some opened)
    (hagrees : Agrees items rest) :
    ∃ s, Run {} 0 (itemsText items) rest (itemsBraces [] items) s ∧
      Follows s (elements items) opened := by
  induction h generalizing opened with
  | nil text =>
    cases hopened
    exact ⟨{}, .refl {} 0 text, .initial⟩
  | @cons items item rest hitems hform ih =>
    obtain ⟨middle, hmiddle, hturn⟩ := Option.bind_eq_some_iff.mp hopened
    obtain ⟨m, hrun, hm⟩ := ih hmiddle hagrees.1
    obtain ⟨s, hrun', hs⟩ :=
      hm.exists_run_item hform hagrees.2 hturn (0 + byteSize (itemsText items))
    refine ⟨s, ?_, hs⟩
    rw [itemsText, itemsBraces, hmiddle]
    exact hrun.append hrun'

/-- The structural braces of a text that has been read to its end. -/
theorem structuralBraces_of_reads (h : Reads items []) (hopened : openedBy [] items = some [])
    (hagrees : Agrees items []) :
    structuralBraces (itemsText items) = ⟨itemsBraces [] items, none⟩ := by
  obtain ⟨s, hrun, hs⟩ := h.exists_run hopened hagrees
  have hend : s.move (0 + byteSize (itemsText items)) [] = .stop none :=
    move_eq_stop_none_iff.mpr ⟨rfl, hs.templates_eq_nil rfl⟩
  have hscan := scanBraces_append_of_run hrun
  rw [scanBraces_of_stop hend] at hscan
  simpa [structuralBraces] using hscan

/-! ### The braces of a part -/

theorem itemsText_append (second first : List Item) :
    itemsText (second ++ first) = itemsText first ++ itemsText second := by
  induction second with
  | nil => simp [itemsText]
  | cons item second ih => rw [List.cons_append, itemsText, ih, List.append_assoc, itemsText]

theorem openedBy_append (base : List Opener) (second first : List Item) :
    openedBy base (second ++ first) = (openedBy base first).bind fun st ↦ openedBy st second := by
  induction second with
  | nil => simp [openedBy]
  | cons item second ih =>
    rw [List.cons_append, openedBy, ih, Option.bind_assoc]
    rfl

theorem itemsBraces_append {base middle : List Opener} {second first : List Item}
    (hfirst : openedBy base first = some middle) :
    itemsBraces base (second ++ first) = itemsBraces base first ++
      shiftBraces (byteSize (itemsText first)) (itemsBraces middle second) := by
  induction second with
  | nil => simp [itemsBraces]
  | cons item second ih =>
    rw [List.cons_append, itemsBraces, ih, openedBy_append, hfirst, itemsBraces, itemsText_append]
    simp [shiftBraces_add]

/-- Items that only close what they have opened themselves may do so inside of anything. -/
theorem Item.turn_append {item : Item} (h : item.turn opened = some next) (base : List Opener) :
    item.turn (opened ++ base) = some (next ++ base) := by
  cases item with
  | closeBrace =>
    rcases opened with _ | ⟨_ | _, opened⟩
    · cases h
    · cases h
      rfl
    · cases h
  | template resumes continues text =>
    cases resumes <;> cases continues <;> rcases opened with _ | ⟨_ | _, opened⟩ <;> cases h <;> rfl
  | _ =>
    cases h
    rfl

theorem openedBy_base (h : openedBy [] items = some opened) (base : List Opener) :
    openedBy base items = some (opened ++ base) := by
  induction items generalizing opened with
  | nil => cases h; rfl
  | cons item items ih =>
    obtain ⟨middle, hmiddle, hturn⟩ := Option.bind_eq_some_iff.mp h
    rw [openedBy, ih hmiddle]
    exact Item.turn_append hturn base

theorem outerDepth_le_append (opened base : List Opener) :
    outerDepth base ≤ outerDepth (opened ++ base) := by
  induction opened with
  | nil => exact Nat.le_refl _
  | cons opener opened ih =>
    cases opener with
    | brace =>
      rw [List.cons_append, outerDepth]
      split <;> omega
    | substitution => exact ih

/-- Passing an item changes the depth by its structural brace. -/
theorem depth_braces {item : Item} (h : item.turn opened = some next) :
    depth (item.braces opened) = outerDepth next - outerDepth opened := by
  cases item with
  | openBrace =>
    cases h
    rw [Item.braces, outerDepth]
    split <;> simp only [depth] <;> omega
  | closeBrace =>
    rcases opened with _ | ⟨_ | _, opened⟩
    · cases h
    · cases h
      rw [Item.braces, outerDepth]
      simp only [innerDepths_brace_eq_nil]
      split <;> simp only [depth] <;> omega
    · cases h
  | template resumes continues text =>
    cases resumes <;> cases continues <;> rcases opened with _ | ⟨_ | _, opened⟩ <;> cases h <;>
      simp [Item.braces, outerDepth, depth]
  | _ =>
    cases h
    simp [Item.braces, depth]

theorem depth_itemsBraces {base : List Opener} (h : openedBy base items = some opened) :
    depth (itemsBraces base items) = outerDepth opened - outerDepth base := by
  induction items generalizing opened with
  | nil =>
    cases h
    simp [itemsBraces, depth]
  | cons item items ih =>
    obtain ⟨middle, hmiddle, hturn⟩ := Option.bind_eq_some_iff.mp h
    rw [itemsBraces, depth_append, depth_shiftBraces, ih hmiddle, hmiddle, Option.getD_some,
      depth_braces hturn]
    omega

theorem Item.braces_eq (item : Item) (opened : List Opener) :
    item.braces opened = [] ∨ ∃ b, item.braces opened = [b] := by
  cases item <;> simp only [Item.braces] <;> (try split) <;> simp

/-- Inside of a group the depth does not come back to where it was in front of it. -/
theorem staysOpen_itemsBraces (h : openedBy [] items = some opened) (base : List Opener) :
    StaysOpen 0 (itemsBraces base items) := by
  induction items generalizing opened with
  | nil => exact staysOpen_nil 0
  | cons item items ih =>
    obtain ⟨middle, hmiddle, hturn⟩ := Option.bind_eq_some_iff.mp h
    have hdepth := depth_itemsBraces (openedBy_base h base)
    have hle := outerDepth_le_append opened base
    -- an item has one brace at most, so a part ends where it did before, or it is everything
    rcases item.braces_eq ((openedBy base items).getD []) with hnone | ⟨b, hone⟩
    · rw [itemsBraces, hnone, shiftBraces_nil, List.append_nil]
      exact ih hmiddle
    · rw [itemsBraces, hone, shiftBraces_cons, shiftBraces_nil] at hdepth ⊢
      intro part hpart
      rcases List.prefix_concat_iff.mp hpart with rfl | hbefore
      · omega
      · exact ih hmiddle part hbefore

theorem balanced_itemsBraces (h : openedBy [] items = some []) (base : List Opener) :
    Balanced (itemsBraces base items) := by
  refine ⟨?_, staysOpen_itemsBraces h base⟩
  rw [depth_itemsBraces (openedBy_base h base), List.nil_append]
  omega

/-- Items without a brace in their text open and close nothing. -/
theorem Item.turn_of_no_brace {item : Item} (h : '\x7b' ∉ item.text ∧ '\x7d' ∉ item.text)
    (opened : List Opener) :
    item.turn opened = some opened ∧ item.braces opened = [] := by
  cases item with
  | openBrace | closeBrace => simp [Item.text] at h
  | template resumes continues text =>
    cases resumes <;> cases continues
    · exact ⟨rfl, rfl⟩
    all_goals simp [Item.text] at h
  | _ => exact ⟨rfl, rfl⟩

theorem braces_of_no_brace (h : '\x7b' ∉ itemsText items ∧ '\x7d' ∉ itemsText items)
    (opened : List Opener) :
    openedBy opened items = some opened ∧ itemsBraces opened items = [] := by
  induction items with
  | nil => exact ⟨rfl, rfl⟩
  | cons item items ih =>
    simp only [itemsText, List.mem_append, not_or] at h
    obtain ⟨hopened, hbraces⟩ := ih ⟨h.1.1, h.2.1⟩
    obtain ⟨hturn, hitem⟩ := Item.turn_of_no_brace ⟨h.1.2, h.2.2⟩ opened
    rw [openedBy, itemsBraces, hopened, hbraces]
    exact ⟨hturn, by simp [hitem]⟩

/-! ### Bundles that have been read -/

/-- A reading of a group in braces between items without braces. -/
def wrapperItems (header body trailer : List Item) : List Item :=
  trailer ++ .closeBrace :: (body ++ .openBrace :: header)

variable {header body trailer : List Item}

theorem itemsText_wrapperItems (header body trailer : List Item) :
    itemsText (wrapperItems header body trailer) =
      itemsText header ++ '\x7b' :: (itemsText body ++ '\x7d' :: itemsText trailer) := by
  simp [wrapperItems, itemsText_append, itemsText, Item.text]

theorem openedBy_openBrace (hheader : '\x7b' ∉ itemsText header ∧ '\x7d' ∉ itemsText header) :
    openedBy [] (.openBrace :: header) = some [.brace] := by
  rw [openedBy, (braces_of_no_brace hheader []).1]
  rfl

theorem openedBy_body (hheader : '\x7b' ∉ itemsText header ∧ '\x7d' ∉ itemsText header)
    (hbody : openedBy [] body = some []) :
    openedBy [] (body ++ .openBrace :: header) = some [.brace] := by
  rw [openedBy_append, openedBy_openBrace hheader]
  exact openedBy_base hbody [.brace]

theorem openedBy_closeBrace (hheader : '\x7b' ∉ itemsText header ∧ '\x7d' ∉ itemsText header)
    (hbody : openedBy [] body = some []) :
    openedBy [] (.closeBrace :: (body ++ .openBrace :: header)) = some [] := by
  rw [openedBy, openedBy_body hheader hbody]
  rfl

theorem openedBy_wrapperItems
    (hheader : '\x7b' ∉ itemsText header ∧ '\x7d' ∉ itemsText header)
    (htrailer : '\x7b' ∉ itemsText trailer ∧ '\x7d' ∉ itemsText trailer)
    (hbody : openedBy [] body = some []) :
    openedBy [] (wrapperItems header body trailer) = some [] := by
  rw [wrapperItems, openedBy_append, openedBy_closeBrace hheader hbody]
  exact (braces_of_no_brace htrailer []).1

theorem itemsBraces_wrapperItems
    (hheader : '\x7b' ∉ itemsText header ∧ '\x7d' ∉ itemsText header)
    (htrailer : '\x7b' ∉ itemsText trailer ∧ '\x7d' ∉ itemsText trailer)
    (hbody : openedBy [] body = some []) :
    itemsBraces [] (wrapperItems header body trailer) =
      (byteSize (itemsText header), .opening) ::
        (shiftBraces (byteSize (itemsText header) + 1) (itemsBraces [.brace] body) ++
          [(byteSize (itemsText header) + 1 + byteSize (itemsText body), .closing)]) := by
  obtain ⟨hheaderOpened, hheaderBraces⟩ := braces_of_no_brace hheader []
  rw [wrapperItems, itemsBraces_append (openedBy_closeBrace hheader hbody),
    (braces_of_no_brace htrailer []).2, itemsBraces,
    itemsBraces_append (openedBy_openBrace hheader), openedBy_body hheader hbody, itemsBraces,
    hheaderBraces, hheaderOpened]
  simp [Item.braces, innerDepths, itemsText, itemsText_append, Item.text, Nat.add_assoc]

/-- Assumes: an identifier for the global object, and a bundle that has been read as items that
agree, with a group in braces between items without braces. Unwrapping it gives the text of the
items inside the group. -/
theorem unwrap_of_reads {bundle globalObject : String} (hglobal : isIdentifier globalObject)
    (htext : dropByteOrderMark bundle.toList = itemsText (wrapperItems header body trailer))
    (hreads : Reads (wrapperItems header body trailer) [])
    (hagrees : Agrees (wrapperItems header body trailer) [])
    (hheader : '\x7b' ∉ itemsText header ∧ '\x7d' ∉ itemsText header)
    (htrailer : '\x7b' ∉ itemsText trailer ∧ '\x7d' ∉ itemsText trailer)
    (hbody : openedBy [] body = some []) :
    (unwrap bundle globalObject).outcome =
      .ok ("var scope = " ++ globalObject ++ ";" ++ String.ofList (itemsText body)) := by
  have hopened := openedBy_wrapperItems hheader htrailer hbody
  have hbraces := structuralBraces_of_reads hreads hopened hagrees
  rw [itemsBraces_wrapperItems hheader htrailer hbody] at hbraces
  have hreturn := ((balanced_itemsBraces hbody [.brace]).shift
    (byteSize (itemsText header) + 1)).returnsAt (byteSize (itemsText header))
      (byteSize (itemsText header) + 1 + byteSize (itemsText body))
  have hpair : Verdict (structuralBraces (itemsText (wrapperItems header body trailer)))
      (.ok (byteSize (itemsText header),
        byteSize (itemsText header) + 1 + byteSize (itemsText body))) := by
    rw [hbraces]
    exact .pair rfl hreturn rfl
  rw [outcome_unwrap hglobal, htext]
  rw [itemsText_wrapperItems] at hpair ⊢
  rw [functionBody_of_pair hpair]
  rfl

theorem unwrap_reads_division :
    (unwrap "(function()\x7ba/b\x7d)();" "window").outcome = .ok "var scope = window;a/b" := by
  let header := [Item.plain "(function()".toList]
  let body := [Item.plain ['b'], .division, .plain ['a']]
  let trailer := [Item.plain ")();".toList]
  have hreads : Reads (wrapperItems header body trailer) [] := by
    refine .cons (.cons (.cons (.cons (.cons (.cons (.cons (.nil _) ?_) trivial) ?_) ?_) ?_)
      trivial) ?_ <;> simp [Item.Formed, Item.text]
  have hagrees : Agrees (wrapperItems header body trailer) [] :=
    ⟨⟨⟨⟨⟨⟨⟨trivial, trivial⟩, trivial⟩, trivial⟩, rfl⟩, trivial⟩, trivial⟩, trivial⟩
  exact (@unwrap_of_reads header body trailer "(function()\x7ba/b\x7d)();" "window" (by decide)
    (by decide) hreads hagrees (by decide) (by decide) rfl).trans (congrArg Except.ok (by decide))

end BrowserScript.Reading
