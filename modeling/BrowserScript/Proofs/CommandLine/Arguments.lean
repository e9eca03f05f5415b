import BrowserScript.CommandLine.Arguments
import BrowserScript.Proofs.Computation

/-!
What a command line asks for. `standing` are the values that stand on their own, `optionValue?` is
the value of an option, and a flag is given when it stands in front of `--`; none of them knows what
has been read before. When the arguments are read, each of them does one of five things
(`ArgumentStep`), and all values are kept in order. So a request that comes out of reading has
exactly what the arguments say (`asked_of_ofArguments`).
-/

set_option autoImplicit false
set_option relaxedAutoImplicit false

namespace BrowserScript.CommandLine

open Reading

/-! ### What arguments say -/

/-- The value of an option: behind its equals sign, or the next argument. -/
def optionValue? (option : String) : List String → Option String
  | [] => none
  | word :: rest =>
    if word = "--" then none
    else if (cutAtEquals word.toList).1 = option then (cutAtEquals word.toList).2.or rest.head?
    else optionValue? option rest

def isLong (word : String) : Bool := ['-', '-'].isPrefixOf word.toList

/-- The values that stand on their own; the flag tells that the first argument belongs to an option
in front of it. -/
def standing : Bool → List String → List String
  | _, [] => []
  | true, _ :: rest => standing false rest
  | false, word :: rest =>
    if word = "--" then rest
    else if isLong word then standing (Parameter.ofOptionText? word).isSome rest
    else word :: standing false rest

/-- A word that asks for the version or for the usage. -/
def isInquiry (word : String) : Bool :=
  word = "--version" || word = "--help" || ['-', 'V'].isPrefixOf word.toList ||
    ['-', 'h'].isPrefixOf word.toList

/-- A request has what the arguments say, and defaults for the options that they leave out. -/
structure Asked (globalObject : String) (args : List String) (r : Request) : Prop where
  positions :
    [r.name, r.version, r.additionalInfo, r.bundle, r.starter, r.output] = standing false args
  generatedDir : r.generatedDir = (optionValue? "--generated-dir" args).getD "build-generated"
  publicDir : r.publicDir = (optionValue? "--public-dir" args).getD "public"
  metaFile : r.metaFile = (optionValue? "--meta-file" args).getD "GENERATED-meta.js"
  globalObject : r.globalObject = (optionValue? "--global-object" args).getD globalObject
  noCopyright : r.noCopyright ↔ "--no-copyright" ∈ args.takeWhile (· ≠ "--")

/-! ### Words -/

theorem toList_cutAtEquals (word : List Char) :
    (cutAtEquals word).1.toList = word.takeWhile (· ≠ '=') := by
  have hall := List.takeWhile_append_dropWhile (p := (· ≠ '=')) (l := word)
  rw [cutAtEquals]
  cases hrest : word.dropWhile (· ≠ '=') with
  | nil =>
    rw [hrest, List.append_nil] at hall
    rw [hall, String.toList_ofList]
  | cons c value => rw [String.toList_ofList]

theorem isLong_of_cutAtEquals {word option : String} (hoption : isLong option)
    (h : (cutAtEquals word.toList).1 = option) : isLong word := by
  have hcut := toList_cutAtEquals word.toList
  rw [h] at hcut
  have hstart : ['-', '-'] <+: option.toList := List.isPrefixOf_iff_prefix.mp hoption
  rw [hcut] at hstart
  exact List.isPrefixOf_iff_prefix.mpr (hstart.trans (List.takeWhile_prefix _))

theorem optionText_of_ofOptionText? {word : String} {q : Parameter}
    (h : Parameter.ofOptionText? word = some q) : q ∈ Parameter.options ∧ q.optionText = word := by
  obtain ⟨hword, _⟩ := List.find?_eq_some_iff_append.mp h
  exact ⟨List.mem_of_find?_eq_some h, by simpa using hword⟩

theorem isLong_optionText {p : Parameter} (hp : p ∈ Parameter.options) : isLong p.optionText := by
  revert p
  decide

theorem optionText_inj {p q : Parameter} (hp : p ∈ Parameter.options)
    (hq : q ∈ Parameter.options) (h : p.optionText = q.optionText) : p = q := by
  have hall : ∀ p ∈ Parameter.options, ∀ q ∈ Parameter.options,
      p.optionText = q.optionText → p = q := by decide
  exact hall p hp q hq h

/-! ### One argument -/

namespace Reading

/-- All values up to now, in order. -/
def all (r : Reading) : List (Parameter × String) :=
  match r.pending with
  | some (parameter, some value) => r.values ++ [(parameter, value)]
  | _ => r.values

/-- The option whose value comes next. -/
def awaiting (r : Reading) : Option Parameter :=
  match r.pending with
  | some (parameter, none) => some parameter
  | _ => none

/-- The last value has been checked. -/
def settled (r : Reading) : Reading := { r with values := r.all, pending := none }

theorem settle_eq_ok {r r' : Reading} (h : r.settle = .ok r') :
    r' = r.settled ∧ r.awaiting = none := by
  obtain ⟨values, noCopyright, pending, missing⟩ := r
  rcases pending with _ | ⟨q, _ | value⟩
  · cases h
    exact ⟨rfl, rfl⟩
  · cases h
  · simp only [settle] at h
    repeat' split at h
    all_goals cases h
    exact ⟨rfl, rfl⟩

/-- What an argument does to what has been read. -/
inductive ArgumentStep (r : Reading) (text : String) : Reading → Prop
  | value {q : Parameter} (hword : ¬isLong text) (hawaiting : r.awaiting = some q) :
    ArgumentStep r text { r with pending := some (q, some text) }
  | position {q : Parameter} {missing : List Parameter} (hword : ¬isLong text)
    (hawaiting : r.awaiting = none) (hmissing : r.missing = q :: missing) :
    ArgumentStep r text { r with values := r.all, pending := some (q, some text), missing }
  | withValue {q : Parameter} {word value : String} (hlong : isLong text)
    (hawaiting : r.awaiting = none) (hcut : cutAtEquals text.toList = (word, some value))
    (hoption : Parameter.ofOptionText? word = some q) :
    ArgumentStep r text { r with values := r.all ++ [(q, value)], pending := none }
  | option {q : Parameter} (hlong : isLong text) (hawaiting : r.awaiting = none)
    (hcut : cutAtEquals text.toList = (text, none))
    (hoption : Parameter.ofOptionText? text = some q) :
    ArgumentStep r text { r with values := r.all, pending := some (q, none) }
  | flag (htext : text = "--no-copyright") (hawaiting : r.awaiting = none)
    (hfirst : r.noCopyright = false) : ArgumentStep r text
      { r with values := r.all, pending := none, noCopyright := true }

theorem position_eq_ok {r r' : Reading} {text : String} (h : r.position text = .ok r') :
    ∃ q missing, r.awaiting = none ∧ r.missing = q :: missing ∧
      r' = { r with values := r.all, pending := some (q, some text), missing } := by
  unfold position at h
  split at h
  · cases h
  · next q missing hmissing =>
    obtain ⟨s, hs, h⟩ := exists_of_bind_eq_ok h
    obtain ⟨rfl, hawaiting⟩ := settle_eq_ok hs
    cases h
    exact ⟨q, missing, hawaiting, hmissing, rfl⟩

theorem cutAtEquals_none {text word : String} (h : cutAtEquals text.toList = (word, none)) :
    word = text := by
  unfold cutAtEquals at h
  split at h
  · cases h
    simp
  · cases h

theorem step_of_long {r r' : Reading} {text word : String} {value : Option String}
    (hlong : isLong text) (hcut : cutAtEquals text.toList = (word, value))
    (h : r.long word value = .ok r') : ArgumentStep r text r' := by
  unfold long at h
  split at h
  · next q value hoption =>
    obtain ⟨s, hs, h⟩ := exists_of_bind_eq_ok h
    obtain ⟨rfl, hawaiting⟩ := settle_eq_ok hs
    obtain ⟨rfl, _⟩ := settle_eq_ok h
    exact .withValue hlong hawaiting hcut hoption
  · next q hoption =>
    obtain ⟨s, hs, h⟩ := exists_of_bind_eq_ok h
    obtain ⟨rfl, hawaiting⟩ := settle_eq_ok hs
    cases h
    obtain rfl := cutAtEquals_none hcut
    exact .option hlong hawaiting hcut hoption
  · split at h <;> cases h
  · obtain rfl := cutAtEquals_none hcut
    split at h
    · next htext =>
      obtain ⟨s, hs, h⟩ := exists_of_bind_eq_ok h
      obtain ⟨rfl, hawaiting⟩ := settle_eq_ok hs
      split at h
      · cases h
      · next hfirst =>
        cases h
        exact .flag htext hawaiting (by simpa [settled] using hfirst)
    · -- the version and the help text end the reading
      repeat' split at h
      all_goals first
        | (obtain ⟨s, _, h⟩ := exists_of_bind_eq_ok h; cases h)
        | cases h

theorem short_ne_ok (r : Reading) (letter : Char) (r' : Reading) : r.short letter ≠ .ok r' := by
  intro h
  unfold short at h
  repeat' split at h
  all_goals first
    | (obtain ⟨s, _, h⟩ := exists_of_bind_eq_ok h; cases h)
    | cases h

/-- An argument that is read makes one of the steps. -/
theorem step_of_argument {r r' : Reading} {text : String} (h : r.argument text = .ok r') :
    ArgumentStep r text r' := by
  unfold argument at h
  split at h
  · next htext => exact step_of_long (by simp [isLong, htext]) rfl h
  · exact (short_ne_ok _ _ _ h).elim
  · next hlong _ =>
    have hword : ¬isLong text := by
      intro hword
      obtain ⟨tail, htail⟩ := List.isPrefixOf_iff_prefix.mp hword
      exact hlong tail htail.symm
    split at h
    · next q hpending =>
      cases h
      exact .value hword (by rw [awaiting, hpending])
    · obtain ⟨q, missing, hawaiting, hmissing, rfl⟩ := position_eq_ok h
      exact .position hword hawaiting hmissing

/-! ### All arguments -/

/-- The value that a parameter has up to now. -/
def given (r : Reading) (p : Parameter) : Option String := (r.all.find? (·.1 = p)).map (·.2)

/-- The value that the next arguments give to an option. -/
def upcoming (r : Reading) (p : Parameter) (args : List String) : Option String :=
  if r.awaiting = some p then args.head? else optionValue? p.optionText args

/-- What is true between two arguments: an option that waits is one of the four, and the words that
stand on their own have gone to the parameters in their order. -/
structure Placed (words : List String) (r : Reading) : Prop where
  awaiting : ∀ q, r.awaiting = some q → q ∈ Parameter.options
  values : r.all.filter (·.1 ∈ Parameter.positional) = Parameter.positional.zip words
  missing : r.missing = Parameter.positional.drop words.length
  length_le : words.length ≤ Parameter.positional.length

section Fields

variable (values : List (Parameter × String)) (noCopyright : Bool) (q : Parameter) (value : String)
  (missing : List Parameter)

@[simp]
theorem awaiting_of_none : awaiting ⟨values, noCopyright, none, missing⟩ = none := rfl

@[simp]
theorem awaiting_of_option : awaiting ⟨values, noCopyright, some (q, none), missing⟩ = some q := rfl

@[simp]
theorem awaiting_of_value :
    awaiting ⟨values, noCopyright, some (q, some value), missing⟩ = none := rfl

@[simp]
theorem all_of_none : all ⟨values, noCopyright, none, missing⟩ = values := rfl

@[simp]
theorem all_of_option : all ⟨values, noCopyright, some (q, none), missing⟩ = values := rfl

@[simp]
theorem all_of_value :
    all ⟨values, noCopyright, some (q, some value), missing⟩ = values ++ [(q, value)] := rfl

end Fields

theorem all_of_awaiting {r : Reading} {q : Parameter} (h : r.awaiting = some q) :
    r.all = r.values := by
  obtain ⟨values, noCopyright, pending, missing⟩ := r
  rcases pending with _ | ⟨p, _ | value⟩
  · cases h
  · rfl
  · cases h

theorem given_append {r r' : Reading} {q : Parameter} {value : String}
    (h : r'.all = r.all ++ [(q, value)]) (p : Parameter) :
    r'.given p = (r.given p).or (if q = p then some value else none) := by
  rw [given, h, List.find?_append, Option.map_or, given]
  by_cases hq : q = p <;> simp [hq]

theorem notMem_options {q : Parameter} (hq : q ∈ Parameter.positional) : q ∉ Parameter.options := by
  revert q
  decide

theorem Placed.mem_positional {words : List String} {r : Reading} (hr : Placed words r)
    {q : Parameter} (hq : q ∈ r.missing) : q ∈ Parameter.positional :=
  List.mem_of_mem_drop (hr.missing ▸ hq)

/-- The next parameter takes the next word. -/
theorem zip_append_of_drop {α β : Type} {ps qs : List α} {q : α} {ws : List β}
    (h : ps.drop ws.length = q :: qs) (w : β) :
    ps.zip (ws ++ [w]) = ps.zip ws ++ [(q, w)] ∧ qs = ps.drop (ws ++ [w]).length := by
  induction ws generalizing ps with
  | nil =>
    obtain rfl : ps = q :: qs := h
    simp
  | cons v ws ih =>
    cases ps with
    | nil => simp at h
    | cons p ps => simpa using ih h

theorem Placed.position {words : List String} {r : Reading} {q : Parameter}
    {missing : List Parameter} (hr : Placed words r) (hmissing : r.missing = q :: missing)
    (text : String) :
    Placed (words ++ [text]) { r with values := r.all, pending := some (q, some text), missing } := by
  have hq : q ∈ Parameter.positional := hr.mem_positional (hmissing ▸ List.mem_cons_self)
  obtain ⟨hzip, hdrop⟩ := zip_append_of_drop (hr.missing ▸ hmissing) text
  have hlt : words.length < Parameter.positional.length := Nat.lt_of_not_le fun hle ↦ by
    rw [hr.missing, List.drop_eq_nil_of_le hle] at hmissing
    cases hmissing
  refine ⟨fun p hp ↦ (by cases hp), ?_, hdrop, by rwa [List.length_append]⟩
  have hall : ({ r with values := r.all, pending := some (q, some text), missing } : Reading).all =
      r.all ++ [(q, text)] := rfl
  rw [hall, List.filter_append, hr.values, hzip]
  simp [hq]

/-- The value of an option does not stand on its own. -/
theorem Placed.option {words : List String} {r r' : Reading} {q : Parameter} {value : String}
    (hr : Placed words r) (hq : q ∈ Parameter.options) (hall : r'.all = r.all ++ [(q, value)])
    (hawaiting : r'.awaiting = none) (hmissing : r'.missing = r.missing) : Placed words r' := by
  have hout : q ∉ Parameter.positional := fun h ↦ notMem_options h hq
  refine ⟨fun p hp ↦ ?_, ?_, hmissing.trans hr.missing, hr.length_le⟩
  · rw [hawaiting] at hp
    cases hp
  · rw [hall, List.filter_append, hr.values]
    simp [hout]

theorem ofOptionText?_of_cutAtEquals {text word value : String}
    (h : cutAtEquals text.toList = (word, some value)) : Parameter.ofOptionText? text = none := by
  rcases hq : Parameter.ofOptionText? text with _ | q
  · rfl
  · obtain ⟨hmem, rfl⟩ := optionText_of_ofOptionText? hq
    have hall : ∀ p ∈ Parameter.options, (cutAtEquals p.optionText.toList).2 = none := by decide
    have hnone := hall q hmem
    rw [h] at hnone
    cases hnone

/-- One argument: the words that it adds, and the parameters that they go to. -/
theorem ArgumentStep.placed {r r' : Reading} {text : String} (hstep : ArgumentStep r text r')
    (hend : text ≠ "--") {words : List String} (hr : Placed words r) :
    ∃ more, Placed (words ++ more) r' ∧
      ∀ rest, standing r.awaiting.isSome (text :: rest) =
        more ++ standing r'.awaiting.isSome rest := by
  cases hstep with
  | value hword hawaiting =>
    refine ⟨[], ?_, fun rest ↦ by rw [hawaiting]; rfl⟩
    rw [List.append_nil]
    have hall := all_of_awaiting hawaiting
    exact hr.option (hr.awaiting _ hawaiting) (by rw [hall]; rfl) rfl rfl
  | position hword hawaiting hmissing =>
    refine ⟨[text], hr.position hmissing text, fun rest ↦ ?_⟩
    simp [hawaiting, standing, hend, hword]
  | withValue hlong hawaiting hcut hoption =>
    refine ⟨[], ?_, fun rest ↦ ?_⟩
    · rw [List.append_nil]
      exact hr.option (optionText_of_ofOptionText? hoption).1 rfl rfl rfl
    · simp [hawaiting, standing, hend, hlong, ofOptionText?_of_cutAtEquals hcut]
  | option hlong hawaiting hcut hoption =>
    refine ⟨[], ?_, fun rest ↦ ?_⟩
    · rw [List.append_nil]
      refine ⟨fun p hp ↦ ?_, hr.values, hr.missing, hr.length_le⟩
      cases hp
      exact (optionText_of_ofOptionText? hoption).1
    · simp [hawaiting, standing, hend, hlong, hoption]
  | flag htext hawaiting hfirst =>
    subst htext
    refine ⟨[], ?_, fun rest ↦ ?_⟩
    · rw [List.append_nil]
      exact ⟨fun p hp ↦ (by cases hp), hr.values, hr.missing, hr.length_le⟩
    · have hlong : isLong "--no-copyright" := by decide
      have hoption : Parameter.ofOptionText? "--no-copyright" = none := by decide
      simp [hawaiting, standing, hlong, hoption]

/-- One argument: the value of an option is what came up to now, or else what comes. -/
theorem ArgumentStep.given_or_upcoming {r r' : Reading} {text : String}
    (hstep : ArgumentStep r text r') (hend : text ≠ "--") {words : List String}
    (hr : Placed words r) {p : Parameter} (hp : p ∈ Parameter.options) (rest : List String) :
    (r.given p).or (r.upcoming p (text :: rest)) = (r'.given p).or (r'.upcoming p rest) := by
  have hother : ¬isLong text → (cutAtEquals text.toList).1 ≠ p.optionText := fun hword h ↦
    hword (isLong_of_cutAtEquals (isLong_optionText hp) h)
  cases hstep with
  | @value q hword hawaiting =>
    have hgiven := @given_append r { r with pending := some (q, some text) } q text
      (by rw [all_of_awaiting hawaiting, all_of_value]) p
    rw [hgiven]
    by_cases hq : q = p
    · simp [upcoming, hawaiting, hq]
    · simp [upcoming, hawaiting, hq, optionValue?, hend, hother hword]
  | @position q missing hword hawaiting hmissing =>
    have hq : q ≠ p := fun h ↦
      notMem_options (hr.mem_positional (hmissing ▸ List.mem_cons_self)) (h ▸ hp)
    have hgiven := @given_append r
      { r with values := r.all, pending := some (q, some text), missing } q text rfl p
    rw [hgiven]
    simp [upcoming, hawaiting, hq, optionValue?, hend, hother hword]
  | @withValue q word value hlong hawaiting hcut hoption =>
    obtain ⟨hmem, rfl⟩ := optionText_of_ofOptionText? hoption
    have hgiven := @given_append r
      { r with values := r.all ++ [(q, value)], pending := none } q value rfl p
    rw [hgiven]
    by_cases hq : q = p
    · simp [upcoming, hawaiting, hq, optionValue?, hend, hcut]
    · have hne : q.optionText ≠ p.optionText := fun h ↦ hq (optionText_inj hmem hp h)
      simp [upcoming, hawaiting, hq, optionValue?, hend, hcut, hne]
  | @option q hlong hawaiting hcut hoption =>
    obtain ⟨hmem, rfl⟩ := optionText_of_ofOptionText? hoption
    have hgiven : ({ r with values := r.all, pending := some (q, none) } : Reading).given p =
        r.given p := rfl
    rw [hgiven]
    by_cases hq : q = p
    · subst hq
      simp [upcoming, hawaiting, optionValue?, hend, hcut]
    · have hne : q.optionText ≠ p.optionText := fun h ↦ hq (optionText_inj hmem hp h)
      simp [upcoming, hawaiting, hq, optionValue?, hend, hcut, hne]
  | flag htext hawaiting hfirst =>
    subst htext
    have hgiven : ({ r with values := r.all, pending := none, noCopyright := true } : Reading).given
        p = r.given p := rfl
    have hne : ∀ p ∈ Parameter.options, (cutAtEquals "--no-copyright".toList).1 ≠ p.optionText := by
      decide
    rw [hgiven]
    simp only [upcoming, hawaiting, optionValue?, hend, hne p hp, awaiting_of_none, if_false,
      reduceCtorEq]

/-- One argument: the flag is set if it stands here. -/
theorem ArgumentStep.noCopyright_iff {r r' : Reading} {text : String}
    (hstep : ArgumentStep r text r') :
    r'.noCopyright ↔ r.noCopyright ∨ text = "--no-copyright" := by
  have hcutFlag : cutAtEquals "--no-copyright".toList = ("--no-copyright", none) := by decide
  have hflag : isLong "--no-copyright" := by decide
  cases hstep with
  | value hword | position hword =>
    have hne : text ≠ "--no-copyright" := fun h ↦ hword (h ▸ hflag)
    simp [hne]
  | withValue hlong hawaiting hcut hoption =>
    have hne : text ≠ "--no-copyright" := by
      rintro rfl
      rw [hcutFlag] at hcut
      cases hcut
    simp [hne]
  | option hlong hawaiting hcut hoption =>
    have hne : text ≠ "--no-copyright" := by
      rintro rfl
      cases hoption
    simp [hne]
  | flag htext => simp [htext]

/-- Behind `--` every argument stands on its own. -/
theorem placed_of_positions {texts : List String} {r r' : Reading} {words : List String}
    (hr : Placed words r) (h : texts.foldlM position r = .ok r') :
    Placed (words ++ texts) r' ∧ (∀ p ∈ Parameter.options, r'.given p = r.given p) ∧
      r'.noCopyright = r.noCopyright ∧ (r'.awaiting = none → r.awaiting = none) := by
  induction texts generalizing r words with
  | nil =>
    cases h
    exact ⟨by rwa [List.append_nil], fun _ _ ↦ rfl, rfl, id⟩
  | cons text texts ih =>
    rw [List.foldlM_cons] at h
    obtain ⟨s, hs, h⟩ := exists_of_bind_eq_ok h
    obtain ⟨q, missing, hawaiting, hmissing, rfl⟩ := position_eq_ok hs
    obtain ⟨hplaced, hgiven, hflag, _⟩ := ih (hr.position hmissing text) h
    refine ⟨by simpa using hplaced, fun p hp ↦ ?_, hflag, fun _ ↦ hawaiting⟩
    have hq : q ≠ p := fun h ↦
      notMem_options (hr.mem_positional (hmissing ▸ List.mem_cons_self)) (h ▸ hp)
    rw [hgiven p hp, @given_append r _ q text rfl p]
    simp [hq]

/-- All arguments, if no option waits for its value in the end. -/
theorem placed_of_arguments {args : List String} {r r' : Reading} {words : List String}
    (hr : Placed words r) (h : r.arguments args = .ok r') (hend : r'.awaiting = none) :
    Placed (words ++ standing r.awaiting.isSome args) r' ∧
      (∀ p ∈ Parameter.options, r'.given p = (r.given p).or (r.upcoming p args)) ∧
      (r'.noCopyright ↔ r.noCopyright ∨ "--no-copyright" ∈ args.takeWhile (· ≠ "--")) := by
  induction args generalizing r words with
  | nil =>
    cases h
    refine ⟨by simpa [standing] using hr, fun p _ ↦ ?_, by simp⟩
    simp [upcoming, hend, optionValue?]
  | cons text rest ih =>
    rw [arguments] at h
    split at h
    · next htext =>
      subst htext
      obtain ⟨hplaced, hgiven, hflag, hwaits⟩ := placed_of_positions hr h
      have hawaiting := hwaits hend
      refine ⟨by simpa [hawaiting, standing] using hplaced, fun p hp ↦ ?_, by simp [hflag]⟩
      simp [upcoming, hawaiting, optionValue?, hgiven p hp]
    · next htext =>
      obtain ⟨s, hs, h⟩ := exists_of_bind_eq_ok h
      have hstep := step_of_argument hs
      obtain ⟨more, hmore, hstanding⟩ := hstep.placed htext hr
      obtain ⟨hplaced, hgiven, hflag⟩ := ih hmore h
      refine ⟨?_, fun p hp ↦ ?_, ?_⟩
      · rwa [hstanding, ← List.append_assoc]
      · rw [hgiven p hp, hstep.given_or_upcoming htext hr hp]
      · have hpass : (text :: rest).takeWhile (· ≠ "--") = text :: rest.takeWhile (· ≠ "--") :=
          List.takeWhile_cons_of_pos (by simpa using htext)
        rw [hflag, hstep.noCopyright_iff, hpass, List.mem_cons, or_assoc, @eq_comm _ text]

end Reading

/-! ### What is asked for -/

theorem Reading.valueOf_settled (r : Reading) (p : Parameter) (fallback : String) :
    r.settled.valueOf p fallback = (r.given p).getD fallback := rfl

/-- A parameter that is given by position has the word in its place. -/
theorem Reading.Placed.given_eq {words : List String} {r : Reading} (hr : Placed words r)
    {p : Parameter} (hp : p ∈ Parameter.positional) :
    r.given p = ((Parameter.positional.zip words).find? (·.1 = p)).map (·.2) := by
  rw [given, ← hr.values, List.find?_filter]
  congr 2
  funext q
  by_cases hq : q.1 = p <;> simp [hq, hp]

/-- Where no parameter is missing, each word is the value of the parameter in its place. -/
theorem Reading.Placed.eq_of_missing {words : List String} {r : Reading} (hr : Placed words r)
    (h : r.missing = []) :
    [Parameter.name, .version, .additionalInfo, .bundle, .starter, .output].map
      (r.settled.valueOf · "") = words := by
  have hlength : words.length = 6 :=
    Nat.le_antisymm hr.length_le (List.drop_eq_nil_iff.mp (hr.missing.symm.trans h))
  obtain ⟨a, b, c, d, e, f, rfl⟩ : ∃ a b c d e f, words = [a, b, c, d, e, f] := by
    match words, hlength with
    | [a, b, c, d, e, f], _ => exact ⟨a, b, c, d, e, f, rfl⟩
  have hgiven := fun p hp ↦ hr.given_eq (p := p) hp
  simp only [Parameter.positional, List.mem_cons, List.not_mem_nil, or_false, forall_eq_or_imp,
    forall_eq] at hgiven
  obtain ⟨h1, h2, h3, h4, h5, h6⟩ := hgiven
  simp [valueOf_settled, h1, h2, h3, h4, h5, h6]

/-- Reading arguments gives what they say. -/
theorem asked_of_ofArguments {globalObject : String} {args : List String} {request : Request}
    (h : Request.ofArguments globalObject args = .ok request) :
    Asked globalObject args request := by
  obtain ⟨r, hr, h⟩ := exists_of_bind_eq_ok h
  obtain ⟨s, hs, h⟩ := exists_of_bind_eq_ok h
  obtain ⟨rfl, hend⟩ := settle_eq_ok hs
  have hstart : Placed [] {} := ⟨fun q hq ↦ (by cases hq), rfl, rfl, Nat.zero_le _⟩
  obtain ⟨hplaced, hgiven, hflag⟩ := placed_of_arguments hstart hr hend
  rw [List.nil_append] at hplaced
  split at h
  · cases h
  · next hmissing =>
    cases h
    have hoption : ∀ p ∈ Parameter.options, ∀ fallback,
        r.settled.valueOf p fallback = (optionValue? p.optionText args).getD fallback :=
      fun p hp fallback ↦ by
        rw [valueOf_settled, hgiven p hp]
        rfl
    exact {
      positions := hplaced.eq_of_missing hmissing
      generatedDir := hoption .generatedDir (by decide) _
      publicDir := hoption .publicDir (by decide) _
      metaFile := hoption .metaFile (by decide) _
      globalObject := hoption .globalObject (by decide) _
      noCopyright := hflag.trans (by simp) }

/-! ### Why nothing is built -/

namespace Reading

theorem usage_of_settle {r : Reading} {stop : Stop} (h : r.settle = .error stop) :
    ∃ fault, stop = .usage fault := by
  unfold settle at h
  repeat' split at h
  all_goals cases h
  all_goals exact ⟨_, rfl⟩

theorem usage_of_position {r : Reading} {text : String} {stop : Stop}
    (h : r.position text = .error stop) : ∃ fault, stop = .usage fault := by
  unfold position at h
  split at h
  · cases h
    exact ⟨_, rfl⟩
  · rcases exists_of_bind_eq_error h with h | ⟨_, _, h⟩
    · exact usage_of_settle h
    · cases h

theorem usage_of_positions {texts : List String} {r : Reading} {stop : Stop}
    (h : texts.foldlM position r = .error stop) : ∃ fault, stop = .usage fault := by
  induction texts generalizing r with
  | nil => cases h
  | cons text texts ih =>
    rw [List.foldlM_cons] at h
    rcases exists_of_bind_eq_error h with h | ⟨_, _, h⟩
    · exact usage_of_position h
    · exact ih h

/-- A long word asks for the version or the usage if it is the whole argument. -/
theorem inquiry_of_long {r : Reading} {text word : String} {value : Option String} {stop : Stop}
    (hcut : cutAtEquals text.toList = (word, value)) (h : r.long word value = .error stop) :
    (∃ fault, stop = .usage fault) ∨ isInquiry text := by
  unfold long at h
  split at h
  · rcases exists_of_bind_eq_error h with h | ⟨_, _, h⟩
    · exact .inl (usage_of_settle h)
    · exact .inl (usage_of_settle h)
  · rcases exists_of_bind_eq_error h with h | ⟨_, _, h⟩
    · exact .inl (usage_of_settle h)
    · cases h
  · split at h
    all_goals cases h
    all_goals exact .inl ⟨_, rfl⟩
  · obtain rfl := cutAtEquals_none hcut
    split at h
    · rcases exists_of_bind_eq_error h with h | ⟨_, _, h⟩
      · exact .inl (usage_of_settle h)
      · split at h
        · cases h
          exact .inl ⟨_, rfl⟩
        · cases h
    · split at h
      · next hversion => exact .inr (by simp [isInquiry, hversion])
      · split at h
        · next hhelp => exact .inr (by simp [isInquiry, hhelp])
        · cases h
          exact .inl ⟨_, rfl⟩

theorem inquiry_of_argument {r : Reading} {text : String} {stop : Stop}
    (h : r.argument text = .error stop) :
    (∃ fault, stop = .usage fault) ∨ isInquiry text := by
  unfold argument at h
  split at h
  · exact inquiry_of_long rfl h
  · next letter _ htext =>
    unfold short at h
    split at h
    · next hletter => exact .inr (by simp [isInquiry, htext, hletter])
    · split at h
      · next hletter => exact .inr (by simp [isInquiry, htext, hletter])
      · cases h
        exact .inl ⟨_, rfl⟩
  · split at h
    · cases h
    · exact .inl (usage_of_position h)

theorem inquiry_of_arguments {args : List String} {r : Reading} {stop : Stop}
    (h : r.arguments args = .error stop) :
    (∃ fault, stop = .usage fault) ∨ ∃ word ∈ args.takeWhile (· ≠ "--"), isInquiry word := by
  induction args generalizing r with
  | nil => cases h
  | cons text rest ih =>
    rw [arguments] at h
    split at h
    · exact .inl (usage_of_positions h)
    · next htext =>
      have hpass : (text :: rest).takeWhile (· ≠ "--") = text :: rest.takeWhile (· ≠ "--") :=
        List.takeWhile_cons_of_pos (by simpa using htext)
      rw [hpass]
      rcases exists_of_bind_eq_error h with h | ⟨_, _, h⟩
      · exact (inquiry_of_argument h).imp_right fun hword ↦ ⟨text, List.mem_cons_self, hword⟩
      · exact (ih h).imp_right fun ⟨word, hmem, hword⟩ ↦
          ⟨word, List.mem_cons_of_mem _ hmem, hword⟩

end Reading

/-- Arguments that stand for no build are wrong, or a word among them asks for something else. -/
theorem inquiry_of_ofArguments {globalObject : String} {args : List String} {stop : Stop}
    (h : Request.ofArguments globalObject args = .error stop) :
    (∃ fault, stop = .usage fault) ∨ ∃ word ∈ args.takeWhile (· ≠ "--"), isInquiry word := by
  rcases exists_of_bind_eq_error h with h | ⟨r, _, h⟩
  · exact inquiry_of_arguments h
  · rcases exists_of_bind_eq_error h with h | ⟨s, _, h⟩
    · exact .inl (usage_of_settle h)
    · split at h
      all_goals cases h
      exact .inl ⟨_, rfl⟩

end BrowserScript.CommandLine
