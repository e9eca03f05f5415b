import Mathlib
import BrowserScript.Proofs.Handle.Declaration
import BrowserScript.Proofs.Handle.Refusal
import BrowserScript.Proofs.Reading.Document
import BrowserScript.Proofs.Wrapper.WrapperShape

/-!
Scripts that start with the declaration of `scope`. If the handle has a value as a word, the
declaration is the first statement, with this value and nothing else in it, and what stands behind
it is read from its first character on, as statements of the same script
(`parse_scopeDeclaration`). If it has none, there is no such script, whatever text follows
(`exists_parse_scopeDeclaration`).
-/

set_option autoImplicit false
set_option relaxedAutoImplicit false

namespace BrowserScript.Script

open Reader

variable {s : ReadState} {handle : String} {tokens : ScopeTokens handle} {e : Expr} {d : Nat}

/-! ### Scripts -/

/-- What counts of a run: the fault that stopped it, or else the first one that was noted. -/
def settled (run : Except Placed (List Stmt) × ReadState) : Except Placed (List Stmt) :=
  match run with
  | (.error fault, _) => .error fault
  | (.ok statements, s) =>
    match s.faults.getLast? with
    | some fault => .error fault
    | none => .ok statements

/-- Reads the statements from this state on, to the end of the script. -/
def readOn (parts : Parts) (s : ReadState) : Except Placed (List Stmt) :=
  settled ((List.map (·.1) <$> many (readBodyStatement parts isEof)) s)

/-- The state in front of a script. -/
def scriptStart (chars : List Char) : ReadState :=
  { script := chars, rest := ⟨0, chars⟩, bound := 2 * chars.length + 1 }

theorem parse_eq_settled (text : String) :
    parse text = settled (readScript (Parts.below (depthBound (scriptChars text).length))
      (scriptStart (scriptChars text))) := rfl

/-- No script comes of a state in which a fault has been noted. -/
theorem exists_readOn_of_faults (h : s.faults ≠ []) (depth : Nat) :
    ∃ fault, readOn (Parts.below depth) s = .error fault := by
  rw [readOn, run_map]
  rcases hrun : many (readBodyStatement (Parts.below depth) isEof) s with ⟨fault | found, s'⟩
  · exact ⟨fault, rfl⟩
  · obtain ⟨fault, hlast⟩ := Option.ne_none_iff_exists'.mp
      (mt List.getLast?_eq_none_iff.mp (Reading.faults_of_many h hrun))
    exact ⟨fault, by simp [settled, hlast]⟩

/-- The value of the declaration is what is read as an assignment; the other statements are read
behind the semicolon, by the rules that hold in front of the declaration. -/
theorem settled_readScript (h : Upcoming s tokens.list) (hloose : s.context.IsLoose)
    (hbound : 0 < s.bound)
    (hend : ∀ e u, readAssignment (Parts.below d) (s.inDeclaration.atValue tokens) = (.ok e, u) →
      u.current = some tokens.semicolon) :
    settled (readScript (Parts.below (d + 2)) s) =
      match readAssignment (Parts.below d) (s.inDeclaration.atValue tokens) with
      | (.ok e, u) =>
        (readOn (Parts.below (d + 2)) ((u.inContext s.context).behind tokens.semicolon)).map
          (tokens.declaration e :: ·)
      | (.error fault, _) => .error fault := by
  have hfirst := readBodyStatement_eq (d := d + 1) h
  rw [run_map, readDeclaration_eq h hloose hbound hend] at hfirst
  rw [readScript, readStatements, run_map, run_bind, hfirst]
  rcases readAssignment (Parts.below d) (s.inDeclaration.atValue tokens) with ⟨fault | e, u⟩
  · rfl
  · obtain ⟨t, ht⟩ : ∃ t, (u.inContext s.context).behind tokens.semicolon = t := ⟨_, rfl⟩
    -- the declaration is no directive, so the others are read by the rules that held before
    have hothers := @run_within_of_eq (List (Stmt × Bool × Nat)) t (fun c ↦ { c with
        strict := c.strict || (true && false && isStringStatement (tokens.declaration e)) })
      (by simp only [Bool.and_false, Bool.false_and, Bool.or_false])
    simp only [ht, run_bind, hothers, readOn, run_map]
    rcases many (readBodyStatement (Parts.below (d + 2)) isEof) t with ⟨fault | others, t'⟩
    · rfl
    · have hfaults : (t'.inContext t.context).faults = t'.faults := rfl
      simp only [run_pure, settled, hfaults]
      rcases t'.faults.getLast? with _ | fault <;> rfl

/-! ### The declaration of `scope` -/

/-- The declaration of `scope` with this value, at the start of a script. -/
def scopeStatement (value : Expr) : Stmt :=
  .declaration 0 .var [.mk 4 (.ident 4 { name := "scope" }) (some value)]

/-- The state behind the declaration: as in front of a script, but for the place, and for the one
that the value has left in mind for the head of an arrow function. -/
def behindScope (handle : String) (text : List Char) : ReadState :=
  { scriptStart ((scopeDeclaration handle).toList ++ text) with
    rest := ⟨12 + handle.length + 1, text⟩
    previousStart := 12 + handle.length
    previousEnd := 12 + handle.length + 1
    arrowStart := if maySignalArrow (.word handle) then some 12 else none }

/-- The script that starts with the declaration of `scope` with this value and goes on with what is
read of the text behind it. -/
def scopeScript (handle : String) (value : Expr) (text : String) : Except Placed (List Stmt) :=
  (readOn (Parts.below (depthBound (scopeDeclaration handle ++ text).length))
    (behindScope handle text.toList)).map (scopeStatement value :: ·)

theorem scriptChars_scopeDeclaration (handle text : String) :
    scriptChars (scopeDeclaration handle ++ text) =
      (scopeDeclaration handle).toList ++ text.toList := by
  rw [scriptChars, String.toList_append, toList_scopeDeclaration]
  rfl

theorem upcoming_scriptStart (hhandle : Text.isIdentifier handle) (text : List Char) :
    Upcoming (scriptStart ((scopeDeclaration handle).toList ++ text))
      (scopeTokens handle 0 text).list :=
  upcoming_scopeTokens hhandle rfl rfl rfl rfl

/-- The state in front of the value. -/
def beforeValue (handle : String) (text : List Char) : ReadState :=
  (scriptStart ((scopeDeclaration handle).toList ++ text)).inDeclaration.atValue
    (scopeTokens handle 0 text)

/-- Behind the equals sign come the value and the semicolon. -/
theorem upcoming_beforeValue (hhandle : Text.isIdentifier handle) (text : List Char) :
    Upcoming (beforeValue handle text)
      [(scopeTokens handle 0 text).value, (scopeTokens handle 0 text).semicolon] :=
  ((upcoming_scriptStart hhandle text).inContext _).step.2.step.2.step.2

/-- A script is read with more depth than its first declaration needs. -/
theorem exists_depthBound (length : Nat) : ∃ d, depthBound length = d + 1 + 2 :=
  ⟨4 * length + 97, rfl⟩

theorem parse_eq_readAssignment {text : String} (hhandle : Text.isIdentifier handle)
    (hdepth : depthBound (scopeDeclaration handle ++ text).length = d + 2)
    (hend : ∀ e u, readAssignment (Parts.below d) (beforeValue handle text.toList) = (.ok e, u) →
      u.current = some (scopeTokens handle 0 text.toList).semicolon) :
    parse (scopeDeclaration handle ++ text) =
      match readAssignment (Parts.below d) (beforeValue handle text.toList) with
      | (.ok e, u) =>
        (readOn (Parts.below (d + 2))
          ((u.inContext {}).behind (scopeTokens handle 0 text.toList).semicolon)).map
            (scopeStatement e :: ·)
      | (.error fault, _) => .error fault := by
  have hlength : ((scopeDeclaration handle).toList ++ text.toList).length =
      (scopeDeclaration handle ++ text).length := by
    rw [← String.toList_append, String.length_toList]
  rw [parse_eq_settled, scriptChars_scopeDeclaration, hlength, hdepth]
  exact settled_readScript (upcoming_scriptStart hhandle text.toList) ⟨rfl, rfl, rfl, rfl, rfl⟩
    (Nat.succ_pos _) hend

/-- If the handle has a value as a word, this value is the only thing in the declaration. -/
theorem parse_scopeDeclaration (hhandle : Text.isIdentifier handle)
    (hvalue : wordValue 12 handle = some e) (text : String) :
    parse (scopeDeclaration handle ++ text) = scopeScript handle e text := by
  obtain ⟨d, hdepth⟩ := exists_depthBound (scopeDeclaration handle ++ text).length
  have hread : readAssignment (Parts.below (d + 1)) (beforeValue handle text.toList) = (.ok e, _) :=
    readAssignment_of_value (upcoming_beforeValue hhandle text.toList) rfl rfl
      ⟨rfl, rfl, rfl, rfl, rfl⟩ hvalue (Nat.succ_pos _)
  rw [parse_eq_readAssignment hhandle hdepth, hread, scopeScript, hdepth]
  · rfl
  · intro e' u hread'
    cases hread.symm.trans hread'
    rfl

/-- If the handle has no value as a word, no script starts with the declaration. -/
theorem exists_parse_scopeDeclaration (hhandle : Text.isIdentifier handle)
    (hvalue : wordValue 12 handle = none) (text : String) :
    ∃ fault, parse (scopeDeclaration handle ++ text) = .error fault := by
  obtain ⟨d, hdepth⟩ := exists_depthBound (scopeDeclaration handle ++ text).length
  have hrefuses := refuses_readAssignment (upcoming_beforeValue hhandle text.toList) rfl rfl rfl rfl
    hvalue (Nat.succ_pos _) d
  rw [parse_eq_readAssignment hhandle hdepth]
  · generalize readAssignment (Parts.below (d + 1)) (beforeValue handle text.toList) = result
      at hrefuses
    rcases result with ⟨fault | e, u⟩
    · exact ⟨fault, rfl⟩
    · obtain ⟨fault, hread⟩ := exists_readOn_of_faults
        (s := (u.inContext {}).behind (scopeTokens handle 0 text.toList).semicolon) hrefuses.2
        (d + 1 + 2)
      exact ⟨fault, by simp only [hread, Except.map]⟩
  · intro e u hread
    rw [hread] at hrefuses
    exact hrefuses.1

end BrowserScript.Script

namespace BrowserScript

open Script Text

/-- Assumes: a bundle whose wrapper has a body. A handle that is no plain identifier is refused;
with any other one the declaration stands in front of the body. If the handle is no reserved word,
it is read as one name, the only thing in the declaration, and what follows is read as further
statements. The four reserved words that are values are read as these values; with any other
reserved word, no text that starts in this way is a script. -/
theorem unwrap_reads_handle {bundle body : String} (hbody : bundleBody bundle = .ok body)
    (handle : String) :
    (unwrap bundle handle).outcome =
        (if isIdentifier handle then .ok (scopeDeclaration handle ++ body)
          else .error (.invalidGlobal handle)) ∧
      (isIdentifier handle → ∀ text,
        (handle ∉ reservedWords → parse (scopeDeclaration handle ++ body ++ text) =
          scopeScript handle (.ident 12 { name := handle }) (body ++ text)) ∧
        (∀ value, wordValue 12 handle = some value →
          parse (scopeDeclaration handle ++ body ++ text) =
            scopeScript handle value (body ++ text)) ∧
        (handle ∈ reservedWords → handle ∉ ["this", "null", "true", "false"] →
          ∃ fault, parse (scopeDeclaration handle ++ body ++ text) = .error fault)) := by
  refine ⟨?_, fun hhandle text ↦ ?_⟩
  · rw [unwrap, bodyFor]
    split
    · rw [hbody]
      rfl
    · rfl
  · rw [String.append_assoc]
    have hvalue (value : Expr) (h : wordValue 12 handle = some value) :=
      parse_scopeDeclaration hhandle h (body ++ text)
    have hnone (h : wordValue 12 handle = none) :=
      exists_parse_scopeDeclaration hhandle h (body ++ text)
    exact ⟨fun hname ↦ hvalue _ (wordValue_of_not_mem hname 12), hvalue,
      fun hname hnot ↦ hnone (wordValue_eq_none_iff.mpr ⟨hname, hnot⟩)⟩

theorem unwrap_reads_window_and_class :
    bundleBody "(function(){a();})();" = .ok "a();" ∧
      (∀ text, parse ("var scope = window;a();" ++ text) =
        scopeScript "window" (.ident 12 { name := "window" }) ("a();" ++ text)) ∧
      (unwrap "(function(){a();})();" "class").outcome = .ok "var scope = class;a();" ∧
      ∀ text, ∃ fault, parse ("var scope = class;a();" ++ text) = .error fault := by
  have hbody : bundleBody "(function(){a();})();" = .ok "a();" := by decide +kernel
  have hclass := unwrap_reads_handle hbody "class"
  exact ⟨hbody,
    fun text ↦ ((unwrap_reads_handle hbody "window").2 (by decide) text).1 (by decide +kernel),
    hclass.1, fun text ↦ (hclass.2 (by decide) text).2.2 (by decide) (by decide)⟩

end BrowserScript
