import BrowserScript.CommandLine.FileTree
import BrowserScript.CommandLine.Run
import BrowserScript.Proofs.CommandLine.Arguments

/-!
A run changes at most the file it is asked to write. `Ends` lists the six ends of a run that has
been given its arguments: each step is reached only if the ones before it have succeeded, and only
the last end changes the tree. So a run that fails leaves all files as they were, and one that
succeeds has written what the build makes of the texts that stood in the tree before
(`run_changes_output_only`). A run that only tells the version or the usage writes nothing either,
although it does not fail.
-/

set_option autoImplicit false
set_option relaxedAutoImplicit false

namespace BrowserScript.CommandLine

/-! ### A tree in which one file has been set -/

namespace FileTree

/-- The text of a file. -/
def readText (tree : FileTree) (path : String) : Except AccessError String :=
  (tree.read path).bind textOf

theorem get?_put_self (tree : FileTree) (place : FilePath) (bytes : ByteArray) :
    (tree.put place bytes).get? place = some bytes := by
  rw [get?, put, List.lookup_cons_self]

theorem lookup_filter_ne {β : Type} (files : List (FilePath × β)) {place other : FilePath}
    (h : other ≠ place) : (files.filter (·.1 ≠ place)).lookup other = files.lookup other := by
  induction files with
  | nil => rfl
  | cons file files ih =>
    obtain ⟨name, bytes⟩ := file
    by_cases hname : name = place
    · have hother : (other == name) = false := by simpa [hname] using h
      rw [List.filter_cons_of_neg (by simp [hname]), ih, List.lookup_cons, hother]
    · rw [List.filter_cons_of_pos (by simpa using hname), List.lookup_cons, List.lookup_cons, ih]

theorem get?_put_of_ne (tree : FileTree) {place other : FilePath} (bytes : ByteArray)
    (h : other ≠ place) : (tree.put place bytes).get? other = tree.get? other := by
  have hother : (other == place) = false := by simpa using h
  rw [get?, put, List.lookup_cons, hother]
  exact lookup_filter_ne tree.files h

/-- A directory stays one. -/
theorem isDirectory_put {tree : FileTree} {path : FilePath} (h : tree.isDirectory path)
    (place : FilePath) (bytes : ByteArray) : (tree.put place bytes).isDirectory path := by
  simp only [isDirectory, put, Bool.or_eq_true, List.any_eq_true, List.mem_cons,
    List.mem_filter] at h ⊢
  rcases h with hname | ⟨file, hfile, hbelow⟩
  · exact .inl hname
  · by_cases hplace : file.1 = place
    · exact .inr ⟨(place, bytes), .inl rfl, hplace ▸ hbelow⟩
    · exact .inr ⟨file, .inr ⟨hfile, by simpa using hplace⟩, hbelow⟩

theorem follow_put {tree : FileTree} {here found : FilePath} {names : List String}
    (h : tree.follow here names = .ok found) (place : FilePath) (bytes : ByteArray) :
    (tree.put place bytes).follow here names = .ok found := by
  induction names generalizing here with
  | nil => exact h
  | cons name rest ih =>
    rw [follow] at h ⊢
    split at h
    · next hdirectory =>
      rw [if_pos (isDirectory_put hdirectory place bytes)]
      split at h
      · cases h
      · next hlength =>
        rw [if_neg hlength]
        exact ih h
    · split at h <;> cases h

/-- A path that leads somewhere leads there still. -/
theorem locate_put {tree : FileTree} {path : String} {found : FilePath}
    (h : tree.locate path = .ok found) (place : FilePath) (bytes : ByteArray) :
    (tree.put place bytes).locate path = .ok found := by
  unfold locate at h ⊢
  split at h
  · cases h
  · next hlength =>
    rw [if_neg hlength]
    split at h
    · cases h
    · next hempty =>
      rw [if_neg hempty]
      unfold locateNames at h ⊢
      split at h <;> exact follow_put h place bytes

/-- A write that succeeds sets the file at its path. -/
theorem write_eq_ok {tree after : FileTree} {path : String} {bytes : ByteArray}
    (h : tree.write path bytes = .ok after) :
    ∃ place, tree.locate path = .ok place ∧ after = tree.put place bytes := by
  unfold write at h
  split at h
  · obtain ⟨_, _, h⟩ := exists_of_bind_eq_ok h
    cases h
  · obtain ⟨place, hplace, h⟩ := exists_of_bind_eq_ok h
    split at h
    · cases h
    · cases h
      exact ⟨place, hplace, rfl⟩

theorem read_put {tree : FileTree} {path : String} {place : FilePath}
    (h : tree.locate path = .ok place) (bytes : ByteArray) :
    (tree.put place bytes).read path = .ok bytes := by
  simp only [read, locate_put h, get?_put_self]

end FileTree

/-! ### The end of a run -/

/-- How a run ends that has been given its arguments, and the tree it leaves behind. Each end follows
on the success of all steps before. -/
inductive Ends (tree : FileTree) (r : Request) : Exit → FileTree → Prop
  | noMetadata {fault : AccessError} (hmetadata : tree.readText r.metaPath = .error fault) :
    Ends tree r (.failure (.reading r.metaPath) fault.message) tree
  | noBundle {metadata : String} {fault : AccessError}
    (hmetadata : tree.readText r.metaPath = .ok metadata)
    (hbundle : tree.readText r.bundlePath = .error fault) :
    Ends tree r (.failure (.reading r.bundlePath) fault.message) tree
  | noStarter {metadata bundle : String} {fault : AccessError}
    (hmetadata : tree.readText r.metaPath = .ok metadata)
    (hbundle : tree.readText r.bundlePath = .ok bundle)
    (hstarter : tree.readText r.starterPath = .error fault) :
    Ends tree r (.failure (.reading r.starterPath) fault.message) tree
  | notBuilt {sources : Sources} {fault : BuildError}
    (hmetadata : tree.readText r.metaPath = .ok sources.metadata)
    (hbundle : tree.readText r.bundlePath = .ok sources.bundle)
    (hstarter : tree.readText r.starterPath = .ok sources.starter)
    (hbuild : (build sources r.descriptor r.globalObject).outcome = .error fault) :
    Ends tree r (.failure (.transforming r.bundlePath) fault.message) tree
  | notWritten {sources : Sources} {script : MinifiedScript} {fault : AccessError}
    (hmetadata : tree.readText r.metaPath = .ok sources.metadata)
    (hbundle : tree.readText r.bundlePath = .ok sources.bundle)
    (hstarter : tree.readText r.starterPath = .ok sources.starter)
    (hbuild : (build sources r.descriptor r.globalObject).outcome = .ok script)
    (hwrite : tree.write r.outputPath script.code.toUTF8 = .error fault) :
    Ends tree r (.failure (.writing r.outputPath) fault.message) tree
  | written {sources : Sources} {script : MinifiedScript} {after : FileTree}
    (hmetadata : tree.readText r.metaPath = .ok sources.metadata)
    (hbundle : tree.readText r.bundlePath = .ok sources.bundle)
    (hstarter : tree.readText r.starterPath = .ok sources.starter)
    (hbuild : (build sources r.descriptor r.globalObject).outcome = .ok script)
    (hwrite : tree.write r.outputPath script.code.toUTF8 = .ok after) :
    Ends tree r { code := 0 } after

theorem run_withText (tree : FileTree) (path : String) (next : String → StateM FileTree Exit) :
    (withText FileTree.access path next).run tree =
      match tree.readText path with
      | .ok text => (next text).run tree
      | .error fault => (Exit.failure (.reading path) fault.message, tree) := by
  have h : (withText FileTree.access path next).run tree =
      (match tree.readText path with
      | .ok text => next text
      | .error fault => pure (Exit.failure (.reading path) fault.message)).run tree := rfl
  rw [h]
  cases tree.readText path <;> rfl

theorem run_writeScript (tree : FileTree) (path : String) (script : MinifiedScript) :
    (writeScript FileTree.access path script).run tree =
      match tree.write path script.code.toUTF8 with
      | .ok after => ({ code := 0 }, after)
      | .error fault => (Exit.failure (.writing path) fault.message, tree) := by
  simp only [writeScript, FileTree.access, StateT.run_bind, StateT.run_get, pure_bind]
  cases tree.write path script.code.toUTF8 <;> rfl

/-- A run that has been given its arguments has one of the six ends. -/
theorem ends_perform (tree : FileTree) (r : Request) :
    ∃ exit after, (r.perform FileTree.access).run tree = (exit, after) ∧ Ends tree r exit after := by
  rw [Request.perform, run_withText]
  cases hmetadata : tree.readText r.metaPath with
  | error fault => exact ⟨_, _, rfl, .noMetadata hmetadata⟩
  | ok metadata =>
    simp only [run_withText]
    cases hbundle : tree.readText r.bundlePath with
    | error fault => exact ⟨_, _, rfl, .noBundle hmetadata hbundle⟩
    | ok bundle =>
      cases hstarter : tree.readText r.starterPath with
      | error fault => exact ⟨_, _, rfl, .noStarter hmetadata hbundle hstarter⟩
      | ok starter =>
        dsimp only
        split
        · next script hscript =>
          rw [run_writeScript]
          cases hwrite : tree.write r.outputPath script.code.toUTF8 with
          | error fault =>
            exact ⟨_, _, rfl, .notWritten hmetadata hbundle hstarter hscript hwrite⟩
          | ok after => exact ⟨_, _, rfl, .written hmetadata hbundle hstarter hscript hwrite⟩
        · next fault hfault =>
          exact ⟨_, _, rfl, .notBuilt hmetadata hbundle hstarter hfault⟩

/-! ### What a run changes -/

/-- One file has been set, and all others are as they were. -/
structure Sets (tree : FileTree) (path : String) (bytes : ByteArray) (after : FileTree) : Prop where
  frame : ∃ place, tree.locate path = .ok place ∧ after.get? place = some bytes ∧
    ∀ other, other ≠ place → after.get? other = tree.get? other
  read : after.read path = .ok bytes

/-- A script is what a build makes of the three texts that the arguments name, with what the
arguments say. -/
structure Builds (tree : FileTree) (args : List String) (r : Request) (script : MinifiedScript) :
    Prop where
  asked : Asked defaultGlobalObject args r
  copyright : r.descriptor.withCopyright ↔ "--no-copyright" ∉ args.takeWhile (· ≠ "--")
  outcome : ∃ sources : Sources,
    tree.readText (joinPath r.generatedDir r.metaFile) = .ok sources.metadata ∧
    tree.readText (joinPath r.generatedDir r.bundle) = .ok sources.bundle ∧
    tree.readText (joinPath r.publicDir r.starter) = .ok sources.starter ∧
    (build sources r.descriptor r.globalObject).outcome = .ok script

theorem sets_of_write {tree after : FileTree} {path : String} {bytes : ByteArray}
    (h : tree.write path bytes = .ok after) : Sets tree path bytes after := by
  obtain ⟨place, hplace, rfl⟩ := FileTree.write_eq_ok h
  exact ⟨⟨place, hplace, tree.get?_put_self place bytes,
    fun other hother ↦ tree.get?_put_of_ne bytes hother⟩, FileTree.read_put hplace bytes⟩

theorem code_failure (activity : Activity) (cause : String) :
    (Exit.failure activity cause).code ≠ 0 :=
  show (1 : UInt32) ≠ 0 by decide

theorem code_usage (fault : UsageError) : (Exit.ofStop (.usage fault)).code ≠ 0 :=
  show (2 : UInt32) ≠ 0 by decide

theorem Ends.eq_of_code_ne_zero {tree after : FileTree} {r : Request} {exit : Exit}
    (h : Ends tree r exit after) (hcode : exit.code ≠ 0) : after = tree := by
  cases h with
  | written => exact (hcode rfl).elim
  | _ => rfl

theorem Ends.sets_of_code_eq_zero {tree after : FileTree} {r : Request} {exit : Exit}
    {args : List String} (h : Ends tree r exit after) (hcode : exit.code = 0)
    (hasked : Asked defaultGlobalObject args r) :
    ∃ script, Builds tree args r script ∧
      Sets tree (joinPath r.generatedDir r.output) script.code.toUTF8 after := by
  cases h with
  | @written sources script _ hmetadata hbundle hstarter hbuild hwrite =>
    have hcopyright : r.descriptor.withCopyright ↔
        "--no-copyright" ∉ args.takeWhile (· ≠ "--") := by
      rw [← hasked.noCopyright]
      simp [Request.descriptor]
    exact ⟨script, ⟨hasked, hcopyright, sources, hmetadata, hbundle, hstarter, hbuild⟩,
      sets_of_write hwrite⟩
  | _ => exact (code_failure _ _ hcode).elim

/-- A run that fails changes nothing. One that does not fail has set the file that it is asked to
write, to the bytes of what a build makes of the texts that stood in the tree, and has changed no
other file; or it has been asked for the version or the usage, and has changed nothing. The run ends
at the first step that does not succeed. -/
theorem run_changes_output_only (args : List String) (tree : FileTree) :
    ∃ exit after, (run FileTree.access args).run tree = (exit, after) ∧
      (exit.code ≠ 0 → after = tree) ∧
      (exit.code = 0 →
        (∃ r script, Builds tree args r script ∧
          Sets tree (joinPath r.generatedDir r.output) script.code.toUTF8 after) ∨
        ((∃ word ∈ args.takeWhile (· ≠ "--"), isInquiry word) ∧ after = tree)) ∧
      match Request.ofArguments defaultGlobalObject args with
      | .ok r => Ends tree r exit after
      | .error stop => exit = .ofStop stop ∧ after = tree := by
  rw [run]
  cases hrequest : Request.ofArguments defaultGlobalObject args with
  | ok r =>
    obtain ⟨exit, after, hrun, hends⟩ := ends_perform tree r
    refine ⟨exit, after, hrun, hends.eq_of_code_ne_zero, fun hcode ↦ .inl ?_, hends⟩
    exact ⟨r, hends.sets_of_code_eq_zero hcode (asked_of_ofArguments hrequest)⟩
  | error stop =>
    refine ⟨.ofStop stop, tree, rfl, fun _ ↦ rfl, fun hcode ↦ .inr ⟨?_, rfl⟩, rfl, rfl⟩
    rcases inquiry_of_ofArguments hrequest with ⟨fault, rfl⟩ | hword
    · exact (code_usage _ hcode).elim
    · exact hword

/-- A run that does not fail need not have built anything: asked for the version where there are no
files, it leaves none. -/
theorem version_builds_nothing :
    ¬∀ (args : List String) (tree : FileTree),
      ((run FileTree.access args).run tree).1.code = 0 →
        ∃ r script, Builds tree args r script ∧
          Sets tree (joinPath r.generatedDir r.output) script.code.toUTF8
            ((run FileTree.access args).run tree).2 := by
  intro h
  let args := ["Widget", "3.2.1", "test build", "app.js", "main.js", "out.js", "--version"]
  have hrequest : Request.ofArguments defaultGlobalObject args = .error .version := by rfl
  have hrun : (run FileTree.access args).run {} = (.ofStop .version, {}) := by
    rw [run, hrequest]
    rfl
  obtain ⟨r, script, _, hsets⟩ := h args {} (by rw [hrun]; rfl)
  obtain ⟨place, _, hplace, _⟩ := hsets.frame
  rw [hrun] at hplace
  cases hplace

end BrowserScript.CommandLine
