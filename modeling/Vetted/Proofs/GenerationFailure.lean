import Vetted.Generation
import Vetted.Proofs.EncodedText
import Vetted.Proofs.InstalledFile

namespace Vetted.Proofs.GenerationFailure

open EncodedText FilePlaces FileSystem Generation InstalledFile Sequence
open Generated (Installed System install)

variable {sys : Nat → System} {fs after : FileSystem} {s : Settings} {g : Registry} {p : Path} {m : Rendered}
  {overwrite : Bool}

def lastAt (fs : FileSystem) (modules : List Rendered) (place : Place) : Option Rendered :=
  modules.reverse.find? fun m => fs.target m.output = .ok place

def nodeAfter (fs : FileSystem) (modules : List Rendered) (place : Place) : Option Node :=
  match lastAt fs modules place with
  | some m => some (.file (Text.encodeUtf8 m.content))
  | none => fs.node? place

/-- A path of a file with a directory to go into. -/
structure HasDirectory (fs : FileSystem) (p : Path) : Prop where
  named : endsInName p = true
  directory : fs.isDirectory p.parent = true

theorem HasDirectory.mono (hsame : SameDirectories fs after) (h : HasDirectory fs p) : HasDirectory after p :=
  ⟨h.named, hsame.isDirectory h.directory⟩

theorem outputPath_eq_ok {suffix : String} {output : Path} (h : Generated.outputPath p suffix = .ok output) :
    p.parts ≠ [] ∧ output.parent = p.parent ∧ endsInName output = true := by
  rw [Generated.outputPath, Path.withName] at h
  split at h
  · cases h
  · rename_i hnamed
    simp only at h
    split at h
    · cases h
    · obtain rfl := Except.ok.inj h
      refine ⟨?_, ?_, ?_⟩
      · intro hparts
        simp [Path.name, hparts] at hnamed
      · simp [Path.parent]
      · -- The new name ends in a letter, so it is neither empty nor a way up.
        have hlast : ∀ name : String, name.toList.getLast? = some 'y' → !name.isEmpty && name ≠ ".." := by
          intro name hname
          have hempty : name ≠ "" := by rintro rfl; simp at hname
          have hup : name ≠ ".." := by rintro rfl; simp at hname
          simp [hempty, hup]
        have hname := hlast (p.stem ++ suffix ++ ".py") (by simp)
        simpa [endsInName, Path.name] using hname

theorem readText_eq_ok {text : String} (h : fs.readText p = .ok text) :
    ∃ place bytes, fs.locate p = .ok place ∧ fs.node? place = some (.file bytes) := by
  obtain ⟨decoded, hdecoded, -⟩ := bind_eq_ok_iff.1 h
  obtain ⟨bytes, hbytes, -⟩ := bind_eq_ok_iff.1 hdecoded
  rw [mapError_eq_ok_iff, FileSystem.read] at hbytes
  split at hbytes
  · cases hbytes
  · rename_i place hlocate
    split at hbytes
    · exact ⟨place, _, hlocate, by assumption⟩
    · cases hbytes

theorem statements_eq_ok {body : List Source.Stmt} (h : statements fs p = .ok body) :
    ∃ text, fs.readText p = .ok text := by
  unfold statements at h
  split at h
  · exact ⟨_, by assumption⟩
  · cases h
  · cases h

theorem render_eq_ok (h : (render fs s g p).result = .ok m) :
    m.input = p ∧ (∃ text, fs.readText p = .ok text) ∧ Generated.outputPath p s.outputSuffix = .ok m.output ∧
      ∃ module code, Generated.emitModule module (module.records.map (Domain.resolve g s.conventions)) s.variant =
        .ok code ∧
        (laidOut s m.output code).result = .ok m.content := by
  simp only [render, Logged.result_bind, Logged.result_of, Logged.result_noteAll, Logged.result_note, bind_eq_ok_iff,
    mapError_eq_ok_iff, Logged.result_pure, Except.ok.injEq] at h
  obtain ⟨module, hmodule, _, -, code, hcode, _, -, output, houtput, content, hcontent, rfl⟩ := h
  simp only [declarations, Logged.result_bind, Logged.result_of, Logged.result_note, bind_eq_ok_iff] at hmodule
  obtain ⟨_, -, body, hbody, -⟩ := hmodule
  exact ⟨rfl, statements_eq_ok hbody, houtput, module, code, hcode, hcontent⟩

theorem hasDirectory_of_render (h : (render fs s g p).result = .ok m) : HasDirectory fs m.output := by
  obtain ⟨-, ⟨text, htext⟩, houtput, -⟩ := render_eq_ok h
  obtain ⟨place, bytes, hplace, -⟩ := readText_eq_ok htext
  obtain ⟨hparts, hparent, hnamed⟩ := outputPath_eq_ok houtput
  obtain ⟨directory, hdirectory, hnode, -⟩ := locate_parent hparts hplace
  exact ⟨hnamed, hparent ▸ isDirectory_iff.2 ⟨directory, hdirectory, hnode⟩⟩

theorem renderAll_eq_ok_iff {modules : List Rendered} :
    (renderAll fs s g).result = .ok modules ↔
      List.Forall₂ (fun p m => (render fs s g p).result = .ok m) (inputs s) modules := by
  rw [renderAll, Logged.result_mapM, mapM_eq_ok_iff]

theorem renderAll_eq_ok {modules : List Rendered} (h : (renderAll fs s g).result = .ok modules) :
    ∀ m ∈ modules, HasDirectory fs m.output := by
  intro m hm
  obtain ⟨p, -, hp⟩ := exists_of_forall₂ (renderAll_eq_ok_iff.1 h).flip hm
  exact hasDirectory_of_render hp

theorem lastAt_cons (m : Rendered) (modules : List Rendered) (place : Place) :
    lastAt fs (m :: modules) place =
      (lastAt fs modules place).or (if fs.target m.output = .ok place then some m else none) := by
  rw [lastAt, List.reverse_cons, List.find?_append, List.find?_singleton, lastAt]
  simp only [decide_eq_true_eq]

theorem lastAt_congr (hsame : SameDirectories fs after) {modules : List Rendered}
    (h : ∀ m ∈ modules, HasDirectory fs m.output) (place : Place) :
    lastAt after modules place = lastAt fs modules place := by
  induction modules with
  | nil => rfl
  | cons m modules ih =>
      obtain ⟨hm, hrest⟩ := List.forall_mem_cons.1 h
      rw [lastAt_cons, lastAt_cons, ih hrest, hsame.target hm.named hm.directory]

theorem nodeAfter_put {place : Place} (htakes : Takes fs m.output m.content place) {modules : List Rendered}
    (h : ∀ m ∈ modules, HasDirectory fs m.output) (other : Place) :
    nodeAfter (fs.put place (.file (Text.encodeUtf8 m.content))) modules other = nodeAfter fs (m :: modules) other := by
  have hplace := htakes.ne_nil
  rw [nodeAfter, nodeAfter, lastAt_congr (htakes.sameDirectories _) h, lastAt_cons, htakes.target]
  cases lastAt fs modules other with
  | some last => rfl
  | none =>
      by_cases hother : other = place
      · simp [node?_put hplace, hother]
      · have hother' : place ≠ other := fun heq => hother heq.symm
        simp [node?_put hplace, hother, hother']

theorem writeAll_cons_of_failure (sys : Nat → System) {left : FileSystem} {e : Failure} (rest : List Rendered)
    (h : install (sys 0) fs m.output m.content overwrite = ⟨left, some e⟩) :
    writeAll sys overwrite fs (m :: rest) = ⟨left, .fail e⟩ := by
  rw [writeAll.eq_def]
  simp only [h]

theorem writeAll_cons_of_none (sys : Nat → System) (rest : List Rendered)
    (h : install (sys 0) fs m.output m.content overwrite = ⟨after, none⟩) :
    (writeAll sys overwrite fs (m :: rest)).files = (writeAll (fun n => sys (n + 1)) overwrite after rest).files ∧
      (writeAll sys overwrite fs (m :: rest)).outcome.result =
        (writeAll (fun n => sys (n + 1)) overwrite after rest).outcome.result := by
  rw [writeAll.eq_def sys overwrite fs]
  simp only [h, true_and]
  rfl

/-- Modules that could be written up to one that could not. -/
structure WritesUpTo (sys : Nat → System) (overwrite : Bool) (fs : FileSystem) (written : List Rendered)
    (failed : Rendered) (left : FileSystem) (e : Failure) : Prop where
  done : (writeAll sys overwrite fs written).outcome.result = .ok ()
  stopped : install (sys written.length)
    (writeAll sys overwrite fs written).files failed.output failed.content overwrite =
    ⟨left, some e⟩

theorem writesUpTo_cons_iff {written : List Rendered} {failed : Rendered} {left : FileSystem} {e : Failure}
    (h : install (sys 0) fs m.output m.content overwrite = ⟨after, none⟩) :
    WritesUpTo sys overwrite fs (m :: written) failed left e ↔
      WritesUpTo (fun n => sys (n + 1)) overwrite after written failed left e := by
  obtain ⟨hfiles, hresult⟩ := writeAll_cons_of_none sys written h
  constructor
  · rintro ⟨hdone, hstopped⟩
    rw [hresult] at hdone
    rw [hfiles] at hstopped
    exact ⟨hdone, hstopped⟩
  · rintro ⟨hdone, hstopped⟩
    refine ⟨hresult.trans hdone, ?_⟩
    rw [hfiles]
    exact hstopped

theorem writeAll_eq_error_iff {modules : List Rendered} {left : FileSystem} {e : Failure} :
    (writeAll sys overwrite fs modules).outcome.result = .error e ∧ (writeAll sys overwrite fs modules).files = left ↔
      ∃ written failed rest, modules = written ++ failed :: rest ∧
        WritesUpTo sys overwrite fs written failed left e := by
  induction modules generalizing sys fs with
  | nil =>
      refine iff_of_false ?_ (by simp)
      rintro ⟨herror, -⟩
      cases herror
  | cons m rest ih =>
      cases hinstall : install (sys 0) fs m.output m.content overwrite with
      | mk after failure? =>
          cases failure? with
          | some failure =>
              rw [writeAll_cons_of_failure sys rest hinstall, Logged.result_fail]
              constructor
              · rintro ⟨herror, hleft⟩
                obtain rfl := Except.error.inj herror
                obtain rfl : after = left := hleft
                exact ⟨[], m, rest, rfl, rfl, hinstall⟩
              · rintro ⟨written, failed, later, hmodules, hwrites⟩
                cases written with
                | nil =>
                    obtain ⟨rfl, rfl⟩ := List.cons.inj hmodules
                    obtain ⟨rfl, hfailure⟩ := Installed.mk.inj (hinstall.symm.trans hwrites.stopped)
                    obtain rfl := Option.some.inj hfailure
                    exact ⟨rfl, rfl⟩
                | cons first written =>
                    obtain ⟨rfl, rfl⟩ := List.cons.inj hmodules
                    have hdone := hwrites.done
                    rw [writeAll_cons_of_failure sys written hinstall] at hdone
                    cases hdone
          | none =>
              obtain ⟨hfiles, hresult⟩ := writeAll_cons_of_none sys rest hinstall
              rw [hfiles, hresult, ih]
              constructor
              · rintro ⟨written, failed, later, rfl, hwrites⟩
                exact ⟨m :: written, failed, later, rfl, (writesUpTo_cons_iff hinstall).2 hwrites⟩
              · rintro ⟨written, failed, later, hmodules, hwrites⟩
                cases written with
                | nil =>
                    obtain ⟨rfl, rfl⟩ := List.cons.inj hmodules
                    have hnone := hinstall.symm.trans hwrites.stopped
                    cases hnone
                | cons first written =>
                    obtain ⟨rfl, rfl⟩ := List.cons.inj hmodules
                    exact ⟨written, failed, later, rfl, (writesUpTo_cons_iff hinstall).1 hwrites⟩

/-- What modules that are written leave: all are in their places, and no directory is new. -/
structure Leaves (fs after : FileSystem) (modules : List Rendered) : Prop where
  same : SameDirectories fs after
  takes : ∀ m ∈ modules, ∃ place, Takes fs m.output m.content place
  nodes : ∀ place, after.node? place = nodeAfter fs modules place

theorem mem_of_lastAt {modules : List Rendered} {place : Place} (h : lastAt fs modules place = some m) :
    m ∈ modules ∧ fs.target m.output = .ok place := by
  rw [lastAt] at h
  exact ⟨List.mem_reverse.1 (List.mem_of_find?_eq_some h), by simpa using List.find?_some h⟩

theorem Leaves.node?_eq {modules : List Rendered} (h : Leaves fs after modules) {place : Place}
    (hplace : ∀ m ∈ modules, fs.target m.output ≠ .ok place) : after.node? place = fs.node? place := by
  rw [h.nodes, nodeAfter]
  cases hlast : lastAt fs modules place with
  | none => rfl
  | some m =>
      obtain ⟨hm, htarget⟩ := mem_of_lastAt hlast
      exact absurd htarget (hplace m hm)

theorem leaves_of_writeAll {modules : List Rendered} (h : ∀ m ∈ modules, HasDirectory fs m.output)
    (hdone : (writeAll sys overwrite fs modules).outcome.result = .ok ()) :
    Leaves fs (writeAll sys overwrite fs modules).files modules := by
  induction modules generalizing sys fs with
  | nil => exact ⟨.refl fs, by simp, fun place => rfl⟩
  | cons m rest ih =>
      cases hinstall : install (sys 0) fs m.output m.content overwrite with
      | mk after failure? =>
          cases failure? with
          | some failure =>
              rw [writeAll_cons_of_failure sys rest hinstall] at hdone
              cases hdone
          | none =>
              obtain ⟨hm, hrest⟩ := List.forall_mem_cons.1 h
              obtain ⟨-, place, htakes, rfl⟩ := install_eq_none hm.directory hinstall
              have hsame := htakes.sameDirectories (Text.encodeUtf8 m.content)
              obtain ⟨hfiles, hresult⟩ := writeAll_cons_of_none sys rest hinstall
              rw [hresult] at hdone
              obtain ⟨hkept, htaken, hnodes⟩ := ih (fun n hn => (hrest n hn).mono hsame) hdone
              rw [hfiles]
              refine ⟨hsame.trans hkept, ?_, fun other => by rw [hnodes, nodeAfter_put htakes hrest]⟩
              refine List.forall_mem_cons.2 ⟨⟨place, htakes⟩, fun n hn => ?_⟩
              obtain ⟨other, hother⟩ := htaken n hn
              exact ⟨other, hother.mono hsame.symm⟩

theorem generate_of_render_error (sys : Nat → System) {e : Failure} (h : (renderAll fs s g).result = .error e) :
    (generate sys fs s g).files = fs ∧ (generate sys fs s g).outcome.result = .error e := by
  rw [generate]
  simp [h]

theorem generate_of_render_ok (sys : Nat → System) {modules : List Rendered}
    (h : (renderAll fs s g).result = .ok modules) :
    (generate sys fs s g).files = (writeAll sys s.overwriteUnmarked fs modules).files ∧
      (generate sys fs s g).outcome.result =
        (writeAll sys s.overwriteUnmarked fs modules).outcome.result.map fun _ => modules := by
  rw [generate]
  simp only [h, true_and, Logged.result_bind]
  cases (writeAll sys s.overwriteUnmarked fs modules).outcome.result <;> rfl

def HeldBefore (fs : FileSystem) (modules : List Rendered) : Prop :=
  ∀ place m, lastAt fs modules place = some m → fs.node? place = some (.file (Text.encodeUtf8 m.content))

/-- What an installation leaves besides the modules written before it: nothing, or a file beside its target. -/
structure Stops (sys : System) (fs : FileSystem) (written : List Rendered) (failed : Rendered) (left : FileSystem)
    (e : Failure) (stray : Option Place) : Prop where
  others : ∀ place, stray ≠ some place → left.node? place = nodeAfter fs written place
  cleared : stray = none → ¬Unreported failed.output failed.content e
  strays : ∀ beside, stray = some beside → IsBeside fs failed.output beside ∧ nodeAfter fs written beside = none ∧
    (∃ bytes, left.node? beside = some (.file bytes)) ∧ (Unreported failed.output failed.content e ∨ Sticks sys)

theorem exists_stops {sys : System} {written : List Rendered} {failed : Rendered} {left : FileSystem} {e : Failure}
    (hleaves : Leaves fs after written) (hfailed : HasDirectory fs failed.output)
    (h : install sys after failed.output failed.content overwrite = ⟨left, some e⟩) :
    ∃ stray, Stops sys fs written failed left e stray := by
  obtain ⟨hcleared, rfl⟩ | ⟨hstrands, beside, bytes, ⟨directory, hlocate, lot, rfl⟩, hfree, rfl⟩ :=
    install_eq_some (hfailed.mono hleaves.same).directory h
  · exact ⟨none, fun place _ => hleaves.nodes place, fun _ => hcleared, by rintro _ ⟨⟩⟩
  · have hplace : directory ++ [lot.nameFor failed.output] ≠ [] := by simp
    obtain ⟨there, hthere, hnode⟩ := isDirectory_iff.1 hfailed.directory
    have hdirectory : fs.locate failed.output.parent = .ok directory := by
      rw [hthere, ← hlocate, hleaves.same.locate_directory hthere hnode]
    refine ⟨some (directory ++ [lot.nameFor failed.output]), fun place hother => ?_, by rintro ⟨⟩, ?_⟩
    · rw [node?_put hplace, if_neg fun heq => hother (congrArg some heq.symm), hleaves.nodes]
    · rintro _ ⟨⟩
      refine ⟨⟨directory, hdirectory, lot, rfl⟩, (hleaves.nodes _).symm.trans hfree, ⟨bytes, ?_⟩, hstrands⟩
      rw [node?_put hplace, if_pos rfl]

theorem node?_of_nodeAfter {modules : List Rendered} {place : Place} (h : nodeAfter fs modules place = none) :
    fs.node? place = none := by
  rw [nodeAfter] at h
  split at h
  · cases h
  · exact h

theorem Stops.sameFiles_iff {sys : System} {written : List Rendered} {failed : Rendered} {left : FileSystem}
    {e : Failure}
    {stray : Option Place} (h : Stops sys fs written failed left e stray) :
    SameFiles fs left ↔ stray = none ∧ HeldBefore fs written := by
  constructor
  · intro hsame
    have hstray : stray = none := by
      by_contra hstray
      obtain ⟨beside, rfl⟩ := Option.ne_none_iff_exists'.1 hstray
      obtain ⟨-, hfree, ⟨bytes, hbytes⟩, -⟩ := h.strays beside rfl
      have hbefore := (hsame beside bytes).1 hbytes
      rw [node?_of_nodeAfter hfree] at hbefore
      cases hbefore
    refine ⟨hstray, fun place m hlast => (hsame place _).1 ?_⟩
    rw [h.others place (by simp [hstray]), nodeAfter, hlast]
  · rintro ⟨rfl, hheld⟩ place bytes
    rw [h.others place (by simp), nodeAfter]
    cases hlast : lastAt fs written place with
    | none => rfl
    | some m => simp only [hheld place m hlast]

/-- A run that fails while it renders leaves everything as it was. A run that fails while it installs a module leaves
the modules before it in their places, and besides them at most one new file beside the failing one. So it leaves all
files as they were only where there is no such file and the modules before held the same text already. -/
theorem generate_fails (sys : Nat → System) (fs : FileSystem) (s : Settings) (g : Registry) (e : Failure)
    (h : (generate sys fs s g).outcome.result = .error e) :
    (renderAll fs s g).result = .error e ∧ (generate sys fs s g).files = fs ∨
      ∃ written failed rest stray, (renderAll fs s g).result = .ok (written ++ failed :: rest) ∧
        WritesUpTo sys s.overwriteUnmarked fs written failed (generate sys fs s g).files e ∧
        Stops (sys written.length) fs written failed (generate sys fs s g).files e stray ∧
        (SameFiles fs (generate sys fs s g).files ↔ stray = none ∧ HeldBefore fs written) := by
  cases hrender : (renderAll fs s g).result with
  | error failure =>
      obtain ⟨hfiles, hresult⟩ := generate_of_render_error sys hrender
      rw [hresult] at h
      exact .inl ⟨h, hfiles⟩
  | ok modules =>
      obtain ⟨hfiles, hresult⟩ := generate_of_render_ok sys hrender
      rw [hresult, map_eq_error_iff] at h
      obtain ⟨written, failed, rest, rfl, hwrites⟩ := writeAll_eq_error_iff.1 ⟨h, hfiles.symm⟩
      have hdirectories := renderAll_eq_ok hrender
      have hleaves := leaves_of_writeAll (fun m hm => hdirectories m (List.mem_append_left _ hm)) hwrites.done
      obtain ⟨stray, hstops⟩ := exists_stops hleaves (hdirectories failed (by simp)) hwrites.stopped
      exact .inr ⟨written, failed, rest, stray, rfl, hwrites, hstops, hstops.sameFiles_iff⟩

/-- Two sources without declarations, and a file that nobody generated where the second module goes. -/
def takenFiles : FileSystem where
  workingDirectory := []
  nodes := [(["a.py"], .file []), (["b.py"], .file []), (["b_validation_gen.py"], .file (Text.encodeUtf8 "mine\n"))]

def takenValue : Value :=
  .dict [(.text "input_files", .list [.text "a.py", .text "b.py"]), (.text "format_output", .bool false)]

def takenSettings : Settings where
  inputFiles := ["a.py", "b.py"]
  formatOutput := false

theorem inputs_taken : inputs takenSettings = [⟨"", ["a.py"]⟩, ⟨"", ["b.py"]⟩] := by
  have hfiles : takenSettings.inputFiles.map Path.ofText = [⟨"", ["a.py"]⟩, ⟨"", ["b.py"]⟩] := by decide +kernel
  rw [inputs, hfiles]
  exact List.mergeSort_of_pairwise (by decide +kernel)

theorem exists_taken_modules :
    ∃ m n, (renderAll takenFiles takenSettings .standard).result = .ok [m, n] ∧
      (m.output = ⟨"", ["a_validation_gen.py"]⟩ ∧ isPlain m.content = true) ∧
        n.output = ⟨"", ["b_validation_gen.py"]⟩ := by
  have hplain : ((renderAll takenFiles takenSettings .standard).result.toOption.map fun modules =>
      modules.all fun m => isPlain m.content) = some true := by
    rw [renderAll, inputs_taken]
    decide +kernel
  cases hrender : (renderAll takenFiles takenSettings .standard).result with
  | error e =>
      rw [hrender] at hplain
      cases hplain
  | ok modules =>
      have hall := renderAll_eq_ok_iff.1 hrender
      rw [inputs_taken] at hall
      obtain ⟨m, others, hm, hothers, rfl⟩ := List.forall₂_cons_left_iff.1 hall
      obtain ⟨n, rest, hn, hrest, rfl⟩ := List.forall₂_cons_left_iff.1 hothers
      obtain rfl := List.forall₂_nil_left_iff.1 hrest
      have houtputs : Generated.outputPath ⟨"", ["a.py"]⟩ = .ok ⟨"", ["a_validation_gen.py"]⟩ ∧
          Generated.outputPath ⟨"", ["b.py"]⟩ = .ok ⟨"", ["b_validation_gen.py"]⟩ := by
        decide +kernel
      have hcontents : isPlain m.content = true := by
        rw [hrender] at hplain
        have hboth : isPlain m.content = true ∧ isPlain n.content = true := by
          simpa [Except.toOption] using hplain
        exact hboth.1
      exact ⟨m, n, rfl, ⟨Except.ok.inj ((render_eq_ok hm).2.2.1.symm.trans houtputs.1), hcontents⟩,
        Except.ok.inj ((render_eq_ok hn).2.2.1.symm.trans houtputs.2)⟩

theorem install_taken {content : String} (h : isPlain content = true) :
    install .plain takenFiles ⟨"", ["a_validation_gen.py"]⟩ content false =
      ⟨takenFiles.put ["a_validation_gen.py"] (.file (Text.encodeUtf8 content)), none⟩ := by
  have htakes : Takes takenFiles ⟨"", ["a_validation_gen.py"]⟩ content ["a_validation_gen.py"] :=
    ⟨rfl, by decide +kernel, by decide +kernel, by decide +kernel, halfFault?_of_isPlain h⟩
  have hfree := hasFree_of_isDirectory (isDirectory_of_target htakes.named htakes.target)
    (by decide +kernel : takenFiles.locate ⟨"", []⟩ = .ok []) (List.mem_singleton_self Generated.Lot.blank)
      (by decide +kernel)
  exact install_obliging_eq_none hfree rfl htakes

theorem install_taken_refused (bytes : List UInt8) (content : String) :
    install .plain (takenFiles.put ["a_validation_gen.py"] (.file bytes)) ⟨"", ["b_validation_gen.py"]⟩ content false =
      ⟨takenFiles.put ["a_validation_gen.py"] (.file bytes), some (.unmarkedOutput "b_validation_gen.py")⟩ := by
  have hmark := isMarked_of_readText (readText_encoded
    (rfl : (takenFiles.put ["a_validation_gen.py"] (.file bytes)).locate ⟨"", ["b_validation_gen.py"]⟩ = .ok _)
    (rfl : (takenFiles.put ["a_validation_gen.py"] (.file bytes)).node? ["b_validation_gen.py"] =
      some (.file (Text.encodeUtf8 "mine\n"))) (by decide))
  exact install_of_unmarked hmark

theorem taken_run :
    ∃ bytes e, (generate (fun _ => .plain) takenFiles takenSettings .standard).outcome.result = .error e ∧
      (generate (fun _ => .plain) takenFiles takenSettings .standard).files =
        takenFiles.put ["a_validation_gen.py"] (.file bytes) := by
  obtain ⟨m, n, hrender, ⟨hm, hplain⟩, hn⟩ := exists_taken_modules
  have hwrite := install_taken hplain
  have hrefused := install_taken_refused (Text.encodeUtf8 m.content) n.content
  rw [← hm] at hwrite
  rw [← hn] at hrefused
  obtain ⟨hfiles, hresult⟩ := generate_of_render_ok (fun _ => .plain) hrender
  obtain ⟨hfirst, hfailed⟩ := writeAll_cons_of_none (fun _ => .plain) [n] hwrite
  rw [writeAll_cons_of_failure (fun _ => .plain) [] hrefused] at hfirst hfailed
  exact ⟨_, _, hresult.trans (congrArg _ hfailed), hfiles.trans hfirst⟩

theorem exists_error_taken :
    ∃ e, (generate (fun _ => .plain) takenFiles takenSettings .standard).outcome.result = .error e := by
  obtain ⟨-, e, he, -⟩ := taken_run
  exact ⟨e, he⟩

theorem taken_first_written :
    ∃ bytes, (generate (fun _ => .plain) takenFiles takenSettings .standard).files.node? ["a_validation_gen.py"] =
      some (.file bytes) := by
  obtain ⟨bytes, -, -, hfiles⟩ := taken_run
  refine ⟨bytes, ?_⟩
  rw [hfiles, node?_put (by simp), if_pos rfl]

theorem taken_generate_fails :
    ∃ e, (generate (fun _ => .plain) takenFiles takenSettings .standard).outcome.result = .error e ∧
      ∃ written failed stray, Stops .plain takenFiles written failed
        (generate (fun _ => .plain) takenFiles takenSettings .standard).files e stray := by
  obtain ⟨e, he⟩ := exists_error_taken
  refine ⟨e, he, ?_⟩
  obtain ⟨-, hfiles⟩ | ⟨written, failed, -, stray, -, -, hstops, -⟩ :=
    generate_fails (fun _ => .plain) takenFiles takenSettings .standard e he
  · obtain ⟨bytes, hfirst⟩ := taken_first_written
    rw [hfiles] at hfirst
    cases hfirst
  · exact ⟨written, failed, stray, hstops⟩

/-- A run of accepted settings may fail and leave a file that was not there. -/
theorem failed_generate_may_leave_files :
    ¬∀ sys fs v s g e, Settings.parse v = .ok s → (generate sys fs s g).outcome.result = .error e →
      SameFiles fs (generate sys fs s g).files := by
  intro hall
  have hparsed : (Settings.parse takenValue).toOption = some takenSettings := by decide +kernel
  have haccepted : Settings.parse takenValue = .ok takenSettings := by
    cases hparse : Settings.parse takenValue with
    | error e => simp [hparse, Except.toOption] at hparsed
    | ok s => simpa [hparse, Except.toOption] using hparsed
  obtain ⟨e, he⟩ := exists_error_taken
  have hsame := hall (fun _ => .plain) takenFiles takenValue takenSettings .standard e haccepted he
  obtain ⟨bytes, hfirst⟩ := taken_first_written
  have hbefore := (hsame _ bytes).1 hfirst
  cases hbefore

end Vetted.Proofs.GenerationFailure
