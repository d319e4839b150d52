import Vetted.Proofs.GeneratedProgram
import Vetted.Proofs.GenerationFailure
import Vetted.Proofs.InputOrder

namespace Vetted.Proofs.RepeatedGeneration

open EncodedText FilePlaces FileSystem GenerationFailure Generation InputOrder InstalledFile Sequence
open Generated (Lot System install)

variable {sys : Nat → System} {fs after : FileSystem} {s : Settings} {g : Registry} {p : Path} {m : Rendered}
  {modules : List Rendered}

/-- The file of a module can be compared with it: it is missing, or it is a file that can be read. -/
def Comparable (fs : FileSystem) (m : Rendered) : Prop :=
  fs.isFile m.output = .ok false ∨ fs.isFile m.output = .ok true ∧ ∃ text, fs.readText m.output = .ok text

def Current (fs : FileSystem) (m : Rendered) : Prop :=
  fs.isFile m.output = .ok true ∧ fs.readText m.output = .ok m.content

open scoped Classical in
/-- The files of modules that are missing or hold something else, in the order of the modules. -/
noncomputable def staleOutputs (fs : FileSystem) (modules : List Rendered) : List Path :=
  (modules.filter fun m => ¬Current fs m).map Rendered.output

theorem staleOutputs_of_current (h : Current fs m) : staleOutputs fs (m :: modules) = staleOutputs fs modules := by
  rw [staleOutputs, staleOutputs, List.filter_cons_of_neg (by simpa using h)]

theorem staleOutputs_of_stale (h : ¬Current fs m) :
    staleOutputs fs (m :: modules) = m.output :: staleOutputs fs modules := by
  rw [staleOutputs, staleOutputs, List.filter_cons_of_pos (by simpa using h), List.map_cons]

theorem isStale_eq_ok_iff {stale : Bool} :
    isStale fs m = .ok stale ↔ Comparable fs m ∧ (stale = true ↔ ¬Current fs m) := by
  rw [isStale, Comparable, Current]
  cases hfile : fs.isFile m.output with
  | error e => simp [bind, Except.bind, Except.mapError]
  | ok found =>
      cases found with
      | false => simp [bind, Except.bind, Except.mapError, pure, Except.pure, eq_comm]
      | true =>
          cases htext : fs.readText m.output with
          | error e => simp [bind, Except.bind, Except.mapError, Except.map]
          | ok text =>
              simp only [bind, Except.bind, Except.mapError, Except.map]
              by_cases hsame : text = m.content <;> simp [hsame, eq_comm]

theorem staleOne_eq_ok_iff {stale : Option Path} :
    (staleOne fs m).result = .ok stale ↔
      Comparable fs m ∧ (Current fs m ∧ stale = none ∨ ¬Current fs m ∧ stale = some m.output) := by
  have hresult : (staleOne fs m).result =
      (isStale fs m).map fun stale => if stale then some m.output else none := by
    simp only [staleOne, Logged.result_bind, Logged.result_of]
    cases isStale fs m with
    | error e => rfl
    | ok stale => cases stale <;> rfl
  rw [hresult]
  constructor
  · intro h
    cases hstale : isStale fs m with
    | error e =>
        rw [hstale] at h
        cases h
    | ok found =>
        rw [hstale] at h
        obtain rfl := Except.ok.inj h
        obtain ⟨hcomparable, hfound⟩ := isStale_eq_ok_iff.1 hstale
        refine ⟨hcomparable, ?_⟩
        cases found with
        | true => exact .inr ⟨hfound.1 rfl, rfl⟩
        | false => exact .inl ⟨by simpa using hfound, rfl⟩
  · rintro ⟨hcomparable, ⟨hcurrent, rfl⟩ | ⟨hstale, rfl⟩⟩
    · rw [isStale_eq_ok_iff.2 ⟨hcomparable, (by simpa using hcurrent : false = true ↔ _)⟩]
      rfl
    · rw [isStale_eq_ok_iff.2 ⟨hcomparable, (by simpa using hstale : true = true ↔ _)⟩]
      rfl

theorem mapM_staleOne_eq_ok_iff {found : List (Option Path)} :
    modules.mapM (fun m => (staleOne fs m).result) = .ok found ↔
      (∀ m ∈ modules, Comparable fs m) ∧
        List.Forall₂ (fun m stale => Current fs m ∧ stale = none ∨ ¬Current fs m ∧
          stale = some m.output) modules found := by
  rw [mapM_eq_ok_iff, ← List.forall₂_and_left]
  simp only [staleOne_eq_ok_iff]

theorem filterMap_of_forall₂ {found : List (Option Path)}
    (h : List.Forall₂ (fun m stale => Current fs m ∧ stale = none ∨ ¬Current fs m ∧
      stale = some m.output) modules found) :
    found.filterMap id = staleOutputs fs modules := by
  induction h with
  | nil => rfl
  | @cons m stale modules found hm _ ih =>
      obtain ⟨hcurrent, rfl⟩ | ⟨hstale, rfl⟩ := hm
      · rw [staleOutputs_of_current hcurrent, ← ih, List.filterMap_cons_none rfl]
      · rw [staleOutputs_of_stale hstale, ← ih]
        rfl

theorem check_eq_ok_iff {stale : List Path} :
    (check fs s g).result = .ok stale ↔
      ∃ modules, (renderAll fs s g).result = .ok modules ∧ (∀ m ∈ modules, Comparable fs m) ∧
        stale = staleOutputs fs modules := by
  simp only [check, Logged.result_bind, Logged.result_mapM, Logged.result_pure, bind_eq_ok_iff, Except.ok.injEq,
    mapM_staleOne_eq_ok_iff]
  constructor
  · rintro ⟨modules, hmodules, found, ⟨hcomparable, hfound⟩, rfl⟩
    exact ⟨modules, hmodules, hcomparable, filterMap_of_forall₂ hfound⟩
  · rintro ⟨modules, hmodules, hcomparable, rfl⟩
    have hexists : ∀ m ∈ modules, ∃ stale, Current fs m ∧ stale = none ∨ ¬Current fs m ∧ stale = some m.output := by
      intro m _
      by_cases hcurrent : Current fs m
      · exact ⟨none, .inl ⟨hcurrent, rfl⟩⟩
      · exact ⟨some m.output, .inr ⟨hcurrent, rfl⟩⟩
    obtain ⟨found, hfound⟩ := exists_forall₂_iff.2 hexists
    exact ⟨modules, hmodules, found, ⟨hcomparable, hfound⟩, filterMap_of_forall₂ hfound⟩

theorem map_input_of_renderAll (h : (renderAll fs s g).result = .ok modules) :
    modules.map Rendered.input = inputs s := by
  have hinputs := (renderAll_eq_ok_iff.1 h).imp fun p m hm => (render_eq_ok hm).1.symm
  rw [← List.forall₂_map_right_iff, List.forall₂_eq_eq_eq] at hinputs
  exact hinputs.symm

/-- The files of modules and their sources are apart: no module goes where a source is, and modules that go to one place
have one text. Paths are compared by the places that they lead to. -/
structure Apart (fs : FileSystem) (modules : List Rendered) : Prop where
  outputs : ∀ m ∈ modules, ∀ n ∈ modules, fs.target m.output = fs.target n.output → m.content = n.content
  sources : ∀ m ∈ modules, ∀ n ∈ modules, fs.locate m.input ≠ fs.target n.output

/-- Modules take the place of nothing that a later run reads: neither of sources nor of the marks of packages, which are
read unless the settings give a name. -/
structure Undisturbed (fs : FileSystem) (s : Settings) (modules : List Rendered) : Prop extends Apart fs modules where
  marks : s.sourceModule = none → ∀ m ∈ modules, m.output.name = "__init__.py" → fs.isFile m.output = .ok true

theorem generate_eq_ok_iff :
    (generate sys fs s g).outcome.result = .ok modules ↔
      (renderAll fs s g).result = .ok modules ∧
        (writeAll sys s.overwriteUnmarked fs modules).outcome.result = .ok () := by
  cases hrender : (renderAll fs s g).result with
  | error e => simp [(generate_of_render_error sys hrender).2]
  | ok rendered =>
      rw [(generate_of_render_ok sys hrender).2, Except.ok.injEq]
      constructor
      · intro h
        cases hwrite : (writeAll sys s.overwriteUnmarked fs rendered).outcome.result with
        | error e =>
            rw [hwrite] at h
            cases h
        | ok _ =>
            rw [hwrite] at h
            obtain rfl := Except.ok.inj h
            exact ⟨rfl, hwrite⟩
      · rintro ⟨rfl, hwrite⟩
        rw [hwrite]
        rfl

theorem leaves_of_generate (h : (generate sys fs s g).outcome.result = .ok modules) :
    Leaves fs (generate sys fs s g).files modules := by
  obtain ⟨hrender, hwrite⟩ := generate_eq_ok_iff.1 h
  rw [(generate_of_render_ok sys hrender).1]
  exact leaves_of_writeAll (renderAll_eq_ok hrender) hwrite

theorem node?_of_apart (h : Leaves fs after modules) (hapart : Apart fs modules) (hm : m ∈ modules)
    {place : Place} (htarget : fs.target m.output = .ok place) :
    after.node? place = some (.file (Text.encodeUtf8 m.content)) := by
  rw [h.nodes, nodeAfter]
  cases hlast : lastAt fs modules place with
  | none =>
      rw [lastAt, List.find?_eq_none] at hlast
      exact absurd htarget (by simpa using hlast m (List.mem_reverse.2 hm))
  | some n =>
      obtain ⟨hn, htarget'⟩ := mem_of_lastAt hlast
      rw [hapart.outputs m hm n hn (htarget.trans htarget'.symm)]

theorem read_congr {place : Place} (hbefore : fs.locate p = .ok place) (hafter : after.locate p = .ok place)
    (hnode : after.node? place = fs.node? place) : after.readText p = fs.readText p := by
  have hbytes : after.read p = fs.read p := by
    rw [FileSystem.read, FileSystem.read, hbefore, hafter]
    simp only [hnode]
  rw [readText, readText, readUtf8, readUtf8, hbytes]

theorem readText_source (h : Leaves fs after modules) (hapart : Apart fs modules) (hm : m ∈ modules)
    {text : String} (hread : fs.readText m.input = .ok text) : after.readText m.input = fs.readText m.input := by
  obtain ⟨place, bytes, hlocate, hnode⟩ := readText_eq_ok hread
  have hkept : after.node? place = fs.node? place := by
    refine h.node?_eq fun n hn htarget => ?_
    exact hapart.sources m hm n hn (hlocate.trans htarget.symm)
  refine read_congr hlocate (h.same.locate hlocate ?_) hkept
  rw [hkept, hnode]
  rfl

theorem isPackage_eq (h : Leaves fs after modules)
    (hmarks : ∀ m ∈ modules, m.output.name = "__init__.py" → fs.isFile m.output = .ok true) (directory : Place) :
    after.isPackage directory = fs.isPackage directory := by
  have hname : (⟨"/", directory ++ ["__init__.py"]⟩ : Path).name = "__init__.py" := by simp [Path.name]
  have hends : endsInName ⟨"/", directory ++ ["__init__.py"]⟩ = true := by
    rw [endsInName, hname]
    decide
  refine h.same.isFile hends fun place htarget => ?_
  by_cases htaken : ∃ m ∈ modules, fs.target m.output = .ok place
  · obtain ⟨m, hm, hmtarget⟩ := htaken
    obtain ⟨own, hown⟩ := h.takes m hm
    obtain ⟨-, -, above, -, -, hplace⟩ := target_eq_ok hends htarget
    obtain ⟨-, -, mabove, -, -, hmplace⟩ := target_eq_ok hown.named hmtarget
    have hmark : m.output.name = "__init__.py" := by
      rw [hname, hmplace] at hplace
      exact (List.append_inj' hplace rfl).2 |> List.singleton_inj.1
    obtain ⟨there, bytes, hlocate, hbytes⟩ := isFile_eq_true_iff.1 (hmarks m hm hmark)
    have hsame := ((locate_eq_ok_iff_target hown.named).1 hlocate).1
    rw [hmtarget] at hsame
    obtain rfl := Except.ok.inj hsame
    refine iff_of_true ?_ ⟨bytes, hbytes⟩
    rw [h.nodes, nodeAfter]
    cases lastAt fs modules place with
    | none => exact ⟨bytes, hbytes⟩
    | some n => exact ⟨_, rfl⟩
  · rw [h.node?_eq fun m hm hmtarget => htaken ⟨m, hm, hmtarget⟩]

theorem packages_congr (h : ∀ directory, after.isPackage directory = fs.isPackage directory) (names : List String) :
    after.packages names = fs.packages names := by
  induction names with
  | nil => rw [packages, packages, h]
  | cons name above ih => rw [packages, packages, h, ih]

theorem importName_eq (h : Leaves fs after modules) (hundisturbed : Undisturbed fs s modules) (p : Path) :
    Generation.importName after s p = Generation.importName fs s p := by
  unfold Generation.importName
  cases hname : s.sourceModule with
  | some name => rfl
  | none =>
      have hresolve : after.resolve p = fs.resolve p := by
        rw [FileSystem.resolve, FileSystem.resolve, absolute, absolute, h.same.start_eq]
      have hpackages := packages_congr (isPackage_eq h (hundisturbed.marks hname))
      simp only [FileSystem.importName, hresolve, hpackages]

theorem statements_congr (h : after.readText p = fs.readText p) : statements after p = statements fs p := by
  unfold statements
  rw [h]

theorem renderAll_again (h : Leaves fs after modules) (hundisturbed : Undisturbed fs s modules)
    (hrender : (renderAll fs s g).result = .ok modules) :
    (Generation.renderAll after s g).result = .ok modules := by
  have hsame : ∀ p ∈ inputs s, (render after s g p).result = (render fs s g p).result := by
    intro p hp
    obtain ⟨m, hm, hp⟩ := exists_of_forall₂ (renderAll_eq_ok_iff.1 hrender) hp
    obtain ⟨rfl, ⟨text, htext⟩, -⟩ := render_eq_ok hp
    have hstatements := statements_congr (readText_source h hundisturbed.toApart hm htext)
    have hname := importName_eq h hundisturbed m.input
    simp only [render, declarations, hstatements, hname]
  rw [Generation.renderAll, Logged.result_mapM] at hrender ⊢
  rw [mapM_congr hsame, hrender]

theorem startsWith_emitModule {module : Declaration.Module} {records : List Domain.Record} {variant : Generated.Variant}
    {code : String} (h : Generated.emitModule module records variant = .ok code) :
    Text.startsWith code Generated.marker = true := by
  obtain ⟨program, -, rfl⟩ := GeneratedProgram.exists_program h
  rw [TextPieces.startsWith_iff, Generated.Program.text, Generated.moduleText, Generated.unlines, Generated.header]
  simp only [List.cons_append, List.map_cons, String.join_cons, String.append_assoc]
  exact ⟨_, rfl⟩

/-- The file of a module is in its place, with the mark on its first line. -/
structure Settled (fs : FileSystem) (m : Rendered) : Prop where
  held : ∃ place, Takes fs m.output m.content place ∧ fs.node? place = some (.file (Text.encodeUtf8 m.content))
  lineEnds : '\r' ∉ m.content.toList
  marked : Text.startsWith m.content Generated.marker = true

theorem Settled.mono (h : Settled fs m) (hsame : SameDirectories fs after)
    (hnodes : ∀ place, after.node? place = fs.node? place) : Settled after m := by
  obtain ⟨place, htakes, hnode⟩ := h.held
  exact ⟨⟨place, htakes.mono hsame, (hnodes place).trans hnode⟩, h.lineEnds, h.marked⟩

theorem Settled.read (h : Settled fs m) :
    ∃ place, fs.locate m.output = .ok place ∧ fs.node? place = some (.file (Text.encodeUtf8 m.content)) ∧
      fs.readText m.output = .ok m.content := by
  obtain ⟨place, htakes, hnode⟩ := h.held
  have hlocate : fs.locate m.output = .ok place :=
    (locate_eq_ok_iff_target htakes.named).2 ⟨htakes.target, by rw [hnode]; rfl⟩
  exact ⟨place, hlocate, hnode, readText_encoded hlocate hnode h.lineEnds⟩

theorem Settled.current (h : Settled fs m) : Current fs m := by
  obtain ⟨place, hlocate, hnode, htext⟩ := h.read
  exact ⟨isFile_eq_true_iff.2 ⟨place, _, hlocate, hnode⟩, htext⟩

theorem Settled.mayWrite (h : Settled fs m) (overwrite : Bool) :
    FilePlaces.mayWrite fs m.output overwrite = .ok true := by
  obtain ⟨place, hlocate, hnode, htext⟩ := h.read
  have hpresent : fs.isPresent m.output = .ok true := by
    rw [isPresent, at?, hlocate]
    simp [hnode, Except.map]
  rw [FilePlaces.mayWrite, hpresent]
  cases overwrite with
  | true => rfl
  | false =>
      have hmark := isMarked_of_readText htext
      rw [h.marked] at hmark
      exact hmark

theorem Settled.install {lots : List Lot} (h : Settled fs m) (hfree : HasFree lots fs m.output) (overwrite : Bool) :
    ∃ after, Generated.install (.obliging lots) fs m.output m.content overwrite = ⟨after, none⟩ ∧
      SameDirectories fs after ∧
      ∀ place, after.node? place = fs.node? place := by
  obtain ⟨place, htakes, hnode⟩ := h.held
  refine ⟨_, install_obliging_eq_none hfree (h.mayWrite overwrite) htakes, htakes.sameDirectories _, ?_⟩
  intro other
  rw [node?_put htakes.ne_nil]
  by_cases hother : other = place
  · rw [if_pos hother, hother, hnode]
  · rw [if_neg hother]

theorem Settled.hasFree {lots : List Lot} (h : Settled fs m) (hsame : SameDirectories fs after)
    (hnodes : ∀ place, after.node? place = fs.node? place) (hfree : HasFree lots fs m.output) :
    HasFree lots after m.output := by
  obtain ⟨place, htakes, -⟩ := h.held
  have hdirectory := isDirectory_of_target htakes.named htakes.target
  obtain ⟨directory, hlocate, hnode⟩ := isDirectory_iff.1 hdirectory
  obtain ⟨lot, hlot, hempty⟩ := hfree fs directory (createDirectories_of_isDirectory hdirectory) hlocate
  exact hasFree_of_isDirectory (hsame.isDirectory hdirectory) (hsame.locate_directory hlocate hnode) hlot
    ((hnodes _).trans hempty)

theorem writeAll_settled {lots : Nat → List Lot} (overwrite : Bool) (h : ∀ m ∈ modules, Settled fs m)
    (hfree : ∀ n, ∀ m ∈ modules, HasFree (lots n) fs m.output) :
    (writeAll (fun n => .obliging (lots n)) overwrite fs modules).outcome.result = .ok () ∧
      ∀ place, (writeAll (fun n => .obliging (lots n)) overwrite fs modules).files.node? place = fs.node? place := by
  induction modules generalizing lots fs with
  | nil => exact ⟨rfl, fun place => rfl⟩
  | cons m rest ih =>
      obtain ⟨hm, hrest⟩ := List.forall_mem_cons.1 h
      obtain ⟨after, hinstall, hsame, hnodes⟩ := hm.install (hfree 0 m List.mem_cons_self) overwrite
      obtain ⟨hfiles, hresult⟩ := writeAll_cons_of_none (fun n => .obliging (lots n)) rest hinstall
      obtain ⟨hok, hleft⟩ := ih (fun n hn => (hrest n hn).mono hsame hnodes) fun k n hn =>
        (hrest n hn).hasFree hsame hnodes (hfree (k + 1) n (List.mem_cons_of_mem _ hn))
      rw [hfiles, hresult]
      exact ⟨hok, fun place => (hleft place).trans (hnodes place)⟩

theorem staleOutputs_eq_nil (h : ∀ m ∈ modules, Current fs m) : staleOutputs fs modules = [] := by
  rw [staleOutputs, List.map_eq_nil_iff, List.filter_eq_nil_iff]
  intro m hm
  simpa using h m hm

def KeepsMark (s : Settings) (m : Rendered) : Prop :=
  ∀ code, (laidOut s m.output code).result = .ok m.content → Text.startsWith code Generated.marker = true →
    Text.startsWith m.content Generated.marker = true

theorem settled_of_generate (h : (generate sys fs s g).outcome.result = .ok modules) (hapart : Apart fs modules)
    (hlines : ∀ m ∈ modules, '\r' ∉ m.content.toList) (hmarks : ∀ m ∈ modules, KeepsMark s m) :
    ∀ m ∈ modules, Settled (generate sys fs s g).files m := by
  intro m hm
  have hleaves := leaves_of_generate h
  obtain ⟨place, htakes⟩ := hleaves.takes m hm
  refine ⟨⟨place, htakes.mono hleaves.same, node?_of_apart hleaves hapart hm htakes.target⟩, hlines m hm, ?_⟩
  obtain ⟨p, -, hp⟩ := exists_of_forall₂ (renderAll_eq_ok_iff.1 (generate_eq_ok_iff.1 h).1).flip hm
  obtain ⟨-, -, -, module, code, hcode, hlayout⟩ := render_eq_ok hp
  exact hmarks m hm code hlayout (startsWith_emitModule hcode)

/-- A check takes the files in the order of their paths and gives those whose module is missing or differs, provided
that every module that is there can be read. After a run that has written over nothing that it read, a check gives
none. Another run, for which the system refuses nothing and finds names for new files, writes the same modules,
whether or not it may overwrite, and changes nothing. -/
theorem generate_again (sys : Nat → System) (fs : FileSystem) (s : Settings) (g : Registry) :
    (∀ stale, (check fs s g).result = .ok stale ↔
      ∃ modules, (renderAll fs s g).result = .ok modules ∧ (∀ m ∈ modules, Comparable fs m) ∧
        stale = staleOutputs fs modules) ∧
    (∀ modules, (renderAll fs s g).result = .ok modules → modules.map Rendered.input = inputs s) ∧
    ((inputs s).Perm (s.inputFiles.map Path.ofText) ∧ (inputs s).Pairwise fun p q => p.keys ≤ q.keys) ∧
    ∀ modules, (generate sys fs s g).outcome.result = .ok modules → Undisturbed fs s modules →
      (∀ m ∈ modules, '\r' ∉ m.content.toList) → (∀ m ∈ modules, KeepsMark s m) →
        (check (generate sys fs s g).files s g).result = .ok [] ∧
          ∀ (lots : Nat → List Lot) (overwrite : Bool),
            (∀ n, ∀ m ∈ modules, HasFree (lots n) (generate sys fs s g).files m.output) →
              let again := generate (fun n => .obliging (lots n)) (generate sys fs s g).files
                { s with overwriteUnmarked := overwrite } g
              again.outcome.result = .ok modules ∧
                ∀ place, again.files.node? place = (generate sys fs s g).files.node? place := by
  refine ⟨fun stale => check_eq_ok_iff, fun modules => map_input_of_renderAll, ⟨inputs_perm s, inputs_pairwise s⟩, ?_⟩
  intro modules h hundisturbed hlines hmarks
  have hsettled := settled_of_generate h hundisturbed.toApart hlines hmarks
  have hrender := renderAll_again (leaves_of_generate h) hundisturbed (generate_eq_ok_iff.1 h).1
  refine ⟨?_, fun lots overwrite hfree => ?_⟩
  · refine check_eq_ok_iff.2 ⟨modules, hrender, fun m hm => ?_, (staleOutputs_eq_nil fun m hm => ?_).symm⟩
    · obtain ⟨hfile, htext⟩ := (hsettled m hm).current
      exact .inr ⟨hfile, _, htext⟩
    · exact (hsettled m hm).current
  · obtain ⟨hwrite, hnodes⟩ := writeAll_settled overwrite hsettled hfree
    have hagain : (renderAll (generate sys fs s g).files { s with overwriteUnmarked := overwrite } g).result =
        .ok modules :=
      hrender
    refine ⟨generate_eq_ok_iff.2 ⟨hagain, hwrite⟩, ?_⟩
    rw [(generate_of_render_ok _ hagain).1]
    exact hnodes

theorem generate_of_inputs {place : Place} (hinputs : inputs s = [p]) (hrender : (render fs s g p).result = .ok m)
    (hmay : mayWrite fs m.output s.overwriteUnmarked = .ok true) (htakes : Takes fs m.output m.content place)
    (hfree : HasFree [.blank] fs m.output) :
    (generate (fun _ => .plain) fs s g).outcome.result = .ok [m] ∧
      (generate (fun _ => .plain) fs s g).files = fs.put place (.file (Text.encodeUtf8 m.content)) := by
  have hall : (renderAll fs s g).result = .ok [m] := by
    rw [renderAll_eq_ok_iff, hinputs]
    exact .cons hrender .nil
  obtain ⟨hfiles, hresult⟩ :=
    writeAll_cons_of_none (fun _ => .plain) [] (install_obliging_eq_none hfree hmay htakes)
  refine ⟨generate_eq_ok_iff.2 ⟨hall, hresult⟩, ?_⟩
  rw [(generate_of_render_ok _ hall).1]
  exact hfiles

def loneFiles (source : String) : FileSystem where
  workingDirectory := ["w"]
  nodes := [(["w"], .directory), (["w", source], .file (Text.encodeUtf8 "class Input:0\n"))]

def loneSettings (source suffix : String) : Settings where
  inputFiles := [source]
  outputSuffix := suffix
  formatOutput := false

theorem inputs_lone (source suffix : String) : inputs (loneSettings source suffix) = [Path.ofText source] := by
  simp [inputs, loneSettings]

theorem keepsMark_of_unformatted (h : s.formatOutput = false) (m : Rendered) : KeepsMark s m := by
  intro code hcode hmark
  simp only [laidOut, h, Bool.not_false, if_true, Logged.result_pure, Except.ok.injEq] at hcode
  rw [← hcode]
  exact hmark

theorem exists_lone (source suffix target : String) (hpath : Path.ofText source = ⟨"", [source]⟩)
    (hplain : ((render (loneFiles source) (loneSettings source suffix) .standard ⟨"", [source]⟩).result.toOption.map
      fun m => isPlain m.content) = some true)
    (houtput : Generated.outputPath ⟨"", [source]⟩ suffix = .ok ⟨"", [target]⟩)
    (hmay : mayWrite (loneFiles source) ⟨"", [target]⟩ false = .ok true)
    (hfree : HasFree [.blank] (loneFiles source) ⟨"", [target]⟩)
    (htakes : ∀ content, Text.halfFault? Text.isHalf content = none →
      Takes (loneFiles source) ⟨"", [target]⟩ content ["w", target]) :
    ∃ m, (render (loneFiles source) (loneSettings source suffix) .standard ⟨"", [source]⟩).result = .ok m ∧
      (m.input = ⟨"", [source]⟩ ∧ m.output = ⟨"", [target]⟩ ∧ isPlain m.content = true) ∧
        (generate (fun _ => .plain) (loneFiles source) (loneSettings source suffix) .standard).outcome.result =
          .ok [m] ∧
          (generate (fun _ => .plain) (loneFiles source) (loneSettings source suffix) .standard).files =
            (loneFiles source).put ["w", target] (.file (Text.encodeUtf8 m.content)) := by
  cases hrender : (render (loneFiles source) (loneSettings source suffix) .standard ⟨"", [source]⟩).result with
  | error e =>
      rw [hrender] at hplain
      cases hplain
  | ok m =>
      have hcontent : isPlain m.content = true := by
        rw [hrender] at hplain
        exact Option.some.inj hplain
      obtain ⟨hinput, -, hbeside, -⟩ := render_eq_ok hrender
      have hm : m.output = ⟨"", [target]⟩ := Except.ok.inj (hbeside.symm.trans houtput)
      have hinputs := inputs_lone source suffix
      rw [hpath] at hinputs
      have hwrites := htakes m.content (halfFault?_of_isPlain hcontent)
      rw [← hm] at hmay hwrites hfree
      exact ⟨m, rfl, ⟨hinput, hm, hcontent⟩, generate_of_inputs hinputs hrender hmay hwrites hfree⟩

theorem hasFree_working {directory : Place} {target : String} (hstart : fs.workingDirectory = directory)
    (hnode : fs.node? directory = some .directory)
    (hfree : fs.node? (directory ++ [Lot.blank.nameFor ⟨"", [target]⟩]) = none) :
    HasFree [.blank] fs ⟨"", [target]⟩ := by
  have hlocate : fs.locate ⟨"", []⟩ = .ok directory := locate_eq_ok_iff.2 ⟨by decide +kernel, congrArg Except.ok hstart⟩
  exact hasFree_of_isDirectory (isDirectory_iff.2 ⟨directory, hlocate, hnode⟩) hlocate (List.mem_singleton_self _) hfree

theorem apart_singleton (hsource : fs.locate m.input ≠ fs.target m.output) : Apart fs [m] := by
  constructor
  · rintro a ha b hb -
    rw [List.mem_singleton.1 ha, List.mem_singleton.1 hb]
  · intro a ha b hb
    rw [List.mem_singleton.1 ha, List.mem_singleton.1 hb]
    exact hsource

theorem lone_generate_again :
    ∃ m, let ran := generate (fun _ => .plain) (loneFiles "a.py") (loneSettings "a.py" "_gen") .standard
      ran.outcome.result = .ok [m] ∧ Undisturbed (loneFiles "a.py") (loneSettings "a.py" "_gen") [m] ∧
        '\r' ∉ m.content.toList ∧ KeepsMark (loneSettings "a.py" "_gen") m ∧ HasFree [.blank] ran.files m.output ∧
          (check ran.files (loneSettings "a.py" "_gen") .standard).result = .ok [] ∧
            (generate (fun _ => .plain) ran.files (loneSettings "a.py" "_gen") .standard).outcome.result = .ok [m] := by
  obtain ⟨m, -, ⟨hinput, houtput, hplain⟩, hresult, hfiles⟩ := exists_lone "a.py" "_gen" "a_gen.py"
    (by decide +kernel) (by decide +kernel) (by decide +kernel) rfl (hasFree_working rfl rfl (by decide +kernel))
    (fun content h => ⟨rfl, by decide +kernel, by decide +kernel, by decide +kernel, h⟩)
  have hundisturbed : Undisturbed (loneFiles "a.py") (loneSettings "a.py" "_gen") [m] := by
    refine ⟨apart_singleton ?_, fun _ n hn hname => ?_⟩
    · rw [hinput, houtput]
      decide +kernel
    · rw [List.mem_singleton.1 hn, houtput] at hname
      exact absurd hname (by decide)
  have hlines := not_mem_of_isPlain hplain
  have hmark : KeepsMark (loneSettings "a.py" "_gen") m := keepsMark_of_unformatted rfl m
  have hfree : HasFree [.blank]
      (generate (fun _ => .plain) (loneFiles "a.py") (loneSettings "a.py" "_gen") .standard).files m.output := by
    rw [hfiles, houtput]
    exact hasFree_working rfl rfl rfl
  obtain ⟨-, -, -, hagain⟩ := generate_again (fun _ => .plain) (loneFiles "a.py") (loneSettings "a.py" "_gen") .standard
  obtain ⟨hcheck, hruns⟩ := hagain [m] hresult hundisturbed (by simpa using hlines) (by simpa using hmark)
  exact ⟨m, hresult, hundisturbed, hlines, hmark, hfree, hcheck,
    (hruns (fun _ => [.blank]) false (by simpa using hfree)).1⟩

def markValue : Value :=
  .dict [(.text "input_files", .list [.text "__init.py"]), (.text "output_suffix", .text "__"),
    (.text "format_output", .bool false)]

/-- Whether the module for a source is the same once it is in its place. -/
def isRepeated : Except Failure Bool := do
  let m ← (render (loneFiles "__init.py") (loneSettings "__init.py" "__") .standard ⟨"", ["__init.py"]⟩).result
  let files := (loneFiles "__init.py").put ["w", "__init__.py"] (.file (Text.encodeUtf8 m.content))
  let n ← (render files (loneSettings "__init.py" "__") .standard ⟨"", ["__init.py"]⟩).result
  return Text.encodeUtf8 m.content = Text.encodeUtf8 n.content

theorem content_ne_of_repeated {m n : Rendered}
    (hm : (render (loneFiles "__init.py") (loneSettings "__init.py" "__") .standard ⟨"", ["__init.py"]⟩).result = .ok m)
    (hn : (render ((loneFiles "__init.py").put ["w", "__init__.py"] (.file (Text.encodeUtf8 m.content)))
      (loneSettings "__init.py" "__") .standard ⟨"", ["__init.py"]⟩).result = .ok n) : m.content ≠ n.content := by
  intro hsame
  have hrepeated : isRepeated = .ok true := by
    refine bind_eq_ok_iff.2 ⟨m, hm, bind_eq_ok_iff.2 ⟨n, hn, ?_⟩⟩
    simp [hsame, pure, Except.pure]
  have hother : isRepeated.toOption = some false := by decide +kernel
  rw [hrepeated] at hother
  cases hother

/-- A run that makes the directory of its source a package changes the name of the source, and its check fails. -/
theorem check_may_differ_after_generate :
    ¬∀ sys fs v s g modules, Settings.parse v = .ok s → (generate sys fs s g).outcome.result = .ok modules →
      Apart fs modules →
      (∀ m ∈ modules, '\r' ∉ m.content.toList) → (∀ m ∈ modules, KeepsMark s m) →
        (check (generate sys fs s g).files s g).result = .ok [] := by
  intro hall
  have hparsed : (Settings.parse markValue).toOption = some (loneSettings "__init.py" "__") := by decide +kernel
  have haccepted : Settings.parse markValue = .ok (loneSettings "__init.py" "__") := by
    cases hparse : Settings.parse markValue with
    | error e => simp [hparse, Except.toOption] at hparsed
    | ok s => simpa [hparse, Except.toOption] using hparsed
  obtain ⟨m, hrender, ⟨hinput, houtput, hplain⟩, hresult, hfiles⟩ := exists_lone "__init.py" "__" "__init__.py"
    (by decide +kernel) (by decide +kernel) (by decide +kernel) rfl (hasFree_working rfl rfl (by decide +kernel))
    (fun content h => ⟨rfl, by decide +kernel, by decide +kernel, by decide +kernel, h⟩)
  have hapart : Apart (loneFiles "__init.py") [m] := by
    refine apart_singleton ?_
    rw [hinput, houtput]
    decide +kernel
  have hlines : ∀ m' ∈ [m], '\r' ∉ m'.content.toList := by simpa using not_mem_of_isPlain hplain
  have hmarks : ∀ m' ∈ [m], KeepsMark (loneSettings "__init.py" "__") m' :=
    fun m' _ => keepsMark_of_unformatted rfl m'
  have hcheck := hall _ _ _ _ _ _ haccepted hresult hapart hlines hmarks
  obtain ⟨place, -, -, htext⟩ := (settled_of_generate hresult hapart hlines hmarks m (by simp)).read
  -- The check would read the module of the first run where it renders another.
  obtain ⟨modules, hmodules, -, hstale⟩ := check_eq_ok_iff.1 hcheck
  rw [renderAll_eq_ok_iff, inputs_lone] at hmodules
  obtain ⟨n, rest, hn, -, rfl⟩ := List.forall₂_cons_left_iff.1 hmodules
  have houtputs : n.output = m.output :=
    Except.ok.inj ((render_eq_ok hn).2.2.1.symm.trans (render_eq_ok hrender).2.2.1)
  have hcurrent : Current (generate (fun _ => .plain) (loneFiles "__init.py")
      (loneSettings "__init.py" "__") .standard).files n := by
    by_contra hold
    rw [staleOutputs_of_stale hold] at hstale
    cases hstale
  have hsame : m.content = n.content := by
    have hread := hcurrent.2
    rw [houtputs, htext] at hread
    exact Except.ok.inj hread
  rw [hfiles] at hn
  exact content_ne_of_repeated hrender hn hsame

end Vetted.Proofs.RepeatedGeneration
