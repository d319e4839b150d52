import Vetted.Generated.Installation
import Vetted.Proofs.FilePlaces

namespace Vetted.Proofs.InstalledFile

open FilePlaces FileSystem Generated Sequence

variable {sys : System} {fs after made : FileSystem} {place beside : Place} {p : Path} {content : String}
  {overwrite : Bool}

/-- A file system with more directories and the same files. -/
structure Grows (fs after : FileSystem) : Prop where
  start : after.workingDirectory = fs.workingDirectory
  files : SameFiles fs after
  directory : ∀ place, fs.node? place = some .directory → after.node? place = some .directory

/-- All files are as they were, but for one place. -/
def SameElsewhere (fs after : FileSystem) (place : Place) : Prop :=
  ∀ other ≠ place, ∀ bytes, after.node? other = some (.file bytes) ↔ fs.node? other = some (.file bytes)

/-- The target holds the text, and all other files are as they were. -/
structure Holds (fs : FileSystem) (p : Path) (content : String) (after : FileSystem) (place : Place) : Prop where
  located : after.locate p = .ok place
  text : after.node? place = some (.file (Text.encodeUtf8 content))
  others : SameElsewhere fs after place

/-- One new file is there, and all other files are as they were. -/
def Strays (fs after : FileSystem) : Prop :=
  ∃ beside bytes, fs.node? beside = none ∧ after.node? beside = some (.file bytes) ∧ SameElsewhere fs after beside

/-- The failures that the system does not report once the file beside the target is there. -/
inductive Unreported (p : Path) (content : String) : Failure → Prop where
  | content {fault : Text.HalfFault} (half : Text.halfFault? Text.isHalf content = some fault) :
      Unreported p content (.unencodable fault)
  | target {kind : FileFaultKind} (hidden : kind.isReported = false) (flaw : flaw? p = some kind) :
      Unreported p content (.fileFault ⟨kind, temporaryName, some p.text⟩)

/-- At some point the system does not let a new file be removed. -/
def Sticks (sys : System) : Prop :=
  ∃ fs, (sys.refusal? fs .lookBeside).isSome = true ∨ (sys.refusal? fs .remove).isSome = true

def IsBeside (fs : FileSystem) (p : Path) (beside : Place) : Prop :=
  ∃ directory, fs.locate p.parent = .ok directory ∧ ∃ lot : Lot, beside = directory ++ [lot.nameFor p]

def IsTree (fs : FileSystem) : Prop :=
  ∀ place name, (fs.node? (place ++ [name])).isSome = true → fs.node? place = some .directory

theorem Grows.refl (fs : FileSystem) : Grows fs fs := ⟨rfl, fun _ _ => Iff.rfl, fun _ h => h⟩

theorem Grows.trans {last : FileSystem} (h : Grows fs after) (h' : Grows after last) : Grows fs last where
  start := h'.start.trans h.start
  files := fun place bytes => (h'.files place bytes).trans (h.files place bytes)
  directory := fun place hnode => h'.directory place (h.directory place hnode)

theorem Grows.put_directory (hplace : place ≠ []) (hfree : fs.node? place = none) :
    Grows fs (fs.put place .directory) := by
  refine ⟨rfl, ?_, ?_⟩
  · intro other bytes
    rw [node?_put hplace]
    by_cases hother : other = place
    · subst hother
      simp [hfree]
    · rw [if_neg hother]
  · intro other hnode
    rw [node?_put hplace]
    by_cases hother : other = place
    · rw [if_pos hother]
    · rw [if_neg hother, hnode]

theorem Grows.isSome (h : Grows fs after) (hnode : (fs.node? place).isSome = true) :
    (after.node? place).isSome = true := by
  obtain ⟨node, hnode⟩ := Option.isSome_iff_exists.1 hnode
  cases node with
  | file bytes => rw [(h.files place bytes).2 hnode]; rfl
  | directory => rw [h.directory place hnode]; rfl

theorem Grows.follow (h : Grows fs after) {here there : Place} {parts : List String}
    (hfollow : fs.follow here parts = .ok there) : after.follow here parts = .ok there := by
  induction parts generalizing here with
  | nil => exact hfollow
  | cons part rest ih =>
      rw [follow_cons_eq_ok_iff] at hfollow ⊢
      obtain ⟨hhere, hstep⟩ := hfollow
      refine ⟨h.directory here hhere, ?_⟩
      by_cases hup : part = ".."
      · rw [if_pos hup] at hstep ⊢
        exact ih hstep
      · rw [if_neg hup] at hstep ⊢
        obtain ⟨hshort, hfound, hrest⟩ := hstep
        exact ⟨hshort, h.isSome hfound, ih hrest⟩

theorem Grows.locate (h : Grows fs after) (hlocate : fs.locate p = .ok place) : after.locate p = .ok place := by
  obtain ⟨hflaw, hfollow⟩ := locate_eq_ok_iff.1 hlocate
  refine locate_eq_ok_iff.2 ⟨hflaw, ?_⟩
  rw [FileSystem.start, h.start]
  exact h.follow hfollow

theorem Grows.isDirectory (h : Grows fs after) (hdirectory : fs.isDirectory p = true) : after.isDirectory p = true := by
  obtain ⟨place, hlocate, hnode⟩ := isDirectory_iff.1 hdirectory
  exact isDirectory_iff.2 ⟨place, h.locate hlocate, h.directory place hnode⟩

theorem createDirectory_eq_ok (h : fs.createDirectory p = .ok made) :
    ∃ place, fs.target p = .ok place ∧ place ≠ [] ∧ fs.node? place = none ∧ made = fs.put place .directory := by
  rw [createDirectory] at h
  split at h
  · cases h
  · rename_i place htarget
    split at h
    · cases h
    · rename_i hfree
      have hnone : fs.node? place = none := by simpa using hfree
      refine ⟨place, htarget, ?_, hnone, (Except.ok.inj h).symm⟩
      rintro rfl
      cases hnone

theorem locate_eq_target (h : endsInName p = false) : fs.locate p = fs.target p := by
  rw [FileSystem.target, h]
  cases hflaw : flaw? p with
  | some kind => simp [FileSystem.locate, hflaw]
  | none => simp

theorem target_of_directory {directory : Place} (hends : endsInName p = true) (hflaw : flaw? p = none)
    (hshort : p.name.utf8ByteSize ≤ maxName) (hlocate : fs.locate p.parent = .ok directory)
    (hnode : fs.node? directory = some .directory) : fs.target p = .ok (directory ++ [p.name]) := by
  rw [FileSystem.target, hflaw]
  simp [hends, hlocate, hnode, Nat.not_lt.2 hshort, bind, Except.bind]

/-- What comes of making a directory with those above it. -/
structure Made (fs : FileSystem) (p : Path) (result : FileSystem × Option FileFault) : Prop where
  grows : Grows fs result.1
  there : result.2 = none → result.1.isDirectory p = true
  fault : ∀ fault, result.2 = some fault → fault.target = none

theorem made_of_createDirectory (h : fs.createDirectory p = .ok made) : Made fs p (made, none) := by
  obtain ⟨place, htarget, hplace, hfree, rfl⟩ := createDirectory_eq_ok h
  have hgrows : Grows fs (fs.put place .directory) := .put_directory hplace hfree
  have hnode : (fs.put place .directory).node? place = some .directory := by
    rw [node?_put hplace, if_pos rfl]
  refine ⟨hgrows, fun _ => isDirectory_iff.2 ⟨place, ?_, hnode⟩, by simp⟩
  cases hends : endsInName p with
  | false => exact hgrows.locate ((locate_eq_target hends).trans htarget)
  | true =>
      obtain ⟨hflaw, hshort, directory, hlocate, hdirectory, rfl⟩ := target_eq_ok hends htarget
      have hmade := target_of_directory hends hflaw hshort (hgrows.locate hlocate) (hgrows.directory _ hdirectory)
      exact (locate_eq_ok_iff_target hends).2 ⟨hmade, by rw [hnode]; rfl⟩

theorem createDirectory_fault {fault : FileFault} (h : fs.createDirectory p = .error fault) : fault.target = none := by
  rw [createDirectory] at h
  split at h
  · obtain rfl := Except.error.inj h
    rfl
  · split at h
    · obtain rfl := Except.error.inj h
      rfl
    · cases h

theorem ask_fault {call : Call} {path : String} {target : Option String} {fault : FileFault}
    (h : sys.ask fs call path target = .error fault) :
    fault.target = target ∧ fault.kind.isReported = true ∧ (sys.refusal? fs call).isSome = true := by
  rw [System.ask] at h
  split at h
  · rename_i hrefusal
    obtain rfl := Except.error.inj h
    exact ⟨rfl, rfl, by rw [hrefusal]; rfl⟩
  · cases h

theorem ask_ne_hidden {call : Call} {path : String} {target : Option String} {fault : FileFault}
    (h : sys.ask fs call path target = .error fault) : fault.kind.isReported ≠ false := by
  rw [(ask_fault h).2.1]
  simp

theorem makeDirectory_eq_ok (h : makeDirectory sys fs p = .ok made) : fs.createDirectory p = .ok made := by
  obtain ⟨-, -, hmade⟩ := bind_eq_ok_iff.1 h
  exact hmade

theorem makeDirectory_fault {fault : FileFault} (h : makeDirectory sys fs p = .error fault) : fault.target = none := by
  obtain hask | ⟨-, -, hfault⟩ := bind_eq_error_iff.1 h
  · exact (ask_fault hask).1
  · exact createDirectory_fault hfault

theorem made_settled (sys : System) (fs : FileSystem) (p : Path) :
    Made fs p (kept fs (fs.settled p (makeDirectory sys fs p))) := by
  cases htried : makeDirectory sys fs p with
  | ok made => exact made_of_createDirectory (makeDirectory_eq_ok htried)
  | error fault =>
      rw [settled]
      split
      · rename_i hthere
        rw [Bool.and_eq_true] at hthere
        exact ⟨.refl fs, fun _ => hthere.2, by simp [kept]⟩
      · refine ⟨.refl fs, by simp [kept], ?_⟩
        rintro fault' hfault
        obtain rfl := Option.some.inj hfault
        exact makeDirectory_fault htried

theorem made_makeDirectories (sys : System) (root : String) (fs : FileSystem) (names : List String) :
    Made fs ⟨root, names.reverse⟩ (makeDirectories sys root fs names) := by
  induction names with
  | nil =>
      rw [makeDirectories]
      split
      · rename_i fault hfault
        split
        · refine ⟨.refl fs, by simp [kept], ?_⟩
          rintro fault' hkept
          obtain rfl := Option.some.inj hkept
          exact makeDirectory_fault hfault
        · rw [← hfault]
          exact made_settled sys fs _
      · rename_i made hmade
        exact made_of_createDirectory (makeDirectory_eq_ok hmade)
  | cons name above ih =>
      rw [makeDirectories]
      split
      · rename_i made hmade
        exact made_of_createDirectory (makeDirectory_eq_ok hmade)
      · rename_i fault hfault
        split
        · split
          · rename_i made habove
            rw [habove] at ih
            -- The second try starts from what making the directories above left.
            have hlast := made_settled sys made ⟨root, (name :: above).reverse⟩
            exact ⟨ih.grows.trans hlast.grows, hlast.there, hlast.fault⟩
          · rename_i made fault' habove
            rw [habove] at ih
            exact ⟨ih.grows, by simp, ih.fault⟩
        · rw [← hfault]
          exact made_settled sys fs _

theorem makeDirectory_of_isDirectory (sys : System) (h : fs.isDirectory p = true) :
    ∃ fault, makeDirectory sys fs p = .error fault ∧ fault.kind ≠ .missing := by
  obtain ⟨place, hlocate, hnode⟩ := isDirectory_iff.1 h
  have hmade : fs.createDirectory p = .error ⟨.exists, p.text, none⟩ := by
    rw [createDirectory, target_of_locate hlocate]
    simp [hnode]
  rw [makeDirectory, System.ask]
  cases sys.refusal? fs (.makeDirectory p) with
  | some refusal => exact ⟨_, rfl, FileFaultKind.noConfusion⟩
  | none => exact ⟨_, hmade, FileFaultKind.noConfusion⟩

theorem makeDirectories_of_isDirectory {root : String} {names : List String}
    (h : fs.isDirectory ⟨root, names.reverse⟩ = true) : makeDirectories sys root fs names = (fs, none) := by
  obtain ⟨fault, hfault, hother⟩ := makeDirectory_of_isDirectory sys h
  have hsettled : fs.settled ⟨root, names.reverse⟩ (.error fault) = .ok fs := by simp [settled, h, hother]
  cases names with
  | nil =>
      rw [List.reverse_nil] at hfault hsettled
      simp only [makeDirectories, hfault, if_neg hother, hsettled, kept]
  | cons name above => simp only [makeDirectories, hfault, if_neg hother, hsettled, kept]

theorem filter_of_free {nodes : List (Place × Node)} (h : nodes.lookup place = none) :
    nodes.filter (·.1 ≠ place) = nodes := by
  refine List.filter_eq_self.2 fun n hn => ?_
  have hother : place ≠ n.1 := by simpa using List.lookup_eq_none_iff.1 h n hn
  exact decide_eq_true hother.symm

theorem erase_put (hplace : place ≠ []) (hfree : fs.node? place = none) (node : Node) :
    (fs.put place node).erase place = fs := by
  have hlookup : fs.nodes.lookup place = none := by
    rwa [node?, if_neg (by simpa using hplace)] at hfree
  have hput : ((place, node) :: fs.nodes.filter (·.1 ≠ place)).filter (·.1 ≠ place) = fs.nodes := by
    rw [List.filter_cons_of_neg (by simp), filter_of_free hlookup, filter_of_free hlookup]
  rw [erase, put, hput]

theorem IsBeside.ne_nil (h : IsBeside fs p beside) : beside ≠ [] := by
  obtain ⟨directory, -, lot, rfl⟩ := h
  simp

theorem openBeside_eq_ok (h : openBeside sys fs p = .ok beside) :
    IsBeside fs p beside ∧ fs.node? beside = none ∧ fs.temporaryFault? p = none := by
  rw [openBeside] at h
  split at h
  · cases h
  · rename_i hfits
    obtain ⟨-, -, h⟩ := bind_eq_ok_iff.1 h
    obtain ⟨directory, hlocate, h⟩ := bind_eq_ok_iff.1 h
    split at h
    · rename_i lot hlot
      obtain rfl := Except.ok.inj h
      exact ⟨⟨directory, mapError_eq_ok_iff.1 hlocate, lot, rfl⟩, by simpa using List.find?_some hlot, hfits⟩
    · cases h

theorem openBeside_fault {fault : FileFault} (h : openBeside sys fs p = .error fault) : fault.target = none := by
  rw [openBeside] at h
  split at h
  · rename_i fault' hfault
    obtain rfl := Except.error.inj h
    rw [temporaryFault?] at hfault
    split at hfault
    · obtain rfl := Option.some.inj hfault
      rfl
    · obtain ⟨-, hfault⟩ := Option.ite_none_right_eq_some.1 hfault
      obtain rfl := Option.some.inj hfault
      rfl
  · obtain hask | ⟨-, -, h⟩ := bind_eq_error_iff.1 h
    · exact (ask_fault hask).1
    · obtain hlocate | ⟨directory, -, h⟩ := bind_eq_error_iff.1 h
      · obtain ⟨kind, -, rfl⟩ := mapError_eq_error_iff.1 hlocate
        rfl
      · split at h
        · cases h
        · obtain rfl := Except.error.inj h
          rfl

theorem target_hidden {kind : FileFaultKind} (hhidden : kind.isReported = false) (h : fs.target p = .error kind) :
    flaw? p = some kind := by
  cases hends : endsInName p with
  | false =>
      rw [← locate_eq_target hends] at h
      exact (locate_eq_hidden_iff fs hhidden).1 h
  | true =>
      rw [FileSystem.target, if_pos hends] at h
      split at h
      · rename_i hflaw
        obtain rfl := Except.error.inj h
        exact hflaw
      · rename_i hflaw
        obtain hlocate | ⟨directory, -, h⟩ := bind_eq_error_iff.1 h
        · have hparent := (locate_eq_hidden_iff fs hhidden).1 hlocate
          rw [flaw?_parent hflaw] at hparent
          cases hparent
        · split at h
          · split at h
            · obtain rfl := Except.error.inj h
              cases hhidden
            · cases h
          · obtain rfl := Except.error.inj h
            cases hhidden

theorem replace_hidden {bytes : List UInt8} {fault : FileFault} (hhidden : fault.kind.isReported = false)
    (h : fs.replace p bytes = .error fault) : flaw? p = some fault.kind ∧
      fault = ⟨fault.kind, temporaryName, some p.text⟩ := by
  rw [replace] at h
  split at h
  · rename_i kind htarget
    obtain rfl := Except.error.inj h
    exact ⟨target_hidden hhidden htarget, rfl⟩
  · split at h
    · obtain rfl := Except.error.inj h
      cases hhidden
    · split at h
      · obtain rfl := Except.error.inj h
        cases hhidden
      · cases h

theorem moveIn_eq_ok {bytes : List UInt8} (hbeside : beside ≠ []) (hfree : fs.node? beside = none)
    (h : moveIn sys fs beside p bytes = .ok after) : fs.replace p bytes = .ok after := by
  obtain ⟨-, -, h⟩ := bind_eq_ok_iff.1 h
  obtain ⟨-, -, h⟩ := bind_eq_ok_iff.1 h
  obtain ⟨moved, hmoved, h⟩ := bind_eq_ok_iff.1 h
  obtain ⟨-, -, h⟩ := bind_eq_ok_iff.1 h
  obtain rfl := pure_eq_ok_iff.1 h
  rwa [erase_put hbeside hfree] at hmoved

theorem moveIn_hidden {bytes : List UInt8} {fault : FileFault} (hbeside : beside ≠ []) (hfree : fs.node? beside = none)
    (hhidden : fault.kind.isReported = false) (h : moveIn sys fs beside p bytes = .error fault) :
    flaw? p = some fault.kind ∧ fault = ⟨fault.kind, temporaryName, some p.text⟩ := by
  obtain h | ⟨-, -, h⟩ := bind_eq_error_iff.1 h
  · exact absurd hhidden (ask_ne_hidden h)
  obtain h | ⟨-, -, h⟩ := bind_eq_error_iff.1 h
  · exact absurd hhidden (ask_ne_hidden h)
  obtain h | ⟨moved, -, h⟩ := bind_eq_error_iff.1 h
  · rw [erase_put hbeside hfree] at h
    exact replace_hidden hhidden h
  obtain h | ⟨-, -, h⟩ := bind_eq_error_iff.1 h
  · exact absurd hhidden (ask_ne_hidden h)
  · cases h

theorem not_unreported_of_target {fault : FileFault} (h : fault.target = none) :
    ¬Unreported p content (.fileFault fault) := by
  rintro ⟨⟩
  cases h

theorem mayWrite_of_mayInstall (h : mayInstall sys fs p overwrite = .ok true) : mayWrite fs p overwrite = .ok true := by
  obtain ⟨-, -, h⟩ := bind_eq_ok_iff.1 h
  obtain ⟨present, hpresent, h⟩ := bind_eq_ok_iff.1 h
  refine bind_eq_ok_iff.2 ⟨present, hpresent, ?_⟩
  split at h
  · rename_i hunguarded
    rw [if_pos hunguarded]
    rfl
  · rename_i hguarded
    rw [if_neg hguarded]
    split at h
    · exact h
    · cases h

theorem mayInstall_failure {failure : Failure} (h : mayInstall sys fs p overwrite = .error failure) :
    ¬Unreported p content failure := by
  obtain hlook | ⟨-, -, h⟩ := bind_eq_error_iff.1 h
  · obtain ⟨fault, hfault, rfl⟩ := mapError_eq_error_iff.1 hlook
    exact not_unreported_of_target (ask_fault hfault).1
  obtain hpresent | ⟨present, hpresent, h⟩ := bind_eq_error_iff.1 h
  · obtain ⟨fault, hfault, rfl⟩ := mapError_eq_error_iff.1 hpresent
    obtain ⟨-, rfl⟩ := isPresent_eq_error_iff.1 hfault
    exact not_unreported_of_target rfl
  split at h
  · cases h
  · rename_i hguarded
    obtain ⟨rfl, -⟩ : present = true ∧ overwrite = false := by simpa using hguarded
    obtain ⟨place, hlocate, -⟩ := isPresent_eq_true_iff.1 (mapError_eq_ok_iff.1 hpresent)
    split at h
    · obtain ⟨-, fault, -, -, rfl⟩ := (isMarked_eq_error_iff hlocate).1 h
      rintro ⟨⟩
    · cases h

/-- What an installation can come to. Where the directory of the path is there, nothing is made on the way. -/
inductive Course (sys : System) (fs : FileSystem) (p : Path) (content : String) (overwrite : Bool) :
    Installed → Prop where
  | stopped {made : FileSystem} {failure : Failure} (grows : Grows fs made)
      (same : fs.isDirectory p.parent = true → made = fs) (cleared : ¬Unreported p content failure) :
      Course sys fs p content overwrite ⟨made, some failure⟩
  | stranded {made : FileSystem} {beside : Place} {bytes : List UInt8} {failure : Failure} (grows : Grows fs made)
      (same : fs.isDirectory p.parent = true → made = fs) (drawn : IsBeside made p beside)
      (free : made.node? beside = none) (strands : Unreported p content failure ∨ Sticks sys) :
      Course sys fs p content overwrite ⟨made.put beside (.file bytes), some failure⟩
  | moved {made : FileSystem} {place : Place} (may : mayWrite fs p overwrite = .ok true) (grows : Grows fs made)
      (same : fs.isDirectory p.parent = true → made = fs) (takes : Takes made p content place) :
      Course sys fs p content overwrite ⟨made.put place (.file (Text.encodeUtf8 content)), none⟩

theorem course_withdraw {bytes : List UInt8} {fault : FileFault} (hgrows : Grows fs made)
    (hsame : fs.isDirectory p.parent = true → made = fs) (hbeside : IsBeside made p beside)
    (hfree : made.node? beside = none) (hreported : fault.kind.isReported = true) :
    Course sys fs p content overwrite (withdraw sys (made.put beside (.file bytes)) beside p fault) := by
  rw [withdraw]
  split
  · rename_i refused hrefused
    exact .stranded hgrows hsame hbeside hfree (.inr ⟨_, .inl (ask_fault hrefused).2.2⟩)
  · split
    · rename_i refused hrefused
      exact .stranded hgrows hsame hbeside hfree (.inr ⟨_, .inr (ask_fault hrefused).2.2⟩)
    · rw [erase_put hbeside.ne_nil hfree, unwritable, if_pos hreported]
      exact .stopped hgrows hsame (by rintro ⟨⟩)

theorem course_installBeside (hmay : mayWrite fs p overwrite = .ok true) (hgrows : Grows fs made)
    (hsame : fs.isDirectory p.parent = true → made = fs) (hbeside : IsBeside made p beside)
    (hfree : made.node? beside = none) (hfits : made.temporaryFault? p = none) :
    Course sys fs p content overwrite (installBeside sys made beside p content) := by
  rw [installBeside]
  split
  · rename_i fault hhalf
    exact .stranded hgrows hsame hbeside hfree (.inl (.content hhalf))
  · rename_i hhalf
    simp only
    split
    · rename_i moved hmoved
      obtain ⟨place, htarget, hnamed, hnode, rfl⟩ := replace_eq_ok (moveIn_eq_ok hbeside.ne_nil hfree hmoved)
      exact .moved hmay hgrows hsame ⟨htarget, hnamed, hnode, hfits, hhalf⟩
    · rename_i fault hfault
      cases hreported : fault.kind.isReported with
      | true =>
          rw [if_pos rfl]
          exact course_withdraw hgrows hsame hbeside hfree hreported
      | false =>
          obtain ⟨hflaw, hhidden⟩ := moveIn_hidden hbeside.ne_nil hfree hreported hfault
          rw [if_neg (by simp), unwritable, if_neg (by simp [hreported]), hhidden]
          exact .stranded hgrows hsame hbeside hfree (.inl (.target hreported hflaw))

theorem course_install (sys : System) (fs : FileSystem) (p : Path) (content : String) (overwrite : Bool) :
    Course sys fs p content overwrite (install sys fs p content overwrite) := by
  rw [install]
  split
  · rename_i failure hfailure
    exact .stopped (.refl fs) (fun _ => rfl) (mayInstall_failure hfailure)
  · exact .stopped (.refl fs) (fun _ => rfl) (by rintro ⟨⟩)
  · rename_i hmay
    have hmade := made_makeDirectories sys p.root fs p.parent.parts.reverse
    have hsame : ∀ result, makeDirectories sys p.root fs p.parent.parts.reverse = result →
        fs.isDirectory p.parent = true → result.1 = fs := by
      rintro result rfl hdirectory
      rw [makeDirectories_of_isDirectory (by rw [List.reverse_reverse]; exact hdirectory)]
    split
    · rename_i made fault hresult
      rw [hresult] at hmade
      exact .stopped hmade.grows (hsame _ hresult) (not_unreported_of_target (hmade.fault fault rfl))
    · rename_i made hresult
      rw [hresult] at hmade
      split
      · rename_i fault hfault
        exact .stopped hmade.grows (hsame _ hresult) (not_unreported_of_target (openBeside_fault hfault))
      · rename_i beside hopen
        obtain ⟨hbeside, hfree, hfits⟩ := openBeside_eq_ok hopen
        exact course_installBeside (mayWrite_of_mayInstall hmay) hmade.grows (hsame _ hresult) hbeside hfree hfits

theorem install_eq_none (hdirectory : fs.isDirectory p.parent = true)
    (h : install sys fs p content overwrite = ⟨after, none⟩) :
    mayWrite fs p overwrite = .ok true ∧
      ∃ place, Takes fs p content place ∧ after = fs.put place (.file (Text.encodeUtf8 content)) := by
  have hcourse := course_install sys fs p content overwrite
  rw [h] at hcourse
  cases hcourse with
  | @moved made place may grows same takes =>
      obtain rfl := same hdirectory
      exact ⟨may, place, takes, rfl⟩

theorem install_eq_some {e : Failure} (hdirectory : fs.isDirectory p.parent = true)
    (h : install sys fs p content overwrite = ⟨after, some e⟩) :
    ¬Unreported p content e ∧ after = fs ∨
      (Unreported p content e ∨ Sticks sys) ∧ ∃ beside bytes, IsBeside fs p beside ∧ fs.node? beside = none ∧
        after = fs.put beside (.file bytes) := by
  have hcourse := course_install sys fs p content overwrite
  rw [h] at hcourse
  cases hcourse with
  | stopped grows same cleared => exact .inl ⟨cleared, same hdirectory⟩
  | @stranded made beside bytes failure grows same drawn free strands =>
      obtain rfl := same hdirectory
      exact .inr ⟨strands, beside, bytes, drawn, free, rfl⟩

theorem marker_ascii : ∀ c ∈ marker.toList, c.toNat < 0x80 ∧ c ≠ '\x00' := by
  have hall : (marker.toList.all fun c => c.toNat < 0x80 && c != '\x00') = true := by decide
  intro c hc
  simpa using List.all_eq_true.1 hall c hc

theorem mark_of_isMarked {old : List UInt8} (hlocate : fs.locate p = .ok place)
    (hnode : fs.node? place = some (.file old))
    (h : isMarked fs p = .ok true) : Text.encodeUtf8 marker <+: old := by
  have hread : fs.read p = .ok old := read_eq_ok_iff.2 ⟨place, hlocate, hnode⟩
  have hmarker : Text.encodeUtf8 marker = marker.toList.map fun c => UInt8.ofNat c.toNat := by decide
  rw [hmarker]
  delta isMarked at h
  rw [readStart, hread] at h
  cases hstart : Text.decodeStart old with
  | error fault => simp [Except.mapError, bind, Except.bind, hstart] at h
  | ok start =>
      refine DecodedPieces.prefix_of_decodeStart marker_ascii hstart ?_
      simpa [Except.mapError, bind, Except.bind, hstart] using h

theorem mark_of_mayWrite {old : List UInt8} (hlocate : fs.locate p = .ok place)
    (hnode : fs.node? place = some (.file old))
    (h : mayWrite fs p overwrite = .ok true) : overwrite = true ∨ Text.encodeUtf8 marker <+: old := by
  obtain ⟨present, hpresent, h⟩ := bind_eq_ok_iff.1 h
  split at h
  · rename_i hunguarded
    have hthere : fs.isPresent p = .ok true := isPresent_eq_true_iff.2 ⟨place, hlocate, by rw [hnode]; rfl⟩
    rw [hthere] at hpresent
    obtain rfl := Except.ok.inj hpresent
    exact .inl (by simpa using hunguarded)
  · exact .inr (mark_of_isMarked hlocate hnode h)

theorem IsTree.directory (h : IsTree fs) {here : Place} {rest : List String}
    (hnode : fs.node? (here ++ rest) = some .directory) : fs.node? here = some .directory := by
  induction rest generalizing here with
  | nil => simpa using hnode
  | cons name rest ih =>
      rw [List.append_cons] at hnode
      exact h here name (by rw [ih hnode]; rfl)

theorem follow_eq_append {here there : Place} {parts : List String} (hup : ".." ∉ parts)
    (h : fs.follow here parts = .ok there) : there = here ++ parts := by
  induction parts generalizing here with
  | nil => simpa [FileSystem.follow] using h.symm
  | cons part rest ih =>
      obtain ⟨hpart, hrest⟩ := not_or.1 (mt List.mem_cons.2 hup)
      rw [follow_cons_eq_ok_iff, if_neg (Ne.symm hpart)] at h
      simpa using ih hrest h.2.2.2

theorem IsTree.follow (h : IsTree fs) {here there : Place} {parts : List String} (hup : ".." ∉ parts)
    (hmade : made.follow here parts = .ok there) (hnode : fs.node? there = some .directory) :
    fs.follow here parts = .ok there := by
  induction parts generalizing here with
  | nil => exact hmade
  | cons part rest ih =>
      -- Without ways up every place on the way stands above the directory, so it is a directory before as after.
      obtain rfl := follow_eq_append hup hmade
      obtain ⟨hpart, hrest⟩ := not_or.1 (mt List.mem_cons.2 hup)
      have hhere := h.directory hnode
      rw [List.append_cons] at hnode
      have hnext := h.directory hnode
      rw [follow_cons_eq_ok_iff, if_neg (Ne.symm hpart)] at hmade ⊢
      obtain ⟨-, hshort, -, hmade⟩ := hmade
      exact ⟨hhere, hshort, by rw [hnext]; rfl, ih hrest hmade⟩

theorem goes_up_of_missing (htree : IsTree fs) (hnamed : endsInName p = true) (hgrows : Grows fs made)
    (htarget : made.target p = .ok place) (hnode : (fs.node? place).isSome = true)
    (hmissing : fs.isDirectory p.parent = false) : ".." ∈ p.parts := by
  obtain ⟨hflaw, -, directory, hlocate, -, rfl⟩ := target_eq_ok hnamed htarget
  by_contra hup
  have hparent : ".." ∉ p.parent.parts := fun hmem => hup ((List.dropLast_sublist p.parts).subset hmem)
  have hdirectory := htree directory p.name hnode
  obtain ⟨hparentFlaw, hfollow⟩ := locate_eq_ok_iff.1 hlocate
  rw [FileSystem.start, hgrows.start] at hfollow
  have hfound : fs.locate p.parent = .ok directory :=
    locate_eq_ok_iff.2 ⟨hparentFlaw, htree.follow hparent hfollow hdirectory⟩
  rw [isDirectory_iff.2 ⟨directory, hfound, hdirectory⟩] at hmissing
  cases hmissing

theorem replaced {old : List UInt8} (hmay : mayWrite fs p overwrite = .ok true) (hgrows : Grows fs made)
    (htarget : made.target p = .ok place) (hnamed : endsInName p = true) (hnode : fs.node? place = some (.file old)) :
    overwrite = true ∨ Text.encodeUtf8 marker <+: old ∨
      (fs.isDirectory p.parent = false ∧ (IsTree fs → ".." ∈ p.parts)) := by
  cases hdirectory : fs.isDirectory p.parent with
  | false =>
      refine .inr (.inr ⟨rfl, fun htree => ?_⟩)
      exact goes_up_of_missing htree hnamed hgrows htarget (by rw [hnode]; rfl) hdirectory
  | true =>
      obtain ⟨directory, hlocate, hthere⟩ := isDirectory_iff.1 hdirectory
      obtain ⟨hflaw, hshort, made', hmade, -, rfl⟩ := target_eq_ok hnamed htarget
      -- The path leads where it led before, so the file that is replaced is the one that was looked at.
      obtain rfl : made' = directory := by simpa [hmade] using hgrows.locate hlocate
      have hbefore := target_of_directory hnamed hflaw hshort hlocate hthere
      have hfound : fs.locate p = .ok (made' ++ [p.name]) :=
        (locate_eq_ok_iff_target hnamed).2 ⟨hbefore, by rw [hnode]; rfl⟩
      exact (mark_of_mayWrite hfound hnode hmay).imp_right .inl

/-- The files or the failure, without what a failure leaves behind. -/
def outcome {ε : Type} (files : FileSystem) : Option ε → Except ε FileSystem
  | none => .ok files
  | some failure => .error failure

def HasFree (lots : List Lot) (fs : FileSystem) (p : Path) : Prop :=
  ∀ made directory, fs.createDirectories p.parent = .ok made → made.locate p.parent = .ok directory →
    ∃ lot ∈ lots, made.node? (directory ++ [lot.nameFor p]) = none

variable {lots : List Lot}

theorem outcome_kept (fs : FileSystem) (result : Except FileFault FileSystem) :
    outcome (kept fs result).1 (kept fs result).2 = result := by
  cases result <;> rfl

theorem makeDirectories_obliging (lots : List Lot) (root : String) (fs : FileSystem) (names : List String) :
    outcome (makeDirectories (.obliging lots) root fs names).1 (makeDirectories (.obliging lots) root fs names).2 =
      fs.createDirectories ⟨root, names.reverse⟩ := by
  have hasked : ∀ fs p, makeDirectory (.obliging lots) fs p = fs.createDirectory p := fun _ _ => rfl
  induction names with
  | nil =>
      rw [makeDirectories, createDirectories, hasked]
      cases hmade : fs.createDirectory ⟨root, []⟩ with
      | ok made => simp [hmade, outcome]
      | error fault =>
          simp only [List.reverse_nil, hmade, outcome_kept]
          split <;> rfl
  | cons name above ih =>
      rw [makeDirectories, createDirectories, hasked]
      cases hmade : fs.createDirectory ⟨root, (name :: above).reverse⟩ with
      | ok made => simp [outcome]
      | error fault =>
          have hparent : Path.parent ⟨root, (name :: above).reverse⟩ = ⟨root, above.reverse⟩ := by simp [Path.parent]
          simp only [hparent, ← ih]
          split
          · rw [dif_neg (by simp)]
            rcases makeDirectories (.obliging lots) root fs above with ⟨made, _ | fault'⟩
            · exact outcome_kept _ _
            · rfl
          · exact outcome_kept _ _

theorem moveIn_obliging {bytes : List UInt8} (hbeside : beside ≠ []) (hfree : fs.node? beside = none) :
    moveIn (.obliging lots) fs beside p bytes = fs.replace p bytes := by
  have hasked : moveIn (.obliging lots) fs beside p bytes =
      ((fs.put beside (.file bytes)).erase beside).replace p bytes >>= pure := rfl
  rw [hasked, erase_put hbeside hfree, bind_pure]

theorem installBeside_obliging (hbeside : beside ≠ []) (hfree : fs.node? beside = none) :
    outcome (installBeside (.obliging lots) fs beside p content).files
        (installBeside (.obliging lots) fs beside p content).failure? =
      match Text.halfFault? Text.isHalf content with
      | some fault => .error (.unencodable fault)
      | none => (fs.replace p (Text.encodeUtf8 content)).mapError (unwritable p) := by
  rw [installBeside]
  cases Text.halfFault? Text.isHalf content with
  | some fault => rfl
  | none =>
      rw [moveIn_obliging hbeside hfree]
      cases fs.replace p (Text.encodeUtf8 content) with
      | ok moved => rfl
      | error fault =>
          simp only
          split <;> rfl

theorem openBeside_obliging (hfits : fs.temporaryFault? p = none) {directory : Place}
    (hlocate : fs.locate p.parent = .ok directory)
    (hfree : ∃ lot ∈ lots, fs.node? (directory ++ [lot.nameFor p]) = none) :
    ∃ beside, openBeside (.obliging lots) fs p = .ok beside := by
  obtain ⟨lot, hlot, hnode⟩ := hfree
  have hfound : (lots.find? fun lot => (fs.node? (directory ++ [lot.nameFor p])).isNone).isSome = true :=
    List.find?_isSome.2 ⟨lot, hlot, by rw [hnode]; rfl⟩
  obtain ⟨drawn, hdrawn⟩ := Option.isSome_iff_exists.1 hfound
  refine ⟨directory ++ [drawn.nameFor p], ?_⟩
  rw [openBeside, hfits, hlocate]
  simp [System.ask, System.obliging, Except.mapError, bind, Except.bind, hdrawn]

theorem install_obliging (hfree : HasFree lots fs p) :
    outcome (install (.obliging lots) fs p content overwrite).files
        (install (.obliging lots) fs p content overwrite).failure? = write fs p content overwrite := by
  have hmay : mayInstall (.obliging lots) fs p overwrite = mayWrite fs p overwrite := rfl
  rw [install, write, hmay]
  rcases mayWrite fs p overwrite with failure | (_ | _)
  · rfl
  · rfl
  · have hmade := made_makeDirectories (.obliging lots) p.root fs p.parent.parts.reverse
    have hresult := makeDirectories_obliging lots p.root fs p.parent.parts.reverse
    have hparent : (⟨p.root, p.parent.parts.reverse.reverse⟩ : Path) = p.parent := by
      rw [List.reverse_reverse]
      rfl
    rw [hparent] at hmade hresult
    generalize makeDirectories (.obliging lots) p.root fs p.parent.parts.reverse = result at hmade hresult ⊢
    rw [← hresult]
    obtain ⟨made, _ | fault⟩ := result
    · obtain ⟨directory, hlocate, -⟩ := isDirectory_iff.1 (hmade.there rfl)
      have hdrawn := hfree made directory hresult.symm hlocate
      cases hfits : made.temporaryFault? p with
      | some fault => simp [openBeside, hfits, outcome, Except.mapError, bind, Except.bind]
      | none =>
          obtain ⟨beside, hopen⟩ := openBeside_obliging hfits hlocate hdrawn
          obtain ⟨hbeside, hempty, -⟩ := openBeside_eq_ok hopen
          simp only [hopen, installBeside_obliging hbeside.ne_nil hempty]
          simp only [outcome, Except.mapError, bind, Except.bind, hfits, if_true]
          cases Text.halfFault? Text.isHalf content <;> rfl
    · rfl

theorem hasFree_of_isDirectory {directory : Place} {lot : Lot} (hdirectory : fs.isDirectory p.parent = true)
    (hlocate : fs.locate p.parent = .ok directory) (hlot : lot ∈ lots)
    (hfree : fs.node? (directory ++ [lot.nameFor p]) = none) : HasFree lots fs p := by
  intro made there hmade hthere
  rw [createDirectories_of_isDirectory hdirectory] at hmade
  obtain rfl := Except.ok.inj hmade
  rw [hlocate] at hthere
  obtain rfl := Except.ok.inj hthere
  exact ⟨lot, hlot, hfree⟩

theorem install_obliging_eq_none (hfree : HasFree lots fs p) (hmay : mayWrite fs p overwrite = .ok true)
    (htakes : Takes fs p content place) :
    install (.obliging lots) fs p content overwrite = ⟨fs.put place (.file (Text.encodeUtf8 content)), none⟩ := by
  have hdirectory := isDirectory_of_target htakes.named htakes.target
  have hwrite := (write_eq_ok_iff hdirectory).2 ⟨hmay, place, htakes, rfl⟩
  rw [← install_obliging hfree] at hwrite
  generalize install (.obliging lots) fs p content overwrite = result at hwrite ⊢
  obtain ⟨files, _ | failure⟩ := result
  · rw [← Except.ok.inj hwrite]
  · cases hwrite

theorem install_of_unmarked (hmay : mayWrite fs p overwrite = .ok false) :
    install (.obliging lots) fs p content overwrite = ⟨fs, some (.unmarkedOutput p.text)⟩ := by
  have hasked : mayInstall (.obliging lots) fs p overwrite = .ok false := hmay
  rw [install, hasked]

theorem Grows.put_file (hgrows : Grows fs made) (hplace : place ≠ []) (bytes : List UInt8) :
    SameElsewhere fs (made.put place (.file bytes)) place := by
  intro other hother bytes'
  rw [node?_put hplace, if_neg hother]
  exact hgrows.files other bytes'

theorem strays_put {bytes : List UInt8} (hgrows : Grows fs made) (hbeside : beside ≠ [])
    (hfree : made.node? beside = none) :
    Strays fs (made.put beside (.file bytes)) := by
  refine ⟨beside, bytes, ?_, by rw [node?_put hbeside, if_pos rfl], hgrows.put_file hbeside bytes⟩
  by_contra hnode
  have hsome := hgrows.isSome (Option.isSome_iff_ne_none.2 hnode)
  rw [hfree] at hsome
  cases hsome

theorem holds_put (hgrows : Grows fs made) (htarget : made.target p = .ok place) (hnamed : endsInName p = true)
    (hfree : made.node? place ≠ some .directory) :
    Holds fs p content (made.put place (.file (Text.encodeUtf8 content))) place := by
  have hplace := target_ne_nil hnamed htarget
  have htext : (made.put place (.file (Text.encodeUtf8 content))).node? place =
      some (.file (Text.encodeUtf8 content)) := by
    rw [node?_put hplace, if_pos rfl]
  have hsame := SameDirectories.put_file hplace hfree (Text.encodeUtf8 content)
  refine ⟨?_, htext, hgrows.put_file hplace _⟩
  exact (locate_eq_ok_iff_target hnamed).2 ⟨(hsame.target_eq_ok_iff hnamed).2 htarget, by rw [htext]; rfl⟩

/-- An installation puts the text in its place and leaves all other files as they are, or it fails and leaves all
files as they are. One new file is left behind only by failures that the system does not report, or if it does not let
the file be removed. A file is replaced if it was to be overwritten or carried the mark, or if the directory of its
path was not there and the path goes up. -/
theorem install_effect (sys : System) (fs : FileSystem) (p : Path) (content : String) (overwrite : Bool) :
    ((∃ place, (install sys fs p content overwrite).failure? = none ∧
          Holds fs p content (install sys fs p content overwrite).files place ∧
          ∀ old, fs.node? place = some (.file old) → overwrite = true ∨ Text.encodeUtf8 marker <+: old ∨
            (fs.isDirectory p.parent = false ∧ (IsTree fs → ".." ∈ p.parts))) ∨
        ∃ failure, (install sys fs p content overwrite).failure? = some failure ∧
          ((¬Unreported p content failure ∧ SameFiles fs (install sys fs p content overwrite).files) ∨
            ((Unreported p content failure ∨ Sticks sys) ∧ Strays fs (install sys fs p content overwrite).files))) ∧
      ∀ lots, HasFree lots fs p →
        outcome (install (.obliging lots) fs p content overwrite).files
          (install (.obliging lots) fs p content overwrite).failure? = write fs p content overwrite := by
  refine ⟨?_, fun lots => install_obliging⟩
  have hcourse := course_install sys fs p content overwrite
  generalize install sys fs p content overwrite = result at hcourse ⊢
  cases hcourse with
  | stopped grows same cleared => exact .inr ⟨_, rfl, .inl ⟨cleared, grows.files⟩⟩
  | stranded grows same drawn free strands => exact .inr ⟨_, rfl, .inr ⟨strands, strays_put grows drawn.ne_nil free⟩⟩
  | moved may grows same takes =>
      exact .inl ⟨_, rfl, holds_put grows takes.target takes.named takes.free,
        fun old hnode => replaced may grows takes.target takes.named hnode⟩

/-- A path through a directory that is made on the way leads to a file that it did not lead to before. That file is
replaced, though it does not carry the mark and nothing said to overwrite it. -/
theorem unmarked_may_be_replaced :
    ¬∀ (sys : System) (fs : FileSystem) (p : Path) (content : String) (place : Place) (old : List UInt8),
      (install sys fs p content).files.locate p = .ok place → fs.node? place = some (.file old) →
      (install sys fs p content).files.node? place = some (.file old) ∨ Text.encodeUtf8 marker <+: old := by
  intro h
  have hreplaced := h (.obliging [⟨"aaaaaaaa".toList, rfl, by decide⟩]) ⟨[], [(["a.py"], .file [0x78])]⟩
    ⟨"", ["x", "..", "a.py"]⟩ "y" ["a.py"] [0x78] (by decide +kernel) (by decide +kernel)
  revert hreplaced
  decide +kernel

end Vetted.Proofs.InstalledFile
