import Vetted.Generated.Output
import Vetted.Proofs.DecodedPieces

namespace Vetted.Proofs.FilePlaces

open DecodedPieces FileSystem Sequence

variable {fs after : FileSystem} {place : Place} {p : Path} {e : Failure}

theorem lookup_filter_ne {nodes : List (Place × Node)} {other : Place} (h : other ≠ place) :
    (nodes.filter (·.1 ≠ place)).lookup other = nodes.lookup other := by
  induction nodes with
  | nil => rfl
  | cons n rest ih =>
      obtain ⟨held, node⟩ := n
      by_cases hheld : held = place
      · have hother : (other == held) = false := by simpa [hheld] using h
        rw [List.filter_cons_of_neg (by simpa using hheld), ih, List.lookup_cons, hother]
      · rw [List.filter_cons_of_pos (by simpa using hheld), List.lookup_cons, List.lookup_cons, ih]

theorem node?_put (hplace : place ≠ []) (node : Node) (other : Place) :
    (fs.put place node).node? other = if other = place then some node else fs.node? other := by
  by_cases hother : other = place
  · subst hother
    simp [node?, put, hplace]
  · have hne : (other == place) = false := by simpa using hother
    rw [if_neg hother, node?, node?, put, List.lookup_cons, hne]
    exact if_congr Iff.rfl rfl (lookup_filter_ne hother)

theorem intercalate_concat {xs : List String} (h : xs ≠ []) (x : String) :
    "/".intercalate (xs ++ [x]) = "/".intercalate xs ++ ("/" ++ x) := by
  rw [← String.toList_inj, String.toList_intercalate, String.toList_append, String.toList_intercalate,
    String.toList_append, List.map_append]
  generalize hxs : xs.map String.toList = ls
  have hls : ls ≠ [] := by simpa [← hxs] using h
  clear hxs
  induction ls with
  | nil => exact absurd rfl hls
  | cons l rest ih =>
      cases rest with
      | nil => simp
      | cons l' rest =>
          have htail := ih (by simp)
          simp only [List.cons_append, List.map_cons, List.map_nil] at htail ⊢
          rw [List.intercalate_cons_cons, List.intercalate_cons_cons, htail, List.append_assoc (l ++ _)]

theorem flaw?_eq_none_iff :
    flaw? p = none ↔ (∀ c ∈ p.text.toList, isBadHalf c = false) ∧ '\x00' ∉ p.text.toList ∧
      p.text.utf8ByteSize ≤ maxPath := by
  rw [flaw?]
  split
  case isTrue hbad =>
      obtain ⟨c, hc, hhalf⟩ := List.any_eq_true.1 hbad
      refine iff_of_false (by simp) fun h => ?_
      rw [h.1 c hc] at hhalf
      cases hhalf
  case isFalse hgood =>
      have hhalves : ∀ c ∈ p.text.toList, isBadHalf c = false := by simpa using hgood
      rw [and_iff_right hhalves]
      split
      case isTrue hnull => exact iff_of_false (by simp) fun h => h.1 (by simpa using hnull)
      case isFalse hnull =>
          rw [and_iff_right (by simpa using hnull)]
          split <;> simp_all

theorem text_eq_parent_append (hparts : p.parts ≠ []) (hparent : p.parent.text ≠ ".") :
    ∃ rest, p.text = p.parent.text ++ rest := by
  obtain ⟨root, parts⟩ := p
  obtain ⟨xs, x, rfl⟩ := (List.eq_nil_or_concat' parts).resolve_left hparts
  cases xs with
  | nil =>
      by_cases hroot : root.isEmpty = true
      · exact absurd (by simp [Path.parent, Path.text, hroot]) hparent
      · exact ⟨x, by simp [Path.parent, Path.text, hroot]⟩
  | cons y ys =>
      refine ⟨"/" ++ x, ?_⟩
      have hjoin := intercalate_concat (List.cons_ne_nil y ys) x
      simp only [Path.parent, Path.text, List.dropLast_concat, hjoin]
      simp [← String.append_assoc]

theorem flaw?_parent (h : flaw? p = none) : flaw? p.parent = none := by
  by_cases hparts : p.parts = []
  · have hself : p.parent = p := by
      obtain ⟨root, parts⟩ := p
      subst hparts
      rfl
    rw [hself, h]
  by_cases hparent : p.parent.text = "."
  · rw [flaw?_eq_none_iff, hparent]
    exact ⟨List.forall_mem_singleton.2 (by decide), by decide, by decide⟩
  obtain ⟨rest, htext⟩ := text_eq_parent_append hparts hparent
  obtain ⟨hhalves, hnull, hsize⟩ := flaw?_eq_none_iff.1 h
  rw [htext, String.toList_append] at hhalves hnull
  rw [htext, String.utf8ByteSize_append] at hsize
  exact flaw?_eq_none_iff.2 ⟨fun c hc => hhalves c (List.mem_append_left _ hc),
    fun hc => hnull (List.mem_append_left _ hc), by omega⟩

theorem follow_append (here : Place) (xs ys : List String) :
    fs.follow here (xs ++ ys) = fs.follow here xs >>= fun mid => fs.follow mid ys := by
  induction xs generalizing here with
  | nil => rfl
  | cons x xs ih =>
      rw [List.cons_append, follow, follow]
      split
      · rfl
      · rfl
      · split
        · exact ih _
        · split
          · rfl
          · split
            · exact ih _
            · rfl

theorem follow_cons_eq_ok_iff {here there : Place} {part : String} {rest : List String} :
    fs.follow here (part :: rest) = .ok there ↔
      fs.node? here = some .directory ∧
        if part = ".." then fs.follow here.dropLast rest = .ok there
        else part.utf8ByteSize ≤ maxName ∧ (fs.node? (here ++ [part])).isSome = true ∧
          fs.follow (here ++ [part]) rest = .ok there := by
  rw [follow]
  split
  · rename_i hnode
    simp [hnode]
  · rename_i hnode
    simp [hnode]
  · rename_i hnode
    simp only [hnode, true_and]
    split
    · rfl
    · split
      · rename_i hlong
        simp [Nat.not_le.2 hlong]
      · rename_i hshort
        split <;> simp_all

theorem follow_singleton {here there : Place} {part : String} (h : fs.follow here [part] = .ok there) :
    fs.node? here = some .directory ∧
      (part ≠ ".." → part.utf8ByteSize ≤ maxName ∧ there = here ++ [part] ∧ (fs.node? there).isSome = true) := by
  obtain ⟨hhere, hstep⟩ := follow_cons_eq_ok_iff.1 h
  refine ⟨hhere, fun hname => ?_⟩
  rw [if_neg hname] at hstep
  obtain ⟨hshort, hsome, hend⟩ := hstep
  obtain rfl := Except.ok.inj hend
  exact ⟨hshort, rfl, hsome⟩

theorem locate_eq_ok_iff : fs.locate p = .ok place ↔ flaw? p = none ∧ fs.follow (fs.start p) p.parts = .ok place := by
  rw [locate]
  split <;> simp_all

theorem dropLast_append_name (hparts : p.parts ≠ []) : p.parts.dropLast ++ [p.name] = p.parts := by
  have hname : p.name = p.parts.getLast hparts := by simp [Path.name, List.getLast?_eq_some_getLast hparts]
  rw [hname, List.dropLast_append_getLast]

theorem locate_parent (hparts : p.parts ≠ []) (h : fs.locate p = .ok place) :
    ∃ directory, fs.locate p.parent = .ok directory ∧ fs.node? directory = some .directory ∧
      (endsInName p = true → p.name.utf8ByteSize ≤ maxName ∧ place = directory ++ [p.name] ∧
        (fs.node? place).isSome = true) := by
  obtain ⟨hflaw, hfollow⟩ := locate_eq_ok_iff.1 h
  rw [← dropLast_append_name hparts, follow_append] at hfollow
  obtain ⟨directory, hdirectory, hstep⟩ := bind_eq_ok_iff.1 hfollow
  obtain ⟨hnode, hnamed⟩ := follow_singleton hstep
  refine ⟨directory, locate_eq_ok_iff.2 ⟨flaw?_parent hflaw, hdirectory⟩, hnode, fun hends => hnamed ?_⟩
  simp only [endsInName, Bool.and_eq_true, decide_eq_true_eq] at hends
  exact hends.2

theorem isDirectory_iff : fs.isDirectory p = true ↔ ∃ place, fs.locate p = .ok place ∧
    fs.node? place = some .directory := by
  rw [isDirectory]
  split <;> simp_all

theorem parts_ne_nil_of_endsInName (h : endsInName p = true) : p.parts ≠ [] := by
  intro hparts
  simp [endsInName, Path.name, hparts] at h

theorem target_of_locate (h : fs.locate p = .ok place) : fs.target p = .ok place := by
  have hflaw := (locate_eq_ok_iff.1 h).1
  rw [target, hflaw]
  by_cases hends : endsInName p = true
  · obtain ⟨directory, hdirectory, hnode, hnamed⟩ := locate_parent (parts_ne_nil_of_endsInName hends) h
    obtain ⟨hshort, rfl, -⟩ := hnamed hends
    have hlong : ¬maxName < p.name.utf8ByteSize := by omega
    simp [hends, hdirectory, hnode, hlong, bind, Except.bind]
  · simp [hends, h]

theorem createDirectories_of_isDirectory (h : fs.isDirectory p = true) : fs.createDirectories p = .ok fs := by
  obtain ⟨place, hlocate, hnode⟩ := isDirectory_iff.1 h
  have hmade : fs.createDirectory p = .error ⟨.exists, p.text, none⟩ := by
    rw [createDirectory, target_of_locate hlocate]
    simp [hnode]
  rw [createDirectories, hmade]
  simp [settled, h]

/-- No file is changed, made or removed. -/
def SameFiles (fs after : FileSystem) : Prop :=
  ∀ place bytes, after.node? place = some (.file bytes) ↔ fs.node? place = some (.file bytes)

/-- Two file systems with the same directories. -/
structure SameDirectories (fs after : FileSystem) : Prop where
  start : after.workingDirectory = fs.workingDirectory
  directory : ∀ place, after.node? place = some .directory ↔ fs.node? place = some .directory

theorem SameDirectories.refl (fs : FileSystem) : SameDirectories fs fs := ⟨rfl, fun _ => Iff.rfl⟩

theorem SameDirectories.trans {last : FileSystem} (h : SameDirectories fs after) (h' : SameDirectories after last) :
    SameDirectories fs last :=
  ⟨h'.start.trans h.start, fun place => (h'.directory place).trans (h.directory place)⟩

theorem SameDirectories.put_file (hplace : place ≠ []) (h : fs.node? place ≠ some .directory) (bytes : List UInt8) :
    SameDirectories fs (fs.put place (.file bytes)) := by
  refine ⟨rfl, fun other => ?_⟩
  rw [node?_put hplace]
  by_cases hother : other = place
  · subst hother
    simp [h]
  · rw [if_neg hother]

theorem SameDirectories.symm (h : SameDirectories fs after) : SameDirectories after fs :=
  ⟨h.start.symm, fun place => (h.directory place).symm⟩

theorem SameDirectories.start_eq (h : SameDirectories fs after) (p : Path) : after.start p = fs.start p := by
  rw [FileSystem.start, FileSystem.start, h.start]

theorem directory_of_follow {here : Place} {part : String} {rest : List String} {result : Except FileFaultKind Place}
    (h : fs.follow here (part :: rest) = result) (hmissing : result ≠ .error .missing)
    (hnot : result ≠ .error .notDirectory) : fs.node? here = some .directory := by
  rw [FileSystem.follow] at h
  split at h
  · exact absurd h.symm hmissing
  · exact absurd h.symm hnot
  · assumption

/-- Directories lead the way: a path comes to the same end as long as something stands there, unless nothing or a file
is in its way. -/
theorem SameDirectories.follow (h : SameDirectories fs after) {here : Place} {parts : List String}
    {result : Except FileFaultKind Place} (hfollow : fs.follow here parts = result)
    (hmissing : result ≠ .error .missing)
    (hnot : result ≠ .error .notDirectory) (hnode : ∀ there, result = .ok there → (after.node? there).isSome = true) :
    after.follow here parts = result := by
  induction parts generalizing here with
  | nil => exact hfollow
  | cons part rest ih =>
      have hhere := directory_of_follow hfollow hmissing hnot
      rw [FileSystem.follow, hhere] at hfollow
      rw [FileSystem.follow, (h.directory here).2 hhere]
      simp only at hfollow ⊢
      by_cases hup : part = ".."
      · rw [if_pos hup] at hfollow ⊢
        exact ih hfollow
      rw [if_neg hup] at hfollow ⊢
      by_cases hlong : maxName < part.utf8ByteSize
      · rw [if_pos hlong] at hfollow ⊢
        exact hfollow
      rw [if_neg hlong] at hfollow ⊢
      by_cases hfound : (fs.node? (here ++ [part])).isSome = true
      · rw [if_pos hfound] at hfollow
        have hafter : (after.node? (here ++ [part])).isSome = true := by
          cases rest with
          | nil => exact hnode _ hfollow.symm
          | cons next rest =>
              rw [(h.directory _).2 (directory_of_follow hfollow hmissing hnot)]
              rfl
        rw [if_pos hafter]
        exact ih hfollow
      · rw [if_neg hfound] at hfollow
        exact absurd hfollow.symm hmissing

theorem SameDirectories.locate (h : SameDirectories fs after) (hlocate : fs.locate p = .ok place)
    (hnode : (after.node? place).isSome = true) : after.locate p = .ok place := by
  obtain ⟨hflaw, hfollow⟩ := locate_eq_ok_iff.1 hlocate
  have hthere : ∀ there, (Except.ok place : Except FileFaultKind Place) = .ok there →
      (after.node? there).isSome = true := by
    rintro there ⟨⟩
    exact hnode
  exact locate_eq_ok_iff.2 ⟨hflaw, h.start_eq p ▸ h.follow hfollow (by simp) (by simp) hthere⟩

theorem SameDirectories.locate_directory (h : SameDirectories fs after) (hlocate : fs.locate p = .ok place)
    (hnode : fs.node? place = some .directory) : after.locate p = .ok place :=
  h.locate hlocate (by rw [(h.directory place).2 hnode]; rfl)

theorem SameDirectories.locate_tooLong (h : SameDirectories fs after) (hlocate : fs.locate p = .error .tooLong) :
    after.locate p = .error .tooLong := by
  rw [FileSystem.locate] at hlocate ⊢
  cases hflaw : flaw? p with
  | some kind =>
      rw [hflaw] at hlocate
      exact hlocate
  | none =>
      rw [hflaw] at hlocate
      exact h.start_eq p ▸ h.follow hlocate (by simp) (by simp) (by simp)

theorem SameDirectories.isDirectory (h : SameDirectories fs after) (hdirectory : fs.isDirectory p = true) :
    after.isDirectory p = true := by
  obtain ⟨place, hlocate, hnode⟩ := isDirectory_iff.1 hdirectory
  exact isDirectory_iff.2 ⟨place, h.locate_directory hlocate hnode, (h.directory place).2 hnode⟩

theorem SameDirectories.target (h : SameDirectories fs after) (hends : endsInName p = true)
    (hdirectory : fs.isDirectory p.parent = true) : after.target p = fs.target p := by
  obtain ⟨place, hlocate, hnode⟩ := isDirectory_iff.1 hdirectory
  rw [FileSystem.target, FileSystem.target]
  simp [hends, hlocate, h.locate_directory hlocate hnode, hnode, (h.directory place).2 hnode, bind, Except.bind]

theorem target_eq_ok (hends : endsInName p = true) (h : fs.target p = .ok place) :
    flaw? p = none ∧ p.name.utf8ByteSize ≤ maxName ∧
      ∃ directory, fs.locate p.parent = .ok directory ∧ fs.node? directory = some .directory ∧
        place = directory ++ [p.name] := by
  rw [FileSystem.target, if_pos hends] at h
  split at h
  · cases h
  · rename_i hflaw
    obtain ⟨directory, hlocate, h⟩ := bind_eq_ok_iff.1 h
    split at h
    · rename_i hnode
      split at h
      · cases h
      · rename_i hshort
        exact ⟨hflaw, Nat.le_of_not_lt hshort, directory, hlocate, hnode, (Except.ok.inj h).symm⟩
    · cases h

theorem target_ne_nil (hends : endsInName p = true) (h : fs.target p = .ok place) : place ≠ [] := by
  obtain ⟨-, -, directory, -, -, rfl⟩ := target_eq_ok hends h
  simp

theorem isDirectory_of_target (hends : endsInName p = true) (h : fs.target p = .ok place) :
    fs.isDirectory p.parent = true := by
  obtain ⟨-, -, directory, hlocate, hnode, -⟩ := target_eq_ok hends h
  exact isDirectory_iff.2 ⟨directory, hlocate, hnode⟩

theorem SameDirectories.target_eq_ok_iff (h : SameDirectories fs after) (hends : endsInName p = true) :
    after.target p = .ok place ↔ fs.target p = .ok place := by
  constructor
  · intro htarget
    rw [h.symm.target hends (isDirectory_of_target hends htarget), htarget]
  · intro htarget
    rw [h.target hends (isDirectory_of_target hends htarget), htarget]

/-- What is found under a name is found where a file of that name would go. -/
theorem locate_eq_ok_iff_target (hends : endsInName p = true) :
    fs.locate p = .ok place ↔ fs.target p = .ok place ∧ (fs.node? place).isSome = true := by
  constructor
  · intro hlocate
    obtain ⟨directory, -, -, hnamed⟩ := locate_parent (parts_ne_nil_of_endsInName hends) hlocate
    exact ⟨target_of_locate hlocate, (hnamed hends).2.2⟩
  · rintro ⟨htarget, hsome⟩
    obtain ⟨hflaw, hshort, directory, hlocate, hnode, rfl⟩ := target_eq_ok hends htarget
    have hup : p.name ≠ ".." := by
      simp only [endsInName, Bool.and_eq_true, decide_eq_true_eq] at hends
      exact hends.2
    rw [locate_eq_ok_iff, ← dropLast_append_name (parts_ne_nil_of_endsInName hends), follow_append]
    refine ⟨hflaw, bind_eq_ok_iff.2 ⟨directory, (locate_eq_ok_iff.1 hlocate).2, ?_⟩⟩
    rw [FileSystem.follow, hnode]
    simp only
    rw [if_neg hup, if_neg (Nat.not_lt.2 hshort), if_pos hsome]
    rfl

theorem isFile_eq_true_iff :
    fs.isFile p = .ok true ↔ ∃ place bytes, fs.locate p = .ok place ∧ fs.node? place = some (.file bytes) := by
  rw [isFile, at?]
  cases hlocate : fs.locate p with
  | error kind => cases kind <;> simp [Except.map]
  | ok place =>
      simp only [Except.map, Except.ok.injEq]
      split <;> simp_all

theorem isFile_eq_error_iff {e : FileFault} :
    fs.isFile p = .error e ↔ fs.locate p = .error .tooLong ∧ e = ⟨.tooLong, p.text, none⟩ := by
  rw [isFile, at?]
  cases hlocate : fs.locate p with
  | error kind => cases kind <;> simp [Except.map, eq_comm]
  | ok place => simp [Except.map]

theorem SameDirectories.isFile (h : SameDirectories fs after) (hends : endsInName p = true)
    (hplace : ∀ place, fs.target p = .ok place →
      ((∃ bytes, after.node? place = some (.file bytes)) ↔ ∃ bytes, fs.node? place = some (.file bytes))) :
    after.isFile p = fs.isFile p := by
  have htrue : after.isFile p = .ok true ↔ fs.isFile p = .ok true := by
    simp only [isFile_eq_true_iff, locate_eq_ok_iff_target hends, h.target_eq_ok_iff hends]
    constructor
    · rintro ⟨place, bytes, ⟨htarget, -⟩, hnode⟩
      obtain ⟨old, hold⟩ := (hplace place htarget).1 ⟨bytes, hnode⟩
      exact ⟨place, old, ⟨htarget, by rw [hold]; rfl⟩, hold⟩
    · rintro ⟨place, bytes, ⟨htarget, -⟩, hnode⟩
      obtain ⟨new, hnew⟩ := (hplace place htarget).2 ⟨bytes, hnode⟩
      exact ⟨place, new, ⟨htarget, by rw [hnew]; rfl⟩, hnew⟩
  have herror : ∀ e, after.isFile p = .error e ↔ fs.isFile p = .error e := by
    intro e
    simp only [isFile_eq_error_iff]
    exact and_congr_left fun _ => ⟨h.symm.locate_tooLong, h.locate_tooLong⟩
  cases hbefore : fs.isFile p with
  | error e => exact (herror e).2 hbefore
  | ok found =>
      cases hafter : after.isFile p with
      | error e => rw [(herror e).1 hafter] at hbefore; cases hbefore
      | ok now =>
          rw [hbefore, hafter] at htrue
          simpa using Bool.eq_iff_iff.2 (by simpa using htrue)

theorem isReported_of_follow {here : Place} {parts : List String} {kind : FileFaultKind}
    (h : fs.follow here parts = .error kind) : kind.isReported = true := by
  induction parts generalizing here with
  | nil => cases h
  | cons part rest ih =>
      rw [follow] at h
      split at h
      · cases h
        rfl
      · cases h
        rfl
      · split at h
        · exact ih h
        · split at h
          · cases h
            rfl
          · split at h
            · exact ih h
            · cases h
              rfl

theorem locate_eq_hidden_iff (fs : FileSystem) {kind : FileFaultKind} (hhidden : kind.isReported = false) :
    fs.locate p = .error kind ↔ flaw? p = some kind := by
  rw [locate]
  cases hflaw : flaw? p with
  | some other => simp
  | none =>
      refine iff_of_false (fun hfollow => ?_) (by simp)
      rw [isReported_of_follow hfollow] at hhidden
      cases hhidden

theorem read_eq_ok_iff {bytes : List UInt8} :
    fs.read p = .ok bytes ↔ ∃ place, fs.locate p = .ok place ∧ fs.node? place = some (.file bytes) := by
  rw [FileSystem.read]
  cases fs.locate p with
  | error kind => simp
  | ok place =>
      simp only
      split <;> simp_all

/-- Whether a file may be written: nothing is there, or what is there may be replaced. -/
def mayWrite (fs : FileSystem) (p : Path) (overwrite : Bool) : Except Failure Bool := do
  let present ← (fs.isPresent p).mapError .fileFault
  if !present || overwrite then return true else Generated.isMarked fs p

/-- The file system with a generated file put in its place at once, and the directories it needs. -/
def write (fs : FileSystem) (p : Path) (content : String) (overwrite : Bool := false) : Except Failure FileSystem := do
  if ← mayWrite fs p overwrite then
    let prepared ← (fs.createDirectories p.parent).mapError .fileFault
    match prepared.temporaryFault? p, Text.halfFault? Text.isHalf content with
    | some fault, _ => .error (.fileFault fault)
    | none, some fault => .error (.unencodable fault)
    | none, none => (prepared.replace p (Text.encodeUtf8 content)).mapError (Generated.unwritable p)
  else .error (.unmarkedOutput p.text)

/-- A place that takes a generated file. -/
structure Takes (fs : FileSystem) (p : Path) (content : String) (place : Place) : Prop where
  target : fs.target p = .ok place
  named : endsInName p = true
  free : fs.node? place ≠ some .directory
  fits : fs.temporaryFault? p = none
  encodable : Text.halfFault? Text.isHalf content = none

theorem Takes.mono {content : String} (h : Takes fs p content place) (hsame : SameDirectories fs after) :
    Takes after p content place where
  target := (hsame.target_eq_ok_iff h.named).2 h.target
  named := h.named
  free := fun hnode => h.free ((hsame.directory place).1 hnode)
  fits := by
    have hfits := h.fits
    rw [temporaryFault?] at hfits ⊢
    rw [hsame.start_eq]
    exact hfits
  encodable := h.encodable

theorem Takes.ne_nil {content : String} (h : Takes fs p content place) : place ≠ [] := target_ne_nil h.named h.target

theorem Takes.sameDirectories {content : String} (h : Takes fs p content place) (bytes : List UInt8) :
    SameDirectories fs (fs.put place (.file bytes)) :=
  SameDirectories.put_file h.ne_nil h.free bytes

theorem replace_eq_ok {bytes : List UInt8} (h : fs.replace p bytes = .ok after) :
    ∃ place, fs.target p = .ok place ∧ endsInName p = true ∧ fs.node? place ≠ some .directory ∧
      after = fs.put place (.file bytes) := by
  rw [replace] at h
  split at h
  · cases h
  · rename_i place htarget
    split at h
    · cases h
    · rename_i hends
      split at h
      · cases h
      · rename_i hnode
        exact ⟨place, htarget, by simpa using hends, hnode, (Except.ok.inj h).symm⟩

theorem marker_line : ∀ c ∈ Generated.marker.toList, c ≠ '\n' ∧ c ≠ '\r' := by
  have hall : (Generated.marker.toList.all fun c => c != '\n' && c != '\r') = true := by decide
  intro c hc
  simpa using List.all_eq_true.1 hall c hc

theorem isMarked_of_readText {text : String} (h : fs.readText p = .ok text) :
    Generated.isMarked fs p = .ok (Text.startsWith text Generated.marker) := by
  obtain ⟨decoded, hdecoded, htext⟩ := bind_eq_ok_iff.1 h
  obtain ⟨bytes, hbytes, hdecoded⟩ := bind_eq_ok_iff.1 hdecoded
  obtain rfl := pure_eq_ok_iff.1 htext
  obtain ⟨start, hstart, hsame⟩ := decodeStart_of_decodeUtf8 (mapError_eq_ok_iff.1 hdecoded) marker_line
  have hread : fs.readStart p = .ok start := bind_eq_ok_iff.2 ⟨bytes, hbytes, mapError_eq_ok_iff.2 hstart⟩
  delta Generated.isMarked
  rw [hread, ← hsame]

theorem isPresent_eq_error_iff {fault : FileFault} :
    fs.isPresent p = .error fault ↔ fs.locate p = .error .tooLong ∧ fault = ⟨.tooLong, p.text, none⟩ := by
  rw [isPresent, at?]
  cases hlocate : fs.locate p with
  | error kind => cases kind <;> simp [Except.map, eq_comm]
  | ok place => simp [Except.map]

theorem isPresent_eq_true_iff :
    fs.isPresent p = .ok true ↔ ∃ place, fs.locate p = .ok place ∧ (fs.node? place).isSome = true := by
  rw [isPresent, at?]
  cases hlocate : fs.locate p with
  | error kind => cases kind <;> simp [Except.map]
  | ok place => simp [Except.map]

/-- Whether a file carries the mark cannot be told if its start is no text. -/
theorem isMarked_eq_error_iff {place : Place} (h : fs.locate p = .ok place) :
    Generated.isMarked fs p = .error e ↔
      ∃ bytes fault, fs.read p = .ok bytes ∧ Text.decodeStart bytes = .error fault ∧ e = .undecodable fault := by
  delta Generated.isMarked
  rw [readStart]
  cases hread : fs.read p with
  | error fault =>
      have hreported : fault.kind.isReported = true := by
        rw [FileSystem.read, h] at hread
        simp only at hread
        split at hread
        · cases hread
        · cases hread
          rfl
      simp [Except.mapError, bind, Except.bind, hreported]
  | ok bytes =>
      cases hstart : Text.decodeStart bytes with
      | error fault => simp [Except.mapError, bind, Except.bind, hstart, eq_comm]
      | ok start => simp [Except.mapError, bind, Except.bind, hstart]

theorem replace_eq_ok_iff {bytes : List UInt8} :
    fs.replace p bytes = .ok after ↔
      ∃ place, fs.target p = .ok place ∧ endsInName p = true ∧ fs.node? place ≠ some .directory ∧
        after = fs.put place (.file bytes) := by
  refine ⟨replace_eq_ok, ?_⟩
  rintro ⟨place, htarget, hends, hnode, rfl⟩
  simp [replace, htarget, hends, hnode]

/-- A file that is written into a directory that is there changes the place where it goes and nothing else. -/
theorem write_eq_ok_iff {content : String} {overwrite : Bool} (hdirectory : fs.isDirectory p.parent = true) :
    write fs p content overwrite = .ok after ↔
      mayWrite fs p overwrite = .ok true ∧
        ∃ place, Takes fs p content place ∧ after = fs.put place (.file (Text.encodeUtf8 content)) := by
  rw [write, createDirectories_of_isDirectory hdirectory]
  constructor
  · intro h
    obtain ⟨may, hmay, h⟩ := bind_eq_ok_iff.1 h
    split at h
    · obtain ⟨prepared, hprepared, h⟩ := bind_eq_ok_iff.1 h
      obtain rfl := Except.ok.inj hprepared
      split at h
      · cases h
      · cases h
      · rename_i hfits hencodable
        obtain ⟨place, htarget, hends, hnode, rfl⟩ := replace_eq_ok (mapError_eq_ok_iff.1 h)
        exact ⟨by simp_all, place, ⟨htarget, hends, hnode, hfits, hencodable⟩, rfl⟩
    · cases h
  · rintro ⟨hmay, place, htakes, rfl⟩
    refine bind_eq_ok_iff.2 ⟨true, hmay, ?_⟩
    rw [if_pos rfl]
    refine bind_eq_ok_iff.2 ⟨fs, rfl, ?_⟩
    rw [htakes.fits, htakes.encodable]
    exact mapError_eq_ok_iff.2 (replace_eq_ok_iff.2 ⟨place, htakes.target, htakes.named, htakes.free, rfl⟩)

end Vetted.Proofs.FilePlaces
