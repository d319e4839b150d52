import Mathlib.Data.List.Nodup
import Vetted.Generated.Program
import Vetted.Proofs.Sequence

namespace Vetted.Proofs.GeneratedProgram

open Generated Sequence

variable {m : Declaration.Module} {records : List Domain.Record} {variant : Variant} {shared : List String}

theorem printFields_eq_ok_iff {r : Domain.Record} {seen : List (String × String)} {fields : List Domain.Field}
    {out : List Field} :
    printFields r variant shared seen fields = .ok out ↔
      out = fields.map (fun f => fieldOf f (scopeOf r shared f) variant) ∧ (fields.map Domain.Field.name).Nodup ∧
        ∀ f ∈ fields, seen.lookup f.name = none := by
  induction fields generalizing seen out with
  | nil =>
      rw [printFields, Except.ok.injEq, eq_comm]
      simp
  | cons f rest ih =>
      rw [printFields]
      split
      case h_1 first hseen =>
          refine ⟨fun h => (by cases h), fun h => ?_⟩
          rw [h.2.2 f (by simp)] at hseen
          cases hseen
      case h_2 hseen =>
          simp only [bind_eq_ok_iff, pure_eq_ok_iff, ih, List.map_cons, List.nodup_cons, List.forall_mem_cons]
          -- A later name is neither among those seen before nor that of `f`.
          have hsplit : (∀ g ∈ rest, List.lookup g.name ((f.name, f.source) :: seen) = none) ↔
              f.name ∉ rest.map Domain.Field.name ∧ ∀ g ∈ rest, seen.lookup g.name = none := by
            simp only [List.lookup_eq_none_iff, List.forall_mem_cons, List.mem_map, not_exists, not_and]
            grind
          rw [hsplit]
          constructor
          · rintro ⟨others, ⟨rfl, hnodup, hnew, hrest⟩, rfl⟩
            exact ⟨rfl, ⟨hnew, hnodup⟩, hseen, hrest⟩
          · rintro ⟨rfl, ⟨hnew, hnodup⟩, -, hrest⟩
            exact ⟨_, ⟨rfl, hnodup, hnew, hrest⟩, rfl⟩

theorem fieldsOf_eq_ok_iff {r : Domain.Record} {out : List Field} :
    fieldsOf r variant shared = .ok out ↔
      out = r.fields.map (fun f => fieldOf f (scopeOf r shared f) variant) ∧ r.fieldNames.Nodup := by
  rw [fieldsOf, printFields_eq_ok_iff]
  simp [Domain.Record.fieldNames]

theorem make_eq_ok_iff {r : Domain.Record} {t : Routine} :
    Routine.make variant shared r = .ok t ↔ t.record = r ∧ fieldsOf r variant shared = .ok t.fields := by
  rw [Routine.make, bind_eq_ok_iff]
  constructor
  · rintro ⟨fields, hfields, ht⟩
    obtain rfl := pure_eq_ok_iff.1 ht
    exact ⟨rfl, hfields⟩
  · rintro ⟨rfl, hfields⟩
    exact ⟨t.fields, hfields, rfl⟩

theorem program_eq_ok_iff {p : Program} :
    program m records variant = .ok p ↔
      p.imports = importsOf m records variant ∧ wrappersOf records variant (scopedNames records) = .ok p.wrappers ∧
        records.mapM (Routine.make variant (scopedNames records)) = .ok p.routines := by
  simp only [program, bind_eq_ok_iff, pure_eq_ok_iff]
  constructor
  · rintro ⟨routines, hroutines, wrappers, hwrappers, rfl⟩
    exact ⟨rfl, hwrappers, hroutines⟩
  · rintro ⟨himports, hwrappers, hroutines⟩
    exact ⟨p.routines, hroutines, p.wrappers, hwrappers, by rw [← himports]⟩

theorem emitRecord_eq (r : Domain.Record) :
    emitRecord variant .standard shared r = (Routine.make variant shared r).map Routine.text := by
  rw [emitRecord, Routine.make]
  cases fieldsOf r variant shared <;> rfl

theorem mapM_emitRecord (rs : List Domain.Record) :
    rs.mapM (emitRecord variant .standard shared) =
      (rs.mapM (Routine.make variant shared)).map (List.map Routine.text) := by
  induction rs with
  | nil => rfl
  | cons r rs ih =>
      rw [List.mapM_cons, List.mapM_cons, ih, emitRecord_eq]
      cases Routine.make variant shared r with
      | error e => rfl
      | ok t => cases rs.mapM (Routine.make variant shared) <;> rfl

theorem emitModule_eq : emitModule m records variant = (program m records variant).map (Program.text m) := by
  rw [emitModule, program, mapM_emitRecord]
  cases records.mapM (Routine.make variant (scopedNames records)) with
  | error e => rfl
  | ok routines => cases wrappersOf records variant (scopedNames records) <;> rfl

theorem exists_program {code : String} (h : emitModule m records variant = .ok code) :
    ∃ p, program m records variant = .ok p ∧ p.text m = code := by
  rw [emitModule_eq] at h
  cases hp : program m records variant with
  | error e => rw [hp] at h; cases h
  | ok p => rw [hp] at h; exact ⟨p, rfl, Except.ok.inj h⟩

theorem forall₂_routines {p : Program} (h : program m records variant = .ok p) :
    List.Forall₂ (fun r t => t.record = r ∧ fieldsOf r variant (scopedNames records) = .ok t.fields) records
      p.routines := by
  have hall := mapM_eq_ok_iff.1 (program_eq_ok_iff.1 h).2.2
  exact hall.imp fun _ _ hr => make_eq_ok_iff.1 hr

theorem routines_map_record {p : Program} (h : program m records variant = .ok p) :
    p.routines.map Routine.record = records := by
  refine List.forall₂_eq_eq_eq ▸ ?_
  rw [List.forall₂_map_left_iff]
  exact ((forall₂_routines h).imp fun _ _ hrt => hrt.1).flip

theorem fields_of_routine {p : Program} (h : program m records variant = .ok p) {t : Routine} (ht : t ∈ p.routines) :
    t.fields = t.record.fields.map fun f => fieldOf f (scopeOf t.record (scopedNames records) f) variant := by
  have hall : List.Forall₂ (fun t r => fieldsOf t.record variant (scopedNames records) = .ok t.fields ∧ t.record = r)
      p.routines records :=
    ((forall₂_routines h).imp fun r t hrt => ⟨hrt.1 ▸ hrt.2, hrt.1⟩).flip
  have hfields := ((List.forall₂_and_left _ _).1 hall).1 t ht
  exact (fieldsOf_eq_ok_iff.1 hfields).1

/-- The wrappers that the fields of a record use. -/
def usedWrappers (variant : Variant) (shared : List String) (r : Domain.Record) : List Wrapper :=
  (r.fields.map fun f => fieldOf f (scopeOf r shared f) variant).filterMap Field.wrapper

theorem usedWrappers_direct (r : Domain.Record) : usedWrappers .direct shared r = [] := by
  simp [usedWrappers, fieldOf, List.filterMap_map]

theorem mem_usedWrappers_newtype {r : Domain.Record} {w : Wrapper} :
    w ∈ usedWrappers .newtype shared r ↔
      ∃ f ∈ r.fields, w = ⟨Naming.wrapperName f.name (scopeOf r shared f), f.typeName⟩ := by
  simp [usedWrappers, fieldOf, List.filterMap_map, eq_comm]

theorem nodup_names_concat {declared : List Wrapper} {w : Wrapper} (hdeclared : (declared.map Wrapper.name).Nodup)
    (hnone : declared.find? (·.name = w.name) = none) : ((declared ++ [w]).map Wrapper.name).Nodup := by
  have hnew : w.name ∉ declared.map Wrapper.name := by simpa using List.find?_eq_none.1 hnone
  rw [List.map_append, List.map_singleton, ← List.concat_eq_append]
  exact List.Nodup.concat hnew hdeclared

/-- Wrappers that can be added are all declared in the end, and each name once. -/
theorem addWrappers_eq_ok {record : String} {declared ws out : List Wrapper}
    (h : addWrappers record declared ws = .ok out) (hdeclared : (declared.map Wrapper.name).Nodup) :
    (out.map Wrapper.name).Nodup ∧ ∀ w, w ∈ out ↔ w ∈ declared ∨ w ∈ ws := by
  induction ws generalizing declared with
  | nil =>
      obtain rfl := Except.ok.inj h
      exact ⟨hdeclared, by simp⟩
  | cons w rest ih =>
      rw [addWrappers] at h
      split at h
      case h_1 hnone =>
          obtain ⟨hnodup, hmem⟩ := ih h (nodup_names_concat hdeclared hnone)
          exact ⟨hnodup, fun v => by rw [hmem]; simp [or_assoc]⟩
      case h_2 d hfound =>
          split at h
          case isTrue hbase =>
              obtain ⟨hnodup, hmem⟩ := ih h hdeclared
              -- What is found under the name wraps the same type, so it is the wrapper itself.
              have hname : d.name = w.name := by simpa using List.find?_some hfound
              obtain rfl : d = w := by
                cases d
                cases w
                simp_all
              have hknown := List.mem_of_find?_eq_some hfound
              refine ⟨hnodup, fun v => ?_⟩
              rw [hmem, List.mem_cons]
              grind
          case isFalse => cases h

theorem collectWrappers_eq_ok {declared out : List Wrapper}
    (h : collectWrappers variant shared declared records = .ok out) (hdeclared : (declared.map Wrapper.name).Nodup) :
    (out.map Wrapper.name).Nodup ∧
      ∀ w, w ∈ out ↔ w ∈ declared ∨ ∃ r ∈ records, w ∈ usedWrappers variant shared r := by
  induction records generalizing declared with
  | nil =>
      obtain rfl := Except.ok.inj h
      exact ⟨hdeclared, by simp⟩
  | cons r rest ih =>
      rw [collectWrappers] at h
      obtain ⟨fields, hfields, h⟩ := bind_eq_ok_iff.1 h
      obtain ⟨added, hadded, h⟩ := bind_eq_ok_iff.1 h
      rw [(fieldsOf_eq_ok_iff.1 hfields).1] at hadded
      obtain ⟨hnodup, hmem⟩ := addWrappers_eq_ok hadded hdeclared
      obtain ⟨hnodup', hmem'⟩ := ih h hnodup
      refine ⟨hnodup', fun w => ?_⟩
      rw [hmem', hmem, or_assoc]
      simp only [List.exists_mem_cons_iff, usedWrappers]

theorem wrappersOf_eq_ok {out : List Wrapper} (h : wrappersOf records variant shared = .ok out) :
    (out.map Wrapper.name).Nodup ∧ ∀ w, w ∈ out ↔ ∃ r ∈ records, w ∈ usedWrappers variant shared r := by
  simpa using collectWrappers_eq_ok h List.nodup_nil

theorem wrappersOf_names {out : List Wrapper} (h : wrappersOf records variant shared = .ok out) :
    (out.map Wrapper.name).Nodup ∧
      ∀ n, n ∈ out.map Wrapper.name ↔ ∃ r ∈ records, n ∈ (usedWrappers variant shared r).map Wrapper.name := by
  obtain ⟨hnodup, hmem⟩ := wrappersOf_eq_ok h
  refine ⟨hnodup, fun n => ?_⟩
  simp only [List.mem_map, hmem]
  grind

theorem collectWrappers_direct {declared : List Wrapper}
    (h : ∀ r ∈ records, ∃ fields, fieldsOf r .direct shared = .ok fields) :
    collectWrappers .direct shared declared records = .ok declared := by
  induction records with
  | nil => rfl
  | cons r rest ih =>
      obtain ⟨⟨fields, hfields⟩, hrest⟩ := List.forall_mem_cons.1 h
      have hnone : fields.filterMap Field.wrapper = [] := by
        rw [(fieldsOf_eq_ok_iff.1 hfields).1]
        exact usedWrappers_direct r
      rw [collectWrappers, hfields]
      simp only [bind, Except.bind, hnone, addWrappers, ih hrest]

theorem wrappers_direct {p : Program} (h : program m records .direct = .ok p) : p.wrappers = [] := by
  have hmem := (wrappersOf_names (program_eq_ok_iff.1 h).2.1).2
  rw [← List.map_eq_nil_iff (f := Wrapper.name), List.eq_nil_iff_forall_not_mem]
  intro n hn
  obtain ⟨r, -, hr⟩ := (hmem n).1 hn
  simp [usedWrappers_direct] at hr

section Failures

variable {r : Domain.Record} {e : Failure}

/-- A failure that is reported as one of making code. -/
def OfGeneration (e : Failure) : Prop := ∃ report, e.report? = some report ∧ report.topic = .generation

theorem printFields_eq_error {seen : List (String × String)} {fields : List Domain.Field}
    (h : printFields r variant shared seen fields = .error e) :
    ∃ field first second, e = .fieldClash field r.name first second := by
  induction fields generalizing seen with
  | nil => cases h
  | cons f rest ih =>
      rw [printFields] at h
      split at h
      case h_1 first _ => exact ⟨f.name, first, f.source, (Except.error.inj h).symm⟩
      case h_2 =>
          obtain hrest | ⟨_, _, hpure⟩ := bind_eq_error_iff.1 h
          · exact ih hrest
          · cases hpure

theorem addWrappers_eq_error {record : String} {declared ws : List Wrapper}
    (h : addWrappers record declared ws = .error e) :
    ∃ name first second, e = .wrapperClash name first second record := by
  induction ws generalizing declared with
  | nil => cases h
  | cons w rest ih =>
      rw [addWrappers] at h
      split at h
      case h_1 => exact ih h
      case h_2 d _ =>
          split at h
          · exact ih h
          · exact ⟨w.name, d.base, w.base, (Except.error.inj h).symm⟩

theorem collectWrappers_eq_error {declared : List Wrapper}
    (h : collectWrappers variant shared declared records = .error e) :
    (∃ r ∈ records, fieldsOf r variant shared = .error e) ∨
      ∃ name first second record, e = .wrapperClash name first second record := by
  induction records generalizing declared with
  | nil => cases h
  | cons r rest ih =>
      rw [collectWrappers] at h
      obtain hfields | ⟨fields, -, h⟩ := bind_eq_error_iff.1 h
      · exact .inl ⟨r, by simp, hfields⟩
      · obtain hadded | ⟨added, -, h⟩ := bind_eq_error_iff.1 h
        · obtain ⟨name, first, second, rfl⟩ := addWrappers_eq_error hadded
          exact .inr ⟨name, first, second, r.name, rfl⟩
        · obtain ⟨s, hs, hfields⟩ | hclash := ih h
          · exact .inl ⟨s, by simp [hs], hfields⟩
          · exact .inr hclash

theorem ofGeneration_of_fieldsOf (h : fieldsOf r variant shared = .error e) : OfGeneration e := by
  obtain ⟨field, first, second, rfl⟩ := printFields_eq_error h
  exact ⟨_, rfl, rfl⟩

theorem ofGeneration_of_wrappersOf (h : wrappersOf records variant shared = .error e) : OfGeneration e := by
  obtain ⟨r, -, hfields⟩ | ⟨name, first, second, record, rfl⟩ := collectWrappers_eq_error h
  · exact ofGeneration_of_fieldsOf hfields
  · exact ⟨_, rfl, rfl⟩

/-- Whatever keeps a module from being emitted is reported as a failure to make code. -/
theorem ofGeneration_of_emitModule (h : emitModule m records variant = .error e) : OfGeneration e := by
  obtain hbodies | ⟨bodies, -, h⟩ := bind_eq_error_iff.1 h
  · obtain ⟨_, r, _, _, _, hr⟩ := mapM_eq_error_iff.1 hbodies
    obtain hfields | ⟨fields, -, htext⟩ := bind_eq_error_iff.1 hr
    · exact ofGeneration_of_fieldsOf hfields
    · cases htext
  · obtain hwrappers | ⟨wrappers, -, htext⟩ := bind_eq_error_iff.1 h
    · exact ofGeneration_of_wrappersOf hwrappers
    · cases htext

end Failures

end Vetted.Proofs.GeneratedProgram
