import Vetted.Proofs.WrapperClash

namespace Vetted.Proofs.LoneRecord

open Domain Generated GeneratedProgram Sequence WrapperClash WrapperTypes

variable {r : Record} {variant : Variant} {m : Declaration.Module}

theorem scopedNames_lone (h : ¬ClashesWithin r) : scopedNames [r] = [] := by
  rw [List.eq_nil_iff_forall_not_mem]
  intro name
  rw [not_mem_scopedNames]
  intro s hs f hf t ht g hg hfname hgname
  obtain rfl := List.mem_singleton.1 hs
  obtain rfl := List.mem_singleton.1 ht
  by_contra htype
  exact h ⟨f, hf, g, hg, hfname.trans hgname.symm, htype⟩

theorem not_clashesWithin_of_ok {shared : List String} {out : List Wrapper}
    (h : wrappersOf [r] .newtype shared = .ok out) : ¬ClashesWithin r := fun hclash =>
  not_consistent_of_clashesWithin (List.mem_singleton_self r) hclash shared (exists_wrappersOf_iff.1 ⟨out, h⟩).2

theorem wrappersOf_lone_iff {out : List Wrapper} :
    wrappersOf [r] variant (scopedNames [r]) = .ok out ↔ wrappersOf [r] variant = .ok out := by
  cases variant with
  | direct => rw [wrappersOf_direct_iff, wrappersOf_direct_iff]
  | newtype =>
      constructor
      · intro h
        rwa [scopedNames_lone (not_clashesWithin_of_ok h)] at h
      · intro h
        rwa [scopedNames_lone (not_clashesWithin_of_ok h)]

theorem exists_wrappersOf_lone_iff :
    (∃ out, wrappersOf [r] variant = .ok out) ↔
      r.fieldNames.Nodup ∧ (variant = .newtype → ¬ClashesWithin r) := by
  cases variant with
  | direct => simp [wrappersOf_direct_iff]
  | newtype =>
      constructor
      · rintro ⟨out, h⟩
        have hnodup := (exists_wrappersOf_iff.1 ⟨out, h⟩).1
        exact ⟨hnodup r (List.mem_singleton_self r), fun _ => not_clashesWithin_of_ok h⟩
      · rintro ⟨hnodup, hclash⟩
        refine exists_wrappersOf_iff.2 ⟨by simpa using hnodup, ?_⟩
        rw [List.flatMap_singleton]
        intro v hv w hw hname
        obtain ⟨f, hf, rfl⟩ := mem_usedWrappers_newtype.1 hv
        obtain ⟨g, hg, rfl⟩ := mem_usedWrappers_newtype.1 hw
        by_contra htype
        exact hclash rfl ⟨f, hf, g, hg, hname, htype⟩

theorem fieldsOf_lone {out : List Wrapper} (h : wrappersOf [r] variant = .ok out) :
    fieldsOf r variant (scopedNames [r]) = fieldsOf r variant := by
  cases variant with
  | direct =>
      have hnodup := (wrappersOf_direct_iff.1 h).1 r (List.mem_singleton_self r)
      rw [fieldsOf_eq_ok_iff.2 ⟨rfl, hnodup⟩, fieldsOf_eq_ok_iff.2 ⟨rfl, hnodup⟩]
      rfl
  | newtype => rw [scopedNames_lone (not_clashesWithin_of_ok h)]

theorem unlines_append (xs ys : List String) : unlines (xs ++ ys) = unlines xs ++ unlines ys := by
  simp [unlines, String.join_append]

theorem recordText_eq (r : Record) (fields : List Generated.Field) (wrappers : List Wrapper) :
    recordText r fields wrappers = unlines (wrappers.map Wrapper.line) ++ recordText r fields [] := by
  rw [recordText, recordText, ← unlines_append, List.map_nil, List.nil_append, List.append_assoc]

/-- The lines of a module before its wrappers. -/
def opening (m : Declaration.Module) (imports : List String) (wrappers : List Wrapper) : List String :=
  [header m, "\"\"\"Validated domain records for the input classes in " ++ m.label ++ ".\"\"\"", ""] ++ imports ++
    if wrappers.isEmpty then [] else ["", ""]

theorem moduleText_lone (m : Declaration.Module) (imports : List String) (wrappers : List Wrapper) (body : String) :
    moduleText m imports wrappers [body] =
      unlines (opening m imports wrappers) ++ unlines (wrappers.map Wrapper.line) ++ (body ++ "\n") := by
  have hlines : moduleText m imports wrappers [body] =
      unlines (opening m imports wrappers ++ wrappers.map Wrapper.line ++ [body]) := by
    rw [moduleText, opening]
    cases wrappers <;> simp
  have hbody : unlines [body] = body ++ "\n" := by simp [unlines]
  rw [hlines, unlines_append, unlines_append, hbody]

theorem emit_eq_ok_iff {text : String} :
    emit r variant = .ok text ↔
      ∃ fields wrappers, fieldsOf r variant = .ok fields ∧ wrappersOf [r] variant = .ok wrappers ∧
        text = recordText r fields wrappers := by
  simp only [emit, bind_eq_ok_iff]
  constructor
  · rintro ⟨fields, hfields, wrappers, hwrappers, htext⟩
    exact ⟨fields, wrappers, hfields, hwrappers, (Except.ok.inj htext).symm⟩
  · rintro ⟨fields, wrappers, hfields, hwrappers, rfl⟩
    exact ⟨fields, hfields, wrappers, hwrappers, rfl⟩

theorem emitModule_lone_eq_ok_iff {code : String} :
    emitModule m [r] variant = .ok code ↔
      ∃ fields wrappers, fieldsOf r variant (scopedNames [r]) = .ok fields ∧
        wrappersOf [r] variant (scopedNames [r]) = .ok wrappers ∧
          code = moduleText m (importsOf m [r] variant) wrappers [recordText r fields []] := by
  simp only [emitModule, bind_eq_ok_iff]
  constructor
  · rintro ⟨bodies, hbodies, wrappers, hwrappers, hcode⟩
    obtain ⟨body, rest, hbody, hrest, rfl⟩ := List.forall₂_cons_left_iff.1 (mapM_eq_ok_iff.1 hbodies)
    obtain rfl := List.forall₂_nil_left_iff.1 hrest
    obtain ⟨fields, hfields, htext⟩ := bind_eq_ok_iff.1 hbody
    obtain rfl := Except.ok.inj htext
    exact ⟨fields, wrappers, hfields, hwrappers, (Except.ok.inj hcode).symm⟩
  · rintro ⟨fields, wrappers, hfields, hwrappers, rfl⟩
    have hbody : emitRecord variant .standard (scopedNames [r]) r = .ok (recordText r fields []) :=
      bind_eq_ok_iff.2 ⟨fields, hfields, rfl⟩
    exact ⟨_, mapM_eq_ok_iff.2 (.cons hbody .nil), wrappers, hwrappers, rfl⟩

theorem emitModule_lone_iff {code : String} :
    emitModule m [r] variant = .ok code ↔
      ∃ fields wrappers, fieldsOf r variant = .ok fields ∧ wrappersOf [r] variant = .ok wrappers ∧
        code = moduleText m (importsOf m [r] variant) wrappers [recordText r fields []] := by
  rw [emitModule_lone_eq_ok_iff]
  constructor
  · rintro ⟨fields, wrappers, hfields, hwrappers, rfl⟩
    have hbare := wrappersOf_lone_iff.1 hwrappers
    exact ⟨fields, wrappers, fieldsOf_lone hbare ▸ hfields, hbare, rfl⟩
  · rintro ⟨fields, wrappers, hfields, hwrappers, rfl⟩
    exact ⟨fields, wrappers, (fieldsOf_lone hwrappers).trans hfields, wrappersOf_lone_iff.2 hwrappers, rfl⟩

theorem ofGeneration_of_emit {e : Failure} (h : emit r variant = .error e) : OfGeneration e := by
  obtain hfields | ⟨fields, -, h⟩ := bind_eq_error_iff.1 h
  · exact ofGeneration_of_fieldsOf hfields
  · obtain hwrappers | ⟨wrappers, -, htext⟩ := bind_eq_error_iff.1 h
    · exact ofGeneration_of_wrappersOf hwrappers
    · cases htext

theorem exists_emit_iff :
    (∃ text, emit r variant = .ok text) ↔ ∃ wrappers, wrappersOf [r] variant = .ok wrappers := by
  simp only [emit_eq_ok_iff]
  constructor
  · rintro ⟨text, fields, wrappers, -, hwrappers, -⟩
    exact ⟨wrappers, hwrappers⟩
  · rintro ⟨wrappers, hwrappers⟩
    obtain ⟨fields, hfields⟩ := fieldsOf_of_collectWrappers hwrappers (List.mem_singleton_self r)
    exact ⟨_, fields, wrappers, hfields, hwrappers, rfl⟩

theorem exists_emitModule_lone_iff :
    (∃ code, emitModule m [r] variant = .ok code) ↔ ∃ text, emit r variant = .ok text := by
  simp only [emit_eq_ok_iff, emitModule_lone_iff]
  constructor
  · rintro ⟨code, fields, wrappers, hfields, hwrappers, -⟩
    exact ⟨_, fields, wrappers, hfields, hwrappers, rfl⟩
  · rintro ⟨text, fields, wrappers, hfields, hwrappers, -⟩
    exact ⟨_, fields, wrappers, hfields, hwrappers, rfl⟩

/-- A record can be emitted on its own exactly if it can be as the only record of a module: its fields differ in name,
and no bare name of a wrapper stands for two types. What keeps it from either is reported as a failure to make code.
Its text on its own is the lines of its wrappers and a body, and the module has the same lines of wrappers and then
that body as its only record. -/
theorem emit_agrees_with_module (r : Record) (variant : Variant) (m : Declaration.Module) :
    ((∃ text, emit r variant = .ok text) ↔ ∃ code, emitModule m [r] variant = .ok code) ∧
      ((∃ text, emit r variant = .ok text) ↔
        r.fieldNames.Nodup ∧ (variant = .newtype → ¬ClashesWithin r)) ∧
      (∀ e, emit r variant = .error e → OfGeneration e) ∧
      (∀ e, emitModule m [r] variant = .error e → OfGeneration e) ∧
      ∀ text code, emit r variant = .ok text → emitModule m [r] variant = .ok code →
        ∃ fields wrappers, fieldsOf r variant = .ok fields ∧ wrappersOf [r] variant = .ok wrappers ∧
          text = unlines (wrappers.map Wrapper.line) ++ recordText r fields [] ∧
          code = unlines (opening m (importsOf m [r] variant) wrappers) ++ unlines (wrappers.map Wrapper.line) ++
            (recordText r fields [] ++ "\n") := by
  refine ⟨exists_emitModule_lone_iff.symm, exists_emit_iff.trans exists_wrappersOf_lone_iff,
    fun e => ofGeneration_of_emit, fun e => ofGeneration_of_emitModule, ?_⟩
  intro text code htext hcode
  obtain ⟨fields, wrappers, hfields, hwrappers, rfl⟩ := emit_eq_ok_iff.1 htext
  obtain ⟨fields', wrappers', hfields', hwrappers', rfl⟩ := emitModule_lone_iff.1 hcode
  obtain rfl := Except.ok.inj (hfields.symm.trans hfields')
  obtain rfl := Except.ok.inj (hwrappers.symm.trans hwrappers')
  exact ⟨fields, wrappers, hfields, hwrappers, recordText_eq r fields wrappers, moduleText_lone m _ wrappers _⟩

end Vetted.Proofs.LoneRecord
