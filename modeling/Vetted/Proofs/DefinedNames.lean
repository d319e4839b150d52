import Mathlib.Data.List.Perm.Basic
import Vetted.Proofs.GeneratedProgram
import Vetted.Proofs.SnakeCase

namespace Vetted.Proofs.DefinedNames

open Domain Generated GeneratedProgram SnakeCase

theorem conversionName_eq_iff {a b : String} :
    Naming.conversionName a = Naming.conversionName b ↔ Naming.snakeCase a = Naming.snakeCase b := by
  rw [Naming.conversionName, Naming.conversionName, ← String.toList_inj, String.toList_append, String.toList_append,
    List.append_cancel_left_eq, String.toList_inj]

theorem nodup_conversionNames_iff {α : Type} (xs : List α) (f : α → String) :
    (xs.map fun x => Naming.conversionName (f x)).Nodup ↔ (xs.map fun x => Naming.snakeCase (f x)).Nodup := by
  simp only [List.Nodup, List.pairwise_map, ne_eq, conversionName_eq_iff]

theorem ne_conversionName_of_isUpper {name : String} {letter : Char} (hmem : letter ∈ name.toList)
    (hupper : letter.isUpper = true) (domain : String) : name ≠ Naming.conversionName domain := by
  rintro rfl
  rw [isUpper_of_mem_conversionName hmem] at hupper
  cases hupper

theorem wrapperName_ne_conversionName (field scope domain : String) :
    Naming.wrapperName field scope ≠ Naming.conversionName domain := by
  have hcapital : 'V' ∈ (Naming.wrapperName field scope).toList := by
    rw [Naming.wrapperName, String.toList_append, List.mem_append]
    exact .inr (by simp)
  exact ne_conversionName_of_isUpper hcapital (by decide) domain

theorem usedWrapper_ne_conversionName {variant : Variant} {shared : List String} {r : Record} {w : Wrapper}
    (hw : w ∈ usedWrappers variant shared r) (domain : String) : w.name ≠ Naming.conversionName domain := by
  cases variant with
  | direct => simp [usedWrappers_direct] at hw
  | newtype =>
      obtain ⟨f, -, rfl⟩ := mem_usedWrappers_newtype.1 hw
      exact wrapperName_ne_conversionName _ _ _

theorem definedNames_perm (p : Program) :
    p.definedNames.Perm (p.wrappers.map Wrapper.name ++
      (p.routines.map (fun t => t.record.name) ++ p.routines.map Routine.name)) := by
  have hpairs := List.map_append_flatMap_perm p.routines (fun t => t.record.name) (fun t => [t.name])
  have hnames : p.definedNames =
      p.wrappers.map Wrapper.name ++ p.routines.flatMap (fun t => [t.record.name, t.name]) := by
    simp [Program.definedNames, Program.definitions, List.map_flatMap]
  rw [hnames]
  refine .append_left _ (hpairs.symm.trans ?_)
  rw [← List.map_eq_flatMap]

theorem nodup_definedNames {m : Declaration.Module} {records : List Record} {variant : Variant} {p : Program}
    (h : program m records variant = .ok p) :
    p.definedNames.Nodup ↔
      (records.map Record.name).Nodup ∧ (records.map fun r => Naming.snakeCase r.name).Nodup ∧
        (∀ r ∈ records, ∀ s ∈ records, r.name ≠ Naming.conversionName s.name) ∧
          ∀ r ∈ records, ∀ w ∈ usedWrappers variant (scopedNames records) r, ∀ s ∈ records, w.name ≠ s.name := by
  obtain ⟨hwrappers, hused⟩ := wrappersOf_names (program_eq_ok_iff.1 h).2.1
  have hclasses : p.routines.map (fun t => t.record.name) = records.map Record.name := by
    rw [← routines_map_record h, List.map_map]
    rfl
  have hfunctions : p.routines.map Routine.name = records.map fun r => Naming.conversionName r.name := by
    rw [← routines_map_record h, List.map_map]
    rfl
  rw [(definedNames_perm p).nodup_iff, hclasses, hfunctions, List.nodup_append, List.nodup_append,
    nodup_conversionNames_iff]
  constructor
  · rintro ⟨-, ⟨hclass, hfunction, hapart⟩, hwrapper⟩
    refine ⟨hclass, hfunction, ?_, ?_⟩
    · intro r hr s hs
      exact hapart r.name (List.mem_map_of_mem hr) _ (List.mem_map.2 ⟨s, hs, rfl⟩)
    · intro r hr w hw s hs
      have hdeclared := (hused w.name).2 ⟨r, hr, List.mem_map_of_mem hw⟩
      exact hwrapper w.name hdeclared s.name (List.mem_append_left _ (List.mem_map_of_mem hs))
  · rintro ⟨hclass, hfunction, hapart, hwrapper⟩
    refine ⟨hwrappers, ⟨hclass, hfunction, ?_⟩, ?_⟩
    · intro a ha b hb
      obtain ⟨r, hr, rfl⟩ := List.mem_map.1 ha
      obtain ⟨s, hs, rfl⟩ := List.mem_map.1 hb
      exact hapart r hr s hs
    · intro a ha b hb
      obtain ⟨r, hr, hname⟩ := (hused a).1 ha
      obtain ⟨w, hw, rfl⟩ := List.mem_map.1 hname
      obtain hb | hb := List.mem_append.1 hb
      · obtain ⟨s, hs, rfl⟩ := List.mem_map.1 hb
        exact hwrapper r hr w hw s hs
      · obtain ⟨s, -, rfl⟩ := List.mem_map.1 hb
        exact usedWrapper_ne_conversionName hw s.name

theorem nodup_domainNames {decls : List Declaration.Record} {g : Registry} {c : Conventions}
    (h : (decls.map Declaration.Record.name).Nodup) : ((decls.map (resolve g c)).map Record.name).Nodup := by
  have hsuffix : Function.Injective c.domainName := by
    intro a b hab
    rw [Conventions.domainName, Conventions.domainName, ← String.toList_inj, String.toList_append,
      String.toList_append, List.append_cancel_right_eq, String.toList_inj] at hab
    exact hab
  have hnames : (decls.map (resolve g c)).map Record.name = (decls.map Declaration.Record.name).map c.domainName := by
    simp [resolve]
  rw [hnames]
  exact h.map hsuffix

/-- The names of a generated module differ exactly if the classes differ in snake case too, no class has the name of a
function, and, where fields have wrapper types, no wrapper has the name of a class. -/
theorem definedNames_distinct_iff (m : Declaration.Module) (decls : List Declaration.Record) (g : Registry)
    (c : Conventions) (variant : Variant) (code : String) (hnames : (decls.map Declaration.Record.name).Nodup)
    (hemit : emitModule m (decls.map (resolve g c)) variant = .ok code) :
    ∃ p, program m (decls.map (resolve g c)) variant = .ok p ∧ p.text m = code ∧
      (p.definedNames.Nodup ↔
        (decls.map fun d => Naming.snakeCase (c.domainName d.name)).Nodup ∧
          (∀ d ∈ decls, ∀ e ∈ decls, c.domainName d.name ≠ Naming.conversionName (c.domainName e.name)) ∧
            (variant = .newtype → ∀ d ∈ decls, ∀ f ∈ (resolve g c d).fields, ∀ e ∈ decls,
              Naming.wrapperName f.name (scopeOf (resolve g c d) (scopedNames (decls.map (resolve g c))) f) ≠
                c.domainName e.name)) := by
  obtain ⟨p, hp, htext⟩ := exists_program hemit
  refine ⟨p, hp, htext, ?_⟩
  have hwrappers : (∀ d ∈ decls, ∀ w ∈ usedWrappers variant (scopedNames (decls.map (resolve g c))) (resolve g c d),
      ∀ e ∈ decls, w.name ≠ c.domainName e.name) ↔
      (variant = .newtype → ∀ d ∈ decls, ∀ f ∈ (resolve g c d).fields, ∀ e ∈ decls,
        Naming.wrapperName f.name (scopeOf (resolve g c d) (scopedNames (decls.map (resolve g c))) f) ≠
          c.domainName e.name) := by
    cases variant with
    | direct => simp [usedWrappers_direct]
    | newtype =>
        simp only [mem_usedWrappers_newtype, true_implies]
        constructor
        · intro h d hd f hf e he
          exact h d hd _ ⟨f, hf, rfl⟩ e he
        · rintro h d hd w ⟨f, hf, rfl⟩ e he
          exact h d hd f hf e he
  rw [nodup_definedNames hp, ← hwrappers, and_iff_right (nodup_domainNames hnames)]
  simp only [List.forall_mem_map, List.map_map]
  rfl

def shopForms : Declaration.Module where
  name := "shop"
  records :=
    [{ name := "UserInput", fields := [{ name := "id", typeName := "int" }, { name := "email", typeName := "str" }] },
      { name := "OrderInput", fields := [{ name := "id", typeName := "str" }] }]

theorem shopForms_definedNames_distinct :
    (shopForms.records.map Declaration.Record.name).Nodup ∧
      ∃ code, emitModule shopForms (shopForms.records.map (resolve .standard {})) .newtype = .ok code ∧
        ∃ p, program shopForms (shopForms.records.map (resolve .standard {})) .newtype = .ok p ∧
          p.text shopForms = code ∧ p.definedNames.Nodup := by
  have hnames : (shopForms.records.map Declaration.Record.name).Nodup := by decide
  obtain ⟨code, hcode⟩ : ∃ code, emitModule shopForms (shopForms.records.map (resolve .standard {})) .newtype =
    .ok code := ⟨_, rfl⟩
  obtain ⟨p, hp, htext, hiff⟩ := definedNames_distinct_iff _ _ _ _ _ _ hnames hcode
  exact ⟨hnames, code, hcode, p, hp, htext, hiff.2 ⟨by decide, by decide, by decide⟩⟩

def protocolForms : Declaration.Module where
  name := "protocols"
  records := [{ name := "HTTPInput" }, { name := "HttpInput" }]

/-- The functions of two classes may have one name, and the second then takes the place of the first. -/
theorem definedNames_may_coincide :
    ¬∀ (m : Declaration.Module) (decls : List Declaration.Record) (g : Registry) (c : Conventions) (variant : Variant)
      (p : Program), (decls.map Declaration.Record.name).Nodup →
        emitModule m (decls.map (resolve g c)) variant = .ok (p.text m) →
          program m (decls.map (resolve g c)) variant = .ok p → p.definedNames.Nodup := by
  intro h
  obtain ⟨p, hp⟩ : ∃ p, program protocolForms (protocolForms.records.map (resolve .standard {})) .direct = .ok p :=
    ⟨_, rfl⟩
  have hcode : emitModule protocolForms (protocolForms.records.map (resolve .standard {})) .direct =
      .ok (p.text protocolForms) := by
    rw [emitModule_eq, hp]
    rfl
  have hdistinct := h _ _ _ _ _ _ (by decide) hcode hp
  exact absurd ((nodup_definedNames hp).1 hdistinct).2.1 (by decide)

end Vetted.Proofs.DefinedNames
