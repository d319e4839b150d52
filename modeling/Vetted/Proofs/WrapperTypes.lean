import Vetted.Proofs.DefinedNames
import Vetted.Proofs.TextOrder

namespace Vetted.Proofs.WrapperTypes

open Domain Generated DefinedNames GeneratedProgram Sequence TextOrder

variable {records : List Record} {variant : Variant} {shared : List String} {r : Record} {f : Domain.Field}

def OneType (records : List Record) (name : String) : Prop :=
  ∀ r ∈ records, ∀ f ∈ r.fields, ∀ s ∈ records, ∀ g ∈ s.fields,
    Naming.wrapperName f.name = name → Naming.wrapperName g.name = name → f.typeName = g.typeName

theorem mem_wrapperUses {w : Wrapper} :
    w ∈ wrapperUses records ↔ ∃ r ∈ records, ∃ f ∈ r.fields, w = ⟨Naming.wrapperName f.name, f.typeName⟩ := by
  simp only [wrapperUses, List.mem_flatMap, List.mem_map, eq_comm]

theorem mem_scopedNames {name : String} :
    name ∈ scopedNames records ↔
      ∃ a ∈ wrapperUses records, ∃ b ∈ wrapperUses records, a.name = name ∧ b.name = name ∧ a.base ≠ b.base := by
  rw [scopedNames, List.mem_filter, mem_distinct]
  simp only [List.any_eq_true, Bool.and_eq_true, decide_eq_true_eq, List.mem_map]
  constructor
  · rintro ⟨-, a, ha, haname, b, hb, hbname, hbase⟩
    exact ⟨a, ha, b, hb, haname, hbname, hbase⟩
  · rintro ⟨a, ha, b, hb, haname, hbname, hbase⟩
    exact ⟨⟨a, ha, haname⟩, a, ha, haname, b, hb, hbname, hbase⟩

theorem not_mem_scopedNames {name : String} : name ∉ scopedNames records ↔ OneType records name := by
  rw [mem_scopedNames]
  constructor
  · intro hnone r hr f hf s hs g hg hfname hgname
    by_contra hbase
    exact hnone ⟨⟨_, f.typeName⟩, mem_wrapperUses.2 ⟨r, hr, f, hf, rfl⟩, ⟨_, g.typeName⟩,
      mem_wrapperUses.2 ⟨s, hs, g, hg, rfl⟩, hfname, hgname, hbase⟩
  · rintro hone ⟨a, ha, b, hb, haname, hbname, hbase⟩
    obtain ⟨r, hr, f, hf, rfl⟩ := mem_wrapperUses.1 ha
    obtain ⟨s, hs, g, hg, rfl⟩ := mem_wrapperUses.1 hb
    exact hbase (hone r hr f hf s hs g hg haname hbname)

theorem wrapperName_eq_bare_iff {field scope : String} :
    Naming.wrapperName field scope = Naming.wrapperName field ↔ scope = "" := by
  rw [Naming.wrapperName, Naming.wrapperName, ← String.toList_inj]
  simp

theorem wrapperName_scopeOf_iff (hinput : r.inputName ≠ "") :
    Naming.wrapperName f.name (scopeOf r (scopedNames records) f) = Naming.wrapperName f.name ↔
      OneType records (Naming.wrapperName f.name) := by
  rw [wrapperName_eq_bare_iff, ← not_mem_scopedNames, scopeOf]
  by_cases hscoped : Naming.wrapperName f.name ∈ scopedNames records
  · simp [hscoped, hinput]
  · simp [hscoped]

theorem fieldsOf_of_collectWrappers {declared out : List Wrapper}
    (h : collectWrappers variant shared declared records = .ok out) (hr : r ∈ records) :
    ∃ fields, fieldsOf r variant shared = .ok fields := by
  induction records generalizing declared with
  | nil => cases hr
  | cons s rest ih =>
      rw [collectWrappers] at h
      obtain ⟨fields, hfields, h⟩ := bind_eq_ok_iff.1 h
      obtain ⟨added, -, h⟩ := bind_eq_ok_iff.1 h
      obtain rfl | hr := List.mem_cons.1 hr
      · exact ⟨fields, hfields⟩
      · exact ih h hr

theorem eq_of_name_eq {wrappers : List Wrapper} (hnames : (wrappers.map Wrapper.name).Nodup) {w v : Wrapper}
    (hw : w ∈ wrappers) (hv : v ∈ wrappers) (h : v.name = w.name) : v = w :=
  List.inj_on_of_nodup_map hnames hv hw h

structure WrappedBy (records : List Record) (wrappers : List Wrapper) (f : Domain.Field) (printed : Generated.Field) :
    Prop where
  found : ∃! w, w ∈ wrappers ∧ w.name = printed.typing
  own : ∀ w ∈ wrappers, w.name = printed.typing →
    w.base = f.typeName ∧ printed.wrapper = some w ∧ printed.value = .wrap w.name (sourceValue f)
  bare : printed.typing = Naming.wrapperName f.name ↔ OneType records (Naming.wrapperName f.name)

theorem wrappedBy_fieldOf {wrappers : List Wrapper}
    (h : wrappersOf records .newtype (scopedNames records) = .ok wrappers) (hr : r ∈ records) (hf : f ∈ r.fields)
    (hinput : r.inputName ≠ "") :
    WrappedBy records wrappers f (fieldOf f (scopeOf r (scopedNames records) f) .newtype) := by
  obtain ⟨hnames, hmem⟩ := wrappersOf_eq_ok h
  have hown := (hmem _).2 ⟨r, hr, mem_usedWrappers_newtype.2 ⟨f, hf, rfl⟩⟩
  refine ⟨⟨_, ⟨hown, rfl⟩, ?_⟩, ?_, wrapperName_scopeOf_iff hinput⟩
  · rintro w ⟨hw, hname⟩
    exact eq_of_name_eq hnames hown hw hname
  · intro w hw hname
    obtain rfl := eq_of_name_eq hnames hown hw hname
    exact ⟨rfl, rfl, rfl⟩

/-- The wrappers of a module differ in name. Each field of its records is printed with the name of one of them, which
wraps the type of the field; it is a bare name exactly if all fields with that name have one type. No wrapper is
without a field. -/
theorem wrappersOf_sound (records : List Record) (wrappers : List Wrapper)
    (hinputs : ∀ r ∈ records, r.inputName ≠ "")
    (h : wrappersOf records .newtype (scopedNames records) = .ok wrappers) :
    (wrappers.map Wrapper.name).Nodup ∧
      (∀ r ∈ records, ∃ printed, fieldsOf r .newtype (scopedNames records) = .ok printed ∧
        List.Forall₂ (WrappedBy records wrappers) r.fields printed) ∧
      ∀ w ∈ wrappers, ∃ r ∈ records, ∃ printed, fieldsOf r .newtype (scopedNames records) = .ok printed ∧
        ∃ q ∈ printed, q.wrapper = some w := by
  have hprinted : ∀ r ∈ records, fieldsOf r .newtype (scopedNames records) =
      .ok (r.fields.map fun f => fieldOf f (scopeOf r (scopedNames records) f) .newtype) := by
    intro r hr
    obtain ⟨printed, hfields⟩ := fieldsOf_of_collectWrappers h hr
    rw [hfields, (fieldsOf_eq_ok_iff.1 hfields).1]
  refine ⟨(wrappersOf_eq_ok h).1, fun r hr => ⟨_, hprinted r hr, ?_⟩, fun w hw => ?_⟩
  · rw [List.forall₂_map_right_iff, List.forall₂_same]
    exact fun f hf => wrappedBy_fieldOf h hr hf (hinputs r hr)
  · obtain ⟨r, hr, hused⟩ := ((wrappersOf_eq_ok h).2 w).1 hw
    obtain ⟨q, hq, hwrapper⟩ := List.mem_filterMap.1 hused
    exact ⟨r, hr, _, hprinted r hr, q, hq, hwrapper⟩

def shopRecords : List Record := shopForms.records.map (resolve .standard {})

/-- The two records of a shop differ on the type of `id`, so its wrappers are told apart by the names of the inputs. -/
theorem shopRecords_wrappers_sound :
    (∀ r ∈ shopRecords, r.inputName ≠ "") ∧
      ∃ wrappers, wrappersOf shopRecords .newtype (scopedNames shopRecords) = .ok wrappers ∧
        wrappers.map Wrapper.name = ["UserInputIdValid", "EmailValid", "OrderInputIdValid"] ∧
        (wrappers.map Wrapper.name).Nodup ∧
        ∀ r ∈ shopRecords, ∃ printed, fieldsOf r .newtype (scopedNames shopRecords) = .ok printed ∧
          List.Forall₂ (WrappedBy shopRecords wrappers) r.fields printed := by
  have hinputs : ∀ r ∈ shopRecords, r.inputName ≠ "" := by decide
  obtain ⟨wrappers, hwrappers, hnames⟩ : ∃ wrappers,
      wrappersOf shopRecords .newtype (scopedNames shopRecords) = .ok wrappers ∧
        wrappers.map Wrapper.name = ["UserInputIdValid", "EmailValid", "OrderInputIdValid"] :=
    ⟨_, rfl, by decide⟩
  obtain ⟨hnodup, hfields, -⟩ := wrappersOf_sound _ wrappers hinputs hwrappers
  exact ⟨hinputs, wrappers, hwrappers, hnames, hnodup, hfields⟩

end Vetted.Proofs.WrapperTypes
