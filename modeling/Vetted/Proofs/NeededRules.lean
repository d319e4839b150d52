import Vetted.Proofs.RegistryOrder
import Vetted.Proofs.Resolution
import Vetted.Settings.Basic

namespace Vetted.Proofs.NeededRules

open Domain Registry RegistryOrder

variable {g h : Registry} {c : Conventions} {d : Declaration.Record} {rules others : List TransformRule}

def keptTypes (d : Declaration.Record) : List String :=
  (d.fields.filter fun f => !isOmitted f).map Declaration.Field.typeName

def AgreeOn (d : Declaration.Record) (g h : Registry) : Prop := ∀ t ∈ keptTypes d, g.lookup t = h.lookup t

theorem mem_keptTypes {f : Declaration.Field} (hf : f ∈ d.fields) (hkept : isOmitted f = false) :
    f.typeName ∈ keptTypes d := by
  apply List.mem_map_of_mem
  simp [hf, hkept]

theorem AgreeOn.classify_eq (hagree : AgreeOn d g h) {f : Declaration.Field} (hf : f ∈ d.fields) :
    classify g c f = classify h c f := by
  rw [classify, classify]
  cases homitted : isOmitted f with
  | true => rfl
  | false => rw [hagree f.typeName (mem_keptTypes hf homitted)]

theorem AgreeOn.resolve_eq (hagree : AgreeOn d g h) (c : Conventions) : resolve g c d = resolve h c d := by
  have hfields : d.fields.filterMap (fieldOf? g c) = d.fields.filterMap (fieldOf? h c) := by
    apply List.filterMap_congr
    intro f hf
    rw [fieldOf?, fieldOf?, hagree.classify_eq hf]
  have hneeds : d.fields.filterMap (fun f => (classify g c f).capability?) =
      d.fields.filterMap fun f => (classify h c f).capability? := by
    apply List.filterMap_congr
    intro f hf
    rw [hagree.classify_eq hf]
  rw [resolve, resolve, hfields, capabilitiesOf, capabilitiesOf, hneeds]

theorem agreeOn_of_merge {merged : Registry} (hmerged : g.merge rules = .ok merged)
    (hunused : ∀ r ∈ rules, r.sourceType ∉ keptTypes d) : AgreeOn d merged g := by
  intro t ht
  have hnone : ruleFor rules t = none := by
    rw [ruleFor_eq_none_iff, List.mem_map]
    rintro ⟨r, hr, rfl⟩
    exact hunused r hr ht
  rw [lookup_of_merge hmerged, hnone, Option.none_or]

theorem registry_perm {s : Settings} (hperm : others.Perm s.rules) (hg : s.registry = .ok g) :
    Settings.registry { s with rules := others } = .ok g := by
  rw [Settings.registry] at hg ⊢
  by_cases hempty : s.rules = []
  · obtain rfl : others = [] := List.Perm.eq_nil (hempty ▸ hperm)
    simpa [hempty] using hg
  · have hothers : others ≠ [] := fun hnone => hempty (List.Perm.nil_eq (hnone ▸ hperm)).symm
    rw [if_neg (by simpa using hempty)] at hg
    rw [if_neg (by simpa using hothers)]
    exact merge_perm hperm hg

/-- A record is resolved alike with any two registries that agree on the types of the fields that it keeps. So rules
for other types may be merged into a registry, and the rules of the settings may come in any order. -/
theorem resolve_needs_kept_types (c : Conventions) (d : Declaration.Record) :
    (∀ g h : Registry, (∀ t ∈ keptTypes d, g.lookup t = h.lookup t) → resolve g c d = resolve h c d) ∧
      (∀ (g : Registry) (rules : List TransformRule), Distinct rules → (∀ r ∈ rules, r.sourceType ∉ keptTypes d) →
        ∃ merged, g.merge rules = .ok merged ∧ resolve merged c d = resolve g c d) ∧
      ∀ (s : Settings) (others : List TransformRule), others.Perm s.rules → ∀ g, s.registry = .ok g →
        ∃ h, Settings.registry { s with rules := others } = .ok h ∧ resolve h c d = resolve g c d := by
  refine ⟨fun g h hagree => AgreeOn.resolve_eq hagree c, ?_, ?_⟩
  · intro g rules hdistinct hunused
    obtain ⟨merged, hmerged⟩ := (exists_merge_iff g).2 hdistinct
    exact ⟨merged, hmerged, (agreeOn_of_merge hmerged hunused).resolve_eq c⟩
  · intro s others hperm g hg
    exact ⟨g, registry_perm hperm hg, rfl⟩

def ledgerRecord : Declaration.Record where
  name := "LedgerInput"
  fields := [{ name := "born", typeName := "fieldtypes.DateOfBirthString" },
    { name := "cents", typeName := "money.Cents", serializeTag := "-" }]

/-- A rule for amounts of money changes the registry, but not what becomes of the record. -/
theorem ledgerRecord_needs_no_amounts :
    Distinct [centsRule] ∧ (∀ r ∈ [centsRule], r.sourceType ∉ keptTypes ledgerRecord) ∧
      ∃ merged, Registry.standard.merge [centsRule] = .ok merged ∧ merged.lookup "money.Cents" = some centsRule ∧
        resolve merged {} ledgerRecord = resolve .standard {} ledgerRecord := by
  have hdistinct : Distinct [centsRule] := by simp [Distinct]
  have hunused : ∀ r ∈ [centsRule], r.sourceType ∉ keptTypes ledgerRecord := by decide
  obtain ⟨merged, hmerged, hresolved⟩ :=
    (resolve_needs_kept_types {} ledgerRecord).2.1 .standard [centsRule] hdistinct hunused
  refine ⟨hdistinct, hunused, merged, hmerged, ?_, hresolved⟩
  rw [lookup_of_merge hmerged]
  rfl

end Vetted.Proofs.NeededRules
