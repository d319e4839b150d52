import Vetted.Domain
import Vetted.Proofs.TextOrder

namespace Vetted.Proofs.Resolution

open Domain TextOrder

variable {g : Registry} {c : Conventions}

/-- A field that holds a password under the conventions: it has the name of one, and a least length. -/
def isPassword (c : Conventions) (f : Declaration.Field) : Bool := f.name = c.passwordField && hasMinRule f

/-- The domain field of a field that is not omitted. -/
def keptField (g : Registry) (c : Conventions) (f : Declaration.Field) : Domain.Field :=
  match g.lookup f.typeName with
  | some rule =>
    { name := rule.targetField, typeName := rule.targetType, source := f.name, kind := .custom, rule := some rule }
  | none =>
    if isPassword c f then
      { name := passwordName c f, typeName := "str", source := f.name, needsHashing := true,
        coerceText := f.typeName ≠ "str" }
    else { name := f.name, typeName := f.typeName, source := f.name }

theorem keptField_of_rule {f : Declaration.Field} {rule : TransformRule} (h : g.lookup f.typeName = some rule) :
    keptField g c f =
      { name := rule.targetField, typeName := rule.targetType, source := f.name, kind := .custom,
        rule := some rule } := by
  rw [keptField, h]

theorem keptField_of_none {f : Declaration.Field} (h : g.lookup f.typeName = none) :
    keptField g c f =
      if isPassword c f then
        { name := passwordName c f, typeName := "str", source := f.name, needsHashing := true,
          coerceText := f.typeName ≠ "str" }
      else { name := f.name, typeName := f.typeName, source := f.name } := by
  rw [keptField, h]

theorem source_keptField (f : Declaration.Field) : (keptField g c f).source = f.name := by
  rw [keptField]
  split
  · rfl
  · split <;> rfl

theorem rule_keptField_of_none {f : Declaration.Field} (h : g.lookup f.typeName = none) :
    (keptField g c f).rule = none := by
  rw [keptField_of_none h]
  split <;> rfl

theorem coerceText_keptField_of_none {f : Declaration.Field} (h : g.lookup f.typeName = none) :
    (keptField g c f).coerceText = (isPassword c f && f.typeName ≠ "str") := by
  rw [keptField_of_none h]
  cases isPassword c f <;> simp

theorem rule_of_kind_custom {f : Declaration.Field} (h : (keptField g c f).kind = .custom) :
    ∃ rule, g.lookup f.typeName = some rule := by
  cases hrule : g.lookup f.typeName with
  | some rule => exact ⟨rule, rfl⟩
  | none =>
      rw [keptField_of_none hrule] at h
      split at h <;> cases h

theorem fieldOf?_eq (f : Declaration.Field) :
    fieldOf? g c f = if isOmitted f then none else some (keptField g c f) := by
  rw [fieldOf?, classify, keptField]
  split
  · rfl
  · cases g.lookup f.typeName with
    | some rule => rfl
    | none =>
        change fieldUnder c f (if isPassword c f then .hash else .direct) = _
        cases isPassword c f <;> simp [fieldUnder]

theorem fields_resolve (d : Declaration.Record) :
    (resolve g c d).fields = (d.fields.filter fun f => !isOmitted f).map (keptField g c) := by
  change d.fields.filterMap (fieldOf? g c) = _
  induction d.fields with
  | nil => rfl
  | cons f rest ih =>
      rw [List.filterMap_cons, fieldOf?_eq, ih]
      cases ho : isOmitted f <;> simp [ho]

theorem classify_eq_custom_iff {f : Declaration.Field} {rule : TransformRule} :
    classify g c f = .custom rule ↔ isOmitted f = false ∧ g.lookup f.typeName = some rule := by
  rw [classify]
  cases isOmitted f with
  | true => simp
  | false =>
      cases g.lookup f.typeName with
      | some r => simp
      | none =>
          simp only [Bool.false_eq_true, if_false]
          split <;> simp

theorem capability?_eq_some_iff {k : Convention} {path : String} :
    k.capability? = some path ↔ ∃ rule, k = .custom rule ∧ rule.capability = some path ∧ path.isEmpty = false := by
  cases k with
  | custom rule => simp [Convention.capability?, Option.filter_eq_some_iff]
  | _ => simp [Convention.capability?]

theorem mem_capabilities {d : Declaration.Record} {path : String} :
    path ∈ (resolve g c d).capabilities ↔
      ∃ f ∈ d.fields, isOmitted f = false ∧
        ∃ rule, g.lookup f.typeName = some rule ∧ rule.capability = some path ∧ path.isEmpty = false := by
  rw [resolve, capabilitiesOf, mem_sorted_distinct, List.mem_filterMap]
  simp only [capability?_eq_some_iff, classify_eq_custom_iff]
  constructor
  · rintro ⟨f, hf, rule, ⟨hkept, hrule⟩, hpath⟩
    exact ⟨f, hf, hkept, rule, hrule, hpath⟩
  · rintro ⟨f, hf, hkept, rule, hrule, hpath⟩
    exact ⟨f, hf, rule, ⟨hkept, hrule⟩, hpath⟩

theorem standard_lookup {typeName : String} {rule : TransformRule} (h : Registry.standard.lookup typeName = some rule) :
    rule ∈ Registry.standard.rules ∧ rule.sourceType = typeName :=
  ⟨List.mem_of_find?_eq_some h, by simpa using List.find?_some h⟩

theorem standard_capability {rule : TransformRule} (h : rule ∈ Registry.standard.rules) :
    rule.capability = some Registry.fieldTypesModule := by
  revert rule
  simp [Registry.standard]

end Vetted.Proofs.Resolution
