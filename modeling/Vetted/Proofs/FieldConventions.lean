import Mathlib.Data.List.Forall2
import Vetted.Proofs.RegistryOrder
import Vetted.Proofs.Resolution

namespace Vetted.Proofs.FieldConventions

open Domain Resolution TextOrder

variable {g : Registry} {c : Conventions} {f : Declaration.Field}

def Omitted (f : Declaration.Field) : Prop :=
  Text.strip f.serializeTag = "-" ∨ Text.strip f.transformTag = "omit"

instance : DecidablePred Omitted := fun _ => inferInstanceAs (Decidable (_ ∨ _))

def TakenForPassword (c : Conventions) (f : Declaration.Field) : Prop :=
  f.name = c.passwordField ∧ ∃ token ∈ Declaration.tokensOf f.validateTag, "min=".toList <+: token.toList

/-- What a domain field is to the field that it comes from. -/
structure Follows (g : Registry) (c : Conventions) (f : Declaration.Field) (d : Domain.Field) : Prop where
  source : d.source = f.name
  custom : d.kind = .custom ↔ g.contains f.typeName = true
  entry : ∀ rule, g.lookup f.typeName = some rule →
    d.name = rule.targetField ∧ d.typeName = rule.targetType ∧ d.rule = some rule
  copied : g.contains f.typeName = false → d.kind = .copy ∧ d.rule = none
  hashing : d.needsHashing = true ↔ g.contains f.typeName = false ∧ TakenForPassword c f
  password : d.needsHashing = true →
    d.typeName = "str" ∧ d.name = (c.passwordDomain.filter (· ≠ "")).getD f.name ∧
      (d.coerceText = true ↔ f.typeName ≠ "str")
  coercion : d.coerceText = true → d.needsHashing = true
  unchanged : d.kind ≠ .custom → d.needsHashing = false → d.name = f.name ∧ d.typeName = f.typeName

theorem isOmitted_iff : isOmitted f = true ↔ Omitted f := by
  simp [isOmitted, Omitted]

theorem isPassword_iff : isPassword c f = true ↔ TakenForPassword c f := by
  simp [isPassword, TakenForPassword, hasMinRule, Declaration.Field.rules, Text.startsWith]

theorem passwordName_eq : passwordName c f = (c.passwordDomain.filter (· ≠ "")).getD f.name := by
  rw [passwordName]
  cases c.passwordDomain with
  | none => rfl
  | some name => by_cases h : name = "" <;> simp [h, Option.filter]

theorem contains_of_rule {rule : TransformRule} (h : g.lookup f.typeName = some rule) :
    g.contains f.typeName = true := by
  rw [Registry.contains, h, Option.isSome_some]

theorem follows_keptField : Follows g c f (keptField g c f) := by
  cases hrule : g.lookup f.typeName with
  | some rule =>
      have hcontains := contains_of_rule hrule
      rw [keptField_of_rule hrule]
      constructor <;> simp [hrule, hcontains]
  | none =>
      have hcontains := RegistryOrder.contains_eq_false_iff.2 hrule
      rw [keptField_of_none hrule]
      by_cases hpassword : TakenForPassword c f
      · rw [if_pos (isPassword_iff.2 hpassword), passwordName_eq]
        constructor <;> simp [hrule, hcontains, hpassword]
      · rw [if_neg (isPassword_iff.not.2 hpassword)]
        constructor <;> simp [hrule, hcontains, hpassword]

theorem Follows.coerceText_eq {d : Domain.Field} (h : Follows g c f d) :
    d.coerceText = (d.needsHashing && f.typeName ≠ "str") := by
  cases hhashing : d.needsHashing with
  | true =>
      rw [Bool.eq_iff_iff, (h.password hhashing).2.2]
      simp
  | false =>
      rw [Bool.false_and, ← Bool.not_eq_true]
      intro hcoerce
      rw [h.coercion hcoerce] at hhashing
      cases hhashing

theorem Follows.eq_keptField {d : Domain.Field} (h : Follows g c f d) : d = keptField g c f := by
  have hsource := h.source
  have hcoerce := h.coerceText_eq
  cases hrule : g.lookup f.typeName with
  | some rule =>
      have hcontains := contains_of_rule hrule
      have hkind := h.custom.2 hcontains
      have hhashing : d.needsHashing = false := by simpa [hcontains] using h.hashing
      obtain ⟨hname, htype, hentry⟩ := h.entry rule hrule
      rw [keptField_of_rule hrule]
      cases d
      simp_all
  | none =>
      have hcontains := RegistryOrder.contains_eq_false_iff.2 hrule
      obtain ⟨hkind, hentry⟩ := h.copied hcontains
      rw [keptField_of_none hrule]
      by_cases hpassword : TakenForPassword c f
      · have hhashing := h.hashing.2 ⟨hcontains, hpassword⟩
        obtain ⟨htype, hname, -⟩ := h.password hhashing
        rw [if_pos (isPassword_iff.2 hpassword), passwordName_eq]
        cases d
        simp_all
      · have hhashing : d.needsHashing = false := by simpa [hpassword] using h.hashing
        obtain ⟨hname, htype⟩ := h.unchanged (by simp [hkind]) hhashing
        rw [if_neg (isPassword_iff.not.2 hpassword)]
        cases d
        simp_all

theorem follows_iff {d : Domain.Field} : Follows g c f d ↔ d = keptField g c f :=
  ⟨Follows.eq_keptField, fun h => h ▸ follows_keptField⟩

theorem fields_resolve_eq (r : Declaration.Record) :
    (resolve g c r).fields = (r.fields.filter (¬Omitted ·)).map (keptField g c) := by
  have hkept : ∀ f : Declaration.Field, (!isOmitted f) = decide (¬Omitted f) := by
    intro f
    rw [Bool.eq_iff_iff, Bool.not_eq_true', ← Bool.not_eq_true, isOmitted_iff, decide_eq_true_eq]
  simp only [fields_resolve, hkept]

theorem mem_capabilities_iff {r : Declaration.Record} {path : String} :
    path ∈ (resolve g c r).capabilities ↔
      path ≠ "" ∧ ∃ d ∈ (resolve g c r).fields, d.kind = .custom ∧
        ∃ rule, d.rule = some rule ∧ rule.capability = some path := by
  rw [mem_capabilities, fields_resolve]
  constructor
  · rintro ⟨f, hf, hkept, rule, hrule, hcapability, hpath⟩
    refine ⟨by simpa using hpath, keptField g c f, List.mem_map_of_mem (by simp [hf, hkept]), ?_⟩
    rw [keptField_of_rule hrule]
    exact ⟨rfl, rule, rfl, hcapability⟩
  · rintro ⟨hpath, d, hd, hkind, rule, hrule, hcapability⟩
    obtain ⟨f, hf, rfl⟩ := List.mem_map.1 hd
    obtain ⟨hmem, hkept⟩ := List.mem_filter.1 hf
    obtain ⟨entry, hentry⟩ := rule_of_kind_custom hkind
    rw [keptField_of_rule hentry] at hrule
    obtain rfl := Option.some.inj hrule
    exact ⟨f, hmem, by simpa using hkept, entry, hentry, hcapability, by simpa using hpath⟩

/-- A domain record has one field for each field that is not omitted, in order, and these fields are the ones that
follow the conventions. The modules that its conversions need are given in order and each once: those of the rules
that its fields follow. -/
theorem resolve_follows_conventions (g : Registry) (c : Conventions) (r : Declaration.Record) :
    (resolve g c r).fields.map Domain.Field.source = (r.fields.filter (¬Omitted ·)).map Declaration.Field.name ∧
      (∀ fields, List.Forall₂ (Follows g c) (r.fields.filter (¬Omitted ·)) fields ↔
        fields = (resolve g c r).fields) ∧
      (resolve g c r).capabilities.Pairwise (· < ·) ∧
      ∀ path, path ∈ (resolve g c r).capabilities ↔
        path ≠ "" ∧ ∃ d ∈ (resolve g c r).fields, d.kind = .custom ∧
          ∃ rule, d.rule = some rule ∧ rule.capability = some path := by
  refine ⟨?_, fun fields => ?_, sortTexts_distinct_pairwise _, fun path => mem_capabilities_iff⟩
  · rw [fields_resolve_eq, List.map_map]
    exact List.map_congr_left fun f _ => source_keptField f
  · have hfollows : Follows g c = fun f d => keptField g c f = d := by
      funext f d
      exact propext (follows_iff.trans eq_comm)
    rw [hfollows, fields_resolve_eq, ← List.forall₂_map_left_iff, List.forall₂_eq_eq_eq, eq_comm]

end Vetted.Proofs.FieldConventions
