import Vetted.Domain
import Vetted.Generated.Rendering
import Vetted.Proofs.TextOrder
import Vetted.Source.Binding

namespace Vetted.Proofs.ImportOrder

open Source Generated TextOrder

variable {exports : Exports} {name : String}

theorem originAfter_nil : originAfter exports [] name = none := rfl

theorem originAfter_append (xs ys : List String) :
    originAfter exports (xs ++ ys) name = (originAfter exports ys name).or (originAfter exports xs name) := by
  simp [originAfter, List.lookup_append]

theorem originAfter_cons (line : String) (lines : List String) :
    originAfter exports (line :: lines) name =
      (originAfter exports lines name).or (originAfter exports [line] name) :=
  originAfter_append [line] lines

theorem originAfter_eq_none_iff {lines : List String} :
    originAfter exports lines name = none ↔ ∀ line ∈ lines, originAfter exports [line] name = none := by
  induction lines with
  | nil => simp [originAfter_nil]
  | cons line lines ih =>
      rw [originAfter_cons, Option.or_eq_none_iff, ih]
      simp [and_comm]

theorem originAfter_eq_some_iff {lines : List String} {o : Origin} :
    originAfter exports lines name = some o ↔
      ∃ before line after, lines = before ++ line :: after ∧ originAfter exports [line] name = some o ∧
        ∀ other ∈ after, originAfter exports [other] name = none := by
  constructor
  · intro h
    induction lines with
    | nil => cases h
    | cons line lines ih =>
        rw [originAfter_cons, Option.or_eq_some_iff] at h
        obtain h | ⟨hnone, h⟩ := h
        · obtain ⟨before, l, after, rfl, hl, hafter⟩ := ih h
          exact ⟨line :: before, l, after, rfl, hl, hafter⟩
        · exact ⟨[], line, lines, rfl, h, originAfter_eq_none_iff.1 hnone⟩
  · rintro ⟨before, line, after, rfl, hline, hafter⟩
    rw [originAfter_append, originAfter_cons, originAfter_eq_none_iff.2 hafter, hline]
    rfl

theorem originAfter_sorted {lines : List String} (hsorted : lines.Pairwise (· < ·)) {o : Origin} :
    originAfter exports lines name = some o ↔
      ∃ line ∈ lines, originAfter exports [line] name = some o ∧
        ∀ other ∈ lines, originAfter exports [other] name ≠ none → other ≤ line := by
  rw [originAfter_eq_some_iff]
  constructor
  · rintro ⟨before, line, after, rfl, hline, hafter⟩
    refine ⟨line, by simp, hline, ?_⟩
    intro other hother hbinds
    obtain hbefore | rfl | hlater : other ∈ before ∨ other = line ∨ other ∈ after := by simpa using hother
    · exact ((List.pairwise_append.1 hsorted).2.2 other hbefore line (by simp)).le
    · exact le_rfl
    · exact absurd (hafter other hlater) hbinds
  · rintro ⟨line, hline, horigin, hgreatest⟩
    obtain ⟨before, after, rfl⟩ := List.append_of_mem hline
    refine ⟨before, line, after, rfl, horigin, ?_⟩
    intro other hother
    by_contra hbinds
    have hlt := List.rel_of_pairwise_cons (List.pairwise_append.1 hsorted).2.1 hother
    exact absurd (hgreatest other (by simp [hother]) hbinds) (not_le.2 hlt)

theorem mem_importsOf {m : Declaration.Module} {records : List Domain.Record} {variant : Variant} {line : String} :
    line ∈ importsOf m records variant ↔ line ∈ ownImports m records variant ∨ line ∈ m.imports := by
  rw [importsOf, mem_sorted_distinct, List.mem_append]

theorem importsOf_pairwise (m : Declaration.Module) (records : List Domain.Record) (variant : Variant) :
    (importsOf m records variant).Pairwise (· < ·) :=
  sortTexts_distinct_pairwise _

/-- The imports of a generated module let a name of the declarations stand for what it stood for there exactly if the
greatest line that binds the name, be it one of the declarations or one that the module needs itself, does so. -/
theorem importsOf_keeps_origin_iff (exports : Exports) (m : Declaration.Module) (records : List Domain.Record)
    (variant : Variant) (name : String) (hbound : originAfter exports m.imports name ≠ none) :
    originAfter exports (importsOf m records variant) name = originAfter exports m.imports name ↔
      ∃ line ∈ ownImports m records variant ++ m.imports,
        originAfter exports [line] name = originAfter exports m.imports name ∧
          ∀ other ∈ ownImports m records variant ++ m.imports,
            originAfter exports [other] name ≠ none → Text.atMost other line = true := by
  obtain ⟨o, ho⟩ := Option.ne_none_iff_exists'.1 hbound
  rw [ho, originAfter_sorted (importsOf_pairwise m records variant)]
  simp only [mem_importsOf, List.mem_append, atMost_iff]

def datedForms : Declaration.Module where
  name := "forms"
  imports := ["from dataclasses import dataclass", "from datetime import datetime",
    "from validgen.runtime import fieldtypes"]
  records :=
    [{ name := "VisitInput"
       fields := [{ name := "seen", typeName := "datetime" },
         { name := "born", typeName := "fieldtypes.DateOfBirthString" }] }]

theorem datedForms_keeps_fieldtypes :
    originAfter (fun _ => []) datedForms.imports "fieldtypes" ≠ none ∧
      originAfter (fun _ => []) (importsOf datedForms (datedForms.records.map (Domain.resolve .standard {})) .direct)
        "fieldtypes" = originAfter (fun _ => []) datedForms.imports "fieldtypes" := by
  have hbound : originAfter (fun _ => []) datedForms.imports "fieldtypes" ≠ none := by decide
  refine ⟨hbound, (importsOf_keeps_origin_iff _ _ _ _ _ hbound).2 ?_⟩
  exact ⟨"from validgen.runtime import fieldtypes", by decide, by decide, by decide⟩

/-- The class `datetime` of the declarations becomes the module in the generated code. -/
theorem importsOf_loses_origin :
    ¬∀ (exports : Exports) (m : Declaration.Module) (g : Registry) (c : Conventions) (variant : Variant)
      (name : String), originAfter exports m.imports name ≠ none →
        originAfter exports (importsOf m (m.records.map (Domain.resolve g c)) variant) name =
          originAfter exports m.imports name := by
  intro h
  have hkept := h (fun _ => []) datedForms .standard {} .direct "datetime" (by decide)
  have hdeclared : originAfter (fun _ => []) datedForms.imports "datetime" =
      some { path := ["datetime", "datetime"] } := by decide
  have hgenerated : originAfter (fun _ => [])
      (importsOf datedForms (datedForms.records.map (Domain.resolve .standard {})) .direct) "datetime" =
      some { path := ["datetime"] } := by decide
  rw [hdeclared, hgenerated] at hkept
  exact absurd hkept (by decide)

end Vetted.Proofs.ImportOrder
