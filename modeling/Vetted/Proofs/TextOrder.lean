import Mathlib.Data.String.Basic
import Vetted.Text.Basic

namespace Vetted.Proofs.TextOrder

theorem mem_distinct {a : String} {items : List String} : a ∈ Text.distinct items ↔ a ∈ items := by
  induction items with
  | nil => rfl
  | cons b rest ih =>
      by_cases hab : a = b
      · simp [Text.distinct, hab]
      · simp [Text.distinct, hab, ih]

theorem nodup_distinct (items : List String) : (Text.distinct items).Nodup := by
  induction items with
  | nil => exact .nil
  | cons b rest ih =>
      rw [Text.distinct, List.nodup_cons]
      exact ⟨by simp, ih.filter _⟩

theorem atMost_iff {a b : String} : Text.atMost a b = true ↔ a ≤ b := by
  rw [Text.atMost, Bool.not_eq_true', decide_eq_false_iff_not, not_lt]

theorem insertText_perm (a : String) (items : List String) : (Text.insertText a items).Perm (a :: items) := by
  induction items with
  | nil => exact .refl _
  | cons b rest ih =>
      rw [Text.insertText]
      split
      · exact .refl _
      · exact (ih.cons b).trans (.swap a b rest)

theorem sortTexts_perm (items : List String) : (Text.sortTexts items).Perm items := by
  induction items with
  | nil => exact .refl _
  | cons a rest ih => exact (insertText_perm a _).trans (ih.cons a)

theorem mem_sortTexts {a : String} {items : List String} : a ∈ Text.sortTexts items ↔ a ∈ items :=
  (sortTexts_perm items).mem_iff

theorem insertText_pairwise {a : String} {items : List String} (h : items.Pairwise (· ≤ ·)) :
    (Text.insertText a items).Pairwise (· ≤ ·) := by
  induction items with
  | nil => exact List.pairwise_singleton _ a
  | cons b rest ih =>
      obtain ⟨hb, hrest⟩ := List.pairwise_cons.1 h
      rw [Text.insertText]
      split
      case isTrue hab =>
          rw [atMost_iff] at hab
          refine List.pairwise_cons.2 ⟨?_, h⟩
          rintro c (_ | ⟨_, hc⟩)
          · exact hab
          · exact hab.trans (hb c hc)
      case isFalse hab =>
          rw [atMost_iff, not_le] at hab
          refine List.pairwise_cons.2 ⟨?_, ih hrest⟩
          intro c hc
          obtain rfl | hc := List.mem_cons.1 ((insertText_perm a rest).mem_iff.1 hc)
          · exact hab.le
          · exact hb c hc

theorem sortTexts_pairwise_le (items : List String) : (Text.sortTexts items).Pairwise (· ≤ ·) := by
  induction items with
  | nil => exact .nil
  | cons a rest ih => exact insertText_pairwise ih

theorem sortTexts_distinct_pairwise (items : List String) :
    (Text.sortTexts (Text.distinct items)).Pairwise (· < ·) := by
  have hle := sortTexts_pairwise_le (Text.distinct items)
  have hne : (Text.sortTexts (Text.distinct items)).Nodup :=
    (sortTexts_perm (Text.distinct items)).nodup_iff.2 (nodup_distinct items)
  exact hle.imp₂ (fun a b hab hne => lt_of_le_of_ne hab hne) hne

theorem mem_sorted_distinct {a : String} {items : List String} :
    a ∈ Text.sortTexts (Text.distinct items) ↔ a ∈ items := by
  rw [mem_sortTexts, mem_distinct]

end Vetted.Proofs.TextOrder
