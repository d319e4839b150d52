import Vetted.Text.Mapping
import Mathlib.Data.List.Chain

namespace Vetted.Proofs.TableSearch

open Text

variable {n lo hi fuel : Nat}

theorem related_of_lt {α : Type} {R : α → α → Prop} {items : Array α} (h : items.toList.Pairwise R) {i j : Nat}
    {a b : α} (ha : items[i]? = some a) (hb : items[j]? = some b) (hij : i < j) : R a b := by
  obtain ⟨hi, rfl⟩ := Array.getElem?_eq_some_iff.1 ha
  obtain ⟨hj, rfl⟩ := Array.getElem?_eq_some_iff.1 hb
  exact List.pairwise_iff_getElem.1 h i j (by simpa using hi) (by simpa using hj) hij

/-- A range that ends before another starts. -/
def Precedes (s t : Nat × Nat) : Prop := s.1 ≤ s.2 ∧ s.2 < t.1

instance (s t : Nat × Nat) : Decidable (Precedes s t) := inferInstanceAs (Decidable (_ ∧ _))

theorem Precedes.trans {s t u : Nat × Nat} (hst : Precedes s t) (htu : Precedes t u) : Precedes s u :=
  ⟨hst.1, lt_of_lt_of_le hst.2 (htu.1.trans htu.2.le)⟩

instance : IsTrans (Nat × Nat) Precedes := ⟨fun _ _ _ => Precedes.trans⟩

def Holds (n : Nat) (s : Nat × Nat) : Prop := s.1 ≤ n ∧ n ≤ s.2

instance (n : Nat) (s : Nat × Nat) : Decidable (Holds n s) := inferInstanceAs (Decidable (_ ∧ _))

theorem search_sound {r : Ranges} {s : Nat × Nat} (h : r.search n fuel lo hi = some s) : s ∈ r.spans ∧ Holds n s := by
  induction fuel generalizing lo hi with
  | zero => simp [Ranges.search] at h
  | succ fuel ih =>
      rw [Ranges.search] at h
      split at h
      · simp at h
      · cases hmid : r.spans[(lo + hi) / 2]? with
        | none => simp [hmid] at h
        | some t =>
            simp only [hmid] at h
            split at h
            · exact ih h
            · split at h
              · exact ih h
              · obtain rfl : t = s := by simpa using h
                exact ⟨Array.mem_of_getElem? hmid, by unfold Holds; omega⟩

section

variable {r : Ranges} (hr : r.spans.toList.Pairwise Precedes) {j k : Nat} {s t : Nat × Nat}
include hr

theorem place_lt_of_lt (hk : r.spans[k]? = some s) (hs : Holds n s) (hj : r.spans[j]? = some t) (ht : n < t.1) :
    k < j := by
  unfold Holds at hs
  rcases Nat.lt_trichotomy k j with hlt | rfl | hlt
  · exact hlt
  · obtain rfl : s = t := by simpa [hk] using hj
    omega
  · have := related_of_lt hr hj hk hlt
    unfold Precedes at this
    omega

theorem lt_place_of_lt (hk : r.spans[k]? = some s) (hs : Holds n s) (hj : r.spans[j]? = some t) (ht : t.1 ≤ n)
    (hlt : t.2 < n) : j < k := by
  unfold Holds at hs
  rcases Nat.lt_trichotomy j k with hlt | rfl | hlt
  · exact hlt
  · obtain rfl : s = t := by simpa [hk] using hj
    omega
  · have := related_of_lt hr hk hj hlt
    unfold Precedes at this
    omega

theorem search_complete (hk : r.spans[k]? = some s) (hs : Holds n s) (hlo : lo ≤ k) (hhi : k < hi)
    (hsize : hi ≤ r.spans.size) (hfuel : hi - lo < fuel) : (r.search n fuel lo hi).isSome := by
  induction fuel generalizing lo hi with
  | zero => omega
  | succ fuel ih =>
      have hmid : (lo + hi) / 2 < r.spans.size := by omega
      have hget := Array.getElem?_eq_getElem hmid
      simp only [Ranges.search, if_neg (Nat.not_le.2 (hlo.trans_lt hhi)), hget]
      split
      · rename_i hlt
        have := place_lt_of_lt hr hk hs hget hlt
        exact ih hlo this hmid.le (by omega)
      · rename_i hle
        split
        · rename_i hlt
          have := lt_place_of_lt hr hk hs hget (Nat.not_lt.1 hle) hlt
          exact ih this hhi hsize (by omega)
        · rfl

theorem contains_iff : r.contains n = true ↔ ∃ s ∈ r.spans, Holds n s := by
  rw [Ranges.contains, Ranges.find?]
  constructor
  · intro h
    obtain ⟨s, hs⟩ := Option.isSome_iff_exists.1 h
    exact ⟨s, search_sound hs⟩
  · rintro ⟨s, hmem, hs⟩
    obtain ⟨k, hk⟩ := Array.mem_iff_getElem?.1 hmem
    have hsize := (Array.getElem?_eq_some_iff.1 hk).1
    exact search_complete hr hk hs (Nat.zero_le k) hsize le_rfl (by omega)

end

/-- An entry before another one. -/
def Below (a b : Nat × List Nat) : Prop := a.1 < b.1

instance (a b : Nat × List Nat) : Decidable (Below a b) := inferInstanceAs (Decidable (_ < _))

instance : IsTrans (Nat × List Nat) Below := ⟨fun _ _ _ => Nat.lt_trans⟩

/-- The search ends between the entries up to `n` and those behind it, if it starts with both ends on their sides. -/
theorem rank_spec {m : Mapping} (hm : m.entries.toList.Pairwise Below) (hsize : hi ≤ m.entries.size)
    (hfuel : hi - lo < fuel) (hbelow : ∀ i e, m.entries[i]? = some e → i < lo → e.1 ≤ n)
    (habove : ∀ i e, m.entries[i]? = some e → hi ≤ i → n < e.1) {k : Nat} {e : Nat × List Nat}
    (hk : m.entries[k]? = some e) : k < m.rank n fuel lo hi ↔ e.1 ≤ n := by
  induction fuel generalizing lo hi with
  | zero => omega
  | succ fuel ih =>
      rw [Mapping.rank]
      split
      · constructor
        · exact hbelow k e hk
        · intro hle
          by_contra hlt
          have := habove k e hk (by omega)
          omega
      · have hmid : (lo + hi) / 2 < m.entries.size := by omega
        have hget := Array.getElem?_eq_getElem hmid
        simp only [hget]
        split
        · rename_i hle
          apply ih hsize (by omega) _ habove
          intro i a ha hi
          rcases Nat.lt_or_eq_of_le (Nat.le_of_lt_succ hi) with hlt | rfl
          · exact (related_of_lt hm ha hget hlt).le.trans hle
          · exact Option.some.inj (hget.symm.trans ha) ▸ hle
        · rename_i hle
          apply ih hmid.le (by omega) hbelow
          intro i a ha hi
          rcases Nat.lt_or_eq_of_le hi with hlt | rfl
          · exact (Nat.not_le.1 hle).trans (related_of_lt hm hget ha hlt)
          · exact Option.some.inj (hget.symm.trans ha) ▸ Nat.not_le.1 hle

theorem rank_le {m : Mapping} (h : lo ≤ hi) : m.rank n fuel lo hi ≤ hi := by
  induction fuel generalizing lo hi with
  | zero => exact h
  | succ fuel ih =>
      rw [Mapping.rank]
      split
      · exact h
      · dsimp only
        split
        · exact h
        · split
          · exact ih (by omega)
          · exact (ih (by omega)).trans (by omega)

theorem mem_of_get? {m : Mapping} {image : List Nat} (h : m.get? n = some image) : (n, image) ∈ m.entries := by
  rw [Mapping.get?, Mapping.entryBelow?] at h
  grind [Array.mem_of_getElem?]

theorem get?_of_mem {m : Mapping} (hm : m.entries.toList.Pairwise Below) {image : List Nat}
    (h : (n, image) ∈ m.entries) : m.get? n = some image := by
  obtain ⟨k, hk⟩ := Array.mem_iff_getElem?.1 h
  have hrank : ∀ {i e}, m.entries[i]? = some e → (i < m.rank n (m.entries.size + 1) 0 m.entries.size ↔ e.1 ≤ n) := by
    intro i e hi
    apply rank_spec hm le_rfl (by omega) _ _ hi
    · intro i e _ hlt
      omega
    · intro i e hi hle
      have := (Array.getElem?_eq_some_iff.1 hi).1
      omega
  have hlast : m.rank n (m.entries.size + 1) 0 m.entries.size = k + 1 := by
    apply Nat.le_antisymm _ ((hrank hk).2 le_rfl)
    by_contra hlt
    -- the entry behind that of `n` would be among those up to `n`
    have hsize : k + 1 < m.entries.size := by
      have : m.rank n (m.entries.size + 1) 0 m.entries.size ≤ m.entries.size := rank_le (Nat.zero_le _)
      omega
    have hnext := Array.getElem?_eq_getElem hsize
    have hle := (hrank hnext).1 (by omega)
    have := related_of_lt hm hk hnext (Nat.lt_succ_self k)
    unfold Below at this
    omega
  simp [Mapping.get?, Mapping.entryBelow?, hlast, hk]

theorem get?_eq_some_iff {m : Mapping} (hm : m.entries.toList.Pairwise Below) {image : List Nat} :
    m.get? n = some image ↔ (n, image) ∈ m.entries :=
  ⟨mem_of_get?, get?_of_mem hm⟩

end Vetted.Proofs.TableSearch
