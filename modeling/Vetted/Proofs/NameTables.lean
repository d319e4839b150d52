import Vetted.Text.Case
import Vetted.Text.Identifier
import Vetted.Proofs.TableSearch

namespace Vetted.Proofs.NameTables

open Text TableSearch

/-- The number whose bits are set at the code points of some ranges. -/
def maskOf : List (Nat × Nat) → Nat
  | [] => 0
  | s :: rest => ((1 <<< (s.2 + 1 - s.1)) - 1) <<< s.1 ||| maskOf rest

theorem testBit_maskOf {spans : List (Nat × Nat)} {n : Nat} :
    (maskOf spans).testBit n = true ↔ ∃ s ∈ spans, Holds n s := by
  induction spans with
  | nil => simp [maskOf]
  | cons s rest ih =>
      simp only [maskOf, Nat.testBit_or, Bool.or_eq_true, ih, Nat.testBit_shiftLeft, Nat.one_shiftLeft,
        Nat.testBit_two_pow_sub_one, Bool.and_eq_true, decide_eq_true_eq, List.mem_cons, exists_eq_or_imp]
      apply or_congr_left
      unfold Holds
      omega

theorem contains_iff_testBit {r : Ranges} (hr : r.spans.toList.IsChain Precedes) {n : Nat} :
    r.contains n = true ↔ (maskOf r.spans.toList).testBit n = true := by
  rw [contains_iff (List.isChain_iff_pairwise.1 hr), testBit_maskOf]
  simp

def iotaBelow : Char := '\u0345'

/-- What is asked of the capital form in an entry, with the sets of characters that open and that continue names. -/
def EntryAgrees (start rest : Nat) : Nat × List Nat → Prop
  | (_, []) => False
  | (n, d :: ds) =>
    (start.testBit d = true ↔ start.testBit n = true ∨ n = iotaBelow.toNat) ∧
      ∀ m ∈ d :: ds, m.isValidChar ∧ (rest.testBit n = true → rest.testBit m = true)

instance (start rest : Nat) : (e : Nat × List Nat) → Decidable (EntryAgrees start rest e)
  | (_, []) => inferInstanceAs (Decidable False)
  | (_, _ :: _) => inferInstanceAs (Decidable (_ ∧ _))

def AsciiAgrees (start rest n : Nat) : Prop :=
  start.testBit n = isNameStart (Char.ofNat n) ∧ rest.testBit n = isNameRest (Char.ofNat n)

instance (start rest n : Nat) : Decidable (AsciiAgrees start rest n) := inferInstanceAs (Decidable (_ ∧ _))

structure Agree (start rest : List (Nat × Nat)) (upper : List (Nat × List Nat)) : Prop where
  start_ordered : start.IsChain Precedes
  rest_ordered : rest.IsChain Precedes
  upper_ordered : upper.IsChain Below
  ascii : ∀ n < 128, AsciiAgrees (maskOf start) (maskOf rest) n
  start_rest : maskOf start &&& maskOf rest = maskOf start
  entries : ∀ e ∈ upper, EntryAgrees (maskOf start) (maskOf rest) e
  iota : ∃ e ∈ upper, e.1 = iotaBelow.toNat

instance (start rest : List (Nat × Nat)) (upper : List (Nat × List Nat)) : Decidable (Agree start rest upper) :=
  decidable_of_iff (start.IsChain Precedes ∧ rest.IsChain Precedes ∧ upper.IsChain Below ∧
      (∀ n < 128, AsciiAgrees (maskOf start) (maskOf rest) n) ∧ maskOf start &&& maskOf rest = maskOf start ∧
      (∀ e ∈ upper, EntryAgrees (maskOf start) (maskOf rest) e) ∧ ∃ e ∈ upper, e.1 = iotaBelow.toNat)
    ⟨fun ⟨h₁, h₂, h₃, h₄, h₅, h₆, h₇⟩ => ⟨h₁, h₂, h₃, h₄, h₅, h₆, h₇⟩,
      fun ⟨h₁, h₂, h₃, h₄, h₅, h₆, h₇⟩ => ⟨h₁, h₂, h₃, h₄, h₅, h₆, h₇⟩⟩

theorem tables_agree : Agree nameStartRanges.spans.toList nameRestRanges.spans.toList upperMapping.entries.toList := by
  -- a hypothesis, so that the lines are rewritten to their characters and the kernel does not decode them
  have spelled : ∀ cs : List Char, (String.ofList cs).toList = cs := fun _ => String.toList_ofList
  simp only [nameStartRanges, nameRestRanges, upperMapping, Ranges.ofLines, Mapping.ofLines, nameStartLines,
    nameRestLines, upperLines, List.flatMap_cons, List.flatMap_nil, spelled]
  decide +kernel

def startMask : Nat := maskOf nameStartRanges.spans.toList

def restMask : Nat := maskOf nameRestRanges.spans.toList

theorem class_iff {r : Ranges} {p : Char → Bool} (hr : r.spans.toList.IsChain Precedes)
    (hlow : ∀ n < 128, (maskOf r.spans.toList).testBit n = p (Char.ofNat n))
    (hhigh : ∀ c, ¬c.toNat < 128 → p c = r.contains c.toNat) (c : Char) :
    p c = true ↔ (maskOf r.spans.toList).testBit c.toNat = true := by
  by_cases hc : c.toNat < 128
  · rw [hlow c.toNat hc, Char.ofNat_toNat]
  · rw [hhigh c hc, contains_iff_testBit hr]

theorem isNameStart_iff (c : Char) : isNameStart c = true ↔ startMask.testBit c.toNat = true :=
  class_iff tables_agree.start_ordered (fun n hn => (tables_agree.ascii n hn).1) (fun _ hc => if_neg hc) c

theorem isNameRest_iff (c : Char) : isNameRest c = true ↔ restMask.testBit c.toNat = true :=
  class_iff tables_agree.rest_ordered (fun n hn => (tables_agree.ascii n hn).2) (fun _ hc => if_neg hc) c

theorem isNameRest_of_isNameStart {c : Char} (h : isNameStart c = true) : isNameRest c = true := by
  rw [isNameStart_iff, startMask, ← tables_agree.start_rest, Nat.testBit_and, Bool.and_eq_true] at h
  exact (isNameRest_iff c).2 h.2

/-- A capital form: not empty, of characters of names if the character is one, and with a first character that opens a
name exactly if the character does or is the iota below. -/
structure IsCapital (c : Char) (cs : List Char) : Prop where
  opens : ∃ d ds, cs = d :: ds ∧ (isNameStart d = true ↔ isNameStart c = true ∨ c = iotaBelow)
  rest : isNameRest c = true → ∀ d ∈ cs, isNameRest d = true

theorem isCapital_ascii {c : Char} (hc : c.toNat < 128) : IsCapital c [c.toUpper] := by
  have hall : ∀ n < 128, (isNameStart (Char.ofNat n).toUpper = true ↔ isNameStart (Char.ofNat n) = true) ∧
      (isNameRest (Char.ofNat n) = true → isNameRest (Char.ofNat n).toUpper = true) := by
    decide +kernel
  obtain ⟨hstart, hrest⟩ := hall c.toNat hc
  rw [Char.ofNat_toNat] at hstart hrest
  have hne : c ≠ iotaBelow := by
    rintro rfl
    exact absurd hc (by decide)
  exact ⟨⟨_, _, rfl, by simpa [hne] using hstart⟩, by simpa using hrest⟩

theorem isCapital_of_entry {c : Char} {image : List Nat} (h : EntryAgrees startMask restMask (c.toNat, image)) :
    IsCapital c (image.map Char.ofNat) := by
  cases image with
  | nil => exact h.elim
  | cons d ds =>
      obtain ⟨hstart, hrest⟩ := h
      have htoNat : ∀ m ∈ d :: ds, (Char.ofNat m).toNat = m := by
        intro m hm
        rw [show Char.ofNat m = Char.ofNatAux m (hrest m hm).1 from dif_pos _]
        rfl
      refine ⟨⟨_, _, rfl, ?_⟩, ?_⟩
      · rw [isNameStart_iff, isNameStart_iff, htoNat d List.mem_cons_self, hstart, ← Char.toNat_inj]
      · intro hc e he
        obtain ⟨m, hm, rfl⟩ := List.mem_map.1 he
        rw [isNameRest_iff, htoNat m hm]
        exact (hrest m hm).2 ((isNameRest_iff c).1 hc)

theorem isCapital_upperChar (c : Char) : IsCapital c (upperChar c) := by
  have hentry : ∀ {n image}, upperMapping.get? n = some image ↔ (n, image) ∈ upperMapping.entries.toList := by
    intro n image
    rw [get?_eq_some_iff (List.isChain_iff_pairwise.1 tables_agree.upper_ordered), Array.mem_toList_iff]
  rw [upperChar]
  split
  · rename_i hc
    exact isCapital_ascii hc
  · rw [Mapping.apply]
    cases hget : upperMapping.get? c.toNat with
    | some image => exact isCapital_of_entry (tables_agree.entries _ (hentry.1 hget))
    | none =>
        have hne : c ≠ iotaBelow := by
          rintro rfl
          obtain ⟨⟨n, image⟩, hmem, rfl⟩ := tables_agree.iota
          simp [hentry.2 hmem] at hget
        exact ⟨⟨c, [], rfl, by simp [hne]⟩, by simp⟩

end Vetted.Proofs.NameTables
