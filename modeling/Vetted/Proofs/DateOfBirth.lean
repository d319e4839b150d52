import Mathlib.Data.Prod.Lex
import Mathlib.Tactic.IntervalCases
import Vetted.Proofs.ConverterFaults
import Vetted.Proofs.DatePattern

namespace Vetted.Proofs.DateOfBirth

open Converter ConverterFaults Date DatePattern TextPieces

def IsLeap (year : ℕ) : Prop := 4 ∣ year ∧ (100 ∣ year → 400 ∣ year)

instance (year : ℕ) : Decidable (IsLeap year) := inferInstanceAs (Decidable (_ ∧ _))

def monthLengths (year : ℕ) : List ℕ := [31, if IsLeap year then 29 else 28, 31, 30, 31, 30, 31, 31, 30, 31, 30, 31]

/-- A day that the calendar has in the years 1 to 9999. -/
structure IsReal (d : Date) : Prop where
  year : 1 ≤ d.year ∧ d.year ≤ 9999
  month : 1 ≤ d.month
  day : 1 ≤ d.day ∧ ∃ length, (monthLengths d.year)[d.month - 1]? = some length ∧ d.day ≤ length

/-- Dates are ordered by their years, then by their months, then by their days. -/
def IsAfter (a b : Date) : Prop := toLex (b.year, toLex (b.month, b.day)) < toLex (a.year, toLex (a.month, a.day))

variable {d today : Date}

theorem isLeap_iff (year : ℕ) : isLeap year = true ↔ IsLeap year := by
  simp only [isLeap, IsLeap, Bool.and_eq_true, Bool.or_eq_true, decide_eq_true_eq]
  omega

theorem monthLengths_getElem? {month : ℕ} (hlow : 1 ≤ month) (hhigh : month ≤ 12) (year : ℕ) :
    (monthLengths year)[month - 1]? = some (daysIn year month) := by
  by_cases htwo : month = 2
  · subst month
    simp [monthLengths, daysIn, isLeap_iff]
  · interval_cases month <;> simp_all [monthLengths, daysIn]

theorem isReal_iff : d.isReal = true ↔ IsReal d := by
  simp only [isReal, Bool.and_eq_true, decide_eq_true_eq]
  constructor
  · rintro ⟨⟨⟨⟨⟨hyear, hyear'⟩, hmonth⟩, hmonth'⟩, hday⟩, hday'⟩
    exact ⟨⟨hyear, hyear'⟩, hmonth, hday, _, monthLengths_getElem? hmonth hmonth' d.year, hday'⟩
  · rintro ⟨⟨hyear, hyear'⟩, hmonth, hday, length, hlength, hday'⟩
    have hmonth' : d.month ≤ 12 := by
      obtain ⟨hindex, -⟩ := List.getElem?_eq_some_iff.1 hlength
      have htwelve : (monthLengths d.year).length = 12 := rfl
      omega
    rw [monthLengths_getElem? hmonth hmonth'] at hlength
    obtain rfl := Option.some.inj hlength
    exact ⟨⟨⟨⟨⟨hyear, hyear'⟩, hmonth⟩, hmonth'⟩, hday⟩, hday'⟩

theorem isAfter_iff : d.isAfter today = true ↔ IsAfter d today := by
  simp only [isAfter, IsAfter, Prod.Lex.toLex_lt_toLex, Bool.or_eq_true, Bool.and_eq_true, decide_eq_true_eq]
  grind

variable {cs : List Char} {n : ℕ}

theorem reading_of_isDigit (h : ∀ c ∈ cs, c.isDigit = true) : reading cs = Nat.ofDigitChars 10 cs 0 := by
  have hvalues : cs.filterMap Text.digitValue? = cs.map fun c => c.toNat - '0'.toNat := by
    rw [List.filterMap_eq_map_iff_forall_eq_some]
    intro c hc
    have hdigit := h c hc
    rw [Char.isDigit, Bool.and_eq_true, decide_eq_true_eq, decide_eq_true_eq] at hdigit
    exact digitValue?_of_between hdigit.1 hdigit.2
  rw [reading, ← foldl_eq_ofDigits, hvalues, List.foldl_map]
  rfl

theorem isDigit_of_mem_padded {width : ℕ} {c : Char} (h : c ∈ padded width n) : c.isDigit = true := by
  obtain h | h := List.mem_append.1 h
  · rw [(List.mem_replicate.1 h).2]
    rfl
  · exact Nat.isDigit_of_mem_toDigits (by decide) (by decide) h

theorem reading_padded (width n : ℕ) : reading (padded width n) = n := by
  rw [reading_of_isDigit fun c => isDigit_of_mem_padded, padded, Nat.ofDigitChars_append,
    Nat.ofDigitChars_replicate_zero, Nat.mul_zero]
  exact Nat.ofDigitChars_ten_toDigits

theorem length_padded (h : n ≤ 9999) : (padded 4 n).length = 4 := by
  have hdigits : (Nat.toDigits 10 n).length ≤ 4 := (Nat.length_toDigits_le_iff (by decide) (by decide)).2 (by omega)
  rw [padded, List.length_append, List.length_replicate]
  omega

theorem isBlank_of_isDigit {c : Char} (h : c.isDigit = true) : Text.isBlank c = false := by
  rw [Char.isDigit, Bool.and_eq_true, decide_eq_true_eq, decide_eq_true_eq] at h
  obtain ⟨hlow, hhigh⟩ : 48 ≤ c.toNat ∧ c.toNat ≤ 57 := h
  rw [Text.isBlank, if_pos (by omega)]
  simp only [Bool.or_eq_false_iff, Bool.and_eq_false_iff, decide_eq_false_iff_not]
  omega

def isoParts (d : Date) : Parts := ⟨padded 4 d.year, padded 2 d.month, padded 2 d.day⟩

theorem toList_isoText (d : Date) : d.isoText.toList = (isoParts d).text := by
  simp [isoText, isoParts, Parts.text]

theorem monthOf?_padded {month : ℕ} (hlow : 1 ≤ month) (hhigh : month ≤ 12) :
    monthOf? (padded 2 month) = some month := by
  interval_cases month <;> rfl

theorem dayOf?_padded {day : ℕ} (hlow : 1 ≤ day) (hhigh : day ≤ 31) : dayOf? (padded 2 day) = some day := by
  interval_cases day <;> rfl

theorem daysIn_le (year month : ℕ) : daysIn year month ≤ 31 := by
  fun_cases daysIn year month <;> decide

theorem fit_isoParts (h : d.isReal = true) : (isoParts d).Fit := by
  simp only [isReal, Bool.and_eq_true, decide_eq_true_eq] at h
  obtain ⟨⟨⟨⟨⟨-, hyear⟩, hmonth⟩, hmonth'⟩, hday⟩, hday'⟩ := h
  refine ⟨mem_year_iff.2 ⟨length_padded hyear, ?_⟩, ?_, ?_⟩
  · intro c hc
    have hdigit := isDigit_of_mem_padded hc
    rw [Char.isDigit, Bool.and_eq_true, decide_eq_true_eq, decide_eq_true_eq] at hdigit
    rw [digitValue?_of_between hdigit.1 hdigit.2]
    rfl
  · exact (monthOf?_eq_some_iff.1 (monthOf?_padded hmonth hmonth')).1
  · exact (dayOf?_eq_some_iff.1 (dayOf?_padded hday (hday'.trans (daysIn_le _ _)))).1

theorem date_isoParts (d : Date) : (isoParts d).date = d := by
  simp only [Parts.date, isoParts, reading_padded]

theorem padded_ne_nil (width n : ℕ) : padded width n ≠ [] := by
  rw [padded]
  exact List.append_ne_nil_of_right_ne_nil _ Nat.toDigits_ne_nil

theorem trim_isoText {before after : List Char} (hblank : ∀ c ∈ before ++ after, Text.isBlank c = true) (d : Date) :
    Text.trim (before ++ d.isoText.toList ++ after) = d.isoText.toList := by
  have hyear := padded_ne_nil 4 d.year
  have hday := padded_ne_nil 2 d.day
  rw [toList_isoText]
  apply trim_of_blanks hblank
  · intro c hc
    have hhead : (isoParts d).text.head? = (padded 4 d.year).head? := List.head?_append_of_ne_nil _ hyear
    rw [hhead] at hc
    exact isBlank_of_isDigit (isDigit_of_mem_padded (List.mem_of_mem_head? hc))
  · intro c hc
    have hlast : (isoParts d).text.getLast? = (padded 2 d.day).getLast? := by
      simp [Parts.text, isoParts, List.getLast?_append, List.getLast?_cons, List.getLast?_eq_some_getLast hday]
    rw [hlast] at hc
    exact isBlank_of_isDigit (isDigit_of_mem_padded (List.mem_of_mem_getLast? hc))
  · simp [Parts.text]

theorem ofText?_isoText {before after : List Char} (hblank : ∀ c ∈ before ++ after, Text.isBlank c = true)
    (h : d.isReal = true) : ofText? (String.ofList (before ++ d.isoText.toList ++ after)) = some d := by
  refine ofText?_eq_some_iff.2 ⟨isoParts d, fit_isoParts h, ?_, date_isoParts d, h⟩
  rw [String.toList_ofList, trim_isoText hblank, toList_isoText]

def Spells (cs : List Char) (d : Date) : Prop := ∃ p : Parts, p.Fit ∧ cs = p.text ∧ p.date = d

theorem toDateOfBirth_eq_ok_iff {raw v : Value} :
    toDateOfBirth today raw = .ok v ↔
      ∃ s d, raw = .text s ∧ v = .date d ∧ ofText? s = some d ∧ d.isAfter today = false := by
  constructor
  · intro h
    unfold toDateOfBirth at h
    split at h
    · rename_i s
      split at h
      · cases h
      · rename_i d hd
        split at h
        · cases h
        · rename_i hnot
          exact ⟨s, d, rfl, (Except.ok.inj h).symm, hd, by simpa using hnot⟩
    · cases h
  · rintro ⟨s, d, rfl, rfl, hd, hnot⟩
    simp [toDateOfBirth, hd, hnot]

/-- A date that is written, with blanks around it, is converted back unless it lies in the future. What is converted
is a text that spells the day it is converted to, and that day is in the calendar and not after today. All else is
unusable. A text spells a day of the calendar exactly if the pattern reads it. -/
theorem toDateOfBirth_undoes_isoText (today : Date) :
    (∀ (d : Date) (before after : List Char), IsReal d → (∀ c ∈ before ++ after, Text.isBlank c = true) →
      (¬IsAfter d today →
        toDateOfBirth today (.text (String.ofList (before ++ d.isoText.toList ++ after))) = .ok (.date d)) ∧
      (IsAfter d today →
        toDateOfBirth today (.text (String.ofList (before ++ d.isoText.toList ++ after))) =
          .error (.unusable ("date of birth " ++ d.isoText ++ " is in the future")))) ∧
    (∀ raw v, toDateOfBirth today raw = .ok v ↔
      ∃ s d, raw = .text s ∧ v = .date d ∧ Spells (Text.trim s.toList) d ∧ IsReal d ∧ ¬IsAfter d today) ∧
    (∀ raw, (¬∃ v, toDateOfBirth today raw = .ok v) → ∃ message, toDateOfBirth today raw = .error (.unusable message)) ∧
    ∀ cs d, read cs = some d ↔ Spells cs d ∧ IsReal d := by
  have hread : ∀ cs d, read cs = some d ↔ Spells cs d ∧ IsReal d := by
    intro cs d
    rw [read_eq_some_iff, ← isReal_iff]
    constructor
    · rintro ⟨p, hfit, hcs, hdate, hreal⟩
      exact ⟨⟨p, hfit, hcs, hdate⟩, hreal⟩
    · rintro ⟨⟨p, hfit, hcs, hdate⟩, hreal⟩
      exact ⟨p, hfit, hcs, hdate, hreal⟩
  refine ⟨?_, ?_, ?_, hread⟩
  · intro d before after hreal hblank
    have hd := ofText?_isoText hblank (isReal_iff.2 hreal)
    rw [← isAfter_iff]
    constructor
    · intro hnot
      exact toDateOfBirth_eq_ok_iff.2 ⟨_, d, rfl, rfl, hd, by simpa using hnot⟩
    · intro hafter
      simp only [toDateOfBirth, hd, hafter, if_true]
  · intro raw v
    rw [toDateOfBirth_eq_ok_iff]
    simp only [ofText?_eq_read, hread, ← isAfter_iff, Bool.not_eq_true, and_assoc]
  · intro raw hnone
    obtain ⟨e, he⟩ := Sequence.exists_error_iff.2 hnone
    obtain ⟨message, rfl⟩ := toDateOfBirth_reports he
    exact ⟨message, he⟩

/-- The leap day of a year that four divides, after a tab and before a line end, and the day that the year before it
lacks. -/
theorem leapDay_converted :
    IsReal ⟨2024, 2, 29⟩ ∧ (∀ c ∈ ['\t'] ++ ['\n'], Text.isBlank c = true) ∧ ¬IsAfter ⟨2024, 2, 29⟩ ⟨2026, 11, 15⟩ ∧
      toDateOfBirth ⟨2026, 11, 15⟩ (.text "\t2024-02-29\n") = .ok (.date ⟨2024, 2, 29⟩) ∧
        ∃ message, toDateOfBirth ⟨2026, 11, 15⟩ (.text "2023-02-29") = .error (.unusable message) := by
  obtain ⟨hundoes, hok, hrest, hread⟩ := toDateOfBirth_undoes_isoText ⟨2026, 11, 15⟩
  have hreal : IsReal ⟨2024, 2, 29⟩ := isReal_iff.1 (by decide)
  have hblank : ∀ c ∈ ['\t'] ++ ['\n'], Text.isBlank c = true := List.all_eq_true.1 (by decide)
  have hpast : ¬IsAfter ⟨2024, 2, 29⟩ ⟨2026, 11, 15⟩ := by
    rw [← isAfter_iff]
    decide
  refine ⟨hreal, hblank, hpast, (hundoes _ _ _ hreal hblank).1 hpast, hrest _ ?_⟩
  rintro ⟨v, h⟩
  obtain ⟨s, d, hs, -, hspells, hd, -⟩ := (hok _ v).1 h
  obtain rfl := Value.text.inj hs
  have hnone : read (Text.trim "2023-02-29".toList) = none := by decide
  exact Option.some_ne_none d ((hread _ _).2 ⟨hspells, hd⟩ ▸ hnone)

end Vetted.Proofs.DateOfBirth
