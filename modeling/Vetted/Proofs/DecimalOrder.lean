import Mathlib.Algebra.Order.Field.Basic
import Mathlib.Algebra.Order.Ring.Rat
import Mathlib.Order.Compare
import Mathlib.Order.WithBot
import Mathlib.Tactic.Linarith
import Vetted.Number.Decimal

namespace Vetted.Proofs.DecimalOrder

open Number Decimal Ordering

abbrev Extended := WithBot (WithTop ℚ)

def rational (q : ℚ) : Extended := ((q : WithTop ℚ) : Extended)

/-- The number `n · 10 ^ e` with a sign. -/
def scaled (negative : Bool) (n : ℕ) (e : ℤ) : ℚ := if negative then -(n * 10 ^ e) else n * 10 ^ e

/-- What a decimal stands for; some decimals are no numbers. -/
def value? : Decimal → Option Extended
  | .finite negative digits exponent => some (rational (scaled negative digits exponent))
  | .infinite negative => some (if negative then ⊥ else ⊤)
  | .nan _ _ _ => none

theorem rational_lt_iff {p q : ℚ} : rational p < rational q ↔ p < q := by
  rw [rational, rational, WithBot.coe_lt_coe, WithTop.coe_lt_coe]

theorem rational_inj {p q : ℚ} : rational p = rational q ↔ p = q := by
  rw [rational, rational, WithBot.coe_inj, WithTop.coe_inj]

theorem bot_lt_rational (q : ℚ) : (⊥ : Extended) < rational q := WithBot.bot_lt_coe _

theorem rational_lt_top (q : ℚ) : rational q < (⊤ : Extended) := WithBot.coe_lt_coe.2 (WithTop.coe_lt_top q)

theorem compares_rational {p q : ℚ} {o : Ordering} (h : o.Compares p q) : o.Compares (rational p) (rational q) := by
  cases o with
  | lt => exact rational_lt_iff.2 h
  | eq => exact rational_inj.2 h
  | gt => exact rational_lt_iff.2 h

theorem ten_zpow_pos (e : ℤ) : (0 : ℚ) < 10 ^ e := zpow_pos (by norm_num) e

theorem lt_pow_digitCount (n : ℕ) : n < 10 ^ digitCount n :=
  (Nat.length_toDigits_le_iff (by omega) Nat.length_toDigits_pos).1 le_rfl

theorem pow_le_of_digitCount {n : ℕ} (hn : n ≠ 0) : 10 ^ (digitCount n - 1) ≤ n := by
  by_cases hone : digitCount n = 1
  · rw [hone]
    exact Nat.one_le_iff_ne_zero.2 hn
  · have hpos : 0 < digitCount n := Nat.length_toDigits_pos
    by_contra hlt
    have hle : digitCount n ≤ digitCount n - 1 :=
      (Nat.length_toDigits_le_iff (by omega) (by omega)).2 (Nat.not_le.1 hlt)
    omega

theorem scaled_lt_of_place {a b : ℕ} {e f : ℤ} (hb : b ≠ 0) (h : digitCount a + e < digitCount b + f) :
    (a : ℚ) * 10 ^ e < b * 10 ^ f := by
  have hpos : 0 < digitCount b := Nat.length_toDigits_pos
  have ha : (a : ℚ) < 10 ^ digitCount a := by exact_mod_cast lt_pow_digitCount a
  have hb : (10 : ℚ) ^ (digitCount b - 1) ≤ b := by exact_mod_cast pow_le_of_digitCount hb
  calc (a : ℚ) * 10 ^ e
      < 10 ^ digitCount a * 10 ^ e := mul_lt_mul_of_pos_right ha (ten_zpow_pos e)
    _ = 10 ^ (digitCount a + e : ℤ) := by rw [← zpow_natCast, ← zpow_add₀ (by norm_num)]
    _ ≤ 10 ^ ((digitCount b - 1 : ℕ) + f : ℤ) := zpow_le_zpow_right₀ (by norm_num) (by omega)
    _ = 10 ^ (digitCount b - 1) * 10 ^ f := by rw [zpow_add₀ (by norm_num), zpow_natCast]
    _ ≤ b * 10 ^ f := mul_le_mul_of_nonneg_right hb (ten_zpow_pos f).le

/-- A number with its last digit at a lower place, filled up with zeros. -/
theorem aligned_mul (a : ℕ) {e low : ℤ} (h : low ≤ e) :
    ((a * Nat.pow 10 (e - low).toNat : ℕ) : ℚ) * 10 ^ low = a * 10 ^ e := by
  have hdistance : ((e - low).toNat : ℤ) = e - low := Int.toNat_of_nonneg (by omega)
  have hpow : ((Nat.pow 10 (e - low).toNat : ℕ) : ℚ) = 10 ^ (e - low) := by
    rw [← hdistance, zpow_natCast]
    exact Nat.cast_pow 10 _
  rw [Nat.cast_mul, hpow, mul_assoc, ← zpow_add₀ (by norm_num)]
  congr 2
  omega

theorem compares_mul_right {p q c : ℚ} {o : Ordering} (hc : 0 < c) (h : o.Compares p q) :
    o.Compares (p * c) (q * c) := by
  cases o with
  | lt => exact mul_lt_mul_of_pos_right h hc
  | eq => exact congrArg (· * c) h
  | gt => exact mul_lt_mul_of_pos_right h hc

theorem compares_natCast {a b : ℕ} {o : Ordering} (h : o.Compares a b) : o.Compares (a : ℚ) (b : ℚ) := by
  cases o with
  | lt => exact Nat.cast_lt.2 h
  | eq => exact congrArg Nat.cast h
  | gt => exact Nat.cast_lt.2 h

/-- Sizes are compared exactly: by the place of the first digit, and for one place with all digits aligned. -/
theorem compareScaled_compares (a b : ℕ) (e f : ℤ) :
    (compareScaled a e b f).Compares ((a : ℚ) * 10 ^ e) (b * 10 ^ f) := by
  rw [compareScaled]
  split
  case isTrue hzero =>
      have hnat : (compare a b).Compares a b := (compare_iff a b).1 rfl
      -- One factor is zero, so the powers of ten do not matter.
      obtain rfl | rfl : a = 0 ∨ b = 0 := by simpa using hzero
      · have h := compares_mul_right (ten_zpow_pos f) (compares_natCast hnat)
        rw [Nat.cast_zero, zero_mul] at h ⊢
        exact h
      · have h := compares_mul_right (ten_zpow_pos e) (compares_natCast hnat)
        rw [Nat.cast_zero, zero_mul] at h ⊢
        exact h
  case isFalse hnonzero =>
      obtain ⟨ha, hb⟩ : a ≠ 0 ∧ b ≠ 0 := by simpa using hnonzero
      have hplace : (compare (digitCount a + e) (digitCount b + f)).Compares (digitCount a + e) (digitCount b + f) :=
        (compare_iff _ _).1 rfl
      simp only
      cases hcompare : compare (digitCount a + e) (digitCount b + f) with
      | lt =>
          rw [hcompare] at hplace
          rw [if_pos (by simp)]
          exact scaled_lt_of_place hb hplace
      | gt =>
          rw [hcompare] at hplace
          rw [if_pos (by simp)]
          exact scaled_lt_of_place ha hplace
      | eq =>
          rw [if_neg (by simp), ← aligned_mul a (min_le_left e f), ← aligned_mul b (min_le_right e f)]
          exact compares_mul_right (ten_zpow_pos _) (compares_natCast ((compare_iff _ _).1 rfl))

theorem scaled_pos {n : ℕ} (hn : n ≠ 0) (e : ℤ) : 0 < scaled false n e := by
  have hn : (0 : ℚ) < n := Nat.cast_pos.2 (Nat.pos_of_ne_zero hn)
  exact mul_pos hn (ten_zpow_pos e)

theorem scaled_true (n : ℕ) (e : ℤ) : scaled true n e = -scaled false n e := rfl

theorem scaled_zero (negative : Bool) (e : ℤ) : scaled negative 0 e = 0 := by
  cases negative <;> simp [scaled]

theorem scaled_nonneg (n : ℕ) (e : ℤ) : 0 ≤ scaled false n e := by
  by_cases hn : n = 0
  · rw [hn, scaled_zero]
  · exact (scaled_pos hn e).le

theorem scaled_eq (negative : Bool) (n : ℕ) (e : ℤ) : scaled negative n e = scaled (negative && n ≠ 0) n e := by
  by_cases hn : n = 0
  · rw [hn, scaled_zero, scaled_zero]
  · simp [hn]

theorem compare?_finite (m n : Bool) (a b : ℕ) (e f : ℤ) :
    ∃ o, (Decimal.finite m a e).compare? (.finite n b f) = some o ∧ o.Compares (scaled m a e) (scaled n b f) := by
  rw [compare?]
  by_cases hzero : a = 0 ∧ b = 0
  · obtain ⟨rfl, rfl⟩ := hzero
    refine ⟨.eq, by simp, ?_⟩
    rw [scaled_zero, scaled_zero]
    exact rfl
  · have hsome : ¬(a = 0 && b = 0) = true := by simpa using hzero
    rw [if_neg hsome, scaled_eq m, scaled_eq n]
    cases hm : (m && a ≠ 0) with
    | false =>
        cases hn : (n && b ≠ 0) with
        | false => exact ⟨_, rfl, compareScaled_compares a b e f⟩
        | true =>
            have hb : b ≠ 0 := by simp at hn; exact hn.2
            refine ⟨.gt, rfl, ?_⟩
            rw [scaled_true]
            exact lt_of_lt_of_le (neg_neg_of_pos (scaled_pos hb f)) (scaled_nonneg a e)
    | true =>
        have ha : a ≠ 0 := by simp at hm; exact hm.2
        cases hn : (n && b ≠ 0) with
        | false =>
            refine ⟨.lt, rfl, ?_⟩
            rw [scaled_true]
            exact lt_of_lt_of_le (neg_neg_of_pos (scaled_pos ha e)) (scaled_nonneg b f)
        | true =>
            -- Below zero the greater size is the lesser number.
            refine ⟨_, rfl, ?_⟩
            have h := compareScaled_compares b a f e
            rw [scaled_true, scaled_true]
            cases hsize : compareScaled b f a e with
            | lt => rw [hsize] at h; exact neg_lt_neg h
            | eq => rw [hsize] at h; exact congrArg Neg.neg (Eq.symm h)
            | gt => rw [hsize] at h; exact neg_lt_neg h

theorem compare?_compares {a b : Decimal} {x y : Extended} (ha : value? a = some x) (hb : value? b = some y) :
    ∃ o, a.compare? b = some o ∧ o.Compares x y := by
  cases a with
  | nan => cases ha
  | infinite m =>
      obtain rfl := Option.some.inj ha
      cases b with
      | nan => cases hb
      | infinite n =>
          obtain rfl := Option.some.inj hb
          refine ⟨_, rfl, ?_⟩
          cases m <;> cases n
          · exact rfl
          · exact bot_lt_top
          · exact bot_lt_top
          · exact rfl
      | finite n b f =>
          obtain rfl := Option.some.inj hb
          refine ⟨_, rfl, ?_⟩
          cases m
          · exact rational_lt_top _
          · exact bot_lt_rational _
  | finite m a e =>
      obtain rfl := Option.some.inj ha
      cases b with
      | nan => cases hb
      | infinite n =>
          obtain rfl := Option.some.inj hb
          refine ⟨_, rfl, ?_⟩
          cases n
          · exact rational_lt_top _
          · exact bot_lt_rational _
      | finite n b f =>
          obtain rfl := Option.some.inj hb
          obtain ⟨o, ho, hcompares⟩ := compare?_finite m n a b e f
          exact ⟨o, ho, compares_rational hcompares⟩

theorem compare?_of_nan {a : Decimal} (ha : value? a = none) (b : Decimal) : a.compare? b = none := by
  cases a with
  | nan => rfl
  | finite => cases ha
  | infinite => cases ha

theorem isNan_iff {d : Decimal} : d.isNan = true ↔ value? d = none := by
  cases d <;> simp [isNan, value?]

theorem value?_ofInt (n : ℤ) : value? (.ofInt n) = some (rational n) := by
  have hvalue : scaled (n < 0) n.natAbs 0 = n := by
    rw [scaled, zpow_zero, mul_one, Nat.cast_natAbs]
    by_cases hn : n < 0
    · rw [if_pos (by simpa using hn), abs_of_neg hn]
      simp
    · rw [if_neg (by simpa using hn), abs_of_nonneg (by omega)]
  rw [ofInt, value?, hvalue]

end Vetted.Proofs.DecimalOrder
