import Vetted.Proofs.DecimalText
import Vetted.Proofs.TagTokens

namespace Vetted.Proofs.ComparisonRules

open DecimalOrder DecimalText Number Decimal TagTokens

variable {tag token name p : String} {r : Rule} {c : Comparison} {v : Value} {m b : Extended}

def orders : List (String × (Extended → Extended → Prop)) :=
  [("min", fun m b => b ≤ m), ("gte", fun m b => b ≤ m), ("max", fun m b => m ≤ b), ("lte", fun m b => m ≤ b),
    ("gt", fun m b => b < m), ("lt", fun m b => m < b), ("len", fun m b => m = b), ("eq", fun m b => m = b),
    ("ne", fun m b => m ≠ b)]

/-- What values are measured by: integers that are not too long and decimals by themselves, texts and collections by
their length. A decimal may be no number. -/
inductive Measures : Value → Option Extended → Prop where
  | int {n : ℤ} (short : digitCount n.natAbs ≤ 4300) : Measures (.int n) (some (rational n))
  | decimal (d : Decimal) : Measures (.decimal d) (value? d)
  | text (s : String) : Measures (.text s) (some (rational s.length))
  | bytes (bs : List UInt8) : Measures (.bytes bs) (some (rational bs.length))
  | list (items : List Value) : Measures (.list items) (some (rational items.length))
  | tuple (items : List Value) : Measures (.tuple items) (some (rational items.length))
  | dict (entries : List (Value × Value)) : Measures (.dict entries) (some (rational entries.length))
  | set (items : List Value) : Measures (.set items) (some (rational items.length))
  | frozenSet (items : List Value) : Measures (.frozenSet items) (some (rational items.length))

def Breaks (r : Rule) (v : Value) : Prop := ∃ message, r.check v = .broken message

structure Decides (r : Rule) (order : Extended → Extended → Prop) : Prop where
  measured : ∀ b, Denotes r.param b → ∀ v m, Measures v (some m) →
    (r.check v = .pass ↔ order m b) ∧ (Breaks r v ↔ ¬order m b)
  noNumber : ∀ b, Denotes r.param b → ∀ v, Measures v none → Breaks r v
  missing : ∀ b, Denotes r.param b → Breaks r .none
  noBound : (¬∃ b, Denotes r.param b) → ∀ v, r.check v = .fault (.notNumber r.token r.param)

def Passes (tag name p : String) (v : Value) : Prop :=
  ∃ r, Rule.ofToken tag (name ++ "=" ++ p) = .ok r ∧ r.check v = .pass

theorem bound_of_denotes (h : Denotes r.param b) : ∃ d, r.bound = .ok d ∧ value? d = some b := by
  obtain ⟨d, hd, hvalue⟩ := denotes_iff.1 h
  have hnan : ¬d.isNan = true := by
    rw [isNan_iff, hvalue]
    exact Option.some_ne_none b
  refine ⟨d, ?_, hvalue⟩
  rw [Rule.bound, hd]
  exact if_neg hnan

theorem bound_of_not_denotes (h : ¬∃ b, Denotes r.param b) : r.bound = .error (.notNumber r.token r.param) := by
  rw [Rule.bound]
  cases hd : ofText? r.param with
  | none => rfl
  | some d =>
      have hnan : d.isNan = true := by
        rw [isNan_iff, Option.eq_none_iff_forall_ne_some]
        exact fun b hb => h ⟨b, denotes_iff.2 ⟨d, hd, hb⟩⟩
      exact if_pos hnan

theorem lt_pow_of_digitCount_le {n k : ℕ} (h : digitCount n ≤ k) : n < Nat.pow 10 k :=
  (lt_pow_digitCount n).trans_le (Nat.pow_le_pow_right (by omega) h)

theorem intText?_isSome {n : ℤ} (h : digitCount n.natAbs ≤ 4300) : (Value.intText? n).isSome = true := by
  rw [Value.intText?]
  generalize 4300 = k at h ⊢
  rw [if_pos (lt_pow_of_digitCount_le h)]
  rfl

theorem measure_of_measures {m : Option Extended} (h : Measures v m) :
    v ≠ .none ∧ ∃ d, Rule.measure v = .number d ∧ value? d = m := by
  cases h with
  | int hshort =>
      refine ⟨nofun, _, ?_, value?_ofInt _⟩
      rw [Rule.measure, if_pos (intText?_isSome hshort)]
  | decimal d => exact ⟨nofun, d, rfl, rfl⟩
  | text => exact ⟨nofun, _, rfl, value?_ofInt _⟩
  | bytes => exact ⟨nofun, _, rfl, value?_ofInt _⟩
  | list => exact ⟨nofun, _, rfl, value?_ofInt _⟩
  | tuple => exact ⟨nofun, _, rfl, value?_ofInt _⟩
  | dict => exact ⟨nofun, _, rfl, value?_ofInt _⟩
  | set => exact ⟨nofun, _, rfl, value?_ofInt _⟩
  | frozenSet => exact ⟨nofun, _, rfl, value?_ofInt _⟩

theorem check_compare (hkind : r.kind = .compare c) {d : Decimal} (hbound : r.bound = .ok d) (v : Value) :
    r.check v = r.checkBound c v d := by
  rw [Rule.check, hkind]
  simp only [hbound]

theorem checkBound_some (hsome : v ≠ .none) {x d : Decimal} {o : Ordering} (hmeasure : Rule.measure v = .number x)
    (hcompare : x.compare? d = some o) :
    r.checkBound c v d =
      if c.holds o then .pass else .broken (Rule.unit v ++ " must be " ++ (c.description ++ " " ++ r.param)) := by
  rw [Rule.checkBound]
  · simp only [hmeasure, hcompare]
  · exact hsome

theorem checkBound_none (hsome : v ≠ .none) {x d : Decimal} (hmeasure : Rule.measure v = .number x)
    (hcompare : x.compare? d = none) :
    r.checkBound c v d = .broken ("value must be " ++ (c.description ++ " " ++ r.param) ++ ", got NaN") := by
  rw [Rule.checkBound]
  · simp only [hmeasure, hcompare]
  · exact hsome

theorem mem_orders {order : Extended → Extended → Prop} (h : (name, order) ∈ orders) :
    '=' ∉ name.toList ∧ ∃ c, RuleKind.ofName? name = some (.compare c) ∧
      ∀ o m b, Ordering.Compares o m b → (c.holds o = true ↔ order m b) := by
  simp only [orders, List.mem_cons, Prod.mk.injEq, List.not_mem_nil, or_false] at h
  rcases h with ⟨rfl, rfl⟩ | ⟨rfl, rfl⟩ | ⟨rfl, rfl⟩ | ⟨rfl, rfl⟩ | ⟨rfl, rfl⟩ | ⟨rfl, rfl⟩ | ⟨rfl, rfl⟩ | ⟨rfl, rfl⟩ |
    ⟨rfl, rfl⟩
  · exact ⟨by decide, .min, rfl, fun o m b h => decide_eq_true_iff.trans h.ne_lt⟩
  · exact ⟨by decide, .gte, rfl, fun o m b h => decide_eq_true_iff.trans h.ne_lt⟩
  · exact ⟨by decide, .max, rfl, fun o m b h => decide_eq_true_iff.trans h.ne_gt⟩
  · exact ⟨by decide, .lte, rfl, fun o m b h => decide_eq_true_iff.trans h.ne_gt⟩
  · exact ⟨by decide, .gt, rfl, fun o m b h => decide_eq_true_iff.trans h.eq_gt⟩
  · exact ⟨by decide, .lt, rfl, fun o m b h => decide_eq_true_iff.trans h.eq_lt⟩
  · exact ⟨by decide, .len, rfl, fun o m b h => decide_eq_true_iff.trans h.eq_eq⟩
  · exact ⟨by decide, .eq, rfl, fun o m b h => decide_eq_true_iff.trans h.eq_eq⟩
  · exact ⟨by decide, .ne, rfl, fun o m b h => decide_eq_true_iff.trans (not_congr h.eq_eq)⟩

theorem ofToken_joined {order : Extended → Extended → Prop} (h : (name, order) ∈ orders) (tag p : String) :
    ∃ r, Rule.ofToken tag (name ++ "=" ++ p) = .ok r ∧ r.name = name ∧ r.param = p := by
  obtain ⟨hname, c, hkind, -⟩ := mem_orders h
  refine ⟨⟨.compare c, name, p, name ++ "=" ++ p⟩, ?_, rfl, rfl⟩
  rw [Rule.ofToken, split_joined hname]
  simp only [hkind]

theorem decides_of_ofToken {order : Extended → Extended → Prop} (hr : Rule.ofToken tag token = .ok r)
    (horder : (r.name, order) ∈ orders) : Decides r order := by
  obtain ⟨-, c, hname, hholds⟩ := mem_orders horder
  have hkind : r.kind = .compare c := Option.some.inj ((ofToken_eq_ok_iff.1 hr).1.symm.trans hname)
  constructor
  case measured =>
      intro b hb v m hm
      obtain ⟨d, hbound, hd⟩ := bound_of_denotes hb
      obtain ⟨hsome, x, hmeasure, hx⟩ := measure_of_measures hm
      obtain ⟨o, hcompare, ho⟩ := compare?_compares hx hd
      rw [Breaks, check_compare hkind hbound, checkBound_some hsome hmeasure hcompare, ← hholds o m b ho]
      by_cases h : c.holds o = true
      · simp [h]
      · simp [h]
  case noNumber =>
      intro b hb v hm
      obtain ⟨d, hbound, -⟩ := bound_of_denotes hb
      obtain ⟨hsome, x, hmeasure, hx⟩ := measure_of_measures hm
      rw [Breaks, check_compare hkind hbound, checkBound_none hsome hmeasure (compare?_of_nan hx d)]
      exact ⟨_, rfl⟩
  case missing =>
      intro b hb
      obtain ⟨d, hbound, -⟩ := bound_of_denotes hb
      exact ⟨_, check_compare hkind hbound .none⟩
  case noBound =>
      intro hb v
      rw [Rule.check, hkind]
      simp only [bound_of_not_denotes hb]

theorem passes_iff (order : Extended → Extended → Prop) (horder : (name, order) ∈ orders) (tag : String)
    (hb : Denotes p b) (hm : Measures v (some m)) : Passes tag name p v ↔ order m b := by
  obtain ⟨r, hr, rfl, rfl⟩ := ofToken_joined horder tag p
  have hdecides := ((decides_of_ofToken hr horder).measured b hb v m hm).1
  constructor
  · rintro ⟨r', hr', hpass⟩
    obtain rfl := Except.ok.inj (hr.symm.trans hr')
    exact hdecides.1 hpass
  · intro h
    exact ⟨r, hr, hdecides.2 h⟩

/-- Every rule that compares decides its order exactly, whatever the digits and the exponent of its parameter. Of
less, equal and greater exactly one passes. -/
theorem comparison_decides_exact_order (tag : String) :
    (∀ name order, (name, order) ∈ orders → ∀ p,
      ∃ r, Rule.ofToken tag (name ++ "=" ++ p) = .ok r ∧ r.name = name ∧ r.param = p) ∧
    (∀ token r, Rule.ofToken tag token = .ok r → ∀ order, (r.name, order) ∈ orders → Decides r order) ∧
    ∀ p b, Denotes p b → ∀ v m, Measures v (some m) → ∃! name, name ∈ ["lt", "eq", "gt"] ∧ Passes tag name p v := by
  refine ⟨fun name order h p => ofToken_joined h tag p, fun token r hr order h => decides_of_ofToken hr h, ?_⟩
  intro p b hb v m hm
  have hlt : Passes tag "lt" p v ↔ m < b := passes_iff (fun m b => m < b) (by simp [orders]) tag hb hm
  have heq : Passes tag "eq" p v ↔ m = b := passes_iff (fun m b => m = b) (by simp [orders]) tag hb hm
  have hgt : Passes tag "gt" p v ↔ b < m := passes_iff (fun m b => b < m) (by simp [orders]) tag hb hm
  simp only [List.mem_cons, List.not_mem_nil, or_false]
  obtain h | h | h := lt_trichotomy m b
  · refine ⟨"lt", ⟨.inl rfl, hlt.2 h⟩, ?_⟩
    rintro name ⟨rfl | rfl | rfl, hpass⟩
    · rfl
    · exact absurd (heq.1 hpass) h.ne
    · exact absurd (hgt.1 hpass) h.not_gt
  · refine ⟨"eq", ⟨.inr (.inl rfl), heq.2 h⟩, ?_⟩
    rintro name ⟨rfl | rfl | rfl, hpass⟩
    · exact absurd h (hlt.1 hpass).ne
    · rfl
    · exact absurd h (hgt.1 hpass).ne'
  · refine ⟨"gt", ⟨.inr (.inr rfl), hgt.2 h⟩, ?_⟩
    rintro name ⟨rfl | rfl | rfl, hpass⟩
    · exact absurd (hlt.1 hpass) h.not_gt
    · exact absurd (heq.1 hpass) h.ne'
    · rfl

theorem denotes_one : Denotes "10E-1" (rational 1) := by
  have hread : ofText? "10E-1" = some (.finite false 10 (-1)) := rfl
  refine denotes_iff.2 ⟨_, hread, ?_⟩
  rw [value?, scaled]
  norm_num

theorem not_denotes_nan : ¬∃ b, Denotes "NaN" b := by
  have hread : ofText? "NaN" = some (.nan false false 0) := rfl
  rintro ⟨b, hb⟩
  obtain ⟨d, hd, hvalue⟩ := denotes_iff.1 hb
  obtain rfl := Option.some.inj (hread.symm.trans hd)
  cases hvalue

/-- One hundred hundredths are at least ten tenths. -/
theorem comparison_of_equal_forms :
    (∃ r, Rule.ofToken "" ("gte" ++ "=" ++ "10E-1") = .ok r ∧ Denotes r.param (rational 1) ∧
      r.check (.decimal (.finite false 100 (-2))) = .pass ∧ Breaks r (.decimal (.nan false false 0)) ∧ Breaks r .none) ∧
    (∃ r, Rule.ofToken "" ("ne" ++ "=" ++ "NaN") = .ok r ∧ ∀ v, r.check v = .fault (.notNumber r.token r.param)) ∧
    ∃! name, name ∈ ["lt", "eq", "gt"] ∧ Passes "" name "10E-1" (.decimal (.finite false 100 (-2))) := by
  have hmeasure : Measures (.decimal (.finite false 100 (-2))) (some (rational 1)) := by
    have hvalue : value? (.finite false 100 (-2)) = some (rational 1) := by
      rw [value?, scaled]
      norm_num
    exact hvalue ▸ .decimal _
  obtain ⟨hrule, hdecides, hone⟩ := comparison_decides_exact_order ""
  refine ⟨?_, ?_, hone _ _ denotes_one _ _ hmeasure⟩
  · obtain ⟨r, hr, hname, hparam⟩ := hrule "gte" (fun m b => b ≤ m) (by simp [orders]) "10E-1"
    have hd := hdecides _ r hr (fun m b => b ≤ m) (by simp [orders, hname])
    have hb : Denotes r.param (rational 1) := hparam ▸ denotes_one
    exact ⟨r, hr, hb, (hd.measured _ hb _ _ hmeasure).1.2 le_rfl, hd.noNumber _ hb _ (.decimal _), hd.missing _ hb⟩
  · obtain ⟨r, hr, hname, hparam⟩ := hrule "ne" (fun m b => m ≠ b) (by simp [orders]) "NaN"
    have hd := hdecides _ r hr (fun m b => m ≠ b) (by simp [orders, hname])
    exact ⟨r, hr, hd.noBound (hparam ▸ not_denotes_nan)⟩

end Vetted.Proofs.ComparisonRules
