import Mathlib.Data.List.Induction
import Mathlib.Data.List.TakeWhile
import Mathlib.Data.Nat.Digits.Defs
import Vetted.Proofs.DecimalOrder
import Vetted.Proofs.TextPieces

namespace Vetted.Proofs.DecimalText

open DecimalOrder Number Decimal TextPieces

variable {cs rest digits : List Char} {negative : Bool} {n places : ℕ} {e : ℤ} {s : String}

/-- A sign or none, and whether it is a minus. -/
inductive Sign : List Char → Bool → Prop where
  | none : Sign [] false
  | plus : Sign ['+'] false
  | minus : Sign ['-'] true

def IsDigits (cs : List Char) : Prop := ∀ c ∈ cs, c.isDigit = true

def spelled (cs : List Char) : ℕ := Nat.ofDigits 10 (cs.reverse.map fun c => c.toNat - '0'.toNat)

/-- Digits that may have a point before, among or behind them: the number that they spell without it, and how many of
them stand behind it. -/
inductive Coefficient : List Char → ℕ → ℕ → Prop where
  | whole {digits : List Char} (some : digits ≠ []) (all : IsDigits digits) : Coefficient digits (spelled digits) 0
  | pointed {whole fraction : List Char} (some : whole ++ fraction ≠ []) (all : IsDigits (whole ++ fraction)) :
      Coefficient (whole ++ '.' :: fraction) (spelled (whole ++ fraction)) fraction.length

inductive Exponent : List Char → ℤ → Prop where
  | none : Exponent [] 0
  | marked {mark : Char} {sign digits : List Char} {negative : Bool} (letter : mark = 'e' ∨ mark = 'E')
      (signed : Sign sign negative) (some : digits ≠ []) (all : IsDigits digits) :
      Exponent (mark :: (sign ++ digits)) (if negative then -(spelled digits : ℤ) else spelled digits)

/-- A number without its sign: digits and an exponent. The places of the first and the last digit are within limits. -/
structure Reads (cs : List Char) (n places : ℕ) (e : ℤ) : Prop where
  parts : ∃ coefficient exponent, cs = coefficient ++ exponent ∧ Coefficient coefficient n places ∧ Exponent exponent e
  first : e - places + digitCount n - 1 ≤ maxExponent
  last : minExponent ≤ e - places

def IsInfinity (cs : List Char) : Prop :=
  cs.map Char.toLower = ['i', 'n', 'f'] ∨ cs.map Char.toLower = ['i', 'n', 'f', 'i', 'n', 'i', 't', 'y']

/-- The number that a text denotes. Blanks around it and underscores do not count, and digits are those of any script.
-/
inductive Denotes (s : String) : Extended → Prop where
  | finite {sign number : List Char} {negative : Bool} {n places : ℕ} {e : ℤ} (text : plainText s = sign ++ number)
      (signed : Sign sign negative) (read : Reads number n places e) :
      Denotes s (rational (scaled negative n (e - places)))
  | infinite {sign word : List Char} {negative : Bool} (text : plainText s = sign ++ word) (signed : Sign sign negative)
      (named : IsInfinity word) : Denotes s (if negative then ⊥ else ⊤)

theorem spelled_concat (cs : List Char) (c : Char) : spelled (cs ++ [c]) = 10 * spelled cs + (c.toNat - 48) := by
  rw [spelled, List.reverse_concat, List.map_cons, Nat.ofDigits_cons, spelled]
  exact Nat.add_comm _ _

theorem natOf_eq_spelled (cs : List Char) : natOf cs = spelled cs := by
  induction cs using List.reverseRecOn with
  | nil => rfl
  | append_singleton cs c ih =>
      rw [spelled_concat, ← ih, natOf, List.foldl_append]
      rfl

theorem allDigits_iff : allDigits cs = true ↔ IsDigits cs := List.all_eq_true

theorem isDigits_append {xs ys : List Char} : IsDigits (xs ++ ys) ↔ IsDigits xs ∧ IsDigits ys := List.forall_mem_append

theorem toLower_of_isDigit {c : Char} (h : c.isDigit = true) : c.toLower = c := by
  simp only [Char.isDigit, Bool.and_eq_true, decide_eq_true_eq, ge_iff_le, UInt32.le_iff_toNat_le] at h
  delta Char.toLower
  rw [dif_neg]
  simp only [ge_iff_le, UInt32.le_iff_toNat_le]
  simp at h ⊢
  omega

theorem ne_of_isDigits {c : Char} (h : IsDigits cs) (hc : c.isDigit = false) : c ∉ cs := by
  intro hmem
  rw [h c hmem] at hc
  cases hc

theorem sign_signOf (cs : List Char) : ∃ sign, Sign sign (signOf cs).1 ∧ cs = sign ++ (signOf cs).2 := by
  unfold signOf
  split
  · exact ⟨['-'], .minus, rfl⟩
  · exact ⟨['+'], .plus, rfl⟩
  · exact ⟨[], .none, rfl⟩

/-- A text that does not start with a sign. -/
def Unsigned (cs : List Char) : Prop := ∀ c, cs.head? = some c → c ≠ '-' ∧ c ≠ '+'

theorem signOf_append {sign : List Char} (hsign : Sign sign negative) (hrest : Unsigned rest) :
    signOf (sign ++ rest) = (negative, rest) := by
  cases hsign with
  | minus => rfl
  | plus => rfl
  | none =>
      cases rest with
      | nil => rfl
      | cons c rest =>
          obtain ⟨hminus, hplus⟩ := hrest c rfl
          rw [List.nil_append, signOf]
          · rintro rest' heq
            exact hminus (List.cons.inj heq).1
          · rintro rest' heq
            exact hplus (List.cons.inj heq).1

theorem unsigned_of_isDigits (h : IsDigits digits) : Unsigned digits := by
  intro c hc
  have hdigit := h c (List.mem_of_mem_head? hc)
  constructor
  · rintro rfl
    cases hdigit
  · rintro rfl
    cases hdigit

theorem digitsOf?_of_cut {whole : List Char} {fraction? : Option (List Char)}
    (h : Text.cut '.' cs = (whole, fraction?)) :
    digitsOf? cs = some (n, places) ↔
      (whole ++ fraction?.getD [] ≠ [] ∧ IsDigits (whole ++ fraction?.getD [])) ∧
        n = spelled (whole ++ fraction?.getD []) ∧ places = (fraction?.getD []).length := by
  rw [digitsOf?, h]
  simp only [Option.ite_none_right_eq_some, Option.some.injEq, Prod.mk.injEq, Bool.and_eq_true, allDigits_iff,
    natOf_eq_spelled, isDigits_append, Bool.not_eq_true', List.isEmpty_eq_false_iff, Bool.and_eq_false_iff, ne_eq,
    List.append_eq_nil_iff]
  tauto

theorem digitsOf?_eq_some_iff : digitsOf? cs = some (n, places) ↔ Coefficient cs n places := by
  constructor
  · intro h
    by_cases hpoint : '.' ∈ cs
    · obtain ⟨whole, fraction, rfl, hwhole⟩ := List.eq_append_cons_of_mem hpoint
      obtain ⟨⟨hsome, hall⟩, rfl, rfl⟩ := (digitsOf?_of_cut (cut_append hwhole fraction)).1 h
      exact .pointed hsome hall
    · obtain ⟨⟨hsome, hall⟩, rfl, rfl⟩ := (digitsOf?_of_cut (cut_of_not_mem hpoint)).1 h
      rw [Option.getD_none, List.append_nil] at hsome hall ⊢
      exact .whole hsome hall
  · intro h
    cases h with
    | whole hsome hall =>
        refine (digitsOf?_of_cut (cut_of_not_mem (ne_of_isDigits hall rfl))).2 ?_
        rw [Option.getD_none, List.append_nil]
        exact ⟨⟨hsome, hall⟩, rfl, rfl⟩
    | pointed hsome hall =>
        have hwhole := ne_of_isDigits (c := '.') (isDigits_append.1 hall).1 rfl
        exact (digitsOf?_of_cut (cut_append hwhole _)).2 ⟨⟨hsome, hall⟩, rfl, rfl⟩

theorem Coefficient.head {coefficient : List Char} (h : Coefficient coefficient n places) :
    ∃ c tail, coefficient = c :: tail ∧ (c.isDigit = true ∨ c = '.') := by
  cases h with
  | whole hsome hall =>
      obtain ⟨c, tail, rfl⟩ := List.exists_cons_of_ne_nil hsome
      exact ⟨c, tail, rfl, .inl (hall c List.mem_cons_self)⟩
  | @pointed whole fraction hsome hall =>
      cases whole with
      | nil => exact ⟨'.', fraction, rfl, .inr rfl⟩
      | cons c tail => exact ⟨c, _, rfl, .inl (hall c List.mem_cons_self)⟩

theorem Coefficient.mem {coefficient : List Char} (h : Coefficient coefficient n places) {c : Char}
    (hc : c ∈ coefficient) : c.isDigit = true ∨ c = '.' := by
  cases h with
  | whole hsome hall => exact .inl (hall c hc)
  | pointed hsome hall =>
      obtain ⟨hwhole, hfraction⟩ := isDigits_append.1 hall
      obtain hc | hc := List.mem_append.1 hc
      · exact .inl (hwhole c hc)
      · obtain rfl | hc := List.mem_cons.1 hc
        · exact .inr rfl
        · exact .inl (hfraction c hc)

theorem isExponentMark_iff {c : Char} : isExponentMark c = true ↔ c = 'e' ∨ c = 'E' := by
  simp [isExponentMark]

theorem exponentOf?_eq_some_iff :
    exponentOf? cs = some e ↔
      ∃ sign digits negative, cs = sign ++ digits ∧ Sign sign negative ∧ (digits ≠ [] ∧ IsDigits digits) ∧
        e = if negative then -(spelled digits : ℤ) else spelled digits := by
  constructor
  · intro h
    rw [exponentOf?] at h
    obtain ⟨sign, hsign, hcs⟩ := sign_signOf cs
    simp only [Option.ite_none_right_eq_some, Option.some.injEq, Bool.and_eq_true, decide_eq_true_eq, allDigits_iff,
      natOf_eq_spelled] at h
    exact ⟨sign, _, _, hcs, hsign, h.1, h.2.symm⟩
  · rintro ⟨sign, digits, negative, rfl, hsign, ⟨hsome, hall⟩, rfl⟩
    rw [exponentOf?, signOf_append hsign (unsigned_of_isDigits hall)]
    simp [hsome, allDigits_iff.2 hall, natOf_eq_spelled]

def markedExponent? : List Char → Option ℤ
  | [] => some 0
  | _ :: rest => exponentOf? rest

theorem markedExponent?_eq_some_iff {exponent : List Char}
    (hmark : ∀ c, exponent.head? = some c → isExponentMark c = true) :
    markedExponent? exponent = some e ↔ Exponent exponent e := by
  cases exponent with
  | nil =>
      constructor
      · intro h
        obtain rfl := Option.some.inj h
        exact .none
      · rintro ⟨⟩
        rfl
  | cons mark rest =>
      rw [markedExponent?, exponentOf?_eq_some_iff]
      constructor
      · rintro ⟨sign, digits, negative, rfl, hsign, ⟨hsome, hall⟩, rfl⟩
        exact .marked (isExponentMark_iff.1 (hmark mark rfl)) hsign hsome hall
      · intro h
        cases h with
        | marked hletter hsign hsome hall => exact ⟨_, _, _, rfl, hsign, ⟨hsome, hall⟩, rfl⟩

theorem Exponent.mark {exponent : List Char} (h : Exponent exponent e) :
    ∀ c, exponent.head? = some c → isExponentMark c = true := by
  intro c hc
  cases h with
  | none => cases hc
  | marked hletter =>
      obtain rfl := Option.some.inj hc
      exact isExponentMark_iff.2 hletter

theorem withinLimits?_eq_some_iff {d : Decimal} :
    withinLimits? negative n e = some d ↔
      (e + digitCount n - 1 ≤ maxExponent ∧ minExponent ≤ e) ∧ .finite negative n e = d := by
  rw [withinLimits?, Option.ite_none_right_eq_some, Bool.and_eq_true, decide_eq_true_eq, decide_eq_true_eq,
    Option.some.injEq]

theorem numberOf?_eq (negative : Bool) (cs : List Char) :
    numberOf? negative cs =
      (digitsOf? (cs.takeWhile (!isExponentMark ·))).bind fun d =>
        (markedExponent? (cs.dropWhile (!isExponentMark ·))).bind fun e => withinLimits? negative d.1 (e - d.2) := by
  rw [numberOf?]
  cases cs.dropWhile (!isExponentMark ·) <;> rfl

theorem numberOf?_eq_some_iff {d : Decimal} :
    numberOf? negative cs = some d ↔ ∃ n places e, Reads cs n places e ∧ .finite negative n (e - places) = d := by
  simp only [numberOf?_eq, Option.bind_eq_some_iff, Prod.exists, withinLimits?_eq_some_iff]
  constructor
  · rintro ⟨n, places, hdigits, e, hexponent, ⟨hfirst, hlast⟩, hd⟩
    have hmark : ∀ c, (cs.dropWhile (!isExponentMark ·)).head? = some c → isExponentMark c = true := by
      intro c hc
      have hstop := List.head?_dropWhile_not (!isExponentMark ·) cs
      rw [hc] at hstop
      simpa using hstop
    exact ⟨n, places, e, ⟨⟨_, _, List.takeWhile_append_dropWhile.symm, digitsOf?_eq_some_iff.1 hdigits,
      (markedExponent?_eq_some_iff hmark).1 hexponent⟩, hfirst, hlast⟩, hd⟩
  · rintro ⟨n, places, e, ⟨⟨coefficient, exponent, rfl, hcoefficient, hexponent⟩, hfirst, hlast⟩, rfl⟩
    have hplain : ∀ c ∈ coefficient, (!isExponentMark c) = true := by
      intro c hc
      obtain hdigit | rfl := hcoefficient.mem hc
      · rw [Bool.not_eq_true', ← Bool.not_eq_true, isExponentMark_iff]
        rintro (rfl | rfl) <;> cases hdigit
      · rfl
    have hstop : exponent.takeWhile (!isExponentMark ·) = [] ∧ exponent.dropWhile (!isExponentMark ·) = exponent := by
      cases exponent with
      | nil => exact ⟨rfl, rfl⟩
      | cons mark rest => simp [hexponent.mark mark rfl]
    refine ⟨n, places, ?_, e, ?_, ⟨hfirst, hlast⟩, rfl⟩
    · rw [List.takeWhile_append_of_pos hplain, hstop.1, List.append_nil]
      exact digitsOf?_eq_some_iff.2 hcoefficient
    · rw [List.dropWhile_append_of_pos hplain, hstop.2]
      exact (markedExponent?_eq_some_iff hexponent.mark).2 hexponent

theorem ofText?_cases {d : Decimal} (h : ofText? s = some d) :
    ∃ sign rest negative, plainText s = sign ++ rest ∧ Sign sign negative ∧
      (value? d = none ∨ (IsInfinity rest ∧ d = .infinite negative) ∨
        ∃ n places e, Reads rest n places e ∧ d = .finite negative n (e - places)) := by
  obtain ⟨sign, hsign, hplain⟩ := sign_signOf (plainText s)
  refine ⟨sign, _, _, hplain, hsign, ?_⟩
  rw [ofText?] at h
  simp only at h
  split at h
  case h_1 =>
      obtain rfl := Option.some.inj (Option.ite_none_right_eq_some.1 h).2
      exact .inl rfl
  case h_2 =>
      obtain rfl := Option.some.inj (Option.ite_none_right_eq_some.1 h).2
      exact .inl rfl
  case h_3 hword => exact .inr (.inl ⟨.inl hword, (Option.some.inj h).symm⟩)
  case h_4 hword => exact .inr (.inl ⟨.inr hword, (Option.some.inj h).symm⟩)
  case h_5 =>
      obtain ⟨n, places, e, hreads, hd⟩ := numberOf?_eq_some_iff.1 h
      exact .inr (.inr ⟨n, places, e, hreads, hd.symm⟩)

theorem Reads.head (h : Reads cs n places e) : ∃ c tail, cs = c :: tail ∧ (c.isDigit = true ∨ c = '.') := by
  obtain ⟨coefficient, exponent, rfl, hcoefficient, -⟩ := h.parts
  obtain ⟨c, tail, rfl, hc⟩ := hcoefficient.head
  exact ⟨c, tail ++ exponent, rfl, hc⟩

theorem ofText?_of_reads {sign number : List Char} (hplain : plainText s = sign ++ number) (hsign : Sign sign negative)
    (hreads : Reads number n places e) : ofText? s = some (.finite negative n (e - places)) := by
  obtain ⟨c, tail, rfl, hc⟩ := hreads.head
  -- A digit or a point starts neither a sign nor a word.
  have hletter : c ≠ '-' ∧ c ≠ '+' ∧ c.toLower ≠ 'n' ∧ c.toLower ≠ 's' ∧ c.toLower ≠ 'i' := by
    obtain hdigit | rfl := hc
    · rw [toLower_of_isDigit hdigit]
      refine ⟨?_, ?_, ?_, ?_, ?_⟩ <;> rintro rfl <;> cases hdigit
    · decide
  obtain ⟨hminus, hplus, hn, hs, hi⟩ := hletter
  have hunsigned : Unsigned (c :: tail) := by
    intro c' hc'
    obtain rfl := Option.some.inj hc'
    exact ⟨hminus, hplus⟩
  rw [ofText?, hplain, signOf_append hsign hunsigned]
  simp only
  split
  case h_1 hword => exact absurd (List.cons.inj hword).1 hn
  case h_2 hword => exact absurd (List.cons.inj hword).1 hs
  case h_3 hword => exact absurd (List.cons.inj hword).1 hi
  case h_4 hword => exact absurd (List.cons.inj hword).1 hi
  case h_5 => exact numberOf?_eq_some_iff.2 ⟨n, places, e, hreads, rfl⟩

theorem ofText?_of_isInfinity {sign word : List Char} (hplain : plainText s = sign ++ word) (hsign : Sign sign negative)
    (hword : IsInfinity word) : ofText? s = some (.infinite negative) := by
  have hunsigned : Unsigned word := by
    intro c hc
    have hi : c.toLower = 'i' := by
      obtain ⟨tail, rfl⟩ := List.head?_eq_some_iff.1 hc
      obtain h | h := hword
      · exact (List.cons.inj h).1
      · exact (List.cons.inj h).1
    constructor
    · rintro rfl
      exact absurd hi (by decide)
    · rintro rfl
      exact absurd hi (by decide)
  rw [ofText?, hplain, signOf_append hsign hunsigned]
  obtain h | h := hword
  · simp only [h]
  · simp only [h]

theorem denotes_iff {b : Extended} : Denotes s b ↔ ∃ d, ofText? s = some d ∧ value? d = some b := by
  constructor
  · intro h
    cases h with
    | finite hplain hsign hreads => exact ⟨_, ofText?_of_reads hplain hsign hreads, rfl⟩
    | infinite hplain hsign hword => exact ⟨_, ofText?_of_isInfinity hplain hsign hword, rfl⟩
  · rintro ⟨d, hd, hvalue⟩
    obtain ⟨sign, rest, negative, hplain, hsign, hnone | ⟨hword, rfl⟩ | ⟨n, places, e, hreads, rfl⟩⟩ := ofText?_cases hd
    · rw [hnone] at hvalue
      cases hvalue
    · obtain rfl := Option.some.inj hvalue
      exact .infinite hplain hsign hword
    · obtain rfl := Option.some.inj hvalue
      exact .finite hplain hsign hreads

end Vetted.Proofs.DecimalText
