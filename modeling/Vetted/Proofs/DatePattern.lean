import Mathlib.Computability.Language
import Mathlib.Data.Nat.Digits.Defs
import Vetted.Date
import Vetted.Proofs.TextPieces

namespace Vetted.Proofs.DatePattern

open Date TextPieces

/-- Patterns of characters; of two alternatives the first is preferred. -/
inductive Pattern where
  | one (allowed : Char → Bool)
  | seq (first second : Pattern)
  | either (first second : Pattern)

namespace Pattern

/-- All ways to match the start of a text, the preferred first: what is matched, and what is left. -/
def runs : Pattern → List Char → List (List Char × List Char)
  | .one _, [] => []
  | .one allowed, c :: cs => if allowed c then [([c], cs)] else []
  | .seq p q, cs => (p.runs cs).flatMap fun r => (q.runs r.2).map fun t => (r.1 ++ t.1, t.2)
  | .either p q, cs => p.runs cs ++ q.runs cs

/-- What can follow a match of a pattern at the start of a text. -/
def andThen {α : Type} (p : Pattern) (cs : List Char) (next : List Char → List Char → List α) : List α :=
  (p.runs cs).flatMap fun r => next r.1 r.2

def language : Pattern → Language Char
  | .one allowed => { w | ∃ c, allowed c = true ∧ w = [c] }
  | .seq p q => p.language * q.language
  | .either p q => p.language + q.language

def char (c : Char) : Pattern := .one (· = c)

def range (a b : Char) : Pattern := .one fun c => a ≤ c && c ≤ b

def digit : Pattern := .one fun c => (Text.digitValue? c).isSome

def year : Pattern := .seq digit (.seq digit (.seq digit digit))

def month : Pattern :=
  .either (.seq (char '1') (range '0' '2')) (.either (.seq (char '0') (range '1' '9')) (range '1' '9'))

def day : Pattern :=
  .either (.seq (char '3') (range '0' '1'))
    (.either (.seq (range '1' '2') digit)
      (.either (.seq (char '0') (range '1' '9')) (.either (range '1' '9') (.seq (char ' ') (range '1' '9')))))

variable {p q : Pattern} {allowed other : Char → Bool} {w cs rest : List Char}

theorem mem_one : w ∈ (one allowed).language ↔ ∃ c, allowed c = true ∧ w = [c] := Iff.rfl

theorem mem_seq : w ∈ (seq p q).language ↔ ∃ u ∈ p.language, ∃ v ∈ q.language, u ++ v = w := Language.mem_mul

theorem mem_either : w ∈ (either p q).language ↔ w ∈ p.language ∨ w ∈ q.language := Language.mem_add _ _ _

theorem mem_pair :
    w ∈ (seq (one allowed) (one other)).language ↔ ∃ c d, allowed c = true ∧ other d = true ∧ w = [c, d] := by
  rw [mem_seq]
  constructor
  · rintro ⟨_, ⟨c, hc, rfl⟩, _, ⟨d, hd, rfl⟩, rfl⟩
    exact ⟨c, d, hc, hd, rfl⟩
  · rintro ⟨c, d, hc, hd, rfl⟩
    exact ⟨[c], ⟨c, hc, rfl⟩, [d], ⟨d, hd, rfl⟩, rfl⟩

theorem runs_either : (either p q).runs cs = p.runs cs ++ q.runs cs := rfl

theorem runs_one (c : Char) : (one allowed).runs (c :: cs) = if allowed c then [([c], cs)] else [] := rfl

theorem runs_pair (c d : Char) :
    (seq (one allowed) (one other)).runs [c, d] = if allowed c && other d then [([c, d], [])] else [] := by
  by_cases hc : allowed c = true
  · by_cases hd : other d = true <;> simp [runs, hc, hd]
  · simp [runs, hc]

theorem runs_pair_single (c : Char) : (seq (one allowed) (one other)).runs [c] = [] := by
  by_cases hc : allowed c = true <;> simp [runs, hc]

def avoids (x : Char) : Pattern → Bool
  | .one allowed => !allowed x
  | .seq p q => p.avoids x && q.avoids x
  | .either p q => p.avoids x && q.avoids x

theorem not_mem_of_avoids {x : Char} (hp : p.avoids x = true) (hw : w ∈ p.language) : x ∉ w := by
  induction p generalizing w with
  | one allowed =>
      obtain ⟨c, hc, rfl⟩ := hw
      rw [List.mem_singleton]
      rintro rfl
      simp [avoids, hc] at hp
  | seq p q ihp ihq =>
      obtain ⟨hpx, hqx⟩ := Bool.and_eq_true_iff.1 hp
      obtain ⟨u, hu, v, hv, rfl⟩ := mem_seq.1 hw
      rw [List.mem_append, not_or]
      exact ⟨ihp hpx hu, ihq hqx hv⟩
  | either p q ihp ihq =>
      obtain ⟨hpx, hqx⟩ := Bool.and_eq_true_iff.1 hp
      obtain hw | hw := mem_either.1 hw
      · exact ihp hpx hw
      · exact ihq hqx hw

theorem mem_runs : (w, rest) ∈ p.runs cs ↔ w ∈ p.language ∧ cs = w ++ rest := by
  induction p generalizing w cs rest with
  | one allowed =>
      rw [mem_one]
      cases cs with
      | nil =>
          refine iff_of_false List.not_mem_nil ?_
          rintro ⟨⟨d, -, rfl⟩, hcs⟩
          cases hcs
      | cons c cs =>
          by_cases hc : allowed c = true
          · simp only [runs, hc, if_true, List.mem_singleton, Prod.mk.injEq]
            constructor
            · rintro ⟨rfl, rfl⟩
              exact ⟨⟨c, hc, rfl⟩, rfl⟩
            · rintro ⟨⟨d, -, rfl⟩, hcs⟩
              obtain ⟨rfl, rfl⟩ := List.cons.inj hcs
              exact ⟨rfl, rfl⟩
          · simp only [runs, hc]
            constructor
            · intro h
              cases h
            · rintro ⟨⟨d, hd, rfl⟩, hcs⟩
              obtain ⟨rfl, rfl⟩ := List.cons.inj hcs
              exact absurd hd hc
  | seq p q ihp ihq =>
      rw [mem_seq, runs, List.mem_flatMap]
      constructor
      · rintro ⟨⟨u, r⟩, hu, ht⟩
        obtain ⟨⟨v, t⟩, hv, heq⟩ := List.mem_map.1 ht
        obtain ⟨rfl, rfl⟩ := Prod.mk.inj heq
        obtain ⟨hup, rfl⟩ := ihp.1 hu
        obtain ⟨hvq, rfl⟩ := ihq.1 hv
        exact ⟨⟨u, hup, v, hvq, rfl⟩, (List.append_assoc u v t).symm⟩
      · rintro ⟨⟨u, hu, v, hv, rfl⟩, rfl⟩
        refine ⟨(u, v ++ rest), ihp.2 ⟨hu, List.append_assoc u v rest⟩, ?_⟩
        exact List.mem_map.2 ⟨(v, rest), ihq.2 ⟨hv, rfl⟩, rfl⟩
  | either p q ihp ihq => rw [mem_either, runs, List.mem_append, ihp, ihq, or_and_right]

theorem mem_andThen {α : Type} {next : List Char → List Char → List α} {b : α} :
    b ∈ p.andThen cs next ↔ ∃ w rest, w ∈ p.language ∧ cs = w ++ rest ∧ b ∈ next w rest := by
  simp only [andThen, List.mem_flatMap, Prod.exists, mem_runs, and_assoc]

/-- Where only one way to match a pattern lets the rest go on, the preferred way for the rest decides. -/
theorem head?_andThen {α : Type} {next : List Char → List Char → List α} {b : α} (hw : w ∈ p.language)
    (hb : (next w rest).head? = some b)
    (hall : ∀ w' rest', w' ∈ p.language → w ++ rest = w' ++ rest' → next w' rest' ≠ [] → w' = w) :
    (p.andThen (w ++ rest) next).head? = some b := by
  rw [andThen, List.head?_flatMap]
  cases hfound : (p.runs (w ++ rest)).findSome? fun r => (next r.1 r.2).head? with
  | none =>
      have hnone := List.findSome?_eq_none_iff.1 hfound (w, rest) (mem_runs.2 ⟨hw, rfl⟩)
      rw [hb] at hnone
      cases hnone
  | some b' =>
      obtain ⟨⟨w', rest'⟩, hrun, hb'⟩ := List.exists_of_findSome?_eq_some hfound
      obtain ⟨hw', hsplit⟩ := mem_runs.1 hrun
      have hgoes : next w' rest' ≠ [] := fun hnil => by simp [hnil] at hb'
      obtain rfl := hall w' rest' hw' hsplit hgoes
      obtain rfl := List.append_cancel_left hsplit
      exact hb'.symm.trans hb

end Pattern

/-- The number that the digits of a text spell. -/
def reading (cs : List Char) : ℕ := Nat.ofDigits 10 (cs.filterMap Text.digitValue?).reverse

variable {c : Char} {cs : List Char} {n : ℕ}

theorem le_toNat {a b : Char} : a ≤ b ↔ a.toNat ≤ b.toNat := Iff.rfl

theorem digitValue?_of_between (hlow : '0' ≤ c) (hhigh : c ≤ '9') : Text.digitValue? c = some (c.toNat - 48) := by
  rw [le_toNat] at hlow hhigh
  have hascii : c.toNat < 128 := lt_of_le_of_lt hhigh (by decide)
  have hdigit : c.isDigit = true := by
    rw [Char.isDigit, Bool.and_eq_true, decide_eq_true_eq, decide_eq_true_eq]
    exact ⟨hlow, hhigh⟩
  rw [Text.digitValue?, if_pos hascii, if_pos hdigit]

theorem foldl_eq_ofDigits (ds : List ℕ) : ds.foldl (fun n d => 10 * n + d) 0 = Nat.ofDigits 10 ds.reverse := by
  induction ds using List.reverseRecOn with
  | nil => rfl
  | append_singleton ds d ih =>
      rw [List.foldl_append, List.foldl_cons, List.foldl_nil, ih, List.reverse_concat, Nat.ofDigits_cons]
      exact Nat.add_comm _ _

theorem mapM_digitValue?_eq_some_iff {ds : List ℕ} :
    cs.mapM Text.digitValue? = some ds ↔
      (∀ c ∈ cs, (Text.digitValue? c).isSome = true) ∧ cs.filterMap Text.digitValue? = ds := by
  induction cs generalizing ds with
  | nil =>
      rw [List.mapM_nil, List.filterMap_nil]
      exact ⟨fun h => ⟨by simp, Option.some.inj h⟩, fun h => congrArg some h.2⟩
  | cons c cs ih =>
      rw [List.mapM_cons, List.forall_mem_cons, List.filterMap_cons]
      cases hc : Text.digitValue? c with
      | none => simp
      | some d =>
          rw [Option.bind_eq_bind, Option.bind_some, Option.bind_eq_bind, Option.bind_eq_some_iff]
          constructor
          · rintro ⟨es, hes, hds⟩
            obtain ⟨hall, rfl⟩ := ih.1 hes
            exact ⟨⟨rfl, hall⟩, Option.some.inj hds⟩
          · rintro ⟨⟨-, hall⟩, rfl⟩
            exact ⟨_, ih.2 ⟨hall, rfl⟩, rfl⟩

theorem mem_year_iff : cs ∈ Pattern.year.language ↔ cs.length = 4 ∧ ∀ c ∈ cs, (Text.digitValue? c).isSome = true := by
  simp only [Pattern.year, Pattern.digit, Pattern.mem_seq, Pattern.mem_one]
  constructor
  · rintro ⟨_, ⟨a, ha, rfl⟩, _, ⟨_, ⟨b, hb, rfl⟩, _, ⟨_, ⟨c, hc, rfl⟩, _, ⟨d, hd, rfl⟩, rfl⟩, rfl⟩, rfl⟩
    simp [ha, hb, hc, hd]
  · rintro ⟨hlength, hall⟩
    match cs, hlength with
    | [a, b, c, d], _ =>
        simp only [List.forall_mem_cons] at hall
        obtain ⟨ha, hb, hc, hd, -⟩ := hall
        exact ⟨[a], ⟨a, ha, rfl⟩, _, ⟨[b], ⟨b, hb, rfl⟩, _, ⟨[c], ⟨c, hc, rfl⟩, [d], ⟨d, hd, rfl⟩, rfl⟩, rfl⟩, rfl⟩

theorem yearOf?_eq_some_iff : yearOf? cs = some n ↔ cs ∈ Pattern.year.language ∧ reading cs = n := by
  rw [mem_year_iff, yearOf?, reading]
  by_cases hlength : cs.length = 4
  · rw [if_pos hlength, Option.map_eq_some_iff]
    constructor
    · rintro ⟨ds, hds, rfl⟩
      obtain ⟨hall, rfl⟩ := mapM_digitValue?_eq_some_iff.1 hds
      exact ⟨⟨hlength, hall⟩, (foldl_eq_ofDigits _).symm⟩
    · rintro ⟨⟨-, hall⟩, rfl⟩
      exact ⟨_, mapM_digitValue?_eq_some_iff.2 ⟨hall, rfl⟩, foldl_eq_ofDigits _⟩
  · simp [hlength]

theorem reading_single {d : ℕ} (h : Text.digitValue? c = some d) : reading [c] = d := by
  simp [reading, h]

theorem reading_pair {b : Char} {d e : ℕ} (hc : Text.digitValue? c = some d) (hb : Text.digitValue? b = some e) :
    reading [c, b] = 10 * d + e := by
  simp only [reading, List.filterMap_cons, hc, hb, List.filterMap_nil, List.reverse_cons, List.reverse_nil,
    List.nil_append, List.cons_append, Nat.ofDigits_cons, Nat.ofDigits_nil]
  exact Nat.add_comm _ _

section Range

variable {a b : Char} (hrange : (decide (a ≤ c) && decide (c ≤ b)) = true)
include hrange

theorem digitValue?_of_range (ha : '0' ≤ a) (hb : b ≤ '9') :
    Text.digitValue? c = some (c.toNat - 48) ∧ 48 ≤ c.toNat := by
  rw [Bool.and_eq_true, decide_eq_true_eq, decide_eq_true_eq] at hrange
  have hlow : '0' ≤ c := Nat.le_trans ha hrange.1
  have hhigh : c ≤ '9' := Nat.le_trans hrange.2 hb
  exact ⟨digitValue?_of_between hlow hhigh, hlow⟩

theorem reading_after {x : Char} {d : ℕ} (hx : Text.digitValue? x = some d) (ha : '0' ≤ a) (hb : b ≤ '9') :
    reading [x, c] + 48 = 10 * d + c.toNat := by
  obtain ⟨hvalue, hlow⟩ := digitValue?_of_range hrange ha hb
  rw [reading_pair hx hvalue]
  omega

end Range

theorem range_of_succ {a b : Char} (h : b.toNat = a.toNat + 1) :
    (decide (a ≤ c) && decide (c ≤ b)) = true ↔ c = a ∨ c = b := by
  rw [Bool.and_eq_true, decide_eq_true_eq, decide_eq_true_eq, le_toNat, le_toNat, ← Char.toNat_inj, ← Char.toNat_inj, h]
  omega

theorem monthOf?_eq_some_iff : monthOf? cs = some n ↔ cs ∈ Pattern.month.language ∧ reading cs = n := by
  simp only [Pattern.month, Pattern.char, Pattern.range, Pattern.mem_either, Pattern.mem_pair, Pattern.mem_one]
  fun_cases monthOf? cs with
  | case2 c hc =>
      rw [reading_single (digitValue?_of_range hc (by decide) (by decide)).1, Option.some.injEq]
      exact ⟨fun h => ⟨.inr (.inr ⟨c, hc, rfl⟩), h⟩, fun h => h.2⟩
  | case4 c hc =>
      have hread := reading_after hc (x := '1') (d := 1) rfl (by decide) (by decide)
      have heq : reading ['1', c] = c.toNat - 38 := by omega
      rw [heq, Option.some.injEq]
      exact ⟨fun h => ⟨.inl ⟨'1', c, by decide, hc, rfl⟩, h⟩, fun h => h.2⟩
  | case6 c hc =>
      have hread := reading_after hc (x := '0') (d := 0) rfl (by decide) (by decide)
      have heq : reading ['0', c] = c.toNat - 48 := by omega
      rw [heq, Option.some.injEq]
      exact ⟨fun h => ⟨.inr (.inl ⟨'0', c, by decide, hc, rfl⟩), h⟩, fun h => h.2⟩
  | case3 c hc | case5 c hc | case7 c hc => simp_all
  | case8 tens c hten hzero =>
      refine iff_of_false (by simp) ?_
      rintro ⟨⟨a, b, ha, -, h⟩ | ⟨a, b, ha, -, h⟩ | ⟨a, -, h⟩, -⟩
      · exact hten ((List.cons.inj h).1.trans (of_decide_eq_true ha))
      · exact hzero ((List.cons.inj h).1.trans (of_decide_eq_true ha))
      · simp at h
  | case1 | case9 => simp

theorem dayOf?_eq_some_iff : dayOf? cs = some n ↔ cs ∈ Pattern.day.language ∧ reading cs = n := by
  simp only [Pattern.day, Pattern.char, Pattern.range, Pattern.digit, Pattern.mem_either, Pattern.mem_pair,
    Pattern.mem_one]
  fun_cases dayOf? cs with
  | case2 c hc =>
      rw [reading_single (digitValue?_of_range hc (by decide) (by decide)).1, Option.some.injEq]
      exact ⟨fun h => ⟨.inr (.inr (.inr (.inl ⟨c, hc, rfl⟩))), h⟩, fun h => h.2⟩
  | case4 c hc =>
      have hrange : (decide ('0' ≤ c) && decide (c ≤ '1')) = true := (range_of_succ rfl).2 (by simpa using hc)
      have hread := reading_after hrange (x := '3') (d := 3) rfl (by decide) (by decide)
      have hlow := (digitValue?_of_range hrange (by decide) (by decide)).2
      have heq : reading ['3', c] = c.toNat - 18 := by omega
      rw [heq, Option.some.injEq]
      exact ⟨fun h => ⟨.inl ⟨'3', c, by decide, hrange, rfl⟩, h⟩, fun h => h.2⟩
  | case5 c hc =>
      have hrange : ¬(decide ('0' ≤ c) && decide (c ≤ '1')) = true :=
        fun h => hc (by simpa using (range_of_succ rfl).1 h)
      simp_all
  | case6 c =>
      cases hvalue : Text.digitValue? c with
      | none => simp [hvalue]
      | some d =>
          have hread : reading ['1', c] = 10 + d := reading_pair (d := 1) rfl hvalue
          simp [hread, hvalue]
  | case7 c =>
      cases hvalue : Text.digitValue? c with
      | none => simp [hvalue]
      | some d =>
          have hread : reading ['2', c] = 20 + d := reading_pair (d := 2) rfl hvalue
          simp [hread, hvalue]
  | case8 c hc =>
      have hread := reading_after hc (x := '0') (d := 0) rfl (by decide) (by decide)
      have heq : reading ['0', c] = c.toNat - 48 := by omega
      rw [heq, Option.some.injEq]
      exact ⟨fun h => ⟨.inr (.inr (.inl ⟨'0', c, by decide, hc, rfl⟩)), h⟩, fun h => h.2⟩
  | case10 c hc =>
      have hread : reading [' ', c] = c.toNat - 48 :=
        reading_single (digitValue?_of_range hc (by decide) (by decide)).1
      rw [hread, Option.some.injEq]
      exact ⟨fun h => ⟨.inr (.inr (.inr (.inr ⟨' ', c, by decide, hc, rfl⟩))), h⟩, fun h => h.2⟩
  | case3 c hc | case9 c hc | case11 c hc => simp_all
  | case12 tens c hthirty hten htwenty hzero hspace =>
      refine iff_of_false (by simp) ?_
      rintro ⟨⟨a, b, ha, -, h⟩ | ⟨a, b, ha, -, h⟩ | ⟨a, b, ha, -, h⟩ | ⟨a, -, h⟩ | ⟨a, b, ha, -, h⟩, -⟩
      · exact hthirty ((List.cons.inj h).1.trans (of_decide_eq_true ha))
      · obtain ha | ha := (range_of_succ rfl).1 ha
        · exact hten ((List.cons.inj h).1.trans ha)
        · exact htwenty ((List.cons.inj h).1.trans ha)
      · exact hzero ((List.cons.inj h).1.trans (of_decide_eq_true ha))
      · simp at h
      · exact hspace ((List.cons.inj h).1.trans (of_decide_eq_true ha))
  | case1 | case13 => simp

structure Parts where
  year : List Char
  month : List Char
  day : List Char

def Parts.date (p : Parts) : Date := ⟨reading p.year, reading p.month, reading p.day⟩

structure Parts.Fit (p : Parts) : Prop where
  year : p.year ∈ Pattern.year.language
  month : p.month ∈ Pattern.month.language
  day : p.day ∈ Pattern.day.language

def Parts.text (p : Parts) : List Char := p.year ++ '-' :: (p.month ++ '-' :: p.day)

/-- All ways to match the start of a text by a year, a month and a day with hyphens between them, the preferred first.
-/
def matchings (cs : List Char) : List (Parts × List Char) :=
  Pattern.year.andThen cs fun year rest =>
    (Pattern.char '-').andThen rest fun _ rest =>
      Pattern.month.andThen rest fun month rest =>
        (Pattern.char '-').andThen rest fun _ rest =>
          Pattern.day.andThen rest fun day rest => [(⟨year, month, day⟩, rest)]

/-- The date that the pattern reads: the preferred matching has to leave nothing and to spell a day of the calendar. -/
def read (cs : List Char) : Option Date :=
  match (matchings cs).head? with
  | some (p, []) => if p.date.isReal then some p.date else none
  | _ => none

variable {p : Parts} {rest : List Char}

theorem mem_char {x : Char} {w : List Char} : w ∈ (Pattern.char x).language ↔ w = [x] := by
  rw [Pattern.char, Pattern.mem_one]
  simp

theorem mem_matchings : (p, rest) ∈ matchings cs ↔ p.Fit ∧ cs = p.text ++ rest := by
  simp only [matchings, Pattern.mem_andThen, mem_char, List.mem_singleton, Prod.mk.injEq]
  constructor
  · rintro ⟨year, _, hyear, rfl, _, _, rfl, rfl, month, _, hmonth, rfl, _, _, rfl, rfl, day, _, hday, rfl, rfl, rfl⟩
    exact ⟨⟨hyear, hmonth, hday⟩, by simp [Parts.text]⟩
  · rintro ⟨⟨hyear, hmonth, hday⟩, rfl⟩
    exact ⟨p.year, _, hyear, List.append_assoc _ _ _, _, _, rfl, rfl, p.month, _, hmonth, List.append_assoc _ _ _, _, _,
      rfl, rfl, p.day, _, hday, rfl, rfl, rfl⟩

/-- The preferred way to match the text of a day leaves nothing. The alternative of one digit comes before that with a
space, but no day starts with both. -/
theorem head?_runs_day (h : cs ∈ Pattern.day.language) : (Pattern.day.runs cs).head? = some (cs, []) := by
  simp only [Pattern.day, Pattern.char, Pattern.range, Pattern.digit, Pattern.mem_either, Pattern.mem_pair,
    Pattern.mem_one] at h
  simp only [Pattern.day, Pattern.char, Pattern.range, Pattern.digit, Pattern.runs_either]
  rcases h with ⟨a, b, ha, hb, rfl⟩ | ⟨a, b, ha, hb, rfl⟩ | ⟨a, b, ha, hb, rfl⟩ | ⟨a, ha, rfl⟩ | ⟨a, b, ha, hb, rfl⟩
  · simp only [Pattern.runs_pair, ha, hb]
    rfl
  · have hthree : a ≠ '3' := by
      obtain rfl | rfl := (range_of_succ rfl).1 ha <;> decide
    simp only [Pattern.runs_pair, ha, hb, hthree, decide_false]
    rfl
  · obtain rfl := of_decide_eq_true ha
    simp only [Pattern.runs_pair, hb]
    rfl
  · simp only [Pattern.runs_pair_single, Pattern.runs_one, ha]
    rfl
  · obtain rfl := of_decide_eq_true ha
    simp only [Pattern.runs_pair, Pattern.runs_one, hb]
    rfl

theorem head?_matchings (h : p.Fit) : (matchings p.text).head? = some (p, []) := by
  have hhyphen : ['-'] ∈ (Pattern.char '-').language := mem_char.2 rfl
  have hmonth := Pattern.not_mem_of_avoids (x := '-') rfl h.month
  apply Pattern.head?_andThen h.year
  · apply Pattern.head?_andThen hhyphen
    · apply Pattern.head?_andThen h.month
      · apply Pattern.head?_andThen hhyphen
        · obtain ⟨others, hruns⟩ := List.head?_eq_some_iff.1 (head?_runs_day h.day)
          rw [Pattern.andThen, hruns]
          rfl
        · exact fun w' rest' hw' _ _ => mem_char.1 hw'
      · -- What follows a month has to start with a hyphen, and no month has one in it.
        intro w' rest' hw' hsplit hgoes
        obtain ⟨_, hmem⟩ := List.exists_mem_of_ne_nil _ hgoes
        obtain ⟨hyphen, after, hchar, rfl, -⟩ := Pattern.mem_andThen.1 hmem
        obtain rfl := mem_char.1 hchar
        have hcut := congrArg (Text.cut '-') hsplit
        rw [List.singleton_append, cut_append hmonth,
          cut_append (Pattern.not_mem_of_avoids (x := '-') rfl hw')] at hcut
        exact (Prod.mk.inj hcut).1.symm
    · exact fun w' rest' hw' _ _ => mem_char.1 hw'
  · intro w' rest' hw' hsplit _
    have hlength : p.year.length = w'.length := (mem_year_iff.1 h.year).1.trans (mem_year_iff.1 hw').1.symm
    exact (List.append_inj_left hsplit hlength).symm

theorem read_eq_some_iff {d : Date} :
    read cs = some d ↔ ∃ p : Parts, p.Fit ∧ cs = p.text ∧ p.date = d ∧ d.isReal = true := by
  constructor
  · intro h
    unfold read at h
    split at h
    · rename_i p hhead
      obtain ⟨hfit, hcs⟩ := mem_matchings.1 (List.mem_of_mem_head? hhead)
      split at h
      · rename_i hreal
        obtain rfl := Option.some.inj h
        exact ⟨p, hfit, hcs.trans (List.append_nil _), rfl, hreal⟩
      · cases h
    · cases h
  · rintro ⟨p, hfit, rfl, rfl, hreal⟩
    rw [read, head?_matchings hfit]
    exact if_pos hreal

theorem pieces_eq_three_iff {sep : Char} {a b c : List Char} :
    Text.pieces sep cs = [a, b, c] ↔ cs = a ++ sep :: (b ++ sep :: c) ∧ sep ∉ a ∧ sep ∉ b ∧ sep ∉ c := by
  constructor
  · intro h
    have hnot : ∀ piece ∈ [a, b, c], sep ∉ piece := fun piece hpiece => not_mem_of_mem_pieces (h ▸ hpiece)
    simp only [List.forall_mem_cons] at hnot
    refine ⟨?_, hnot.1, hnot.2.1, hnot.2.2.1⟩
    have hjoin : [sep].intercalate (cs.splitOn sep) = cs := List.intercalate_splitOn sep
    rw [← pieces_eq_splitOn, h] at hjoin
    simpa [List.intercalate] using hjoin.symm
  · rintro ⟨rfl, ha, hb, hc⟩
    rw [pieces_joined, pieces_joined, pieces_of_not_mem ha, pieces_of_not_mem hb, pieces_of_not_mem hc]
    rfl

theorem ofText?_eq_some_iff {s : String} {d : Date} :
    ofText? s = some d ↔ ∃ p : Parts, p.Fit ∧ Text.trim s.toList = p.text ∧ p.date = d ∧ d.isReal = true := by
  constructor
  · intro h
    unfold ofText? at h
    split at h
    · rename_i y m t hpieces
      obtain ⟨htext, -⟩ := pieces_eq_three_iff.1 hpieces
      simp only [Option.bind_eq_bind, Option.bind_eq_some_iff] at h
      obtain ⟨year, hyear, month, hmonth, day, hday, h⟩ := h
      obtain ⟨hy, rfl⟩ := yearOf?_eq_some_iff.1 hyear
      obtain ⟨hm, rfl⟩ := monthOf?_eq_some_iff.1 hmonth
      obtain ⟨ht, rfl⟩ := dayOf?_eq_some_iff.1 hday
      split at h
      · rename_i hreal
        obtain rfl := Option.some.inj h
        exact ⟨⟨y, m, t⟩, ⟨hy, hm, ht⟩, htext, rfl, hreal⟩
      · cases h
    · cases h
  · rintro ⟨p, ⟨hy, hm, ht⟩, htext, rfl, hreal⟩
    have hpieces : Text.pieces '-' (Text.trim s.toList) = [p.year, p.month, p.day] :=
      pieces_eq_three_iff.2 ⟨htext, Pattern.not_mem_of_avoids rfl hy, Pattern.not_mem_of_avoids rfl hm,
        Pattern.not_mem_of_avoids rfl ht⟩
    rw [ofText?, hpieces]
    simp only [yearOf?_eq_some_iff.2 ⟨hy, rfl⟩, monthOf?_eq_some_iff.2 ⟨hm, rfl⟩, dayOf?_eq_some_iff.2 ⟨ht, rfl⟩]
    exact if_pos hreal

theorem ofText?_eq_read (s : String) : ofText? s = read (Text.trim s.toList) := by
  ext d
  rw [ofText?_eq_some_iff, read_eq_some_iff]

end Vetted.Proofs.DatePattern
