import Mathlib.Data.List.Basic
import Vetted.Naming

namespace Vetted.Proofs.SnakeCase

open Naming

theorem isUpper_iff {c : Char} : c.isUpper = true ↔ 65 ≤ c.toNat ∧ c.toNat ≤ 90 := by
  delta Char.isUpper
  rw [decide_eq_true_eq]
  exact Iff.rfl

theorem isLower_iff {c : Char} : c.isLower = true ↔ 97 ≤ c.toNat ∧ c.toNat ≤ 122 := by
  delta Char.isLower
  rw [Bool.and_eq_true, decide_eq_true_eq, decide_eq_true_eq]
  exact Iff.rfl

theorem toLower_of_not_isUpper {c : Char} (h : c.isUpper = false) : c.toLower = c := by
  delta Char.toLower
  exact dif_neg fun hrange => by simp [isUpper_iff.2 hrange] at h

theorem toNat_toLower_of_isUpper {c : Char} (h : c.isUpper = true) : c.toLower.toNat = c.toNat + 32 := by
  obtain ⟨hlow, hhigh⟩ := isUpper_iff.1 h
  have hchar : c.toLower.val = c.val + ('a'.val - 'A'.val) := by
    delta Char.toLower
    rw [dif_pos ⟨hlow, hhigh⟩]
  change c.toLower.val.toNat = c.val.toNat + 32
  have hval : c.val.toNat ≤ 90 := hhigh
  rw [hchar, UInt32.toNat_add]
  exact Nat.mod_eq_of_lt (show c.val.toNat + 32 < 4294967296 by omega)

theorem isUpper_toLower (c : Char) : c.toLower.isUpper = false := by
  cases hupper : c.isUpper with
  | false => rw [toLower_of_not_isUpper hupper, hupper]
  | true =>
      obtain ⟨hlow, -⟩ := isUpper_iff.1 hupper
      rw [Bool.eq_false_iff, ne_eq, isUpper_iff, toNat_toLower_of_isUpper hupper]
      omega

theorem isUpper_of_isLower {c : Char} (h : c.isLower = true) : c.isUpper = false := by
  obtain ⟨hlow, -⟩ := isLower_iff.1 h
  rw [Bool.eq_false_iff, ne_eq, isUpper_iff]
  omega

theorem isUpper_of_mem_lowerChar {c d : Char} (h : d ∈ Text.lowerChar c) : d.isUpper = false := by
  obtain ⟨e, -, rfl⟩ := List.mem_map.1 h
  exact isUpper_toLower e

theorem isUpper_of_mem_lowerFrom {before cs : List Char} {d : Char} (h : d ∈ Text.lowerFrom before cs) :
    d.isUpper = false := by
  induction cs generalizing before with
  | nil => cases h
  | cons c rest ih =>
      rw [Text.lowerFrom] at h
      split at h
      · obtain rfl | h := List.mem_cons.1 h
        · split <;> decide
        · exact ih h
      · obtain h | h := List.mem_append.1 h
        · exact isUpper_of_mem_lowerChar h
        · exact ih h

theorem isUpper_of_mem_snakeChars {cs : List Char} {c : Char} (h : c ∈ snakeChars cs) : c.isUpper = false := by
  rw [snakeChars, Text.lowerChars] at h
  exact isUpper_of_mem_lowerFrom h

theorem conversionName_toList (name : String) :
    (conversionName name).toList = ['t', 'o', '_'] ++ snakeChars name.toList := by
  rw [conversionName, snakeCase, String.toList_append, String.toList_ofList, String.toList_ofList]

theorem isUpper_of_mem_conversionName {name : String} {c : Char} (h : c ∈ (conversionName name).toList) :
    c.isUpper = false := by
  rw [conversionName_toList, List.mem_append] at h
  obtain h | h := h
  · have hword : ∀ d ∈ ['t', 'o', '_'], d.isUpper = false := by simp
    exact hword c h
  · exact isUpper_of_mem_snakeChars h

theorem getLast?_markWords (taken : Bool) (cs : List Char) : (markWords taken cs).getLast? = cs.getLast? := by
  fun_induction markWords taken cs with
  | case1 | case2 => rfl
  | case3 taken c d rest _ ih | case4 taken c d rest _ _ ih | case5 taken c d rest _ _ ih =>
      simp only [List.getLast?_cons, ih, Option.getD_some]

theorem getLast?_mergeMarks (cs : List Char) : (mergeMarks cs).getLast? = cs.getLast? := by
  fun_induction mergeMarks cs with
  | case1 c rest _ ih | case2 c rest _ ih | case3 c rest _ ih => simp only [List.getLast?_cons, ih, Option.getD_some]
  | case4 => rfl

theorem getLast?_markCapitals (cs : List Char) : (markCapitals cs).getLast? = cs.getLast? := by
  fun_induction markCapitals cs with
  | case1 c d rest _ ih | case2 c d rest _ ih => simp only [List.getLast?_cons, ih, Option.getD_some]
  | case3 => rfl

theorem lowerChar_of_isLower {c : Char} (h : c.isLower = true) : Text.lowerChar c = [c] := by
  have hascii : c.toNat < 128 := Nat.lt_of_le_of_lt (isLower_iff.1 h).2 (by decide)
  rw [Text.lowerChar, if_pos hascii, List.map_singleton,
    toLower_of_not_isUpper (isUpper_of_isLower h)]

theorem getLast?_lowerFrom {before cs : List Char} {c : Char} (hsmall : c.isLower = true)
    (hlast : cs.getLast? = some c) : (Text.lowerFrom before cs).getLast? = some c := by
  induction cs generalizing before with
  | nil => cases hlast
  | cons d rest ih =>
      rw [Text.lowerFrom]
      cases rest with
      | nil =>
          obtain rfl : d = c := by simpa using hlast
          have hsigma : d ≠ 'Σ' := by
            rintro rfl
            exact absurd hsmall (by decide)
          rw [if_neg hsigma, lowerChar_of_isLower hsmall]
          rfl
      | cons e rest =>
          have hrest : ∀ before, (Text.lowerFrom before (e :: rest)).getLast? = some c :=
            fun _ => ih (by simpa [List.getLast?_cons] using hlast)
          split
          · rw [List.getLast?_cons, hrest, Option.getD_some]
          · rw [List.getLast?_append, hrest, Option.some_or]

theorem getLast?_conversionName {name : String} {c : Char} (hsmall : c.isLower = true)
    (hlast : name.toList.getLast? = some c) : (conversionName name).toList.getLast? = some c := by
  have hmarked : (markCapitals (mergeMarks (markWords false name.toList))).getLast? = some c := by
    rw [getLast?_markCapitals, getLast?_mergeMarks, getLast?_markWords, hlast]
  rw [conversionName_toList, List.getLast?_append, snakeChars, Text.lowerChars, getLast?_lowerFrom hsmall hmarked,
    Option.some_or]

/-- A text without its underscores. -/
def letters (cs : List Char) : List Char := cs.filter (· ≠ '_')

variable {c d : Char} {cs ds front back : List Char}

@[simp]
theorem letters_mark (cs : List Char) : letters ('_' :: cs) = letters cs := rfl

theorem letters_cons_congr (c : Char) (h : letters cs = letters ds) : letters (c :: cs) = letters (c :: ds) := by
  by_cases hc : c = '_'
  · subst hc
    exact h
  · simpa [letters, hc] using h

theorem letters_markWords (taken : Bool) (cs : List Char) : letters (markWords taken cs) = letters cs := by
  fun_induction markWords taken cs with
  | case1 | case2 => rfl
  | case3 taken c d rest _ ih | case5 taken c d rest _ _ ih => exact letters_cons_congr c ih
  | case4 taken c d rest _ _ ih => exact letters_cons_congr c (letters_cons_congr d ih)

theorem letters_mergeMarks (cs : List Char) : letters (mergeMarks cs) = letters cs := by
  fun_induction mergeMarks cs with
  | case1 c rest _ ih => exact letters_cons_congr c ih
  | case2 c rest _ ih => exact ih
  | case3 c rest _ ih => exact letters_cons_congr c ih
  | case4 => rfl

theorem letters_markCapitals (cs : List Char) : letters (markCapitals cs) = letters cs := by
  fun_induction markCapitals cs with
  | case1 c d rest _ ih | case2 c d rest _ ih => exact letters_cons_congr c ih
  | case3 => rfl

/-- A text before its letters are made small. -/
def marked (cs : List Char) : List Char := markCapitals (mergeMarks (markWords false cs))

theorem letters_marked (cs : List Char) : letters (marked cs) = letters cs := by
  rw [marked, letters_markCapitals, letters_mergeMarks, letters_markWords]

theorem isAscii_of_letters (h : letters ds = letters cs) (hascii : ∀ c ∈ cs, c.toNat < 128) :
    ∀ c ∈ ds, c.toNat < 128 := by
  intro c hc
  by_cases hmark : c = '_'
  · subst hmark
    decide
  · have hletter : c ∈ letters cs := by
      rw [← h]
      exact List.mem_filter.2 ⟨hc, by simpa using hmark⟩
    exact hascii c (List.mem_filter.1 hletter).1

theorem lowerFrom_of_ascii {before : List Char} (hascii : ∀ c ∈ cs, c.toNat < 128) :
    Text.lowerFrom before cs = cs.map Char.toLower := by
  induction cs generalizing before with
  | nil => rfl
  | cons c rest ih =>
      obtain ⟨hc, hrest⟩ := List.forall_mem_cons.1 hascii
      have hsigma : c ≠ 'Σ' := by
        rintro rfl
        exact absurd hc (by decide)
      rw [Text.lowerFrom, if_neg hsigma, ih hrest, Text.lowerChar, if_pos hc]
      rfl

theorem lowerChars_of_ascii (hascii : ∀ c ∈ cs, c.toNat < 128) : Text.lowerChars cs = cs.map Char.toLower :=
  lowerFrom_of_ascii hascii

theorem isAscii_toLower (hascii : c.toNat < 128) : c.toLower.toNat < 128 := by
  cases hupper : c.isUpper with
  | false => rwa [toLower_of_not_isUpper hupper]
  | true =>
      obtain ⟨-, hhigh⟩ := isUpper_iff.1 hupper
      rw [toNat_toLower_of_isUpper hupper]
      omega

theorem toLower_eq_mark_iff : c.toLower = '_' ↔ c = '_' := by
  constructor
  · intro h
    cases hupper : c.isUpper with
    | false => rwa [toLower_of_not_isUpper hupper] at h
    | true =>
        obtain ⟨hlow, -⟩ := isUpper_iff.1 hupper
        have hnat := toNat_toLower_of_isUpper hupper
        rw [h] at hnat
        have hmark : ('_').toNat = 95 := rfl
        omega
  · rintro rfl
    rfl

theorem letters_map_toLower (cs : List Char) : letters (cs.map Char.toLower) = (letters cs).map Char.toLower := by
  rw [letters, letters, List.filter_map]
  congr 1
  exact List.filter_congr fun c _ => by simp [toLower_eq_mark_iff]

theorem snakeChars_of_ascii (hascii : ∀ c ∈ cs, c.toNat < 128) : snakeChars cs = (marked cs).map Char.toLower :=
  lowerChars_of_ascii (isAscii_of_letters (letters_marked cs) hascii)

theorem letters_snakeChars (hascii : ∀ c ∈ cs, c.toNat < 128) :
    letters (snakeChars cs) = letters (Text.lowerChars cs) := by
  rw [snakeChars_of_ascii hascii, lowerChars_of_ascii hascii, letters_map_toLower, letters_map_toLower, letters_marked]

theorem isAscii_snakeChars (hascii : ∀ c ∈ cs, c.toNat < 128) : ∀ c ∈ snakeChars cs, c.toNat < 128 := by
  rw [snakeChars_of_ascii hascii, List.forall_mem_map]
  intro c hc
  exact isAscii_toLower (isAscii_of_letters (letters_marked cs) hascii c hc)

theorem markWords_of_small (taken : Bool) (h : ∀ c ∈ cs, c.isUpper = false) : markWords taken cs = cs := by
  fun_induction markWords taken cs with
  | case1 | case2 => rfl
  | case3 taken c d rest _ ih | case5 taken c d rest _ _ ih => rw [ih (List.forall_mem_cons.1 h).2]
  | case4 taken c d rest _ hword _ =>
      have hd : d.isUpper = false := h d (by simp)
      simp [hd] at hword

theorem mergeMarks_of_small (h : ∀ c ∈ cs, c.isUpper = false) : mergeMarks cs = cs := by
  fun_induction mergeMarks cs with
  | case1 c rest hupper _ =>
      have hc : c.isUpper = false := h c (by simp)
      rw [hc] at hupper
      cases hupper
  | case2 c rest _ ih | case3 c rest _ ih => rw [ih (List.forall_mem_cons.1 h).2]
  | case4 => rfl

theorem markCapitals_of_small (h : ∀ c ∈ cs, c.isUpper = false) : markCapitals cs = cs := by
  fun_induction markCapitals cs with
  | case1 c d rest hcapital _ =>
      have hd : d.isUpper = false := h d (by simp)
      simp [hd] at hcapital
  | case2 c d rest _ ih => rw [ih (List.forall_mem_cons.1 h).2]
  | case3 => rfl

theorem marked_of_small (h : ∀ c ∈ cs, c.isUpper = false) : marked cs = cs := by
  rw [marked, markWords_of_small false h, mergeMarks_of_small h, markCapitals_of_small h]

theorem snakeChars_of_small (hascii : ∀ c ∈ cs, c.toNat < 128) (h : ∀ c ∈ cs, c.isUpper = false) :
    snakeChars cs = cs := by
  rw [snakeChars_of_ascii hascii, marked_of_small h]
  exact (List.map_congr_left fun c hc => toLower_of_not_isUpper (h c hc)).trans (List.map_id cs)

theorem markWords_append (hc : c.isUpper = false) (taken : Bool) (after : List Char) : (before : List Char) →
    ∃ done goes, markWords taken (before ++ c :: after) = done ++ markWords goes (c :: after) ∧
      letters done = letters before
  | [] => ⟨[], taken, rfl, rfl⟩
  | [x] => by
      have hword : ¬(x ≠ '\n' && c.isUpper && after.head?.any Char.isLower) = true := by simp [hc]
      rw [List.singleton_append, markWords, if_neg hword]
      split
      · exact ⟨[x], true, rfl, rfl⟩
      · exact ⟨[x], false, rfl, rfl⟩
  | x :: y :: rest => by
      rw [List.cons_append, List.cons_append, markWords]
      split
      · obtain ⟨done, goes, hdone, hletters⟩ := markWords_append hc true after (y :: rest)
        exact ⟨x :: done, goes, by rw [← List.cons_append, hdone]; rfl, letters_cons_congr x hletters⟩
      · split
        · obtain ⟨done, goes, hdone, hletters⟩ := markWords_append hc true after rest
          refine ⟨x :: '_' :: y :: done, goes, by rw [hdone]; rfl, ?_⟩
          exact letters_cons_congr x (letters_cons_congr y hletters)
        · obtain ⟨done, goes, hdone, hletters⟩ := markWords_append hc false after (y :: rest)
          exact ⟨x :: done, goes, by rw [← List.cons_append, hdone]; rfl, letters_cons_congr x hletters⟩

theorem markWords_cons (taken : Bool) (c : Char) (cs : List Char) :
    ∃ rest, markWords taken (c :: cs) = c :: rest ∧ letters rest = letters cs := by
  cases cs with
  | nil => exact ⟨[], rfl, rfl⟩
  | cons d ds =>
      rw [markWords]
      split
      · exact ⟨_, rfl, letters_markWords true (d :: ds)⟩
      · split
        · exact ⟨_, rfl, letters_cons_congr d (letters_markWords true ds)⟩
        · exact ⟨_, rfl, letters_markWords false (d :: ds)⟩

/-- The first pass puts at most an underscore between two characters of which the first is no capital. -/
theorem markWords_between (hc : c.isUpper = false) (front back : List Char) :
    ∃ before gap after, markWords false (front ++ c :: d :: back) = before ++ c :: (gap ++ d :: after) ∧
      (gap = [] ∨ gap = ['_']) ∧ letters before = letters front ∧ letters after = letters back := by
  obtain ⟨before, goes, hsplit, hbefore⟩ := markWords_append hc false (d :: back) front
  rw [hsplit, markWords]
  split
  · obtain ⟨after, hafter, hletters⟩ := markWords_cons true d back
    exact ⟨before, [], after, by rw [hafter]; rfl, .inl rfl, hbefore, hletters⟩
  · split
    · exact ⟨before, ['_'], _, rfl, .inr rfl, hbefore, letters_markWords true back⟩
    · obtain ⟨after, hafter, hletters⟩ := markWords_cons false d back
      exact ⟨before, [], after, by rw [hafter]; rfl, .inl rfl, hbefore, hletters⟩

/-- The second pass takes nothing away unless two underscores and a capital come next. -/
theorem mergeMarks_cons (h : ∀ d rest, c = '_' → cs = '_' :: d :: rest → d.isUpper = false) :
    mergeMarks (c :: cs) = c :: mergeMarks cs := by
  generalize hwhole : c :: cs = whole
  fun_cases mergeMarks whole with
  | case1 d rest hd =>
      obtain ⟨rfl, rfl⟩ := List.cons.inj hwhole
      rw [h d rest rfl rfl] at hd
      cases hd
  | case2 d rest hd =>
      obtain ⟨rfl, rfl⟩ := List.cons.inj hwhole
      rfl
  | case3 x rest _ =>
      obtain ⟨rfl, rfl⟩ := List.cons.inj hwhole
      rfl
  | case4 => cases hwhole

theorem mergeMarks_letter_cons (hc : c ≠ '_') (cs : List Char) : mergeMarks (c :: cs) = c :: mergeMarks cs :=
  mergeMarks_cons fun _ _ h => absurd h hc

/-- The second pass goes on at a character that is neither an underscore nor a capital. -/
theorem mergeMarks_append (hmark : c ≠ '_') (hc : c.isUpper = false) (before after : List Char) :
    mergeMarks (before ++ c :: after) = mergeMarks before ++ c :: mergeMarks after := by
  fun_induction mergeMarks before with
  | case1 x rest hx ih =>
      rw [List.cons_append, List.cons_append, List.cons_append, mergeMarks, if_pos hx, ih]
      rfl
  | case2 x rest hx ih =>
      rw [List.cons_append, List.cons_append, List.cons_append, mergeMarks, if_neg hx, ← List.cons_append,
        ← List.cons_append, ih]
      rfl
  | case3 x rest hx ih =>
      rw [List.cons_append, List.cons_append, ← ih]
      refine mergeMarks_cons fun d tail hmarked htail => ?_
      -- Two underscores stand at the end of what comes before, so what follows them is `c`.
      rcases rest with _ | ⟨y, _ | ⟨z, rest⟩⟩
      · exact absurd (List.cons.inj htail).1 hmark
      · obtain ⟨-, htail⟩ := List.cons.inj htail
        rwa [← (List.cons.inj htail).1]
      · obtain ⟨rfl, -⟩ := List.cons.inj htail
        exact absurd rfl (hx z rest hmarked)
  | case4 => exact mergeMarks_letter_cons hmark after

theorem mergeMarks_between {gap : List Char} (hgap : gap = [] ∨ gap = ['_']) (hd : d ≠ '_') (cs : List Char) :
    mergeMarks (gap ++ d :: cs) = gap ++ d :: mergeMarks cs := by
  obtain rfl | rfl := hgap
  · exact mergeMarks_letter_cons hd cs
  · have hmark : mergeMarks ('_' :: d :: cs) = '_' :: mergeMarks (d :: cs) :=
      mergeMarks_cons fun _ _ _ h => absurd (List.cons.inj h).1 hd
    rw [List.singleton_append, hmark, mergeMarks_letter_cons hd]
    rfl

theorem markCapitals_cons (c : Char) (cs : List Char) :
    ∃ rest, markCapitals (c :: cs) = c :: rest ∧ letters rest = letters cs := by
  cases cs with
  | nil => exact ⟨[], rfl, rfl⟩
  | cons d ds =>
      rw [markCapitals]
      split
      · exact ⟨_, rfl, letters_markCapitals (d :: ds)⟩
      · exact ⟨_, rfl, letters_markCapitals (d :: ds)⟩

theorem markCapitals_append (c : Char) (after before : List Char) :
    ∃ done, markCapitals (before ++ c :: after) = done ++ markCapitals (c :: after) ∧
      letters done = letters before := by
  induction before with
  | nil => exact ⟨[], rfl, rfl⟩
  | cons x rest ih =>
      obtain ⟨done, hdone, hletters⟩ := ih
      obtain ⟨y, ys, hnext⟩ := List.exists_cons_of_ne_nil (l := rest ++ c :: after) (by simp)
      rw [List.cons_append, hnext, markCapitals, ← hnext, hdone]
      split
      · exact ⟨x :: '_' :: done, rfl, letters_cons_congr x hletters⟩
      · exact ⟨x :: done, rfl, letters_cons_congr x hletters⟩

theorem markCapitals_between {gap : List Char} (hgap : gap = [] ∨ gap = ['_']) (hc : (c.isLower || c.isDigit) = true)
    (hd : d.isUpper = true) (cs : List Char) :
    markCapitals (c :: (gap ++ d :: cs)) = c :: '_' :: markCapitals (d :: cs) := by
  obtain rfl | rfl := hgap
  · rw [List.nil_append, markCapitals, if_pos (by simp [hc, hd])]
  · have hmark : ('_').isUpper = false ∧ ('_').isLower = false ∧ ('_').isDigit = false := by decide
    rw [List.singleton_append, markCapitals, if_neg (by simp [hmark]), markCapitals, if_neg (by simp [hmark])]

theorem isUpper_of_small (hc : (c.isLower || c.isDigit) = true) : c.isUpper = false := by
  obtain hc | hc := Bool.or_eq_true_iff.1 hc
  · exact isUpper_of_isLower hc
  · delta Char.isDigit at hc
    have hhigh : c.toNat ≤ 57 := of_decide_eq_true (Bool.and_eq_true_iff.1 hc).2
    rw [Bool.eq_false_iff, ne_eq, isUpper_iff]
    omega

/-- A capital after a small letter or digit has an underscore before it when all passes are done. -/
theorem marked_between (hc : (c.isLower || c.isDigit) = true) (hd : d.isUpper = true) (front back : List Char) :
    ∃ before after, marked (front ++ c :: d :: back) = before ++ c :: '_' :: d :: after ∧
      letters before = letters front ∧ letters after = letters back := by
  have hsmall := isUpper_of_small hc
  have hcmark : c ≠ '_' := by
    rintro rfl
    exact absurd hc (by decide)
  have hdmark : d ≠ '_' := by
    rintro rfl
    exact absurd hd (by decide)
  obtain ⟨before, gap, after, hwords, hgap, hbefore, hafter⟩ := markWords_between (d := d) hsmall front back
  obtain ⟨done, hdone, hdoneLetters⟩ := markCapitals_append c (gap ++ d :: mergeMarks after) (mergeMarks before)
  obtain ⟨rest, hrest, hrestLetters⟩ := markCapitals_cons d (mergeMarks after)
  refine ⟨done, rest, ?_, ?_, ?_⟩
  · rw [marked, hwords, mergeMarks_append hcmark hsmall, mergeMarks_between hgap hdmark, hdone,
      markCapitals_between hgap hc hd, hrest]
  · rw [hdoneLetters, letters_mergeMarks, hbefore]
  · rw [hrestLetters, letters_mergeMarks, hafter]

theorem snakeChars_between (hascii : ∀ e ∈ front ++ c :: d :: back, e.toNat < 128)
    (hc : (c.isLower || c.isDigit) = true) (hd : d.isUpper = true) :
    ∃ before after, snakeChars (front ++ c :: d :: back) = before ++ c :: '_' :: d.toLower :: after ∧
      letters before = letters (Text.lowerChars front) ∧ letters after = letters (Text.lowerChars back) := by
  obtain ⟨before, after, hmarked, hbefore, hafter⟩ := marked_between hc hd front back
  have hfront : ∀ e ∈ front, e.toNat < 128 := fun e he => hascii e (by simp [he])
  have hback : ∀ e ∈ back, e.toNat < 128 := fun e he => hascii e (by simp [he])
  have hkept : c.toLower = c := toLower_of_not_isUpper (isUpper_of_small hc)
  refine ⟨before.map Char.toLower, after.map Char.toLower, ?_, ?_, ?_⟩
  · rw [snakeChars_of_ascii hascii, hmarked, List.map_append, List.map_cons, List.map_cons, List.map_cons, hkept]
    rfl
  · rw [lowerChars_of_ascii hfront, letters_map_toLower, letters_map_toLower, hbefore]
  · rw [lowerChars_of_ascii hback, letters_map_toLower, letters_map_toLower, hafter]

/-- For a text of ASCII, snake case has no capital letter, keeps all but underscores as the small letters of the text
do, is not changed by a second turn, and has an underscore before each capital that follows a small letter or a digit.
-/
theorem snakeCase_of_ascii (s : String) (hascii : ∀ c ∈ s.toList, c.toNat < 128) :
    (∀ c ∈ (snakeCase s).toList, c.toNat < 128 ∧ c.isUpper = false) ∧
      letters (snakeCase s).toList = letters (Text.lower s).toList ∧
      snakeCase (snakeCase s) = snakeCase s ∧
      ∀ front c d back, s.toList = front ++ c :: d :: back → (c.isLower || c.isDigit) = true → d.isUpper = true →
        ∃ before after, (snakeCase s).toList = before ++ c :: '_' :: d.toLower :: after ∧
          letters before = letters (Text.lowerChars front) ∧ letters after = letters (Text.lowerChars back) := by
  have hsmall : ∀ c ∈ snakeChars s.toList, c.isUpper = false := fun c hc => isUpper_of_mem_snakeChars hc
  have hsnake := isAscii_snakeChars hascii
  simp only [snakeCase, Text.lower, String.toList_ofList]
  refine ⟨fun c hc => ⟨hsnake c hc, hsmall c hc⟩, letters_snakeChars hascii, ?_, ?_⟩
  · rw [snakeChars_of_small hsnake hsmall]
  · intro front c d back htext hc hd
    rw [htext] at hascii ⊢
    exact snakeChars_between hascii hc hd

theorem getHTTPUrl2Go_snakeCase :
    (∀ c ∈ "get__HTTPUrl2Go".toList, c.toNat < 128) ∧
      letters (snakeCase "get__HTTPUrl2Go").toList = letters (Text.lower "get__HTTPUrl2Go").toList ∧
      snakeCase (snakeCase "get__HTTPUrl2Go") = snakeCase "get__HTTPUrl2Go" ∧
      ∃ before after, (snakeCase "get__HTTPUrl2Go").toList = before ++ '2' :: '_' :: 'g' :: after ∧
        letters before = letters (Text.lowerChars "get__HTTPUrl".toList) ∧
          letters after = letters (Text.lowerChars ['o']) := by
  have hall : ("get__HTTPUrl2Go".toList.all fun c => decide (c.toNat < 128)) = true := by decide
  have hascii : ∀ c ∈ "get__HTTPUrl2Go".toList, c.toNat < 128 :=
    fun c hc => of_decide_eq_true (List.all_eq_true.1 hall c hc)
  obtain ⟨-, hletters, hagain, hplaces⟩ := snakeCase_of_ascii "get__HTTPUrl2Go" hascii
  exact ⟨hascii, hletters, hagain, hplaces "get__HTTPUrl".toList '2' 'G' ['o'] (by decide) (by decide) (by decide)⟩

end Vetted.Proofs.SnakeCase
