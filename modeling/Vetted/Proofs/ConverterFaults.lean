import Vetted.Conversion
import Vetted.Proofs.Sequence

namespace Vetted.Proofs.ConverterFaults

def parts : Value → List Value
  | .list items | .tuple items | .set items | .frozenSet items => items
  | .dict entries => entries.flatMap fun e => [e.1, e.2]
  | _ => []

/-- An integer that is too long to be written, or a collection with a value like that. -/
inductive Unwritable : Value → Prop
  | int {n : Int} : Nat.pow 10 4300 ≤ n.natAbs → Unwritable (.int n)
  | part {v w : Value} : v ∈ parts w → Unwritable v → Unwritable w

theorem unwritable_int_iff {n : Int} : Unwritable (.int n) ↔ Nat.pow 10 4300 ≤ n.natAbs := by
  constructor
  · intro h
    cases h with
    | int hn => exact hn
    | part hv _ => cases hv
  · exact .int

theorem unwritable_iff_part {w : Value} (h : ∀ n, w ≠ .int n) : Unwritable w ↔ ∃ v ∈ parts w, Unwritable v := by
  constructor
  · intro hw
    cases hw with
    | int => exact absurd rfl (h _)
    | part hv hunwritable => exact ⟨_, hv, hunwritable⟩
  · rintro ⟨v, hv, hunwritable⟩
    exact .part hv hunwritable

theorem intText?_eq_none_iff {n : Int} : Value.intText? n = none ↔ Nat.pow 10 4300 ≤ n.natAbs := by
  rw [Value.intText?]
  split
  case isTrue hlt => exact iff_of_false (by simp) (Nat.not_le.2 hlt)
  case isFalse hle => exact iff_of_true rfl (Nat.not_lt.1 hle)

mutual

theorem nestedText?_eq_none_iff : (v : Value) → (v.nestedText? = none ↔ Unwritable v)
  | .int n => by rw [Value.nestedText?, intText?_eq_none_iff, unwritable_int_iff]
  | .list items => by
      rw [Value.nestedText?, Option.map_eq_none_iff, nestedTexts?_eq_none_iff items, unwritable_iff_part (by simp),
        parts]
  | .tuple [] => by simp [Value.nestedText?, Value.nestedTexts?, unwritable_iff_part, parts]
  | .tuple [item] => by
      rw [Value.nestedText?, Option.map_eq_none_iff, unwritable_iff_part (by simp), nestedText?_eq_none_iff item, parts]
      simp
  | .tuple (a :: b :: rest) => by
      rw [Value.nestedText?, Option.map_eq_none_iff, nestedTexts?_eq_none_iff (a :: b :: rest),
        unwritable_iff_part (by simp), parts]
      simp
  | .set [] => by simp [Value.nestedText?, unwritable_iff_part, parts]
  | .set (a :: rest) => by
      rw [Value.nestedText?, Option.map_eq_none_iff, nestedTexts?_eq_none_iff (a :: rest),
        unwritable_iff_part (by simp), parts]
      simp
  | .frozenSet [] => by simp [Value.nestedText?, unwritable_iff_part, parts]
  | .frozenSet (a :: rest) => by
      rw [Value.nestedText?, Option.map_eq_none_iff, nestedTexts?_eq_none_iff (a :: rest),
        unwritable_iff_part (by simp), parts]
      simp
  | .dict entries => by
      rw [Value.nestedText?, Option.map_eq_none_iff, entryTexts?_eq_none_iff entries, unwritable_iff_part (by simp),
        parts]
  | .none | .bool _ | .float _ | .decimal _ | .text _ | .bytes _ | .byteArray _ | .date _ | .moment _ => by
      simp [Value.nestedText?, unwritable_iff_part, parts]

theorem nestedTexts?_eq_none_iff : (items : List Value) →
    (Value.nestedTexts? items = none ↔ ∃ v ∈ items, Unwritable v)
  | [] => by simp [Value.nestedTexts?]
  | v :: rest => by
      rw [Value.nestedTexts?, List.exists_mem_cons_iff, ← nestedText?_eq_none_iff v, ← nestedTexts?_eq_none_iff rest]
      cases v.nestedText? <;> cases Value.nestedTexts? rest <;> simp

theorem entryTexts?_eq_none_iff : (entries : List (Value × Value)) →
    (Value.entryTexts? entries = none ↔ ∃ v ∈ entries.flatMap fun e => [e.1, e.2], Unwritable v)
  | [] => by simp [Value.entryTexts?]
  | (k, v) :: rest => by
      rw [Value.entryTexts?, List.flatMap_cons, List.cons_append, List.singleton_append, List.exists_mem_cons_iff,
        List.exists_mem_cons_iff, ← nestedText?_eq_none_iff k, ← nestedText?_eq_none_iff v,
        ← entryTexts?_eq_none_iff rest]
      cases k.nestedText? <;> cases v.nestedText? <;> cases Value.entryTexts? rest <;> simp

end

theorem text?_eq_none_iff (v : Value) : v.text? = none ↔ Unwritable v := by
  unfold Value.text?
  split
  case h_5 => exact nestedText?_eq_none_iff v
  all_goals simp [unwritable_iff_part, parts]

/-- A converter fails on a value in a way that is not reported against the field. -/
inductive Escapes : Converter → Value → ConverterFault → Prop
  | text {v : Value} : Unwritable v → Escapes .text v .tooLong
  | long {s : String} : Password.maxLength < s.length → Escapes .password (.text s) (.password .tooLong)
  | half {s : String} {fault : Text.HalfFault} : s.length ≤ Password.maxLength →
      Text.halfFault? Text.isHalf s = some fault → Escapes .password (.text s) (.password (.unencodable fault))

theorem toText_escapes_iff {v : Value} {e : ConverterFault} (he : ∀ message, e ≠ .unusable message) :
    Converter.toText v = .error e ↔ Escapes .text v e := by
  constructor
  · intro h
    unfold Converter.toText at h
    split at h
    case h_1 => cases h
    case h_2 | h_3 =>
        split at h
        · cases h
        · exact absurd (Except.error.inj h).symm (he _)
    case h_4 => exact absurd (Except.error.inj h).symm (he _)
    case h_5 =>
        split at h
        · cases h
        · rename_i hnone
          obtain rfl := Except.error.inj h
          exact .text ((text?_eq_none_iff v).1 hnone)
  · rintro ⟨hv⟩
    have hnone := (text?_eq_none_iff v).2 hv
    unfold Converter.toText
    split
    case h_5 => rw [hnone]
    all_goals simp [Value.text?, Value.nestedText?] at hnone

theorem toDateOfBirth_reports {today : Date} {v : Value} {e : ConverterFault}
    (h : Converter.toDateOfBirth today v = .error e) : ∃ message, e = .unusable message := by
  unfold Converter.toDateOfBirth at h
  split at h
  · split at h
    · exact ⟨_, (Except.error.inj h).symm⟩
    · split at h
      · exact ⟨_, (Except.error.inj h).symm⟩
      · cases h
  · exact ⟨_, (Except.error.inj h).symm⟩

theorem make_eq_error_iff {salt : List UInt8} {s : String} {fault : Password.Fault} :
    Password.Hash.make salt s = .error fault ↔ Escapes .password (.text s) (.password fault) := by
  rw [Password.Hash.make]
  constructor
  · intro h
    split at h
    · rename_i hlong
      obtain rfl := Except.error.inj h
      exact .long hlong
    · rename_i hshort
      rw [Password.passwordBytes] at h
      cases hhalf : Text.halfFault? Text.isHalf s with
      | none =>
          rw [hhalf] at h
          cases h
      | some half =>
          rw [hhalf] at h
          obtain rfl := Except.error.inj h
          exact .half (Nat.le_of_not_lt hshort) hhalf
  · intro h
    cases h with
    | long hlong => rw [if_pos hlong]
    | half hshort hhalf =>
        rw [if_neg (Nat.not_lt.2 hshort), Password.passwordBytes, hhalf]
        rfl

theorem Escapes.ne_empty {s : String} {e : ConverterFault} (h : Escapes .password (.text s) e) : s.isEmpty = false := by
  rw [String.isEmpty_eq_false_iff]
  rintro rfl
  cases h with
  | long hlong => exact absurd hlong (by decide)
  | half _ hhalf => cases hhalf

theorem toHash_escapes_iff {salt : List UInt8} {v : Value} {e : ConverterFault}
    (he : ∀ message, e ≠ .unusable message) :
    Converter.toHash salt v = .error e ↔ Escapes .password v e := by
  constructor
  · intro h
    unfold Converter.toHash at h
    split at h
    case h_1 s =>
        split at h
        · exact absurd (Except.error.inj h).symm (he _)
        · split at h
          · cases h
          · rename_i fault hmake
            obtain rfl := Except.error.inj h
            exact make_eq_error_iff.1 hmake
    case h_2 => exact absurd (Except.error.inj h).symm (he _)
  · intro h
    obtain ⟨s, fault, rfl, rfl⟩ : ∃ s fault, v = .text s ∧ e = .password fault := by
      cases h with
      | long => exact ⟨_, _, rfl, rfl⟩
      | half => exact ⟨_, _, rfl, rfl⟩
    simp [Converter.toHash, h.ne_empty, make_eq_error_iff.2 h]

theorem run_escapes_iff {c : Circumstances} {k : Converter} {v : Value} {e : ConverterFault}
    (he : ∀ message, e ≠ .unusable message) : k.run c v = .error e ↔ Escapes k v e := by
  cases k with
  | text => exact toText_escapes_iff he
  | dateOfBirth =>
      refine ⟨fun h => ?_, by rintro ⟨⟩⟩
      obtain ⟨message, hmessage⟩ := toDateOfBirth_reports h
      exact absurd hmessage (he message)
  | password => exact toHash_escapes_iff he

/-- A converter gives a value, or calls the one that it is given unusable, unless that one escapes it. -/
theorem run_reports_iff (c : Circumstances) (k : Converter) (v : Value) :
    ((∃ out, k.run c v = .ok out) ∨ ∃ message, k.run c v = .error (.unusable message)) ↔ ∀ e, ¬Escapes k v e := by
  constructor
  · intro h e hescapes
    have he : ∀ message, e ≠ .unusable message := by
      intro message
      cases hescapes <;> simp
    have hrun := (run_escapes_iff (c := c) he).2 hescapes
    obtain ⟨out, hout⟩ | ⟨message, hmessage⟩ := h
    · rw [hrun] at hout
      cases hout
    · rw [hrun] at hmessage
      exact he message (Except.error.inj hmessage)
  · intro h
    cases hrun : k.run c v with
    | ok out => exact .inl ⟨out, rfl⟩
    | error e =>
        cases e with
        | unusable message => exact .inr ⟨message, rfl⟩
        | tooLong | password => exact absurd ((run_escapes_iff (by simp)).1 hrun) (h _)

end Vetted.Proofs.ConverterFaults
