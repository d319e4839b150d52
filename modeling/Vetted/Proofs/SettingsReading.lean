import Vetted.Proofs.Sequence
import Vetted.Settings.Basic

namespace Vetted.Proofs.SettingsReading

open Sequence Settings

variable {α : Type} {entries : List (Value × Value)} {key : String} {read : Value → Checked α} {a : α} {v : Value}
  {write : α → Value} {P : α → Prop} {s : Settings}

theorem required_eq_ok (h : required entries key read = .ok a) : ∃ v, read v = .ok a := by
  have hread := mapError_eq_ok_iff.1 h
  split at hread
  · exact ⟨_, hread⟩
  · cases hread

theorem given_eq_ok {otherwise : α} (h : given entries key otherwise read = .ok a) :
    a = otherwise ∨ ∃ v, read v = .ok a := by
  unfold given at h
  split at h
  · exact .inr ⟨_, mapError_eq_ok_iff.1 h⟩
  · exact .inl (Except.ok.inj h).symm

theorem optional_eq_ok (h : Settings.optional read v = .ok (some a)) : read v = .ok a := by
  unfold Settings.optional at h
  split at h
  · cases h
  · obtain ⟨_, hread, heq⟩ := map_eq_ok_iff.1 h
    rw [hread, Option.some.inj heq]

theorem mem_itemsFrom {index : Nat} {vs : List Value} {as : List α} (h : itemsFrom read index vs = .ok as)
    (ha : a ∈ as) : ∃ v, read v = .ok a := by
  induction vs generalizing index as with
  | nil =>
      obtain rfl := Except.ok.inj h
      simp at ha
  | cons v vs ih =>
      rw [itemsFrom] at h
      split at h
      · rename_i hfirst hothers
        obtain rfl := Except.ok.inj h
        rcases List.mem_cons.1 ha with rfl | ha
        · exact ⟨v, mapError_eq_ok_iff.1 hfirst⟩
        · exact ih hothers ha
      · cases h

theorem mem_items {as : List α} (h : items read v = .ok as) (ha : a ∈ as) : ∃ v, read v = .ok a := by
  unfold items at h
  split at h
  case h_5 => cases h
  all_goals exact mem_itemsFrom h ha

/-- A reader that accepts only what meets a condition, and accepts all of that when it is written down. -/
structure Stable (read : Value → Checked α) (write : α → Value) (P : α → Prop) : Prop where
  holds : ∀ {v a}, read v = .ok a → P a
  reads : ∀ {a}, P a → read (write a) = .ok a

theorem Stable.imp {Q : α → Prop} (h : Stable read write P) (hiff : ∀ a, P a ↔ Q a) : Stable read write Q where
  holds hread := (hiff _).1 (h.holds hread)
  reads hQ := h.reads ((hiff _).2 hQ)

theorem Stable.of_required (h : Stable read write P) (hread : required entries key read = .ok a) : P a := by
  obtain ⟨v, hv⟩ := required_eq_ok hread
  exact h.holds hv

theorem Stable.of_given {otherwise : α} (h : Stable read write P) (hstandard : P otherwise)
    (hread : given entries key otherwise read = .ok a) : P a := by
  obtain rfl | ⟨v, hv⟩ := given_eq_ok hread
  · exact hstandard
  · exact h.holds hv

theorem Stable.required (h : Stable read write P) (ha : P a) (hentry : entry? key entries = some (write a)) :
    Settings.required entries key read = .ok a := by
  simp only [Settings.required, hentry, h.reads ha]
  rfl

theorem Stable.given {otherwise : α} (h : Stable read write P) (ha : P a)
    (hentry : entry? key entries = some (write a)) :
    Settings.given entries key otherwise read = .ok a := by
  simp only [Settings.given, hentry, h.reads ha]
  rfl

theorem Stable.optional (h : Stable read write P) (hwrite : ∀ a, write a ≠ .none) :
    Stable (Settings.optional read) (fun a? => a?.elim .none write) (fun a? => ∀ a, a? = some a → P a) := by
  constructor
  · rintro v _ hread a rfl
    exact h.holds (optional_eq_ok hread)
  · intro a? ha
    cases a? with
    | none => rfl
    | some a =>
        rw [Option.elim_some, Settings.optional, h.reads (ha a rfl)]
        · rfl
        · exact hwrite a

theorem itemsFrom_map (h : Stable read write P) {as : List α} (has : ∀ a ∈ as, P a) (index : Nat) :
    itemsFrom read index (as.map write) = .ok as := by
  induction as generalizing index with
  | nil => rfl
  | cons a as ih =>
      obtain ⟨ha, hrest⟩ := List.forall_mem_cons.1 has
      rw [List.map_cons, itemsFrom, h.reads ha, ih hrest]
      rfl

theorem Stable.items (h : Stable read write P) :
    Stable (Settings.items read) (fun as => .list (as.map write)) (fun as => ∀ a ∈ as, P a) where
  holds hread a ha := by
    obtain ⟨v, hv⟩ := mem_items hread ha
    exact h.holds hv
  reads has := itemsFrom_map h has 0

/-- A reader of texts that refuses some of them. -/
theorem Stable.checked {inner : Value → Checked String} {P : String → Prop} {test : String → Bool}
    {cause : String → Cause}
    (h : Stable inner .text P) :
    Stable (fun v => match inner v with
      | .ok s => if test s then .ok s else refuse (cause s)
      | r => r) .text (fun s => P s ∧ test s = true) := by
  constructor
  · intro v s hread
    cases hinner : inner v with
    | error problems => simp [hinner] at hread
    | ok t =>
        by_cases htest : test t = true
        · simp only [hinner, htest, if_true, Except.ok.injEq] at hread
          exact hread ▸ ⟨h.holds hinner, htest⟩
        · simp [hinner, htest, refuse] at hread
  · rintro s ⟨hs, htest⟩
    simp only [h.reads hs, htest, if_true]

theorem stable_text : Stable text .text fun _ => True where
  holds _ := trivial
  reads _ := rfl

theorem stable_name : Stable name .text (Naming.isIdentifier · = true) :=
  stable_text.checked.imp fun _ => and_iff_right trivial

theorem stable_suffix : Stable suffix .text (isSuffix · = true) :=
  stable_text.checked.imp fun _ => and_iff_right trivial

theorem stable_modulePath : Stable modulePath .text (isModulePath · = true) :=
  stable_text.checked.imp fun _ => and_iff_right trivial

/-- A text that is not empty and can be told. -/
def Filled (s : String) : Prop := s ≠ "" ∧ Text.hasHalf s = false

theorem stable_filledText : Stable filledText .text Filled := by
  constructor
  · intro v s hread
    unfold filledText at hread
    split at hread
    · rename_i t _
      split at hread
      · cases hread
      · split at hread
        · cases hread
        · rename_i hhalf hempty
          obtain rfl := Except.ok.inj hread
          exact ⟨by simpa using hempty, by simpa using hhalf⟩
    · simp_all
  · rintro s ⟨hne, hhalf⟩
    simp [filledText, text, hhalf, hne]

theorem stable_fieldName : Stable fieldName .text fun s => Filled s ∧ Naming.isIdentifier s = true :=
  stable_filledText.checked

theorem stable_flag : Stable flag .bool fun _ => True where
  holds _ := trivial
  reads _ := rfl

theorem stable_variantOf : Stable variantOf (fun variant => .text variant.name) fun _ => True where
  holds _ := trivial
  reads {variant} _ := by cases variant <;> rfl

theorem stable_lineLengthOf : Stable lineLengthOf (fun n => .int n) (40 < ·) := by
  constructor
  · intro v n hread
    unfold lineLengthOf at hread
    split at hread
    · split at hread
      · rename_i m _ habove
        obtain rfl := Except.ok.inj hread
        simp only [lineLengthBound] at habove
        omega
      · cases hread
    · cases hread
  · intro n hn
    have habove : (lineLengthBound : Int) < n := by
      simp only [lineLengthBound]
      omega
    simp only [lineLengthOf, integer, habove, if_true, Int.toNat_natCast]

theorem badFile?_eq_none_iff {index : Nat} {files : List String} :
    badFile? index files = none ↔
      ∀ f ∈ files, (Text.strip f).isEmpty = false ∧ Text.endsWith f ".py" = true := by
  induction files generalizing index with
  | nil => simp [badFile?]
  | cons f rest ih =>
      rw [badFile?, List.forall_mem_cons]
      cases hblank : (Text.strip f).isEmpty with
      | true => simp
      | false => cases hends : Text.endsWith f ".py" <;> simp [ih]

theorem stable_files : Stable files (fun fs => .list (fs.map .text)) fun fs => fs ≠ [] ∧ badFile? 0 fs = none := by
  constructor
  · intro v fs hread
    unfold files at hread
    split at hread
    · cases hread
    · rename_i gs hne _
      split at hread
      · cases hread
      · rename_i hbad
        obtain rfl := Except.ok.inj hread
        exact ⟨fun hnil => hne hnil, hbad⟩
    · simp_all
  · rintro fs ⟨hne, hbad⟩
    have hitems : items text (.list (fs.map .text)) = .ok fs := stable_text.items.reads fun _ _ => trivial
    rw [files, hitems]
    cases fs with
    | nil => exact absurd rfl hne
    | cons f rest => simp only [hbad]

/-- What is checked of a rule. -/
structure AcceptedRule (rule : TransformRule) : Prop where
  sourceType : Filled rule.sourceType
  targetField : Filled rule.targetField ∧ Naming.isIdentifier rule.targetField = true
  targetType : Filled rule.targetType
  capability : ∀ path, rule.capability = some path → isModulePath path = true

def ruleEntries (rule : TransformRule) : List (Value × Value) :=
  [(.text "source_type_name", .text rule.sourceType), (.text "target_field_name", .text rule.targetField),
    (.text "target_field_type", .text rule.targetType), (.text "required_capability", rule.capability.elim .none .text)]

theorem stable_capability :
    Stable (Settings.optional modulePath) (fun path? => path?.elim .none .text) fun path? =>
      ∀ path, path? = some path → isModulePath path = true :=
  stable_modulePath.optional (by simp)

theorem stable_ruleFrom : Stable ruleFrom (fun rule => .dict (ruleEntries rule)) AcceptedRule := by
  constructor
  · intro v rule hread
    unfold ruleFrom at hread
    split at hread
    · simp only at hread
      split at hread
      · rename_i hsource hfield htarget hcapability _
        obtain rfl := Except.ok.inj hread
        exact ⟨stable_filledText.of_required hsource, stable_fieldName.of_required hfield,
          stable_filledText.of_required htarget, stable_capability.of_given (by simp) hcapability⟩
      · cases hread
    · cases hread
  · intro rule hrule
    have hsource : required (ruleEntries rule) "source_type_name" filledText = .ok rule.sourceType :=
      stable_filledText.required hrule.sourceType rfl
    have hfield : required (ruleEntries rule) "target_field_name" fieldName = .ok rule.targetField :=
      stable_fieldName.required hrule.targetField rfl
    have htarget : required (ruleEntries rule) "target_field_type" filledText = .ok rule.targetType :=
      stable_filledText.required hrule.targetType rfl
    have hcapability : given (ruleEntries rule) "required_capability" none (Settings.optional modulePath) =
        .ok rule.capability :=
      stable_capability.given hrule.capability rfl
    have hstray : strayEntries (ruleEntries rule) = [] := rfl
    simp only [ruleFrom, hsource, hfield, htarget, hcapability, hstray]

/-- Settings whose parts are those that the entries give. -/
structure ReadFrom (entries : List (Value × Value)) (s : Settings) : Prop where
  inputFiles : required entries "input_files" files = .ok s.inputFiles
  variant : given entries "template_variant" .direct variantOf = .ok s.variant
  inputSuffix : given entries "input_suffix" "Input" name = .ok s.inputSuffix
  domainSuffix : given entries "domain_suffix" "Validated" name = .ok s.domainSuffix
  outputSuffix : given entries "output_suffix" Generated.defaultSuffix suffix = .ok s.outputSuffix
  passwordField : given entries "password_field_name" "password" name = .ok s.passwordField
  passwordDomain : given entries "password_domain_name" none (Settings.optional name) = .ok s.passwordDomain
  sourceModule : given entries "source_module" none (Settings.optional text) = .ok s.sourceModule
  formatOutput : given entries "format_output" true flag = .ok s.formatOutput
  lineLength : given entries "line_length" Generated.defaultLineLength lineLengthOf = .ok s.lineLength
  overwriteUnmarked : given entries "overwrite_unmarked" false flag = .ok s.overwriteUnmarked
  rules : given entries "transform_rules" [] (items ruleFrom) = .ok s.rules

theorem fromEntries_eq_ok_iff : fromEntries entries = .ok s ↔ ReadFrom entries s := by
  unfold fromEntries
  constructor
  · intro h
    simp only at h
    split at h
    · rename_i h₁ h₂ h₃ h₄ h₅ h₆ h₇ h₈ h₉ h₁₀ h₁₁ h₁₂
      obtain rfl := Except.ok.inj h
      exact ⟨h₁, h₂, h₃, h₄, h₅, h₆, h₇, h₈, h₉, h₁₀, h₁₁, h₁₂⟩
    · cases h
  · rintro ⟨h₁, h₂, h₃, h₄, h₅, h₆, h₇, h₈, h₉, h₁₀, h₁₁, h₁₂⟩
    simp only [h₁, h₂, h₃, h₄, h₅, h₆, h₇, h₈, h₉, h₁₀, h₁₁, h₁₂]

theorem ofValue_eq_ok_iff : ofValue v = .ok s ↔ ∃ entries, v = .dict entries ∧ ReadFrom entries s := by
  simp only [← fromEntries_eq_ok_iff]
  unfold ofValue
  split
  · simp
  · rename_i hdict
    constructor
    · intro h
      cases h
    · rintro ⟨entries, rfl, -⟩
      exact absurd rfl (hdict entries)

theorem readFrom_of_parse {file : Option String} (h : parse v file = .ok s) : ∃ entries, ReadFrom entries s := by
  obtain ⟨entries, -, hread⟩ := ofValue_eq_ok_iff.1 (mapError_eq_ok_iff.1 h)
  exact ⟨entries, hread⟩

end Vetted.Proofs.SettingsReading
