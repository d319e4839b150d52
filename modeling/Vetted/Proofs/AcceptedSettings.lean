import Vetted.Proofs.OutputNames
import Vetted.Proofs.WrapperNames

namespace Vetted.Proofs.AcceptedSettings

open OutputNames Sequence Settings SettingsReading TextPieces

/-- A name that generated code may use. -/
structure Declarable (name : String) : Prop where
  shape : ∃ c cs, name.toList = c :: cs ∧ Text.isNameStart c = true ∧ ∀ d ∈ cs, Text.isNameRest d = true
  free : name ∉ Naming.keywords

theorem isIdentifier_iff {name : String} : Naming.isIdentifier name = true ↔ Declarable name := by
  have hkeyword : (!Naming.isKeyword name) = true ↔ name ∉ Naming.keywords := by simp [Naming.isKeyword]
  have hshape : Text.isName name = true ↔
      ∃ c cs, name.toList = c :: cs ∧ Text.isNameStart c = true ∧ ∀ d ∈ cs, Text.isNameRest d = true := by
    constructor
    · intro h
      obtain ⟨c, cs, hname, -⟩ := WrapperNames.exists_start_of_isName h
      exact ⟨c, cs, hname, (WrapperNames.isName_iff hname).1 h⟩
    · rintro ⟨c, cs, hname, h⟩
      exact (WrapperNames.isName_iff hname).2 h
  rw [Naming.isIdentifier, Bool.and_eq_true, hshape, hkeyword]
  exact ⟨fun h => ⟨h.1, h.2⟩, fun h => ⟨h.shape, h.free⟩⟩

def Dotted (path : String) : Prop :=
  ∃ names : List String, names ≠ [] ∧ (∀ name ∈ names, Declarable name) ∧ path = ".".intercalate names

theorem point_not_mem_of_declarable {name : String} (h : Declarable name) : '.' ∉ name.toList := by
  intro hpoint
  have hname := (Bool.and_eq_true_iff.1 (isIdentifier_iff.2 h)).1
  exact absurd (WrapperNames.isNameRest_of_mem hname hpoint) (by decide)

theorem isModulePath_iff {path : String} : isModulePath path = true ↔ Dotted path := by
  rw [isModulePath, List.all_eq_true]
  constructor
  · intro h
    refine ⟨_, ?_, fun name hname => isIdentifier_iff.1 (h name hname), (intercalate_splitOnChar (by simp) path).symm⟩
    rw [Text.splitOnChar]
    simpa using pieces_ne_nil '.' path.toList
  · rintro ⟨names, hne, hnames, rfl⟩ name hname
    rw [splitOnChar_intercalate (by simp) hne fun name hname =>
      point_not_mem_of_declarable (hnames name hname)] at hname
    exact isIdentifier_iff.2 (hnames name hname)

theorem isEmpty_strip_iff {s : String} : (Text.strip s).isEmpty = false ↔ ∃ c ∈ s.toList, Text.isBlank c = false := by
  rw [Bool.eq_false_iff, ne_eq, String.isEmpty_iff, Text.strip, ← String.toList_inj, String.toList_ofList,
    String.toList_empty, trim_eq_nil_iff]
  simp

theorem badFile?_eq_none_iff_shape {fs : List String} : badFile? 0 fs = none ↔
    ∀ f ∈ fs, (∃ c ∈ f.toList, Text.isBlank c = false) ∧ ∃ front, f = front ++ ".py" := by
  rw [badFile?_eq_none_iff]
  simp only [isEmpty_strip_iff, endsWith_iff]

structure WellFormedRule (rule : TransformRule) : Prop where
  sourceType : Filled rule.sourceType
  targetField : Filled rule.targetField ∧ Declarable rule.targetField
  targetType : Filled rule.targetType
  capability : ∀ path, rule.capability = some path → Dotted path

theorem acceptedRule_iff {rule : TransformRule} : AcceptedRule rule ↔ WellFormedRule rule := by
  constructor
  · intro h
    exact ⟨h.sourceType, ⟨h.targetField.1, isIdentifier_iff.1 h.targetField.2⟩, h.targetType,
      fun path hpath => isModulePath_iff.1 (h.capability path hpath)⟩
  · intro h
    exact ⟨h.sourceType, ⟨h.targetField.1, isIdentifier_iff.2 h.targetField.2⟩, h.targetType,
      fun path hpath => isModulePath_iff.2 (h.capability path hpath)⟩

structure WellFormed (s : Settings) : Prop where
  inputFiles : s.inputFiles ≠ [] ∧
    ∀ f ∈ s.inputFiles, (∃ c ∈ f.toList, Text.isBlank c = false) ∧ ∃ front, f = front ++ ".py"
  variant : s.variant = .direct ∨ s.variant = .newtype
  inputSuffix : Declarable s.inputSuffix
  domainSuffix : Declarable s.domainSuffix
  outputSuffix : s.outputSuffix ≠ "" ∧ ∀ c ∈ s.outputSuffix.toList, c = '_' ∨ Text.isAlphanumeric c = true
  passwordField : Declarable s.passwordField
  passwordDomain : ∀ name, s.passwordDomain = some name → Declarable name
  lineLength : 40 < s.lineLength
  rules : ∀ rule ∈ s.rules, WellFormedRule rule

def settingKeys : List String :=
  ["input_files", "template_variant", "input_suffix", "domain_suffix", "output_suffix", "password_field_name",
    "password_domain_name", "source_module", "format_output", "line_length", "overwrite_unmarked", "transform_rules"]

/-- The entries under which settings are written down, one for each key. -/
def entriesOf (s : Settings) : List (Value × Value) :=
  [(.text "input_files", .list (s.inputFiles.map .text)), (.text "template_variant", .text s.variant.name),
    (.text "input_suffix", .text s.inputSuffix), (.text "domain_suffix", .text s.domainSuffix),
    (.text "output_suffix", .text s.outputSuffix), (.text "password_field_name", .text s.passwordField),
    (.text "password_domain_name", s.passwordDomain.elim .none .text),
    (.text "source_module", s.sourceModule.elim .none .text),
    (.text "format_output", .bool s.formatOutput), (.text "line_length", .int s.lineLength),
    (.text "overwrite_unmarked", .bool s.overwriteUnmarked),
    (.text "transform_rules", .list (s.rules.map fun rule => .dict (ruleEntries rule)))]

theorem stable_declarable : Stable name .text Declarable := stable_name.imp fun _ => isIdentifier_iff

theorem stable_alphanumeric :
    Stable suffix .text fun s => s ≠ "" ∧ ∀ c ∈ s.toList, c = '_' ∨ Text.isAlphanumeric c = true :=
  stable_suffix.imp fun _ => isSuffix_iff

theorem stable_sources : Stable files (fun fs => .list (fs.map .text)) fun fs =>
    fs ≠ [] ∧ ∀ f ∈ fs, (∃ c ∈ f.toList, Text.isBlank c = false) ∧ ∃ front, f = front ++ ".py" :=
  stable_files.imp fun _ => and_congr_right fun _ => badFile?_eq_none_iff_shape

theorem stable_rules : Stable (items ruleFrom) (fun rules => .list (rules.map fun rule => .dict (ruleEntries rule)))
    fun rules => ∀ rule ∈ rules, WellFormedRule rule :=
  (stable_ruleFrom.imp fun _ => acceptedRule_iff).items

theorem stable_passwordDomain :
    Stable (Settings.optional name) (fun name? => name?.elim .none .text) fun name? =>
      ∀ name, name? = some name → Declarable name :=
  stable_declarable.optional (by simp)

theorem stable_sourceModule :
    Stable (Settings.optional text) (fun name? => name?.elim .none .text) fun name? =>
      ∀ name, name? = some name → True :=
  stable_text.optional (by simp)

theorem wellFormed_of_readFrom {entries : List (Value × Value)} {s : Settings} (h : ReadFrom entries s) :
    WellFormed s where
  inputFiles := stable_sources.of_required h.inputFiles
  variant := by cases s.variant <;> simp
  inputSuffix := stable_declarable.of_given (isIdentifier_iff.1 (by decide)) h.inputSuffix
  domainSuffix := stable_declarable.of_given (isIdentifier_iff.1 (by decide)) h.domainSuffix
  outputSuffix := stable_alphanumeric.of_given (isSuffix_iff.1 (by decide)) h.outputSuffix
  passwordField := stable_declarable.of_given (isIdentifier_iff.1 (by decide)) h.passwordField
  passwordDomain := stable_passwordDomain.of_given (by simp) h.passwordDomain
  lineLength := stable_lineLengthOf.of_given (by decide) h.lineLength
  rules := stable_rules.of_given (by simp) h.rules

theorem readFrom_entriesOf {s : Settings} (h : WellFormed s) : ReadFrom (entriesOf s) s where
  inputFiles := stable_sources.required h.inputFiles rfl
  variant := stable_variantOf.given trivial rfl
  inputSuffix := stable_declarable.given h.inputSuffix rfl
  domainSuffix := stable_declarable.given h.domainSuffix rfl
  outputSuffix := stable_alphanumeric.given h.outputSuffix rfl
  passwordField := stable_declarable.given h.passwordField rfl
  passwordDomain := stable_passwordDomain.given h.passwordDomain rfl
  sourceModule := stable_sourceModule.given (by simp) rfl
  formatOutput := stable_flag.given trivial rfl
  lineLength := stable_lineLengthOf.given h.lineLength rfl
  overwriteUnmarked := stable_flag.given trivial rfl
  rules := stable_rules.given h.rules rfl

def isSetting : Value × Value → Bool
  | (.text key, _) => settingKeys.contains key
  | _ => false

theorem entry?_filter {key : String} (hkey : key ∈ settingKeys) (entries : List (Value × Value)) :
    entry? key (entries.filter isSetting) = entry? key entries := by
  fun_induction entry? key entries with
  | case1 => rfl
  | case2 v rest =>
      have hknown : isSetting (.text key, v) = true := by simpa [isSetting] using hkey
      simp [List.filter_cons_of_pos hknown, entry?]
  | case3 k v rest hne ih =>
      by_cases hknown : isSetting (.text k, v) = true
      · rw [List.filter_cons_of_pos hknown, entry?, if_neg hne, ih]
      · rw [List.filter_cons_of_neg hknown, ih]
  | case4 entry rest hother ih =>
      have hunknown : ¬isSetting entry = true := by
        obtain ⟨k, v⟩ := entry
        cases k with
        | text k => exact absurd rfl (hother k v)
        | _ => simp [isSetting]
      rw [List.filter_cons_of_neg hunknown, ih]

theorem fromEntries_filter (entries : List (Value × Value)) :
    fromEntries (entries.filter isSetting) = fromEntries entries := by
  have hentry : ∀ key ∈ settingKeys, entry? key (entries.filter isSetting) = entry? key entries :=
    fun key hkey => entry?_filter hkey entries
  simp only [settingKeys, List.forall_mem_cons] at hentry
  obtain ⟨h₁, h₂, h₃, h₄, h₅, h₆, h₇, h₈, h₉, h₁₀, h₁₁, h₁₂, -⟩ := hentry
  simp only [fromEntries, required, given, h₁, h₂, h₃, h₄, h₅, h₆, h₇, h₈, h₉, h₁₀, h₁₁, h₁₂]

/-- Accepted settings are well formed, and they are accepted again when they are written down. All well-formed ones are
accepted. Whether settings are accepted, and what is wrong with others, only depends on the entries under their keys. -/
theorem accepted_settings_stable (file : Option String) :
    (∀ v s, parse v file = .ok s → WellFormed s ∧ parse (.dict (entriesOf s)) file = .ok s) ∧
    (∀ s, WellFormed s → ∃ v, parse v file = .ok s) ∧
    ∀ entries others : List (Value × Value), entries.filter isSetting = others.filter isSetting →
      parse (.dict entries) file = parse (.dict others) file := by
  have hreads : ∀ s, WellFormed s → parse (.dict (entriesOf s)) file = .ok s := by
    intro s hs
    exact mapError_eq_ok_iff.2 (ofValue_eq_ok_iff.2 ⟨_, rfl, readFrom_entriesOf hs⟩)
  refine ⟨?_, fun s hs => ⟨_, hreads s hs⟩, ?_⟩
  · intro v s h
    obtain ⟨entries, hread⟩ := readFrom_of_parse h
    have hs := wellFormed_of_readFrom hread
    exact ⟨hs, hreads s hs⟩
  · intro entries others h
    rw [parse, parse, ofValue, ofValue, ← fromEntries_filter entries, h, fromEntries_filter others]

/-- Entries whose values are of other kinds than the settings they stand for. -/
def slugEntries : List (Value × Value) :=
  [(.text "input_files", .tuple [.text "a.py"]), (.text "line_length", .text " 0100 "),
    (.text "format_output", .text "Off"),
    (.text "transform_rules", .list
      [.dict [(.text "source_type_name", .text "f.Slug"), (.text "target_field_name", .text "slug"),
      (.text "target_field_type", .text "str"), (.text "required_capability", .text "lib.f")]])]

def slugSettings : Settings where
  inputFiles := ["a.py"]
  lineLength := 100
  formatOutput := false
  rules := [⟨"f.Slug", "slug", "str", some "lib.f"⟩]

theorem slugSettings_stable :
    parse (.dict slugEntries) = .ok slugSettings ∧ WellFormed slugSettings ∧
      parse (.dict (entriesOf slugSettings)) = .ok slugSettings ∧
        parse (.dict ((.int 7, .none) :: (.text "colour", .none) :: slugEntries)) = .ok slugSettings := by
  obtain ⟨haccepted, -, hadded⟩ := accepted_settings_stable none
  have hparse : parse (.dict slugEntries) = .ok slugSettings := rfl
  obtain ⟨hwell, hagain⟩ := haccepted _ slugSettings hparse
  exact ⟨hparse, hwell, hagain, (hadded _ slugEntries rfl).trans hparse⟩

end Vetted.Proofs.AcceptedSettings
