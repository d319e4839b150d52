import Vetted.Proofs.ConversionFailure

namespace Vetted.Proofs.FailedFields

open Domain Generated Source ConversionFailure ConversionMeaning ConverterFaults GeneratedProgram Resolution Sequence
open ValidationOutcome

variable {c : Circumstances} {values : List (String × Value)} {d : Declaration.Record} {cls : InputClass}

def Rejected (cls : InputClass) (values : List (String × Value)) (field : String) : Prop :=
  ∃ g ∈ Conversion.heldFields cls values, g.name = field ∧ Fails g

def Refused (c : Circumstances) (values : List (String × Value)) (d : Declaration.Record) (field : String) : Prop :=
  ∃ f ∈ d.fields, isOmitted f = false ∧ f.name = field ∧ ∃ k raw message, neededConverter f = some k ∧
    (field, raw) ∈ values ∧ k.run c raw = .error (.unusable message)

theorem field_of_violates {g : Validation.Field} {violation : Violation} (h : Violates g violation) :
    violation.field = g.name := by
  obtain ⟨rules, r, -, -, hfinds⟩ := h
  cases hfinds <;> rfl

theorem fields_of_violates {fields : List Validation.Field} {violations : List Violation}
    (h : List.Forall₂ Violates fields violations) :
    violations.map Violation.field = fields.map Validation.Field.name := by
  induction h with
  | nil => rfl
  | cons hfirst hrest ih => rw [List.map_cons, List.map_cons, field_of_violates hfirst, ih]

theorem mem_failing_names {field : String} :
    field ∈ (failing (Conversion.heldFields cls values)).map Validation.Field.name ↔ Rejected cls values field := by
  simp only [List.mem_map, mem_failing, Rejected]
  grind

theorem refused_of_firstFault {f : Declaration.Field} {k : Converter} {raw : Value} {message : String}
    (h : FirstFault c values d f k raw (.unusable message)) : Refused c values d f.name :=
  ⟨f, h.mem.1, h.mem.2, rfl, k, raw, message, h.needed, h.held, h.fails⟩

inductive Names (c : Circumstances) (values : List (String × Value)) (d : Declaration.Record) (cls : InputClass) :
    List String → Prop
  | rejected {field : String} : Rejected cls values field →
      Names c values d cls ((failing (Conversion.heldFields cls values)).map Validation.Field.name)
  | refused {f : Declaration.Field} {k : Converter} {raw : Value} {message : String} :
      (∀ field, ¬Rejected cls values field) → FirstFault c values d f k raw (.unusable message) →
        Names c values d cls [f.name]

theorem convert_failed (hkeys : (values.map Prod.fst).Nodup) (hheld : ∀ f ∈ d.fields, ∃ raw, (f.name, raw) ∈ values)
    (hrecord : cls.isRecord = true) {inputType : String} {cause : Invalid}
    (h : Conversion.convert c cls (resolve .standard {} d) values = .error (.failed inputType cause)) :
    inputType = d.name ∧ Names c values d cls cause.fields := by
  obtain hinvalid | ⟨hok, f, k, raw, e, hfirst, hfault⟩ := (convert_eq_error_iff hkeys hheld).1 h
  · obtain ⟨fault, hrule, -⟩ | ⟨fault, huntold, -⟩ | ⟨found, hfound, -, ⟨g, hg, hfails⟩, hviolates⟩ :=
      validated_eq_error hrecord hinvalid
    · cases hrule
    · cases huntold
    · cases hfound
      refine ⟨rfl, ?_⟩
      rw [Invalid.fields, fields_of_violates hviolates]
      exact .rejected ⟨g, hg, rfl, hfails⟩
  · cases e with
    | unusable message =>
        cases hfault
        refine ⟨rfl, .refused (fun field hrejected => ?_) hfirst⟩
        obtain ⟨g, hg, -, hfails⟩ := hrejected
        have houtcome := outcome_validate cls.name (Conversion.heldFields cls values)
        rw [(validated_eq_ok_iff.1 hok).2] at houtcome
        cases houtcome with
        | passed _ _ hpass => exact hpass g hg hfails
    | tooLong | password => cases hfault

theorem names_all_iff {names : List String} (h : Names c values d cls names) :
    (∀ field, field ∈ names ↔ Rejected cls values field ∨ Refused c values d field) ↔
      ((∃ field, Rejected cls values field) → ∀ field, Refused c values d field → Rejected cls values field) ∧
        ((∀ field, ¬Rejected cls values field) →
          ∀ field other, Refused c values d field → Refused c values d other → field = other) := by
  cases h with
  | @rejected first hfirst =>
      simp only [mem_failing_names]
      constructor
      · intro hall
        exact ⟨fun _ field hrefused => (hall field).2 (.inr hrefused), fun hnone => absurd hfirst (hnone first)⟩
      · rintro ⟨hhidden, -⟩ field
        exact ⟨.inl, Or.rec id (hhidden ⟨first, hfirst⟩ field)⟩
  | @refused f k raw message hnone hfirst =>
      simp only [List.mem_singleton, hnone, false_or]
      constructor
      · intro hall
        refine ⟨fun ⟨field, hfield⟩ => hfield.elim, fun _ field other hfield hother => ?_⟩
        rw [(hall field).2 hfield, (hall other).2 hother]
      · rintro ⟨-, honly⟩ field
        constructor
        · rintro rfl
          exact refused_of_firstFault hfirst
        · intro hfield
          exact honly (fun _ h => h) field f.name hfield (refused_of_firstFault hfirst)

theorem convert_of_call {inputType : String} {cause : Invalid}
    {wrap : List (String × Value) → String × List (String × Value)}
    {answer : Except ConversionFault (List (String × Value))}
    (h : (answer.mapError CallFault.conversion).map wrap = .error (.conversion (.failed inputType cause))) :
    answer = .error (.failed inputType cause) := by
  cases answer with
  | ok out => cases h
  | error x =>
      cases h
      rfl

/-- A generated function that fails over its input names the fields that validation rejects or else the first one that
is refused. These are all the fields that fail on their own exactly if every refused field is rejected too, where any
is rejected, and no two are refused, where none is. -/
theorem failed_call_names_all_iff (exports : Exports) (body : List Stmt) (name file : String) (path : Option Path)
    (m : Declaration.Module) (variant : Variant) (code : String)
    (h : Generates exports body name file path m variant code) :
    ∃ p, program m (m.records.map (resolve .standard {})) variant = .ok p ∧ p.text m = code ∧
      ∀ w, ∀ d ∈ m.records, ∀ cls ∈ InputClass.ofStatements w body, cls.name = d.name →
        InputClasses.Covers d cls → cls.isRecord = true →
        ∀ (c : Circumstances) (values : List (String × Value)), values.map Prod.fst = cls.fields.map Prod.fst →
          ∀ inputType cause, p.call exports c cls values (Naming.conversionName (d.name ++ "Validated")) =
              .error (.conversion (.failed inputType cause)) →
            inputType = d.name ∧ Names c values d cls cause.fields ∧
              ((∀ field, field ∈ cause.fields ↔ Rejected cls values field ∨ Refused c values d field) ↔
                ((∃ field, Rejected cls values field) → ∀ field, Refused c values d field → Rejected cls values field) ∧
                  ((∀ field, ¬Rejected cls values field) →
                    ∀ field other, Refused c values d field → Refused c values d other → field = other)) := by
  obtain ⟨p, hp, htext⟩ := exists_program h.emitted
  refine ⟨p, hp, htext, ?_⟩
  intro w d hd cls hcls hname hcovers hrecord c values hvalues inputType cause hcall
  obtain ⟨hkeys, hheld⟩ := held_of_mem hcls hcovers hvalues
  rw [h.call_eq hp hd] at hcall
  obtain ⟨htype, hnames⟩ := convert_failed hkeys hheld hrecord (convert_of_call hcall)
  exact ⟨htype, hnames, names_all_iff hnames⟩

def brokenValues : List (String × Value) :=
  [("name", .text ""), ("born", .text "2000-01-02"), ("password", .bytes [255]), ("note", .text "new")]

theorem refused_brokenValues {field : String} (h : Refused someday brokenValues accountRecord field) :
    field = "password" := by
  obtain ⟨f, hf, -, rfl, k, raw, message, hk, hraw, hrun⟩ := h
  simp only [accountRecord, List.mem_cons, List.not_mem_nil, or_false] at hf
  obtain rfl | rfl | rfl | rfl := hf
  · cases hk
  · obtain rfl := Option.some.inj hk
    obtain rfl : raw = .text "2000-01-02" := by simpa [brokenValues] using hraw
    cases hrun
  · rfl
  · cases hk

theorem accountForms_failed_call_names_all :
    ∃ code, Generates (fun _ => []) accountForms "forms" "forms.py" none accountModule .direct code ∧
      accountClass ∈ InputClass.ofStatements {} accountForms ∧
        ∃ p cause, program accountModule [resolve .standard {} accountRecord] .direct = .ok p ∧
          p.call (fun _ => []) someday accountClass brokenValues "to_account_input_validated" =
              .error (.conversion (.failed "AccountInput" cause)) ∧
            cause.fields = ["name", "password"] ∧
              ∀ field, field ∈ cause.fields ↔
                Rejected accountClass brokenValues field ∨ Refused someday brokenValues accountRecord field := by
  obtain ⟨code, hcode⟩ := accountForms_generates
  obtain ⟨p, hp, -, hcalls⟩ := failed_call_names_all_iff _ _ _ _ _ _ _ _ hcode
  have hmember : accountRecord ∈ accountModule.records := by simp [accountModule]
  have hname : Naming.conversionName (accountRecord.name ++ "Validated") = "to_account_input_validated" := by
    decide
  obtain ⟨cause, hfails, hfields⟩ :
    ∃ cause, Conversion.convert someday accountClass (resolve .standard {} accountRecord)
      brokenValues = .error (.failed "AccountInput" cause) ∧ cause.fields = ["name", "password"] := ⟨_, rfl, rfl⟩
  have hcall := hcode.call_eq hp hmember someday accountClass brokenValues
  rw [hfails] at hcall
  obtain ⟨-, hnames, hall⟩ := hcalls
    {} accountRecord hmember accountClass accountClass_mem rfl accountRecord_covered rfl
    someday brokenValues rfl _ _ hcall
  rw [hname] at hcall
  refine ⟨code, hcode, accountClass_mem, p, cause, hp, hcall, hfields, hall.2 ?_⟩
  have hrejected : ∀ field ∈ ["name", "password"], Rejected accountClass brokenValues field := by
    rw [← hfields]
    generalize cause.fields = names at hnames hfields
    cases hnames with
    | rejected => exact fun field hfield => mem_failing_names.1 hfield
    | refused => simp at hfields
  refine ⟨fun _ field hrefused => ?_, fun hnone => absurd (hrejected "name" (by simp)) (hnone "name")⟩
  rw [refused_brokenValues hrefused]
  exact hrejected "password" (by simp)

def blankValues : List (String × Value) :=
  [("name", .text ""), ("born", .text "soon"), ("secret", .text "hunter22")]

/-- A field that is rejected may hide one that is refused. -/
theorem failed_call_may_hide_fields :
    ¬∀ (exports : Exports) (body : List Stmt) (name file : String) (path : Option Path) (m : Declaration.Module)
      (variant : Variant) (code : String) (p : Program), Generates exports body name file path m variant code →
        program m (m.records.map (resolve .standard {})) variant = .ok p →
          ∀ w, ∀ d ∈ m.records, ∀ cls ∈ InputClass.ofStatements w body, cls.name = d.name →
            InputClasses.Covers d cls → cls.isRecord = true →
            ∀ (c : Circumstances) (values : List (String × Value)), values.map Prod.fst = cls.fields.map Prod.fst →
              ∀ inputType cause, p.call exports c cls values (Naming.conversionName (d.name ++ "Validated")) =
                  .error (.conversion (.failed inputType cause)) →
                ∀ field, field ∈ cause.fields ↔ Rejected cls values field ∨ Refused c values d field := by
  intro hall
  obtain ⟨code, hcode⟩ := memberForms_generates
  obtain ⟨p, hp, -⟩ := exists_program hcode.emitted
  have hmember : memberRecord ∈ memberModule.records := by simp [memberModule]
  obtain ⟨cause, hfails, hfields⟩ : ∃ cause, Conversion.convert someday memberClass (resolve .standard {} memberRecord)
      blankValues = .error (.failed "MemberInput" cause) ∧ cause.fields = ["name"] := ⟨_, rfl, rfl⟩
  have hcall := hcode.call_eq hp hmember someday memberClass blankValues
  rw [hfails] at hcall
  have hnamed := hall _ _ _ _ _ _ _ _ p hcode hp {} memberRecord hmember memberClass memberClass_mem rfl
    memberRecord_covered rfl someday blankValues rfl _ _ hcall "born"
  have hrefused : Refused someday blankValues memberRecord "born" :=
    ⟨{ name := "born", typeName := "fieldtypes.DateOfBirthString", line := some 9 }, by simp [memberRecord], rfl, rfl,
      .dateOfBirth, .text "soon", _, rfl, by simp [blankValues], rfl⟩
  have hmem := hnamed.2 (.inr hrefused)
  rw [hfields] at hmem
  exact absurd hmem (by decide)

end Vetted.Proofs.FailedFields
