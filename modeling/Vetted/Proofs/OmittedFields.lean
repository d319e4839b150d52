import Vetted.Proofs.ConversionFailure

namespace Vetted.Proofs.OmittedFields

open Domain Generated Source Validation ConversionFailure ConversionMeaning GeneratedProgram Resolution Sequence

def HasRules (tag : Option String) : Prop := ∃ t, tag = some t ∧ Declaration.tokensOf t ≠ []

open scoped Classical in
/-- A field without its value, if no rule of its tag looks at it. -/
noncomputable def forget (f : Validation.Field) : Validation.Field :=
  if HasRules f.tag then f else { f with value := .none }

@[simp] theorem tag_forget (f : Validation.Field) : (forget f).tag = f.tag := by
  rw [forget]
  split <;> rfl

theorem rulesOf_of_not_hasRules {tag : Option String} (h : ¬HasRules tag) : rulesOf tag = .ok [] := by
  cases tag with
  | none => rfl
  | some t =>
      have htokens : Declaration.tokensOf t = [] := by
        by_contra hne
        exact h ⟨t, rfl, hne⟩
      rw [rulesOf, TagTokens.parse_eq, htokens]
      rfl

theorem checkField_forget {f : Validation.Field} {rules : List Rule} (h : rulesOf f.tag = .ok rules) :
    checkField (forget f, rules) = checkField (f, rules) := by
  by_cases hrules : HasRules f.tag
  · rw [forget, if_pos hrules]
  · rw [rulesOf_of_not_hasRules hrules] at h
    obtain rfl := Except.ok.inj h
    rfl

theorem mapM_withRules_forget (fields : List Validation.Field) :
    (fields.map forget).mapM withRules =
      (fields.mapM withRules).map (List.map fun ruled => (forget ruled.1, ruled.2)) := by
  induction fields with
  | nil => rfl
  | cons f rest ih =>
      rw [List.map_cons, List.mapM_cons, List.mapM_cons, ih, withRules, withRules, tag_forget]
      cases rulesOf f.tag with
      | error e => rfl
      | ok rules => cases rest.mapM withRules <;> rfl

theorem validate_forget (typeName : String) (fields : List Validation.Field) :
    validate typeName (fields.map forget) = validate typeName fields := by
  rw [validate, validate, mapM_withRules_forget]
  cases hruled : fields.mapM withRules with
  | error e => rfl
  | ok ruled =>
      have hrules : ∀ q ∈ ruled, rulesOf q.1.tag = .ok q.2 := by
        intro q hq
        obtain ⟨f, -, hf⟩ := exists_of_mem_ok hruled hq
        obtain ⟨rules, hrules, hpair⟩ := bind_eq_ok_iff.1 hf
        obtain rfl := pure_eq_ok_iff.1 hpair
        exact hrules
      have hchecks : (ruled.map fun q => (forget q.1, q.2)).mapM checkField = ruled.mapM checkField := by
        rw [List.mapM_map]
        exact mapM_congr fun q hq => checkField_forget (hrules q hq)
      refine congrArg (fun found => found.mapError Problem.fault >>= conclude typeName) hchecks

variable {d : Declaration.Record} {cls : InputClass} {c : Circumstances} {x y : List (String × Value)}

/-- The fields of an input that its conversion may read: those with a declaration that is kept, and those with rules. -/
def Read (d : Declaration.Record) (cls : InputClass) (name : String) : Prop :=
  (∃ f ∈ d.fields, f.name = name ∧ isOmitted f = false) ∨ ∃ tag, (name, tag) ∈ cls.fields ∧ HasRules tag

def AgreeOnRead (d : Declaration.Record) (cls : InputClass) (x y : List (String × Value)) : Prop :=
  ∀ name, Read d cls name → Conversion.valueOf x name = Conversion.valueOf y name

theorem heldFields_forget (h : AgreeOnRead d cls x y) :
    (Conversion.heldFields cls x).map forget = (Conversion.heldFields cls y).map forget := by
  simp only [Conversion.heldFields, List.map_map]
  refine List.map_congr_left fun ⟨name, tag⟩ hfield => ?_
  by_cases hrules : HasRules tag
  · simp only [Function.comp_apply, h name (.inr ⟨tag, hfield, hrules⟩)]
  · simp only [Function.comp_apply, forget, if_neg hrules]

theorem validated_congr (h : AgreeOnRead d cls x y) (inputType : String) :
    Conversion.validated inputType cls x = Conversion.validated inputType cls y := by
  rw [Conversion.validated, Conversion.validated, ← validate_forget cls.name (Conversion.heldFields cls x),
    heldFields_forget h, validate_forget]

theorem convertFields_congr (h : AgreeOnRead d cls x y) :
    Conversion.convertFields c x (resolve .standard {} d).fields =
      Conversion.convertFields c y (resolve .standard {} d).fields := by
  rw [convertFields_eq_mapM, convertFields_eq_mapM, fields_resolve, List.mapM_map, List.mapM_map]
  refine mapM_congr fun f hf => ?_
  obtain ⟨hmem, hkept⟩ : f ∈ d.fields ∧ isOmitted f = false := by simpa using hf
  have hvalue := h f.name (.inl ⟨f, hmem, rfl, hkept⟩)
  simp only [Function.comp_apply, Conversion.convertField, source_keptField, hvalue]

theorem convert_congr (h : AgreeOnRead d cls x y) :
    Conversion.convert c cls (resolve .standard {} d) x = Conversion.convert c cls (resolve .standard {} d) y := by
  rw [Conversion.convert, Conversion.convert, validated_congr h, convertFields_congr h]

/-- A generated function has one answer, a record or the error of a conversion, for any two inputs that agree on the
fields that are kept and on the fields with rules. So it tells nothing of a field that is omitted and not validated.
-/
theorem call_congr_of_agreeOnRead (exports : Exports) (body : List Stmt) (name file : String) (path : Option Path)
    (m : Declaration.Module) (variant : Variant) (code : String)
    (h : Generates exports body name file path m variant code) :
    ∃ p, program m (m.records.map (resolve .standard {})) variant = .ok p ∧ p.text m = code ∧
      ∀ d ∈ m.records, ∀ (cls : InputClass) (c : Circumstances) (x y : List (String × Value)), AgreeOnRead d cls x y →
        ∃ answer : Except ConversionFault (List (String × Value)), ∀ values ∈ [x, y],
          p.call exports c cls values (Naming.conversionName (d.name ++ "Validated")) =
            (answer.mapError .conversion).map fun out => (d.name ++ "Validated", out) := by
  obtain ⟨p, hp, htext⟩ := exists_program h.emitted
  refine ⟨p, hp, htext, fun d hd cls c x y hagree => ?_⟩
  refine ⟨Conversion.convert c cls (resolve .standard {} d) x, ?_⟩
  simp only [List.forall_mem_cons, List.not_mem_nil, false_implies, implies_true, and_true]
  exact ⟨h.call_eq hp hd c cls x, by rw [h.call_eq hp hd, convert_congr hagree]⟩

def renotedValues : List (String × Value) :=
  [("name", .text "Ann"), ("born", .text "2000-01-02"), ("password", .bytes [115, 51, 99, 114, 51, 116, 45, 49]),
    ("note", .int 7)]

theorem renotedValues_agree : AgreeOnRead accountRecord accountClass accountValues renotedValues := by
  rintro name (⟨f, hf, rfl, hkept⟩ | ⟨tag, hfield, t, rfl, -⟩)
  · simp only [accountRecord, List.mem_cons, List.not_mem_nil, or_false] at hf
    obtain rfl | rfl | rfl | rfl := hf
    · rfl
    · rfl
    · rfl
    · cases hkept
  · simp only [accountClass, List.mem_cons, Prod.mk.injEq, reduceCtorEq, and_false, Option.some.injEq,
      List.not_mem_nil, or_false, false_or] at hfield
    obtain ⟨rfl, -⟩ | ⟨rfl, -⟩ := hfield
    · rfl
    · rfl

theorem accountForms_call_congr :
    ∃ code, Generates (fun _ => []) accountForms "forms" "forms.py" none accountModule .direct code ∧
      AgreeOnRead accountRecord accountClass accountValues renotedValues ∧
        ∃ p, program accountModule [resolve .standard {} accountRecord] .direct = .ok p ∧
          p.call (fun _ => []) someday accountClass accountValues "to_account_input_validated" =
            p.call (fun _ => []) someday accountClass renotedValues "to_account_input_validated" := by
  obtain ⟨code, hcode⟩ := accountForms_generates
  obtain ⟨p, hp, -, hcalls⟩ := call_congr_of_agreeOnRead _ _ _ _ _ _ _ _ hcode
  obtain ⟨answer, hanswer⟩ := hcalls accountRecord (by simp [accountModule]) accountClass someday accountValues
    renotedValues renotedValues_agree
  have hname : Naming.conversionName (accountRecord.name ++ "Validated") = "to_account_input_validated" := by
    decide
  rw [hname] at hanswer
  exact ⟨code, hcode, renotedValues_agree, p, hp,
    (hanswer accountValues (by simp)).trans (hanswer renotedValues (by simp)).symm⟩

end Vetted.Proofs.OmittedFields
