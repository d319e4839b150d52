import Vetted.Proofs.ConverterFaults
import Vetted.Proofs.ValidationOutcome
import Vetted.Proofs.Variants

namespace Vetted.Proofs.ConversionFailure

open Domain Generated Source ConversionMeaning ConverterFaults GeneratedNames GeneratedProgram InputClasses Resolution
open Sequence ValidationOutcome Variants

/-- A module is generated from a source, and the names in it stand for what the generated code takes them for. -/
structure Generates (exports : Exports) (body : List Stmt) (name file : String) (path : Option Path)
    (m : Declaration.Module) (variant : Variant) (code : String) : Prop where
  declared : Declaration.moduleOf body name file path "Input" = .ok m
  plainName : ' ' ∉ name.toList
  plainClasses : ∀ d ∈ m.records, ' ' ∉ d.name.toList ∧ ',' ∉ d.name.toList
  functions : (m.records.map fun d => Naming.conversionName (d.name ++ "Validated")).Nodup
  imports : ∀ n ∈ usedNames (m.records.map (resolve .standard {})), ∀ line ∈ m.imports, ∀ o,
    originAfter exports [line] n = some o → o = meantBy n
  emitted : emitModule m (m.records.map (resolve .standard {})) variant = .ok code

section Source

variable {exports : Exports} {body : List Stmt} {name file : String} {path : Option Path} {m : Declaration.Module}
  {variant : Variant} {code : String} {p : Program}

theorem Generates.records (h : Generates exports body name file path m variant code) :
    m.name = name ∧ Declaration.recordsOf "Input" body = .ok m.records := by
  obtain ⟨records, hrecords, hm⟩ := bind_eq_ok_iff.1 h.declared
  rw [mapError_eq_ok_iff] at hrecords
  obtain rfl := pure_eq_ok_iff.1 hm
  exact ⟨rfl, hrecords⟩

theorem Generates.reliable (h : Generates exports body name file path m variant code)
    (hp : program m (m.records.map (resolve .standard {})) .direct = .ok p) :
    Reliable exports p (m.records.map (resolve .standard {})) := by
  obtain ⟨hname, hrecords⟩ := h.records
  refine reliable_of_imports hp (hname ▸ h.plainName) (collect_eq_ok hrecords).2.1 ?_ h.functions h.imports
  intro d hd
  exact isWord_of_endsWith (endsWith_of_mem hrecords hd) (h.plainClasses d hd).1 (h.plainClasses d hd).2

theorem Generates.call_eq (h : Generates exports body name file path m variant code)
    (hp : program m (m.records.map (resolve .standard {})) variant = .ok p) {d : Declaration.Record}
    (hd : d ∈ m.records)
    (c : Circumstances) (cls : InputClass) (values : List (String × Value)) :
    p.call exports c cls values (Naming.conversionName (d.name ++ "Validated")) =
      ((Conversion.convert c cls (resolve .standard {} d) values).mapError .conversion).map
        fun out => (d.name ++ "Validated", out) := by
  cases variant with
  | direct => exact call_eq_convert hp (h.reliable hp) hd cls
  | newtype =>
      obtain ⟨direct, hdirect⟩ := emitModule_direct h.emitted
      obtain ⟨q, hq, -⟩ := emitModule_eq_ok hdirect
      rw [call_eq_resolve exports hq hp standard_plain]
      exact call_eq_convert hq (h.reliable hq) hd cls

theorem held_of_mem {w : InputClass.World} {d : Declaration.Record} {cls : InputClass}
    (hcls : cls ∈ InputClass.ofStatements w body) (hcovers : Covers d cls) {values : List (String × Value)}
    (hvalues : values.map Prod.fst = cls.fields.map Prod.fst) :
    (values.map Prod.fst).Nodup ∧ ∀ f ∈ d.fields, ∃ raw, (f.name, raw) ∈ values := by
  have hkeys := nodup_fields hcls
  rw [Covers] at hcovers
  rw [← hvalues] at hkeys hcovers
  refine ⟨hkeys, fun f hf => ?_⟩
  obtain ⟨⟨n, raw⟩, hmem, rfl⟩ := List.mem_map.1 (hcovers f hf)
  exact ⟨raw, hmem⟩

end Source

section Conversion

variable {c : Circumstances} {values : List (String × Value)} {d : Declaration.Record} {cls : InputClass}

def Converts (c : Circumstances) (values : List (String × Value)) (f : Declaration.Field) : Prop :=
  ∀ k, neededConverter f = some k → ∀ raw, (f.name, raw) ∈ values → ∃ v, k.run c raw = .ok v

/-- The first of the fields that are kept whose value does not get through its converter. -/
structure FirstFault (c : Circumstances) (values : List (String × Value)) (d : Declaration.Record)
    (f : Declaration.Field) (k : Converter) (raw : Value) (e : ConverterFault) : Prop where
  first : ∃ before after, (d.fields.filter fun f => !isOmitted f) = before ++ f :: after ∧
    ∀ g ∈ before, Converts c values g
  needed : neededConverter f = some k
  held : (f.name, raw) ∈ values
  fails : k.run c raw = .error e

def faultOf (k : Converter) (field : String) (raw : Value) : ConverterFault → FieldFault
  | .unusable message => .invalid ⟨k.typeName, [⟨field, "transform", message, raw⟩]⟩
  | .tooLong => .tooLong
  | .password f => .password f

theorem transformField_eq (k : Converter) (field : String) (raw : Value) :
    transformField k.typeName field (k.run c) raw = (k.run c raw).mapError (faultOf k field raw) := by
  rw [transformField]
  cases k.run c raw with
  | ok v => rfl
  | error e => cases e <;> rfl

theorem convertField_eq (hkeys : (values.map Prod.fst).Nodup) {f : Declaration.Field} {raw : Value}
    (hraw : (f.name, raw) ∈ values) :
    Conversion.convertField c values (keptField .standard {} f) =
      match neededConverter f with
      | some k => (k.run c raw).mapError (faultOf k f.name raw)
      | none => .ok raw := by
  rw [Conversion.convertField, converterOf?_keptField, source_keptField, valueOf_eq hkeys hraw]
  cases neededConverter f with
  | some k => exact transformField_eq k f.name raw
  | none => rfl

theorem converts_iff (hkeys : (values.map Prod.fst).Nodup) {f : Declaration.Field} {raw : Value}
    (hraw : (f.name, raw) ∈ values) :
    (∃ v, Conversion.convertField c values (keptField .standard {} f) = .ok v) ↔ Converts c values f := by
  rw [convertField_eq hkeys hraw]
  constructor
  · rintro ⟨v, hv⟩ k hk other hother
    rw [hk] at hv
    rw [value_unique hkeys hraw hother]
    exact ⟨v, mapError_eq_ok_iff.1 hv⟩
  · intro h
    cases hk : neededConverter f with
    | some k =>
        obtain ⟨v, hv⟩ := h k hk raw hraw
        exact ⟨v, mapError_eq_ok_iff.2 hv⟩
    | none => exact ⟨raw, rfl⟩

theorem convertFields_eq_mapM (fields : List Domain.Field) :
    Conversion.convertFields c values fields =
      fields.mapM fun f => do return (f.name, ← Conversion.convertField c values f) := by
  induction fields with
  | nil => rfl
  | cons f rest ih =>
      rw [Conversion.convertFields, List.mapM_cons, ih]
      cases Conversion.convertField c values f <;> rfl

theorem named_eq_error_iff {n : String} {v : Except FieldFault Value} {x : FieldFault} :
    (do return (n, ← v) : Except FieldFault (String × Value)) = .error x ↔ v = .error x := by
  cases v <;> simp [bind, Except.bind, pure, Except.pure]

theorem exists_named_eq_ok_iff {n : String} {v : Except FieldFault Value} :
    (∃ entry, (do return (n, ← v) : Except FieldFault (String × Value)) = .ok entry) ↔ ∃ out, v = .ok out := by
  cases v <;> simp [bind, Except.bind, pure, Except.pure]

theorem mem_of_kept {before after : List Declaration.Field} {f : Declaration.Field}
    (hkept : (d.fields.filter fun f => !isOmitted f) = before ++ f :: after) :
    (∀ g ∈ before, g ∈ d.fields) ∧ f ∈ d.fields ∧ isOmitted f = false := by
  have hall : ∀ g ∈ before ++ f :: after, g ∈ d.fields ∧ isOmitted g = false := by
    intro g hg
    rw [← hkept] at hg
    simpa using hg
  exact ⟨fun g hg => (hall g (List.mem_append_left _ hg)).1, hall f (by simp)⟩

theorem convertFields_eq_error_iff (hkeys : (values.map Prod.fst).Nodup)
    (hheld : ∀ f ∈ d.fields, ∃ raw, (f.name, raw) ∈ values) {x : FieldFault} :
    Conversion.convertFields c values (resolve .standard {} d).fields = .error x ↔
      ∃ f k raw e, FirstFault c values d f k raw e ∧ x = faultOf k f.name raw e := by
  rw [convertFields_eq_mapM, fields_resolve, List.mapM_map, mapM_eq_error_iff]
  simp only [Function.comp_apply, named_eq_error_iff, exists_named_eq_ok_iff]
  constructor
  · rintro ⟨before, f, after, hfields, hbefore, hx⟩
    obtain ⟨hmem, hf, -⟩ := mem_of_kept hfields
    obtain ⟨raw, hraw⟩ := hheld f hf
    rw [convertField_eq hkeys hraw] at hx
    cases hk : neededConverter f with
    | none =>
        rw [hk] at hx
        cases hx
    | some k =>
        rw [hk] at hx
        obtain ⟨e, he, rfl⟩ := mapError_eq_error_iff.1 hx
        refine ⟨f, k, raw, e, ⟨⟨before, after, hfields, fun g hg => ?_⟩, hk, hraw, he⟩, rfl⟩
        obtain ⟨other, hother⟩ := hheld g (hmem g hg)
        exact (converts_iff hkeys hother).1 (hbefore g hg)
  · rintro ⟨f, k, raw, e, ⟨⟨before, after, hfields, hbefore⟩, hk, hraw, he⟩, rfl⟩
    refine ⟨before, f, after, hfields, fun g hg => ?_, ?_⟩
    · obtain ⟨other, hother⟩ := hheld g ((mem_of_kept hfields).1 g hg)
      exact (converts_iff hkeys hother).2 (hbefore g hg)
    · rw [convertField_eq hkeys hraw, hk]
      exact mapError_eq_error_iff.2 ⟨e, he, rfl⟩

theorem FirstFault.mem {f : Declaration.Field} {k : Converter} {raw : Value} {e : ConverterFault}
    (h : FirstFault c values d f k raw e) : f ∈ d.fields ∧ isOmitted f = false := by
  obtain ⟨before, after, hfields, -⟩ := h.first
  exact (mem_of_kept hfields).2

theorem convert_eq_error_iff (hkeys : (values.map Prod.fst).Nodup)
    (hheld : ∀ f ∈ d.fields, ∃ raw, (f.name, raw) ∈ values) {x : ConversionFault} :
    Conversion.convert c cls (resolve .standard {} d) values = .error x ↔
      Conversion.validated d.name cls values = .error x ∨
        Conversion.validated d.name cls values = .ok () ∧
          ∃ f k raw e, FirstFault c values d f k raw e ∧ x = (faultOf k f.name raw e).conversion d.name := by
  rw [Conversion.convert, bind_eq_error_iff]
  refine or_congr Iff.rfl ?_
  simp only [mapError_eq_error_iff, convertFields_eq_error_iff hkeys hheld]
  constructor
  · rintro ⟨⟨⟩, hvalid, -, ⟨f, k, raw, e, hfirst, rfl⟩, rfl⟩
    exact ⟨hvalid, f, k, raw, e, hfirst, rfl⟩
  · rintro ⟨hvalid, f, k, raw, e, hfirst, rfl⟩
    exact ⟨(), hvalid, _, ⟨f, k, raw, e, hfirst, rfl⟩, rfl⟩

theorem validated_eq_error (hrecord : cls.isRecord = true) {x : ConversionFault}
    (h : Conversion.validated d.name cls values = .error x) :
    (∃ fault, x = .rule fault ∧ ∃ g ∈ Conversion.heldFields cls values, HasUnknown g ∨ Faults g fault) ∨
      (∃ fault, x = .unencodable fault ∧ Untold (Conversion.heldFields cls values)) ∨
        ∃ cause, x = .failed d.name cause ∧ ¬Untold (Conversion.heldFields cls values) ∧
          (∃ g ∈ Conversion.heldFields cls values, Fails g) ∧
            List.Forall₂ Violates (failing (Conversion.heldFields cls values)) cause.violations := by
  rw [Conversion.validated, if_pos hrecord] at h
  obtain ⟨problem, hproblem, rfl⟩ := mapError_eq_error_iff.1 h
  have hiff := validate_unencodable_iff cls.name (Conversion.heldFields cls values)
  have houtcome := outcome_validate cls.name (Conversion.heldFields cls values)
  rw [hproblem] at houtcome hiff
  cases houtcome with
  | @unknown before after g tag token earlier later hfields hbefore htag htokens hearlier hunknown =>
      refine .inl ⟨_, rfl, g, by simp [hfields], .inl ⟨tag, htag, token, by simp [htokens], hunknown⟩⟩
  | @fault before after g fault hknown hfields hbefore hfault =>
      exact .inl ⟨_, rfl, g, by simp [hfields], .inr hfault⟩
  | unencodable => exact .inr (.inl ⟨_, rfl, hiff.1 ⟨_, rfl⟩⟩)
  | invalid hknown hsound hfails hviolates htold =>
      exact .inr (.inr ⟨_, rfl, by simpa using hiff, hfails, hviolates⟩)

end Conversion

/-- The answers that callers are told of: a record, a failed conversion, or a rule that is undefined or cannot be
applied to a value. -/
inductive Reported (d : Declaration.Record) (cls : InputClass) (values : List (String × Value)) :
    Except CallFault (String × List (String × Value)) → Prop
  | record {out : String × List (String × Value)} : Reported d cls values (.ok out)
  | failed {cause : Invalid} : Reported d cls values (.error (.conversion (.failed d.name cause)))
  | rule {fault : RuleFault} {g : Validation.Field} : g ∈ Conversion.heldFields cls values →
      HasUnknown g ∨ Faults g fault → Reported d cls values (.error (.conversion (.rule fault)))

theorem reported_convert_iff {c : Circumstances} {values : List (String × Value)} {d : Declaration.Record}
    {cls : InputClass} (hkeys : (values.map Prod.fst).Nodup) (hheld : ∀ f ∈ d.fields, ∃ raw, (f.name, raw) ∈ values)
    (hrecord : cls.isRecord = true) :
    Reported d cls values (((Conversion.convert c cls (resolve .standard {} d) values).mapError .conversion).map
        fun out => (d.name ++ "Validated", out)) ↔
      ¬Untold (Conversion.heldFields cls values) ∧
        (Validation.validate cls.name (Conversion.heldFields cls values) = .ok () →
          ∀ f k raw e, FirstFault c values d f k raw e → ¬Escapes k raw e) := by
  have hvalid : Validation.validate cls.name (Conversion.heldFields cls values) = .ok () ↔
      Conversion.validated d.name cls values = .ok () := by
    rw [validated_eq_ok_iff, and_iff_right hrecord]
  have htold : Validation.validate cls.name (Conversion.heldFields cls values) = .ok () →
      ¬Untold (Conversion.heldFields cls values) := by
    intro hok huntold
    obtain ⟨fault, hfault⟩ := (validate_unencodable_iff cls.name _).2 huntold
    rw [hok] at hfault
    cases hfault
  rw [hvalid] at htold ⊢
  cases hconvert : Conversion.convert c cls (resolve .standard {} d) values with
  | ok out =>
      have hok : Conversion.validated d.name cls values = .ok () :=
        validated_eq_ok_iff.2 ((convert_resolve_eq_ok_iff hkeys hheld).1 hconvert).1
      refine iff_of_true .record ⟨htold hok, fun hok f k raw e hfirst _ => ?_⟩
      have herror := (convert_eq_error_iff hkeys hheld).2 (.inr ⟨hok, f, k, raw, e, hfirst, rfl⟩)
      rw [hconvert] at herror
      cases herror
  | error x =>
      change Reported d cls values (.error (.conversion x)) ↔ _
      obtain hinvalid | ⟨hok, f, k, raw, e, hfirst, rfl⟩ := (convert_eq_error_iff hkeys hheld).1 hconvert
      · have hnever : Conversion.validated d.name cls values ≠ .ok () := by
          rw [hinvalid]
          simp
        obtain ⟨fault, rfl, g, hg, hrule⟩ | ⟨fault, rfl, huntold⟩ | ⟨cause, rfl, htold, -⟩ :=
          validated_eq_error hrecord hinvalid
        · have htold : ¬Untold (Conversion.heldFields cls values) := fun huntold =>
            hrule.elim (huntold.known g hg) (huntold.sound g hg fault)
          exact iff_of_true (.rule hg hrule) ⟨htold, fun hok => absurd hok hnever⟩
        · exact iff_of_false (by rintro ⟨⟩) fun h => h.1 huntold
        · exact iff_of_true .failed ⟨htold, fun hok => absurd hok hnever⟩
      · cases e with
        | unusable message =>
            -- The first fault is the only one that a conversion can end with.
            refine iff_of_true .failed ⟨htold hok, fun _ f' k' raw' e' hfirst' hescapes => ?_⟩
            have herror := (convert_eq_error_iff hkeys hheld).2 (.inr ⟨hok, f', k', raw', e', hfirst', rfl⟩)
            rw [hconvert] at herror
            cases hescapes <;> cases herror
        | tooLong | password =>
            refine iff_of_false (by rintro ⟨⟩) fun h => ?_
            exact h.2 hok f k raw _ hfirst ((run_escapes_iff (by simp)).1 hfirst.fails)

/-- Converters report what they cannot take unless it escapes them. A generated function gives a record or reports why
not, unless a field breaks a rule whose token cannot be encoded, or the input passes validation and the value of the
first field that does not get through its converter escapes it. -/
theorem call_reported_iff (exports : Exports) (body : List Stmt) (name file : String) (path : Option Path)
    (m : Declaration.Module) (variant : Variant) (code : String)
    (h : Generates exports body name file path m variant code) :
    (∀ (c : Circumstances) (k : Converter) (v : Value),
      ((∃ out, k.run c v = .ok out) ∨ ∃ message, k.run c v = .error (.unusable message)) ↔ ∀ e, ¬Escapes k v e) ∧
    ∃ p, program m (m.records.map (resolve .standard {})) variant = .ok p ∧ p.text m = code ∧
      ∀ w, ∀ d ∈ m.records, ∀ cls ∈ InputClass.ofStatements w body, cls.name = d.name → Covers d cls →
        cls.isRecord = true →
        ∀ (c : Circumstances) (values : List (String × Value)), values.map Prod.fst = cls.fields.map Prod.fst →
          (Reported d cls values (p.call exports c cls values (Naming.conversionName (d.name ++ "Validated"))) ↔
            ¬Untold (Conversion.heldFields cls values) ∧
              (Validation.validate cls.name (Conversion.heldFields cls values) = .ok () →
                ∀ f k raw e, FirstFault c values d f k raw e → ¬Escapes k raw e)) := by
  obtain ⟨p, hp, htext⟩ := exists_program h.emitted
  refine ⟨run_reports_iff, p, hp, htext, ?_⟩
  intro w d hd cls hcls hname hcovers hrecord c values hvalues
  obtain ⟨hkeys, hheld⟩ := held_of_mem hcls hcovers hvalues
  rw [h.call_eq hp hd, reported_convert_iff hkeys hheld hrecord]

theorem imports_of_decided {exports : Exports} {m : Declaration.Module}
    (h : ∀ n ∈ usedNames (m.records.map (resolve .standard {})), ∀ line ∈ m.imports,
      originAfter exports [line] n = none ∨ originAfter exports [line] n = some (meantBy n)) :
    ∀ n ∈ usedNames (m.records.map (resolve .standard {})), ∀ line ∈ m.imports, ∀ o,
      originAfter exports [line] n = some o → o = meantBy n := by
  intro n hn line hline o ho
  obtain hnone | hsome := h n hn line hline
  · rw [hnone] at ho
    cases ho
  · rw [hsome] at ho
    exact (Option.some.inj ho).symm

theorem accountForms_generates :
    ∃ code, Generates (fun _ => []) accountForms "forms" "forms.py" none accountModule .direct code :=
  ⟨_, rfl, by decide, by decide, by decide, imports_of_decided (by decide), rfl⟩

theorem accountClass_mem : accountClass ∈ InputClass.ofStatements {} accountForms := by
  have hclasses : InputClass.ofStatements {} accountForms = [accountClass] := rfl
  simp [hclasses]

theorem accountRecord_covered : Covers accountRecord accountClass := by
  unfold Covers
  decide

/-- An input that passes validation, with a date that is none. -/
def undatedValues : List (String × Value) :=
  [("name", .text "Ann"), ("born", .text "soon"), ("password", .bytes [115, 51, 99, 114, 51, 116, 45, 49]),
    ("note", .text "new")]

theorem undatedValues_reported {f : Declaration.Field} (hf : f ∈ accountRecord.fields) {k : Converter}
    (hk : neededConverter f = some k) {raw : Value} (hraw : (f.name, raw) ∈ undatedValues) {e : ConverterFault} :
    ¬Escapes k raw e := by
  intro hescapes
  simp only [accountRecord, List.mem_cons, List.not_mem_nil, or_false] at hf
  obtain rfl | rfl | rfl | rfl := hf
  · cases hk
  · obtain rfl := Option.some.inj hk
    cases hescapes
  · obtain rfl := Option.some.inj hk
    obtain rfl : raw = .bytes [115, 51, 99, 114, 51, 116, 45, 49] := by simpa [undatedValues] using hraw
    cases hescapes with
    | text hunwritable =>
        cases hunwritable with
        | part hpart _ => cases hpart
  · cases hk

theorem accountForms_call_reported :
    ∃ code, Generates (fun _ => []) accountForms "forms" "forms.py" none accountModule .direct code ∧
      accountClass ∈ InputClass.ofStatements {} accountForms ∧
        ∃ p, program accountModule [resolve .standard {} accountRecord] .direct = .ok p ∧
          Validation.validate accountClass.name (Conversion.heldFields accountClass undatedValues) = .ok () ∧
            Reported accountRecord accountClass undatedValues
              (p.call (fun _ => []) someday accountClass undatedValues "to_account_input_validated") := by
  obtain ⟨code, hcode⟩ := accountForms_generates
  obtain ⟨-, p, hp, -, hcalls⟩ := call_reported_iff _ _ _ _ _ _ _ _ hcode
  refine ⟨code, hcode, accountClass_mem, p, hp, rfl, ?_⟩
  have hname : Naming.conversionName (accountRecord.name ++ "Validated") = "to_account_input_validated" := by
    decide
  have hreported := hcalls {} accountRecord (by simp [accountModule]) accountClass accountClass_mem rfl
    accountRecord_covered rfl someday undatedValues rfl
  have htold : ¬Untold (Conversion.heldFields accountClass undatedValues) := fun huntold => by
    obtain ⟨fault, hfault⟩ := (validate_unencodable_iff accountClass.name _).2 huntold
    cases hfault
  rw [hname] at hreported
  exact hreported.2
    ⟨htold, fun _ f k raw e hfirst => undatedValues_reported hfirst.mem.1 hfirst.needed hfirst.held⟩

def memberForms : List Stmt :=
  [.importFrom 1 0 (some "dataclasses") [⟨"dataclass", none⟩, ⟨"field", none⟩],
    .importFrom 3 0 (some "validgen.runtime") [⟨"fieldtypes", none⟩],
    .classDef 7 0 "MemberInput" [] [.name "dataclass"]
      [taggedField 8 "name" (.name "str") "validate" "required",
        .annotated 9 (.name "born") (.attribute (.name "fieldtypes") "DateOfBirthString") none,
        .annotated 10 (.name "secret") (.attribute (.name "fieldtypes") "PlainPassword") none]]

def memberRecord : Declaration.Record where
  name := "MemberInput"
  fields :=
    [{ name := "name", typeName := "str", validateTag := "required", line := some 8 },
      { name := "born", typeName := "fieldtypes.DateOfBirthString", line := some 9 },
      { name := "secret", typeName := "fieldtypes.PlainPassword", line := some 10 }]
  line := some 7

def memberModule : Declaration.Module where
  name := "forms"
  imports := ["from dataclasses import dataclass, field", "from validgen.runtime import fieldtypes"]
  records := [memberRecord]

def memberClass : InputClass where
  name := "MemberInput"
  isRecord := true
  fields := [("name", some "required"), ("born", none), ("secret", none)]

theorem memberForms_generates :
    ∃ code, Generates (fun _ => []) memberForms "forms" "forms.py" none memberModule .direct code :=
  ⟨_, rfl, by decide, by decide, by decide, imports_of_decided (by decide), rfl⟩

theorem memberClass_mem : memberClass ∈ InputClass.ofStatements {} memberForms := by
  have hclasses : InputClass.ofStatements {} memberForms = [memberClass] := rfl
  simp [hclasses]

theorem memberRecord_covered : Covers memberRecord memberClass := by
  unfold Covers
  decide

def longSecret : String := String.ofList (List.replicate (Password.maxLength + 1) 'a')

def longValues : List (String × Value) :=
  [("name", .text "Ann"), ("born", .text "2000-01-02"), ("secret", .text longSecret)]

theorem longValues_escapes :
    ∃ f k raw e, FirstFault someday longValues memberRecord f k raw e ∧ Escapes k raw e := by
  have hescapes : Escapes .password (.text longSecret) (.password .tooLong) := by
    refine .long ?_
    rw [longSecret, String.length_ofList, List.length_replicate]
    exact Nat.lt_succ_self _
  have hfails := (run_escapes_iff (c := someday) (by simp)).2 hescapes
  refine ⟨_, .password, _, _, ⟨⟨[_, _], [], rfl, ?_⟩, rfl, by simp [longValues], hfails⟩, hescapes⟩
  intro g hg k hk raw hraw
  simp only [List.mem_cons, List.not_mem_nil, or_false] at hg
  obtain rfl | rfl := hg
  · cases hk
  · obtain rfl := Option.some.inj hk
    obtain rfl : raw = .text "2000-01-02" := by simpa [longValues] using hraw
    exact ⟨.date ⟨2000, 1, 2⟩, rfl⟩

/-- A password may make a generated function fail in a way that its callers are not told of. -/
theorem call_may_go_unreported :
    ¬∀ (exports : Exports) (body : List Stmt) (name file : String) (path : Option Path) (m : Declaration.Module)
      (variant : Variant) (code : String) (p : Program), Generates exports body name file path m variant code →
        program m (m.records.map (resolve .standard {})) variant = .ok p →
          ∀ w, ∀ d ∈ m.records, ∀ cls ∈ InputClass.ofStatements w body, cls.name = d.name → Covers d cls →
            cls.isRecord = true →
            ∀ (c : Circumstances) (values : List (String × Value)), values.map Prod.fst = cls.fields.map Prod.fst →
              Reported d cls values (p.call exports c cls values (Naming.conversionName (d.name ++ "Validated"))) := by
  intro hall
  obtain ⟨code, hcode⟩ := memberForms_generates
  obtain ⟨p, hp, -⟩ := exists_program hcode.emitted
  have hmember : memberRecord ∈ memberModule.records := by simp [memberModule]
  have hvalues : longValues.map Prod.fst = memberClass.fields.map Prod.fst := rfl
  have hreported := hall _ _ _ _ _ _ _ _ p hcode hp {} memberRecord hmember memberClass memberClass_mem rfl
    memberRecord_covered rfl someday longValues hvalues
  obtain ⟨hkeys, hheld⟩ := held_of_mem memberClass_mem memberRecord_covered hvalues
  rw [hcode.call_eq hp hmember, reported_convert_iff hkeys hheld rfl] at hreported
  obtain ⟨f, k, raw, e, hfirst, hescapes⟩ := longValues_escapes
  exact hreported.2 rfl f k raw e hfirst hescapes

end Vetted.Proofs.ConversionFailure
