import Vetted.Proofs.EncodedText
import Vetted.Proofs.GeneratedNames
import Vetted.Generated.Loading
import Vetted.Proofs.InputClasses

namespace Vetted.Proofs.ConversionMeaning

open Domain Generated Source DefinedNames GeneratedNames GeneratedProgram ImportOrder InputClasses Resolution Sequence

variable {exports : Exports} {p : Program} {records : List Record} {c : Circumstances} {values : List (String × Value)}

theorem validated_eq_ok_iff {inputType : String} {cls : InputClass} :
    Conversion.validated inputType cls values = .ok () ↔
      cls.isRecord = true ∧ Validation.validate cls.name (Conversion.heldFields cls values) = .ok () := by
  rw [Conversion.validated]
  split
  case isTrue hrecord => rw [mapError_eq_ok_iff, and_iff_right hrecord]
  case isFalse hother => simp [hother]

theorem convertFields_eq_ok_iff {fields : List Domain.Field} {out : List (String × Value)} :
    Conversion.convertFields c values fields = .ok out ↔
      List.Forall₂ (fun f e => e.1 = f.name ∧ Conversion.convertField c values f = .ok e.2) fields out := by
  induction fields generalizing out with
  | nil => rw [Conversion.convertFields, Except.ok.injEq, List.forall₂_nil_left_iff, eq_comm]
  | cons f rest ih =>
      rw [Conversion.convertFields, List.forall₂_cons_left_iff, bind_eq_ok_iff]
      constructor
      · rintro ⟨v, hv, hrest⟩
        obtain ⟨others, hothers, hout⟩ := bind_eq_ok_iff.1 hrest
        exact ⟨(f.name, v), others, ⟨rfl, hv⟩, ih.1 hothers, (pure_eq_ok_iff.1 hout).symm⟩
      · rintro ⟨⟨n, v⟩, others, ⟨rfl, hv⟩, hothers, rfl⟩
        exact ⟨v, hv, bind_eq_ok_iff.2 ⟨others, ih.2 hothers, rfl⟩⟩

theorem convert_eq_ok_iff {cls : InputClass} {r : Record} {out : List (String × Value)} :
    Conversion.convert c cls r values = .ok out ↔
      (cls.isRecord = true ∧ Validation.validate cls.name (Conversion.heldFields cls values) = .ok ()) ∧
        List.Forall₂ (fun f e => e.1 = f.name ∧ Conversion.convertField c values f = .ok e.2) r.fields out := by
  rw [Conversion.convert, bind_eq_ok_iff]
  simp only [mapError_eq_ok_iff, convertFields_eq_ok_iff]
  constructor
  · rintro ⟨⟨⟩, hvalid, hfields⟩
    exact ⟨validated_eq_ok_iff.1 hvalid, hfields⟩
  · rintro ⟨hvalid, hfields⟩
    exact ⟨(), validated_eq_ok_iff.2 hvalid, hfields⟩

/-- The names of a program stand for what its code takes them for. -/
structure Reliable (exports : Exports) (p : Program) (records : List Record) : Prop where
  distinct : p.definedNames.Nodup
  used : ∀ n ∈ usedNames records, p.lookup exports n = some (.imported (meantBy n))

theorem library?_used (h : Reliable exports p records) {expr root : String} {rest : List String}
    (hused : root ∈ usedNames records) (hexpr : dotted expr = root :: rest) :
    p.library? exports expr = Library.ofPath? ((meantBy root).path ++ rest) := by
  have horigin : meantBy root = { path := (meantBy root).path } := by
    rw [meantBy]
    split <;> rfl
  have hroot := h.used root hused
  rw [horigin] at hroot
  rw [Program.library?, hexpr]
  simp only [hroot]

theorem library?_name (h : Reliable exports p records) {name : String} (hused : name ∈ usedNames records) :
    p.library? exports name = Library.ofPath? (meantBy name).path := by
  have hundotted : ∀ n ∈ foreignNames, dotted n = [n] := by decide
  rw [library?_used h hused (hundotted name (mem_foreignNames_of_used hused)), List.append_nil]

theorem relyOn_used (h : Reliable exports p records) {name : String} {l : Library} (hused : name ∈ usedNames records)
    (hl : Library.ofPath? (meantBy name).path = some l) : p.relyOn exports name l = .ok () := by
  rw [Program.relyOn, library?_name h hused, if_pos hl]

theorem converter_eq_ok {expr : String} {k : Converter} (h : p.library? exports expr = some (.converter k)) :
    p.converter exports expr = .ok k := by
  rw [Program.converter, h]

theorem transform_used {r : Record} (hr : r ∈ records) {f : Domain.Field} (hf : f ∈ r.fields)
    (h : f.kind = .custom ∨ f.coerceText = true) : "transform_field" ∈ usedNames records := by
  have hname : "transform_field" ∈ libraryNames records := mem_libraryNames.2 (.inr (.inl ⟨rfl, r, hr, f, hf, h⟩))
  simp [usedNames, hname]

theorem text_used {r : Record} (hr : r ∈ records) {f : Domain.Field} (hf : f ∈ r.fields) (h : f.coerceText = true) :
    "to_text" ∈ usedNames records := by
  have hname : "to_text" ∈ libraryNames records := mem_libraryNames.2 (.inr (.inr ⟨rfl, r, hr, f, hf, h⟩))
  simp [usedNames, hname]

theorem fieldtypes_used {r : Record} (hr : r ∈ records) {f : Domain.Field} (hf : f ∈ r.fields) (h : f.kind = .custom) :
    "fieldtypes" ∈ usedNames records := by
  have hany : records.any Record.hasTransforms = true :=
    List.any_eq_true.2 ⟨r, hr, List.any_eq_true.2 ⟨f, hf, by simpa using h⟩⟩
  simp [usedNames, hany]

theorem eval_of_converter (h : Reliable exports p records) (hused : "transform_field" ∈ usedNames records)
    {f : Domain.Field} {k : Converter} {expr : String} (hconverter : Conversion.converterOf? f = some k)
    (hsource : sourceValue f = .transform f.source expr) (hexpr : p.library? exports expr = some (.converter k))
    (inputType : String) :
    p.eval exports c inputType values (sourceValue f) =
      (Conversion.convertField c values f).mapError fun e => .conversion (e.conversion inputType) := by
  rw [Conversion.convertField, hconverter, hsource, Program.eval, relyOn_used h hused rfl, converter_eq_ok hexpr]
  rfl

theorem eval_of_copy {f : Domain.Field} (hconverter : Conversion.converterOf? f = none)
    (hsource : sourceValue f = .copy f.source) (inputType : String) :
    p.eval exports c inputType values (sourceValue f) =
      (Conversion.convertField c values f).mapError fun e => .conversion (e.conversion inputType) := by
  rw [Conversion.convertField, hconverter, hsource]
  rfl

/-- The types of the standard registry are converted by what the generated code calls for them. -/
theorem standard_converter {rule : TransformRule} (h : rule ∈ Registry.standard.rules) :
    ∃ k rest, Converter.ofType? rule.sourceType = some k ∧ dotted rule.converter = "fieldtypes" :: rest ∧
      Library.ofPath? ((meantBy "fieldtypes").path ++ rest) = some (.converter k) := by
  obtain rfl | rfl : rule = ⟨"fieldtypes.DateOfBirthString", "date_of_birth", "datetime.date",
      some Registry.fieldTypesModule⟩ ∨ rule = ⟨"fieldtypes.PlainPassword", "password_hash", "str",
      some Registry.fieldTypesModule⟩ := by
    simpa [Registry.standard] using h
  · exact ⟨.dateOfBirth, ["DateOfBirthString", "to_validated"], rfl, by decide, rfl⟩
  · exact ⟨.password, ["PlainPassword", "to_validated"], rfl, by decide, rfl⟩

theorem converterOf?_of_no_rule {f : Domain.Field} (h : f.rule = none) :
    Conversion.converterOf? f = if f.coerceText then some .text else none := by
  unfold Conversion.converterOf?
  rw [h]
  cases f.kind <;> rfl

theorem sourceValue_of_no_rule {f : Domain.Field} (h : f.rule = none) :
    sourceValue f = if f.coerceText then .transform f.source "to_text" else .copy f.source := by
  unfold sourceValue
  rw [h]
  cases f.kind <;> rfl

/-- The expression of a field's value computes what its conversion asks for. -/
theorem eval_sourceValue (c : Circumstances) (values : List (String × Value)) {decls : List Declaration.Record}
    (h : Reliable exports p (decls.map (resolve .standard {})))
    {d : Declaration.Record} (hd : d ∈ decls) {f : Domain.Field} (hf : f ∈ (resolve .standard {} d).fields)
    (inputType : String) :
    p.eval exports c inputType values (sourceValue f) =
      (Conversion.convertField c values f).mapError fun e => .conversion (e.conversion inputType) := by
  have hr : resolve .standard {} d ∈ decls.map (resolve .standard {}) := List.mem_map_of_mem hd
  have hkept := hf
  rw [fields_resolve] at hkept
  obtain ⟨e, -, rfl⟩ := List.mem_map.1 hkept
  cases hrule : Registry.standard.lookup e.typeName with
  | some rule =>
      obtain ⟨k, rest, htype, hdotted, hpath⟩ := standard_converter (standard_lookup hrule).1
      have hfield := keptField_of_rule (c := {}) hrule
      have hkind : (keptField .standard {} e).kind = .custom := by rw [hfield]
      have hexpr := library?_used h (fieldtypes_used hr hf hkind) hdotted
      rw [hpath] at hexpr
      refine eval_of_converter h (transform_used hr hf (.inl hkind)) ?_ ?_ hexpr inputType
      · rw [hfield]
        exact htype
      · rw [hfield]
        rfl
  | none =>
      have hnorule := rule_keptField_of_none (c := {}) hrule
      cases htext : (keptField .standard {} e).coerceText with
      | true =>
          refine eval_of_converter h (transform_used hr hf (.inr htext)) ?_ ?_
            (library?_name h (text_used hr hf htext)) inputType
          · rw [converterOf?_of_no_rule hnorule, htext]
            rfl
          · rw [sourceValue_of_no_rule hnorule, htext]
            rfl
      | false =>
          refine eval_of_copy ?_ ?_ inputType
          · rw [converterOf?_of_no_rule hnorule, htext]
            rfl
          · rw [sourceValue_of_no_rule hnorule, htext]
            rfl

theorem mapM_fill (c : Circumstances) (values : List (String × Value)) {decls : List Declaration.Record}
    (h : Reliable exports p (decls.map (resolve .standard {}))) {d : Declaration.Record} (hd : d ∈ decls)
    (inputType : String) (scope : Domain.Field → String)
    {fields : List Domain.Field} (hfields : ∀ f ∈ fields, f ∈ (resolve .standard {} d).fields) :
    (fields.map fun f => fieldOf f (scope f) .direct).mapM (p.fill exports c inputType values) =
      (Conversion.convertFields c values fields).mapError fun e => .conversion (e.conversion inputType) := by
  induction fields with
  | nil => rfl
  | cons f rest ih =>
      have heval := eval_sourceValue c values h hd (hfields f (by simp)) inputType
      have hfill : p.fill exports c inputType values (fieldOf f (scope f) .direct) = (do
          return (f.name, ← p.eval exports c inputType values (sourceValue f))) := rfl
      rw [List.map_cons, List.mapM_cons, hfill, heval, ih fun g hg => hfields g (by simp [hg]),
        Conversion.convertFields]
      cases Conversion.convertField c values f with
      | error e => rfl
      | ok v => cases Conversion.convertFields c values rest <;> rfl

theorem run_eq_convert {m : Declaration.Module} {decls : List Declaration.Record}
    (hp : program m (decls.map (resolve .standard {})) .direct = .ok p)
    (h : Reliable exports p (decls.map (resolve .standard {}))) {d : Declaration.Record} (hd : d ∈ decls) {t : Routine}
    (ht : t ∈ p.routines) (hrecord : t.record = resolve .standard {} d) (cls : InputClass) :
    p.run exports c cls values t = (Conversion.convert c cls t.record values).mapError .conversion := by
  have hmark : p.relyOn exports "dataclass" .recordMark = .ok () := relyOn_used h (by simp [usedNames]) rfl
  have hvalidate : p.relyOn exports "validate_struct" .validate = .ok () :=
    relyOn_used h (by simp [usedNames, libraryNames]) rfl
  have hinvalid : p.relyOn exports "StructValidationError" .invalid = .ok () :=
    relyOn_used h (by simp [usedNames, libraryNames]) rfl
  have hfailed : p.relyOn exports "ConversionError" .failed = .ok () :=
    relyOn_used h (by simp [usedNames, libraryNames]) rfl
  have hfill := mapM_fill c values h hd t.record.inputName
    (fun f => scopeOf t.record (scopedNames (decls.map (resolve .standard {}))) f) fun f hf => hf
  rw [← hrecord, ← fields_of_routine hp ht] at hfill
  rw [Program.run, hmark, hvalidate, hinvalid, hfailed, if_pos (lookup_record h.distinct ht), hfill,
    Conversion.convert]
  cases Conversion.validated t.record.inputName cls values with
  | error e => rfl
  | ok _ => cases Conversion.convertFields c values t.record.fields <;> rfl

theorem call_eq_convert {m : Declaration.Module} {decls : List Declaration.Record}
    (hp : program m (decls.map (resolve .standard {})) .direct = .ok p)
    (h : Reliable exports p (decls.map (resolve .standard {}))) {d : Declaration.Record} (hd : d ∈ decls)
    (cls : InputClass) :
    p.call exports c cls values (Naming.conversionName (d.name ++ "Validated")) =
      ((Conversion.convert c cls (resolve .standard {} d) values).mapError .conversion).map
        fun out => (d.name ++ "Validated", out) := by
  have hr : resolve .standard {} d ∈ p.routines.map Routine.record := by
    rw [routines_map_record hp]
    exact List.mem_map_of_mem hd
  obtain ⟨t, ht, hrecord⟩ := List.mem_map.1 hr
  have hname : t.name = Naming.conversionName (d.name ++ "Validated") := by
    rw [Routine.name, hrecord]
    rfl
  rw [← hname, Program.call, lookup_routine h.distinct ht]
  simp only [run_eq_convert hp h hd ht hrecord, hrecord]
  cases Conversion.convert c cls (resolve .standard {} d) values <;> rfl

theorem call_eq_ok_iff {m : Declaration.Module} {decls : List Declaration.Record}
    (hp : program m (decls.map (resolve .standard {})) .direct = .ok p)
    (h : Reliable exports p (decls.map (resolve .standard {}))) {d : Declaration.Record} (hd : d ∈ decls)
    {cls : InputClass} {out : String × List (String × Value)} :
    p.call exports c cls values (Naming.conversionName (d.name ++ "Validated")) = .ok out ↔
      out.1 = d.name ++ "Validated" ∧ Conversion.convert c cls (resolve .standard {} d) values = .ok out.2 := by
  rw [call_eq_convert hp h hd]
  cases Conversion.convert c cls (resolve .standard {} d) values with
  | error e => simp [Except.mapError, Except.map]
  | ok fields => simp [Except.mapError, Except.map, Prod.ext_iff, eq_comm]

theorem reliable_of_imports {m : Declaration.Module}
    (hp : program m (m.records.map (resolve .standard {})) .direct = .ok p) (hmodule : ' ' ∉ m.name.toList)
    (hnames : (m.records.map Declaration.Record.name).Nodup)
    (hclasses : ∀ d ∈ m.records, ImportText.IsWord d.name ∧ d.name ∉ foreignNames)
    (hfunctions : (m.records.map fun d => Naming.conversionName (d.name ++ "Validated")).Nodup)
    (himports : ∀ n ∈ usedNames (m.records.map (resolve .standard {})), ∀ line ∈ m.imports, ∀ o,
      originAfter exports [line] n = some o → o = meantBy n) :
    Reliable exports p (m.records.map (resolve .standard {})) := by
  refine ⟨?_, ?_⟩
  · rw [nodup_definedNames hp]
    refine ⟨nodup_domainNames hnames, ?_, ?_, by simp [usedWrappers_direct]⟩
    · rw [← nodup_conversionNames_iff, List.map_map]
      exact hfunctions
    · intro r hr s _
      obtain ⟨d, -, rfl⟩ := List.mem_map.1 hr
      have hcapital : 'V' ∈ (d.name ++ "Validated").toList := by simp
      exact ne_conversionName_of_isUpper hcapital (by decide) s.name
  · intro n hn
    have hdefined := not_mem_definedNames hp (mem_foreignNames_of_used hn)
    exact lookup_used hp hmodule hclasses hn hdefined (himports n hn)

/-- The converter that the value of a field has to go through: that of its type, or that into text for a password that
is not declared as text. -/
def neededConverter (f : Declaration.Field) : Option Converter :=
  match Converter.ofType? f.typeName with
  | some k => some k
  | none => if isPassword {} f && f.typeName ≠ "str" then some .text else none

def keptName (f : Declaration.Field) : String :=
  match Registry.standard.lookup f.typeName with
  | some rule => rule.targetField
  | none => f.name

/-- An entry of a domain record that is made from a field of an input with the given values. -/
def MadeFrom (c : Circumstances) (values : List (String × Value)) (f : Declaration.Field) (entry : String × Value) :
    Prop :=
  entry.1 = keptName f ∧ ∃ raw, (f.name, raw) ∈ values ∧
    match neededConverter f with
    | some k => k.run c raw = .ok entry.2
    | none => entry.2 = raw

theorem ofType?_eq_none {typeName : String} (h : Registry.standard.lookup typeName = none) :
    Converter.ofType? typeName = none := by
  unfold Converter.ofType?
  split
  · exact absurd h (by decide)
  · exact absurd h (by decide)
  · rfl

theorem converterOf?_keptField (f : Declaration.Field) :
    Conversion.converterOf? (keptField .standard {} f) = neededConverter f := by
  rw [neededConverter]
  cases hrule : Registry.standard.lookup f.typeName with
  | some rule =>
      obtain ⟨hmem, htype⟩ := standard_lookup hrule
      obtain ⟨k, -, hk, -⟩ := standard_converter hmem
      rw [keptField_of_rule hrule, ← htype, hk]
      exact hk
  | none =>
      rw [converterOf?_of_no_rule (rule_keptField_of_none hrule), coerceText_keptField_of_none hrule,
        ofType?_eq_none hrule]

theorem name_keptField (f : Declaration.Field) : (keptField .standard {} f).name = keptName f := by
  rw [keptName, keptField]
  cases Registry.standard.lookup f.typeName with
  | some rule => rfl
  | none =>
      simp only [passwordName]
      split <;> rfl

theorem transformField_eq_ok_iff {typeName field : String} {convert : Value → Except ConverterFault Value}
    {raw v : Value} :
    transformField typeName field convert raw = .ok v ↔ convert raw = .ok v := by
  rw [transformField]
  split <;> simp_all

theorem valueOf_eq {name : String} {raw : Value} (hkeys : (values.map Prod.fst).Nodup) (h : (name, raw) ∈ values) :
    Conversion.valueOf values name = raw := by
  rw [Conversion.valueOf, lookup_of_mem hkeys h, Option.getD_some]

theorem value_unique {name : String} {raw other : Value} (hkeys : (values.map Prod.fst).Nodup)
    (hraw : (name, raw) ∈ values) (hother : (name, other) ∈ values) : other = raw := by
  rw [← valueOf_eq hkeys hother, valueOf_eq hkeys hraw]

theorem madeFrom_iff (hkeys : (values.map Prod.fst).Nodup) {f : Declaration.Field} {raw : Value}
    (hraw : (f.name, raw) ∈ values) {entry : String × Value} :
    entry.1 = (keptField .standard {} f).name ∧
        Conversion.convertField c values (keptField .standard {} f) = .ok entry.2 ↔
      MadeFrom c values f entry := by
  rw [name_keptField, MadeFrom, Conversion.convertField, converterOf?_keptField, source_keptField,
    valueOf_eq hkeys hraw]
  refine and_congr_right fun _ => ?_
  cases neededConverter f with
  | some k =>
      simp only [transformField_eq_ok_iff]
      constructor
      · exact fun h => ⟨raw, hraw, h⟩
      · rintro ⟨other, hother, h⟩
        rw [value_unique hkeys hraw hother] at h
        exact h
  | none =>
      constructor
      · exact fun h => ⟨raw, hraw, (Except.ok.inj h).symm⟩
      · rintro ⟨other, hother, h⟩
        rw [h, value_unique hkeys hraw hother]

theorem convert_resolve_eq_ok_iff {cls : InputClass} {d : Declaration.Record} (hkeys : (values.map Prod.fst).Nodup)
    (hheld : ∀ f ∈ d.fields, ∃ raw, (f.name, raw) ∈ values) {out : List (String × Value)} :
    Conversion.convert c cls (resolve .standard {} d) values = .ok out ↔
      (cls.isRecord = true ∧ Validation.validate cls.name (Conversion.heldFields cls values) = .ok ()) ∧
        List.Forall₂ (MadeFrom c values) (d.fields.filter fun f => !isOmitted f) out := by
  rw [convert_eq_ok_iff, fields_resolve, List.forall₂_map_left_iff]
  refine and_congr_right fun _ => ?_
  have hkept : ∀ f ∈ d.fields.filter fun f => !isOmitted f, ∃ raw, (f.name, raw) ∈ values :=
    fun f hf => hheld f (List.mem_of_mem_filter hf)
  constructor
  · intro h
    refine ((List.forall₂_and_left _ _).2 ⟨hkept, h⟩).imp ?_
    rintro f entry ⟨⟨raw, hraw⟩, hmade⟩
    exact (madeFrom_iff hkeys hraw).1 hmade
  · intro h
    refine ((List.forall₂_and_left _ _).2 ⟨hkept, h⟩).imp ?_
    rintro f entry ⟨⟨raw, hraw⟩, hmade⟩
    exact (madeFrom_iff hkeys hraw).2 hmade

theorem exists_madeFrom_iff (hkeys : (values.map Prod.fst).Nodup) {f : Declaration.Field} {raw : Value}
    (hraw : (f.name, raw) ∈ values) :
    (∃ entry, MadeFrom c values f entry) ↔
      ∀ k, neededConverter f = some k → ∀ raw, (f.name, raw) ∈ values → ∃ v, k.run c raw = .ok v := by
  constructor
  · rintro ⟨entry, -, held, hheld, hmade⟩ k hk other hother
    rw [hk, value_unique hkeys hother hheld] at hmade
    exact ⟨entry.2, hmade⟩
  · intro h
    cases hk : neededConverter f with
    | some k =>
        obtain ⟨v, hv⟩ := h k hk raw hraw
        refine ⟨(keptName f, v), rfl, raw, hraw, ?_⟩
        rw [hk]
        exact hv
    | none =>
        refine ⟨(keptName f, raw), rfl, raw, hraw, ?_⟩
        rw [hk]

theorem exists_entries_iff (hkeys : (values.map Prod.fst).Nodup) {d : Declaration.Record}
    (hheld : ∀ f ∈ d.fields, ∃ raw, (f.name, raw) ∈ values) :
    (∃ out, List.Forall₂ (MadeFrom c values) (d.fields.filter fun f => !isOmitted f) out) ↔
      ∀ f ∈ d.fields, isOmitted f = false → ∀ k, neededConverter f = some k →
        ∀ raw, (f.name, raw) ∈ values → ∃ v, k.run c raw = .ok v := by
  rw [exists_forall₂_iff]
  constructor
  · intro h f hf homitted
    obtain ⟨raw, hraw⟩ := hheld f hf
    exact (exists_madeFrom_iff hkeys hraw).1 (h f (List.mem_filter.2 ⟨hf, by simp [homitted]⟩))
  · intro h f hf
    obtain ⟨hmem, hkept⟩ := List.mem_filter.1 hf
    obtain ⟨raw, hraw⟩ := hheld f hmem
    exact (exists_madeFrom_iff hkeys hraw).2 (h f hmem (by simpa using hkept))

theorem isWord_of_endsWith {name : String} (hsuffix : Text.endsWith name "Input" = true) (hblank : ' ' ∉ name.toList)
    (hcomma : ',' ∉ name.toList) : ImportText.IsWord name ∧ name ∉ foreignNames := by
  have hother : ∀ n ∈ "as" :: "*" :: foreignNames, Text.endsWith n "Input" = false := by decide
  have hapart : name ∉ "as" :: "*" :: foreignNames := by
    intro hmem
    rw [hother name hmem] at hsuffix
    cases hsuffix
  simp only [List.mem_cons, not_or] at hapart
  exact ⟨⟨hblank, hcomma, hapart.1, hapart.2.1⟩, hapart.2.2⟩

theorem use_eq_ok_iff {p : Program} {cls : InputClass} {name : String} {out : String × List (String × Value)} :
    p.use exports c cls values name = .ok out ↔ p.load exports = .ok () ∧
      p.call exports c cls values name = .ok out := by
  rw [Program.use, bind_eq_ok_iff]
  simp only [mapError_eq_ok_iff]
  constructor
  · rintro ⟨⟨⟩, hload, hcall⟩
    exact ⟨hload, hcall⟩
  · rintro ⟨hload, hcall⟩
    exact ⟨(), hload, hcall⟩

/-- The function of a record gives a domain record exactly if the input passes validation and each value that has to
go through a converter gets through. The record then has an entry for each field that is not omitted, in order. It can
be called once the module is loaded. -/
theorem call_returns_iff (exports : Exports) (body : List Stmt) (name file : String) (path : Option Path)
    (m : Declaration.Module) (code : String) (hmodule : Declaration.moduleOf body name file path "Input" = .ok m)
    (hname : ' ' ∉ name.toList) (hclasses : ∀ d ∈ m.records, ' ' ∉ d.name.toList ∧ ',' ∉ d.name.toList)
    (hfunctions : (m.records.map fun d => Naming.conversionName (d.name ++ "Validated")).Nodup)
    (himports : ∀ n ∈ usedNames (m.records.map (resolve .standard {})), ∀ line ∈ m.imports, ∀ o,
      originAfter exports [line] n = some o → o = meantBy n)
    (hemit : emitModule m (m.records.map (resolve .standard {})) .direct = .ok code) :
    ∃ p, program m (m.records.map (resolve .standard {})) .direct = .ok p ∧ p.text m = code ∧
      ∀ w, ∀ d ∈ m.records, ∀ cls ∈ InputClass.ofStatements w body, cls.name = d.name → Covers d cls →
        ∀ (c : Circumstances) (values : List (String × Value)), values.map Prod.fst = cls.fields.map Prod.fst →
          ((∃ out, p.call exports c cls values (Naming.conversionName (d.name ++ "Validated")) = .ok out) ↔
            (cls.isRecord = true ∧ Validation.validate cls.name (Conversion.heldFields cls values) = .ok ()) ∧
              ∀ f ∈ d.fields, isOmitted f = false → ∀ k, neededConverter f = some k →
                ∀ raw, (f.name, raw) ∈ values → ∃ v, k.run c raw = .ok v) ∧
          (∀ out, p.call exports c cls values (Naming.conversionName (d.name ++ "Validated")) = .ok out →
            out.1 = d.name ++ "Validated" ∧
              List.Forall₂ (MadeFrom c values) (d.fields.filter fun f => !isOmitted f) out.2) ∧
          ∀ out, p.use exports c cls values (Naming.conversionName (d.name ++ "Validated")) = .ok out ↔
            p.load exports = .ok () ∧
              p.call exports c cls values (Naming.conversionName (d.name ++ "Validated")) = .ok out := by
  obtain ⟨records, hrecords, hm⟩ := bind_eq_ok_iff.1 hmodule
  rw [mapError_eq_ok_iff] at hrecords
  obtain rfl := pure_eq_ok_iff.1 hm
  obtain ⟨p, hp, htext⟩ := exists_program hemit
  have hreliable : Reliable exports p (records.map (resolve .standard {})) := by
    refine reliable_of_imports hp hname (collect_eq_ok hrecords).2.1 ?_ hfunctions himports
    intro d hd
    exact isWord_of_endsWith (endsWith_of_mem hrecords hd) (hclasses d hd).1 (hclasses d hd).2
  refine ⟨p, hp, htext, ?_⟩
  intro w d hd cls hcls hsame hfields c values hvalues
  have hkeys := nodup_fields hcls
  rw [Covers] at hfields
  rw [← hvalues] at hkeys hfields
  have hheld : ∀ f ∈ d.fields, ∃ raw, (f.name, raw) ∈ values := by
    intro f hf
    obtain ⟨⟨n, raw⟩, hmem, rfl⟩ := List.mem_map.1 (hfields f hf)
    exact ⟨raw, hmem⟩
  have hcall : ∀ out, p.call exports c cls values (Naming.conversionName (d.name ++ "Validated")) = .ok out ↔
      out.1 = d.name ++ "Validated" ∧
        (cls.isRecord = true ∧ Validation.validate cls.name (Conversion.heldFields cls values) = .ok ()) ∧
          List.Forall₂ (MadeFrom c values) (d.fields.filter fun f => !isOmitted f) out.2 := by
    intro out
    rw [call_eq_ok_iff hp hreliable hd, convert_resolve_eq_ok_iff hkeys hheld]
  refine ⟨?_, ?_, fun out => use_eq_ok_iff⟩
  · rw [← exists_entries_iff hkeys hheld]
    constructor
    · rintro ⟨out, hout⟩
      obtain ⟨-, hvalid, hmade⟩ := (hcall out).1 hout
      exact ⟨hvalid, out.2, hmade⟩
    · rintro ⟨hvalid, out, hmade⟩
      exact ⟨(d.name ++ "Validated", out), (hcall _).2 ⟨rfl, hvalid, hmade⟩⟩
  · intro out hout
    obtain ⟨hclass, -, hmade⟩ := (hcall out).1 hout
    exact ⟨hclass, hmade⟩

def taggedField (line : Nat) (name : String) (hint : Expr) (key value : String) : Stmt :=
  .annotated line (.name name) hint (some (.call (.name "field") []
    [(some "metadata", .dict [(some (.constant (.text key false)), line, .constant (.text value false))])]))

/-- A class with a field of each kind: one that is copied, one of a custom type, a password, and one that is omitted. -/
def accountForms : List Stmt :=
  [.importFrom 1 0 (some "dataclasses") [⟨"dataclass", none⟩, ⟨"field", none⟩],
    .importFrom 2 0 (some "validgen.runtime") [⟨"fieldtypes", none⟩],
    .classDef 5 0 "AccountInput" [] [.name "dataclass"]
      [taggedField 6 "name" (.name "str") "validate" "required",
        .annotated 7 (.name "born") (.attribute (.name "fieldtypes") "DateOfBirthString") none,
        taggedField 8 "password" (.name "bytes") "validate" "required,min=8",
        taggedField 9 "note" (.name "str") "transform" "omit"]]

def accountRecord : Declaration.Record where
  name := "AccountInput"
  fields :=
    [{ name := "name", typeName := "str", validateTag := "required", line := some 6 },
      { name := "born", typeName := "fieldtypes.DateOfBirthString", line := some 7 },
      { name := "password", typeName := "bytes", validateTag := "required,min=8", line := some 8 },
      { name := "note", typeName := "str", transformTag := "omit", line := some 9 }]
  line := some 5

def accountModule : Declaration.Module where
  name := "forms"
  imports := ["from dataclasses import dataclass, field", "from validgen.runtime import fieldtypes"]
  records := [accountRecord]

def accountClass : InputClass where
  name := "AccountInput"
  isRecord := true
  fields := [("name", some "required"), ("born", none), ("password", some "required,min=8"), ("note", none)]

def accountValues : List (String × Value) :=
  [("name", .text "Ann"), ("born", .text "2000-01-02"), ("password", .bytes [115, 51, 99, 114, 51, 116, 45, 49]),
    ("note", .text "new")]

def someday : Circumstances := { today := ⟨2024, 5, 6⟩, salt := [] }

theorem accountValues_converted {f : Declaration.Field} (hf : f ∈ accountRecord.fields) {k : Converter}
    (hk : neededConverter f = some k) {raw : Value} (hraw : (f.name, raw) ∈ accountValues) :
    ∃ v, k.run someday raw = .ok v := by
  simp only [accountRecord, List.mem_cons, List.not_mem_nil, or_false] at hf
  obtain rfl | rfl | rfl | rfl := hf
  · cases hk
  · obtain rfl := Option.some.inj hk
    obtain rfl : raw = .text "2000-01-02" := by simpa [accountValues] using hraw
    exact ⟨.date ⟨2000, 1, 2⟩, rfl⟩
  · obtain rfl := Option.some.inj hk
    obtain rfl : raw = .bytes [115, 51, 99, 114, 51, 116, 45, 49] := by simpa [accountValues] using hraw
    have hbytes : [115, 51, 99, 114, 51, 116, 45, 49] = Text.encodeUtf8 "s3cr3t-1" := by decide +kernel
    have hdecoded := EncodedText.decodeUtf8_encodeUtf8 "s3cr3t-1"
    exact ⟨.text "s3cr3t-1", by rw [Converter.run, Converter.toText, hbytes, hdecoded]⟩
  · cases hk

theorem accountForms_call_returns :
    Declaration.moduleOf accountForms "forms" "forms.py" none "Input" = .ok accountModule ∧
      accountClass ∈ InputClass.ofStatements {} accountForms ∧
        ∃ p, program accountModule [resolve .standard {} accountRecord] .direct = .ok p ∧
          ∃ out, p.call (fun _ => []) someday accountClass accountValues "to_account_input_validated" = .ok out ∧
            out.1 = "AccountInputValidated" ∧
              List.Forall₂ (MadeFrom someday accountValues) (accountRecord.fields.filter fun f => !isOmitted f)
                out.2 := by
  have hmodule : Declaration.moduleOf accountForms "forms" "forms.py" none "Input" = .ok accountModule := rfl
  have hclass : accountClass ∈ InputClass.ofStatements {} accountForms := by
    have hclasses : InputClass.ofStatements {} accountForms = [accountClass] := rfl
    simp [hclasses]
  have himports : ∀ n ∈ usedNames (accountModule.records.map (resolve .standard {})), ∀ line ∈ accountModule.imports,
      originAfter (fun _ => []) [line] n = none ∨ originAfter (fun _ => []) [line] n = some (meantBy n) := by
    decide
  obtain ⟨code, hcode⟩ : ∃ code, emitModule accountModule (accountModule.records.map (resolve .standard {})) .direct =
    .ok code := ⟨_, rfl⟩
  obtain ⟨p, hp, -, hcalls⟩ := call_returns_iff (fun _ => []) accountForms "forms" "forms.py" none accountModule code
    hmodule (by decide) (by decide) (by decide)
    (fun n hn line hline o ho => by
      obtain hnone | hsome := himports n hn line hline
      · rw [hnone] at ho
        cases ho
      · rw [hsome] at ho
        exact (Option.some.inj ho).symm) hcode
  have hname : Naming.conversionName (accountRecord.name ++ "Validated") = "to_account_input_validated" := by
    decide
  have hcovers : Covers accountRecord accountClass := by
    unfold Covers
    decide
  obtain ⟨hreturns, hentries, -⟩ := hcalls {} accountRecord (by simp [accountModule]) accountClass hclass rfl hcovers
    someday accountValues rfl
  obtain ⟨out, hout⟩ := hreturns.2 ⟨⟨rfl, rfl⟩, fun f hf _ k hk raw hraw => accountValues_converted hf hk hraw⟩
  obtain ⟨hrecord, hmade⟩ := hentries out hout
  rw [hname] at hout
  exact ⟨hmodule, hclass, p, hp, out, hout, hrecord, hmade⟩

end Vetted.Proofs.ConversionMeaning
