import Vetted.Proofs.DefinedNames
import Vetted.Proofs.ImportOrder
import Vetted.Proofs.ImportText
import Vetted.Proofs.Resolution
import Vetted.Proofs.Sequence

namespace Vetted.Proofs.GeneratedNames

open Domain Generated Source GeneratedProgram DefinedNames ImportOrder ImportText Resolution Sequence SnakeCase

variable {exports : Exports} {p : Program} {name : String}

theorem lookup_of_mem_definitions (hnodup : p.definedNames.Nodup) {g : Global} (h : (name, g) ∈ p.definitions) :
    p.lookup exports name = some g := by
  have hreverse : (p.definitions.reverse.map Prod.fst).Nodup := by
    rw [List.map_reverse, List.nodup_reverse]
    exact hnodup
  rw [Program.lookup, lookup_of_mem hreverse (List.mem_reverse.2 h), Option.some_or]

theorem lookup_of_not_mem (h : name ∉ p.definedNames) :
    p.lookup exports name = (originAfter exports p.imports name).map .imported := by
  have hnone : p.definitions.reverse.lookup name = none := by
    rw [List.lookup_eq_none_iff]
    intro e he
    have hne : name ≠ e.1 := by
      rintro rfl
      exact h (List.mem_map_of_mem (List.mem_reverse.1 he))
    simpa using hne
  rw [Program.lookup, hnone, Option.none_or]

theorem lookup_record (hnodup : p.definedNames.Nodup) {t : Routine} (ht : t ∈ p.routines) :
    p.lookup exports t.record.name = some (.record t.record) := by
  refine lookup_of_mem_definitions hnodup (List.mem_append_right _ ?_)
  exact List.mem_flatMap.2 ⟨t, ht, by simp⟩

theorem lookup_routine (hnodup : p.definedNames.Nodup) {t : Routine} (ht : t ∈ p.routines) :
    p.lookup exports t.name = some (.routine t) := by
  refine lookup_of_mem_definitions hnodup (List.mem_append_right _ ?_)
  exact List.mem_flatMap.2 ⟨t, ht, by simp⟩

/-- Lines that all mean the same by a name, if they bind it, give it that meaning once one of them does. -/
theorem originAfter_of_agree {lines : List String} {o : Origin}
    (hagree : ∀ line ∈ lines, ∀ other, originAfter exports [line] name = some other → other = o)
    (hbound : ∃ line ∈ lines, originAfter exports [line] name ≠ none) : originAfter exports lines name = some o := by
  cases h : originAfter exports lines name with
  | none =>
      obtain ⟨line, hline, hbinds⟩ := hbound
      exact absurd (originAfter_eq_none_iff.1 h line hline) hbinds
  | some other =>
      obtain ⟨before, line, after, rfl, hline, -⟩ := originAfter_eq_some_iff.1 h
      rw [hagree line (by simp) other hline]

/-- The library gives generated code its errors, the validation, and what the conversions of the fields need. -/
theorem mem_libraryNames {records : List Record} :
    name ∈ libraryNames records ↔
      name ∈ ["ConversionError", "StructValidationError", "validate_struct"] ∨
        (name = "transform_field" ∧ ∃ r ∈ records, ∃ f ∈ r.fields, f.kind = .custom ∨ f.coerceText = true) ∨
          (name = "to_text" ∧ ∃ r ∈ records, ∃ f ∈ r.fields, f.coerceText = true) := by
  have hcoercions : records.any Record.hasCoercions = true ↔ ∃ r ∈ records, ∃ f ∈ r.fields, f.coerceText = true := by
    simp [Record.hasCoercions]
  have hcalls : (records.any fun r => r.hasTransforms || r.hasCoercions) = true ↔
      ∃ r ∈ records, ∃ f ∈ r.fields, f.kind = .custom ∨ f.coerceText = true := by
    simp [Record.hasTransforms, Record.hasCoercions, and_or_left, exists_or]
  rw [← hcoercions, ← hcalls, libraryNames]
  grind

def usedNames (records : List Record) : List String :=
  "dataclass" :: libraryNames records ++ if records.any Record.hasTransforms then ["fieldtypes"] else []

/-- What generated code means by a name. -/
def meantBy (name : String) : Origin :=
  if name = "dataclass" then { path := ["dataclasses", name] } else { path := ["validgen", "runtime", name] }

def foreignNames : List String :=
  ["dataclass", "ConversionError", "StructValidationError", "to_text", "transform_field", "validate_struct",
    "fieldtypes"]

theorem mem_foreignNames_of_used {records : List Record} (h : name ∈ usedNames records) : name ∈ foreignNames := by
  grind [usedNames, libraryNames, foreignNames]

theorem foreignNames_isWord (h : name ∈ foreignNames) : IsWord name := by
  have hwords : ∀ n ∈ foreignNames, ' ' ∉ n.toList ∧ ',' ∉ n.toList ∧ n ≠ "as" ∧ n ≠ "*" := by decide
  obtain ⟨hblank, hcomma, has, hstar⟩ := hwords name h
  exact ⟨hblank, hcomma, has, hstar⟩

theorem libraryNames_isWord {records : List Record} (h : name ∈ libraryNames records) : IsWord name := by
  have hused : name ∈ usedNames records := by simp [usedNames, h]
  exact foreignNames_isWord (mem_foreignNames_of_used hused)

theorem mem_ownImports {m : Declaration.Module} {records : List Record} {variant : Variant} {line : String} :
    line ∈ ownImports m records variant ↔
      line = fromLine "dataclasses" ["dataclass"] ∨ line = fromLine "validgen.runtime" (libraryNames records) ∨
        (variant = .newtype ∧ line = fromLine "typing" ["NewType"]) ∨
          (records ≠ [] ∧ line = fromLine m.name (records.map Record.inputName)) ∨
            ∃ r ∈ records, line ∈ recordImports r := by
  have hmark : fromLine "dataclasses" ["dataclass"] = "from dataclasses import dataclass" := by decide
  have htyping : fromLine "typing" ["NewType"] = "from typing import NewType" := by decide
  have hlibrary : fromLine "validgen.runtime" (libraryNames records) =
      "from validgen.runtime import " ++ Text.commaJoin (libraryNames records) := by
    rw [fromLine, ← String.toList_inj]
    simp
  rw [hmark, htyping, hlibrary, ownImports]
  simp [fromLine]

theorem mem_ownImports_direct {m : Declaration.Module} {records : List Record} {line : String} :
    line ∈ ownImports m records .direct ↔
      line = fromLine "dataclasses" ["dataclass"] ∨ line = fromLine "validgen.runtime" (libraryNames records) ∨
        (records ≠ [] ∧ line = fromLine m.name (records.map Record.inputName)) ∨
          ∃ r ∈ records, line ∈ recordImports r := by
  simp [mem_ownImports]

theorem mem_recordImports_standard {c : Conventions} {d : Declaration.Record} {line : String}
    (h : line ∈ recordImports (resolve .standard c d)) :
    line = fromLine "validgen.runtime" ["fieldtypes"] ∨ line = "import datetime" := by
  have htypes : ∀ rule ∈ Registry.standard.rules, rule.targetType = "str" ∨ rule.targetType = "datetime.date" := by
    simp [Registry.standard]
  obtain h | h := List.mem_append.1 h
  · obtain ⟨path, hpath, rfl⟩ := List.mem_map.1 h
    obtain ⟨f, -, -, rule, hrule, hcapability, -⟩ := mem_capabilities.1 hpath
    rw [standard_capability (standard_lookup hrule).1] at hcapability
    obtain rfl := Option.some.inj hcapability
    exact .inl (by decide)
  · obtain ⟨f, hf, himport⟩ := List.mem_filterMap.1 h
    rw [fields_resolve] at hf
    obtain ⟨e, -, rfl⟩ := List.mem_map.1 hf
    rw [typeImport?] at himport
    split at himport
    case isTrue hcustom =>
        obtain ⟨hkind, hroot⟩ := Bool.and_eq_true_iff.1 hcustom
        obtain ⟨rule, hrule⟩ := rule_of_kind_custom (of_decide_eq_true hkind)
        have htarget : (keptField .standard c e).typeName = rule.targetType := by rw [keptField_of_rule hrule]
        rw [htarget] at himport hroot
        obtain rfl := Option.some.inj himport
        obtain htype | htype := htypes rule (standard_lookup hrule).1
        · rw [htype] at hroot
          exact absurd hroot (by decide)
        · rw [htype]
          exact .inr (by decide)
    case isFalse => cases himport

theorem originAfter_import_datetime (h : name ≠ "datetime") : originAfter exports ["import datetime"] name = none := by
  have hread : Stmt.ofImportText? "import datetime" = some (.importNames 0 [⟨"datetime", none⟩]) := by rfl
  have horigin : Stmt.moduleOrigin ⟨"datetime", none⟩ = ("datetime", { path := ["datetime"] }) := by decide
  have hline : lineOrigins exports "import datetime" = [("datetime", { path := ["datetime"] })] := by
    rw [lineOrigins, hread, ← horigin]
    rfl
  rw [originAfter, List.flatMap_singleton, hline, List.lookup_eq_none_iff]
  simpa using h

theorem runtime_member_eq (h : name ≠ "dataclass") : (sourceOf "validgen.runtime").member name = meantBy name := by
  have hruntime : sourceOf "validgen.runtime" = { path := ["validgen", "runtime"] } := by decide
  rw [hruntime, meantBy, if_neg h]
  rfl

/-- The imports that a generated module needs itself give the names that it takes from elsewhere no other meaning. -/
theorem ownImports_agree {m : Declaration.Module} {c : Conventions} (hmodule : ' ' ∉ m.name.toList)
    (hclasses : ∀ d ∈ m.records, IsWord d.name ∧ d.name ∉ foreignNames) {line : String}
    (hline : line ∈ ownImports m (m.records.map (resolve .standard c)) .direct) (hname : name ∈ foreignNames)
    {o : Origin} (ho : originAfter exports [line] name = some o) : o = meantBy name := by
  obtain rfl | rfl | ⟨hne, rfl⟩ | ⟨r, hr, hline⟩ := mem_ownImports_direct.1 hline
  · obtain ⟨hmem, rfl⟩ := mem_of_originAfter_fromLine (by decide) (by simp)
      (by simpa using foreignNames_isWord (by decide)) ho
    obtain rfl := List.mem_singleton.1 hmem
    decide
  · obtain ⟨hmem, rfl⟩ := mem_of_originAfter_fromLine (by decide) (by simp [libraryNames])
      (fun n hn => libraryNames_isWord hn) ho
    exact runtime_member_eq (by rintro rfl; grind [libraryNames])
  · have hnames : (m.records.map (resolve .standard c)).map Record.inputName =
        m.records.map Declaration.Record.name := by
      simp [resolve]
    rw [hnames] at ho
    obtain ⟨hmem, -⟩ := mem_of_originAfter_fromLine hmodule (by simpa using hne)
      (by simpa using fun d hd => (hclasses d hd).1) ho
    obtain ⟨d, hd, rfl⟩ := List.mem_map.1 hmem
    exact absurd hname (hclasses d hd).2
  · obtain ⟨d, -, rfl⟩ := List.mem_map.1 hr
    obtain rfl | rfl := mem_recordImports_standard hline
    · obtain ⟨hmem, rfl⟩ := mem_of_originAfter_fromLine (by decide) (by simp)
        (by simpa using foreignNames_isWord (by decide)) ho
      obtain rfl := List.mem_singleton.1 hmem
      exact runtime_member_eq (by decide)
    · rw [originAfter_import_datetime] at ho
      · cases ho
      · rintro rfl
        exact absurd hname (by decide)

theorem exists_ownImport (exports : Exports) {m : Declaration.Module} {c : Conventions}
    (hused : name ∈ usedNames (m.records.map (resolve .standard c))) :
    ∃ line ∈ ownImports m (m.records.map (resolve .standard c)) .direct, originAfter exports [line] name ≠ none := by
  rw [usedNames, List.mem_append, List.mem_cons] at hused
  obtain (rfl | hlibrary) | htypes := hused
  · refine ⟨_, mem_ownImports_direct.2 (.inl rfl), ?_⟩
    rw [originAfter_fromLine (by decide) (by simp) (by simpa using foreignNames_isWord (by decide))]
    simp
  · refine ⟨_, mem_ownImports_direct.2 (.inr (.inl rfl)), ?_⟩
    rw [originAfter_fromLine (by decide) (by simp [libraryNames]) (fun n hn => libraryNames_isWord hn)]
    simp [hlibrary]
  · rw [List.mem_ite_nil_right, List.mem_singleton] at htypes
    obtain ⟨htransforms, rfl⟩ := htypes
    obtain ⟨r, hr, hfield⟩ := List.any_eq_true.1 htransforms
    obtain ⟨f, hf, hkind⟩ := List.any_eq_true.1 hfield
    obtain ⟨d, hd, rfl⟩ := List.mem_map.1 hr
    rw [fields_resolve] at hf
    obtain ⟨e, he, rfl⟩ := List.mem_map.1 hf
    obtain ⟨hmem, hkept⟩ := List.mem_filter.1 he
    obtain ⟨rule, hrule⟩ := rule_of_kind_custom (of_decide_eq_true hkind)
    have hcapability : Registry.fieldTypesModule ∈ (resolve .standard c d).capabilities := by
      refine mem_capabilities.2 ⟨e, hmem, by simpa using hkept, rule, hrule, ?_, by decide⟩
      exact standard_capability (standard_lookup hrule).1
    have hline : fromLine "validgen.runtime" ["fieldtypes"] = Naming.importLine Registry.fieldTypesModule := by
      decide
    refine ⟨fromLine "validgen.runtime" ["fieldtypes"], mem_ownImports_direct.2 (.inr (.inr (.inr ⟨_, hr, ?_⟩))), ?_⟩
    · rw [hline]
      exact List.mem_append_left _ (List.mem_map_of_mem hcapability)
    · rw [originAfter_fromLine (by decide) (by simp) (by simpa using foreignNames_isWord (by decide))]
      simp

theorem mem_definedNames_direct {m : Declaration.Module} {records : List Record}
    (hp : program m records .direct = .ok p) :
    name ∈ p.definedNames ↔ ∃ r ∈ records, name = r.name ∨ name = Naming.conversionName r.name := by
  rw [(definedNames_perm p).mem_iff, wrappers_direct hp, ← routines_map_record hp]
  simp only [List.map_nil, List.nil_append, List.mem_append, List.mem_map, Routine.name]
  grind

theorem getLast?_domainName (inputName : String) : (inputName ++ "Validated").toList.getLast? = some 'd' := by
  simp

theorem not_mem_definedNames {m : Declaration.Module} {decls : List Declaration.Record} {g : Registry}
    (hp : program m (decls.map (resolve g {})) .direct = .ok p) (hname : name ∈ foreignNames) :
    name ∉ p.definedNames := by
  rw [mem_definedNames_direct hp]
  rintro ⟨r, hr, hdefined⟩
  obtain ⟨d, -, rfl⟩ := List.mem_map.1 hr
  have hclass : ∀ n ∈ foreignNames, ¬"Validated".toList <:+ n.toList := by decide
  have hfunction : ∀ n ∈ foreignNames, ¬(['t', 'o', '_'] <+: n.toList ∧ n.toList.getLast? = some 'd') := by
    decide
  obtain rfl | rfl := hdefined
  · refine hclass _ hname ?_
    change "Validated".toList <:+ (d.name ++ "Validated").toList
    rw [String.toList_append]
    exact List.suffix_append _ _
  · refine hfunction _ hname ⟨?_, getLast?_conversionName (by decide) (getLast?_domainName d.name)⟩
    rw [conversionName_toList]
    exact List.prefix_append _ _

theorem lookup_used {m : Declaration.Module} {c : Conventions}
    (hp : program m (m.records.map (resolve .standard c)) .direct = .ok p) (hmodule : ' ' ∉ m.name.toList)
    (hclasses : ∀ d ∈ m.records, IsWord d.name ∧ d.name ∉ foreignNames)
    (hused : name ∈ usedNames (m.records.map (resolve .standard c))) (hdefined : name ∉ p.definedNames)
    (himports : ∀ line ∈ m.imports, ∀ o, originAfter exports [line] name = some o → o = meantBy name) :
    p.lookup exports name = some (.imported (meantBy name)) := by
  have horigin : originAfter exports p.imports name = some (meantBy name) := by
    rw [(program_eq_ok_iff.1 hp).1]
    refine originAfter_of_agree ?_ ?_
    · intro line hline other hother
      obtain hown | hdeclared := mem_importsOf.1 hline
      · exact ownImports_agree hmodule hclasses hown (mem_foreignNames_of_used hused) hother
      · exact himports line hdeclared other hother
    · obtain ⟨line, hline, hbinds⟩ := exists_ownImport exports hused
      exact ⟨line, mem_importsOf.2 (.inl hline), hbinds⟩
  rw [lookup_of_not_mem hdefined, horigin]
  rfl

end Vetted.Proofs.GeneratedNames
