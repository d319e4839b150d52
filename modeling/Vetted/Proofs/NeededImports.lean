import Vetted.Proofs.FieldConventions
import Vetted.Proofs.GeneratedNames

namespace Vetted.Proofs.NeededImports

open Domain Generated FieldConventions GeneratedNames ImportOrder ImportText Resolution TextOrder

variable {g : Registry} {c : Conventions}

def innermost : ValueExpr → ValueExpr
  | .wrap _ inner => innermost inner
  | expr => expr

def Passes (records : List Record) (variant : Variant) (shared : List String) (converter : String) : Prop :=
  ∃ r ∈ records, ∃ f ∈ r.fields, ∃ source,
    innermost (fieldOf f (scopeOf r shared f) variant).value = .transform source converter

theorem innermost_sourceValue (f : Domain.Field) : innermost (sourceValue f) = sourceValue f := by
  rw [sourceValue]
  split
  · rfl
  · split <;> rfl

theorem innermost_fieldOf (f : Domain.Field) (scope : String) (variant : Variant) :
    innermost (fieldOf f scope variant).value = sourceValue f := by
  cases variant with
  | direct => exact innermost_sourceValue f
  | newtype => exact innermost_sourceValue f

theorem converter_ne_toText (rule : TransformRule) : rule.converter ≠ "to_text" := by
  intro h
  -- Whatever the type is called, the text ends in `.to_validated`.
  have hlast : rule.converter.toList.getLast? = some 'd' := by
    rw [TransformRule.converter, String.toList_append, List.getLast?_append]
    rfl
  rw [h] at hlast
  exact absurd hlast (by decide)

theorem sourceValue_keptField (f : Declaration.Field) :
    (∃ rule : TransformRule, (keptField g c f).kind = .custom ∧ (keptField g c f).coerceText = false ∧
        sourceValue (keptField g c f) = .transform f.name rule.converter) ∨
      ((keptField g c f).kind ≠ .custom ∧ (keptField g c f).coerceText = true ∧
        sourceValue (keptField g c f) = .transform f.name "to_text") ∨
      ((keptField g c f).kind ≠ .custom ∧ (keptField g c f).coerceText = false ∧
        sourceValue (keptField g c f) = .copy f.name) := by
  cases hrule : g.lookup f.typeName with
  | some rule =>
      rw [keptField_of_rule hrule]
      exact .inl ⟨rule, rfl, rfl, rfl⟩
  | none =>
      rw [keptField_of_none hrule]
      by_cases hpassword : isPassword c f = true
      · rw [if_pos hpassword]
        by_cases htype : f.typeName = "str"
        · exact .inr (.inr ⟨by simp, by simp [htype], by simp [sourceValue, htype]⟩)
        · exact .inr (.inl ⟨by simp, by simp [htype], by simp [sourceValue, htype]⟩)
      · rw [if_neg hpassword]
        exact .inr (.inr ⟨by simp, rfl, rfl⟩)

theorem transforms_iff (f : Declaration.Field) :
    (∃ source converter, sourceValue (keptField g c f) = .transform source converter) ↔
      (keptField g c f).kind = .custom ∨ (keptField g c f).coerceText = true := by
  obtain ⟨rule, hkind, hcoerce, hvalue⟩ | ⟨hkind, hcoerce, hvalue⟩ | ⟨hkind, hcoerce, hvalue⟩ :=
    sourceValue_keptField (g := g) (c := c) f
  all_goals simp [hkind, hcoerce, hvalue]

theorem transforms_toText_iff (f : Declaration.Field) :
    (∃ source, sourceValue (keptField g c f) = .transform source "to_text") ↔ (keptField g c f).coerceText = true := by
  obtain ⟨rule, hkind, hcoerce, hvalue⟩ | ⟨hkind, hcoerce, hvalue⟩ | ⟨hkind, hcoerce, hvalue⟩ :=
    sourceValue_keptField (g := g) (c := c) f
  all_goals simp [hcoerce, hvalue, converter_ne_toText]

theorem exists_keptField {d : Declaration.Record} {f : Domain.Field} (h : f ∈ (resolve g c d).fields) :
    ∃ e, keptField g c e = f := by
  rw [fields_resolve] at h
  obtain ⟨e, -, he⟩ := List.mem_map.1 h
  exact ⟨e, he⟩

theorem passes_iff {records : List Record} {variant : Variant} {shared : List String} {converter : String} :
    Passes records variant shared converter ↔
      ∃ r ∈ records, ∃ f ∈ r.fields, ∃ source, sourceValue f = .transform source converter := by
  simp only [Passes, innermost_fieldOf]

theorem exists_passes_iff {decls : List Declaration.Record} {variant : Variant} {shared : List String} :
    (∃ converter, Passes (decls.map (resolve g c)) variant shared converter) ↔
      ∃ r ∈ decls.map (resolve g c), ∃ f ∈ r.fields, f.kind = .custom ∨ f.coerceText = true := by
  simp only [passes_iff]
  constructor
  · rintro ⟨converter, r, hr, f, hf, source, hvalue⟩
    obtain ⟨d, -, rfl⟩ := List.mem_map.1 hr
    obtain ⟨e, rfl⟩ := exists_keptField hf
    exact ⟨_, hr, _, hf, (transforms_iff e).1 ⟨source, converter, hvalue⟩⟩
  · rintro ⟨r, hr, f, hf, h⟩
    obtain ⟨d, -, rfl⟩ := List.mem_map.1 hr
    obtain ⟨e, rfl⟩ := exists_keptField hf
    obtain ⟨source, converter, hvalue⟩ := (transforms_iff e).2 h
    exact ⟨converter, _, hr, _, hf, source, hvalue⟩

theorem passes_toText_iff {decls : List Declaration.Record} {variant : Variant} {shared : List String} :
    Passes (decls.map (resolve g c)) variant shared "to_text" ↔
      ∃ r ∈ decls.map (resolve g c), ∃ f ∈ r.fields, f.coerceText = true := by
  rw [passes_iff]
  refine exists_congr fun r => and_congr_right fun hr => exists_congr fun f => and_congr_right fun hf => ?_
  obtain ⟨d, -, rfl⟩ := List.mem_map.1 hr
  obtain ⟨e, rfl⟩ := exists_keptField hf
  exact transforms_toText_iff e

theorem libraryNames_pairwise (records : List Record) : (libraryNames records).Pairwise (· < ·) := by
  rw [libraryNames]
  cases records.any Record.hasCoercions <;> cases records.any (fun r => r.hasTransforms || r.hasCoercions) <;> decide

/-- A name of letters, digits and underscores of ASCII that does not start with a digit. -/
structure IsAsciiName (s : String) : Prop where
  ne_empty : s ≠ ""
  chars : ∀ char ∈ s.toList, char.isAlphanum = true ∨ char = '_'
  head : ∀ char ∈ s.toList.head?, char.isDigit = false

theorem isAsciiNameRest_iff {char : Char} :
    Naming.isAsciiNameRest char = true ↔ char.isAlphanum = true ∨ char = '_' := by
  simp [Naming.isAsciiNameRest]

theorem qualifierRoot_eq_iff {typeName root : String} (hroot : root ≠ "") :
    Naming.qualifierRoot typeName = root ↔ IsAsciiName root ∧ ∃ rest, typeName = root ++ "." ++ rest := by
  rw [Naming.qualifierRoot]
  constructor
  · intro h
    split at h
    case h_1 first more after hroot' hafter =>
      split at h
      case isTrue => exact absurd h.symm hroot
      case isFalse hdigit =>
        subst h
        refine ⟨⟨hroot, fun char hchar => ?_, by simpa [hroot'] using hdigit⟩, String.ofList after, ?_⟩
        · rw [String.toList_ofList] at hchar
          exact isAsciiNameRest_iff.1 (List.mem_takeWhile_imp hchar)
        · have hsplit := List.takeWhile_append_dropWhile (p := Naming.isAsciiNameRest) (l := typeName.toList)
          rw [hafter] at hsplit
          rw [← String.toList_inj]
          simpa using hsplit.symm
    case h_2 => exact absurd h.symm hroot
  · rintro ⟨hname, rest, rfl⟩
    have hchars : ∀ char ∈ root.toList, Naming.isAsciiNameRest char = true :=
      fun char hchar => isAsciiNameRest_iff.2 (hname.chars char hchar)
    -- The dot is no character of a name, so both scans stop right before it.
    have hlist : (root ++ "." ++ rest).toList = root.toList ++ '.' :: rest.toList := by simp
    have htake : (root ++ "." ++ rest).toList.takeWhile Naming.isAsciiNameRest = root.toList := by
      rw [hlist, List.takeWhile_append_of_pos hchars, List.takeWhile_cons_of_neg (by decide), List.append_nil]
    have hdrop : (root ++ "." ++ rest).toList.dropWhile Naming.isAsciiNameRest = '.' :: rest.toList := by
      rw [hlist, List.dropWhile_append_of_pos hchars, List.dropWhile_cons_of_neg (by decide)]
    rw [htake, hdrop]
    cases hcs : root.toList with
    | nil => exact absurd (String.toList_eq_nil_iff.1 hcs) hroot
    | cons first more =>
        have hdigit := hname.head first (by simp [hcs])
        have hback : String.ofList (first :: more) = root := by rw [← hcs, String.ofList_toList]
        simp [hdigit, hback]

/-- The lines that a domain field needs: the one that imports what converts it, and the one that imports the module its
type stands in. -/
def Needs (f : Domain.Field) (line : String) : Prop :=
  f.kind = .custom ∧
    ((∃ rule path, f.rule = some rule ∧ rule.capability = some path ∧ path ≠ "" ∧ line = Naming.importLine path) ∨
      ∃ root rest, IsAsciiName root ∧ f.typeName = root ++ "." ++ rest ∧ line = "import " ++ root)

theorem typeImport?_eq_some_iff {f : Domain.Field} {line : String} :
    typeImport? f = some line ↔
      f.kind = .custom ∧ ∃ root rest, IsAsciiName root ∧ f.typeName = root ++ "." ++ rest ∧
        line = "import " ++ root := by
  rw [typeImport?, Option.ite_none_right_eq_some]
  simp only [Bool.and_eq_true, decide_eq_true_eq, Option.some.injEq, and_assoc]
  refine and_congr_right fun _ => ⟨?_, ?_⟩
  · rintro ⟨hroot, rfl⟩
    obtain ⟨hname, rest, htype⟩ := (qualifierRoot_eq_iff hroot).1 rfl
    exact ⟨_, rest, hname, htype, rfl⟩
  · rintro ⟨root, rest, hname, htype, rfl⟩
    have hroot := (qualifierRoot_eq_iff hname.ne_empty).2 ⟨hname, rest, htype⟩
    rw [hroot]
    exact ⟨hname.ne_empty, rfl⟩

theorem mem_recordImports_resolve {d : Declaration.Record} {line : String} :
    line ∈ recordImports (resolve g c d) ↔ ∃ f ∈ (resolve g c d).fields, Needs f line := by
  rw [recordImports, List.mem_append, List.mem_map, List.mem_filterMap]
  simp only [mem_capabilities_iff, typeImport?_eq_some_iff, Needs]
  constructor
  · rintro (⟨path, ⟨hpath, f, hf, hkind, rule, hrule, hcapability⟩, rfl⟩ | ⟨f, hf, hkind, htype⟩)
    · exact ⟨f, hf, hkind, .inl ⟨rule, path, hrule, hcapability, hpath, rfl⟩⟩
    · exact ⟨f, hf, hkind, .inr htype⟩
  · rintro ⟨f, hf, hkind, ⟨rule, path, hrule, hcapability, hpath, rfl⟩ | htype⟩
    · exact .inl ⟨path, ⟨hpath, f, hf, hkind, rule, hrule, hcapability⟩, rfl⟩
    · exact .inr ⟨f, hf, hkind, htype⟩

/-- The imports of a module stand in order, each once. The line of the library names `transform_field` exactly if some
field is printed with a call of it, and `to_text` exactly if some call passes it. All other lines are there for the
class decorator, for wrappers, for the declarations or for what a field of some record needs. -/
theorem importsOf_match_uses (m : Declaration.Module) (decls : List Declaration.Record) (g : Registry) (c : Conventions)
    (variant : Variant) (shared : List String) :
    (importsOf m (decls.map (resolve g c)) variant).Pairwise (· < ·) ∧
      (libraryNames (decls.map (resolve g c))).Pairwise (· < ·) ∧
      (∀ name, name ∈ libraryNames (decls.map (resolve g c)) ↔
        name ∈ ["ConversionError", "StructValidationError", "validate_struct"] ∨
          (name = "transform_field" ∧ ∃ converter, Passes (decls.map (resolve g c)) variant shared converter) ∨
            (name = "to_text" ∧ Passes (decls.map (resolve g c)) variant shared "to_text")) ∧
      ∀ line, line ∈ importsOf m (decls.map (resolve g c)) variant ↔
        line = fromLine "dataclasses" ["dataclass"] ∨
          line = fromLine "validgen.runtime" (libraryNames (decls.map (resolve g c))) ∨
            (variant = .newtype ∧ line = fromLine "typing" ["NewType"]) ∨
              (decls ≠ [] ∧ line = fromLine m.name (decls.map Declaration.Record.name)) ∨
                (∃ d ∈ decls, ∃ f ∈ (resolve g c d).fields, Needs f line) ∨ line ∈ m.imports := by
  refine ⟨importsOf_pairwise m _ variant, libraryNames_pairwise _, fun name => ?_, fun line => ?_⟩
  · rw [mem_libraryNames, exists_passes_iff, passes_toText_iff]
  · have hinputs : (decls.map (resolve g c)).map Record.inputName = decls.map Declaration.Record.name := by
      rw [List.map_map]
      rfl
    rw [mem_importsOf, mem_ownImports, hinputs]
    simp only [ne_eq, List.map_eq_nil_iff, List.mem_map, exists_exists_and_eq_and, mem_recordImports_resolve, or_assoc]

def orderForm : Declaration.Module where
  name := "shop_forms"
  records := [{ name := "OrderInput", fields := [{ name := "cents", typeName := "money.Cents" }] }]
  imports := ["from shop import money"]

def shopRules : Registry := ⟨[⟨"money.Cents", "amount", "données.Montant", some "shop.money"⟩]⟩

/-- The module of a type is not imported if its name is not one of ASCII. -/
theorem dotted_type_may_lack_import :
    (∃ d ∈ orderForm.records, ∃ f ∈ (resolve shopRules {} d).fields,
        f.kind = .custom ∧ f.typeName = "données" ++ "." ++ "Montant") ∧
      "import données" ∉ importsOf orderForm (orderForm.records.map (resolve shopRules {})) .direct := by
  refine ⟨⟨_, List.mem_singleton_self _, _, List.mem_singleton_self _, rfl, by decide⟩, ?_⟩
  rw [mem_importsOf]
  decide

end Vetted.Proofs.NeededImports
