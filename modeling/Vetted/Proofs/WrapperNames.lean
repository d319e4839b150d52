import Vetted.Proofs.GeneratedProgram
import Vetted.Proofs.NameTables
import Vetted.Proofs.RegistryOrder
import Vetted.Proofs.Resolution
import Vetted.Proofs.SettingsReading
import Vetted.Proofs.TextPieces

namespace Vetted.Proofs.WrapperNames

open Text Naming NameTables Resolution Sequence SettingsReading TextPieces
open GeneratedProgram (mem_usedWrappers_newtype wrappersOf_eq_ok)
open RegistryOrder (lookup_of_merge)

variable {name scope : String} {c : Char} {cs : List Char}

theorem isName_iff (hname : name.toList = c :: cs) :
    isName name = true ↔ isNameStart c = true ∧ ∀ d ∈ cs, isNameRest d = true := by
  simp [isName, hname]

theorem exists_start_of_isName (h : isName name = true) : ∃ c cs, name.toList = c :: cs ∧ isNameStart c = true := by
  cases hname : name.toList with
  | nil => simp [isName, hname] at h
  | cons c cs => exact ⟨c, cs, rfl, ((isName_iff hname).1 h).1⟩

theorem isNameRest_of_mem (h : isName name = true) (hc : c ∈ name.toList) : isNameRest c = true := by
  obtain ⟨d, ds, hname, hstart⟩ := exists_start_of_isName h
  rw [hname, List.mem_cons] at hc
  rcases hc with rfl | hc
  · exact isNameRest_of_isNameStart hstart
  · exact ((isName_iff hname).1 h).2 c hc

theorem isNameRest_pascalChars (h : ∀ c ∈ cs, isNameRest c = true) (hc : c ∈ pascalChars cs) : isNameRest c = true := by
  obtain ⟨piece, hpiece, hmem⟩ := List.mem_flatMap.1 hc
  cases piece with
  | nil => simp [capitalise] at hmem
  | cons d ds =>
      rw [capitalise, List.mem_append] at hmem
      rcases hmem with hmem | hmem
      · exact (isCapital_upperChar d).rest (h d (mem_of_mem_pieces hpiece List.mem_cons_self)) c hmem
      · exact h c (mem_of_mem_pieces hpiece (List.mem_cons_of_mem d hmem))

theorem pascalChars_mark (cs : List Char) : pascalChars ('_' :: cs) = pascalChars cs := by
  simp [pascalChars, pieces, capitalise]

theorem pascalChars_cons (hc : c ≠ '_') (cs : List Char) : ∃ rest, pascalChars (c :: cs) = upperChar c ++ rest := by
  rw [pascalChars, pieces, if_neg hc]
  cases pieces '_' cs with
  | nil => exact ⟨[], by simp [capitalise]⟩
  | cons p ps => exact ⟨p ++ ps.flatMap capitalise, by simp [capitalise]⟩

theorem pascalChars_opening (cs : List Char) :
    match cs.find? (· ≠ '_') with
    | none => pascalChars cs = []
    | some c => ∃ rest, pascalChars cs = upperChar c ++ rest := by
  induction cs with
  | nil => rfl
  | cons c cs ih =>
      by_cases hc : c = '_'
      · rw [hc, List.find?_cons_of_neg (by simp), pascalChars_mark]
        exact ih
      · rw [List.find?_cons_of_pos (by simpa using hc)]
        exact pascalChars_cons hc cs

theorem toList_wrapperName (name scope : String) :
    (wrapperName name scope).toList = scope.toList ++ pascalChars name.toList ++ "Valid".toList := by
  simp [wrapperName, pascalCase]

theorem isKeyword_wrapperName (name scope : String) : isKeyword (wrapperName name scope) = false := by
  have hfree : ∀ k ∈ keywords, 'V' ∉ k.toList := by decide +kernel
  rw [isKeyword, List.contains_eq_mem, decide_eq_false_iff_not]
  intro hmem
  apply hfree _ hmem
  rw [toList_wrapperName]
  simp

/-- The first character that is no underscore, if there is one, can open a name once it is a capital. -/
def OpensName (name : String) : Prop :=
  ∀ c, name.toList.find? (· ≠ '_') = some c → isNameStart c = true ∨ c = iotaBelow

theorem opensName_of_public (hname : isName name = true) (hpublic : Declaration.isHidden name = false) :
    OpensName name := by
  obtain ⟨d, ds, hchars, hstart⟩ := exists_start_of_isName hname
  have hd : d ≠ '_' := by
    rintro rfl
    simp [Declaration.isHidden, startsWith, hchars] at hpublic
  intro c hc
  rw [hchars, List.find?_cons_of_pos (by simpa using hd), Option.some.injEq] at hc
  exact .inl (hc ▸ hstart)

theorem isNameRest_wrapperName (hname : isName name = true) (hscope : scope = "" ∨ isName scope = true)
    (hc : c ∈ (wrapperName name scope).toList) : isNameRest c = true := by
  rw [toList_wrapperName, List.mem_append, List.mem_append] at hc
  rcases hc with (hc | hc) | hc
  · rcases hscope with rfl | hscope
    · simp at hc
    · exact isNameRest_of_mem hscope hc
  · exact isNameRest_pascalChars (fun d => isNameRest_of_mem hname) hc
  · have hvalid : "Valid".toList.all isNameRest = true := by decide +kernel
    exact List.all_eq_true.1 hvalid c hc

theorem toList_wrapperName_bare (name : String) :
    ∃ d ds, (wrapperName name).toList = d :: ds ∧ (isNameStart d = true ↔ OpensName name) := by
  rw [toList_wrapperName, OpensName]
  have hopening := pascalChars_opening name.toList
  cases hfind : name.toList.find? (· ≠ '_') with
  | none =>
      simp only [hfind] at hopening
      rw [hopening]
      have hstart : isNameStart 'V' = true := by decide +kernel
      exact ⟨'V', "alid".toList, by decide +kernel, by simp [hstart]⟩
  | some c =>
      simp only [hfind] at hopening
      obtain ⟨rest, hrest⟩ := hopening
      obtain ⟨d, ds, hcapital, hstart⟩ := (isCapital_upperChar c).opens
      refine ⟨d, ds ++ rest ++ "Valid".toList, ?_, ?_⟩
      · rw [hrest, hcapital]
        simp
      · simp [hstart]

theorem isIdentifier_wrapperName_iff (hname : isName name = true) (hscope : scope = "" ∨ isName scope = true) :
    isIdentifier (wrapperName name scope) = true ↔ scope ≠ "" ∨ OpensName name := by
  have hrest : ∀ {d ds}, (wrapperName name scope).toList = d :: ds → ∀ e ∈ ds, isNameRest e = true := by
    intro d ds hchars e he
    exact isNameRest_wrapperName hname hscope (hchars ▸ List.mem_cons_of_mem d he)
  rw [isIdentifier, isKeyword_wrapperName, Bool.not_false, Bool.and_true]
  by_cases hempty : scope = ""
  · subst hempty
    obtain ⟨d, ds, hchars, hstart⟩ := toList_wrapperName_bare name
    rw [isName_iff hchars, hstart, and_iff_left (hrest hchars)]
    simp
  · obtain ⟨d, ds, hchars, hstart⟩ := exists_start_of_isName (hscope.resolve_left hempty)
    have hwhole : (wrapperName name scope).toList = d :: (ds ++ pascalChars name.toList ++ "Valid".toList) := by
      rw [toList_wrapperName, hchars]
      rfl
    rw [isName_iff hwhole]
    exact iff_of_true ⟨hstart, hrest hwhole⟩ (.inl hempty)

/-- A name that the program takes for a domain field: that of a public field, or one that the settings allow. -/
def Taken (name : String) : Prop :=
  (isName name = true ∧ Declaration.isHidden name = false) ∨ isIdentifier name = true

theorem Taken.isName (h : Taken name) : isName name = true := by
  rcases h with h | h
  · exact h.1
  · exact (Bool.and_eq_true_iff.1 h).1

section

variable {v : Value} {s : Settings} {g : Registry} {rule : TransformRule} {t : String}

structure NamesFields (s : Settings) : Prop where
  targets : ∀ rule ∈ s.rules, isIdentifier rule.targetField = true
  password : ∀ name, s.passwordDomain = some name → isIdentifier name = true

theorem namesFields_of_parse {file : Option String} (h : Settings.parse v file = .ok s) : NamesFields s := by
  obtain ⟨entries, hread⟩ := readFrom_of_parse h
  constructor
  · intro rule hrule
    have hrules := stable_ruleFrom.items.of_given (by simp) hread.rules
    exact (hrules rule hrule).targetField.2
  · exact (stable_name.optional (by simp)).of_given (by simp) hread.passwordDomain

theorem isIdentifier_of_standard (h : Registry.standard.lookup t = some rule) :
    isIdentifier rule.targetField = true := by
  have hall : ∀ rule ∈ Registry.standard.rules, isIdentifier rule.targetField = true := by decide +kernel
  exact hall rule (standard_lookup h).1

theorem NamesFields.lookup (hs : NamesFields s) (hg : s.registry = .ok g) (h : g.lookup t = some rule) :
    isIdentifier rule.targetField = true := by
  unfold Settings.registry at hg
  split at hg
  · obtain rfl := Except.ok.inj hg
    exact isIdentifier_of_standard h
  · rw [lookup_of_merge hg, Option.or_eq_some_iff] at h
    rcases h with h | ⟨-, h⟩
    · exact hs.targets rule (List.mem_of_find?_eq_some h)
    · exact isIdentifier_of_standard h

theorem NamesFields.passwordName (hs : NamesFields s) {d : Declaration.Field} (hd : Taken d.name) :
    Taken (Domain.passwordName s.conventions d) := by
  rw [Domain.passwordName]
  split
  · rename_i name hname
    split
    · exact hd
    · exact .inr (hs.password name hname)
  · exact hd

theorem NamesFields.resolve (hs : NamesFields s) (hg : s.registry = .ok g) {r : Declaration.Record}
    (hr : ∀ d ∈ r.fields, Taken d.name) {f : Domain.Field} (hf : f ∈ (Domain.resolve g s.conventions r).fields) :
    Taken f.name := by
  rw [fields_resolve] at hf
  obtain ⟨d, hd, rfl⟩ := List.mem_map.1 hf
  have htaken := hr d (List.mem_of_mem_filter hd)
  cases hrule : g.lookup d.typeName with
  | some rule =>
      rw [keptField_of_rule hrule]
      exact .inr (hs.lookup hg hrule)
  | none =>
      rw [keptField_of_none hrule]
      split
      · exact hs.passwordName htaken
      · exact htaken

end

/-- Records as they are declared: their names are names, and so are those of their public fields. -/
def Declared (r : Declaration.Record) : Prop :=
  isName r.name = true ∧ ∀ d ∈ r.fields, isName d.name = true ∧ Declaration.isHidden d.name = false

theorem scopeOf_resolve {g : Registry} {c : Conventions} {r : Declaration.Record} (hr : isName r.name = true)
    (shared : List String) (f : Domain.Field) :
    Generated.scopeOf (Domain.resolve g c r) shared f = "" ∨
      isName (Generated.scopeOf (Domain.resolve g c r) shared f) = true := by
  rw [Generated.scopeOf]
  split
  · exact .inr hr
  · exact .inl rfl

/-- A wrapper of a taken name is legally named exactly if it has a scope or its field's name has an opening behind its
underscores, as that of every public field does; and every wrapper of the newtype variant is that of a taken name, with
a record's name or nothing for its scope. -/
theorem wrapper_name_legal (name scope : String) :
    (Taken name → (scope = "" ∨ isName scope = true) →
      (isIdentifier (wrapperName name scope) = true ↔ scope ≠ "" ∨ OpensName name) ∧
      (Declaration.isHidden name = false → isIdentifier (wrapperName name scope) = true)) ∧
    ∀ (v : Value) file s g (rs : List Declaration.Record) shared wrappers, Settings.parse v file = .ok s →
      s.registry = .ok g → (∀ r ∈ rs, Declared r) →
      Generated.wrappersOf (rs.map (Domain.resolve g s.conventions)) .newtype shared = .ok wrappers →
      ∀ w ∈ wrappers, ∃ field front, w.name = wrapperName field front ∧ Taken field ∧
        (front = "" ∨ isName front = true) := by
  constructor
  · intro hname hscope
    have hiff := isIdentifier_wrapperName_iff hname.isName hscope
    exact ⟨hiff, fun hpublic => hiff.2 (.inr (opensName_of_public hname.isName hpublic))⟩
  · intro v file s g rs shared wrappers hparse hg hrs hwrappers w hw
    obtain ⟨_, hrecord, hused⟩ := ((wrappersOf_eq_ok hwrappers).2 w).1 hw
    obtain ⟨r, hr, rfl⟩ := List.mem_map.1 hrecord
    obtain ⟨f, hf, rfl⟩ := mem_usedWrappers_newtype.1 hused
    have hdeclared : ∀ d ∈ r.fields, Taken d.name := fun d hd => .inl ((hrs r hr).2 d hd)
    exact ⟨f.name, _, rfl, (namesFields_of_parse hparse).resolve hg hdeclared hf, scopeOf_resolve (hrs r hr).1 shared f⟩

def markedValue : Value :=
  .dict [(.text "input_files", .list [.text "a.py"]),
    (.text "transform_rules", .list [.dict [(.text "source_type_name", .text "money.Cents"),
      (.text "target_field_name", .text "_1"), (.text "target_field_type", .text "int")]])]

def markedSettings : Settings where
  inputFiles := ["a.py"]
  rules := [⟨"money.Cents", "_1", "int", none⟩]

def markedRegistry : Registry := ⟨Registry.standard.rules ++ [⟨"money.Cents", "_1", "int", none⟩]⟩

def orderRecord : Declaration.Record where
  name := "OrderInput"
  fields := [{ name := "total", typeName := "money.Cents" }]

def orderRecords : List Domain.Record := [orderRecord].map (Domain.resolve markedRegistry markedSettings.conventions)

theorem parse_marked : Settings.parse markedValue = .ok markedSettings := by
  apply toOption_eq_some_iff.1
  decide +kernel

theorem registry_marked : markedSettings.registry = .ok markedRegistry := by
  apply toOption_eq_some_iff.1
  decide +kernel

theorem declared_order : Declared orderRecord := by
  unfold Declared
  decide +kernel

theorem wrappersOf_order :
    Generated.wrappersOf orderRecords .newtype (Generated.scopedNames orderRecords) = .ok [⟨"1Valid", "int"⟩] := by
  apply toOption_eq_some_iff.1
  decide +kernel

theorem taken_mark : Taken "_1" := by
  unfold Taken
  decide +kernel

/-- A digit behind an underscore is legal with a scope and not without one, and settings may ask for it. -/
theorem marked_wrapper_name :
    Taken "_1" ∧ isIdentifier (wrapperName "_1" "OrderInput") = true ∧ isIdentifier (wrapperName "_1") = false ∧
      ∃ field front, "1Valid" = wrapperName field front ∧ Taken field ∧ (front = "" ∨ isName front = true) := by
  have hscoped := ((wrapper_name_legal "_1" "OrderInput").1 taken_mark (.inr (by decide +kernel))).1
  obtain ⟨hbare, hruns⟩ := wrapper_name_legal "_1" ""
  have hdigit : ¬OpensName "_1" := by
    intro h
    exact absurd (h '1' (by decide +kernel)) (by decide +kernel)
  refine ⟨taken_mark, hscoped.2 (.inl (by decide)), ?_, ?_⟩
  · rw [← Bool.not_eq_true, (hbare taken_mark (.inl rfl)).1]
    simp [hdigit]
  · have hdeclared : ∀ r ∈ [orderRecord], Declared r := List.forall_mem_singleton.2 declared_order
    exact hruns markedValue none markedSettings markedRegistry [orderRecord] _ _ parse_marked registry_marked
      hdeclared wrappersOf_order ⟨"1Valid", "int"⟩ List.mem_cons_self

/-- Not every wrapper of a taken name is legally named, also where the settings of a run are accepted. -/
theorem wrapper_name_illegal :
    (¬∀ name scope, Taken name → (scope = "" ∨ isName scope = true) → isIdentifier (wrapperName name scope) = true) ∧
      ¬∀ v s g (rs : List Declaration.Record) records wrappers, Settings.parse v = .ok s → s.registry = .ok g →
        (∀ r ∈ rs, Declared r) → records = rs.map (Domain.resolve g s.conventions) →
        Generated.wrappersOf records .newtype (Generated.scopedNames records) = .ok wrappers →
        ∀ w ∈ wrappers, isIdentifier w.name = true := by
  constructor
  · intro h
    exact absurd (h "_1" "" taken_mark (.inl rfl)) (by decide +kernel)
  · intro h
    have hdeclared : ∀ r ∈ [orderRecord], Declared r := List.forall_mem_singleton.2 declared_order
    have hlegal := h markedValue markedSettings markedRegistry [orderRecord] orderRecords _ parse_marked registry_marked
      hdeclared rfl wrappersOf_order ⟨"1Valid", "int"⟩ List.mem_cons_self
    exact absurd hlegal (by decide +kernel)

end Vetted.Proofs.WrapperNames
