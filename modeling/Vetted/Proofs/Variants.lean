import Vetted.Generated.Loading
import Vetted.Proofs.ConversionMeaning

namespace Vetted.Proofs.Variants

open Domain Generated Source GeneratedProgram GeneratedNames DefinedNames ImportOrder ImportText Resolution Sequence

variable {m : Declaration.Module} {records : List Record} {shared : List String} {texts : Texts}

/-- A field with a wrapper type of its own around the type and the value of another. -/
structure Wraps (wrapped direct : Generated.Field) : Prop where
  name : wrapped.name = direct.name
  comment : wrapped.comment = direct.comment
  wrapper : ∃ w, wrapped.wrapper = some w ∧ wrapped.typing = w.name ∧ w.base = direct.typing ∧
    wrapped.value.text = w.name ++ "(" ++ direct.value.text ++ ")"

theorem fieldsOf_direct {r : Record} {wrapped : List Generated.Field} (h : fieldsOf r .newtype shared = .ok wrapped) :
    ∃ direct, fieldsOf r .direct shared = .ok direct ∧ List.Forall₂ Wraps wrapped direct := by
  obtain ⟨rfl, hnodup⟩ := fieldsOf_eq_ok_iff.1 h
  refine ⟨_, fieldsOf_eq_ok_iff.2 ⟨rfl, hnodup⟩, ?_⟩
  rw [List.forall₂_map_left_iff, List.forall₂_map_right_iff, List.forall₂_same]
  exact fun f _ => ⟨rfl, rfl, _, rfl, rfl, rfl, rfl⟩

theorem lookup_isSome_iff {β : Type} {entries : List (String × β)} {name : String} :
    (entries.lookup name).isSome = true ↔ name ∈ entries.map Prod.fst := by
  rw [Option.isSome_iff_ne_none, ne_eq, List.lookup_eq_none_iff]
  simp

/-- Whether a template can be filled depends on the names of the variables only. -/
theorem fill_of_keys {scope other : Variables} (hkeys : other.map Prod.fst = scope.map Prod.fst) {pieces : List Piece}
    {s : String} (h : Template.fill scope pieces = .ok s) : ∃ t, Template.fill other pieces = .ok t := by
  induction pieces generalizing s with
  | nil => exact ⟨"", rfl⟩
  | cons piece rest ih =>
      cases piece with
      | text front =>
          obtain ⟨filled, hfilled, -⟩ := bind_eq_ok_iff.1 h
          obtain ⟨t, ht⟩ := ih hfilled
          exact ⟨front ++ t, bind_eq_ok_iff.2 ⟨t, ht, rfl⟩⟩
      | slot name =>
          rw [Template.fill] at h
          split at h
          case h_1 value hvalue =>
              obtain ⟨filled, hfilled, -⟩ := bind_eq_ok_iff.1 h
              obtain ⟨t, ht⟩ := ih hfilled
              have hknown : (other.lookup name).isSome = true := by
                rw [lookup_isSome_iff, hkeys, ← lookup_isSome_iff, hvalue]
                rfl
              obtain ⟨value', hvalue'⟩ := Option.isSome_iff_exists.1 hknown
              refine ⟨value' ++ t, ?_⟩
              rw [Template.fill, hvalue']
              exact bind_eq_ok_iff.2 ⟨t, ht, rfl⟩
          case h_2 => cases h

theorem fillNamed_of_keys {templates : List (String × String)} {name : String} {scope other : Variables}
    {record : Option String} (hkeys : other.map Prod.fst = scope.map Prod.fst) {s : String}
    (h : Texts.fillNamed templates name scope record = .ok s) :
    ∃ t, Texts.fillNamed templates name other record = .ok t := by
  rw [Texts.fillNamed] at h
  split at h
  · cases h
  · rename_i text htext
    split at h
    · rename_i filled hfilled
      obtain ⟨t, ht⟩ := fill_of_keys hkeys hfilled
      exact ⟨t, by rw [Texts.fillNamed, htext]; simp only [ht]⟩
    · cases h

theorem record_text_of {r : Record} {fields : List Generated.Field} {s : String}
    (h : texts.record r fields [] false = .ok s) (others : List Generated.Field) :
    ∃ t, texts.record r others [] false = .ok t := by
  cases texts with
  | standard => exact ⟨_, rfl⟩
  | custom templates => exact fillNamed_of_keys (by rfl) h

theorem module_text_of {imports bodies : List String} {wrappers : List Wrapper} {s : String}
    (h : texts.module m imports wrappers bodies = .ok s) (imports' bodies' : List String) :
    ∃ t, texts.module m imports' [] bodies' = .ok t := by
  cases texts with
  | standard => exact ⟨_, rfl⟩
  | custom templates => exact fillNamed_of_keys (by rfl) h

theorem emitModule_eq_ok {variant : Variant} {code : String} (h : emitModule m records variant texts = .ok code) :
    ∃ p, program m records variant = .ok p ∧ (texts = .standard → p.text m = code) := by
  have hemit := h
  simp only [emitModule, bind_eq_ok_iff] at hemit
  obtain ⟨bodies, hbodies, wrappers, hwrappers, -⟩ := hemit
  have hroutines : ∀ r ∈ records, ∃ t, Routine.make variant (scopedNames records) r = .ok t := by
    intro r hr
    obtain ⟨body, -, hbody⟩ := exists_ok_of_mem hbodies hr
    obtain ⟨fields, hfields, -⟩ := bind_eq_ok_iff.1 hbody
    exact ⟨⟨r, fields⟩, make_eq_ok_iff.2 ⟨rfl, hfields⟩⟩
  obtain ⟨routines, hmade⟩ := exists_forall₂_iff.2 hroutines
  have hp : program m records variant = .ok ⟨importsOf m records variant, wrappers, routines⟩ :=
    program_eq_ok_iff.2 ⟨rfl, hwrappers, mapM_eq_ok_iff.2 hmade⟩
  refine ⟨_, hp, ?_⟩
  rintro rfl
  rw [emitModule_eq, hp] at h
  exact Except.ok.inj h

theorem emitModule_direct {code : String} (h : emitModule m records .newtype texts = .ok code) :
    ∃ direct, emitModule m records .direct texts = .ok direct := by
  simp only [emitModule, bind_eq_ok_iff] at h ⊢
  obtain ⟨bodies, hbodies, wrappers, -, hmodule⟩ := h
  have hfields : ∀ r ∈ records, ∃ fields, fieldsOf r .direct (scopedNames records) = .ok fields := by
    intro r hr
    obtain ⟨body, -, hbody⟩ := exists_ok_of_mem hbodies hr
    obtain ⟨wrapped, hwrapped, -⟩ := bind_eq_ok_iff.1 hbody
    obtain ⟨direct, hdirect, -⟩ := fieldsOf_direct hwrapped
    exact ⟨direct, hdirect⟩
  have hrecords : ∀ r ∈ records, ∃ body, emitRecord .direct texts (scopedNames records) r = .ok body := by
    intro r hr
    obtain ⟨body, -, hbody⟩ := exists_ok_of_mem hbodies hr
    obtain ⟨wrapped, -, htext⟩ := bind_eq_ok_iff.1 hbody
    obtain ⟨direct, hdirect⟩ := hfields r hr
    obtain ⟨text, htext⟩ := record_text_of htext direct
    exact ⟨text, bind_eq_ok_iff.2 ⟨direct, hdirect, htext⟩⟩
  obtain ⟨directBodies, hdirectBodies⟩ := exists_forall₂_iff.2 hrecords
  obtain ⟨text, htext⟩ := module_text_of hmodule (importsOf m records .direct) directBodies
  exact ⟨text, directBodies, mapM_eq_ok_iff.2 hdirectBodies, [], collectWrappers_direct hfields, htext⟩

section Names

variable {exports : Exports} {p q : Program} {name : String}

def printed (variant : Variant) (shared : List String) (r : Record) : List Generated.Field :=
  r.fields.map fun f => fieldOf f (scopeOf r shared f) variant

theorem routines_eq {variant : Variant} (h : program m records variant = .ok p) :
    p.routines = records.map fun r => ⟨r, printed variant (scopedNames records) r⟩ := by
  have hself : p.routines.map (fun t => ⟨t.record, printed variant (scopedNames records) t.record⟩) = p.routines := by
    refine (List.map_congr_left fun t ht => ?_).trans (List.map_id _)
    obtain ⟨r, fields⟩ := t
    exact congrArg (Routine.mk r) (fields_of_routine h ht).symm
  calc
    p.routines = (p.routines.map Routine.record).map fun r => ⟨r, printed variant (scopedNames records) r⟩ := by
      rw [List.map_map]
      exact hself.symm
    _ = records.map fun r => ⟨r, printed variant (scopedNames records) r⟩ := by rw [routines_map_record h]

/-- The classes and functions that are made for some records. -/
def madeFor (variant : Variant) (shared : List String) (records : List Record) : List (String × Global) :=
  records.flatMap fun r =>
    [(r.name, .record r), (Naming.conversionName r.name, .routine ⟨r, printed variant shared r⟩)]

def wrapperEntries (p : Program) : List (String × Global) := p.wrappers.map fun w => (w.name, .wrapper w)

theorem lookup_eq {variant : Variant} (h : program m records variant = .ok p) :
    p.lookup exports name = ((madeFor variant (scopedNames records) records).reverse.lookup name).or
      (((wrapperEntries p).reverse.lookup name).or ((originAfter exports p.imports name).map .imported)) := by
  have hdefinitions : p.definitions = wrapperEntries p ++ madeFor variant (scopedNames records) records := by
    rw [Program.definitions, routines_eq h, List.flatMap_map]
    rfl
  rw [Program.lookup, hdefinitions, List.reverse_append, List.lookup_append, Option.or_assoc]

/-- What the variant with wrapper types makes where the other makes the given thing. -/
def retyped (shared : List String) : Global → Global
  | .routine t => .routine ⟨t.record, printed .newtype shared t.record⟩
  | other => other

theorem lookup_map_snd {β γ : Type} (entries : List (String × β)) (f : β → γ) :
    (entries.map fun e => (e.1, f e.2)).lookup name = (entries.lookup name).map f := by
  induction entries with
  | nil => rfl
  | cons e rest ih =>
      rw [List.map_cons, List.lookup_cons, List.lookup_cons, ih]
      split <;> rfl

theorem lookup_madeFor_newtype (shared : List String) (records : List Record) (name : String) :
    (madeFor .newtype shared records).reverse.lookup name =
      ((madeFor .direct shared records).reverse.lookup name).map (retyped shared) := by
  have hmade : madeFor .newtype shared records =
      (madeFor .direct shared records).map fun e => (e.1, retyped shared e.2) := by
    simp [madeFor, List.map_flatMap, retyped]
  rw [hmade, ← List.map_reverse, lookup_map_snd]

theorem lookup_madeFor_cases {variant : Variant} {g : Global}
    (h : (madeFor variant shared records).reverse.lookup name = some g) :
    ∃ r ∈ records, g = .record r ∨ g = .routine ⟨r, printed variant shared r⟩ := by
  have hmem := List.mem_reverse.1 (mem_of_lookup h)
  obtain ⟨r, hr, hentry⟩ := List.mem_flatMap.1 hmem
  refine ⟨r, hr, ?_⟩
  simp only [List.mem_cons, List.not_mem_nil, or_false, Prod.mk.injEq] at hentry
  exact hentry.imp And.right And.right

theorem endsWith_wrapperName (field scope : String) :
    Text.endsWith (Naming.wrapperName field scope) "Valid" = true := by
  rw [Text.endsWith, List.isSuffixOf_iff_suffix, Naming.wrapperName, String.toList_append]
  exact List.suffix_append _ _

theorem wrapper_name_of_mem (h : program m records .newtype = .ok q) {w : Wrapper} (hw : w ∈ q.wrappers) :
    Text.endsWith w.name "Valid" = true := by
  have hdeclared := ((wrappersOf_names (program_eq_ok_iff.1 h).2.1).2 w.name).1 (List.mem_map_of_mem hw)
  obtain ⟨r, -, hused⟩ := hdeclared
  obtain ⟨v, hv, hname⟩ := List.mem_map.1 hused
  obtain ⟨f, -, rfl⟩ := mem_usedWrappers_newtype.1 hv
  rw [← hname]
  exact endsWith_wrapperName _ _

/-- A name that no wrapper type has and that makes none. -/
def IsPlain (name : String) : Prop := Text.endsWith name "Valid" = false ∧ name ≠ "NewType"

instance (name : String) : Decidable (IsPlain name) := inferInstanceAs (Decidable (_ ∧ _))

theorem originAfter_typing (hname : name ≠ "NewType") :
    originAfter exports ["from typing import NewType"] name = none := by
  have hline : "from typing import NewType" = fromLine "typing" ["NewType"] := by decide
  have hword : IsWord "NewType" := ⟨by decide, by decide, by decide, by decide⟩
  rw [hline, originAfter_fromLine (by decide) (by simp) (by simpa using hword), if_neg (by simpa using hname)]

theorem mem_ownImports_newtype {line : String} :
    line ∈ ownImports m records .newtype ↔
      line = "from typing import NewType" ∨ line ∈ ownImports m records .direct := by
  simp only [ownImports, if_true, reduceCtorEq, if_false, List.mem_append, List.mem_cons, List.not_mem_nil, or_false]
  tauto

/-- The import that makes wrapper types gives a meaning to no other name. -/
theorem originAfter_newtype (hname : name ≠ "NewType") :
    originAfter exports (importsOf m records .newtype) name =
      originAfter exports (importsOf m records .direct) name := by
  have htyping : originAfter exports ["from typing import NewType"] name = none := originAfter_typing hname
  refine Option.ext fun o => ?_
  rw [originAfter_sorted (importsOf_pairwise _ _ _), originAfter_sorted (importsOf_pairwise _ _ _)]
  simp only [mem_importsOf, mem_ownImports_newtype]
  constructor
  · rintro ⟨line, hline, horigin, hgreatest⟩
    have hne : line ≠ "from typing import NewType" := by
      rintro rfl
      rw [htyping] at horigin
      cases horigin
    refine ⟨line, by tauto, horigin, fun other hother => hgreatest other (by tauto)⟩
  · rintro ⟨line, hline, horigin, hgreatest⟩
    refine ⟨line, by tauto, horigin, ?_⟩
    rintro other ((rfl | hother) | hother) hbinds
    · exact absurd htyping hbinds
    · exact hgreatest other (.inl hother) hbinds
    · exact hgreatest other (.inr hother) hbinds

theorem lookup_plain (hp : program m records .direct = .ok p) (hq : program m records .newtype = .ok q)
    (hname : IsPlain name) :
    q.lookup exports name = (p.lookup exports name).map (retyped (scopedNames records)) := by
  have hwrappers : (wrapperEntries q).reverse.lookup name = none := by
    refine Option.eq_none_iff_forall_ne_some.2 fun g hg => ?_
    obtain ⟨w, hw, hentry⟩ := List.mem_map.1 (List.mem_reverse.1 (mem_of_lookup hg))
    have hends := wrapper_name_of_mem hq hw
    rw [(Prod.mk.inj hentry).1, hname.1] at hends
    cases hends
  have hdirect : (wrapperEntries p).reverse.lookup name = none := by
    rw [wrapperEntries, wrappers_direct hp]
    rfl
  rw [lookup_eq hp, lookup_eq hq, hwrappers, hdirect, lookup_madeFor_newtype, (program_eq_ok_iff.1 hp).1,
    (program_eq_ok_iff.1 hq).1, originAfter_newtype hname.2, Option.none_or]
  cases (madeFor .direct (scopedNames records) records).reverse.lookup name with
  | some g => rfl
  | none => cases originAfter exports (importsOf m records .direct) name <;> rfl

theorem library?_plain (hp : program m records .direct = .ok p) (hq : program m records .newtype = .ok q)
    {expr : String}
    (hroot : ∀ root ∈ (dotted expr).head?, IsPlain root) : q.library? exports expr = p.library? exports expr := by
  rw [Program.library?, Program.library?]
  cases hpath : dotted expr with
  | nil => rfl
  | cons root rest =>
      simp only
      rw [lookup_plain hp hq (hroot root (by simp [hpath]))]
      cases p.lookup exports root with
      | none => rfl
      | some g => cases g <;> rfl

theorem isPlain_domainName (inputName : String) : IsPlain (inputName ++ "Validated") := by
  have hends : "Validated".toList <:+ (inputName ++ "Validated").toList := by
    rw [String.toList_append]
    exact List.suffix_append _ _
  refine ⟨?_, ?_⟩
  · -- Of two ends of one text the shorter is an end of the longer.
    rw [Text.endsWith, Bool.eq_false_iff, ne_eq, List.isSuffixOf_iff_suffix]
    intro hshort
    exact absurd (List.suffix_of_suffix_length_le hshort hends (by decide)) (by decide)
  · intro hname
    rw [hname] at hends
    exact absurd hends (by decide)

theorem wrapperName_ne_domainName (field scope inputName : String) :
    Naming.wrapperName field scope ≠ inputName ++ "Validated" := by
  intro h
  have hends := endsWith_wrapperName field scope
  rw [h, (isPlain_domainName inputName).1] at hends
  cases hends

theorem lookup_wrapper (exports : Exports) (hq : program m records .newtype = .ok q)
    (hclasses : ∀ r ∈ records, ∃ n, r.name = n ++ "Validated") {r : Record} (hr : r ∈ records) {f : Domain.Field}
    (hf : f ∈ r.fields) :
    ∃ w, q.lookup exports (Naming.wrapperName f.name (scopeOf r (scopedNames records) f)) = some (.wrapper w) := by
  have hmade : (madeFor .newtype (scopedNames records) records).reverse.lookup
      (Naming.wrapperName f.name (scopeOf r (scopedNames records) f)) = none := by
    refine Option.eq_none_iff_forall_ne_some.2 fun g hg => ?_
    obtain ⟨s, hs, hentry⟩ := List.mem_flatMap.1 (List.mem_reverse.1 (mem_of_lookup hg))
    simp only [List.mem_cons, List.not_mem_nil, or_false, Prod.mk.injEq] at hentry
    obtain ⟨hname, -⟩ | ⟨hname, -⟩ := hentry
    · obtain ⟨n, hn⟩ := hclasses s hs
      exact wrapperName_ne_domainName _ _ n (hname.trans hn)
    · exact wrapperName_ne_conversionName _ _ _ hname
  have hdeclared : Naming.wrapperName f.name (scopeOf r (scopedNames records) f) ∈ q.wrappers.map Wrapper.name := by
    refine ((wrappersOf_names (program_eq_ok_iff.1 hq).2.1).2 _).2 ⟨r, hr, ?_⟩
    exact List.mem_map.2 ⟨_, mem_usedWrappers_newtype.2 ⟨f, hf, rfl⟩, rfl⟩
  have hknown : ((wrapperEntries q).reverse.lookup
      (Naming.wrapperName f.name (scopeOf r (scopedNames records) f))).isSome = true := by
    rw [lookup_isSome_iff, List.map_reverse, List.mem_reverse, wrapperEntries, List.map_map]
    exact hdeclared
  obtain ⟨g, hg⟩ := Option.isSome_iff_exists.1 hknown
  obtain ⟨w, -, hentry⟩ := List.mem_map.1 (List.mem_reverse.1 (mem_of_lookup hg))
  refine ⟨w, ?_⟩
  rw [lookup_eq hq, hmade, hg, ← (Prod.mk.inj hentry).2]
  rfl

end Names

section Calls

variable {exports : Exports} {p q : Program} {c : Circumstances} {values : List (String × Value)}

/-- The converters that records call are found under plain names. -/
def PlainConverters (records : List Record) : Prop :=
  ∀ r ∈ records, ∀ f ∈ r.fields, ∀ rule ∈ f.rule, ∀ root ∈ (dotted rule.converter).head?, IsPlain root

theorem relyOn_plain (hp : program m records .direct = .ok p) (hq : program m records .newtype = .ok q) {name : String}
    {l : Library} (hroot : ∀ root ∈ (dotted name).head?, IsPlain root) :
    q.relyOn exports name l = p.relyOn exports name l := by
  rw [Program.relyOn, Program.relyOn, library?_plain hp hq hroot]

theorem eval_transform_plain (hp : program m records .direct = .ok p) (hq : program m records .newtype = .ok q)
    {source expr : String} (hroot : ∀ root ∈ (dotted expr).head?, IsPlain root) (inputType : String) :
    q.eval exports c inputType values (.transform source expr) =
      p.eval exports c inputType values (.transform source expr) := by
  rw [Program.eval, Program.eval, relyOn_plain hp hq (by decide), Program.converter, Program.converter,
    library?_plain hp hq hroot]

theorem eval_plain (hp : program m records .direct = .ok p) (hq : program m records .newtype = .ok q)
    (hconverters : PlainConverters records) {r : Record} (hr : r ∈ records) {f : Domain.Field} (hf : f ∈ r.fields)
    (inputType : String) :
    q.eval exports c inputType values (sourceValue f) = p.eval exports c inputType values (sourceValue f) := by
  rw [sourceValue]
  split
  case h_1 rule hkind hrule =>
      exact eval_transform_plain hp hq (hconverters r hr f hf rule hrule) inputType
  case h_2 =>
      split
      · exact eval_transform_plain hp hq (by decide) inputType
      · rfl

theorem fill_eq (hp : program m records .direct = .ok p) (hq : program m records .newtype = .ok q)
    (hclasses : ∀ r ∈ records, ∃ n, r.name = n ++ "Validated") (hconverters : PlainConverters records) {r : Record}
    (hr : r ∈ records) {f : Domain.Field} (hf : f ∈ r.fields) (inputType : String) :
    q.fill exports c inputType values (fieldOf f (scopeOf r (scopedNames records) f) .newtype) =
      p.fill exports c inputType values (fieldOf f (scopeOf r (scopedNames records) f) .direct) := by
  obtain ⟨w, hw⟩ := lookup_wrapper exports hq hclasses hr hf
  have hwrapped : q.eval exports c inputType values (fieldOf f (scopeOf r (scopedNames records) f) .newtype).value =
      q.eval exports c inputType values (sourceValue f) := by
    rw [fieldOf, Program.eval]
    simp only [hw]
  rw [Program.fill, Program.fill, hwrapped, eval_plain hp hq hconverters hr hf]
  rfl

theorem mapM_fill_eq (hp : program m records .direct = .ok p) (hq : program m records .newtype = .ok q)
    (hclasses : ∀ r ∈ records, ∃ n, r.name = n ++ "Validated") (hconverters : PlainConverters records) {r : Record}
    (hr : r ∈ records) (inputType : String) :
    (printed .newtype (scopedNames records) r).mapM (q.fill exports c inputType values) =
      (printed .direct (scopedNames records) r).mapM (p.fill exports c inputType values) := by
  rw [printed, printed, List.mapM_map, List.mapM_map]
  exact mapM_congr fun f hf => fill_eq hp hq hclasses hconverters hr hf inputType

theorem isPlain_names : ∀ name ∈ ["dataclass", "validate_struct", "StructValidationError", "ConversionError"],
    ∀ root ∈ (dotted name).head?, IsPlain root := by
  decide

theorem retyped_eq_record_iff {shared : List String} {g : Global} {r : Record} :
    retyped shared g = .record r ↔ g = .record r := by
  cases g <;> simp [retyped]

theorem run_eq (hp : program m records .direct = .ok p) (hq : program m records .newtype = .ok q)
    (hclasses : ∀ r ∈ records, ∃ n, r.name = n ++ "Validated") (hconverters : PlainConverters records) {r : Record}
    (hr : r ∈ records) (cls : InputClass) :
    q.run exports c cls values ⟨r, printed .newtype (scopedNames records) r⟩ =
      p.run exports c cls values ⟨r, printed .direct (scopedNames records) r⟩ := by
  have hclass : q.lookup exports r.name = some (.record r) ↔ p.lookup exports r.name = some (.record r) := by
    obtain ⟨n, hn⟩ := hclasses r hr
    rw [lookup_plain hp hq (hn ▸ isPlain_domainName n), Option.map_eq_some_iff]
    simp only [retyped_eq_record_iff, exists_eq_right]
  rw [Program.run, Program.run, relyOn_plain hp hq (isPlain_names _ (by simp)),
    relyOn_plain hp hq (isPlain_names _ (by simp)), relyOn_plain hp hq (isPlain_names _ (by simp)),
    relyOn_plain hp hq (isPlain_names _ (by simp)), mapM_fill_eq hp hq hclasses hconverters hr r.inputName]
  simp only [hclass]

theorem call_of_no_routine {variant : Variant} (h : program m records variant = .ok p) {name : String}
    (hmade : (madeFor variant (scopedNames records) records).reverse.lookup name = none) (cls : InputClass) :
    p.call exports c cls values name = .error (.foreign name) := by
  rw [Program.call, lookup_eq h, hmade, Option.none_or]
  cases hwrapper : (wrapperEntries p).reverse.lookup name with
  | none => cases originAfter exports p.imports name <;> rfl
  | some g =>
      obtain ⟨w, -, hentry⟩ := List.mem_map.1 (List.mem_reverse.1 (mem_of_lookup hwrapper))
      rw [← (Prod.mk.inj hentry).2]
      rfl

theorem call_eq (exports : Exports) (hp : program m records .direct = .ok p) (hq : program m records .newtype = .ok q)
    (hclasses : ∀ r ∈ records, ∃ n, r.name = n ++ "Validated") (hconverters : PlainConverters records)
    (c : Circumstances) (cls : InputClass) (values : List (String × Value)) (name : String) :
    q.call exports c cls values name = p.call exports c cls values name := by
  have hnewtype := lookup_madeFor_newtype (scopedNames records) records name
  cases hmade : (madeFor .direct (scopedNames records) records).reverse.lookup name with
  | none =>
      rw [hmade] at hnewtype
      rw [call_of_no_routine hp hmade, call_of_no_routine hq hnewtype]
  | some g =>
      rw [Program.call, Program.call, lookup_eq hp, lookup_eq hq, hnewtype, hmade]
      obtain ⟨r, hr, rfl | rfl⟩ := lookup_madeFor_cases hmade
      · rfl
      · simp only [Option.map_some, Option.some_or, retyped, run_eq hp hq hclasses hconverters hr]

theorem plainConverters_resolve {g : Registry} {c : Conventions} {decls : List Declaration.Record}
    (h : ∀ rule ∈ g.rules, ∀ root ∈ (dotted rule.converter).head?, IsPlain root) :
    PlainConverters (decls.map (resolve g c)) := by
  intro r hr f hf rule hrule
  obtain ⟨d, -, rfl⟩ := List.mem_map.1 hr
  rw [fields_resolve] at hf
  obtain ⟨e, -, rfl⟩ := List.mem_map.1 hf
  cases hlookup : g.lookup e.typeName with
  | none =>
      rw [rule_keptField_of_none hlookup] at hrule
      cases hrule
  | some found =>
      rw [keptField_of_rule hlookup] at hrule
      obtain rfl := Option.some.inj hrule
      exact h found (List.mem_of_find?_eq_some hlookup)

theorem call_eq_resolve (exports : Exports) {m : Declaration.Module} {g : Registry} {decls : List Declaration.Record}
    (hp : program m (decls.map (resolve g {})) .direct = .ok p)
    (hq : program m (decls.map (resolve g {})) .newtype = .ok q)
    (hroots : ∀ rule ∈ g.rules, ∀ root ∈ (dotted rule.converter).head?, IsPlain root) (c : Circumstances)
    (cls : InputClass) (values : List (String × Value)) (name : String) :
    q.call exports c cls values name = p.call exports c cls values name := by
  refine call_eq exports hp hq ?_ (plainConverters_resolve hroots) c cls values name
  intro r hr
  obtain ⟨d, -, rfl⟩ := List.mem_map.1 hr
  exact ⟨d.name, rfl⟩

theorem standard_plain : ∀ rule ∈ Registry.standard.rules, ∀ root ∈ (dotted rule.converter).head?, IsPlain root := by
  decide

end Calls

end Vetted.Proofs.Variants
