import Vetted.Proofs.WrapperTypes

namespace Vetted.Proofs.WrapperClash

open Domain Generated GeneratedProgram Sequence WrapperTypes

variable {records : List Record} {variant : Variant} {shared : List String} {r s : Record} {f g : Domain.Field}

def Consistent (ws : List Wrapper) : Prop := ∀ v ∈ ws, ∀ w ∈ ws, v.name = w.name → v.base = w.base

theorem Consistent.of_subset {vs ws : List Wrapper} (h : Consistent ws) (hsub : vs ⊆ ws) : Consistent vs :=
  fun v hv w hw => h v (hsub hv) w (hsub hw)

theorem consistent_of_nodup {ws : List Wrapper} (h : (ws.map Wrapper.name).Nodup) : Consistent ws :=
  fun _ hv _ hw hname => congrArg Wrapper.base (eq_of_name_eq h hw hv hname)

theorem exists_addWrappers (record : String) {declared ws : List Wrapper}
    (hdeclared : (declared.map Wrapper.name).Nodup) (h : Consistent (declared ++ ws)) :
    ∃ out, addWrappers record declared ws = .ok out := by
  induction ws generalizing declared with
  | nil => exact ⟨declared, rfl⟩
  | cons w rest ih =>
      rw [addWrappers]
      split
      case h_1 hnone =>
          refine ih (nodup_names_concat hdeclared hnone) ?_
          rwa [List.append_assoc, List.singleton_append]
      case h_2 d hfound =>
          have hname : d.name = w.name := by simpa using List.find?_some hfound
          have hbase : d.base = w.base :=
            h d (List.mem_append_left _ (List.mem_of_find?_eq_some hfound)) w (by simp) hname
          rw [if_pos hbase]
          exact ih hdeclared (h.of_subset (List.append_subset.2
            ⟨List.subset_append_left _ _, List.subset_append_of_subset_right _ (List.subset_cons_self _ _)⟩))

theorem exists_collectWrappers {declared : List Wrapper} (hdeclared : (declared.map Wrapper.name).Nodup)
    (hfields : ∀ r ∈ records, r.fieldNames.Nodup)
    (h : Consistent (declared ++ records.flatMap (usedWrappers variant shared))) :
    ∃ out, collectWrappers variant shared declared records = .ok out := by
  induction records generalizing declared with
  | nil => exact ⟨declared, rfl⟩
  | cons r rest ih =>
      obtain ⟨hr, hrest⟩ := List.forall_mem_cons.1 hfields
      rw [List.flatMap_cons, ← List.append_assoc] at h
      obtain ⟨added, hadded⟩ := exists_addWrappers r.name hdeclared (h.of_subset (List.subset_append_left _ _))
      obtain ⟨hnodup, hmem⟩ := addWrappers_eq_ok hadded hdeclared
      have hconsistent : Consistent (added ++ rest.flatMap (usedWrappers variant shared)) := by
        refine h.of_subset (List.append_subset.2 ⟨fun w hw => ?_, List.subset_append_right _ _⟩)
        exact List.mem_append_left _ (List.mem_append.2 ((hmem w).1 hw))
      obtain ⟨out, hout⟩ := ih hnodup hrest hconsistent
      exact ⟨out, bind_eq_ok_iff.2 ⟨_, fieldsOf_eq_ok_iff.2 ⟨rfl, hr⟩, bind_eq_ok_iff.2 ⟨added, hadded, hout⟩⟩⟩

theorem exists_wrappersOf_iff :
    (∃ out, wrappersOf records variant shared = .ok out) ↔
      (∀ r ∈ records, r.fieldNames.Nodup) ∧ Consistent (records.flatMap (usedWrappers variant shared)) := by
  constructor
  · rintro ⟨out, hout⟩
    obtain ⟨hnodup, hmem⟩ := wrappersOf_eq_ok hout
    refine ⟨fun r hr => ?_, (consistent_of_nodup hnodup).of_subset fun w hw => ?_⟩
    · obtain ⟨fields, hfields⟩ := fieldsOf_of_collectWrappers hout hr
      exact (fieldsOf_eq_ok_iff.1 hfields).2
    · exact (hmem w).2 (List.mem_flatMap.1 hw)
  · rintro ⟨hfields, hconsistent⟩
    exact exists_collectWrappers List.nodup_nil hfields (by simpa using hconsistent)

theorem wrappersOf_direct_iff {out : List Wrapper} :
    wrappersOf records .direct shared = .ok out ↔ (∀ r ∈ records, r.fieldNames.Nodup) ∧ out = [] := by
  have hnone (hfields : ∀ r ∈ records, r.fieldNames.Nodup) : wrappersOf records .direct shared = .ok [] :=
    collectWrappers_direct fun r hr => ⟨_, fieldsOf_eq_ok_iff.2 ⟨rfl, hfields r hr⟩⟩
  constructor
  · intro h
    have hfields := (exists_wrappersOf_iff.1 ⟨out, h⟩).1
    exact ⟨hfields, Except.ok.inj (h.symm.trans (hnone hfields))⟩
  · rintro ⟨hfields, rfl⟩
    exact hnone hfields

theorem wrapperName_eq_append (field scope : String) :
    Naming.wrapperName field scope = scope ++ Naming.wrapperName field := by
  rw [Naming.wrapperName, Naming.wrapperName, ← String.toList_inj]
  simp

theorem wrapperName_of_oneType (h : OneType records (Naming.wrapperName f.name)) :
    Naming.wrapperName f.name (scopeOf r (scopedNames records) f) = Naming.wrapperName f.name := by
  rw [scopeOf, if_neg (by simpa using not_mem_scopedNames.2 h)]

theorem wrapperName_of_not_oneType (h : ¬OneType records (Naming.wrapperName f.name)) :
    Naming.wrapperName f.name (scopeOf r (scopedNames records) f) = r.inputName ++ Naming.wrapperName f.name := by
  have hscoped : Naming.wrapperName f.name ∈ scopedNames records := by
    by_contra hnot
    exact h (not_mem_scopedNames.1 hnot)
  rw [scopeOf, if_pos (by simpa using hscoped), wrapperName_eq_append]

def ClashesWithin (r : Record) : Prop :=
  ∃ f ∈ r.fields, ∃ g ∈ r.fields, Naming.wrapperName f.name = Naming.wrapperName g.name ∧ f.typeName ≠ g.typeName

instance (r : Record) : Decidable (ClashesWithin r) :=
  inferInstanceAs (Decidable (∃ f ∈ r.fields, ∃ g ∈ r.fields, _))

/-- A field whose wrapper is told apart by its input name, and then has the name of the wrapper of another field: a bare
one, or one that is told apart as well. -/
def Meets (records : List Record) (r : Record) (f : Domain.Field) (s : Record) (g : Domain.Field) : Prop :=
  Naming.wrapperName f.name ≠ Naming.wrapperName g.name ∧ f.typeName ≠ g.typeName ∧
    ¬OneType records (Naming.wrapperName f.name) ∧
      (OneType records (Naming.wrapperName g.name) ∧
          r.inputName ++ Naming.wrapperName f.name = Naming.wrapperName g.name ∨
        ¬OneType records (Naming.wrapperName g.name) ∧
          r.inputName ++ Naming.wrapperName f.name = s.inputName ++ Naming.wrapperName g.name)

def Collide (records : List Record) (r : Record) (f : Domain.Field) (s : Record) (g : Domain.Field) : Prop :=
  Naming.wrapperName f.name (scopeOf r (scopedNames records) f) =
      Naming.wrapperName g.name (scopeOf s (scopedNames records) g) ∧
    f.typeName ≠ g.typeName

theorem not_consistent_iff :
    ¬Consistent (records.flatMap (usedWrappers .newtype (scopedNames records))) ↔
      ∃ r ∈ records, ∃ f ∈ r.fields, ∃ s ∈ records, ∃ g ∈ s.fields, Collide records r f s g := by
  simp only [Consistent, List.mem_flatMap, mem_usedWrappers_newtype]
  constructor
  · intro h
    by_contra hnone
    refine h ?_
    rintro v ⟨r, hr, f, hf, rfl⟩ w ⟨s, hs, g, hg, rfl⟩ hname
    by_contra hbase
    exact hnone ⟨r, hr, f, hf, s, hs, g, hg, hname, hbase⟩
  · rintro ⟨r, hr, f, hf, s, hs, g, hg, hname, hbase⟩ h
    exact hbase (h _ ⟨r, hr, f, hf, rfl⟩ _ ⟨s, hs, g, hg, rfl⟩ hname)

theorem collide_of_meets (h : Meets records r f s g) : Collide records r f s g := by
  obtain ⟨-, htype, hf, ⟨hg, hname⟩ | ⟨hg, hname⟩⟩ := h
  · exact ⟨by rw [wrapperName_of_not_oneType hf, wrapperName_of_oneType hg, hname], htype⟩
  · exact ⟨by rw [wrapperName_of_not_oneType hf, wrapperName_of_not_oneType hg, hname], htype⟩

theorem meets_of_collide (h : Collide records r f s g) (hbare : Naming.wrapperName f.name ≠ Naming.wrapperName g.name) :
    Meets records r f s g ∨ Meets records s g r f := by
  obtain ⟨hname, htype⟩ := h
  by_cases hf : OneType records (Naming.wrapperName f.name)
  · rw [wrapperName_of_oneType hf] at hname
    by_cases hg : OneType records (Naming.wrapperName g.name)
    · rw [wrapperName_of_oneType hg] at hname
      exact absurd hname hbare
    · rw [wrapperName_of_not_oneType hg] at hname
      exact .inr ⟨hbare.symm, htype.symm, hg, .inl ⟨hf, hname.symm⟩⟩
  · rw [wrapperName_of_not_oneType hf] at hname
    by_cases hg : OneType records (Naming.wrapperName g.name)
    · rw [wrapperName_of_oneType hg] at hname
      exact .inl ⟨hbare, htype, hf, .inl ⟨hg, hname⟩⟩
    · rw [wrapperName_of_not_oneType hg] at hname
      exact .inl ⟨hbare, htype, hf, .inr ⟨hg, hname⟩⟩

theorem eq_of_collide (hinputs : (records.map Record.inputName).Nodup) (hr : r ∈ records) (hf : f ∈ r.fields)
    (hs : s ∈ records) (hg : g ∈ s.fields) (h : Collide records r f s g)
    (hbare : Naming.wrapperName f.name = Naming.wrapperName g.name) : r = s := by
  obtain ⟨hname, htype⟩ := h
  -- The fields themselves show that the name has two types, so both wrappers are told apart by their inputs.
  have hnone : ¬OneType records (Naming.wrapperName f.name) := fun hone =>
    htype (hone r hr f hf s hs g hg rfl hbare.symm)
  have hnone' : ¬OneType records (Naming.wrapperName g.name) := hbare ▸ hnone
  rw [wrapperName_of_not_oneType hnone, wrapperName_of_not_oneType hnone', hbare, ← String.toList_inj,
    String.toList_append, String.toList_append, List.append_cancel_right_eq, String.toList_inj] at hname
  exact List.inj_on_of_nodup_map hinputs hr hs hname

theorem scopeOf_congr (h : Naming.wrapperName f.name = Naming.wrapperName g.name) :
    scopeOf r shared f = scopeOf r shared g := by
  rw [scopeOf, scopeOf, h]

theorem not_consistent_of_clashesWithin (hr : r ∈ records) (h : ClashesWithin r) (shared : List String) :
    ¬Consistent (records.flatMap (usedWrappers .newtype shared)) := by
  obtain ⟨f, hf, g, hg, hbare, htype⟩ := h
  have hused : ∀ e ∈ r.fields, ⟨Naming.wrapperName e.name (scopeOf r shared e), e.typeName⟩ ∈
      records.flatMap (usedWrappers .newtype shared) :=
    fun e he => List.mem_flatMap.2 ⟨r, hr, mem_usedWrappers_newtype.2 ⟨e, he, rfl⟩⟩
  intro hconsistent
  refine htype (hconsistent _ (hused f hf) _ (hused g hg) ?_)
  rw [wrapperName_eq_append f.name, wrapperName_eq_append g.name, scopeOf_congr hbare, hbare]

theorem exists_collide_iff (hinputs : (records.map Record.inputName).Nodup) :
    (∃ r ∈ records, ∃ f ∈ r.fields, ∃ s ∈ records, ∃ g ∈ s.fields, Collide records r f s g) ↔
      (∃ r ∈ records, ClashesWithin r) ∨
        ∃ r ∈ records, ∃ f ∈ r.fields, ∃ s ∈ records, ∃ g ∈ s.fields, Meets records r f s g := by
  constructor
  · rintro ⟨r, hr, f, hf, s, hs, g, hg, hcollide⟩
    by_cases hbare : Naming.wrapperName f.name = Naming.wrapperName g.name
    · obtain rfl := eq_of_collide hinputs hr hf hs hg hcollide hbare
      exact .inl ⟨r, hr, f, hf, g, hg, hbare, hcollide.2⟩
    · obtain hmeets | hmeets := meets_of_collide hcollide hbare
      · exact .inr ⟨r, hr, f, hf, s, hs, g, hg, hmeets⟩
      · exact .inr ⟨s, hs, g, hg, r, hr, f, hf, hmeets⟩
  · rintro (⟨r, hr, hclash⟩ | ⟨r, hr, f, hf, s, hs, g, hg, hmeets⟩)
    · exact not_consistent_iff.1 (not_consistent_of_clashesWithin hr hclash _)
    · exact ⟨r, hr, f, hf, s, hs, g, hg, collide_of_meets hmeets⟩

structure Apart (records : List Record) : Prop where
  inputs : ∀ r ∈ records, ∀ s ∈ records, r.inputName.toList <+: s.inputName.toList → r.inputName = s.inputName
  fields : ∀ r ∈ records, ∀ s ∈ records, ∀ g ∈ s.fields, ¬r.inputName.toList <+: (Naming.pascalCase g.name).toList

theorem bare_toList (field : String) :
    (Naming.wrapperName field).toList = (Naming.pascalCase field).toList ++ "Valid".toList := by
  rw [Naming.wrapperName, String.toList_append, String.toList_append, String.toList_empty, List.nil_append]

theorem Apart.not_meets (h : Apart records) (hr : r ∈ records) (hs : s ∈ records) (hg : g ∈ s.fields) :
    ¬Meets records r f s g := by
  rintro ⟨hbare, -, -, ⟨-, hname⟩ | ⟨-, hname⟩⟩
  · rw [← String.toList_inj, String.toList_append, bare_toList, bare_toList, ← List.append_assoc,
      List.append_cancel_right_eq] at hname
    exact h.fields r hr s hs g hg ⟨_, hname⟩
  · have hprefix : r.inputName.toList <+: (s.inputName ++ Naming.wrapperName g.name).toList := by
      rw [← hname, String.toList_append]
      exact List.prefix_append _ _
    -- Both input names start one text, so one of them starts the other.
    have hinput : r.inputName = s.inputName := by
      rw [String.toList_append] at hprefix
      obtain hshort | hlong := List.prefix_or_prefix_of_prefix hprefix (List.prefix_append _ _)
      · exact h.inputs r hr s hs hshort
      · exact (h.inputs s hs r hr hlong).symm
    rw [hinput, ← String.toList_inj, String.toList_append, String.toList_append, List.append_cancel_left_eq,
      String.toList_inj] at hname
    exact hbare hname

/-- Wrappers of records with different inputs and different fields are refused, and then for a clash, exactly if a
record uses one bare name for two types, or an input name in front of one name gives another. The latter does not
happen where input names start neither each other nor a field name in Pascal case. -/
theorem wrappers_refused_iff (records : List Record) (hinputs : (records.map Record.inputName).Nodup)
    (hfields : ∀ r ∈ records, r.fieldNames.Nodup) :
    ((∃ e, wrappersOf records .newtype (scopedNames records) = .error e) ↔
        (∃ r ∈ records, ClashesWithin r) ∨
          ∃ r ∈ records, ∃ f ∈ r.fields, ∃ s ∈ records, ∃ g ∈ s.fields, Meets records r f s g) ∧
      (∀ e, wrappersOf records .newtype (scopedNames records) = .error e →
        OfGeneration e ∧ ∃ name first second record, e = .wrapperClash name first second record) ∧
      (Apart records →
        ((∃ e, wrappersOf records .newtype (scopedNames records) = .error e) ↔ ∃ r ∈ records, ClashesWithin r)) := by
  have hrefused : (∃ e, wrappersOf records .newtype (scopedNames records) = .error e) ↔
      (∃ r ∈ records, ClashesWithin r) ∨
        ∃ r ∈ records, ∃ f ∈ r.fields, ∃ s ∈ records, ∃ g ∈ s.fields, Meets records r f s g := by
    rw [exists_error_iff, exists_wrappersOf_iff, and_iff_right hfields, not_consistent_iff, exists_collide_iff hinputs]
  refine ⟨hrefused, fun e he => ⟨ofGeneration_of_wrappersOf he, ?_⟩, fun hapart => ?_⟩
  · obtain ⟨r, hr, herror⟩ | hclash := collectWrappers_eq_error he
    · rw [fieldsOf_eq_ok_iff.2 ⟨rfl, hfields r hr⟩] at herror
      cases herror
    · exact hclash
  · rw [hrefused, or_iff_left]
    rintro ⟨r, hr, f, -, s, hs, g, hg, hmeets⟩
    exact hapart.not_meets hr hs hg hmeets

/-- The two records of a shop differ on the type of `id`, and their wrappers are accepted. -/
theorem shopRecords_not_refused :
    (shopRecords.map Record.inputName).Nodup ∧ (∀ r ∈ shopRecords, r.fieldNames.Nodup) ∧ Apart shopRecords ∧
      ¬∃ e, wrappersOf shopRecords .newtype (scopedNames shopRecords) = .error e := by
  have hinputs : (shopRecords.map Record.inputName).Nodup := by decide
  have hfields : ∀ r ∈ shopRecords, r.fieldNames.Nodup := by decide
  have hapart : Apart shopRecords := ⟨by decide, by decide⟩
  obtain ⟨-, -, hwithin⟩ := wrappers_refused_iff shopRecords hinputs hfields
  refine ⟨hinputs, hfields, hapart, ?_⟩
  rw [hwithin hapart]
  decide

def auditRecords : List Record :=
  [{ name := "UserInputValidated", inputName := "UserInput"
     fields := [{ name := "id", typeName := "int", source := "id" }] },
    { name := "OrderInputValidated", inputName := "OrderInput"
      fields := [{ name := "id", typeName := "str", source := "id" }] },
    { name := "AuditInputValidated", inputName := "AuditInput"
      fields := [{ name := "user_input_id", typeName := "float", source := "user_input_id" }] }]

/-- Wrappers may be refused though no record clashes with itself. -/
theorem clash_may_cross_records :
    ¬∀ records : List Record, (records.map Record.inputName).Nodup → (∀ r ∈ records, r.fieldNames.Nodup) →
      ((∃ e, wrappersOf records .newtype (scopedNames records) = .error e) ↔ ∃ r ∈ records, ClashesWithin r) := by
  intro h
  have hrefused : ∃ e, wrappersOf auditRecords .newtype (scopedNames auditRecords) = .error e := ⟨_, rfl⟩
  have hwithin := (h auditRecords (by decide) (by decide)).1 hrefused
  exact absurd hwithin (by decide)

end Vetted.Proofs.WrapperClash
