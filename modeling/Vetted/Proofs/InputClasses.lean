import Mathlib.Data.List.Nodup
import Vetted.Conversion

namespace Vetted.Proofs.InputClasses

open Declaration
open Source (Expr Stmt)

variable {suffix : String} {body : List Stmt}

theorem fieldOf?_eq_some_iff {s : Stmt} {f : Field} :
    fieldOf? s = some f ↔ ∃ line name hint value bare, s = .annotated line (.name name) hint value bare ∧
      isHidden name = false ∧ isClassAttribute hint = false ∧
        f = ⟨name, hint.text, tagValue (metadataEntries value) "validate", tagValue (metadataEntries value) "json",
          tagValue (metadataEntries value) "transform", some line⟩ := by
  fun_cases fieldOf? s with
  | case1 line name hint value bare hskipped =>
      refine iff_of_false (by simp) ?_
      rintro ⟨_, _, _, _, _, ⟨⟩, hvisible, hkept, -⟩
      simp [hvisible, hkept] at hskipped
  | case2 line name hint value bare hkept =>
      simp only [Bool.or_eq_true, not_or, Bool.not_eq_true] at hkept
      constructor
      · intro h
        exact ⟨line, name, hint, value, bare, rfl, hkept.1, hkept.2, (Option.some.inj h).symm⟩
      · rintro ⟨_, _, _, _, _, ⟨⟩, -, -, rfl⟩
        rfl
  | case3 s hother =>
      refine iff_of_false (by simp) ?_
      rintro ⟨line, name, hint, value, bare, rfl, -⟩
      exact hother _ _ _ _ _ rfl

theorem recordOf?_classDef {line column : Nat} {name : String} {bases decorators : List Expr} {inner : List Stmt} :
    recordOf? suffix (.classDef line column name bases decorators inner) =
      if Text.endsWith name suffix then some { name, fields := fieldsOf inner, line := some line } else none := rfl

theorem endsWith_of_recordOf? {s : Stmt} {r : Record} (h : recordOf? suffix s = some r) :
    Text.endsWith r.name suffix = true := by
  cases s with
  | classDef line column name bases decorators inner =>
      rw [recordOf?_classDef] at h
      split at h
      case isTrue hsuffix =>
          obtain rfl := Option.some.inj h
          exact hsuffix
      case isFalse => cases h
  | _ => cases h

theorem collect_eq_ok {seen : List (String × Nat)} {records : List Record}
    (h : collect suffix seen body = .ok records) :
    records = body.filterMap (recordOf? suffix) ∧ (records.map Record.name).Nodup ∧
      ∀ r ∈ records, seen.lookup r.name = none := by
  induction body generalizing seen records with
  | nil =>
      obtain rfl := Except.ok.inj h
      simp
  | cons s rest ih =>
      cases s with
      | classDef line column name bases decorators inner =>
          rw [collect] at h
          split at h
          case h_1 hother =>
              rw [List.filterMap_cons, hother]
              exact ih h
          case h_2 record hrecord =>
              have hname : record.name = name := by
                rw [recordOf?_classDef] at hrecord
                split at hrecord
                · obtain rfl := Option.some.inj hrecord
                  rfl
                · cases hrecord
              split at h
              · cases h
              · rename_i hnew
                split at h
                case h_1 => cases h
                cases hrest : collect suffix (seen ++ [(name, line)]) rest with
                | error e => rw [hrest] at h; cases h
                | ok others =>
                    rw [hrest] at h
                    obtain rfl := Except.ok.inj h
                    obtain ⟨hothers, hnodup, hunseen⟩ := ih hrest
                    -- A later record is looked up among the names seen before and that of `record`.
                    have hapart : ∀ r ∈ others, seen.lookup r.name = none ∧ r.name ≠ name := by
                      intro r hr
                      have hlookup := hunseen r hr
                      rw [List.lookup_append, Option.or_eq_none_iff] at hlookup
                      refine ⟨hlookup.1, ?_⟩
                      have hsingle := List.lookup_eq_none_iff.1 hlookup.2 (name, line) (by simp)
                      simpa using hsingle
                    refine ⟨?_, ?_, ?_⟩
                    · rw [List.filterMap_cons, hrecord, hothers]
                    · rw [List.map_cons, List.nodup_cons, hname]
                      refine ⟨?_, hnodup⟩
                      intro hmem
                      obtain ⟨r, hr, hsame⟩ := List.mem_map.1 hmem
                      exact (hapart r hr).2 hsame
                    · rintro r (_ | ⟨_, hr⟩)
                      · rw [hname]
                        exact hnew
                      · exact (hapart r hr).1
      | _ =>
          rw [List.filterMap_cons]
          exact ih h

theorem endsWith_of_mem {records : List Record} (hrecords : recordsOf suffix body = .ok records) {d : Record}
    (hd : d ∈ records) : Text.endsWith d.name suffix = true := by
  rw [(collect_eq_ok hrecords).1] at hd
  obtain ⟨s, -, hs⟩ := List.mem_filterMap.1 hd
  exact endsWith_of_recordOf? hs

/-- The fields that are reported of a class are fields that its values have. -/
def Covers (d : Record) (cls : InputClass) : Prop := ∀ f ∈ d.fields, f.name ∈ cls.fields.map Prod.fst

section Tables

variable {α : Type} {name n : String} {entry : α} {table own : List (String × α)}

theorem names_put : (InputClass.put n entry table).map Prod.fst =
    if n ∈ table.map Prod.fst then table.map Prod.fst else table.map Prod.fst ++ [n] := by
  induction table with
  | nil => rfl
  | cons f rest ih =>
      rw [InputClass.put]
      by_cases hsame : f.1 = n
      · simp [hsame]
      · rw [if_neg hsame, List.map_cons, ih]
        by_cases hmem : n ∈ rest.map Prod.fst
        · simp [hmem]
        · simp [hmem, Ne.symm hsame]

theorem nodup_put (h : (table.map Prod.fst).Nodup) : ((InputClass.put n entry table).map Prod.fst).Nodup := by
  rw [names_put]
  split
  case isTrue => exact h
  case isFalse hnew => exact h.append (List.nodup_singleton n) (List.disjoint_singleton.2 hnew)

theorem nodup_putAll (h : (table.map Prod.fst).Nodup) : ((InputClass.putAll table own).map Prod.fst).Nodup := by
  induction own generalizing table with
  | nil => exact h
  | cons f own ih => exact ih (nodup_put h)

/-- An entry after what a class gives to its name. -/
def overridden (own : List (String × α)) (f : String × α) : String × α := (f.1, (own.lookup f.1).getD f.2)

theorem lookup_eq_none (h : n ∉ own.map Prod.fst) : own.lookup n = none := by
  refine List.lookup_eq_none_iff.2 fun f hf => ?_
  have hother : n ≠ f.1 := fun hsame => h (hsame ▸ List.mem_map_of_mem hf)
  simpa using hother

theorem overridden_of_not_mem {f : String × α} (h : f.1 ∉ own.map Prod.fst) : overridden own f = f := by
  rw [overridden, lookup_eq_none h]
  rfl

theorem map_overridden_of_disjoint (h : ∀ f ∈ table, f.1 ∉ own.map Prod.fst) : table.map (overridden own) = table := by
  rw [List.map_congr_left fun f hf => overridden_of_not_mem (h f hf), List.map_id']

theorem put_eq (h : (table.map Prod.fst).Nodup) : InputClass.put n entry table =
    if n ∈ table.map Prod.fst then table.map (overridden [(n, entry)]) else table ++ [(n, entry)] := by
  induction table with
  | nil => rfl
  | cons f rest ih =>
      obtain ⟨hfirst, hrest⟩ := List.nodup_cons.1 h
      rw [InputClass.put]
      by_cases hsame : f.1 = n
      · have hkept : rest.map (overridden [(n, entry)]) = rest := by
          refine map_overridden_of_disjoint fun g hg hmem => hfirst ?_
          have hname : g.1 = f.1 := (List.mem_singleton.1 hmem).trans hsame.symm
          exact hname ▸ List.mem_map_of_mem hg
        rw [if_pos hsame, if_pos (by simp [hsame]), List.map_cons, hkept]
        simp [overridden, hsame]
      · have hother : overridden [(n, entry)] f = f := overridden_of_not_mem (by simpa using hsame)
        rw [if_neg hsame, ih hrest, List.map_cons, List.map_cons, hother]
        by_cases hmem : n ∈ rest.map Prod.fst
        · rw [if_pos hmem, if_pos (List.mem_cons_of_mem _ hmem)]
        · rw [if_neg hmem, if_neg (by simpa [hmem] using Ne.symm hsame)]
          rfl

theorem overridden_cons {f g : String × α} (h : f.1 ∉ own.map Prod.fst) :
    overridden own (overridden [f] g) = overridden (f :: own) g := by
  obtain ⟨n, entry⟩ := f
  by_cases hsame : g.1 = n
  · simp [overridden, hsame, lookup_eq_none h]
  · have hother : (g.1 == n) = false := beq_false_of_ne hsame
    simp only [overridden, List.lookup_cons, hother, List.lookup_nil, Option.getD_none]

/-- What a table becomes: its entries in their places, and the new ones behind them. -/
theorem putAll_eq (htable : (table.map Prod.fst).Nodup) (hown : (own.map Prod.fst).Nodup) :
    InputClass.putAll table own =
      table.map (overridden own) ++ own.filter fun f => f.1 ∉ table.map Prod.fst := by
  induction own generalizing table with
  | nil => rw [map_overridden_of_disjoint (by simp), List.filter_nil, List.append_nil]; rfl
  | cons f own ih =>
      obtain ⟨hfirst, hown⟩ := List.nodup_cons.1 hown
      have hput : InputClass.putAll table (f :: own) = InputClass.putAll (InputClass.put f.1 f.2 table) own := rfl
      have hkept : (table.map (overridden [f])).map (overridden own) = table.map (overridden (f :: own)) := by
        rw [List.map_map]
        exact List.map_congr_left fun g _ => overridden_cons hfirst
      rw [hput, ih (nodup_put htable) hown, names_put, put_eq htable]
      by_cases hmem : f.1 ∈ table.map Prod.fst
      · rw [if_pos hmem, if_pos hmem, hkept, List.filter_cons_of_neg (by simpa using hmem)]
      · have hold : table.map (overridden [f]) = table :=
          map_overridden_of_disjoint fun g hg hsame => hmem (List.mem_singleton.1 hsame ▸ List.mem_map_of_mem hg)
        have hnew : ∀ g ∈ own, g.1 ≠ f.1 := fun g hg hsame => hfirst (hsame ▸ List.mem_map_of_mem hg)
        rw [if_neg hmem, if_neg hmem, List.map_append, ← hkept, hold, List.filter_cons_of_pos (by simpa using hmem),
          List.map_singleton, overridden_of_not_mem hfirst, List.append_assoc, List.singleton_append]
        congr 2
        refine List.filter_congr fun g hg => ?_
        simp [hnew g hg]

theorem putAll_nil (hown : (own.map Prod.fst).Nodup) : InputClass.putAll [] own = own := by
  rw [putAll_eq (by simp) hown]
  simp

end Tables

variable {w : InputClass.World} {postponed : Bool} {names : InputClass.Names} {cls : InputClass}

theorem nodup_valueFields {table : FieldTable} (h : (table.map Prod.fst).Nodup) :
    ((InputClass.valueFields table).map Prod.fst).Nodup := by
  have hsub : ((InputClass.valueFields table).map Prod.fst).Sublist (table.map Prod.fst) := by
    induction table with
    | nil => exact List.Sublist.refl _
    | cons f rest ih =>
        obtain ⟨name, entry⟩ := f
        have hrest := ih (List.nodup_cons.1 h).2
        cases entry with
        | field tag => exact hrest.cons_cons name
        | pseudo => exact hrest.cons name
  exact h.sublist hsub

theorem nodup_inherited {lineage : List InputClass.Ancestor} : ((InputClass.inherited lineage).map Prod.fst).Nodup := by
  have hfold : ∀ (tables : List FieldTable) (table : FieldTable), (table.map Prod.fst).Nodup →
      ((tables.foldl InputClass.putAll table).map Prod.fst).Nodup := by
    intro tables
    induction tables with
    | nil => exact fun table h => h
    | cons t rest ih => exact fun table h => ih _ (nodup_putAll h)
  exact hfold _ [] List.nodup_nil

theorem mem_classesFrom {body : List Stmt} (h : cls ∈ InputClass.classesFrom w postponed names body) :
    ∃ s ∈ body, ∃ names lineage, InputClass.ofStmt? w names postponed s = some (cls, lineage) := by
  induction body generalizing names with
  | nil => cases h
  | cons s rest ih =>
      obtain hhere | hlater := List.mem_append.1 h
      · obtain ⟨made, hmade, rfl⟩ := Option.map_eq_some_iff.1 (Option.mem_toList.1 hhere)
        exact ⟨s, List.mem_cons_self, names, made.2, hmade⟩
      · obtain ⟨t, ht, hmade⟩ := ih hlater
        exact ⟨t, List.mem_cons_of_mem s ht, hmade⟩

theorem nodup_fields (h : cls ∈ InputClass.ofStatements w body) : (cls.fields.map Prod.fst).Nodup := by
  obtain ⟨s, -, names, lineage, hmade⟩ := mem_classesFrom h
  cases s with
  | classDef line column name bases decorators inner =>
      obtain ⟨rfl, -⟩ := Prod.mk.inj (Option.some.inj hmade)
      exact nodup_valueFields (nodup_putAll List.nodup_nil)
  | _ => cases hmade

end Vetted.Proofs.InputClasses
