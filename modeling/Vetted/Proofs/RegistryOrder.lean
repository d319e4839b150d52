import Mathlib.Data.List.Nodup
import Mathlib.Data.String.Basic
import Vetted.Registry
import Vetted.Proofs.Sequence

namespace Vetted.Proofs.RegistryOrder

open Registry Sequence

variable {g h made merged : Registry} {r : TransformRule} {rules others : List TransformRule} {t : String}

/-- The rules stand in order of the code points of their types, and no type has two. -/
def Ordered (g : Registry) : Prop := g.rules.Pairwise fun a b => a.sourceType < b.sourceType

def Distinct (rules : List TransformRule) : Prop := (rules.map TransformRule.sourceType).Nodup

/-- The first of some rules that is of a type. -/
def ruleFor (rules : List TransformRule) (t : String) : Option TransformRule := rules.find? (·.sourceType = t)

/-- The registry after rows of rules are merged into it one after another; a row that cannot be merged changes
nothing. -/
def afterMerges (g : Registry) (batches : List (List TransformRule)) : Registry :=
  batches.foldl (fun g rules => (g.merge rules).toOption.getD g) g

inductive Starts : Registry → Prop where
  | standard : Starts .standard
  | ofRules {rules : List TransformRule} {g : Registry} (made : Registry.ofRules rules = .ok g) : Starts g

theorem lookup_eq_ruleFor (g : Registry) (t : String) : g.lookup t = ruleFor g.rules t := rfl

theorem ruleFor_cons (r : TransformRule) (rules : List TransformRule) (t : String) :
    ruleFor (r :: rules) t = if r.sourceType = t then some r else ruleFor rules t := by
  rw [ruleFor, List.find?_cons]
  by_cases hr : r.sourceType = t <;> simp [hr, ruleFor]

theorem ruleFor_eq_none_iff : ruleFor rules t = none ↔ t ∉ rules.map TransformRule.sourceType := by
  simp [ruleFor]

theorem ruleFor_eq_some_iff (hdistinct : Distinct rules) :
    ruleFor rules t = some r ↔ r ∈ rules ∧ r.sourceType = t := by
  constructor
  · intro hr
    exact ⟨List.mem_of_find?_eq_some hr, by simpa using List.find?_some hr⟩
  · rintro ⟨hr, rfl⟩
    cases hfound : ruleFor rules r.sourceType with
    | none => exact absurd (List.mem_map_of_mem hr) (ruleFor_eq_none_iff.1 hfound)
    | some s =>
        have hs : s ∈ rules := List.mem_of_find?_eq_some hfound
        have hsame : s.sourceType = r.sourceType := by simpa using List.find?_some hfound
        rw [List.inj_on_of_nodup_map hdistinct hs hr hsame]

theorem ruleFor_perm (hperm : others.Perm rules) (hdistinct : Distinct rules) (t : String) :
    ruleFor others t = ruleFor rules t := by
  have hothers : Distinct others := (hperm.map _).nodup_iff.2 hdistinct
  ext r
  rw [ruleFor_eq_some_iff hothers, ruleFor_eq_some_iff hdistinct, hperm.mem_iff]

theorem distinct_cons :
    Distinct (r :: rules) ↔ r.sourceType ∉ rules.map TransformRule.sourceType ∧ Distinct rules :=
  List.nodup_cons

theorem distinct_append :
    Distinct (rules ++ others) ↔
      Distinct rules ∧ Distinct others ∧ ∀ a ∈ rules, ∀ b ∈ others, a.sourceType ≠ b.sourceType := by
  simp only [Distinct, List.map_append, List.nodup_append, List.forall_mem_map]

theorem Ordered.distinct (hg : Ordered g) : Distinct g.rules := by
  rw [Distinct, List.Nodup, List.pairwise_map]
  exact hg.imp fun hlt => hlt.ne

theorem Ordered.eq_of_lookup (hg : Ordered g) (hh : Ordered h) (hsame : ∀ t, g.lookup t = h.lookup t) : g = h := by
  obtain ⟨ruled⟩ := g
  obtain ⟨held⟩ := h
  have hmem : ∀ r, r ∈ ruled ↔ r ∈ held := by
    intro r
    have hboth := hsame r.sourceType
    rw [lookup_eq_ruleFor, lookup_eq_ruleFor] at hboth
    have hleft := ruleFor_eq_some_iff (r := r) (t := r.sourceType) hg.distinct
    have hright := ruleFor_eq_some_iff (r := r) (t := r.sourceType) hh.distinct
    rw [hboth] at hleft
    simpa using hleft.symm.trans hright
  have hperm : ruled.Perm held :=
    (List.perm_ext_iff_of_nodup hg.distinct.of_map hh.distinct.of_map).2 hmem
  -- No two rules stand in both orders, so the lists are equal and not only permuted.
  have heq : ruled = held :=
    hperm.eq_of_pairwise (fun a b _ _ hab hba => absurd hba hab.asymm) hg hh
  rw [heq]

theorem ruleFor_putRule (r : TransformRule) (rules : List TransformRule) (t : String) :
    ruleFor (putRule r rules) t = if r.sourceType = t then some r else ruleFor rules t := by
  induction rules with
  | nil => exact ruleFor_cons r [] t
  | cons s rest ih =>
      rw [putRule]
      split
      case isTrue hsame =>
          rw [ruleFor_cons, ruleFor_cons, hsame]
          split <;> rfl
      case isFalse hother =>
          split
          case isTrue => exact ruleFor_cons r (s :: rest) t
          case isFalse =>
              rw [ruleFor_cons, ih, ruleFor_cons]
              by_cases hs : s.sourceType = t
              · have hr : ¬r.sourceType = t := fun hr => hother (hs.trans hr.symm)
                rw [if_pos hs, if_neg hr, if_pos hs]
              · rw [if_neg hs, if_neg hs]

theorem lookup_put (g : Registry) (r : TransformRule) (t : String) :
    (g.put r).lookup t = if r.sourceType = t then some r else g.lookup t :=
  ruleFor_putRule r g.rules t

theorem eq_or_mem_of_mem_putRule {s : TransformRule} (hs : s ∈ putRule r rules) : s = r ∨ s ∈ rules := by
  induction rules with
  | nil => exact .inl (List.mem_singleton.1 hs)
  | cons first rest ih =>
      rw [putRule] at hs
      split at hs
      · exact (List.mem_cons.1 hs).imp_right (List.mem_cons_of_mem first)
      · split at hs
        · exact List.mem_cons.1 hs
        · obtain rfl | hs := List.mem_cons.1 hs
          · exact .inr List.mem_cons_self
          · exact (ih hs).imp_right (List.mem_cons_of_mem first)

theorem Ordered.put (hg : Ordered g) (r : TransformRule) : Ordered (g.put r) := by
  obtain ⟨rules⟩ := g
  change (putRule r rules).Pairwise fun a b => a.sourceType < b.sourceType
  change rules.Pairwise (fun a b => a.sourceType < b.sourceType) at hg
  induction rules with
  | nil => exact List.pairwise_singleton _ r
  | cons s rest ih =>
      obtain ⟨hs, hrest⟩ := List.pairwise_cons.1 hg
      rw [putRule]
      split
      case isTrue hsame => exact List.pairwise_cons.2 ⟨hsame ▸ hs, hrest⟩
      case isFalse hother =>
          split
          case isTrue hbefore =>
              have hlt : r.sourceType < s.sourceType := by simpa [Text.before] using hbefore
              refine List.pairwise_cons.2 ⟨fun a ha => ?_, hg⟩
              obtain rfl | ha := List.mem_cons.1 ha
              · exact hlt
              · exact hlt.trans (hs a ha)
          case isFalse hbefore =>
              have hnot : ¬r.sourceType < s.sourceType := by simpa [Text.before] using hbefore
              have hlt : s.sourceType < r.sourceType := lt_of_le_of_ne (not_lt.1 hnot) hother
              refine List.pairwise_cons.2 ⟨fun a ha => ?_, ih hrest⟩
              obtain rfl | ha := eq_or_mem_of_mem_putRule ha
              · exact hlt
              · exact hs a ha

theorem Ordered.foldl_put (hg : Ordered g) (rules : List TransformRule) : Ordered (rules.foldl Registry.put g) := by
  induction rules generalizing g with
  | nil => exact hg
  | cons r rest ih => exact ih (hg.put r)

theorem lookup_foldl_put (hdistinct : Distinct rules) (g : Registry) (t : String) :
    (rules.foldl Registry.put g).lookup t = (ruleFor rules t).or (g.lookup t) := by
  induction rules generalizing g with
  | nil => rfl
  | cons r rest ih =>
      obtain ⟨hnew, hrest⟩ := List.nodup_cons.1 hdistinct
      rw [List.foldl_cons, ih hrest, lookup_put, ruleFor_cons]
      by_cases hr : r.sourceType = t
      · -- A rule of this type cannot come again among the rest.
        have hnone : ruleFor rest t = none := ruleFor_eq_none_iff.2 (hr ▸ hnew)
        rw [if_pos hr, if_pos hr, hnone]
        rfl
      · rw [if_neg hr, if_neg hr]

theorem contains_eq_false_iff : g.contains t = false ↔ g.lookup t = none := by
  rw [contains, Option.isSome_eq_false_iff, Option.isNone_iff_eq_none]

/-- Rules are added one by one if they are of different types, none of which is there before. -/
theorem extend_eq_ok_iff :
    g.extend rules = .ok made ↔
      (Distinct rules ∧ ∀ s ∈ rules, g.lookup s.sourceType = none) ∧ rules.foldl Registry.put g = made := by
  induction rules generalizing g with
  | nil => simp [extend, Distinct]
  | cons r rest ih =>
      rw [extend, List.foldl_cons]
      cases hthere : g.contains r.sourceType with
      | true =>
          refine iff_of_false (by simp) fun hall => ?_
          rw [contains, hall.1.2 r List.mem_cons_self] at hthere
          cases hthere
      | false =>
          have hfree := contains_eq_false_iff.1 hthere
          rw [if_neg (by simp), ih]
          refine and_congr_left fun _ => ?_
          rw [List.forall_mem_cons, distinct_cons]
          constructor
          · rintro ⟨hdistinct, hnone⟩
            have hnew : ∀ s ∈ rest, r.sourceType ≠ s.sourceType ∧ g.lookup s.sourceType = none := by
              intro s hs
              have hs := hnone s hs
              rw [lookup_put] at hs
              split at hs
              · cases hs
              · rename_i hne
                exact ⟨hne, hs⟩
            refine ⟨⟨?_, hdistinct⟩, hfree, fun s hs => (hnew s hs).2⟩
            intro hmem
            obtain ⟨s, hs, hsame⟩ := List.mem_map.1 hmem
            exact (hnew s hs).1 hsame.symm
          · rintro ⟨⟨hnew, hdistinct⟩, -, hnone⟩
            refine ⟨hdistinct, fun s hs => ?_⟩
            have hne : ¬r.sourceType = s.sourceType := fun hsame => hnew (hsame ▸ List.mem_map_of_mem hs)
            rw [lookup_put, if_neg hne, hnone s hs]

theorem ofRules_eq_ok_iff :
    ofRules rules = .ok made ↔ Distinct rules ∧ rules.foldl Registry.put Registry.empty = made := by
  rw [ofRules, extend_eq_ok_iff]
  exact and_congr_left fun _ => and_iff_left fun _ _ => rfl

theorem merge_eq_ok_iff :
    g.merge rules = .ok merged ↔ ∃ made, ofRules rules = .ok made ∧ made.rules.foldl Registry.put g = merged := by
  rw [merge, bind_eq_ok_iff]
  exact exists_congr fun made => and_congr_right fun _ => pure_eq_ok_iff

theorem ordered_empty : Ordered Registry.empty := List.Pairwise.nil

theorem ordered_of_ofRules (hmade : ofRules rules = .ok made) : Ordered made := by
  obtain ⟨-, rfl⟩ := ofRules_eq_ok_iff.1 hmade
  exact ordered_empty.foldl_put rules

theorem lookup_of_ofRules (hmade : ofRules rules = .ok made) (t : String) : made.lookup t = ruleFor rules t := by
  obtain ⟨hdistinct, rfl⟩ := ofRules_eq_ok_iff.1 hmade
  rw [lookup_foldl_put hdistinct]
  exact Option.or_none

theorem Ordered.merge (hg : Ordered g) (hmerged : g.merge rules = .ok merged) : Ordered merged := by
  obtain ⟨made, -, rfl⟩ := merge_eq_ok_iff.1 hmerged
  exact hg.foldl_put made.rules

theorem lookup_of_merge (hmerged : g.merge rules = .ok merged) (t : String) :
    merged.lookup t = (ruleFor rules t).or (g.lookup t) := by
  obtain ⟨made, hmade, rfl⟩ := merge_eq_ok_iff.1 hmerged
  rw [lookup_foldl_put (ordered_of_ofRules hmade).distinct, ← lookup_eq_ruleFor, lookup_of_ofRules hmade]

theorem exists_ofRules_iff : (∃ made, ofRules rules = .ok made) ↔ Distinct rules := by
  simp only [ofRules_eq_ok_iff, exists_and_left, exists_eq', and_true]

theorem exists_merge_iff (g : Registry) : (∃ merged, g.merge rules = .ok merged) ↔ Distinct rules := by
  rw [← exists_ofRules_iff]
  constructor
  · rintro ⟨merged, hmerged⟩
    obtain ⟨made, hmade, -⟩ := merge_eq_ok_iff.1 hmerged
    exact ⟨made, hmade⟩
  · rintro ⟨made, hmade⟩
    exact ⟨_, merge_eq_ok_iff.2 ⟨made, hmade, rfl⟩⟩

theorem Ordered.step (hg : Ordered g) (rules : List TransformRule) : Ordered ((g.merge rules).toOption.getD g) := by
  cases hmerge : g.merge rules with
  | error e => exact hg
  | ok merged => exact hg.merge hmerge

theorem Ordered.afterMerges (hg : Ordered g) (batches : List (List TransformRule)) :
    Ordered (afterMerges g batches) := by
  induction batches generalizing g with
  | nil => exact hg
  | cons rules rest ih => exact ih (hg.step rules)

theorem Starts.ordered (hstart : Starts g) : Ordered g := by
  cases hstart with
  | standard =>
      refine List.pairwise_cons.2 ⟨fun r hr => ?_, List.pairwise_singleton _ _⟩
      obtain rfl := List.mem_singleton.1 hr
      decide
  | ofRules made => exact ordered_of_ofRules made

theorem ofRules_perm (hperm : others.Perm rules) (hmade : ofRules rules = .ok made) : ofRules others = .ok made := by
  have hdistinct := (ofRules_eq_ok_iff.1 hmade).1
  obtain ⟨same, hsame⟩ := exists_ofRules_iff.2 ((hperm.map _).nodup_iff.2 hdistinct)
  have heq : same = made := by
    refine (ordered_of_ofRules hsame).eq_of_lookup (ordered_of_ofRules hmade) fun t => ?_
    rw [lookup_of_ofRules hsame, lookup_of_ofRules hmade, ruleFor_perm hperm hdistinct]
  rw [hsame, heq]

theorem merge_append (hg : Ordered g) (hdistinct : Distinct (rules ++ others))
    (hmerged : g.merge (rules ++ others) = .ok merged) :
    (g.merge rules >>= fun first => first.merge others) = .ok merged := by
  obtain ⟨hrules, hothers, hapart⟩ := distinct_append.1 hdistinct
  obtain ⟨first, hfirst⟩ := (exists_merge_iff g).2 hrules
  obtain ⟨second, hsecond⟩ := (exists_merge_iff first).2 hothers
  refine bind_eq_ok_iff.2 ⟨first, hfirst, ?_⟩
  rw [hsecond]
  refine congrArg Except.ok (((hg.merge hfirst).merge hsecond).eq_of_lookup (hg.merge hmerged) fun t => ?_)
  rw [lookup_of_merge hsecond, lookup_of_merge hfirst, lookup_of_merge hmerged, ← Option.or_assoc]
  congr 1
  have happend : ruleFor (rules ++ others) t = (ruleFor rules t).or (ruleFor others t) := List.find?_append
  rw [happend]
  -- At most one of the rows has a rule of the type.
  cases hfound : ruleFor rules t with
  | none => simp
  | some r =>
      obtain ⟨hr, rfl⟩ := (ruleFor_eq_some_iff hrules).1 hfound
      have hnone : ruleFor others r.sourceType = none := by
        refine ruleFor_eq_none_iff.2 fun hmem => ?_
        obtain ⟨s, hs, hsame⟩ := List.mem_map.1 hmem
        exact hapart r hr s hs hsame.symm
      rw [hnone]
      rfl

theorem merge_perm (hperm : others.Perm rules) (hmerged : g.merge rules = .ok merged) :
    g.merge others = .ok merged := by
  obtain ⟨made, hmade, hfold⟩ := merge_eq_ok_iff.1 hmerged
  exact merge_eq_ok_iff.2 ⟨made, ofRules_perm hperm hmade, hfold⟩

/-- After any run of merges the rules are in order, and each is found under its type. Rules make a registry exactly if
they are of different types, in whatever order they come; they can be merged exactly if they make one, and then come
before the rules already there. So rules of different types may be merged in any order and in one row or two. -/
theorem registry_after_merges (start : Registry) (hstart : Starts start) (batches : List (List TransformRule)) :
    let g := afterMerges start batches
    Ordered g ∧ (∀ t r, g.lookup t = some r ↔ r ∈ g.rules ∧ r.sourceType = t) ∧
      ∀ rules : List TransformRule,
        ((∃ e, ofRules rules = .error e) ↔ ¬Distinct rules) ∧
        (∀ others made, others.Perm rules → ofRules rules = .ok made → ofRules others = .ok made) ∧
        ((∃ e, g.merge rules = .error e) ↔ ∃ e, ofRules rules = .error e) ∧
        (∀ merged, g.merge rules = .ok merged → ∀ t, merged.lookup t = (ruleFor rules t).or (g.lookup t)) ∧
        ∀ others, Distinct rules → Distinct others → (∀ a ∈ rules, ∀ b ∈ others, a.sourceType ≠ b.sourceType) →
          ∃ merged, g.merge (rules ++ others) = .ok merged ∧
            (g.merge rules >>= fun first => first.merge others) = .ok merged ∧
            (g.merge others >>= fun first => first.merge rules) = .ok merged := by
  intro g
  have hg : Ordered g := hstart.ordered.afterMerges batches
  refine ⟨hg, fun t r => ruleFor_eq_some_iff hg.distinct, fun rules => ⟨?_, ?_, ?_, ?_, ?_⟩⟩
  · rw [exists_error_iff, exists_ofRules_iff]
  · exact fun others made hperm hmade => ofRules_perm hperm hmade
  · rw [exists_error_iff, exists_error_iff, exists_merge_iff, exists_ofRules_iff]
  · exact fun merged hmerged => lookup_of_merge hmerged
  · intro others hrules hothers hapart
    have hdistinct := distinct_append.2 ⟨hrules, hothers, hapart⟩
    obtain ⟨merged, hmerged⟩ := (exists_merge_iff g).2 hdistinct
    refine ⟨merged, hmerged, merge_append hg hdistinct hmerged, ?_⟩
    have hperm : (others ++ rules).Perm (rules ++ others) := List.perm_append_comm
    exact merge_append hg ((hperm.map _).nodup_iff.2 hdistinct) (merge_perm hperm hmerged)

def centsRule : TransformRule := ⟨"money.Cents", "amount", "decimal.Decimal", some "shop.money"⟩

def plainRule : TransformRule := ⟨"fieldtypes.PlainPassword", "secret", "bytes", none⟩

/-- A row with one rule twice is passed over, and two further rows may change places. -/
theorem standard_after_merges :
    ∃ merged, (afterMerges .standard [[centsRule, centsRule]]).merge [centsRule, plainRule] = .ok merged ∧
      ((afterMerges .standard [[centsRule, centsRule]]).merge [centsRule] >>= fun first => first.merge [plainRule]) =
        .ok merged ∧
      ((afterMerges .standard [[centsRule, centsRule]]).merge [plainRule] >>= fun first => first.merge [centsRule]) =
        .ok merged :=
  ((registry_after_merges .standard .standard [[centsRule, centsRule]]).2.2 [centsRule]).2.2.2.2 [plainRule]
    (by simp [Distinct]) (by simp [Distinct]) (by simp [centsRule, plainRule])

end Vetted.Proofs.RegistryOrder
