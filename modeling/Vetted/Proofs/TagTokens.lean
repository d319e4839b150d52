import Vetted.Domain
import Vetted.Rule
import Vetted.Proofs.Sequence
import Vetted.Proofs.TextPieces

namespace Vetted.Proofs.TagTokens

open Sequence TextPieces

variable {tag token name : String} {r : Rule} {rules : List Rule}

theorem ofPieces_eq (tag : String) (pieces : List String) :
    Rule.ofPieces tag pieces = ((pieces.map Text.strip).filter (!·.isEmpty)).mapM (Rule.ofToken tag) := by
  induction pieces with
  | nil => rfl
  | cons piece rest ih =>
      rw [Rule.ofPieces, ih, List.map_cons]
      by_cases hblank : (Text.strip piece).isEmpty = true
      · rw [if_pos hblank, List.filter_cons_of_neg (by simp [hblank])]
      · rw [if_neg hblank, List.filter_cons_of_pos (by simp [hblank]), List.mapM_cons]

theorem parse_eq (tag : String) : Rule.parse tag = (Declaration.tokensOf tag).mapM (Rule.ofToken tag) :=
  ofPieces_eq tag (Text.splitOnChar ',' tag)

theorem ofToken_eq_ok_iff :
    Rule.ofToken tag token = .ok r ↔
      RuleKind.ofName? r.name = some r.kind ∧ Rule.split token = (r.name, r.param) ∧ r.token = token := by
  rw [Rule.ofToken]
  cases hkind : RuleKind.ofName? (Rule.split token).1 with
  | none =>
      refine iff_of_false (by simp [hkind]) ?_
      rintro ⟨hname, hsplit, -⟩
      rw [hsplit, hname] at hkind
      cases hkind
  | some kind =>
      simp only [hkind, Except.ok.injEq]
      constructor
      · rintro rfl
        exact ⟨hkind, rfl, rfl⟩
      · rintro ⟨hname, hsplit, rfl⟩
        rw [hsplit, hname] at hkind
        cases hkind
        rw [hsplit]

theorem ofToken_eq_ok_of_tag (other : String) (h : Rule.ofToken tag token = .ok r) : Rule.ofToken other token = .ok r :=
  ofToken_eq_ok_iff.2 (ofToken_eq_ok_iff.1 h)

theorem map_token_of_parse (h : Rule.parse tag = .ok rules) : rules.map Rule.token = Declaration.tokensOf tag := by
  rw [parse_eq] at h
  have hread := (mapM_eq_ok_iff.1 h).imp fun token r hr => (ofToken_eq_ok_iff.1 hr).2.2.symm
  have heq := List.forall₂_map_right_iff.2 hread
  rw [List.forall₂_eq_eq_eq] at heq
  exact heq.symm

theorem ofToken_of_mem (h : Rule.parse tag = .ok rules) (hr : r ∈ rules) : Rule.ofToken tag r.token = .ok r := by
  rw [parse_eq] at h
  obtain ⟨token, -, htoken⟩ := exists_of_mem_ok h hr
  rwa [(ofToken_eq_ok_iff.1 htoken).2.2]

theorem split_joined (h : '=' ∉ name.toList) (param : String) : Rule.split (name ++ "=" ++ param) = (name, param) := by
  have hcut : Text.cut '=' (name ++ "=" ++ param).toList = (name.toList, some param.toList) := by
    rw [String.toList_append, String.toList_append, List.append_assoc]
    exact cut_append h param.toList
  rw [Rule.split, hcut]
  simp

theorem split_bare (h : '=' ∉ token.toList) : Rule.split token = (token, "") := by
  rw [Rule.split, cut_of_not_mem h]
  simp

theorem exists_joined (h : '=' ∈ token.toList) : ∃ name param, '=' ∉ name.toList ∧ token = name ++ "=" ++ param := by
  obtain ⟨before, after, htoken, hbefore⟩ := List.eq_append_cons_of_mem h
  refine ⟨String.ofList before, String.ofList after, by simpa using hbefore, ?_⟩
  rw [← String.toList_inj, htoken]
  simp

/-- A rule and its token: the name ends before the first equals sign, and the parameter is all that follows it. -/
structure Spells (r : Rule) : Prop where
  name : '=' ∉ r.name.toList
  bare : '=' ∉ r.token.toList → r.token = r.name ∧ r.param = ""
  joined : '=' ∈ r.token.toList → r.token = r.name ++ "=" ++ r.param

theorem spells_of_split (h : Rule.split r.token = (r.name, r.param)) : Spells r := by
  by_cases hequals : '=' ∈ r.token.toList
  · obtain ⟨name, param, hname, htoken⟩ := exists_joined hequals
    rw [htoken, split_joined hname, Prod.mk.injEq] at h
    refine ⟨h.1 ▸ hname, fun hnot => absurd hequals hnot, fun _ => ?_⟩
    rw [htoken, h.1, h.2]
  · rw [split_bare hequals, Prod.mk.injEq] at h
    exact ⟨h.1 ▸ hequals, fun _ => ⟨h.1, h.2.symm⟩, fun hmem => absurd hmem hequals⟩

theorem spells_of_mem (h : Rule.parse tag = .ok rules) (hr : r ∈ rules) : Spells r :=
  spells_of_split (ofToken_eq_ok_iff.1 (ofToken_of_mem h hr)).2.1

theorem startsWith_min_iff (h : Spells r) :
    Text.startsWith r.token "min=" = true ↔ r.name = "min" ∧ '=' ∈ r.token.toList := by
  rw [Text.startsWith, List.isPrefixOf_iff_prefix]
  constructor
  · rintro ⟨rest, hrest⟩
    have hequals : '=' ∈ r.token.toList := by
      rw [← hrest]
      simp
    refine ⟨?_, hequals⟩
    have htoken : r.token = "min" ++ "=" ++ String.ofList rest := by
      rw [← String.toList_inj, ← hrest]
      simp
    have hboth := (split_joined h.name r.param).symm.trans
      ((congrArg Rule.split ((h.joined hequals).symm.trans htoken)).trans (split_joined (by decide) _))
    exact (Prod.mk.inj hboth).1
  · rintro ⟨hname, hequals⟩
    rw [h.joined hequals, hname, String.toList_append]
    exact List.prefix_append _ _

theorem hasMinRule_iff {f : Declaration.Field} (h : Rule.parse f.validateTag = .ok rules) :
    Domain.hasMinRule f = true ↔ ∃ r ∈ rules, r.name = "min" ∧ '=' ∈ r.token.toList := by
  rw [Domain.hasMinRule, Declaration.Field.rules, ← map_token_of_parse h, List.any_map, List.any_eq_true]
  refine exists_congr fun r => and_congr_right fun hr => ?_
  exact startsWith_min_iff (spells_of_mem h hr)

theorem hasMinRule_of_classify {g : Registry} {c : Conventions} {f : Declaration.Field}
    (h : Domain.classify g c f = .hash) : Domain.hasMinRule f = true := by
  rw [Domain.classify] at h
  split at h
  · cases h
  · split at h
    · cases h
    · split at h
      case isTrue hpassword => exact (Bool.and_eq_true_iff.1 hpassword).2
      case isFalse => cases h

/-- The rules of a tag are made of the tokens that the resolver sees, in order, and each is told by its token. The
resolver finds a least length exactly where there is a rule of that name with a parameter, so a field that it takes
for a password has such a rule. -/
theorem rules_of_tokens (f : Declaration.Field) (rules : List Rule) (h : Rule.parse f.validateTag = .ok rules) :
    rules.map Rule.token = f.rules ∧ (∀ r ∈ rules, Spells r) ∧
      (Domain.hasMinRule f = true ↔ ∃ r ∈ rules, r.name = "min" ∧ '=' ∈ r.token.toList) ∧
      ∀ (g : Registry) (c : Conventions), Domain.classify g c f = .hash →
        ∃ r ∈ rules, r.kind = .compare .min ∧ r.name = "min" ∧ r.token = "min=" ++ r.param := by
  refine ⟨map_token_of_parse h, fun r hr => spells_of_mem h hr, hasMinRule_iff h, fun g c hhash => ?_⟩
  obtain ⟨r, hr, hname, hequals⟩ := (hasMinRule_iff h).1 (hasMinRule_of_classify hhash)
  have hkind := (ofToken_eq_ok_iff.1 (ofToken_of_mem h hr)).1
  rw [hname] at hkind
  refine ⟨r, hr, (Option.some.inj hkind).symm, hname, ?_⟩
  rw [(spells_of_mem h hr).joined hequals, hname]
  rfl

/-- A password whose tag has blanks, an empty piece and two equals signs in one token. -/
def spacedField : Declaration.Field :=
  { name := "password", typeName := "bytes", validateTag := "required,, min=8=9 ,max" }

def spacedRules : List Rule :=
  [⟨.required, "required", "", "required"⟩, ⟨.compare .min, "min", "8=9", "min=8=9"⟩, ⟨.compare .max, "max", "", "max"⟩]

theorem spacedField_rules :
    Rule.parse spacedField.validateTag = .ok spacedRules ∧ spacedRules.map Rule.token = spacedField.rules ∧
      Domain.classify .standard {} spacedField = .hash ∧
      ∃ r ∈ spacedRules, r.kind = .compare .min ∧ r.name = "min" ∧ r.token = "min=" ++ r.param := by
  have hparse : Rule.parse spacedField.validateTag = .ok spacedRules := rfl
  have hhash : Domain.classify .standard {} spacedField = .hash := by decide
  obtain ⟨htokens, -, -, hleast⟩ := rules_of_tokens spacedField spacedRules hparse
  exact ⟨hparse, htokens, hhash, hleast .standard {} hhash⟩

end Vetted.Proofs.TagTokens
