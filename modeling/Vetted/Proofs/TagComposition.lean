import Vetted.Proofs.ValidationOutcome

namespace Vetted.Proofs.TagComposition

open Vetted.Validation Sequence TagTokens TextPieces ValidationOutcome

variable {tag token : String} {tokens : List String} {rules more : List Rule}

theorem tokensOf_joined (s t : String) :
    Declaration.tokensOf (s ++ "," ++ t) = Declaration.tokensOf s ++ Declaration.tokensOf t := by
  simp only [Declaration.tokensOf, splitOnChar_joined (by simp : ",".toList = [',']), List.map_append,
    List.filter_append]

structure IsToken (token : String) : Prop where
  noComma : ',' ∉ token.toList
  trimmed : Text.strip token = token
  filled : token.isEmpty = false

theorem isToken_of_mem (h : token ∈ Declaration.tokensOf tag) : IsToken token := by
  obtain ⟨hmem, hfilled⟩ := List.mem_filter.1 h
  obtain ⟨piece, hpiece, rfl⟩ := List.mem_map.1 hmem
  obtain ⟨cs, hcs, rfl⟩ := List.mem_map.1 hpiece
  refine ⟨?_, strip_strip _, by simpa using hfilled⟩
  apply not_mem_strip
  simpa using not_mem_of_mem_pieces hcs

theorem tokensOf_intercalate (h : ∀ token ∈ tokens, IsToken token) :
    Declaration.tokensOf (",".intercalate tokens) = tokens := by
  by_cases hnone : tokens = []
  · subst hnone
    rfl
  · have hsplit : Text.splitOnChar ',' (",".intercalate tokens) = tokens :=
      splitOnChar_intercalate (by simp) hnone fun token htoken => (h token htoken).noComma
    have hstrip : tokens.map Text.strip = tokens :=
      (List.map_congr_left fun token htoken => (h token htoken).trimmed).trans (List.map_id tokens)
    rw [Declaration.tokensOf, hsplit, hstrip, List.filter_eq_self]
    intro token htoken
    simp [(h token htoken).filled]

theorem mapM_ofToken_iff (tag other : String) :
    tokens.mapM (Rule.ofToken tag) = .ok rules ↔ tokens.mapM (Rule.ofToken other) = .ok rules := by
  rw [mapM_eq_ok_iff, mapM_eq_ok_iff]
  constructor
  · intro hread
    exact hread.imp fun token r hr => ofToken_eq_ok_of_tag other hr
  · intro hread
    exact hread.imp fun token r hr => ofToken_eq_ok_of_tag tag hr

theorem parse_joined_iff (s t : String) (rules : List Rule) :
    Rule.parse (s ++ "," ++ t) = .ok rules ↔
      ∃ first, Rule.parse s = .ok first ∧ ∃ second, Rule.parse t = .ok second ∧ first ++ second = rules := by
  rw [parse_eq, tokensOf_joined, List.mapM_append, bind_eq_ok_iff]
  refine exists_congr fun first => and_congr ?_ ?_
  · rw [parse_eq]
    exact mapM_ofToken_iff _ _
  · rw [bind_eq_ok_iff]
    refine exists_congr fun second => and_congr ?_ pure_eq_ok_iff
    rw [parse_eq]
    exact mapM_ofToken_iff _ _

theorem parse_intercalate (h : Rule.parse tag = .ok rules) :
    Rule.parse (",".intercalate (rules.map Rule.token)) = .ok rules := by
  rw [parse_eq, map_token_of_parse h, tokensOf_intercalate fun token => isToken_of_mem, mapM_ofToken_iff _ tag,
    ← parse_eq]
  exact h

def excuses (v : Value) (r : Rule) : Bool := r.kind = .omitEmpty && v.isZero

theorem checkRules_append (name : String) (v : Value) (rules more : List Rule) :
    checkRules name v (rules ++ more) =
      match checkRules name v rules with
      | .ok none => if rules.any (excuses v) then .ok none else checkRules name v more
      | o => o := by
  induction rules with
  | nil => simp [checkRules]
  | cons r rest ih =>
      rw [List.cons_append]
      by_cases hexcused : r.kind = .omitEmpty ∧ IsEmpty v
      · have hr : excuses v r = true := by simp [excuses, hexcused.1, (isZero_iff v).2 hexcused.2]
        rw [checkRules_excused hexcused.1 hexcused.2, checkRules_excused hexcused.1 hexcused.2]
        simp [hr]
      · have hr : excuses v r = false := by
          rw [← isZero_iff] at hexcused
          simpa [excuses] using hexcused
        rw [checkRules_cons hexcused, checkRules_cons hexcused]
        cases r.check v with
        | pass => simp [ih, hr]
        | broken message => rfl
        | tooLong => rfl
        | fault f => rfl

theorem ofName?_eq_omitEmpty_iff {name : String} : RuleKind.ofName? name = some .omitEmpty ↔ name = "omitempty" := by
  unfold RuleKind.ofName?
  split <;> simp_all

theorem kind_eq_omitEmpty_iff {r : Rule} (h : Rule.parse tag = .ok rules) (hr : r ∈ rules) :
    r.kind = .omitEmpty ↔ r.name = "omitempty" := by
  rw [← ofName?_eq_omitEmpty_iff, (ofToken_eq_ok_iff.1 (ofToken_of_mem h hr)).1, Option.some_inj]

theorem any_excuses_iff (h : Rule.parse tag = .ok rules) (v : Value) :
    rules.any (excuses v) = true ↔ (∃ r ∈ rules, r.name = "omitempty") ∧ IsEmpty v := by
  simp only [List.any_eq_true, excuses, Bool.and_eq_true, decide_eq_true_eq, isZero_iff, ← and_assoc, exists_and_right]
  refine and_congr_left fun _ => exists_congr fun r => and_congr_right fun hr => ?_
  exact kind_eq_omitEmpty_iff h hr

theorem checkTagged_some (name : String) (v : Value) (h : Rule.parse tag = .ok rules) :
    checkTagged ⟨name, v, some tag⟩ = checkRules name v rules :=
  checkTagged_eq h

/-- A joined tag can be read exactly if both of its parts can, and has their rules one after the other; the tokens of
a tag, joined again, are read as the same rules. Where no rule of the first part may excuse a value, the check of a
field stops in the first part if that is not passed, and is that of the second part if it is. An empty value that is
excused in the first part and passes it passes the joined tag, whatever the second part says. -/
theorem joined_tags (s t : String) :
    ((∃ rules, Rule.parse (s ++ "," ++ t) = .ok rules) ↔
      (∃ first, Rule.parse s = .ok first) ∧ ∃ second, Rule.parse t = .ok second) ∧
    (∀ first, Rule.parse s = .ok first → Rule.parse (",".intercalate (first.map Rule.token)) = .ok first) ∧
    ∀ first second, Rule.parse s = .ok first → Rule.parse t = .ok second →
      Rule.parse (s ++ "," ++ t) = .ok (first ++ second) ∧
      ∀ (name : String) (v : Value),
        ((∀ r ∈ first, r.name ≠ "omitempty") →
          checkTagged ⟨name, v, some (s ++ "," ++ t)⟩ =
            match checkTagged ⟨name, v, some s⟩ with
            | .ok none => checkTagged ⟨name, v, some t⟩
            | outcome => outcome) ∧
        ((∃ r ∈ first, r.name = "omitempty") → checkTagged ⟨name, v, some s⟩ = .ok none → IsEmpty v →
          checkTagged ⟨name, v, some (s ++ "," ++ t)⟩ = .ok none) := by
  refine ⟨?_, fun first => parse_intercalate, fun first second hfirst hsecond => ?_⟩
  · constructor
    · rintro ⟨rules, hrules⟩
      obtain ⟨first, hfirst, second, hsecond, -⟩ := (parse_joined_iff s t rules).1 hrules
      exact ⟨⟨first, hfirst⟩, ⟨second, hsecond⟩⟩
    · rintro ⟨⟨first, hfirst⟩, ⟨second, hsecond⟩⟩
      exact ⟨_, (parse_joined_iff s t _).2 ⟨first, hfirst, second, hsecond, rfl⟩⟩
  · have hjoined := (parse_joined_iff s t _).2 ⟨first, hfirst, second, hsecond, rfl⟩
    refine ⟨hjoined, fun name v => ?_⟩
    rw [checkTagged_some name v hjoined, checkTagged_some name v hfirst, checkTagged_some name v hsecond,
      checkRules_append]
    constructor
    · intro hnone
      have hexcused : first.any (excuses v) = false := by
        rw [Bool.eq_false_iff, ne_eq, any_excuses_iff hfirst]
        rintro ⟨⟨r, hr, hname⟩, -⟩
        exact hnone r hr hname
      simp only [hexcused, Bool.false_eq_true, if_false]
    · intro hrule hpass hempty
      have hexcused : first.any (excuses v) = true := (any_excuses_iff hfirst v).2 ⟨hrule, hempty⟩
      simp only [hpass, hexcused, if_true]

/-- An empty name passes where it is excused before its least length is asked for, and not where it is excused after
that. -/
theorem excused_joined_tags :
    checkTagged ⟨"nick", .text "", some ("max=5, omitempty" ++ "," ++ "min=2")⟩ = .ok none ∧
      checkTagged ⟨"nick", .text "", some ("max=5" ++ "," ++ "min=2,omitempty")⟩ =
        .ok (some ⟨"nick", "min=2", "length must be at least 2", .text ""⟩) := by
  have hlongest : Rule.parse "max=5" = .ok [⟨.compare .max, "max", "5", "max=5"⟩] := rfl
  have hexcused : Rule.parse "max=5, omitempty" =
      .ok [⟨.compare .max, "max", "5", "max=5"⟩, ⟨.omitEmpty, "omitempty", "", "omitempty"⟩] := rfl
  have hleast : Rule.parse "min=2" = .ok [⟨.compare .min, "min", "2", "min=2"⟩] := rfl
  have hlater : Rule.parse "min=2,omitempty" =
      .ok [⟨.compare .min, "min", "2", "min=2"⟩, ⟨.omitEmpty, "omitempty", "", "omitempty"⟩] := rfl
  constructor
  · have hboth := ((joined_tags _ _).2.2 _ _ hexcused hleast).2 "nick" (.text "")
    exact hboth.2 ⟨_, List.mem_cons_of_mem _ List.mem_cons_self, rfl⟩ rfl (.sized rfl)
  · have hboth := ((joined_tags _ _).2.2 _ _ hlongest hlater).2 "nick" (.text "")
    rw [hboth.1 (by simp)]
    rfl

end Vetted.Proofs.TagComposition
