import Vetted.Proofs.TagTokens
import Vetted.Validation

namespace Vetted.Proofs.ValidationOutcome

open Vetted.Validation Sequence TagTokens

def ruleNames : List String :=
  ["omitempty", "required", "min", "max", "len", "eq", "ne", "gt", "gte", "lt", "lte", "oneof", "email"]

def Unknown (token : String) : Prop := (Rule.split token).1 ∉ ruleNames

/-- A tag with a token that names no rule. -/
def HasUnknown (f : Field) : Prop := ∃ tag, f.tag = some tag ∧ ∃ token ∈ Declaration.tokensOf tag, Unknown token

/-- No value, false, a number that is zero, or a collection or text that holds nothing. -/
inductive IsEmpty : Value → Prop
  | none : IsEmpty .none
  | false : IsEmpty (.bool false)
  | int : IsEmpty (.int 0)
  | float {negative : Bool} {exponent : Int} : IsEmpty (.float (.finite negative ⟨0, exponent⟩))
  | decimal {negative : Bool} {exponent : Int} : IsEmpty (.decimal (.finite negative 0 exponent))
  | sized {v : Value} : v.size? = some 0 → IsEmpty v

/-- A rule lets a value on to the next one: it passes, and it does not excuse an empty value from the rest. -/
def LetsOn (v : Value) (r : Rule) : Prop := r.check v = .pass ∧ ¬(r.kind = .omitEmpty ∧ IsEmpty v)

def Reached (v : Value) (rules : List Rule) (r : Rule) : Prop :=
  ∃ before after, rules = before ++ r :: after ∧ ∀ q ∈ before, LetsOn v q

/-- The check of a field reaches a rule that cannot be applied. -/
def Faults (f : Field) (fault : RuleFault) : Prop :=
  ∃ rules r, rulesOf f.tag = .ok rules ∧ Reached f.value rules r ∧ r.check f.value = .fault fault

/-- The violation that a rule finds on a field. -/
inductive Finds (f : Field) (r : Rule) : Violation → Prop
  | broken {message : String} : r.check f.value = .broken message → Finds f r ⟨f.name, r.token, message, f.value⟩
  | tooLong : r.check f.value = .tooLong →
      Finds f r ⟨f.name, "value_error", "Value error, " ++ tooLongMessage, f.value⟩

def Violates (f : Field) (violation : Violation) : Prop :=
  ∃ rules r, rulesOf f.tag = .ok rules ∧ Reached f.value rules r ∧ Finds f r violation

def Fails (f : Field) : Prop := ∃ violation, Violates f violation

open scoped Classical in
noncomputable def failing (fields : List Field) : List Field := fields.filter (Fails ·)

inductive Outcome (typeName : String) (fields : List Field) : Except Problem Unit → Prop
  | unknown {before after : List Field} {f : Field} {tag token : String} {earlier later : List String} :
      fields = before ++ f :: after → (∀ g ∈ before, ¬HasUnknown g) → f.tag = some tag →
      Declaration.tokensOf tag = earlier ++ token :: later → (∀ t ∈ earlier, ¬Unknown t) → Unknown token →
      Outcome typeName fields (.error (.fault (.undefinedRule (Rule.split token).1 tag)))
  | fault {before after : List Field} {f : Field} {fault : RuleFault} :
      (∀ g ∈ fields, ¬HasUnknown g) → fields = before ++ f :: after → (∀ g ∈ before, ∀ e, ¬Faults g e) →
      Faults f fault → Outcome typeName fields (.error (.fault fault))
  | unencodable {before after : List Violation} {violation : Violation} {fault : Text.HalfFault} :
      (∀ g ∈ fields, ¬HasUnknown g) → (∀ g ∈ fields, ∀ e, ¬Faults g e) →
      List.Forall₂ Violates (failing fields) (before ++ violation :: after) →
      (∀ v ∈ before, v.unencodable? = none) → violation.unencodable? = some fault →
      Outcome typeName fields (.error (.unencodable fault))
  | invalid {violations : List Violation} :
      (∀ g ∈ fields, ¬HasUnknown g) → (∀ g ∈ fields, ∀ e, ¬Faults g e) → (∃ f ∈ fields, Fails f) →
      List.Forall₂ Violates (failing fields) violations → (∀ v ∈ violations, v.unencodable? = none) →
      Outcome typeName fields (.error (.invalid ⟨typeName, violations⟩))
  | passed :
      (∀ g ∈ fields, ¬HasUnknown g) → (∀ g ∈ fields, ∀ e, ¬Faults g e) → (∀ f ∈ fields, ¬Fails f) →
      Outcome typeName fields (.ok ())

theorem ofName?_eq_none_iff (name : String) : RuleKind.ofName? name = none ↔ name ∉ ruleNames := by
  unfold RuleKind.ofName?
  split <;> simp_all [ruleNames]

theorem isZero_iff (v : Value) : v.isZero = true ↔ IsEmpty v := by
  constructor
  · intro h
    cases v with
    | none => exact .none
    | bool b =>
        cases b with
        | false => exact .false
        | true => simp [Value.isZero] at h
    | int n =>
        obtain rfl : n = 0 := by simpa [Value.isZero] using h
        exact .int
    | float x =>
        rcases x with ⟨negative, ⟨digits, exponent⟩⟩ | _ | _
        · obtain rfl : digits = 0 := by simpa [Value.isZero, Number.Floating.isZero] using h
          exact .float
        · simp [Value.isZero, Number.Floating.isZero] at h
        · simp [Value.isZero, Number.Floating.isZero] at h
    | decimal d =>
        rcases d with ⟨negative, digits, exponent⟩ | _ | _
        · obtain rfl : digits = 0 := by simpa [Value.isZero, Number.Decimal.isZero] using h
          exact .decimal
        · simp [Value.isZero, Number.Decimal.isZero] at h
        · simp [Value.isZero, Number.Decimal.isZero] at h
    | text | bytes | byteArray | list | tuple | set | frozenSet | dict | date | moment =>
        exact .sized (by simpa [Value.isZero] using h)
  · intro h
    cases h with
    | none | false | int | float | decimal => rfl
    | sized h => cases v <;> simp_all [Value.isZero, Value.size?]

theorem ofToken_eq_ok {tag token : String} (h : ¬Unknown token) : ∃ r, Rule.ofToken tag token = .ok r := by
  cases hk : RuleKind.ofName? (Rule.split token).1 with
  | none => exact absurd ((ofName?_eq_none_iff _).1 hk) h
  | some kind => simp [Rule.ofToken, hk]

theorem ofToken_eq_error_iff {tag token : String} {e : RuleFault} :
    Rule.ofToken tag token = .error e ↔ Unknown token ∧ e = .undefinedRule (Rule.split token).1 tag := by
  unfold Unknown
  rw [← ofName?_eq_none_iff]
  cases hk : RuleKind.ofName? (Rule.split token).1 with
  | none => simp [Rule.ofToken, hk, eq_comm]
  | some kind => simp [Rule.ofToken, hk]

theorem rulesOf_eq_ok_iff {f : Field} : (∃ rules, rulesOf f.tag = .ok rules) ↔ ¬HasUnknown f := by
  cases htag : f.tag with
  | none => simp [rulesOf, HasUnknown, htag]
  | some tag =>
      constructor
      · rintro ⟨rules, hrules⟩ ⟨tag', htag', token, htoken, hunknown⟩
        obtain rfl : tag = tag' := by simpa [htag] using htag'
        rw [rulesOf, parse_eq] at hrules
        obtain ⟨r, _, hok⟩ := exists_ok_of_mem hrules htoken
        rw [ofToken_eq_error_iff.2 ⟨hunknown, rfl⟩] at hok
        cases hok
      · intro hknown
        cases hrules : Rule.parse tag with
        | ok rules => exact ⟨rules, hrules⟩
        | error e =>
            rw [parse_eq] at hrules
            obtain ⟨earlier, token, later, htokens, _, herror⟩ := mapM_eq_error_iff.1 hrules
            have hunknown := (ofToken_eq_error_iff.1 herror).1
            exact absurd ⟨tag, htag, token, by simp [htokens], hunknown⟩ hknown

theorem rulesOf_eq_error_iff {f : Field} {e : RuleFault} :
    rulesOf f.tag = .error e ↔
      ∃ tag earlier token later, f.tag = some tag ∧ Declaration.tokensOf tag = earlier ++ token :: later ∧
        (∀ t ∈ earlier, ¬Unknown t) ∧ Unknown token ∧ e = .undefinedRule (Rule.split token).1 tag := by
  cases htag : f.tag with
  | none => simp [rulesOf]
  | some tag =>
      have hparse : rulesOf (some tag) = (Declaration.tokensOf tag).mapM (Rule.ofToken tag) := parse_eq tag
      rw [hparse, mapM_eq_error_iff]
      constructor
      · rintro ⟨earlier, token, later, htokens, hearlier, herror⟩
        obtain ⟨hunknown, rfl⟩ := ofToken_eq_error_iff.1 herror
        refine ⟨tag, earlier, token, later, rfl, htokens, ?_, hunknown, rfl⟩
        intro t ht hbad
        obtain ⟨r, hr⟩ := hearlier t ht
        rw [ofToken_eq_error_iff.2 ⟨hbad, rfl⟩] at hr
        cases hr
      · rintro ⟨tag', earlier, token, later, htag', htokens, hearlier, hunknown, rfl⟩
        obtain rfl : tag = tag' := by simpa using htag'
        exact ⟨earlier, token, later, htokens, fun t ht => ofToken_eq_ok (hearlier t ht),
          ofToken_eq_error_iff.2 ⟨hunknown, rfl⟩⟩

theorem check_omitEmpty {r : Rule} (h : r.kind = .omitEmpty) (v : Value) : r.check v = .pass := by
  simp [Rule.check, h]

theorem reached_cons {v : Value} {q r : Rule} {rest : List Rule} :
    Reached v (q :: rest) r ↔ r = q ∨ LetsOn v q ∧ Reached v rest r := by
  constructor
  · rintro ⟨before, after, hrules, hbefore⟩
    cases before with
    | nil => exact .inl (List.cons.inj hrules).1.symm
    | cons p before =>
        obtain ⟨rfl, hrest⟩ := List.cons.inj hrules
        exact .inr ⟨hbefore q (by simp), before, after, hrest, fun p hp => hbefore p (by simp [hp])⟩
  · rintro (rfl | ⟨hq, before, after, rfl, hbefore⟩)
    · exact ⟨[], rest, rfl, by simp⟩
    · refine ⟨q :: before, after, rfl, ?_⟩
      rintro p (_ | ⟨_, hp⟩)
      · exact hq
      · exact hbefore p hp

theorem checkRules_excused {name : String} {v : Value} {r : Rule} {rest : List Rule}
    (hkind : r.kind = .omitEmpty) (hv : IsEmpty v) : checkRules name v (r :: rest) = .ok none := by
  simp [checkRules, hkind, (isZero_iff v).2 hv]

theorem checkRules_cons {name : String} {v : Value} {r : Rule} {rest : List Rule}
    (h : ¬(r.kind = .omitEmpty ∧ IsEmpty v)) :
    checkRules name v (r :: rest) =
      match r.check v with
      | .pass => checkRules name v rest
      | .broken message => .ok (some ⟨name, r.token, message, v⟩)
      | .tooLong => .ok (some ⟨name, "value_error", "Value error, " ++ tooLongMessage, v⟩)
      | .fault f => .error f := by
  rw [← isZero_iff] at h
  rw [checkRules]
  refine (if_neg (by simpa using h)).trans ?_
  cases r.check v <;> rfl

theorem checkRules_eq_error_iff {name : String} {v : Value} {rules : List Rule} {e : RuleFault} :
    checkRules name v rules = .error e ↔ ∃ r, Reached v rules r ∧ r.check v = .fault e := by
  induction rules with
  | nil => simp [checkRules, Reached]
  | cons q rest ih =>
      simp only [reached_cons]
      by_cases hq : q.kind = .omitEmpty ∧ IsEmpty v
      · have hcheck := check_omitEmpty hq.1 v
        simp [checkRules_excused hq.1 hq.2, LetsOn, hq, hcheck]
      · rw [checkRules_cons hq]
        cases hcheck : q.check v <;> simp [LetsOn, hq, hcheck, ih]

theorem finds_iff {f : Field} {r : Rule} {violation : Violation} :
    Finds f r violation ↔
      (∃ message, r.check f.value = .broken message ∧ ⟨f.name, r.token, message, f.value⟩ = violation) ∨
        r.check f.value = .tooLong ∧
          ⟨f.name, "value_error", "Value error, " ++ tooLongMessage, f.value⟩ = violation := by
  constructor
  · rintro (⟨hcheck⟩ | ⟨hcheck⟩)
    · exact .inl ⟨_, hcheck, rfl⟩
    · exact .inr ⟨hcheck, rfl⟩
  · rintro (⟨message, hcheck, rfl⟩ | ⟨hcheck, rfl⟩)
    · exact .broken hcheck
    · exact .tooLong hcheck

theorem checkRules_eq_some_iff {f : Field} {rules : List Rule} {violation : Violation} :
    checkRules f.name f.value rules = .ok (some violation) ↔
      ∃ r, Reached f.value rules r ∧ Finds f r violation := by
  induction rules with
  | nil => simp [checkRules, Reached]
  | cons q rest ih =>
      have hcons : (∃ r, Reached f.value (q :: rest) r ∧ Finds f r violation) ↔
          Finds f q violation ∨ LetsOn f.value q ∧ ∃ r, Reached f.value rest r ∧ Finds f r violation := by
        simp only [reached_cons, or_and_right, exists_or, exists_eq_left, and_assoc, exists_and_left]
      rw [hcons, ← ih, finds_iff]
      by_cases hq : q.kind = .omitEmpty ∧ IsEmpty f.value
      · have hcheck := check_omitEmpty hq.1 f.value
        simp [checkRules_excused hq.1 hq.2, LetsOn, hq, hcheck]
      · rw [checkRules_cons hq]
        cases hcheck : q.check f.value <;> simp [LetsOn, hq, hcheck]

/-- The violation of a field whose tag is still to be read. -/
def checkTagged (f : Field) : Except RuleFault (Option Violation) := do checkField (f, ← rulesOf f.tag)

theorem checkTagged_eq {f : Field} {rules : List Rule} (h : rulesOf f.tag = .ok rules) :
    checkTagged f = checkRules f.name f.value rules := by
  simp [checkTagged, h, checkField, bind, Except.bind]

theorem checkTagged_eq_error_iff {f : Field} (h : ¬HasUnknown f) {e : RuleFault} :
    checkTagged f = .error e ↔ Faults f e := by
  obtain ⟨rules, hrules⟩ := rulesOf_eq_ok_iff.2 h
  rw [checkTagged_eq hrules, checkRules_eq_error_iff]
  simp [Faults, hrules]

theorem checkTagged_eq_some_iff {f : Field} {violation : Violation} :
    checkTagged f = .ok (some violation) ↔ Violates f violation := by
  cases hrules : rulesOf f.tag with
  | error e => simp [checkTagged, Violates, hrules, bind, Except.bind]
  | ok rules =>
      rw [checkTagged_eq hrules, checkRules_eq_some_iff]
      simp [Violates, hrules]

theorem violates_rightUnique : Relator.RightUnique Violates := by
  intro f v w hv hw
  rw [← checkTagged_eq_some_iff] at hv hw
  simpa [hv] using hw

theorem mapM_checkTagged {fields : List Field} {ruled : List (Field × List Rule)}
    (h : fields.mapM withRules = .ok ruled) :
    ruled.mapM checkField = fields.mapM checkTagged := by
  have hpairs := mapM_eq_ok_iff.1 h
  clear h
  induction hpairs with
  | nil => rfl
  | @cons f pair fields ruled hpair hrest ih =>
      obtain ⟨rules, hrules, hreturn⟩ := bind_eq_ok_iff.1 hpair
      obtain rfl := pure_eq_ok_iff.1 hreturn
      have hf : checkTagged f = checkField (f, rules) := by
        simp [checkTagged, hrules, bind, Except.bind]
      rw [List.mapM_cons, List.mapM_cons, ih, hf]

theorem mem_failing {fields : List Field} {f : Field} : f ∈ failing fields ↔ f ∈ fields ∧ Fails f := by
  simp [failing]

theorem failing_eq_nil_iff {fields : List Field} : failing fields = [] ↔ ∀ f ∈ fields, ¬Fails f := by
  simp [failing]

theorem exists_violates {fields : List Field} {violations : List Violation}
    (h : List.Forall₂ Violates fields violations) {violation : Violation} (hmem : violation ∈ violations) :
    ∃ f ∈ fields, Violates f violation := by
  induction h with
  | nil => cases hmem
  | @cons f v fields violations hv hrest ih =>
      obtain rfl | hmem := List.mem_cons.1 hmem
      · exact ⟨f, List.mem_cons_self, hv⟩
      · obtain ⟨g, hg, hviolates⟩ := ih hmem
        exact ⟨g, List.mem_cons_of_mem f hg, hviolates⟩

theorem exists_violation {fields : List Field} {violations : List Violation}
    (h : List.Forall₂ Violates fields violations) {f : Field} (hmem : f ∈ fields) :
    ∃ v ∈ violations, Violates f v := by
  induction h with
  | nil => cases hmem
  | @cons g v fields violations hv hrest ih =>
      obtain rfl | hmem := List.mem_cons.1 hmem
      · exact ⟨v, List.mem_cons_self, hv⟩
      · obtain ⟨v', hv', hviolates⟩ := ih hmem
        exact ⟨v', List.mem_cons_of_mem v hv', hviolates⟩

theorem filterMap_violates {fields : List Field} {found : List (Option Violation)}
    (h : fields.mapM checkTagged = .ok found) :
    List.Forall₂ Violates (failing fields) (found.filterMap id) := by
  have hfound := mapM_eq_ok_iff.1 h
  clear h
  induction hfound with
  | nil => exact .nil
  | @cons f o fields found hf hrest ih =>
      cases o with
      | none =>
          have hpass : ¬Fails f := by
            rintro ⟨v, hv⟩
            rw [checkTagged_eq_some_iff.2 hv] at hf
            cases hf
          simpa [failing, hpass] using ih
      | some v =>
          have hv := checkTagged_eq_some_iff.1 hf
          have hfail : Fails f := ⟨v, hv⟩
          simpa [failing, hfail] using ⟨hv, ih⟩

theorem mapM_rules_eq_error_iff {fields : List Field} {e : RuleFault} :
    fields.mapM withRules = .error e ↔
      ∃ before f after, fields = before ++ f :: after ∧ (∀ g ∈ before, ¬HasUnknown g) ∧ rulesOf f.tag = .error e := by
  rw [mapM_eq_error_iff]
  constructor
  · rintro ⟨before, f, after, hfields, hbefore, hf⟩
    refine ⟨before, f, after, hfields, ?_, ?_⟩
    · intro g hg
      obtain ⟨pair, hpair⟩ := hbefore g hg
      obtain ⟨rules, hrules, _⟩ := bind_eq_ok_iff.1 hpair
      exact rulesOf_eq_ok_iff.1 ⟨rules, hrules⟩
    · obtain hrules | ⟨rules, _, hreturn⟩ := bind_eq_error_iff.1 hf
      · exact hrules
      · cases hreturn
  · rintro ⟨before, f, after, hfields, hbefore, hf⟩
    refine ⟨before, f, after, hfields, ?_, bind_eq_error_iff.2 (.inl hf)⟩
    intro g hg
    obtain ⟨rules, hrules⟩ := rulesOf_eq_ok_iff.2 (hbefore g hg)
    exact ⟨(g, rules), bind_eq_ok_iff.2 ⟨rules, hrules, rfl⟩⟩

theorem validate_unknown {typeName : String} {fields : List Field} {e : RuleFault}
    (h : fields.mapM withRules = .error e) :
    validate typeName fields = .error (.fault e) := by
  rw [validate, h]
  rfl

theorem validate_known {fields : List Field} (typeName : String) (h : ∀ g ∈ fields, ¬HasUnknown g) :
    validate typeName fields = (fields.mapM checkTagged).mapError .fault >>= conclude typeName := by
  cases hruled : fields.mapM withRules with
  | error e =>
      obtain ⟨before, f, after, rfl, _, hf⟩ := mapM_rules_eq_error_iff.1 hruled
      obtain ⟨rules, hrules⟩ := rulesOf_eq_ok_iff.2 (h f (by simp))
      rw [hf] at hrules
      cases hrules
  | ok ruled =>
      rw [validate, hruled, ← mapM_checkTagged hruled]
      rfl

theorem conclude_nil {typeName : String} {found : List (Option Violation)} (h : found.filterMap id = []) :
    conclude typeName found = .ok () := by
  rw [conclude, h]

theorem conclude_told {typeName : String} {found : List (Option Violation)} {violations : List Violation}
    (h : found.filterMap id = violations) (hsome : violations ≠ []) (htold : ∀ v ∈ violations, v.unencodable? = none) :
    conclude typeName found = .error (.invalid ⟨typeName, violations⟩) := by
  have hnone : violations.findSome? Violation.unencodable? = none := List.findSome?_eq_none_iff.2 htold
  rw [conclude, h]
  cases violations with
  | nil => exact absurd rfl hsome
  | cons v vs => simp only [hnone]

theorem conclude_untold {typeName : String} {found : List (Option Violation)} {violations : List Violation}
    {fault : Text.HalfFault} (h : found.filterMap id = violations)
    (huntold : violations.findSome? Violation.unencodable? = some fault) :
    conclude typeName found = .error (.unencodable fault) := by
  rw [conclude, h]
  cases violations with
  | nil => cases huntold
  | cons v vs => simp only [huntold]

theorem mapM_checkTagged_eq_error_iff {fields : List Field} (h : ∀ g ∈ fields, ¬HasUnknown g) {e : RuleFault} :
    fields.mapM checkTagged = .error e ↔
      ∃ before f after, fields = before ++ f :: after ∧ (∀ g ∈ before, ∀ e, ¬Faults g e) ∧ Faults f e := by
  rw [mapM_eq_error_iff]
  constructor
  · rintro ⟨before, f, after, rfl, hbefore, hf⟩
    refine ⟨before, f, after, rfl, ?_, (checkTagged_eq_error_iff (h f (by simp))).1 hf⟩
    intro g hg d hd
    obtain ⟨o, ho⟩ := hbefore g hg
    rw [(checkTagged_eq_error_iff (h g (by simp [hg]))).2 hd] at ho
    cases ho
  · rintro ⟨before, f, after, rfl, hbefore, hf⟩
    refine ⟨before, f, after, rfl, ?_, (checkTagged_eq_error_iff (h f (by simp))).2 hf⟩
    intro g hg
    cases hcheck : checkTagged g with
    | ok o => exact ⟨o, rfl⟩
    | error d => exact absurd ((checkTagged_eq_error_iff (h g (by simp [hg]))).1 hcheck) (hbefore g hg d)

theorem rules_of_no_tokens {f : Field} (h : ∀ tag, f.tag = some tag → Declaration.tokensOf tag = []) :
    rulesOf f.tag = .ok [] := by
  cases htag : f.tag with
  | none => rfl
  | some tag => simp [rulesOf, parse_eq, h tag htag, pure, Except.pure]

theorem outcome_validate (typeName : String) (fields : List Field) :
    Outcome typeName fields (validate typeName fields) := by
  cases hruled : fields.mapM withRules with
  | error e =>
      obtain ⟨before, f, after, hfields, hbefore, hf⟩ := mapM_rules_eq_error_iff.1 hruled
      obtain ⟨tag, earlier, token, later, htag, htokens, hearlier, hunknown, rfl⟩ := rulesOf_eq_error_iff.1 hf
      rw [validate_unknown hruled]
      exact .unknown hfields hbefore htag htokens hearlier hunknown
  | ok ruled =>
      have hknown : ∀ g ∈ fields, ¬HasUnknown g := by
        intro g hg
        obtain ⟨pair, _, hpair⟩ := exists_ok_of_mem hruled hg
        obtain ⟨rules, hrules, _⟩ := bind_eq_ok_iff.1 hpair
        exact rulesOf_eq_ok_iff.1 ⟨rules, hrules⟩
      cases hfound : fields.mapM checkTagged with
      | error e =>
          obtain ⟨before, f, after, hfields, hbefore, hf⟩ := (mapM_checkTagged_eq_error_iff hknown).1 hfound
          rw [validate_known typeName hknown, hfound]
          exact .fault hknown hfields hbefore hf
      | ok found =>
          have hsound : ∀ g ∈ fields, ∀ e, ¬Faults g e := by
            intro g hg e he
            obtain ⟨o, _, hok⟩ := exists_ok_of_mem hfound hg
            rw [(checkTagged_eq_error_iff (hknown g hg)).2 he] at hok
            cases hok
          have hviolates := filterMap_violates hfound
          rw [validate_known typeName hknown, hfound]
          change Outcome typeName fields (conclude typeName found)
          cases hviolations : found.filterMap id with
          | nil =>
              rw [hviolations] at hviolates
              rw [conclude_nil hviolations]
              exact .passed hknown hsound (failing_eq_nil_iff.1 (List.forall₂_nil_right_iff.1 hviolates))
          | cons v vs =>
              rw [hviolations] at hviolates
              cases huntold : (v :: vs).findSome? Violation.unencodable? with
              | some fault =>
                  obtain ⟨before, w, after, hsplit, hw, hbefore⟩ := List.findSome?_eq_some_iff.1 huntold
                  rw [conclude_untold hviolations huntold]
                  exact .unencodable hknown hsound (hsplit ▸ hviolates) hbefore hw
              | none =>
                  have htold := List.findSome?_eq_none_iff.1 huntold
                  rw [conclude_told hviolations (List.cons_ne_nil v vs) htold]
                  obtain ⟨f, fs, _, _, hfailing⟩ := List.forall₂_cons_right_iff.1 hviolates
                  have hf : f ∈ failing fields := by simp [hfailing]
                  exact .invalid hknown hsound ⟨f, mem_failing.1 hf⟩ hviolates htold

theorem mapM_checkTagged_ok {fields : List Field} (hknown : ∀ g ∈ fields, ¬HasUnknown g)
    (hsound : ∀ g ∈ fields, ∀ e, ¬Faults g e) : ∃ found, fields.mapM checkTagged = .ok found := by
  cases hfound : fields.mapM checkTagged with
  | ok found => exact ⟨found, rfl⟩
  | error e =>
      obtain ⟨before, f, after, rfl, _, hf⟩ := (mapM_checkTagged_eq_error_iff hknown).1 hfound
      exact absurd hf (hsound f (by simp) e)

theorem validate_eq_of_outcome {typeName : String} {fields : List Field} {o : Except Problem Unit}
    (h : Outcome typeName fields o) : validate typeName fields = o := by
  cases h with
  | unknown hfields hbefore htag htokens hearlier hunknown =>
      have hrules := rulesOf_eq_error_iff.2 ⟨_, _, _, _, htag, htokens, hearlier, hunknown, rfl⟩
      exact validate_unknown (mapM_rules_eq_error_iff.2 ⟨_, _, _, hfields, hbefore, hrules⟩)
  | fault hknown hfields hbefore hf =>
      rw [validate_known typeName hknown,
        (mapM_checkTagged_eq_error_iff hknown).2 ⟨_, _, _, hfields, hbefore, hf⟩]
      rfl
  | @unencodable before after violation fault hknown hsound hviolates hbefore huntold =>
      obtain ⟨found, hfound⟩ := mapM_checkTagged_ok hknown hsound
      have hsame := List.right_unique_forall₂' violates_rightUnique (filterMap_violates hfound) hviolates
      rw [validate_known typeName hknown, hfound]
      exact conclude_untold hsame (List.findSome?_eq_some_iff.2 ⟨before, violation, after, rfl, huntold, hbefore⟩)
  | @invalid violations hknown hsound hfails hviolates htold =>
      obtain ⟨found, hfound⟩ := mapM_checkTagged_ok hknown hsound
      have hsame := List.right_unique_forall₂' violates_rightUnique (filterMap_violates hfound) hviolates
      have hsome : violations ≠ [] := by
        rintro rfl
        obtain ⟨f, hf, hff⟩ := hfails
        exact absurd hff (failing_eq_nil_iff.1 (List.forall₂_nil_right_iff.1 hviolates) f hf)
      rw [validate_known typeName hknown, hfound]
      exact conclude_told hsame hsome htold
  | passed hknown hsound hpass =>
      obtain ⟨found, hfound⟩ := mapM_checkTagged_ok hknown hsound
      have hviolates := filterMap_violates hfound
      rw [failing_eq_nil_iff.2 hpass, List.forall₂_nil_left_iff] at hviolates
      rw [validate_known typeName hknown, hfound]
      exact conclude_nil hviolates

/-- Validation has the outcome that `Outcome` describes and no other. A field whose tag is no text, or a text without
tokens, never takes part in a failure. -/
theorem validate_eq_iff_outcome (typeName : String) (fields : List Field) (o : Except Problem Unit) :
    (validate typeName fields = o ↔ Outcome typeName fields o) ∧
      ∀ f : Field, (∀ tag, f.tag = some tag → Declaration.tokensOf tag = []) →
        ¬HasUnknown f ∧ (∀ e, ¬Faults f e) ∧ ¬Fails f := by
  refine ⟨⟨fun h => h ▸ outcome_validate typeName fields, validate_eq_of_outcome⟩, ?_⟩
  intro f hf
  have hrules := rules_of_no_tokens hf
  refine ⟨rulesOf_eq_ok_iff.1 ⟨[], hrules⟩, ?_, ?_⟩
  · rintro e ⟨rules, r, hrules', ⟨before, after, hreached, _⟩, _⟩
    obtain rfl : [] = rules := by simpa [hrules] using hrules'
    simp at hreached
  · rintro ⟨violation, rules, r, hrules', ⟨before, after, hreached, _⟩, _⟩
    obtain rfl : [] = rules := by simpa [hrules] using hrules'
    simp at hreached

/-- Every rule is known and can be applied, and a field breaks one whose token cannot be encoded. -/
structure Untold (fields : List Field) : Prop where
  known : ∀ g ∈ fields, ¬HasUnknown g
  sound : ∀ g ∈ fields, ∀ e, ¬Faults g e
  breaks : ∃ f ∈ fields, ∃ v, Violates f v ∧ v.unencodable? ≠ none

theorem validate_unencodable_iff (typeName : String) (fields : List Field) :
    (∃ fault, validate typeName fields = .error (.unencodable fault)) ↔ Untold fields := by
  have houtcome := outcome_validate typeName fields
  constructor
  · rintro ⟨fault, hfault⟩
    rw [hfault] at houtcome
    cases houtcome with
    | @unencodable before after violation fault hknown hsound hviolates hbefore huntold =>
        obtain ⟨f, hf, hv⟩ := exists_violates hviolates (List.mem_append_right _ List.mem_cons_self)
        exact ⟨hknown, hsound, f, (mem_failing.1 hf).1, violation, hv, by simp [huntold]⟩
  · rintro ⟨hknown, hsound, f, hf, v, hv, huntold⟩
    generalize validate typeName fields = o at houtcome ⊢
    cases houtcome with
    | unknown hfields hbefore htag htokens hearlier hunknown =>
        exact absurd ⟨_, htag, _, by simp [htokens], hunknown⟩ (hknown _ (by simp [hfields]))
    | fault hall hfields hbefore hfault => exact absurd hfault (hsound _ (by simp [hfields]) _)
    | unencodable => exact ⟨_, rfl⟩
    | invalid _ _ _ hviolates htold =>
        obtain ⟨v', hmem, hv'⟩ := exists_violation hviolates (mem_failing.2 ⟨hf, v, hv⟩)
        rw [violates_rightUnique hv' hv] at hmem
        exact absurd (htold v hmem) huntold
    | passed _ _ hpass => exact absurd ⟨v, hv⟩ (hpass f hf)

def halfField : Field where
  name := "code"
  value := .text "a"
  tag := some ("oneof=" ++ String.singleton (Text.characterOf 0xd800))

theorem failing_field_may_go_unreported :
    ¬∀ (typeName : String) (fields : List Field), (∀ g ∈ fields, ¬HasUnknown g) → (∀ g ∈ fields, ∀ e, ¬Faults g e) →
      (∃ f ∈ fields, Fails f) →
        ∃ violations, validate typeName fields = .error (.invalid ⟨typeName, violations⟩) := by
  intro hall
  have hrun : validate "FormInput" [halfField] = .error (.unencodable ⟨6, 1, 0xd800⟩) := rfl
  have houtcome := outcome_validate "FormInput" [halfField]
  rw [hrun] at houtcome
  cases houtcome with
  | @unencodable before after violation fault hknown hsound hviolates hbefore huntold =>
      have hfails : ∃ f ∈ [halfField], Fails f := by
        by_contra hnone
        have hnil := failing_eq_nil_iff.2 fun f hf hff => hnone ⟨f, hf, hff⟩
        rw [hnil] at hviolates
        simpa using List.forall₂_nil_left_iff.1 hviolates
      obtain ⟨violations, hinvalid⟩ := hall "FormInput" [halfField] hknown hsound hfails
      rw [hrun] at hinvalid
      cases hinvalid

end Vetted.Proofs.ValidationOutcome
