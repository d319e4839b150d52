import Mathlib.Data.List.Basic
import Vetted.Declaration

namespace Vetted.Proofs.WrittenExpressions

open Declaration Source

variable {e object : Expr} {text : String} {plain : Bool} {level : Nat}

/-- The target, the source and the conditions of a clause. -/
def clauseParts (clause : Bool × Expr × Expr × List Expr) : List Expr := clause.2.1 :: clause.2.2.1 :: clause.2.2.2

def children : Expr → List Expr
  | .name _ | .constant _ => []
  | .attribute e _ | .starred e | .unary _ e | .await e | .yieldFrom e => [e]
  | .subscript a b | .binary _ a b | .named a b => [a, b]
  | .slice lower upper step => lower.toList ++ upper.toList ++ step.toList
  | .tuple items | .list items | .set items | .joined items => items
  | .dict items => items.flatMap fun item => item.1.toList ++ [item.2.2]
  | .call function arguments keywords => function :: (arguments ++ keywords.map Prod.snd)
  | .boolean _ first second others => first :: second :: others
  | .compare left _ right others => left :: right :: others.map Prod.snd
  | .conditional test body other => [body, test, other]
  | .lambda parameters body => parameters.filterMap (fun parameter => parameter.2.2) ++ [body]
  | .listOf item clauses | .setOf item clauses | .generator item clauses => item :: clauses.flatMap clauseParts
  | .dictOf key value clauses => key :: value :: clauses.flatMap clauseParts
  | .yield value => value.toList
  | .formatted value _ spec => value :: spec.toList

inductive Within : Expr → Expr → Prop
  | self (e : Expr) : Within e e
  | child {part e child : Expr} (hchild : child ∈ children e) (hpart : Within part child) : Within part e

theorem sizeOf_lt_of_mem_toList {e? : Option Expr} (h : e ∈ e?.toList) : sizeOf e < sizeOf e? := by
  obtain rfl := Option.mem_toList.1 h
  simp

theorem sizeOf_lt_of_mem_clauses {clauses : List (Bool × Expr × Expr × List Expr)}
    (h : e ∈ clauses.flatMap clauseParts) :
    sizeOf e < sizeOf clauses := by
  obtain ⟨⟨isAsync, target, source, conditions⟩, hclause, he⟩ := List.mem_flatMap.1 h
  have hclause := List.sizeOf_lt_of_mem hclause
  simp only [clauseParts, List.mem_cons] at he
  simp only [Prod.mk.sizeOf_spec] at hclause
  obtain rfl | rfl | he := he
  · omega
  · omega
  · have he := List.sizeOf_lt_of_mem he
    omega

theorem sizeOf_lt_of_mem_children {child : Expr} (h : child ∈ children e) : sizeOf child < sizeOf e := by
  cases e with
  | name | constant => simp [children] at h
  | subscript | binary | named =>
      simp only [children, List.mem_cons, List.not_mem_nil, or_false] at h
      obtain rfl | rfl := h
      all_goals
        simp only [Expr.subscript.sizeOf_spec, Expr.binary.sizeOf_spec, Expr.named.sizeOf_spec]
        omega
  | conditional =>
      simp only [children, List.mem_cons, List.not_mem_nil, or_false] at h
      obtain rfl | rfl | rfl := h
      all_goals
        rw [Expr.conditional.sizeOf_spec]
        omega
  | slice lower upper step =>
      simp only [children, List.mem_append] at h
      obtain (h | h) | h := h
      all_goals
        have h := sizeOf_lt_of_mem_toList h
        simp
        omega
  | yield =>
      have h := sizeOf_lt_of_mem_toList h
      simp
      omega
  | tuple | list | set | joined =>
      rw [children] at h
      have h := List.sizeOf_lt_of_mem h
      simp
      omega
  | dict items =>
      obtain ⟨⟨key, line, value⟩, hitem, h⟩ := List.mem_flatMap.1 h
      have hitem := List.sizeOf_lt_of_mem hitem
      simp only [Prod.mk.sizeOf_spec] at hitem
      simp only [Expr.dict.sizeOf_spec]
      obtain h | h := List.mem_append.1 h
      · have h : sizeOf child < sizeOf key := sizeOf_lt_of_mem_toList h
        omega
      · obtain rfl := List.mem_singleton.1 h
        omega
  | call function arguments keywords =>
      simp only [children, List.mem_cons, List.mem_append, List.mem_map] at h
      obtain rfl | h | ⟨⟨key, value⟩, h, rfl⟩ := h
      · simp
        omega
      all_goals
        have h := List.sizeOf_lt_of_mem h
        simp at h ⊢
        omega
  | boolean isOr first second others =>
      simp only [children, List.mem_cons] at h
      obtain rfl | rfl | h := h
      · simp
        omega
      · simp
        omega
      · have h := List.sizeOf_lt_of_mem h
        simp
        omega
  | compare left op right others =>
      simp only [children, List.mem_cons, List.mem_map] at h
      obtain rfl | rfl | ⟨⟨next, value⟩, h, rfl⟩ := h
      · simp
        omega
      · simp
        omega
      · have h := List.sizeOf_lt_of_mem h
        simp at h ⊢
        omega
  | lambda parameters body =>
      simp only [children, List.mem_append, List.mem_filterMap, List.mem_singleton] at h
      obtain ⟨⟨role, name, value⟩, h, rfl⟩ | rfl := h
      · have h := List.sizeOf_lt_of_mem h
        simp at h ⊢
        omega
      · simp only [Expr.lambda.sizeOf_spec]
        omega
  | listOf | setOf | generator =>
      obtain rfl | h := List.mem_cons.1 h
      · simp
        omega
      · have h := sizeOf_lt_of_mem_clauses h
        simp
        omega
  | dictOf key value clauses =>
      simp only [children, List.mem_cons] at h
      obtain rfl | rfl | h := h
      · simp
        omega
      · simp
        omega
      · have h := sizeOf_lt_of_mem_clauses h
        simp
        omega
  | formatted value conversion spec =>
      obtain rfl | h := List.mem_cons.1 h
      · simp
        omega
      · have h := sizeOf_lt_of_mem_toList h
        simp
        omega
  | _ =>
      obtain rfl := List.mem_singleton.1 h
      simp only [Expr.attribute.sizeOf_spec, Expr.starred.sizeOf_spec, Expr.unary.sizeOf_spec, Expr.await.sizeOf_spec,
        Expr.yieldFrom.sizeOf_spec]
      omega

/-- What keeps an expression that it is part of from being written. -/
inductive Spoils : Expr → Prop
  | longInteger {n : Nat} (h : Number.Numeral.maxDigits < (Nat.toDigits 10 n).length) :
      Spoils (.constant (.number (.integer n)))
  | backslash {value : Expr} {conversion : Option Char} {spec : Option Expr}
      (h : '\\' ∈ (value.textAt true Level.or).toList) : Spoils (.formatted value conversion spec)

def Writable (e : Expr) : Prop := ∀ part, Within part e → ¬Spoils part

theorem writable_iff_children : Writable e ↔ ¬Spoils e ∧ ∀ child ∈ children e, Writable child := by
  constructor
  · intro h
    exact ⟨h e (.self e), fun child hchild part hpart => h part (.child hchild hpart)⟩
  · rintro ⟨hself, hchildren⟩ part hpart
    cases hpart with
    | self => exact hself
    | child hchild hpart => exact hchildren _ hchild part hpart

theorem optionFault?_eq_none_iff {e? : Option Expr} :
    optionFault? e? = none ↔ ∀ e ∈ e?.toList, e.textFault? = none := by
  cases e? <;> simp [optionFault?]

theorem firstFault?_eq_none_iff {es : List Expr} : firstFault? es = none ↔ ∀ e ∈ es, e.textFault? = none := by
  induction es with
  | nil => simp [firstFault?]
  | cons e es ih => simp [firstFault?, ih]

theorem itemFault?_eq_none_iff {items : List (Option Expr × Nat × Expr)} :
    itemFault? items = none ↔ ∀ e ∈ items.flatMap fun item => item.1.toList ++ [item.2.2], e.textFault? = none := by
  induction items with
  | nil => simp [itemFault?]
  | cons item items ih =>
      rw [itemFault?, Option.or_eq_none_iff, Option.or_eq_none_iff, ih, optionFault?_eq_none_iff, List.flatMap_cons]
      simp only [List.forall_mem_append, List.forall_mem_singleton, and_assoc]

theorem keywordFault?_eq_none_iff {keywords : List (Option String × Expr)} :
    keywordFault? keywords = none ↔ ∀ e ∈ keywords.map Prod.snd, e.textFault? = none := by
  induction keywords with
  | nil => simp [keywordFault?]
  | cons keyword keywords ih =>
      rw [keywordFault?, Option.or_eq_none_iff, ih, List.map_cons, List.forall_mem_cons]

theorem compareFault?_eq_none_iff {others : List (CompareOp × Expr)} :
    compareFault? others = none ↔ ∀ e ∈ others.map Prod.snd, e.textFault? = none := by
  induction others with
  | nil => simp [compareFault?]
  | cons other others ih =>
      rw [compareFault?, Option.or_eq_none_iff, ih, List.map_cons, List.forall_mem_cons]

theorem parameterFault?_eq_none_iff {parameters : List (ParameterRole × String × Option Expr)} :
    parameterFault? parameters = none ↔ ∀ e ∈ parameters.filterMap (fun parameter => parameter.2.2),
      e.textFault? = none := by
  induction parameters with
  | nil => simp [parameterFault?]
  | cons parameter parameters ih =>
      obtain ⟨role, name, value⟩ := parameter
      rw [parameterFault?, Option.or_eq_none_iff, ih]
      cases value <;> simp [optionFault?]

theorem clauseFault?_eq_none_iff {clauses : List (Bool × Expr × Expr × List Expr)} :
    clauseFault? clauses = none ↔ ∀ e ∈ clauses.flatMap clauseParts, e.textFault? = none := by
  induction clauses with
  | nil => simp [clauseFault?]
  | cons clause clauses ih =>
      simp only [clauseFault?, Option.or_eq_none_iff, ih, firstFault?_eq_none_iff, List.flatMap_cons, clauseParts,
        List.forall_mem_append, List.forall_mem_cons, and_assoc]

theorem lt_pow_iff {n digits : Nat} (h : 0 < digits) : n < Nat.pow 10 digits ↔ (Nat.toDigits 10 n).length ≤ digits :=
  (Nat.length_toDigits_le_iff (by decide) h).symm

theorem constant_textFault?_eq_none_iff {c : Constant} : c.textFault? = none ↔ ¬Spoils (.constant c) := by
  have hpos : 0 < Number.Numeral.maxDigits := by decide
  fun_cases Constant.textFault? c with
  | case1 n hshort =>
      rw [lt_pow_iff hpos] at hshort
      refine iff_of_true rfl ?_
      rintro ⟨hlong⟩
      omega
  | case2 n hlong =>
      rw [lt_pow_iff hpos, Nat.not_le] at hlong
      exact iff_of_false (by simp) (fun h => h (.longInteger hlong))
  | case3 c hother =>
      refine iff_of_true rfl ?_
      rintro ⟨hlong⟩
      exact hother _ rfl

theorem textFault?_eq_none_iff_children :
    e.textFault? = none ↔ ¬Spoils e ∧ ∀ child ∈ children e, child.textFault? = none := by
  cases e with
  | constant c =>
      rw [Expr.textFault?, constant_textFault?_eq_none_iff]
      simp [children]
  | formatted value conversion spec =>
      have hself : Spoils (.formatted value conversion spec) ↔ '\\' ∈ (value.textAt true Level.or).toList :=
        ⟨fun h => by cases h; assumption, .backslash⟩
      rw [Expr.textFault?, hself]
      by_cases h : '\\' ∈ (value.textAt true Level.or).toList
      · simp [h]
      · simp [h, children, optionFault?_eq_none_iff]
  | _ =>
      refine Iff.trans ?_ (and_iff_right (by rintro ⟨⟩)).symm
      simp only [Expr.textFault?, children, Option.or_eq_none_iff, optionFault?_eq_none_iff, firstFault?_eq_none_iff,
        itemFault?_eq_none_iff, keywordFault?_eq_none_iff, compareFault?_eq_none_iff, parameterFault?_eq_none_iff,
        clauseFault?_eq_none_iff, List.forall_mem_cons, List.forall_mem_append, List.not_mem_nil, false_imp_iff,
        implies_true, and_assoc, and_true]

/-- An expression can be written exactly if nothing spoils it. -/
theorem textFault?_eq_none_iff (e : Expr) : e.textFault? = none ↔ Writable e := by
  have hchildren : (∀ child ∈ children e, child.textFault? = none) ↔ ∀ child ∈ children e, Writable child :=
    forall₂_congr fun child hchild => textFault?_eq_none_iff child
  rw [textFault?_eq_none_iff_children, hchildren, ← writable_iff_children]
termination_by sizeOf e
decreasing_by exact sizeOf_lt_of_mem_children hchild

/-- A name, or names with points between them. -/
inductive Spells : Expr → String → Prop
  | name (id : String) : Spells (.name id) id
  | member {object : Expr} {text : String} (h : Spells object text) (field : String) :
      Spells (.attribute object field) (text ++ "." ++ field)

theorem Spells.textAt (h : Spells e text) (plain : Bool) (level : Nat) : e.textAt plain level = text := by
  induction h generalizing level with
  | name id => rw [Expr.textAt]
  | member h field ih =>
      rw [Expr.textAt, ih]
      · rfl
      · rintro n rfl
        cases h
      · rintro b rfl
        cases h

theorem Spells.bareType_eq (h : Spells e text) : bareType e = e := by
  cases h with
  | name => rfl
  | member => rfl

theorem mem_bracketIf {c : Char} {s : String} (h : c ∈ s.toList) (b : Bool) : c ∈ (bracketIf b s).toList := by
  cases b <;> simp [bracketIf, h]

theorem foreign_of_isDigit {c : Char} (h : c.isDigit = true) : c.isAlpha = false ∧ c ≠ '.' := by
  constructor
  · delta Char.isAlpha Char.isUpper Char.isLower
    delta Char.isDigit at h
    simp only [Bool.and_eq_true, decide_eq_true_eq, UInt32.le_iff_toNat_le, Bool.or_eq_false_iff,
      Bool.and_eq_false_iff, decide_eq_false_iff_not] at h ⊢
    simp at h ⊢
    omega
  · rintro rfl
    exact absurd h (by decide)

theorem chooseQuote_cases (cs : List Char) : Text.chooseQuote cs = '"' ∨ Text.chooseQuote cs = '\'' := by
  rw [Text.chooseQuote]
  split
  · exact .inl rfl
  · exact .inr rfl

theorem mem_cut {c : Char} {cs : List Char} (h : c ∈ cs) (n : Nat) :
    c ∈ (String.ofList (cs.take n) ++ "." ++ String.ofList (cs.drop n)).toList := by
  rw [← List.take_append_drop n cs, List.mem_append] at h
  rcases h with h | h <;> simp [h]

theorem exists_digit_scaled (l : Number.Layout) (s : Number.Scaled) : ∃ c ∈ (s.text l).toList, c.isDigit = true := by
  have hdigit (c : Char) (hc : c ∈ Nat.toDigits 10 s.trimmed.digits) : c.isDigit = true :=
    Nat.isDigit_of_mem_toDigits (by decide) (by decide) hc
  obtain ⟨c, rest, hdigits⟩ := List.exists_cons_of_ne_nil (Nat.toDigits_ne_nil (n := s.trimmed.digits) (b := 10))
  have hc : c.isDigit = true := hdigit c (hdigits ▸ List.mem_cons_self)
  unfold Number.Scaled.text
  simp only [hdigits]
  split
  · exact ⟨'0', by cases l.keepPoint <;> simp, rfl⟩
  · split
    · split
      · exact ⟨'0', by simp, rfl⟩
      · refine ⟨c, ?_, hc⟩
        split
        · simp
        · exact mem_cut List.mem_cons_self _
    · exact ⟨c, by simp, hc⟩

theorem exists_digit_number (v : NumberValue) : ∃ c ∈ v.text.toList, c.isDigit = true := by
  cases v with
  | integer n =>
      obtain ⟨c, hc⟩ := List.exists_mem_of_ne_nil _ (Nat.toDigits_ne_nil (n := n) (b := 10))
      exact ⟨c, by simpa [NumberValue.text] using hc, Nat.isDigit_of_mem_toDigits (by decide) (by decide) hc⟩
  | float value =>
      cases value with
      | none => exact ⟨'1', by simp [NumberValue.text], rfl⟩
      | some s => exact exists_digit_scaled _ s
  | imaginary value =>
      cases value with
      | none => exact ⟨'1', by simp [NumberValue.text], rfl⟩
      | some s =>
          obtain ⟨c, hc, hdigit⟩ := exists_digit_scaled .imaginary s
          exact ⟨c, by simp [NumberValue.text, hc], hdigit⟩

theorem name_or_member (hlevel : Level.test ≤ level)
    (hdotted : ∀ c ∈ (e.textAt false level).toList, c.isAlpha = true ∨ c = '.')
    (hhead : (e.textAt false level).toList.head? = some 'C' ∨ (e.textAt false level).toList.head? = some 't') :
    (∃ id, e = .name id) ∨ ∃ object field, e = .attribute object field := by
  have hforeign (c : Char) (hc : c.isAlpha = false ∧ c ≠ '.') : c ∉ (e.textAt false level).toList := by
    intro hmem
    rcases hdotted c hmem with h | h
    · exact Bool.false_ne_true (hc.1.symm.trans h)
    · exact hc.2 h
  have hblank := hforeign ' ' (by decide)
  have hround := hforeign '(' (by decide)
  have hsquare := hforeign '[' (by decide)
  have hcurly := hforeign '\x7b' (by decide)
  have hcolon := hforeign ':' (by decide)
  cases e with
  | name id => exact .inl ⟨id, rfl⟩
  | constant c =>
      rw [Expr.textAt] at hforeign hhead
      cases c with
      | none => simp [Constant.render] at hhead
      | bool b => cases b <;> simp [Constant.render] at hhead
      | ellipsis => simp [Constant.render] at hhead
      | number v =>
          obtain ⟨c, hc, hdigit⟩ := exists_digit_number v
          exact absurd hc (hforeign c (foreign_of_isDigit hdigit))
      | text s marked =>
          cases marked with
          | true => simp [Constant.render] at hhead
          | false =>
              obtain hquote | hquote := chooseQuote_cases s.toList
              all_goals simp [Constant.render, Text.quote, Text.quoteChars, hquote] at hhead
      | bytes b => simp [Constant.render, Text.quoteBytes] at hhead
  | joined parts =>
      rw [Expr.textAt, if_neg Bool.false_ne_true, formattedString] at hhead
      split at hhead <;> simp at hhead
  | subscript object index =>
      rw [Expr.textAt.eq_def] at hsquare
      simp at hsquare
  | list items => simp [Expr.textAt] at hsquare
  | listOf item clauses => simp [Expr.textAt] at hsquare
  | slice lower upper step =>
      rw [Expr.textAt.eq_def] at hcolon
      simp at hcolon
  | set items =>
      rw [Expr.textAt] at hcurly
      split at hcurly <;> simp at hcurly
  | dict items => simp [Expr.textAt] at hcurly
  | setOf item clauses => simp [Expr.textAt] at hcurly
  | dictOf key value clauses => simp [Expr.textAt] at hcurly
  | formatted value conversion spec => simp [Expr.textAt, fieldText] at hcurly
  | starred value => exact absurd (by simp [Expr.textAt]) (hforeign '*' (by decide))
  | call function arguments keywords => simp [Expr.textAt] at hround
  | generator item clauses => simp [Expr.textAt] at hround
  | tuple items =>
      have hlt : Level.tuple < level := Nat.lt_of_lt_of_le (by decide) hlevel
      simp [Expr.textAt, bracketIf, hlt] at hround
  | yield value =>
      have hlt : Level.yield < level := Nat.lt_of_lt_of_le (by decide) hlevel
      rw [Expr.textAt.eq_def] at hround
      simp [bracketIf, hlt] at hround
  | named target value =>
      have hlt : Level.named < level := Nat.lt_of_lt_of_le (by decide) hlevel
      simp [Expr.textAt, bracketIf, hlt] at hround
  | unary op operand =>
      rw [Expr.textAt] at hforeign
      cases op with
      | not => exact absurd (mem_bracketIf (by simp [UnaryOp.text]) _) (hforeign ' ' (by decide))
      | invert => exact absurd (mem_bracketIf (by simp [UnaryOp.text]) _) (hforeign '~' (by decide))
      | plus => exact absurd (mem_bracketIf (by simp [UnaryOp.text]) _) (hforeign '+' (by decide))
      | minus => exact absurd (mem_bracketIf (by simp [UnaryOp.text]) _) (hforeign '-' (by decide))
  | binary op left right =>
      rw [Expr.textAt] at hblank
      exact absurd (mem_bracketIf (by simp) _) hblank
  | boolean isOr first second others =>
      rw [Expr.textAt] at hblank
      exact absurd (mem_bracketIf (by cases isOr <;> simp) _) hblank
  | compare left op right others =>
      rw [Expr.textAt] at hblank
      exact absurd (mem_bracketIf (by simp) _) hblank
  | conditional test body other =>
      rw [Expr.textAt] at hblank
      exact absurd (mem_bracketIf (by simp) _) hblank
  | lambda parameters body =>
      rw [Expr.textAt] at hcolon
      exact absurd (mem_bracketIf (by simp) _) hcolon
  | await value =>
      rw [Expr.textAt] at hblank
      exact absurd (mem_bracketIf (by simp) _) hblank
  | yieldFrom value =>
      rw [Expr.textAt] at hblank
      exact absurd (mem_bracketIf (by simp) _) hblank
  | _ => exact .inr ⟨_, _, rfl⟩

theorem textAt_member (object : Expr) (field : String) (plain : Bool) (level : Nat) :
    ∃ mark, (mark = "." ∨ mark = " .") ∧
      (Expr.attribute object field).textAt plain level = object.textAt plain Level.atom ++ mark ++ field := by
  rw [Expr.textAt.eq_def]
  refine ⟨_, ?_, rfl⟩
  split <;> simp

/-- A word with one of these letters in front is the text of a name only. -/
theorem eq_name_of_textAt {word : String} (hlevel : Level.test ≤ level) (hword : ∀ c ∈ word.toList, c.isAlpha = true)
    (hhead : word.toList.head? = some 'C' ∨ word.toList.head? = some 't') (h : e.textAt false level = word) :
    e = .name word := by
  subst h
  rcases name_or_member hlevel (fun c hc => .inl (hword c hc)) hhead with ⟨id, rfl⟩ | ⟨object, field, rfl⟩
  · rw [Expr.textAt]
  · obtain ⟨mark, hmark, htext⟩ := textAt_member object field false level
    have hpoint : '.' ∈ ((Expr.attribute object field).textAt false level).toList := by
      rw [htext]
      rcases hmark with rfl | rfl <;> simp
    exact absurd (hword '.' hpoint) (by decide)

/-- A type that marks a class attribute, alone or applied to something. -/
def MarksClassAttribute (hint : Expr) : Prop :=
  ∃ target, (hint = target ∨ ∃ index, hint = .subscript target index) ∧
    (Spells target "ClassVar" ∨ Spells target "typing.ClassVar")

theorem text_eq_bare_iff : e.text = "ClassVar" ↔ Spells e "ClassVar" := by
  constructor
  · intro h
    rw [eq_name_of_textAt (Nat.le_refl _) (List.all_eq_true.1 (by decide)) (.inl (by decide)) h]
    exact .name _
  · intro h
    exact h.textAt false Level.test

theorem text_eq_qualified_iff : e.text = "typing.ClassVar" ↔ Spells e "typing.ClassVar" := by
  constructor
  · intro h
    have hdotted : ∀ c ∈ (e.textAt false Level.test).toList, c.isAlpha = true ∨ c = '.' := by
      rw [← Expr.text, h]
      simp
    have hhead : (e.textAt false Level.test).toList.head? = some 't' := by
      rw [← Expr.text, h]
      decide
    rcases name_or_member (Nat.le_refl _) hdotted (.inr hhead) with ⟨id, rfl⟩ | ⟨object, field, rfl⟩
    · rw [Expr.text, Expr.textAt] at h
      exact h ▸ .name id
    · obtain ⟨mark, hmark, htext⟩ := textAt_member object field false Level.test
      rw [Expr.text, htext] at h
      rcases hmark with rfl | rfl
      · -- The point of the text is the one between the object and its member.
        have hchars : "typing".toList ++ '.' :: "ClassVar".toList = (object.textAt false Level.atom).toList ++
            '.' :: field.toList := by
          have hlists := congrArg String.toList h
          simpa using hlists.symm
        obtain ⟨hobject, -, hfield⟩ := (List.append_cons_inj_of_notMem (by decide) (by decide)).1 hchars
        rw [String.toList_inj] at hobject hfield
        rw [eq_name_of_textAt (by decide) (List.all_eq_true.1 (by decide)) (.inr (by decide)) hobject.symm, ← hfield]
        exact .member (.name "typing") "ClassVar"
      · have hblank : ' ' ∈ "typing.ClassVar".toList := by simp [← h]
        exact absurd hblank (by decide)
  · intro h
    exact h.textAt false Level.test

theorem marksClassAttribute_iff {hint : Expr} :
    MarksClassAttribute hint ↔ Spells (bareType hint) "ClassVar" ∨ Spells (bareType hint) "typing.ClassVar" := by
  constructor
  · rintro ⟨target, rfl | ⟨index, rfl⟩, h⟩
    · have hbare : bareType hint = hint := by
        rcases h with h | h
        · exact h.bareType_eq
        · exact h.bareType_eq
      rwa [hbare]
    · exact h
  · intro h
    refine ⟨bareType hint, ?_, h⟩
    cases hint with
    | subscript object index => exact .inr ⟨index, rfl⟩
    | _ => exact .inl rfl

theorem isClassAttribute_iff {hint : Expr} : isClassAttribute hint = true ↔ MarksClassAttribute hint := by
  rw [isClassAttribute, Bool.or_eq_true, decide_eq_true_eq, decide_eq_true_eq, text_eq_bare_iff, text_eq_qualified_iff,
    marksClassAttribute_iff]

end Vetted.Proofs.WrittenExpressions
