import Vetted.Proofs.InputClasses
import Vetted.Proofs.Sequence
import Vetted.Proofs.TextPieces
import Vetted.Proofs.WrittenExpressions

namespace Vetted.Proofs.Discovery

open Declaration TextPieces WrittenExpressions
open Source (Expr Stmt)

section

variable {α β : Type} {R : α → β → Prop} {xs : List α} {ys zs : List β}

/-- `ys` holds, in order, one result for each item of `xs` that has any. -/
inductive Selects (R : α → β → Prop) : List α → List β → Prop
  | nil : Selects R [] []
  | take {x : α} {y : β} {xs : List α} {ys : List β} (h : R x y) (rest : Selects R xs ys) :
      Selects R (x :: xs) (y :: ys)
  | skip {x : α} {xs : List α} {ys : List β} (h : ∀ y, ¬R x y) (rest : Selects R xs ys) : Selects R (x :: xs) ys

theorem Selects.unique (hR : ∀ x y z, R x y → R x z → y = z) (h : Selects R xs ys) (h' : Selects R xs zs) :
    ys = zs := by
  induction h generalizing zs with
  | nil =>
      cases h'
      rfl
  | @take x y xs ys hxy _ ih =>
      cases h' with
      | take hxz rest => rw [hR x y _ hxy hxz, ih rest]
      | skip hnone rest => exact absurd hxy (hnone y)
  | @skip x xs ys hnone _ ih =>
      cases h' with
      | take hxz rest => exact absurd hxz (hnone _)
      | skip _ rest => exact ih rest

theorem selects_filterMap {f : α → Option β} (h : ∀ x y, f x = some y ↔ R x y) (xs : List α) :
    Selects R xs (xs.filterMap f) := by
  induction xs with
  | nil => exact .nil
  | cons x xs ih =>
      rw [List.filterMap_cons]
      cases hx : f x with
      | none =>
          refine .skip (fun y hy => ?_) ih
          rw [(h x y).2 hy] at hx
          cases hx
      | some y => exact .take ((h x y).1 hx) ih

end

def outline (f : Field) : String × String × Option Nat := (f.name, f.typeName, f.line)

/-- An annotated name declares a field if it is not hidden and its type does not mark a class attribute. -/
inductive Declares : Stmt → String × String × Option Nat → Prop
  | annotated {line : Nat} {name : String} {hint : Expr} {value : Option Expr} {bare : Bool}
      (visible : ¬∃ rest, name = "_" ++ rest) (field : ¬MarksClassAttribute hint) :
      Declares (.annotated line (.name name) hint value bare) (name, hint.text, some line)

theorem isHidden_iff {name : String} : isHidden name = true ↔ ∃ rest, name = "_" ++ rest := startsWith_iff

theorem outline_fieldOf?_iff {s : Stmt} {d : String × String × Option Nat} :
    (fieldOf? s).map outline = some d ↔ Declares s d := by
  rw [Option.map_eq_some_iff]
  constructor
  · rintro ⟨f, hf, rfl⟩
    obtain ⟨line, name, hint, value, bare, rfl, hvisible, hkept, rfl⟩ := InputClasses.fieldOf?_eq_some_iff.1 hf
    rw [Bool.eq_false_iff, ne_eq, isHidden_iff] at hvisible
    rw [Bool.eq_false_iff, ne_eq, isClassAttribute_iff] at hkept
    exact .annotated hvisible hkept
  · rintro ⟨visible, field⟩
    rw [← isHidden_iff, Bool.not_eq_true] at visible
    rw [← isClassAttribute_iff, Bool.not_eq_true] at field
    exact ⟨_, InputClasses.fieldOf?_eq_some_iff.2 ⟨_, _, _, _, _, rfl, visible, field, rfl⟩, rfl⟩

theorem selects_fieldsOf (inner : List Stmt) : Selects Declares inner ((fieldsOf inner).map outline) := by
  rw [fieldsOf, List.map_filterMap]
  exact selects_filterMap (fun _ _ => outline_fieldOf?_iff) inner

theorem declares_unique {s : Stmt} {d d' : String × String × Option Nat} (h : Declares s d) (h' : Declares s d') :
    d = d' := by
  cases h
  cases h'
  rfl

/-- A statement of which all can be written that the search has to write: the type of the field that it declares, and
the function that is called for its default. -/
def Written (s : Stmt) : Prop :=
  ∀ line name hint value bare, s = .annotated line (.name name) hint value bare → (¬∃ rest, name = "_" ++ rest) →
    ¬MarksClassAttribute hint →
      Writable hint ∧ ∀ function arguments keywords, value = some (.call function arguments keywords) →
        Writable function

theorem writable_bareType {hint : Expr} (h : Writable hint) : Writable (bareType hint) := by
  cases hint with
  | subscript object index => exact (writable_iff_children.1 h).2 object List.mem_cons_self
  | _ => exact h

theorem writable_of_spells {e : Expr} {text : String} (h : Spells e text) : Writable e := by
  induction h with
  | name id => exact writable_iff_children.2 ⟨by rintro ⟨⟩, by simp [children]⟩
  | member h field ih => exact writable_iff_children.2 ⟨by rintro ⟨⟩, by simpa [children] using ih⟩

theorem calleeFault?_eq_none_iff {value : Option Expr} : calleeFault? value = none ↔
    ∀ function arguments keywords, value = some (.call function arguments keywords) → Writable function := by
  fun_cases calleeFault? value with
  | case1 function arguments keywords =>
      rw [textFault?_eq_none_iff]
      simp
  | case2 value hother =>
      refine iff_of_true rfl ?_
      rintro function arguments keywords rfl
      exact absurd rfl (hother _ _ _)

theorem fieldFault?_eq_none_iff {s : Stmt} : fieldFault? s = none ↔ Written s := by
  fun_cases fieldFault? s with
  | case1 line name hint value bare hhidden =>
      refine iff_of_true rfl ?_
      rintro line' name' hint' value' bare' heq hvisible
      cases heq
      exact absurd (isHidden_iff.1 hhidden) hvisible
  | case2 line name hint value bare hvisible =>
      have hwritten : Written (.annotated line (.name name) hint value bare) ↔ (¬MarksClassAttribute hint →
          Writable hint ∧ ∀ function arguments keywords, value = some (.call function arguments keywords) →
            Writable function) := by
        constructor
        · intro h
          exact h line name hint value bare rfl (mt isHidden_iff.2 hvisible)
        · rintro h line' name' hint' value' bare' heq -
          cases heq
          exact h
      rw [hwritten, Option.or_eq_none_iff, textFault?_eq_none_iff]
      by_cases hmarks : MarksClassAttribute hint
      · have hbare : Writable (bareType hint) := by
          rcases marksClassAttribute_iff.1 hmarks with h | h
          · exact writable_of_spells h
          · exact writable_of_spells h
        rw [if_pos (isClassAttribute_iff.2 hmarks)]
        exact iff_of_true ⟨hbare, rfl⟩ (fun h => absurd hmarks h)
      · rw [if_neg (mt isClassAttribute_iff.1 hmarks), Option.or_eq_none_iff, calleeFault?_eq_none_iff,
          textFault?_eq_none_iff]
        constructor
        · rintro ⟨-, hcallee, hhint⟩ -
          exact ⟨hhint, hcallee⟩
        · intro h
          obtain ⟨hhint, hcallee⟩ := h hmarks
          exact ⟨writable_bareType hhint, hcallee, hhint⟩
  | case3 s hother =>
      refine iff_of_true rfl ?_
      rintro line name hint value bare rfl
      exact absurd rfl (hother _ _ _ _ _)

structure Heading where
  line : Nat
  column : Nat
  name : String

/-- A class with the suffix is found, with the statements of its body. -/
inductive Discovers (suffix : String) : Stmt → Heading × List Stmt → Prop
  | classDef {line column : Nat} {name : String} {bases decorators : List Expr} {inner : List Stmt}
      (h : ∃ front, name = front ++ suffix) :
      Discovers suffix (.classDef line column name bases decorators inner) (⟨line, column, name⟩, inner)

def discovered? (suffix : String) : Stmt → Option (Heading × List Stmt)
  | .classDef line column name _ _ inner =>
    if Text.endsWith name suffix then some (⟨line, column, name⟩, inner) else none
  | _ => none

def discovered (suffix : String) (body : List Stmt) : List (Heading × List Stmt) := body.filterMap (discovered? suffix)

variable {suffix : String} {body : List Stmt} {seen : List (String × Nat)}
  {before rest classes : List (Heading × List Stmt)}
  {c : Heading × List Stmt}

theorem discovered?_iff {s : Stmt} : discovered? suffix s = some c ↔ Discovers suffix s c := by
  fun_cases discovered? suffix s with
  | case1 line column name bases decorators inner hsuffix =>
      rw [endsWith_iff] at hsuffix
      constructor
      · intro h
        obtain rfl := Option.some.inj h
        exact .classDef hsuffix
      · rintro ⟨-⟩
        rfl
  | case2 line column name bases decorators inner hother =>
      rw [endsWith_iff] at hother
      refine iff_of_false (by simp) ?_
      rintro ⟨h⟩
      exact hother h
  | case3 s hother =>
      refine iff_of_false (by simp) ?_
      rintro ⟨-⟩
      exact hother _ _ _ _ _ _ rfl

theorem selects_discovered (suffix : String) (body : List Stmt) :
    Selects (Discovers suffix) body (discovered suffix body) :=
  selects_filterMap (fun _ _ => discovered?_iff) body

theorem eq_discovered (h : Selects (Discovers suffix) body classes) : classes = discovered suffix body := by
  refine h.unique ?_ (selects_discovered suffix body)
  rintro _ _ _ ⟨-⟩ ⟨-⟩
  rfl

def recordFor (c : Heading × List Stmt) : Record := { name := c.1.name, fields := fieldsOf c.2, line := some c.1.line }

def gather (seen : List (String × Nat)) : List (Heading × List Stmt) → Except Fault (List Record)
  | [] => .ok []
  | c :: rest =>
    match seen.lookup c.1.name with
    | some firstLine =>
      .error (.repeated { name := c.1.name, firstLine, line := c.1.line, column := c.1.column + 1 })
    | none =>
      match c.2.findSome? fieldFault? with
      | some fault => .error (.unwritable fault)
      | none => (gather (seen ++ [(c.1.name, c.1.line)]) rest).map (recordFor c :: ·)

theorem collect_eq_gather : collect suffix seen body = gather seen (discovered suffix body) := by
  induction body generalizing seen with
  | nil => rfl
  | cons s rest ih =>
      rw [discovered, List.filterMap_cons]
      cases s with
      | classDef line column name bases decorators inner =>
          rw [collect, InputClasses.recordOf?_classDef, discovered?]
          by_cases hsuffix : Text.endsWith name suffix = true
          · simp only [if_pos hsuffix, ih]
            rfl
          · rw [if_neg hsuffix, if_neg hsuffix]
            exact ih
      | _ => exact ih

def names (classes : List (Heading × List Stmt)) : List String := classes.map fun c => c.1.name

/-- Classes that differ in name and of which all can be written that the search has to write. -/
structure Settled (classes : List (Heading × List Stmt)) : Prop where
  nodup : (names classes).Nodup
  written : ∀ c ∈ classes, ∀ s ∈ c.2, Written s

theorem findSome?_fieldFault?_eq_none_iff {inner : List Stmt} :
    inner.findSome? fieldFault? = none ↔ ∀ s ∈ inner, Written s := by
  simp only [List.findSome?_eq_none_iff, fieldFault?_eq_none_iff]

theorem settled_concat_iff : Settled (before ++ [c]) ↔ Settled before ∧ c.1.name ∉ names before ∧
    ∀ s ∈ c.2, Written s := by
  have hnames : (names (before ++ [c])).Nodup ↔ (names before).Nodup ∧ c.1.name ∉ names before := by
    rw [names, List.map_append, List.map_singleton, ← List.concat_eq_append, List.nodup_concat, and_comm]
    rfl
  constructor
  · rintro ⟨hnodup, hwritten⟩
    obtain ⟨hbefore, hnew⟩ := hnames.1 hnodup
    exact ⟨⟨hbefore, fun d hd => hwritten d (by simp [hd])⟩, hnew, hwritten c (by simp)⟩
  · rintro ⟨⟨hbefore, hwritten⟩, hnew, hc⟩
    refine ⟨hnames.2 ⟨hbefore, hnew⟩, fun d hd => ?_⟩
    rcases List.mem_append.1 hd with hd | hd
    · exact hwritten d hd
    · obtain rfl := List.mem_singleton.1 hd
      exact hc

theorem settled_or_first (classes : List (Heading × List Stmt)) :
    Settled classes ∨ ∃ before c after, classes = before ++ c :: after ∧ Settled before ∧ ¬Settled (before ++ [c]) := by
  induction classes using List.reverseRecOn with
  | nil => exact .inl ⟨List.nodup_nil, by simp⟩
  | append_singleton front c ih =>
      rcases ih with hsettled | ⟨before, d, after, rfl, hbefore, hd⟩
      · by_cases h : Settled (front ++ [c])
        · exact .inl h
        · exact .inr ⟨front, c, [], rfl, hsettled, h⟩
      · exact .inr ⟨before, d, after ++ [c], by simp, hbefore, hd⟩

def marks (classes : List (Heading × List Stmt)) : List (String × Nat) := classes.map fun c => (c.1.name, c.1.line)

theorem lookup_marks_eq_none (h : c.1.name ∉ names before) : (marks before).lookup c.1.name = none := by
  rw [List.lookup_eq_none_iff]
  intro mark hmark
  obtain ⟨d, hd, rfl⟩ := List.mem_map.1 hmark
  have hne : c.1.name ≠ d.1.name := fun heq => h (heq ▸ List.mem_map_of_mem hd)
  simpa using hne

theorem lookup_marks_of_mem (hnodup : (names before).Nodup) {b : Heading × List Stmt} (hb : b ∈ before) :
    (marks before).lookup b.1.name = some b.1.line := by
  apply Sequence.lookup_of_mem
  · rw [marks, List.map_map]
    exact hnodup
  · exact List.mem_map_of_mem hb

theorem gather_append (h : Settled before) (rest : List (Heading × List Stmt)) :
    gather [] (before ++ rest) = (gather (marks before) rest).map (before.map recordFor ++ ·) := by
  induction before using List.reverseRecOn generalizing rest with
  | nil =>
      have hmarks : marks [] = [] := rfl
      rw [List.nil_append, hmarks]
      cases gather [] rest <;> rfl
  | append_singleton front c ih =>
      obtain ⟨hfront, hnew, hc⟩ := settled_concat_iff.1 h
      rw [List.append_assoc, ih hfront, List.singleton_append, gather, lookup_marks_eq_none hnew,
        findSome?_fieldFault?_eq_none_iff.2 hc]
      have hmarks : marks (front ++ [c]) = marks front ++ [(c.1.name, c.1.line)] := by simp [marks]
      rw [hmarks]
      cases gather (marks front ++ [(c.1.name, c.1.line)]) rest with
      | error fault => rfl
      | ok records => simp [Except.map]

theorem gather_of_settled (h : Settled classes) : gather [] classes = .ok (classes.map recordFor) := by
  have hrun := gather_append h []
  simpa [gather, Except.map] using hrun

theorem gather_of_repeated (h : Settled before) {b : Heading × List Stmt} (hb : b ∈ before)
    (hname : b.1.name = c.1.name)
    (after : List (Heading × List Stmt)) :
    gather [] (before ++ c :: after) =
      .error (.repeated { name := c.1.name, firstLine := b.1.line, line := c.1.line, column := c.1.column + 1 }) := by
  rw [gather_append h, gather, ← hname, lookup_marks_of_mem h.nodup hb]
  rfl

theorem gather_of_unwritable (h : Settled before) (hnew : c.1.name ∉ names before) {fault : Source.TextFault}
    (hfault : c.2.findSome? fieldFault? = some fault) (after : List (Heading × List Stmt)) :
    gather [] (before ++ c :: after) = .error (.unwritable fault) := by
  rw [gather_append h, gather, lookup_marks_eq_none hnew, hfault]
  rfl

theorem gather_cases (classes : List (Heading × List Stmt)) :
    (Settled classes ∧ gather [] classes = .ok (classes.map recordFor)) ∨
    ∃ before c after, classes = before ++ c :: after ∧ Settled before ∧
      ((∃ b ∈ before, b.1.name = c.1.name ∧ gather [] classes =
          .error (.repeated { name := c.1.name, firstLine := b.1.line, line := c.1.line, column := c.1.column + 1 })) ∨
        c.1.name ∉ names before ∧ ∃ fault, c.2.findSome? fieldFault? = some fault ∧
          gather [] classes = .error (.unwritable fault)) := by
  rcases settled_or_first classes with h | ⟨before, c, after, rfl, hbefore, hc⟩
  · exact .inl ⟨h, gather_of_settled h⟩
  · refine .inr ⟨before, c, after, rfl, hbefore, ?_⟩
    by_cases hnew : c.1.name ∈ names before
    · obtain ⟨b, hb, hname⟩ := List.mem_map.1 hnew
      exact .inl ⟨b, hb, hname, gather_of_repeated hbefore hb hname after⟩
    · have hunwritten : ¬∀ s ∈ c.2, Written s := fun h => hc (settled_concat_iff.2 ⟨hbefore, hnew, h⟩)
      rw [← findSome?_fieldFault?_eq_none_iff] at hunwritten
      obtain ⟨fault, hfault⟩ := Option.ne_none_iff_exists'.1 hunwritten
      exact .inr ⟨hnew, fault, hfault, gather_of_unwritable hbefore hnew hfault after⟩

theorem gather_eq_ok_iff {records : List Record} :
    gather [] classes = .ok records ↔ Settled classes ∧ classes.map recordFor = records := by
  constructor
  · intro h
    rcases gather_cases classes with ⟨hsettled, hok⟩ | ⟨_, _, _, -, -, ⟨_, -, -, herror⟩ | ⟨-, _, -, herror⟩⟩
    · exact ⟨hsettled, Except.ok.inj (hok.symm.trans h)⟩
    · simp [herror] at h
    · simp [herror] at h
  · rintro ⟨hsettled, rfl⟩
    exact gather_of_settled hsettled

theorem gather_eq_repeated_iff {r : Repeated} :
    gather [] classes = .error (.repeated r) ↔
      ∃ before c after b, classes = before ++ c :: after ∧ Settled before ∧ b ∈ before ∧ b.1.name = c.1.name ∧
        r = { name := c.1.name, firstLine := b.1.line, line := c.1.line, column := c.1.column + 1 } := by
  constructor
  · intro h
    rcases gather_cases classes with ⟨-, hok⟩ |
      ⟨before, c, after, hclasses, hbefore, ⟨b, hb, hname, herror⟩ | ⟨-, _, -, herror⟩⟩
    · simp [hok] at h
    · have hr := Fault.repeated.inj (Except.error.inj (h.symm.trans herror))
      exact ⟨before, c, after, b, hclasses, hbefore, hb, hname, hr⟩
    · simp [herror] at h
  · rintro ⟨before, c, after, b, rfl, hbefore, hb, hname, rfl⟩
    exact gather_of_repeated hbefore hb hname after

theorem gather_eq_unwritable_iff {fault : Source.TextFault} :
    gather [] classes = .error (.unwritable fault) ↔
      ∃ before c after, classes = before ++ c :: after ∧ Settled before ∧ c.1.name ∉ names before ∧
        c.2.findSome? fieldFault? = some fault := by
  constructor
  · intro h
    rcases gather_cases classes with ⟨-, hok⟩ |
      ⟨before, c, after, hclasses, hbefore, ⟨_, -, -, herror⟩ | ⟨hnew, _, hfault, herror⟩⟩
    · simp [hok] at h
    · simp [herror] at h
    · obtain rfl := Fault.unwritable.inj (Except.error.inj (h.symm.trans herror))
      exact ⟨before, c, after, hclasses, hbefore, hnew, hfault⟩
  · rintro ⟨before, c, after, rfl, hbefore, hnew, hfault⟩
    exact gather_of_unwritable hbefore hnew hfault after

/-- Classes under the same heading that declare the same fields; all else in them may differ. -/
def Alike (c d : Heading × List Stmt) : Prop :=
  c.1 = d.1 ∧ ∃ outlines, Selects Declares c.2 outlines ∧ Selects Declares d.2 outlines

def summary (r : Record) : String × Option Nat × List (String × String × Option Nat) :=
  (r.name, r.line, r.fields.map outline)

theorem summary_recordFor {d : Heading × List Stmt} (h : Alike c d) :
    summary (recordFor c) = summary (recordFor d) := by
  obtain ⟨hheading, outlines, hc, hd⟩ := h
  have hunique : ∀ s x y, Declares s x → Declares s y → x = y := fun _ _ _ => declares_unique
  have hfields : (fieldsOf c.2).map outline = (fieldsOf d.2).map outline :=
    ((selects_fieldsOf c.2).unique hunique hc).trans ((selects_fieldsOf d.2).unique hunique hd).symm
  simp only [summary, recordFor, hheading, hfields]

theorem map_summary_cons (r : Record) (x : Except Fault (List Record)) :
    (x.map (r :: ·)).map (List.map summary) = (x.map (List.map summary)).map (summary r :: ·) := by
  cases x <;> rfl

theorem gather_congr {others : List (Heading × List Stmt)} (h : List.Forall₂ Alike classes others)
    (hclasses : ∀ c ∈ classes, ∀ s ∈ c.2, Written s) (hothers : ∀ c ∈ others, ∀ s ∈ c.2, Written s)
    (seen : List (String × Nat)) :
    (gather seen classes).map (List.map summary) = (gather seen others).map (List.map summary) := by
  induction h generalizing seen with
  | nil => rfl
  | @cons c d classes others halike _ ih =>
      obtain ⟨hc, hrest⟩ := List.forall_mem_cons.1 hclasses
      obtain ⟨hd, hrest'⟩ := List.forall_mem_cons.1 hothers
      rw [gather, gather, halike.1, findSome?_fieldFault?_eq_none_iff.2 hc, findSome?_fieldFault?_eq_none_iff.2 hd]
      cases seen.lookup d.1.name with
      | some firstLine => rfl
      | none => simp only [map_summary_cons, ih hrest hrest', summary_recordFor halike]

theorem recordsOf_eq_gather (suffix : String) (body : List Stmt) :
    recordsOf suffix body = gather [] (discovered suffix body) :=
  collect_eq_gather

def repeatedReport (file : String) (first again : Heading) : Report :=
  .make .declaration
    ("Input class '" ++ again.name ++ "' is declared more than once (first at line " ++ toString first.line ++ ")")
    [("file", some (.text file)), ("line", some (.int again.line)), ("column", some (.int (again.column + 1 : Nat)))]

/-- The search finds one record for each class with the suffix, in order, and in it one field for each statement that
declares one, in order. It succeeds exactly if the classes differ in name and all can be written that has to be.
Otherwise the first class for which that fails decides: it repeats the name of an earlier class, which is reported, or
it has a field that cannot be written, which is not. Nothing else in the source matters. -/
theorem recordsOf_exact (suffix : String) (body : List Stmt) :
    ∃ classes, Selects (Discovers suffix) body classes ∧
      ((∃ records, recordsOf suffix body = .ok records) ↔
        (names classes).Nodup ∧ ∀ c ∈ classes, ∀ s ∈ c.2, Written s) ∧
      (∀ records, recordsOf suffix body = .ok records →
        List.Forall₂ (fun c r => r.name = c.1.name ∧ r.line = some c.1.line ∧
          Selects Declares c.2 (r.fields.map outline))
          classes records) ∧
      (∀ file report, (∃ fault, recordsOf suffix body = .error fault ∧ (fault.failure file).report? = some report) ↔
        ∃ before c after b, classes = before ++ c :: after ∧ Settled before ∧ b ∈ before ∧ b.1.name = c.1.name ∧
          report = repeatedReport file b.1 c.1) ∧
      (∀ fault, recordsOf suffix body = .error (.unwritable fault) ↔
        ∃ before c after, classes = before ++ c :: after ∧ Settled before ∧ c.1.name ∉ names before ∧
          c.2.findSome? fieldFault? = some fault) ∧
      ∀ other others, Selects (Discovers suffix) other others → List.Forall₂ Alike classes others →
        (∀ c ∈ classes ++ others, ∀ s ∈ c.2, Written s) →
          (recordsOf suffix body).map (List.map summary) = (recordsOf suffix other).map (List.map summary) := by
  simp only [recordsOf_eq_gather]
  refine ⟨discovered suffix body, selects_discovered suffix body, ?_, ?_, ?_, fun fault => gather_eq_unwritable_iff, ?_⟩
  · constructor
    · rintro ⟨records, hok⟩
      obtain ⟨hsettled, -⟩ := gather_eq_ok_iff.1 hok
      exact ⟨hsettled.nodup, hsettled.written⟩
    · rintro ⟨hnodup, hwritten⟩
      exact ⟨_, gather_of_settled ⟨hnodup, hwritten⟩⟩
  · intro records hok
    obtain ⟨-, rfl⟩ := gather_eq_ok_iff.1 hok
    rw [List.forall₂_map_right_iff, List.forall₂_same]
    intro c _
    exact ⟨rfl, rfl, selects_fieldsOf c.2⟩
  · intro file report
    constructor
    · rintro ⟨fault, herror, hreport⟩
      cases fault with
      | unwritable fault => cases hreport
      | repeated r =>
          obtain ⟨before, c, after, b, hclasses, hbefore, hb, hname, rfl⟩ := gather_eq_repeated_iff.1 herror
          exact ⟨before, c, after, b, hclasses, hbefore, hb, hname, (Option.some.inj hreport).symm⟩
    · rintro ⟨before, c, after, b, hclasses, hbefore, hb, hname, rfl⟩
      exact ⟨_, gather_eq_repeated_iff.2 ⟨before, c, after, b, hclasses, hbefore, hb, hname, rfl⟩, rfl⟩
  · intro other others hother halike hwritten
    rw [← eq_discovered hother]
    exact gather_congr halike (fun c hc => hwritten c (by simp [hc])) (fun c hc => hwritten c (by simp [hc])) []

def twiceBody : List Stmt :=
  [.classDef 1 0 "AInput" [] [] [.annotated 2 (.name "x") (.name "int") none], .plain 3,
    .classDef 4 0 "AInput" [] [] []]

theorem twiceBody_reported :
    ∃ fault, recordsOf "Input" twiceBody = .error fault ∧
      (fault.failure "a.py").report? = some (repeatedReport "a.py" ⟨1, 0, "AInput"⟩ ⟨4, 0, "AInput"⟩) := by
  obtain ⟨classes, hselects, -, -, hreport, -⟩ := recordsOf_exact "Input" twiceBody
  let first : Heading × List Stmt := (⟨1, 0, "AInput"⟩, [.annotated 2 (.name "x") (.name "int") none])
  let again : Heading × List Stmt := (⟨4, 0, "AInput"⟩, [])
  have hclasses : classes = [first, again] := eq_discovered hselects
  have hwritten : ∀ s ∈ first.2, Written s := findSome?_fieldFault?_eq_none_iff.1 rfl
  have hsettled : Settled [first] := ⟨List.nodup_singleton _, by simpa using hwritten⟩
  exact (hreport "a.py" _).2 ⟨[first], again, [], first, hclasses, hsettled, List.mem_singleton_self first, rfl, rfl⟩

def separatedField : Stmt :=
  .annotated 2 (.name "sep") (.name "str")
    (some (.call (.attribute (.joined [.formatted (.constant (.text "\x1f" false)) none none]) "join")
      [.list [.constant (.text "a" false), .constant (.text "b" false)]] []))

/-- A default may end the search though no name is repeated, and that is not reported. -/
theorem default_may_end_search :
    (names (discovered "Input" [.classDef 1 0 "AInput" [] [] [separatedField]])).Nodup ∧
      recordsOf "Input" [.classDef 1 0 "AInput" [] [] [separatedField]] = .error (.unwritable .backslash) ∧
        ((Fault.unwritable .backslash).failure "a.py").report? = none := by
  have hfault : fieldFault? separatedField = some .backslash := by decide
  refine ⟨by decide, ?_, rfl⟩
  rw [recordsOf_eq_gather]
  exact gather_of_unwritable (⟨List.nodup_nil, by simp⟩ : Settled []) (by simp [names]) (by simp [hfault]) []

end Vetted.Proofs.Discovery
