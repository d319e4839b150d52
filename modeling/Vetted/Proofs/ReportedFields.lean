import Vetted.Proofs.ClassBodies

namespace Vetted.Proofs.ReportedFields

open Declaration ClassBodies InputClass InputClasses
open Source (Expr Stmt)

variable {suffix n : String} {body : List Stmt} {base own table : FieldTable} {value : Option Expr}

def reported (d : Record) : List (String × String) := d.fields.map fun f => (f.name, f.validateTag)

def shownNames (table : FieldTable) : List String := (shown table).map Prod.fst

def staying (base own : FieldTable) : List String := shownNames (base.map (overridden own))

def added (base own : FieldTable) : List String := shownNames (own.filter fun f => f.1 ∉ base.map Prod.fst)

/-- A class body that is read alike when it is looked at and when values are made, `base` being what the class
inherits and `own` what its annotations come to. -/
structure ReadAlike (base own : FieldTable) (body : List Stmt) : Prop where
  order : declaredNames body = staying base own ++ added base own
  tags : ∀ f ∈ Declaration.fieldsOf body, ∀ tag, (f.name, .field tag) ∈ putAll base own → f.validateTag = shownTag tag

/-- A statement that declares a visible field, with what it gives to the field. -/
inductive Declares : Stmt → String → Option Expr → Prop where
  | field {line : Nat} {name : String} {hint : Expr} {value : Option Expr} {bare : Bool}
      (visible : isHidden name = false)
      (kept : isClassAttribute hint = false) : Declares (.annotated line (.name name) hint value bare) name value

def Overruled (value : Option Expr) : Prop :=
  ∃ earlier key tag later, tagEntries value = earlier ++ (key, .inl tag) :: later ∧ tag ≠ "" ∧ later ≠ [] ∧
    ∀ e ∈ later, e.2.isRight = true

/-- A class body that declares every field once, the inherited ones first and in order, and that leaves no tag to
something other than a literal once a literal has given it. -/
structure Restated (base own : FieldTable) (body : List Stmt) : Prop where
  once : (declaredNames body).Nodup
  redeclared : staying base own <+: declaredNames body
  literal : ∀ s ∈ body, ∀ name value, Declares s name value → ¬Overruled value

theorem tagValue_eq (entries : List (String × (String ⊕ Nat))) (key : String) :
    tagValue entries key = ((entries.filter (·.1 = key)).filterMap literalOf?).getLast?.getD "" := by
  rw [tagValue, List.filterMap_filter]
  congr 3
  funext ⟨k, v⟩
  cases v <;> simp [literalOf?]

theorem getLast?_literals_iff {entries : List (String × (String ⊕ Nat))} {tag : String} :
    (entries.filterMap literalOf?).getLast? = some tag ↔
      ∃ earlier key later, entries = earlier ++ (key, .inl tag) :: later ∧ ∀ e ∈ later, e.2.isRight = true := by
  constructor
  · intro h
    obtain ⟨literals, h⟩ := List.getLast?_eq_some_iff.1 h
    obtain ⟨front, back, rfl, -, hback⟩ := List.filterMap_eq_append_iff.1 h
    obtain ⟨skipped, ⟨key, v⟩, later, rfl, -, hv, hlater⟩ := List.filterMap_eq_cons_iff.1 hback
    obtain rfl : v = .inl tag := Sum.getLeft?_eq_some_iff.1 hv
    refine ⟨front ++ skipped, key, later, by simp, ?_⟩
    intro e he
    have hnone : e.2.getLeft? = none := List.filterMap_eq_nil_iff.1 hlater e he
    exact Sum.getLeft?_eq_none_iff.1 hnone
  · rintro ⟨earlier, key, later, rfl, hlater⟩
    have hnone : later.filterMap literalOf? = [] := by
      refine List.filterMap_eq_nil_iff.2 fun e he => ?_
      exact Sum.getLeft?_eq_none_iff.2 (hlater e he)
    rw [List.filterMap_append, List.filterMap_cons, hnone]
    simp [literalOf?]

theorem overruled_iff :
    Overruled value ↔ (∃ tag, ((tagEntries value).filterMap literalOf?).getLast? = some tag ∧ tag ≠ "") ∧
      ∃ e, (tagEntries value).getLast? = some e ∧ e.2.isRight = true := by
  constructor
  · rintro ⟨earlier, key, tag, later, hentries, htag, hlater, hright⟩
    refine ⟨⟨tag, getLast?_literals_iff.2 ⟨earlier, key, later, hentries, hright⟩, htag⟩, ?_⟩
    obtain ⟨e, he⟩ := Option.isSome_iff_exists.1 (List.getLast?_isSome.2 hlater)
    refine ⟨e, ?_, hright e (List.mem_of_getLast? he)⟩
    rw [hentries, List.getLast?_append, List.getLast?_cons, he]
    rfl
  · rintro ⟨⟨tag, hliteral, htag⟩, e, hlast, he⟩
    obtain ⟨earlier, key, later, hentries, hright⟩ := getLast?_literals_iff.1 hliteral
    refine ⟨earlier, key, tag, later, hentries, htag, ?_, hright⟩
    rintro rfl
    rw [hentries, List.getLast?_concat] at hlast
    obtain rfl := Option.some.inj hlast
    cases he

theorem tagValue_eq_lastTag_iff :
    tagValue (metadataEntries value) "validate" = lastTag value ↔ ¬Overruled value := by
  rw [tagValue_eq, lastTag, overruled_iff, ← tagEntries]
  cases hlast : (tagEntries value).getLast? with
  | none =>
      rw [List.getLast?_eq_none_iff] at hlast
      simp [hlast]
  | some e =>
      obtain ⟨k, v⟩ := e
      cases v with
      | inl tag =>
          obtain ⟨front, hentries⟩ := List.getLast?_eq_some_iff.1 hlast
          have hliteral : ((tagEntries value).filterMap literalOf?).getLast? = some tag :=
            getLast?_literals_iff.2 ⟨front, k, [], hentries, by simp⟩
          simp [hliteral, literalOf?]
      | inr line =>
          cases ((tagEntries value).filterMap literalOf?).getLast? with
          | none => simp [literalOf?]
          | some tag => simp [literalOf?]

theorem declares_cases (s : Stmt) :
    (fieldOf? s = none ∧ declared? s = none ∧ ∀ name value, ¬Declares s name value) ∨
      ∃ f value, fieldOf? s = some f ∧ declared? s = some (f.name, lastTag value) ∧
        f.validateTag = tagValue (metadataEntries value) "validate" ∧
          ∀ name' value', Declares s name' value' ↔ name' = f.name ∧ value' = value := by
  fun_cases fieldOf? s with
  | case1 line name hint value bare hskipped =>
      refine .inl ⟨rfl, if_pos hskipped, ?_⟩
      rintro name' value' ⟨hvisible, hkept⟩
      simp [hvisible, hkept] at hskipped
  | case2 line name hint value bare hkept =>
      refine .inr ⟨_, value, rfl, if_neg hkept, rfl, ?_⟩
      intro name' value'
      constructor
      · rintro ⟨-, -⟩
        exact ⟨rfl, rfl⟩
      · rintro ⟨rfl, rfl⟩
        simp only [Bool.or_eq_true, not_or, Bool.not_eq_true] at hkept
        exact .field hkept.1 hkept.2
  | case3 s hother =>
      refine .inl ⟨rfl, ?_, ?_⟩
      · rw [declared?]
        exact hother
      · rintro name value ⟨-, -⟩
        exact hother _ _ _ _ _ rfl

theorem fieldNames_eq (body : List Stmt) : (Declaration.fieldsOf body).map Field.name = declaredNames body := by
  induction body with
  | nil => rfl
  | cons s rest ih =>
      rw [declaredNames] at ih ⊢
      rw [Declaration.fieldsOf, List.filterMap_cons, ← Declaration.fieldsOf, List.filterMap_cons]
      obtain ⟨hfield, hentry, -⟩ | ⟨f, value, hfield, hentry, -, -⟩ := declares_cases s
      · rw [hfield, hentry]
        exact ih
      · rw [hfield, hentry, List.map_cons, List.map_cons, ih]

theorem mem_shown_iff {tag : String} :
    (n, tag) ∈ shown table ↔ isHidden n = false ∧ ∃ t, (n, .field t) ∈ table ∧ shownTag t = tag := by
  rw [shown, List.mem_filterMap]
  constructor
  · rintro ⟨⟨n', entry⟩, hmem, hshown⟩
    cases entry with
    | pseudo => cases hshown
    | field t =>
        simp only [shownField?, Option.ite_none_left_eq_some, Option.some.injEq, Prod.mk.injEq] at hshown
        obtain ⟨hvisible, rfl, rfl⟩ := hshown
        exact ⟨by simpa using hvisible, t, hmem, rfl⟩
  · rintro ⟨hvisible, t, hmem, rfl⟩
    exact ⟨_, hmem, by simp [shownField?, hvisible]⟩

theorem mem_shownNames_iff : n ∈ shownNames table ↔ isHidden n = false ∧ ∃ t, (n, .field t) ∈ table := by
  constructor
  · intro h
    obtain ⟨⟨n, tag⟩, hmem, rfl⟩ := List.mem_map.1 h
    obtain ⟨hvisible, t, ht, -⟩ := mem_shown_iff.1 hmem
    exact ⟨hvisible, t, ht⟩
  · rintro ⟨hvisible, t, ht⟩
    exact List.mem_map.2 ⟨(n, shownTag t), mem_shown_iff.2 ⟨hvisible, t, ht, rfl⟩, rfl⟩

theorem shownNames_append (xs ys : FieldTable) : shownNames (xs ++ ys) = shownNames xs ++ shownNames ys := by
  simp [shownNames, shown]

def isShown (f : String × FieldEntry) : Bool := !isHidden f.1 && f.2 ≠ .pseudo

theorem shownNames_eq (table : FieldTable) : shownNames table = (table.filter isShown).map Prod.fst := by
  rw [shownNames, shown, List.map_filterMap, ← List.filterMap_eq_map, List.filterMap_filter]
  refine List.filterMap_congr fun f _ => ?_
  obtain ⟨n, entry⟩ := f
  cases entry with
  | pseudo => simp [shownField?, isShown]
  | field tag => cases hhidden : isHidden n <;> simp [shownField?, isShown, hhidden]

theorem shownNames_filter (p : String → Bool) (table : FieldTable) :
    shownNames (table.filter fun f => p f.1) = (shownNames table).filter p := by
  rw [shownNames_eq, shownNames_eq, List.filter_map, List.filter_filter, List.filter_filter]
  simp only [Function.comp_apply, Bool.and_comm]

theorem nodup_shownNames (h : (table.map Prod.fst).Nodup) : (shownNames table).Nodup := by
  rw [shownNames_eq]
  exact h.sublist (List.filter_sublist.map Prod.fst)

theorem eq_of_keys {β : Type} {xs ys : List (String × β)} (hkeys : xs.map Prod.fst = ys.map Prod.fst)
    (hnodup : (ys.map Prod.fst).Nodup) (hmem : ∀ x ∈ xs, x ∈ ys) : xs = ys := by
  induction xs generalizing ys with
  | nil => exact (List.map_eq_nil_iff.1 hkeys.symm).symm
  | cons x xs ih =>
      cases ys with
      | nil => cases hkeys
      | cons y ys =>
          obtain ⟨hfirst, hrest⟩ := List.cons.inj hkeys
          obtain ⟨hnew, hnodup⟩ := List.nodup_cons.1 hnodup
          have hx : x = y := by
            obtain hx | hx := List.mem_cons.1 (hmem x List.mem_cons_self)
            · exact hx
            · exact absurd (hfirst ▸ List.mem_map_of_mem hx) hnew
          have htail : ∀ z ∈ xs, z ∈ ys := by
            intro z hz
            obtain rfl | hz' := List.mem_cons.1 (hmem z (List.mem_cons_of_mem x hz))
            · exact absurd (hrest ▸ List.mem_map_of_mem hz) hnew
            · exact hz'
          rw [hx, ih hrest hnodup htail]

theorem reported_eq_shown_iff_readAlike (hbase : (base.map Prod.fst).Nodup) (hown : (own.map Prod.fst).Nodup)
    (body : List Stmt) :
    ((Declaration.fieldsOf body).map fun f => (f.name, f.validateTag)) = shown (putAll base own) ↔
      ReadAlike base own body := by
  have hnodup : ((putAll base own).map Prod.fst).Nodup := nodup_putAll hbase
  have hnames : shownNames (putAll base own) = staying base own ++ added base own := by
    rw [putAll_eq hbase hown, shownNames_append]
    rfl
  have hdeclared : ((Declaration.fieldsOf body).map fun f => (f.name, f.validateTag)).map Prod.fst =
      declaredNames body := by
    rw [List.map_map]
    exact fieldNames_eq body
  constructor
  · intro h
    refine ⟨?_, ?_⟩
    · rw [← hdeclared, h]
      exact hnames
    · intro f hf tag htag
      have hmem : (f.name, f.validateTag) ∈ shown (putAll base own) := h ▸ List.mem_map.2 ⟨f, hf, rfl⟩
      obtain ⟨-, t, ht, hshown⟩ := mem_shown_iff.1 hmem
      have heq := List.inj_on_of_nodup_map hnodup ht htag rfl
      obtain rfl := FieldEntry.field.inj (Prod.mk.inj heq).2
      exact hshown.symm
  · rintro ⟨horder, htags⟩
    refine eq_of_keys (hdeclared.trans (horder.trans hnames.symm)) (nodup_shownNames hnodup) ?_
    intro p hp
    obtain ⟨f, hf, rfl⟩ := List.mem_map.1 hp
    have hname : f.name ∈ shownNames (putAll base own) := by
      rw [hnames, ← horder, ← fieldNames_eq]
      exact List.mem_map_of_mem hf
    obtain ⟨hvisible, t, ht⟩ := mem_shownNames_iff.1 hname
    exact mem_shown_iff.2 ⟨hvisible, t, ht, (htags f hf t ht).symm⟩

theorem mem_putAll_of_mem (hbase : (base.map Prod.fst).Nodup) (hown : (own.map Prod.fst).Nodup)
    {f : String × FieldEntry} (hf : f ∈ own) : f ∈ putAll base own := by
  rw [putAll_eq hbase hown, List.mem_append]
  by_cases hmem : f.1 ∈ base.map Prod.fst
  · obtain ⟨g, hg, hname⟩ := List.mem_map.1 hmem
    refine .inl (List.mem_map.2 ⟨g, hg, ?_⟩)
    rw [overridden, hname, Sequence.lookup_of_mem hown hf]
    rfl
  · exact .inr (List.mem_filter.2 ⟨hf, by simpa using hmem⟩)

theorem order_iff (hown : (own.map Prod.fst).Nodup)
    (honce : (declaredNames body).Nodup) (hnames : shownNames own = declaredNames body) :
    declaredNames body = staying base own ++ added base own ↔ staying base own <+: declaredNames body := by
  constructor
  · intro h
    rw [h]
    exact List.prefix_append _ _
  · rintro ⟨rest, hrest⟩
    have hadded : added base own = (declaredNames body).filter fun n => n ∉ base.map Prod.fst := by
      rw [← hnames, added, shownNames_filter fun n => n ∉ base.map Prod.fst]
    have hstaying : (staying base own).filter (fun n => n ∉ base.map Prod.fst) = [] := by
      refine List.filter_eq_nil_iff.2 fun n hn => ?_
      obtain ⟨-, t, ht⟩ := mem_shownNames_iff.1 hn
      obtain ⟨g, hg, hname⟩ := List.mem_map.1 ht
      have hmem : n ∈ base.map Prod.fst := List.mem_map.2 ⟨g, hg, congrArg Prod.fst hname⟩
      simpa using hmem
    have hnew : rest.filter (fun n => n ∉ base.map Prod.fst) = rest := by
      refine List.filter_eq_self.2 fun n hn => ?_
      rw [← hrest, List.nodup_append] at honce
      by_contra hmem
      -- A declared name that is inherited is a field of the class in its inherited place.
      have hstays : n ∈ staying base own := by
        obtain ⟨hvisible, t, ht⟩ := mem_shownNames_iff.1 (hnames ▸ hrest ▸ List.mem_append_right _ hn)
        obtain ⟨g, hg, hname⟩ := List.mem_map.1 (by simpa using hmem : n ∈ base.map Prod.fst)
        refine mem_shownNames_iff.2 ⟨hvisible, t, List.mem_map.2 ⟨g, hg, ?_⟩⟩
        rw [overridden, hname, Sequence.lookup_of_mem hown ht]
        rfl
      exact honce.2.2 n hstays n hn rfl
    rw [hadded, ← hrest, List.filter_append, hstaying, hnew, List.nil_append]

theorem readAlike_iff_restated (hbase : (base.map Prod.fst).Nodup) (hown : (own.map Prod.fst).Nodup)
    (hshown : (declaredNames body).Nodup → shown own = body.filterMap declared?) :
    ReadAlike base own body ↔ Restated base own body := by
  have hnodup : ((putAll base own).map Prod.fst).Nodup := nodup_putAll hbase
  have hnames : (declaredNames body).Nodup → shownNames own = declaredNames body := by
    intro honce
    rw [shownNames, hshown honce]
    rfl
  -- The entry of a declared field in the whole table has the tag by the last entry of its metadata.
  have hentry : (declaredNames body).Nodup → ∀ s ∈ body, ∀ f value, declared? s = some (f, lastTag value) →
      ∃ t, (f, FieldEntry.field t) ∈ putAll base own ∧ shownTag t = lastTag value := by
    intro honce s hs f value hf
    have hmem : (f, lastTag value) ∈ shown own := hshown honce ▸ List.mem_filterMap.2 ⟨s, hs, hf⟩
    obtain ⟨-, t, ht, htag⟩ := mem_shown_iff.1 hmem
    exact ⟨t, mem_putAll_of_mem hbase hown ht, htag⟩
  constructor
  · rintro ⟨horder, htags⟩
    have honce : (declaredNames body).Nodup := by
      have htable := nodup_shownNames hnodup
      rw [putAll_eq hbase hown, shownNames_append] at htable
      exact horder ▸ htable
    refine ⟨honce, (order_iff hown honce (hnames honce)).1 horder, ?_⟩
    intro s hs name value hdeclares
    obtain ⟨-, -, hnone⟩ | ⟨f, value', hfield, hdeclared, htag, hiff⟩ := declares_cases s
    · exact absurd hdeclares (hnone name value)
    · obtain ⟨rfl, rfl⟩ := (hiff name value).1 hdeclares
      obtain ⟨t, ht, hshownTag⟩ := hentry honce s hs f.name value hdeclared
      have hsame := htags f (List.mem_filterMap.2 ⟨s, hs, hfield⟩) t ht
      exact tagValue_eq_lastTag_iff.1 (htag.symm.trans (hsame.trans hshownTag))
  · rintro ⟨honce, hredeclared, hliteral⟩
    refine ⟨(order_iff hown honce (hnames honce)).2 hredeclared, ?_⟩
    intro f hf tag htag
    obtain ⟨s, hs, hfield⟩ := List.mem_filterMap.1 hf
    obtain ⟨hnone, -, -⟩ | ⟨f', value, hfield', hdeclared, hreported, hiff⟩ := declares_cases s
    · rw [hnone] at hfield
      cases hfield
    · obtain rfl := Option.some.inj (hfield'.symm.trans hfield)
      obtain ⟨t, ht, hshownTag⟩ := hentry honce s hs f'.name value hdeclared
      have heq := List.inj_on_of_nodup_map hnodup ht htag rfl
      obtain rfl := FieldEntry.field.inj (Prod.mk.inj heq).2
      have hlast := tagValue_eq_lastTag_iff.2 (hliteral s hs f'.name value ((hiff _ _).2 ⟨rfl, rfl⟩))
      exact hreported.trans (hlast.trans hshownTag.symm)

def Defines (body : List Stmt) (name : String) : Prop :=
  ∃ line column bases decorators inner, Stmt.classDef line column name bases decorators inner ∈ body

theorem classesFrom_append (w : World) (postponed : Bool) (names : Names) (before after : List Stmt) :
    classesFrom w postponed names (before ++ after) =
      classesFrom w postponed names before ++
        classesFrom w postponed (before.foldl (learn w postponed) names) after := by
  induction before generalizing names with
  | nil => rfl
  | cons s rest ih => rw [List.cons_append, classesFrom, ih, classesFrom, List.append_assoc, List.foldl_cons]

theorem defines_of_mem {w : World} {postponed : Bool} {names : Names} {cls : InputClass}
    (h : cls ∈ classesFrom w postponed names body) : Defines body cls.name := by
  obtain ⟨s, hs, names, lineage, hmade⟩ := mem_classesFrom h
  cases s with
  | classDef line column name bases decorators inner =>
      obtain ⟨rfl, -⟩ := Prod.mk.inj (Option.some.inj hmade)
      exact ⟨line, column, bases, decorators, inner, hs⟩
  | _ => cases hmade

/-- A class statement of a source, with the statements before and after it. -/
structure ClassSite where
  before : List Stmt
  line : Nat
  column : Nat
  name : String
  bases : List Expr
  decorators : List Expr
  body : List Stmt
  after : List Stmt

namespace ClassSite

def stmt (c : ClassSite) : Stmt := .classDef c.line c.column c.name c.bases c.decorators c.body

def source (c : ClassSite) : List Stmt := c.before ++ c.stmt :: c.after

def postponed (c : ClassSite) : Bool := isPostponed c.source

variable (w : World) (c : ClassSite)

def names : Names := namesAfter w c.postponed c.before

def isMarked : Bool := c.decorators.any (isRecordMark w (c.names w))

def inherited : FieldTable := InputClass.inherited (ancestors w (c.names w) c.bases)

def ownTable : FieldTable := InputClass.ownTable w (c.names w) c.postponed c.name c.bases c.body

/-- No field comes from what the class is built on but by its table, and the body is what it looks like. -/
def IsPlain : Prop :=
  (∀ n, (w.passed (c.names w) c.bases n).number? = none) ∧
    Plainly w (c.names w) c.postponed c.name (declaredNames c.body) {} c.body

def record : Record := { name := c.name, fields := Declaration.fieldsOf c.body, line := some c.line }

def wholeTable : FieldTable := putAll (c.inherited w) (c.ownTable w)

/-- The class of values, if it is marked as a record. -/
def made : InputClass :=
  { name := c.name, isRecord := true, fields := valueFields (c.wholeTable w), table := c.wholeTable w }

variable {w c}

theorem nodup_ownTable : ((c.ownTable w).map Prod.fst).Nodup := nodup_putAll (by simp)

theorem ofStmt?_stmt (hmarked : c.isMarked w = true) :
    ∃ lineage, ofStmt? w (c.names w) c.postponed c.stmt = some (c.made w, lineage) := by
  have hown : markedTable? w (c.names w) c.postponed c.name c.bases c.decorators c.body = some (c.wholeTable w) :=
    if_pos hmarked
  have htable : putAll [] (c.wholeTable w) = c.wholeTable w := putAll_nil (nodup_putAll nodup_inherited)
  refine ⟨{ key := .made (c.names w).length, own := some (c.wholeTable w), table := some (c.wholeTable w) } ::
    ancestors w (c.names w) c.bases, ?_⟩
  simp only [stmt, ofStmt?, hown, Option.some_or, Option.getD_some, Option.isSome_some, htable, made]

variable {records : List Record}

theorem recordOf?_stmt (hsuffix : Text.endsWith c.name suffix = true) : recordOf? suffix c.stmt = some c.record :=
  if_pos hsuffix

theorem mem_records_iff (hrecords : recordsOf suffix c.source = .ok records)
    (hsuffix : Text.endsWith c.name suffix = true) (d : Record) : d ∈ records ∧ d.name = c.name ↔ d = c.record := by
  obtain ⟨hfound, hdistinct, -⟩ := collect_eq_ok hrecords
  have hmem : c.record ∈ records := by
    rw [hfound]
    exact List.mem_filterMap.2 ⟨c.stmt, by simp [source], recordOf?_stmt hsuffix⟩
  constructor
  · rintro ⟨hd, hsame⟩
    exact List.inj_on_of_nodup_map hdistinct hd hmem hsame
  · rintro rfl
    exact ⟨hmem, rfl⟩

theorem not_defines_again (hrecords : recordsOf suffix c.source = .ok records)
    (hsuffix : Text.endsWith c.name suffix = true) : ¬Defines c.before c.name ∧ ¬Defines c.after c.name := by
  obtain ⟨hfound, hdistinct, -⟩ := collect_eq_ok hrecords
  have hmem : ∀ {body : List Stmt}, Defines body c.name →
      c.name ∈ (body.filterMap (recordOf? suffix)).map Record.name := by
    rintro body ⟨line, column, bases, decorators, inner, hs⟩
    exact List.mem_map.2 ⟨_, List.mem_filterMap.2 ⟨_, hs, if_pos hsuffix⟩, rfl⟩
  rw [hfound, source, List.filterMap_append, List.filterMap_cons, recordOf?_stmt hsuffix, List.map_append,
    List.map_cons, List.nodup_append] at hdistinct
  obtain ⟨-, hafter, hbefore⟩ := hdistinct
  refine ⟨fun h => ?_, fun h => ?_⟩
  · exact hbefore _ (hmem h) _ List.mem_cons_self rfl
  · exact (List.nodup_cons.1 hafter).1 (hmem h)

theorem mem_classes_iff (hrecords : recordsOf suffix c.source = .ok records)
    (hsuffix : Text.endsWith c.name suffix = true) (hmarked : c.isMarked w = true) (cls : InputClass) :
    cls ∈ ofStatements w c.source ∧ cls.name = c.name ↔ cls = c.made w := by
  obtain ⟨hbefore, hafter⟩ := not_defines_again hrecords hsuffix
  obtain ⟨lineage, hmade⟩ := ofStmt?_stmt hmarked
  have hclasses : ofStatements w c.source = classesFrom w c.postponed [] c.before ++
      c.made w :: classesFrom w c.postponed (learn w c.postponed (c.names w) c.stmt) c.after := by
    rw [ofStatements, source, classesFrom_append, classesFrom]
    exact congrArg (fun made => _ ++ ((Option.map Prod.fst made).toList ++ _)) hmade
  rw [hclasses]
  constructor
  · rintro ⟨hcls, hsame⟩
    obtain hearlier | hhere := List.mem_append.1 hcls
    · exact absurd (hsame ▸ defines_of_mem hearlier) hbefore
    · obtain rfl | hlater := List.mem_cons.1 hhere
      · rfl
      · exact absurd (hsame ▸ defines_of_mem hlater) hafter
  · rintro rfl
    exact ⟨by simp, rfl⟩

theorem covers_made (hplain : c.IsPlain w) (honce : (declaredNames c.body).Nodup) : Covers c.record (c.made w) := by
  intro f hf
  have hname : f.name ∈ shownNames (c.ownTable w) := by
    rw [shownNames, ownTable, shown_ownTable hplain.1 honce hplain.2, ← declaredNames, ← fieldNames_eq]
    exact List.mem_map_of_mem hf
  obtain ⟨-, tag, htag⟩ := mem_shownNames_iff.1 hname
  have hentry : (f.name, .field tag) ∈ c.wholeTable w := mem_putAll_of_mem nodup_inherited nodup_ownTable htag
  exact List.mem_map.2 ⟨(f.name, tag.text), List.mem_filterMap.2 ⟨_, hentry, rfl⟩, rfl⟩

/-- The values of a class whose body is what it looks like have every field that is reported of it, if the body
declares no field twice. -/
theorem covers_of_isPlain (hrecords : recordsOf suffix c.source = .ok records)
    (hsuffix : Text.endsWith c.name suffix = true) (hmarked : c.isMarked w = true) (hplain : c.IsPlain w)
    (honce : (declaredNames c.body).Nodup) {d : Record} (hd : d ∈ records) (hname : d.name = c.name)
    {cls : InputClass} (hcls : cls ∈ ofStatements w c.source) (hsame : cls.name = d.name) : Covers d cls := by
  obtain rfl := (mem_records_iff hrecords hsuffix d).1 ⟨hd, hname⟩
  obtain rfl := (mem_classes_iff hrecords hsuffix hmarked cls).1 ⟨hcls, hsame⟩
  exact covers_made hplain honce

end ClassSite

/-- Every class with the suffix is reported once and stands for one class of values. If it is marked as a record, what
is reported of it are the fields of its values exactly if its body is read alike after what it inherits; for a body
that is what it looks like, that is exactly if the body says again what the class inherits. -/
theorem reported_eq_shown_iff (w : World) (suffix : String) (c : ClassSite) (records : List Record)
    (hrecords : recordsOf suffix c.source = .ok records) (hsuffix : Text.endsWith c.name suffix = true)
    (hmarked : c.isMarked w = true) :
    ∃ d cls, (∀ d', d' ∈ records ∧ d'.name = c.name ↔ d' = d) ∧
      (∀ cls', cls' ∈ ofStatements w c.source ∧ cls'.name = c.name ↔ cls' = cls) ∧
      cls.isRecord = true ∧ cls.fields = valueFields cls.table ∧
      (reported d = shown cls.table ↔ ReadAlike (c.inherited w) (c.ownTable w) c.body) ∧
      (c.IsPlain w →
        (ReadAlike (c.inherited w) (c.ownTable w) c.body ↔ Restated (c.inherited w) (c.ownTable w) c.body)) := by
  refine ⟨c.record, c.made w, ClassSite.mem_records_iff hrecords hsuffix,
    ClassSite.mem_classes_iff hrecords hsuffix hmarked, rfl, rfl, ?_, ?_⟩
  · exact reported_eq_shown_iff_readAlike nodup_inherited ClassSite.nodup_ownTable c.body
  · rintro ⟨hpassed, hplain⟩
    exact readAlike_iff_restated nodup_inherited ClassSite.nodup_ownTable fun honce =>
      shown_ownTable hpassed honce hplain

def taggedText (line : Nat) (name tag : String) : Stmt :=
  .annotated line (.name name) (.name "str")
    (some (.call (.name "field") []
      [(some "metadata", .dict [(some (.constant (.text "validate" false)), line, .constant (.text tag false))])]))

def personForms : List Stmt :=
  [.importFrom 1 0 (some "dataclasses") [⟨"dataclass", none⟩, ⟨"field", none⟩],
    .classDef 5 0 "PersonInput" [] [.name "dataclass"] [taggedText 6 "name" "required"]]

def memberSite : ClassSite where
  before := personForms
  line := 10
  column := 0
  name := "MemberInput"
  bases := [.name "PersonInput"]
  decorators := [.name "dataclass"]
  body := [taggedText 11 "name" "min=2", taggedText 12 "code" "len=4"]
  after := []

theorem plain_taggedText {w : World} {outer : Names} {postponed : Bool} {cls : String} {declared : List String}
    {space : Space} {line : Nat} {name tag : String}
    (hhint : hintOf w outer postponed cls
      ((space.step w outer postponed cls (taggedText line name tag)).held ++ outer) (.name "str") = .field)
    (hfield : (evaluate w cls (space.held ++ outer) (.name "field")).isAt w ["dataclasses", "field"] = true)
    (hgiven : ∀ names key value, w.given names key value = none) :
    Plain w outer postponed cls declared space (taggedText line name tag) := by
  refine .annotated hhint ?_ (fun h => absurd h (by decide))
  rintro e he
  obtain rfl := Option.some.inj he
  exact .field (.inl rfl) hfield fun i _ => hgiven _ _ _

theorem memberSite_isPlain : memberSite.IsPlain {} :=
  ⟨fun _ => rfl, plain_taggedText rfl rfl fun _ _ _ => rfl, plain_taggedText rfl rfl fun _ _ _ => rfl, trivial⟩

theorem memberSite_reported :
    memberSite.isMarked {} = true ∧ Restated (memberSite.inherited {}) (memberSite.ownTable {}) memberSite.body ∧
      ∃ records, recordsOf "Input" memberSite.source = .ok records ∧ ∃ d ∈ records, d.name = "MemberInput" ∧
        ∃ cls ∈ ofStatements {} memberSite.source, cls.name = "MemberInput" ∧ cls.isRecord = true ∧
          reported d = shown cls.table := by
  have hrestated : Restated (memberSite.inherited {}) (memberSite.ownTable {}) memberSite.body := by
    refine ⟨by decide, by decide, ?_⟩
    rintro s (_ | ⟨_, _ | ⟨_, ⟨⟩⟩⟩) name value ⟨-, -⟩
    · exact tagValue_eq_lastTag_iff.1 rfl
    · exact tagValue_eq_lastTag_iff.1 rfl
  refine ⟨rfl, hrestated, _, rfl, ?_⟩
  obtain ⟨d, cls, hd, hcls, hrecord, -, halike, hplain⟩ :=
    reported_eq_shown_iff {} "Input" memberSite _ rfl (by decide) rfl
  obtain ⟨hdmem, hdname⟩ := (hd d).2 rfl
  obtain ⟨hclsmem, hclsname⟩ := (hcls cls).2 rfl
  exact ⟨d, hdmem, hdname, cls, hclsmem, hclsname, hrecord, halike.2 ((hplain memberSite_isPlain).2 hrestated)⟩

/-- Inherited fields are not reported. -/
theorem reported_may_differ :
    ¬∀ (w : World) (suffix : String) (body : List Stmt) (records : List Record), recordsOf suffix body = .ok records →
      ∀ d ∈ records, ∀ cls ∈ ofStatements w body, cls.name = d.name → cls.isRecord = true →
        reported d = shown cls.table := by
  intro h
  have hreported := h {} "Input"
    (personForms ++
      [.classDef 10 0 "MemberInput" [.name "PersonInput"] [.name "dataclass"] [taggedText 11 "code" "len=4"]])
    _ rfl _ (List.mem_of_getElem? (i := 1) rfl) _ (List.mem_of_getElem? (i := 1) rfl) rfl rfl
  exact absurd hreported (by decide)

end Vetted.Proofs.ReportedFields
