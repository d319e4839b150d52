import Mathlib.Data.List.Pairwise
import Vetted.Proofs.InputClasses
import Vetted.Proofs.Sequence

namespace Vetted.Proofs.ClassBodies

open Declaration InputClass InputClasses
open Source (Expr Stmt)

def shownTag (tag : FieldTag) : String := if tag.computed then "" else tag.text.getD ""

def shownField? (f : String × FieldEntry) : Option (String × String) :=
  match f.2 with
  | .field tag => if isHidden f.1 then none else some (f.1, shownTag tag)
  | .pseudo => none

/-- The visible ones of the fields that values have. -/
def shown (table : FieldTable) : List (String × String) := table.filterMap shownField?

def tagEntries (value : Option Expr) : List (String × (String ⊕ Nat)) :=
  (metadataEntries value).filter (·.1 = "validate")

def literalOf? (e : String × (String ⊕ Nat)) : Option String := e.2.getLeft?

def lastTag (value : Option Expr) : String := ((tagEntries value).getLast?.bind literalOf?).getD ""

/-- The visible field that a statement declares, with the tag by its last entry. -/
def declared? : Stmt → Option (String × String)
  | .annotated _ (.name name) hint value _ =>
    if isHidden name || isClassAttribute hint then none else some (name, lastTag value)
  | _ => none

def declaredNames (body : List Stmt) : List String := (body.filterMap declared?).map Prod.fst

section Tags

variable {w : World} {names : Names}

def tagText? : Option Expr × Nat × Expr → Option String
  | (some (.constant (.text key _)), _, value) =>
    if key = "validate" then some ((InputClass.literal? value).getD "") else none
  | _ => none

theorem shownTag_tagAfter {tag : FieldTag} {item : Option Expr × Nat × Expr}
    (hgiven : w.given names item.1 item.2.2 = none) :
    shownTag (tagAfter w names tag item) = (tagText? item).getD (shownTag tag) := by
  fun_cases tagText? item with
  | case1 kind line value =>
      rw [tagAfter, if_pos rfl]
      cases InputClass.literal? value <;> rfl
  | case2 key kind line value hkey =>
      rw [tagAfter, if_neg hkey]
      rfl
  | case3 item hother =>
      obtain ⟨key, line, value⟩ := item
      rw [tagAfter]
      · simp only [hgiven]
        rfl
      · exact fun key' kind hkey => hother key' kind line value (by rw [hkey])

theorem shownTag_foldl {tag : FieldTag} {items : List (Option Expr × Nat × Expr)}
    (hgiven : ∀ i ∈ items, w.given names i.1 i.2.2 = none) :
    shownTag (items.foldl (tagAfter w names) tag) = (items.filterMap tagText?).getLast?.getD (shownTag tag) := by
  induction items generalizing tag with
  | nil => rfl
  | cons i rest ih =>
      obtain ⟨hfirst, hrest⟩ := List.forall_mem_cons.1 hgiven
      rw [List.foldl_cons, ih hrest, shownTag_tagAfter hfirst, List.filterMap_cons]
      cases tagText? i with
      | none => rfl
      | some text => simp [List.getLast?_cons]

def tagOfItem? (e : String × (String ⊕ Nat)) : Option String :=
  if e.1 = "validate" then some ((literalOf? e).getD "") else none

theorem tagText?_eq (i : Option Expr × Nat × Expr) : tagText? i = (literalItem? i).bind tagOfItem? := by
  fun_cases literalItem? i with
  | case1 key kind line text kind' => rfl
  | case2 key kind line value hvalue =>
      have hliteral : InputClass.literal? value = none := by
        fun_cases InputClass.literal? value with
        | case1 text kind' => exact absurd rfl (hvalue text kind')
        | case2 => rfl
      simp only [tagText?, tagOfItem?, hliteral, Option.bind_some]
      rfl
  | case3 i hother hother' =>
      fun_cases tagText? i with
      | case1 kind line value => exact absurd rfl (hother' _ kind line value)
      | case2 key kind line value hkey => rfl
      | case3 => rfl

theorem filterMap_tagText?_itemsOf (e : Expr) :
    (itemsOf e).filterMap tagText? = (literalEntries e).filterMap tagOfItem? := by
  fun_cases itemsOf e with
  | case1 items =>
      rw [literalEntries, List.filterMap_filterMap]
      exact List.filterMap_congr fun i _ => tagText?_eq i
  | case2 e hother =>
      rw [literalEntries]
      · rfl
      · exact hother

theorem tagTexts_eq (keywords : List (Option String × Expr)) :
    (keywords.flatMap metadataItems).filterMap tagText? =
      ((keywords.filter (·.1 = some "metadata")).flatMap fun k => literalEntries k.2).filterMap tagOfItem? := by
  induction keywords with
  | nil => rfl
  | cons k rest ih =>
      obtain ⟨name, e⟩ := k
      rw [List.flatMap_cons, List.filterMap_append, ih]
      cases name with
      | none => rfl
      | some name =>
          by_cases hname : name = "metadata"
          · rw [metadataItems, if_pos hname, filterMap_tagText?_itemsOf, List.filter_cons_of_pos (by simp [hname]),
              List.flatMap_cons, List.filterMap_append]
          · rw [metadataItems, if_neg hname, List.filter_cons_of_neg (by simp [hname])]
            rfl

theorem lastTag_eq (value : Option Expr) :
    lastTag value = ((metadataEntries value).filterMap tagOfItem?).getLast?.getD "" := by
  have hentries : (metadataEntries value).filterMap tagOfItem? =
      (tagEntries value).map fun e => (literalOf? e).getD "" := by
    rw [tagEntries, ← List.filterMap_eq_map, List.filterMap_filter]
    refine List.filterMap_congr fun e _ => ?_
    rw [tagOfItem?]
    by_cases hkey : e.1 = "validate" <;> simp [hkey]
  rw [hentries, List.getLast?_map, lastTag]
  cases (tagEntries value).getLast? <;> rfl

theorem shownTag_newTag {function : Expr} {arguments : List Expr} {keywords : List (Option String × Expr)}
    (hnamed : function.text = "field" ∨ function.text = "dataclasses.field")
    (hgiven : ∀ i ∈ keywords.flatMap metadataItems, w.given names i.1 i.2.2 = none) :
    shownTag (newTag w names keywords) = lastTag (some (.call function arguments keywords)) := by
  rw [newTag, shownTag_foldl hgiven, tagTexts_eq, lastTag_eq, metadataEntries, if_pos (by simpa using hnamed)]
  rfl

end Tags

section Bodies

variable (w : World) (outer : Names) (postponed : Bool) (cls : String)

/-- A value that is what it looks like: a call that makes a field and gives its whole metadata, or no field at all. -/
inductive PlainValue (names : Names) : Expr → Prop where
  | field {function : Expr} {arguments : List Expr} {keywords : List (Option String × Expr)}
      (named : function.text = "field" ∨ function.text = "dataclasses.field")
      (known : (evaluate w cls names function).isAt w ["dataclasses", "field"] = true)
      (whole : ∀ i ∈ keywords.flatMap metadataItems, w.given names i.1 i.2.2 = none) :
      PlainValue names (.call function arguments keywords)
  | other {e : Expr} (unnamed : metadataEntries (some e) = []) (known : (valueOf w cls names e).number? = none) :
      PlainValue names e

/-- A statement of a class body that is what it looks like: an annotation by a type that marks a class attribute
exactly if it is written so, an annotation of a hidden name, or one that has nothing to do with the declared fields.
-/
inductive Plain (declared : List String) (space : Space) : Stmt → Prop where
  | annotated {line : Nat} {name : String} {hint : Expr} {value : Option Expr}
      (known : hintOf w outer postponed cls
        ((space.step w outer postponed cls (.annotated line (.name name) hint value)).held ++ outer) hint =
          if isClassAttribute hint then .classAttribute else .field)
      (values : ∀ e, value = some e → PlainValue w cls (space.held ++ outer) e)
      (apart : isClassAttribute hint = true → name ∉ declared) :
      Plain declared space (.annotated line (.name name) hint value)
  | hidden {line : Nat} {name : String} {hint : Expr} {value : Option Expr} {bare : Bool}
      (hidden : isHidden name = true)
      (values : ∀ e, value = some e → PlainValue w cls (space.held ++ outer) e) :
      Plain declared space (.annotated line (.name name) hint value bare)
  | other {s : Stmt} (nameless : ∀ line name hint value bare, s ≠ .annotated line (.name name) hint value bare)
      (apart : ∀ b ∈ bindings w cls (space.held ++ outer) s, b.1 ∉ declared ∧ b.2.number? = none)
      (unseen : ∀ h ∈ annotations w outer postponed cls ((space.step w outer postponed cls s).held ++ outer) s,
        isHidden h.1 = true) :
      Plain declared space s

def Plainly (declared : List String) : Space → List Stmt → Prop
  | _, [] => True
  | space, s :: rest =>
    Plain w outer postponed cls declared space s ∧ Plainly declared (space.step w outer postponed cls s) rest

variable {w outer postponed cls} {declared : List String} {names : Names} {space : Space} {s : Stmt}

theorem isHidden_of_startsWith {name : String} (h : Text.startsWith name "__" = true) : isHidden name = true := by
  rw [isHidden, Text.startsWith] at *
  have hfront := List.isPrefixOf_iff_prefix.1 h
  exact List.isPrefixOf_iff_prefix.2 (List.IsPrefix.trans (by decide) hfront)

theorem mangled_of_visible {name : String} (h : isHidden name = false) : mangled cls name = name := by
  have hfront : Text.startsWith name "__" = false := by
    cases hstarts : Text.startsWith name "__" with
    | false => rfl
    | true => rw [isHidden_of_startsWith hstarts] at h; cases h
  simp [mangled, hfront]

theorem isHidden_mangled {name : String} (h : isHidden name = true) : isHidden (mangled cls name) = true := by
  rw [mangled]
  split
  case isTrue =>
      rw [isHidden, Text.startsWith]
      exact List.isPrefixOf_iff_prefix.2 ⟨_, by simp only [String.toList_append, List.append_assoc]; rfl⟩
  case isFalse => exact h

theorem PlainValue.spec {e : Expr} (h : PlainValue w cls names e) :
    shownTag (valueOf w cls names e).tag = lastTag (some e) ∧
      ((valueOf w cls names e).number? = none ∨ (valueOf w cls names e).number? = some names.length) := by
  cases h with
  | field named known whole =>
      rw [valueOf, if_pos known]
      exact ⟨shownTag_newTag named whole, .inr rfl⟩
  | other unnamed known =>
      refine ⟨?_, .inl known⟩
      rw [lastTag, tagEntries, unnamed]
      cases hvalue : valueOf w cls names e with
      | field number tag =>
          rw [hvalue] at known
          cases known
      | _ => rfl

def isFieldHint (h : String × Hint) : Bool := !isHidden h.1 && h.2 = .field

def heldTag (held : Names) (name : String) : String := shownTag ((held.lookup name).getD .other).tag

def Apart (a b : String × Thing) : Prop := ∀ n, a.2.number? = some n → b.2.number? ≠ some n

instance : Std.Symm Apart where
  symm _ _ hab n hb ha := hab n ha hb

/-- What holds of a class body after the statements in `done`, of those that declare the given names in all. -/
structure Reads (declared : List String) (outer : Names) (done : List Stmt) (space : Space) : Prop where
  distinct : (space.hints.map Prod.fst).Nodup
  numbered : space.held.Pairwise Apart
  below : ∀ b ∈ space.held, ∀ n, b.2.number? = some n → n < (space.held ++ outer).length
  seen : ∀ h ∈ space.hints, h.1 ∈ declared → h.1 ∈ declaredNames done
  bound : ∀ b ∈ space.held, b.1 ∈ declared → b.1 ∈ declaredNames done
  shows : (space.hints.filter isFieldHint).map (fun h => (h.1, heldTag space.held h.1)) = done.filterMap declared?

variable {done : List Stmt}

theorem mem_putAll {α : Type} {table own : List (String × α)} {f : String × α} (h : f ∈ putAll table own) :
    f.1 ∈ table.map Prod.fst ∨ f.1 ∈ own.map Prod.fst := by
  induction own generalizing table with
  | nil => exact .inl (List.mem_map_of_mem h)
  | cons g own ih =>
      obtain hput | hown := ih h
      · rw [names_put] at hput
        split at hput
        case isTrue => exact .inl hput
        case isFalse =>
            obtain htable | hsame := List.mem_append.1 hput
            · exact .inl htable
            · exact .inr (List.mem_singleton.1 hsame ▸ List.mem_cons_self)
      · exact .inr (List.mem_cons_of_mem _ hown)

theorem filter_put {α : Type} {p : String × α → Bool} {table : List (String × α)} {n : String} {entry : α}
    (hentry : p (n, entry) = false) (hapart : n ∉ (table.filter p).map Prod.fst) :
    (put n entry table).filter p = table.filter p := by
  induction table with
  | nil => simp [put, hentry]
  | cons f rest ih =>
      rw [put]
      by_cases hsame : f.1 = n
      · have hfirst : p f = false := by
          cases hp : p f with
          | false => rfl
          | true => rw [List.filter_cons_of_pos hp] at hapart; exact absurd (hsame ▸ List.mem_cons_self) hapart
        rw [if_pos hsame, hsame, List.filter_cons_of_neg (by simp [hentry]), List.filter_cons_of_neg (by simp [hfirst])]
      · have hrest : n ∉ (rest.filter p).map Prod.fst := by
          intro hmem
          refine hapart ?_
          rw [List.filter_cons]
          split
          · exact List.mem_cons_of_mem _ hmem
          · exact hmem
        rw [if_neg hsame, List.filter_cons, List.filter_cons, ih hrest]

theorem filter_putAll {α : Type} {p : String × α → Bool} {table own : List (String × α)}
    (h : ∀ f ∈ own, p f = false ∧ f.1 ∉ (table.filter p).map Prod.fst) :
    (putAll table own).filter p = table.filter p := by
  induction own generalizing table with
  | nil => rfl
  | cons f own ih =>
      obtain ⟨⟨hentry, hapart⟩, hown⟩ := List.forall_mem_cons.1 h
      have hput : (put f.1 f.2 table).filter p = table.filter p := filter_put hentry hapart
      rw [← hput]
      exact ih (by rw [hput]; exact hown)

/-- New names in front of those held, with fields that are told apart from the others. -/
def Fresh (extra : Names) (names : Names) : Prop :=
  (∀ b ∈ extra, b.2.number? = none) ∨ ∃ b, extra = [b] ∧ b.2.number? = some names.length

namespace Reads

theorem numbered_append {extra : Names} (h : Reads declared outer done space)
    (hfresh : Fresh extra (space.held ++ outer)) :
    (extra ++ space.held).Pairwise Apart ∧
      ∀ b ∈ extra ++ space.held, ∀ n, b.2.number? = some n → n < (extra ++ space.held ++ outer).length := by
  have hheld : ∀ b ∈ space.held, ∀ n, b.2.number? = some n → n < (extra ++ space.held ++ outer).length := by
    intro b hb n hn
    have hbelow := h.below b hb n hn
    rw [List.append_assoc, List.length_append]
    omega
  obtain hnone | ⟨new, rfl, hnew⟩ := hfresh
  · have hextra : ∀ a ∈ extra, ∀ n, a.2.number? ≠ some n := fun a ha n hn => by simp [hnone a ha] at hn
    refine ⟨List.pairwise_append.2 ⟨?_, h.numbered, fun a ha b _ n hn => absurd hn (hextra a ha n)⟩, ?_⟩
    · exact List.Pairwise.imp_of_mem (fun ha _ _ n hn => absurd hn (hextra _ ha n))
        (List.pairwise_of_forall fun _ _ => trivial)
    · intro b hb n hn
      obtain hb | hb := List.mem_append.1 hb
      · exact absurd hn (hextra b hb n)
      · exact hheld b hb n hn
  · refine ⟨List.pairwise_cons.2 ⟨fun b hb n hn hsame => ?_, h.numbered⟩, ?_⟩
    · have hbelow := h.below b hb n hsame
      rw [hnew] at hn
      exact absurd (Option.some.inj hn) (Nat.ne_of_gt hbelow)
    · intro b hb n hn
      obtain rfl | hb := List.mem_cons.1 hb
      · obtain rfl := Option.some.inj (hnew.symm.trans hn)
        simp
      · exact hheld b hb n hn

theorem names_eq (h : Reads declared outer done space) :
    (space.hints.filter isFieldHint).map Prod.fst = declaredNames done := by
  rw [declaredNames, ← h.shows, List.map_map]
  rfl

theorem skip {extra : Names} {more : List (String × Hint)} (h : Reads declared outer done space)
    (hwithin : ∀ n ∈ declaredNames done, n ∈ declared) (hnone : declared? s = none)
    (hfresh : Fresh extra (space.held ++ outer)) (hextra : ∀ b ∈ extra, b.1 ∉ declared)
    (hmore : ∀ f ∈ more, isFieldHint f = false ∧ f.1 ∉ declared) :
    Reads declared outer (done ++ [s]) { held := extra ++ space.held, hints := putAll space.hints more } := by
  have hnames : declaredNames (done ++ [s]) = declaredNames done := by
    simp [declaredNames, hnone]
  obtain ⟨hnumbered, hbelow⟩ := h.numbered_append hfresh
  refine ⟨nodup_putAll h.distinct, hnumbered, hbelow, ?_, ?_, ?_⟩
  · intro f hf hdeclared
    rw [hnames]
    obtain hold | hnew := mem_putAll hf
    · obtain ⟨g, hg, hname⟩ := List.mem_map.1 hold
      exact hname ▸ h.seen g hg (hname ▸ hdeclared)
    · obtain ⟨g, hg, hname⟩ := List.mem_map.1 hnew
      exact absurd hdeclared (hname ▸ (hmore g hg).2)
  · intro b hb hdeclared
    rw [hnames]
    obtain hb | hb := List.mem_append.1 hb
    · exact absurd hdeclared (hextra b hb)
    · exact h.bound b hb hdeclared
  · have hfilter : (putAll space.hints more).filter isFieldHint = space.hints.filter isFieldHint := by
      refine filter_putAll fun f hf => ⟨(hmore f hf).1, fun hmem => (hmore f hf).2 (hwithin _ ?_)⟩
      rw [h.names_eq] at hmem
      exact hmem
    have hsame : ∀ n ∈ declared, heldTag (extra ++ space.held) n = heldTag space.held n := by
      intro n hn
      have hapart : extra.lookup n = none := lookup_eq_none fun hmem => by
        obtain ⟨b, hb, rfl⟩ := List.mem_map.1 hmem
        exact hextra b hb hn
      rw [heldTag, List.lookup_append, hapart, Option.none_or, heldTag]
    rw [hfilter, List.filterMap_append, List.filterMap_cons, hnone, List.filterMap_nil, List.append_nil, ← h.shows]
    refine List.map_congr_left fun f hf => ?_
    rw [hsame f.1 (hwithin _ (h.names_eq ▸ List.mem_map_of_mem hf))]

theorem declare {extra : Names} {name tag : String} (h : Reads declared outer done space)
    (hdeclared : name ∈ declared) (hvisible : isHidden name = false)
    (hnew : name ∉ declaredNames done) (hsome : declared? s = some (name, tag))
    (hfresh : Fresh extra (space.held ++ outer)) (hextra : ∀ b ∈ extra, b.1 = name)
    (htag : shownTag ((extra.lookup name).getD .other).tag = tag) :
    Reads declared outer (done ++ [s])
      { held := extra ++ space.held, hints := putAll space.hints [(name, .field)] } := by
  have hnames : declaredNames (done ++ [s]) = declaredNames done ++ [name] := by
    simp [declaredNames, hsome]
  have hunseen : name ∉ space.hints.map Prod.fst := by
    intro hmem
    obtain ⟨f, hf, rfl⟩ := List.mem_map.1 hmem
    exact hnew (h.seen f hf hdeclared)
  have hunheld : space.held.lookup name = none := lookup_eq_none fun hmem => by
    obtain ⟨b, hb, rfl⟩ := List.mem_map.1 hmem
    exact hnew (h.bound b hb hdeclared)
  have hput : putAll space.hints [(name, .field)] = space.hints ++ [(name, .field)] :=
    (put_eq h.distinct).trans (if_neg hunseen)
  obtain ⟨hnumbered, hbelow⟩ := h.numbered_append hfresh
  refine ⟨nodup_putAll h.distinct, hnumbered, hbelow, ?_, ?_, ?_⟩
  · intro f hf hmem
    rw [hnames]
    rw [hput] at hf
    obtain hf | hf := List.mem_append.1 hf
    · exact List.mem_append_left _ (h.seen f hf hmem)
    · obtain rfl := List.mem_singleton.1 hf
      exact List.mem_append_right _ List.mem_cons_self
  · intro b hb hmem
    rw [hnames]
    obtain hb | hb := List.mem_append.1 hb
    · rw [hextra b hb]
      exact List.mem_append_right _ List.mem_cons_self
    · exact List.mem_append_left _ (h.bound b hb hmem)
  · have hlast : heldTag (extra ++ space.held) name = tag := by
      rw [heldTag, List.lookup_append, hunheld, Option.or_none, htag]
    have hsame : ∀ n, n ≠ name → heldTag (extra ++ space.held) n = heldTag space.held n := by
      intro n hn
      have hapart : extra.lookup n = none := lookup_eq_none fun hmem => by
        obtain ⟨b, hb, rfl⟩ := List.mem_map.1 hmem
        exact hn (hextra b hb)
      rw [heldTag, List.lookup_append, hapart, Option.none_or, heldTag]
    rw [hput, List.filter_append, List.map_append, List.filterMap_append, ← h.shows]
    congr 1
    · refine List.map_congr_left fun f hf => ?_
      have hother : f.1 ≠ name := fun hname => hnew (hname ▸ h.names_eq ▸ List.mem_map_of_mem hf)
      rw [hsame f.1 hother]
    · rw [List.filter_cons_of_pos (by simp [isFieldHint, hvisible]), List.filterMap_cons, hsome]
      simp [hlast]

theorem fresh_of_values (name : String) {value : Option Expr}
    (hvalues : ∀ e, value = some e → PlainValue w cls names e) :
    Fresh (Space.mangledKeys cls (value.toList.map fun e => (name, valueOf w cls names e))).reverse names := by
  cases value with
  | none => exact .inl (by simp [Space.mangledKeys])
  | some e =>
      obtain ⟨-, hnone | hsome⟩ := (hvalues e rfl).spec
      · exact .inl (by simpa [Space.mangledKeys] using hnone)
      · exact .inr ⟨_, rfl, hsome⟩

theorem skip_step (h : Reads declared outer done space) (hwithin : ∀ n ∈ declaredNames done, n ∈ declared)
    (hvisible : ∀ n ∈ declared, isHidden n = false) (hnone : declared? s = none)
    (hfresh : Fresh (Space.mangledKeys cls (bindings w cls (space.held ++ outer) s)).reverse (space.held ++ outer))
    (hbound : ∀ b ∈ bindings w cls (space.held ++ outer) s, b.1 ∉ declared)
    (hhints : ∀ f ∈ annotations w outer postponed cls ((space.step w outer postponed cls s).held ++ outer) s,
      f.1 ∉ declared ∧ (isHidden f.1 = true ∨ f.2 ≠ .field)) :
    Reads declared outer (done ++ [s]) (space.step w outer postponed cls s) := by
  have hmangled : ∀ n, n ∉ declared → mangled cls n ∉ declared := by
    intro n hn
    cases hhidden : isHidden n with
    | false => rwa [mangled_of_visible hhidden]
    | true => exact fun hmem => absurd (hvisible _ hmem) (by simp [isHidden_mangled hhidden])
  refine h.skip hwithin hnone hfresh ?_ ?_
  · intro b hb
    obtain ⟨b, hmem, rfl⟩ := List.mem_map.1 (List.mem_reverse.1 hb)
    exact hmangled _ (hbound b hmem)
  · intro f hf
    obtain ⟨f, hmem, rfl⟩ := List.mem_map.1 hf
    obtain ⟨hapart, hhidden | hkind⟩ := hhints f hmem
    · exact ⟨by simp [isFieldHint, isHidden_mangled hhidden], hmangled _ hapart⟩
    · exact ⟨by simp [isFieldHint, hkind], hmangled _ hapart⟩

section Annotated

variable {line : Nat} {name : String} {hint : Expr} {value : Option Expr} {bare : Bool}

theorem skip_annotated (h : Reads declared outer done space) (hwithin : ∀ n ∈ declaredNames done, n ∈ declared)
    (hvisible : ∀ n ∈ declared, isHidden n = false)
    (hvalues : ∀ e, value = some e → PlainValue w cls (space.held ++ outer) e) (hapart : name ∉ declared)
    (hskipped : isHidden name = true ∨ isClassAttribute hint = true ∧ hintOf w outer postponed cls
      ((space.step w outer postponed cls (.annotated line (.name name) hint value bare)).held ++ outer) hint ≠
        .field) :
    Reads declared outer (done ++ [.annotated line (.name name) hint value bare])
      (space.step w outer postponed cls (.annotated line (.name name) hint value bare)) := by
  have hnone : declared? (.annotated line (.name name) hint value bare) = none := by
    obtain hhidden | ⟨hkind, -⟩ := hskipped
    · simp [declared?, hhidden]
    · simp [declared?, hkind]
  refine h.skip_step hwithin hvisible hnone (fresh_of_values name hvalues) ?_ ?_
  · intro b hb
    obtain ⟨e, -, rfl⟩ := List.mem_map.1 hb
    exact hapart
  · intro f hf
    rw [annotations] at hf
    split at hf
    case isTrue =>
        obtain rfl := List.mem_singleton.1 hf
        exact ⟨hapart, hskipped.imp_right And.right⟩
    case isFalse => cases hf

theorem declare_annotated (h : Reads declared outer done space) (hdeclared : name ∈ declared)
    (hnew : name ∉ declaredNames done) (hvisible : isHidden name = false) (hkept : isClassAttribute hint = false)
    (hknown : hintOf w outer postponed cls
      ((space.step w outer postponed cls (.annotated line (.name name) hint value)).held ++ outer) hint = .field)
    (hvalues : ∀ e, value = some e → PlainValue w cls (space.held ++ outer) e) :
    Reads declared outer (done ++ [.annotated line (.name name) hint value])
      (space.step w outer postponed cls (.annotated line (.name name) hint value)) := by
  have hsome : declared? (.annotated line (.name name) hint value) = some (name, lastTag value) := by
    simp [declared?, hvisible, hkept]
  have hstep : space.step w outer postponed cls (.annotated line (.name name) hint value) =
      { held := (Space.mangledKeys cls (value.toList.map fun e =>
          (name, valueOf w cls (space.held ++ outer) e))).reverse ++ space.held,
        hints := putAll space.hints [(name, .field)] } := by
    have hhints : (space.step w outer postponed cls (.annotated line (.name name) hint value)).hints =
        putAll space.hints [(mangled cls name, hintOf w outer postponed cls
          ((space.step w outer postponed cls (.annotated line (.name name) hint value)).held ++ outer) hint)] :=
      rfl
    rw [hknown, mangled_of_visible hvisible] at hhints
    exact congrArg (Space.mk _) hhints
  rw [hstep]
  refine h.declare hdeclared hvisible hnew hsome (fresh_of_values name hvalues) ?_ ?_
  · intro b hb
    obtain ⟨b, hmem, rfl⟩ := List.mem_map.1 (List.mem_reverse.1 hb)
    obtain ⟨e, -, rfl⟩ := List.mem_map.1 hmem
    exact mangled_of_visible hvisible
  · cases value with
    | none => rfl
    | some e =>
        have htag := (hvalues e rfl).spec.1
        simpa [Space.mangledKeys, mangled_of_visible hvisible] using htag

end Annotated

theorem step (h : Reads declared outer done space) (hwithin : ∀ n ∈ declaredNames (done ++ [s]), n ∈ declared)
    (hvisible : ∀ n ∈ declared, isHidden n = false) (honce : (declaredNames (done ++ [s])).Nodup)
    (hplain : Plain w outer postponed cls declared space s) :
    Reads declared outer (done ++ [s]) (space.step w outer postponed cls s) := by
  have hnames : declaredNames (done ++ [s]) = declaredNames done ++ (declared? s).toList.map Prod.fst := by
    rw [declaredNames, List.filterMap_append, List.map_append, declaredNames]
    cases hs : declared? s <;> simp [hs]
  have hbefore : ∀ n ∈ declaredNames done, n ∈ declared :=
    fun n hn => hwithin n (hnames ▸ List.mem_append_left _ hn)
  have hunseen : ∀ n, isHidden n = true → n ∉ declared := fun n hn hmem => by simp [hvisible n hmem] at hn
  cases hplain with
  | @annotated line name hint value known values apart =>
      cases hhidden : isHidden name with
      | true => exact h.skip_annotated hbefore hvisible values (hunseen name hhidden) (.inl hhidden)
      | false =>
          cases hkind : isClassAttribute hint with
          | true =>
              refine h.skip_annotated hbefore hvisible values (apart hkind) (.inr ⟨hkind, ?_⟩)
              rw [known, if_pos hkind]
              exact Hint.noConfusion
          | false =>
              have hsome : declared? (.annotated line (.name name) hint value) = some (name, lastTag value) := by
                simp [declared?, hhidden, hkind]
              rw [hsome] at hnames
              rw [hnames, List.nodup_append] at honce
              have hnew : name ∉ declaredNames done := fun hmem => honce.2.2 name hmem name List.mem_cons_self rfl
              have hdeclared : name ∈ declared :=
                hwithin name (hnames ▸ List.mem_append_right _ List.mem_cons_self)
              exact h.declare_annotated hdeclared hnew hhidden hkind (by rw [known, hkind]; rfl) values
  | @hidden line name hint value bare hhidden values =>
      exact h.skip_annotated hbefore hvisible values (hunseen name hhidden) (.inl hhidden)
  | other nameless apart unseen =>
      have hnone : declared? s = none := by
        rw [declared?]
        exact nameless
      refine h.skip_step hbefore hvisible hnone (.inl ?_) (fun b hb => (apart b hb).1)
        (fun f hf => ⟨hunseen _ (unseen f hf), .inl (unseen f hf)⟩)
      intro b hb
      obtain ⟨b, hmem, rfl⟩ := List.mem_map.1 (List.mem_reverse.1 hb)
      exact (apart b hmem).2

theorem run {rest : List Stmt} (h : Reads declared outer done space)
    (hwithin : ∀ n ∈ declaredNames (done ++ rest), n ∈ declared) (hvisible : ∀ n ∈ declared, isHidden n = false)
    (honce : (declaredNames (done ++ rest)).Nodup) (hplain : Plainly w outer postponed cls declared space rest) :
    Reads declared outer (done ++ rest) (rest.foldl (Space.step w outer postponed cls) space) := by
  induction rest generalizing done space with
  | nil =>
      rw [List.append_nil]
      exact h
  | cons s rest ih =>
      have hsplit : declaredNames (done ++ s :: rest) = declaredNames (done ++ [s]) ++ declaredNames rest := by
        rw [List.append_cons, declaredNames, List.filterMap_append, List.map_append]
        rfl
      have hstep := h.step (fun n hn => hwithin n (hsplit ▸ List.mem_append_left _ hn)) hvisible
        (hsplit ▸ honce : (declaredNames (done ++ [s]) ++ declaredNames rest).Nodup).of_append_left hplain.1
      rw [List.append_cons] at hwithin honce ⊢
      exact ih hstep hwithin honce hplain.2

variable {passed : String → Thing} {body : List Stmt}

theorem settled_eq (h : Reads declared outer done space) (hpassed : ∀ n, (passed n).number? = none) {f : String × Hint}
    (hf : f ∈ space.annotated) : space.settled passed f = f := by
  have hheld : ∀ {name : String} {number : Nat}, (space.thingOf passed name).number? = some number →
      ∃ t, (name, t) ∈ space.held ∧ t.number? = some number := by
    intro name number hnumber
    rw [Space.thingOf] at hnumber
    cases hlookup : space.held.lookup name with
    | none => simp [hlookup, hpassed] at hnumber
    | some t =>
        rw [hlookup] at hnumber
        exact ⟨t, Sequence.mem_of_lookup hlookup, hnumber⟩
  rw [Space.settled]
  cases hnumber : (space.thingOf passed f.1).number? with
  | none => rfl
  | some number =>
      obtain ⟨t, ht, htnumber⟩ := hheld hnumber
      cases hlast : (space.annotated.filter fun g => (space.thingOf passed g.1).number? = some number).getLast? with
      | none => simp [hlast]
      | some g =>
          obtain ⟨hg, hsame⟩ := List.mem_filter.1 (List.mem_of_getLast? hlast)
          obtain ⟨t', ht', htnumber'⟩ := hheld (of_decide_eq_true hsame)
          have hname : g.1 = f.1 := by
            by_contra hother
            have hapart : Apart (g.1, t') (f.1, t) :=
              h.numbered.forall ht' ht (fun heq => hother (Prod.mk.inj heq).1)
            exact hapart number htnumber' htnumber
          have heq : g = f :=
            List.inj_on_of_nodup_map h.distinct (List.mem_of_mem_filter hg) (List.mem_of_mem_filter hf) hname
          simp [hlast, heq]

theorem shownTag_thingOf (hpassed : ∀ n, (passed n).number? = none) (name : String) :
    shownTag (space.thingOf passed name).tag = heldTag space.held name := by
  rw [Space.thingOf, heldTag]
  cases space.held.lookup name with
  | some t => rfl
  | none =>
      have hnone := hpassed name
      cases hthing : passed name with
      | field number tag => rw [hthing] at hnone; cases hnone
      | _ => rfl

theorem shown_entries (hpassed : ∀ n, (passed n).number? = none) (hints : List (String × Hint)) :
    shown ((hints.filter (·.2 ≠ .keywordMark)).map (space.entryOf passed)) =
      (hints.filter isFieldHint).map fun h => (h.1, heldTag space.held h.1) := by
  induction hints with
  | nil => rfl
  | cons h rest ih =>
      obtain ⟨name, kind⟩ := h
      have hcons : ∀ f : String × FieldEntry, ∀ table, shown (f :: table) = (shownField? f).toList ++ shown table := by
        intro f table
        rw [shown, List.filterMap_cons]
        cases shownField? f <;> rfl
      cases kind with
      | field =>
          rw [List.filter_cons_of_pos (by simp), List.map_cons, hcons, ih, Space.entryOf, shownField?]
          cases hhidden : isHidden name with
          | true => simp [isFieldHint, hhidden]
          | false => simp [isFieldHint, hhidden, shownTag_thingOf hpassed]
      | keywordMark =>
          rw [List.filter_cons_of_neg (by simp), ih, List.filter_cons_of_neg (by simp [isFieldHint])]
      | _ =>
          rw [List.filter_cons_of_pos (by simp), List.map_cons, hcons, ih,
            List.filter_cons_of_neg (by simp [isFieldHint])]
          rfl

theorem shown_table (h : Reads declared outer body space) (hpassed : ∀ n, (passed n).number? = none) :
    shown (space.table passed) = body.filterMap declared? := by
  have hsettled : (space.annotated.map fun f => space.entryOf passed (space.settled passed f)) =
      space.annotated.map (space.entryOf passed) :=
    List.map_congr_left fun f hf => by rw [h.settled_eq hpassed hf]
  have hdistinct : ((space.annotated.map (space.entryOf passed)).map Prod.fst).Nodup := by
    rw [List.map_map]
    exact h.distinct.sublist (List.filter_sublist.map Prod.fst)
  rw [Space.table, hsettled, putAll_nil hdistinct, Space.annotated, shown_entries hpassed, h.shows]

end Reads

theorem isHidden_of_mem_declaredNames {body : List Stmt} {n : String} (h : n ∈ declaredNames body) :
    isHidden n = false := by
  obtain ⟨f, hf, rfl⟩ := List.mem_map.1 h
  obtain ⟨s, -, hs⟩ := List.mem_filterMap.1 hf
  fun_cases declared? s with
  | case1 line name hint value bare hskipped => simp [declared?, hskipped] at hs
  | case2 line name hint value bare hkept =>
      rw [declared?, if_neg hkept] at hs
      obtain rfl := Option.some.inj hs
      simp only [Bool.or_eq_true, not_or, Bool.not_eq_true] at hkept
      exact hkept.1
  | case3 s hother =>
      rw [declared?] at hs
      · cases hs
      · exact hother

/-- The visible fields that a class has of its own are those that its body declares, each once, if the body is what it
looks like. -/
theorem shown_ownTable {bases : List Expr} {body : List Stmt} (hpassed : ∀ n, (w.passed outer bases n).number? = none)
    (honce : (declaredNames body).Nodup)
    (hplain : Plainly w outer postponed cls (declaredNames body) {} body) :
    shown (ownTable w outer postponed cls bases body) = body.filterMap declared? := by
  have hstart : Reads (declaredNames body) outer [] {} := by
    constructor <;> simp
  have hreads := hstart.run (fun n hn => hn) (fun n hn => isHidden_of_mem_declaredNames hn) honce hplain
  exact hreads.shown_table hpassed

end Bodies

end Vetted.Proofs.ClassBodies
