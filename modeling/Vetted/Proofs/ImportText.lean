import Vetted.Proofs.TextPieces
import Vetted.Source.Binding

namespace Vetted.Proofs.ImportText

open Source TextPieces

/-- Names as they are written one after another, with a comma behind each but the last. -/
def written : List String → List String
  | [] => []
  | [n] => [n]
  | n :: k :: rest => (n ++ ",") :: written (k :: rest)

theorem written_ne_nil {names : List String} (h : names ≠ []) : written names ≠ [] := by
  fun_cases written names <;> simp_all

theorem mem_written {names : List String} {w : String} (h : w ∈ written names) :
    ∃ n ∈ names, w = n ∨ w = n ++ "," := by
  fun_induction written names with
  | case1 => cases h
  | case2 n => exact ⟨n, by simp, .inl (by simpa using h)⟩
  | case3 n k rest ih =>
      obtain rfl | h := List.mem_cons.1 h
      · exact ⟨n, by simp, .inr rfl⟩
      · obtain ⟨l, hl, hw⟩ := ih h
        exact ⟨l, List.mem_cons_of_mem n hl, hw⟩

theorem intercalate_written (names : List String) : " ".intercalate (written names) = Text.commaJoin names := by
  rw [Text.commaJoin]
  fun_induction written names with
  | case1 => rfl
  | case2 n => simp
  | case3 n k rest ih =>
      rw [String.intercalate_cons_of_ne_nil (written_ne_nil (by simp)), ih, String.intercalate_cons_cons]
      simp [String.append_assoc]

/-- A name that is written as one word of an import line. -/
structure IsWord (s : String) : Prop where
  noBlank : ' ' ∉ s.toList
  noComma : ',' ∉ s.toList
  ne_as : s ≠ "as"
  ne_star : s ≠ "*"

theorem withoutComma_of_noComma {s : String} (h : ',' ∉ s.toList) : Stmt.withoutComma s = s := by
  have hkeep : s.toList.filter (· ≠ ',') = s.toList := by
    rw [List.filter_eq_self]
    intro c hc
    simpa using ne_of_mem_of_not_mem hc h
  rw [Stmt.withoutComma, hkeep, String.ofList_toList]

theorem withoutComma_append_comma (s : String) : Stmt.withoutComma (s ++ ",") = Stmt.withoutComma s := by
  rw [Stmt.withoutComma, Stmt.withoutComma, String.toList_append, List.filter_append]
  simp

theorem aliasesOf_cons {w : String} {rest : List String} (h : ∀ v ∈ rest, v ≠ "as") :
    Stmt.aliasesOf (w :: rest) = ⟨Stmt.withoutComma w, none⟩ :: Stmt.aliasesOf rest := by
  rw [Stmt.aliasesOf]
  rintro given others rfl
  exact h "as" (by simp) rfl

theorem ne_as_of_mem_written {names : List String} (hnames : ∀ n ∈ names, IsWord n) {w : String}
    (h : w ∈ written names) : w ≠ "as" := by
  obtain ⟨n, hn, rfl | rfl⟩ := mem_written h
  · exact (hnames w hn).ne_as
  · intro has
    have hcomma : ',' ∈ (n ++ ",").toList := by simp
    rw [has] at hcomma
    exact absurd hcomma (by decide)

theorem aliasesOf_written {names : List String} (hnames : ∀ n ∈ names, IsWord n) :
    Stmt.aliasesOf (written names) = names.map fun n => ⟨n, none⟩ := by
  fun_induction written names with
  | case1 => rfl
  | case2 n =>
      rw [aliasesOf_cons (by simp), withoutComma_of_noComma (hnames n (by simp)).noComma]
      rfl
  | case3 n k rest ih =>
      have hrest : ∀ l ∈ k :: rest, IsWord l := fun l hl => hnames l (List.mem_cons_of_mem n hl)
      rw [aliasesOf_cons fun v hv => ne_as_of_mem_written hrest hv, ih hrest, withoutComma_append_comma,
        withoutComma_of_noComma (hnames n (by simp)).noComma]
      rfl

def fromLine (package : String) (names : List String) : String :=
  "from " ++ package ++ " import " ++ Text.commaJoin names

theorem splitOnChar_fromLine {package : String} {names : List String} (hpackage : ' ' ∉ package.toList)
    (hne : names ≠ []) (hnames : ∀ n ∈ names, IsWord n) :
    Text.splitOnChar ' ' (fromLine package names) = "from" :: package :: "import" :: written names := by
  have hline : fromLine package names = " ".intercalate ("from" :: package :: "import" :: written names) := by
    rw [String.intercalate_cons_cons, String.intercalate_cons_cons,
      String.intercalate_cons_of_ne_nil (written_ne_nil hne), intercalate_written, fromLine,
      ← String.toList_inj]
    simp
  rw [hline]
  refine splitOnChar_intercalate (by simp) (by simp) ?_
  simp only [List.forall_mem_cons]
  refine ⟨by decide, hpackage, by decide, ?_⟩
  intro w hw
  obtain ⟨n, hn, rfl | rfl⟩ := mem_written hw
  · exact (hnames w hn).noBlank
  · simpa using (hnames n hn).noBlank

/-- Where the members of a module are found that is named in a line. -/
def sourceOf (package : String) : Origin where
  dots := (package.toList.takeWhile Stmt.isDot).length
  path := ((Stmt.packageOf? package).map dotted).getD []

theorem lineOrigins_fromLine {exports : Exports} {package : String} {names : List String}
    (hpackage : ' ' ∉ package.toList) (hne : names ≠ []) (hnames : ∀ n ∈ names, IsWord n) :
    lineOrigins exports (fromLine package names) = names.map fun n => (n, (sourceOf package).member n) := by
  rw [lineOrigins, Stmt.ofImportText?, splitOnChar_fromLine hpackage hne hnames]
  simp only [Stmt.origins, aliasesOf_written hnames, List.flatMap_map]
  rw [List.map_eq_flatMap]
  refine List.flatMap_congr fun n hn => ?_
  rw [Stmt.memberOrigins, if_neg (hnames n hn).ne_star]
  rfl

theorem lookup_map {β : Type} (xs : List String) (f : String → β) (name : String) :
    (xs.map fun x => (x, f x)).lookup name = if name ∈ xs then some (f name) else none := by
  induction xs with
  | nil => rfl
  | cons x xs ih =>
      rw [List.map_cons, List.lookup_cons]
      by_cases hx : name = x
      · simp [hx]
      · have hbeq : (name == x) = false := by simpa using hx
        simp [hbeq, hx, ih]

theorem originAfter_fromLine {exports : Exports} {package : String} {names : List String}
    (hpackage : ' ' ∉ package.toList) (hne : names ≠ []) (hnames : ∀ n ∈ names, IsWord n) (name : String) :
    originAfter exports [fromLine package names] name =
      if name ∈ names then some ((sourceOf package).member name) else none := by
  rw [originAfter, List.flatMap_singleton, lineOrigins_fromLine hpackage hne hnames, ← List.map_reverse, lookup_map]
  simp only [List.mem_reverse]

theorem mem_of_originAfter_fromLine {exports : Exports} {package : String} {names : List String}
    (hpackage : ' ' ∉ package.toList) (hne : names ≠ []) (hnames : ∀ n ∈ names, IsWord n) {name : String} {o : Origin}
    (h : originAfter exports [fromLine package names] name = some o) :
    name ∈ names ∧ o = (sourceOf package).member name := by
  rw [originAfter_fromLine hpackage hne hnames] at h
  split at h
  case isTrue hmem => exact ⟨hmem, (Option.some.inj h).symm⟩
  case isFalse => cases h

end Vetted.Proofs.ImportText
