import Mathlib.Data.List.DropRight
import Vetted.Text.Basic

namespace Vetted.Proofs.TextPieces

variable {sep : Char} {cs piece : List Char}

theorem pieces_eq_splitOn (sep : Char) (cs : List Char) : Text.pieces sep cs = cs.splitOn sep := by
  induction cs with
  | nil => rw [Text.pieces, List.splitOn_nil]
  | cons c cs ih =>
      rw [Text.pieces, ih, List.splitOn_cons_eq_if_modifyHead]
      by_cases hc : c = sep
      · simp [hc]
      · rw [if_neg hc, if_neg (by simpa using hc)]
        cases hs : cs.splitOn sep with
        | nil => exact absurd hs (List.splitOn_ne_nil sep cs)
        | cons p ps => rfl

theorem pieces_ne_nil (sep : Char) (cs : List Char) : Text.pieces sep cs ≠ [] := by
  rw [pieces_eq_splitOn]
  exact List.splitOn_ne_nil sep cs

theorem pieces_of_not_mem (h : sep ∉ cs) : Text.pieces sep cs = [cs] := by
  induction cs with
  | nil => rfl
  | cons c cs ih =>
      obtain ⟨hc, hcs⟩ := not_or.1 (mt List.mem_cons.2 h)
      rw [Text.pieces, if_neg (Ne.symm hc), ih hcs]

theorem pieces_joined (sep : Char) (before after : List Char) :
    Text.pieces sep (before ++ sep :: after) = Text.pieces sep before ++ Text.pieces sep after := by
  induction before with
  | nil => simp [Text.pieces]
  | cons c cs ih =>
      rw [List.cons_append, Text.pieces, ih, Text.pieces]
      by_cases hc : c = sep
      · simp [hc]
      · rw [if_neg hc, if_neg hc]
        cases hpieces : Text.pieces sep cs with
        | nil => exact absurd hpieces (pieces_ne_nil sep cs)
        | cons first others => rfl

theorem mem_of_mem_pieces {c : Char} (hpiece : piece ∈ Text.pieces sep cs) (hc : c ∈ piece) : c ∈ cs := by
  induction cs generalizing piece with
  | nil => simp_all [Text.pieces]
  | cons d ds ih =>
      rw [Text.pieces] at hpiece
      split at hpiece
      · rcases List.mem_cons.1 hpiece with rfl | hpiece
        · simp at hc
        · exact List.mem_cons_of_mem d (ih hpiece hc)
      · cases hds : Text.pieces sep ds with
        | nil => exact absurd hds (pieces_ne_nil sep ds)
        | cons p ps =>
            rw [hds] at hpiece ih
            rcases List.mem_cons.1 hpiece with rfl | hpiece
            · rcases List.mem_cons.1 hc with rfl | hc
              · exact List.mem_cons_self
              · exact List.mem_cons_of_mem d (ih List.mem_cons_self hc)
            · exact List.mem_cons_of_mem d (ih (List.mem_cons_of_mem p hpiece) hc)

theorem not_mem_of_mem_pieces (h : piece ∈ Text.pieces sep cs) : sep ∉ piece := by
  induction cs generalizing piece with
  | nil =>
      obtain rfl := List.mem_singleton.1 h
      simp
  | cons c cs ih =>
      rw [Text.pieces] at h
      by_cases hc : c = sep
      · rw [if_pos hc] at h
        obtain rfl | h := List.mem_cons.1 h
        · simp
        · exact ih h
      · rw [if_neg hc] at h
        cases hpieces : Text.pieces sep cs with
        | nil =>
            rw [hpieces] at h
            obtain rfl := List.mem_singleton.1 h
            simpa using Ne.symm hc
        | cons first others =>
            rw [hpieces] at h ih
            obtain rfl | h := List.mem_cons.1 h
            · exact List.not_mem_cons_of_ne_of_not_mem (Ne.symm hc) (ih List.mem_cons_self)
            · exact ih (List.mem_cons_of_mem _ h)

theorem splitOnChar_joined {glue : String} (hglue : glue.toList = [sep]) (s t : String) :
    Text.splitOnChar sep (s ++ glue ++ t) = Text.splitOnChar sep s ++ Text.splitOnChar sep t := by
  have hjoined : (s ++ glue ++ t).toList = s.toList ++ sep :: t.toList := by simp [hglue]
  rw [Text.splitOnChar, hjoined, pieces_joined, List.map_append]
  rfl

theorem splitOnChar_intercalate {glue : String} (hglue : glue.toList = [sep]) {words : List String} (hne : words ≠ [])
    (hwords : ∀ w ∈ words, sep ∉ w.toList) : Text.splitOnChar sep (glue.intercalate words) = words := by
  rw [Text.splitOnChar, pieces_eq_splitOn, String.toList_intercalate, hglue]
  have hsplit : List.splitOn sep (List.intercalate [sep] (words.map String.toList)) = words.map String.toList :=
    List.splitOn_intercalate sep (by simpa using hwords) (by simpa using hne)
  rw [hsplit, List.map_map]
  simp [Function.comp_def]

theorem intercalate_splitOnChar {glue : String} (hglue : glue.toList = [sep]) (s : String) :
    glue.intercalate (Text.splitOnChar sep s) = s := by
  rw [← String.toList_inj, String.toList_intercalate, hglue, Text.splitOnChar, pieces_eq_splitOn, List.map_map]
  have hlists : String.toList ∘ String.ofList = id := funext fun cs => String.toList_ofList
  rw [hlists, List.map_id]
  exact List.intercalate_splitOn sep

theorem cut_of_not_mem (h : sep ∉ cs) : Text.cut sep cs = (cs, none) := by
  induction cs with
  | nil => rfl
  | cons c cs ih =>
      have hc : ¬c = sep := fun heq => h (heq ▸ List.mem_cons_self)
      rw [Text.cut, if_neg hc, ih (List.not_mem_of_not_mem_cons h)]

theorem cut_append {before : List Char} (h : sep ∉ before) (after : List Char) :
    Text.cut sep (before ++ sep :: after) = (before, some after) := by
  induction before with
  | nil => simp [Text.cut]
  | cons c cs ih =>
      have hc : ¬c = sep := fun heq => h (heq ▸ List.mem_cons_self)
      rw [List.cons_append, Text.cut, if_neg hc, ih (List.not_mem_of_not_mem_cons h)]

theorem trimRight_eq (cs : List Char) : Text.trimRight cs = cs.rdropWhile Text.isBlank := rfl

theorem trim_sublist (cs : List Char) : (Text.trim cs).Sublist cs := by
  rw [Text.trim, trimRight_eq]
  exact (List.rdropWhile_prefix _ _).sublist.trans (List.dropWhile_sublist _)

/-- No blank stands first in a trimmed text. -/
theorem trimLeft_trim (cs : List Char) : Text.trimLeft (Text.trim cs) = Text.trim cs := by
  rw [Text.trimLeft, List.dropWhile_eq_self_iff]
  intro hsome
  have hfront : Text.trim cs <+: Text.trimLeft cs := List.rdropWhile_prefix _ _
  have hlong : 0 < (Text.trimLeft cs).length := lt_of_lt_of_le hsome hfront.length_le
  have hfirst : (Text.trim cs)[0] = (Text.trimLeft cs)[0] := hfront.getElem hsome
  rw [hfirst]
  exact List.dropWhile_get_zero_not _ _ hlong

theorem trim_trim (cs : List Char) : Text.trim (Text.trim cs) = Text.trim cs := by
  rw [Text.trim, trimLeft_trim]
  exact List.rdropWhile_idempotent _ _

/-- Trimming takes away just the blanks around a text that has none at its ends. -/
theorem trim_eq_nil_iff : Text.trim cs = [] ↔ ∀ c ∈ cs, Text.isBlank c = true := by
  rw [Text.trim, trimRight_eq, List.rdropWhile_eq_nil_iff, Text.trimLeft]
  constructor
  · intro h
    cases hrest : cs.dropWhile Text.isBlank with
    | nil => exact List.dropWhile_eq_nil_iff.1 hrest
    | cons c rest =>
        have hhead := List.head?_dropWhile_not Text.isBlank cs
        rw [hrest] at h hhead
        exact absurd (h c List.mem_cons_self) (Bool.eq_false_iff.1 hhead)
  · intro h c hc
    exact h c ((List.dropWhile_sublist _).subset hc)

theorem trim_of_blanks {before after : List Char} (hblank : ∀ c ∈ before ++ after, Text.isBlank c = true)
    (hfirst : ∀ c ∈ cs.head?, Text.isBlank c = false) (hlast : ∀ c ∈ cs.getLast?, Text.isBlank c = false)
    (hne : cs ≠ []) :
    Text.trim (before ++ cs ++ after) = cs := by
  obtain ⟨hbefore, hafter⟩ := List.forall_mem_append.1 hblank
  have hleft : Text.trimLeft (before ++ cs ++ after) = cs ++ after := by
    rw [Text.trimLeft, List.append_assoc, List.dropWhile_append_of_pos hbefore]
    cases cs with
    | nil => exact absurd rfl hne
    | cons c cs => simp [hfirst c rfl]
  have hright : Text.trimRight (cs ++ after) = cs := by
    rw [Text.trimRight, List.reverse_append, List.dropWhile_append_of_pos (by simpa using hafter)]
    cases hrev : cs.reverse with
    | nil => exact absurd (List.reverse_eq_nil_iff.1 hrev) hne
    | cons c rest =>
        have hc : Text.isBlank c = false := hlast c (by rw [← List.head?_reverse, hrev]; rfl)
        rw [List.dropWhile_cons_of_neg (by simp [hc]), ← hrev, List.reverse_reverse]
  rw [Text.trim, hleft, hright]

theorem strip_strip (s : String) : Text.strip (Text.strip s) = Text.strip s := by
  rw [Text.strip, Text.strip, String.toList_ofList, trim_trim]

theorem not_mem_strip {s : String} (h : sep ∉ s.toList) : sep ∉ (Text.strip s).toList := by
  rw [Text.strip, String.toList_ofList]
  intro hmem
  exact h ((trim_sublist _).subset hmem)

theorem startsWith_iff {text front : String} : Text.startsWith text front = true ↔ ∃ rest, text = front ++ rest := by
  rw [Text.startsWith, List.isPrefixOf_iff_prefix]
  constructor
  · rintro ⟨rest, hrest⟩
    refine ⟨String.ofList rest, ?_⟩
    rw [← String.toList_inj, String.toList_append, String.toList_ofList, hrest]
  · rintro ⟨rest, rfl⟩
    rw [String.toList_append]
    exact List.prefix_append _ _

theorem endsWith_iff {text tail : String} : Text.endsWith text tail = true ↔ ∃ front, text = front ++ tail := by
  rw [Text.endsWith, List.isSuffixOf_iff_suffix]
  constructor
  · rintro ⟨front, hfront⟩
    refine ⟨String.ofList front, ?_⟩
    rw [← String.toList_inj, String.toList_append, String.toList_ofList, hfront]
  · rintro ⟨front, rfl⟩
    rw [String.toList_append]
    exact List.suffix_append _ _

end Vetted.Proofs.TextPieces
