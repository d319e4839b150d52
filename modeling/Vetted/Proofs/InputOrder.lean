import Mathlib.Data.List.Lex
import Mathlib.Data.String.Basic
import Vetted.Generation
import Vetted.Proofs.Sequence
import Vetted.Proofs.TextPieces

namespace Vetted.Proofs.InputOrder

open Generation

theorem listAtMost_iff {xs ys : List String} : Path.listAtMost xs ys = true ↔ xs ≤ ys := by
  induction xs generalizing ys with
  | nil => exact iff_of_true rfl (not_lt.1 (List.not_lt_nil ys))
  | cons x xs ih =>
      cases ys with
      | nil => exact iff_of_false Bool.false_ne_true (not_le.2 (List.nil_lt_cons x xs))
      | cons y ys =>
          have hcons : x :: xs ≤ y :: ys ↔ x < y ∨ x = y ∧ xs ≤ ys := by
            rw [← not_lt, ← not_lt, List.cons_lt_cons_iff]
            grind
          rw [hcons, Path.listAtMost]
          by_cases hxy : x = y
          · rw [if_pos hxy, ih]
            simp [hxy]
          · rw [if_neg hxy]
            simp [hxy]

theorem atMost_iff {p q : Path} : p.atMost q = true ↔ p.keys ≤ q.keys := listAtMost_iff

theorem inputs_perm (s : Settings) : (inputs s).Perm (s.inputFiles.map Path.ofText) := List.mergeSort_perm _ _

theorem inputs_pairwise (s : Settings) : (inputs s).Pairwise fun p q => p.keys ≤ q.keys := by
  refine (List.pairwise_mergeSort ?_ ?_ _).imp atMost_iff.1
  · intro p q r hpq hqr
    rw [atMost_iff] at hpq hqr ⊢
    exact hpq.trans hqr
  · intro p q
    rw [Bool.or_eq_true, atMost_iff, atMost_iff]
    exact le_total _ _

theorem slash_not_mem_of_mem_partsOf {s part : String} (h : part ∈ Path.partsOf s) : '/' ∉ part.toList := by
  obtain ⟨piece, hpiece, rfl⟩ := List.mem_map.1 (List.mem_filter.1 h).1
  rw [String.toList_ofList]
  exact TextPieces.not_mem_of_mem_pieces hpiece

theorem slash_mem_rootOf {cs : List Char} (h : (Path.rootOf cs).isEmpty = false) : '/' ∈ (Path.rootOf cs).toList := by
  unfold Path.rootOf at h ⊢
  split
  all_goals simp_all

theorem keys_ne_of_root {s t : String} (hs : (Path.ofText s).root.isEmpty = true)
    (ht : (Path.ofText t).root.isEmpty = false) : (Path.ofText s).keys ≠ (Path.ofText t).keys := by
  intro hkeys
  rw [Path.keys, Path.keys, if_pos hs, ht, if_neg Bool.false_ne_true] at hkeys
  have hroot : (Path.ofText t).root ∈ (Path.ofText s).parts := hkeys ▸ List.mem_cons_self
  exact slash_not_mem_of_mem_partsOf hroot (slash_mem_rootOf ht)

theorem ofText_eq_of_keys {s t : String} (h : (Path.ofText s).keys = (Path.ofText t).keys) :
    Path.ofText s = Path.ofText t := by
  cases hs : (Path.ofText s).root.isEmpty with
  | true =>
      cases ht : (Path.ofText t).root.isEmpty with
      | true =>
          have hparts : (Path.ofText s).parts = (Path.ofText t).parts := by simpa [Path.keys, hs, ht] using h
          rw [String.isEmpty_iff] at hs ht
          exact congrArg₂ Path.mk (hs.trans ht.symm) hparts
      | false => exact absurd h (keys_ne_of_root hs ht)
  | false =>
      cases ht : (Path.ofText t).root.isEmpty with
      | true => exact absurd h.symm (keys_ne_of_root ht hs)
      | false =>
          obtain ⟨hroot, hparts⟩ : (Path.ofText s).root = (Path.ofText t).root ∧
            (Path.ofText s).parts = (Path.ofText t).parts := by
            simpa [Path.keys, hs, ht] using h
          exact congrArg₂ Path.mk hroot hparts

variable {s t : Settings}

theorem inputs_eq_of_perm (h : (s.inputFiles.map Path.ofText).Perm (t.inputFiles.map Path.ofText)) :
    inputs s = inputs t := by
  have hperm := (inputs_perm s).trans (h.trans (inputs_perm t).symm)
  refine hperm.eq_of_pairwise ?_ (inputs_pairwise s) (inputs_pairwise t)
  intro p q hp hq hpq hqp
  obtain ⟨a, -, rfl⟩ := List.mem_map.1 ((inputs_perm s).mem_iff.1 hp)
  obtain ⟨b, -, rfl⟩ := List.mem_map.1 ((inputs_perm t).mem_iff.1 hq)
  exact ofText_eq_of_keys (le_antisymm hpq hqp)

theorem renderAll_of_perm {files : List String} (fs : FileSystem) (g : Registry)
    (h : (files.map Path.ofText).Perm (s.inputFiles.map Path.ofText)) :
    renderAll fs { s with inputFiles := files } g = renderAll fs s g := by
  have hinputs : inputs { s with inputFiles := files } = inputs s := inputs_eq_of_perm h
  rw [renderAll, renderAll, hinputs]
  -- A module is rendered without a look at the list.
  rfl

theorem generate_of_renderAll (sys : Nat → Generated.System) {files : List String} {fs : FileSystem} {g : Registry}
    (h : renderAll fs { s with inputFiles := files } g = renderAll fs s g) :
    generate sys fs { s with inputFiles := files } g = generate sys fs s g := by
  rw [generate, generate, h]

theorem check_of_renderAll {files : List String} {fs : FileSystem} {g : Registry}
    (h : renderAll fs { s with inputFiles := files } g = renderAll fs s g) :
    check fs { s with inputFiles := files } g = check fs s g := by
  rw [check, check, h]

/-- Settings that list the same paths, in any order and under any of their spellings, have the same runs: with the
same log they give the same modules or stale files in the same order, or fail alike, and they leave the same files.
What they give is one module per path, each path after those below it, or else the failure of the first path that has
one. -/
theorem runs_of_permuted_files (sys : Nat → Generated.System) (fs : FileSystem) (g : Registry) (s : Settings)
    (files : List String)
    (h : (files.map Path.ofText).Perm (s.inputFiles.map Path.ofText)) :
    registry { s with inputFiles := files } = registry s ∧
    renderAll fs { s with inputFiles := files } g = renderAll fs s g ∧
    generate sys fs { s with inputFiles := files } g = generate sys fs s g ∧
    check fs { s with inputFiles := files } g = check fs s g ∧
    ∃ paths : List Path, paths.Perm (files.map Path.ofText) ∧ paths.Pairwise (fun p q => p.keys ≤ q.keys) ∧
      (∀ modules, (renderAll fs s g).result = .ok modules ↔
        List.Forall₂ (fun p m => (render fs s g p).result = .ok m) paths modules) ∧
      ∀ failure, (renderAll fs s g).result = .error failure ↔
        ∃ before p after, paths = before ++ p :: after ∧ (∀ q ∈ before, ∃ m, (render fs s g q).result = .ok m) ∧
          (render fs s g p).result = .error failure := by
  have hrender := renderAll_of_perm fs g h
  refine ⟨rfl, hrender, generate_of_renderAll sys hrender, check_of_renderAll hrender, inputs s,
    (inputs_perm s).trans h.symm, inputs_pairwise s, ?_, ?_⟩
  · intro modules
    rw [renderAll, Logged.result_mapM, Sequence.mapM_eq_ok_iff]
  · intro failure
    rw [renderAll, Logged.result_mapM, Sequence.mapM_eq_error_iff]

/-- Where no file is, the first in order fails, though it is listed last and another is listed twice. -/
theorem run_of_missing_files :
    (["b.py", "./b.py", "a.py"].map Path.ofText).Perm (["a.py", "b.py", "b.py"].map Path.ofText) ∧
      generate (fun _ => .plain) ⟨[], []⟩ { inputFiles := ["b.py", "./b.py", "a.py"] } .standard =
        generate (fun _ => .plain) ⟨[], []⟩ { inputFiles := ["a.py", "b.py", "b.py"] } .standard ∧
      (renderAll ⟨[], []⟩ { inputFiles := ["b.py", "./b.py", "a.py"] } .standard).result =
        .error (.unreadableSource "a.py" ⟨.missing, "a.py", none⟩) := by
  have hperm : (["b.py", "./b.py", "a.py"].map Path.ofText).Perm (["a.py", "b.py", "b.py"].map Path.ofText) := by decide
  have hinputs : inputs { inputFiles := ["a.py", "b.py", "b.py"] } = ["a.py", "b.py", "b.py"].map Path.ofText :=
    List.mergeSort_of_pairwise (by decide)
  obtain ⟨-, hrender, hgenerate, -⟩ :=
    runs_of_permuted_files (fun _ => .plain) ⟨[], []⟩ .standard { inputFiles := ["a.py", "b.py", "b.py"] }
      ["b.py", "./b.py", "a.py"] hperm
  refine ⟨hperm, hgenerate, ?_⟩
  rw [hrender, renderAll, hinputs]
  rfl

end Vetted.Proofs.InputOrder
