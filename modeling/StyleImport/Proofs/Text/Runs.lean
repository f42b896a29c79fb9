import Mathlib.Data.List.SplitBy
import StyleImport.Text

/-!
# Runs in a text

A text falls apart into stretches in which all code points pass a test or all fail it. Where runs of
code points that pass the test are replaced by one, it does not matter whether this is done one
stretch at a time or one code point at a time.

## Main definitions

- `Text.runs`: the stretches of a text.
- `Text.replaceRuns`: a text with each run of some code points replaced by one.

## Main statements

- `Text.squeeze_eq_replaceRuns`: reading a text code point by code point replaces its runs.
-/

namespace StyleImport

namespace Text

variable {p : CodePoint → Bool} {b : CodePoint} {run rest t : Text}

/-- The longest stretches of a text in which all code points pass a test or all fail it. -/
def runs (p : CodePoint → Bool) (t : Text) : List Text := t.splitBy fun c c' => p c == p c'

/-- The text with each run of code points that pass a test replaced by one code point. -/
def replaceRuns (p : CodePoint → Bool) (b : CodePoint) (t : Text) : Text :=
  (runs p t).flatMap fun run => if run.any p then [b] else run

theorem squeeze_cons_of_not {c : CodePoint} (h : p c = false) (t : Text) :
    squeeze p b (c :: t) = c :: squeeze p b t := by
  cases t <;> simp [squeeze, h]

/-- Code points that fail the test stay. -/
theorem squeeze_append_of_not (h : ∀ c ∈ run, p c = false) :
    squeeze p b (run ++ rest) = run ++ squeeze p b rest := by
  induction run with
  | nil => rfl
  | cons c run ih =>
    rw [List.forall_mem_cons] at h
    rw [List.cons_append, squeeze_cons_of_not h.1, ih h.2, List.cons_append]

/-- A run of code points that pass the test becomes one code point, if it ends where they end. -/
theorem squeeze_append_of_all (hne : run ≠ []) (h : ∀ c ∈ run, p c = true)
    (hrest : ∀ c ∈ rest.head?, p c = false) :
    squeeze p b (run ++ rest) = b :: squeeze p b rest := by
  induction run with
  | nil => exact absurd rfl hne
  | cons c run ih =>
    rw [List.forall_mem_cons] at h
    cases run with
    | nil =>
      cases rest with
      | nil => simp [squeeze, h.1]
      | cons c' rest => simp [squeeze, h.1, hrest c' rfl]
    | cons c' run =>
      rw [← ih (by simp) h.2]
      simp [squeeze, h.1, h.2 c' List.mem_cons_self]

/-- In a stretch in which neighbours agree about the test, all code points agree. -/
theorem forall_of_isChain {c : CodePoint} (h : (c :: run).IsChain fun c c' => p c == p c') :
    ∀ c' ∈ run, p c' = p c := by
  induction run generalizing c with
  | nil => simp
  | cons c' run ih =>
    rw [List.isChain_cons_cons, beq_iff_eq] at h
    refine List.forall_mem_cons.mpr ⟨h.1.symm, fun c'' hc'' => ?_⟩
    rw [ih h.2 c'' hc'', h.1]

/-- Reading a text code point by code point replaces its runs. -/
theorem squeeze_eq_replaceRuns (p : CodePoint → Bool) (b : CodePoint) (t : Text) :
    squeeze p b t = replaceRuns p b t := by
  unfold replaceRuns
  obtain ⟨hflatten, hne, hchain, hbetween⟩ := List.splitBy_eq_iff.mp (rfl : runs p t = runs p t)
  generalize runs p t = pieces at *
  subst hflatten
  induction pieces with
  | nil => rfl
  | cons run pieces ih =>
    rw [List.mem_cons, not_or] at hne
    rw [List.forall_mem_cons] at hchain
    cases run with
    | nil => exact absurd rfl hne.1
    | cons c run =>
      have hrest := ih hne.2 hchain.2 hbetween.tail
      have hsame := forall_of_isChain hchain.1
      rw [List.flatten_cons, List.flatMap_cons, ← hrest]
      cases hc : p c with
      | false =>
        have hnot : ∀ c' ∈ c :: run, p c' = false :=
          List.forall_mem_cons.mpr ⟨hc, fun c' hc' => (hsame c' hc').trans hc⟩
        rw [squeeze_append_of_not hnot, if_neg (by simpa using hnot)]
      | true =>
        have hall : ∀ c' ∈ c :: run, p c' = true :=
          List.forall_mem_cons.mpr ⟨hc, fun c' hc' => (hsame c' hc').trans hc⟩
        rw [if_pos (by simp [hc])]
        refine squeeze_append_of_all (by simp) hall fun c' hhead => ?_
        -- The next stretch starts with a code point that the last one of this stretch is not like.
        cases pieces with
        | nil => cases hhead
        | cons next pieces =>
          obtain ⟨hlast, hnext, hdiffer⟩ := (List.isChain_cons_cons.mp hbetween).1
          have hhead' : next.head hnext = c' := by
            rw [List.flatten_cons, List.head?_append_of_ne_nil _ hnext] at hhead
            exact List.head_of_mem_head? hhead
          rw [hhead', hall _ (List.getLast_mem hlast)] at hdiffer
          simpa using hdiffer

example : replaceRuns (fun c => c = .scalar '-') (.scalar '_') "a--b-" = "a_b_" := by decide

end Text

end StyleImport
