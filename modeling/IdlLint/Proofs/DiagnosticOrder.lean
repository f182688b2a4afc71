import IdlLint.Lint.Diagnostic
import Mathlib.Data.Prod.Lex
import Mathlib.Data.String.Basic

/-! The order of findings is total, and two findings that stand at one place in it are the same. So
a list of findings can be put in order in one way only, whatever order they were found in. -/
namespace IdlLint.Diagnostic

private theorem compare_eq_lex : compare =
    compareLex (compareOn filename) (compareLex (compareOn line) (compareLex (compareOn column)
      (compareLex (compareOn ruleId) (compareLex (compareOn severity) (compareOn message))))) :=
  rfl

instance : Std.TransCmp compare := by
  rw [compare_eq_lex]
  infer_instance

/-- The fields of a finding in the order in which they are compared. -/
def fields (d : Diagnostic) : String ×ₗ Int ×ₗ Int ×ₗ String ×ₗ String ×ₗ String :=
  toLex (d.filename, toLex (d.line, toLex (d.column, toLex (d.ruleId,
    toLex (d.severity, d.message)))))

private theorem isLE_then_iff {α : Type} [LT α] [DecidableLT α] [DecidableEq α] (a b : α)
    (rest : Ordering) :
    ((compareOfLessAndEq a b).then rest).isLE = true ↔ a < b ∨ a = b ∧ rest.isLE = true := by
  unfold compareOfLessAndEq
  by_cases less : a < b
  · simp [less]
  · by_cases same : a = b
    · subst same
      simp [less]
    · simp [less, same]

/-- The first field in which two findings differ decides. -/
theorem precedes_iff (a b : Diagnostic) : a.precedes b = true ↔ a.fields ≤ b.fields := by
  have last : (Ord.compare a.message b.message).isLE = true ↔ a.message ≤ b.message := by
    have split := isLE_then_iff a.message b.message .eq
    rw [Ordering.then_eq] at split
    exact split.trans (by simp [le_iff_lt_or_eq])
  simp only [fields, Prod.Lex.toLex_le_toLex, ← last]
  simp only [← isLE_then_iff]
  rfl

private theorem compare_swap (a b : Diagnostic) : a.compare b = (b.compare a).swap :=
  Std.OrientedCmp.eq_swap

private theorem eq_of_compare {a b : Diagnostic} (same : a.compare b = .eq) : a = b := by
  simp only [compare, Ordering.then_eq_eq, Std.compare_eq_iff_eq] at same
  obtain ⟨filename, line, column, ruleId, severity, message⟩ := same
  cases a
  cases b
  simp_all

private theorem precedes_trans (a b c : Diagnostic) (first : a.precedes b = true)
    (second : b.precedes c = true) : a.precedes c = true :=
  Std.TransCmp.isLE_trans first second

private theorem precedes_total (a b : Diagnostic) : (a.precedes b || b.precedes a) = true := by
  rw [precedes, precedes, compare_swap b a]
  cases a.compare b <;> rfl

private theorem precedes_antisymm {a b : Diagnostic} (first : a.precedes b = true)
    (second : b.precedes a = true) : a = b := by
  apply eq_of_compare
  rw [precedes, compare_swap] at second
  rw [precedes] at first
  cases order : a.compare b <;> simp_all

theorem sort_perm (found : List Diagnostic) : (sort found).Perm found :=
  List.mergeSort_perm found precedes

theorem sort_pairwise (found : List Diagnostic) :
    (sort found).Pairwise fun a b => a.precedes b = true :=
  List.pairwise_mergeSort precedes_trans precedes_total found

/-- There is one way to put findings in order. -/
theorem eq_sort_of_perm {ordered found : List Diagnostic}
    (ascending : ordered.Pairwise fun a b => a.precedes b = true) (perm : ordered.Perm found) :
    ordered = sort found := by
  refine List.Perm.eq_of_pairwise ?_ ascending (sort_pairwise found)
    (perm.trans (sort_perm found).symm)
  intro a b _ _ first second
  exact precedes_antisymm first second

/-- The order in which findings were made leaves no trace. -/
theorem sort_congr {one two : List Diagnostic} (perm : one.Perm two) : sort one = sort two :=
  eq_sort_of_perm (sort_pairwise one) ((sort_perm one).trans perm)

/-- Findings can be left out before or after the others are put in order. -/
theorem sort_filter (p : Diagnostic → Bool) (found : List Diagnostic) :
    sort (found.filter p) = (sort found).filter p :=
  (eq_sort_of_perm ((sort_pairwise found).filter p) ((sort_perm found).filter p)).symm

end IdlLint.Diagnostic
