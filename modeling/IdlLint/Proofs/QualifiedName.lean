import IdlLint.Proofs.OrderedMap
import IdlLint.Schema.Resolve
import Mathlib.Data.List.TakeWhile

/-! Names with a qualifier. A name is split at its first dot, the name of an included file at its
last: the two fit together only if no dot is left in the name of the file. -/
namespace IdlLint.Schema

private theorem splitFirst_append {c : Char} {first : List Char} (plain : c ∉ first)
    (rest : List Char) : splitFirst c (first ++ c :: rest) = (first, rest) := by
  have keeps : ∀ d ∈ first, (d != c) = true := by
    intro d member
    rw [bne_iff_ne]
    rintro rfl
    exact plain member
  simp [splitFirst, List.takeWhile_append_of_pos keeps, List.dropWhile_append_of_pos keeps]

/-- What follows the first `c` is empty if there is none. -/
theorem mem_of_splitFirst {c : Char} {text : List Char} (rest : (splitFirst c text).2 ≠ []) :
    c ∈ text := by
  by_contra absent
  have keeps : ∀ d ∈ text, (d != c) = true := by
    intro d member
    rw [bne_iff_ne]
    rintro rfl
    exact absent member
  exact rest (by simp [splitFirst, List.dropWhile_eq_nil_iff.mpr keeps])

theorem splitLast_append {c : Char} {last : List Char} (plain : c ∉ last) (text : List Char) :
    splitLast c (text ++ c :: last) = (text, last) := by
  have mirrored : splitFirst c (text ++ c :: last).reverse = (last.reverse, text.reverse) := by
    rw [List.reverse_append, List.reverse_cons, List.append_assoc]
    exact splitFirst_append (by simpa using plain) text.reverse
  change ((splitFirst c _).2.reverse, (splitFirst c _).1.reverse) = _
  rw [mirrored, List.reverse_reverse, List.reverse_reverse]

/-- `name` asks for the `rest` of an include that is called `qualifier`. -/
structure Qualified (name qualifier rest : String) : Prop where
  written : name = qualifier ++ "." ++ rest
  plain : '.' ∉ qualifier.toList
  nonempty : rest ≠ ""

theorem toList_dotted (first rest : String) :
    (first ++ "." ++ rest).toList = first.toList ++ '.' :: rest.toList := by
  simp

private theorem Qualified.splitFirst {name qualifier rest : String}
    (asks : Qualified name qualifier rest) :
    splitFirst '.' name.toList = (qualifier.toList, rest.toList) := by
  rw [asks.written, toList_dotted, splitFirst_append asks.plain]

/-- The qualifier of a name is all that stands before its first dot. -/
theorem Qualified.eq_of_plain {first last qualifier rest : String}
    (asks : Qualified (first ++ "." ++ last) qualifier rest) (plain : '.' ∉ first.toList) :
    qualifier = first ∧ rest = last := by
  have same := asks.splitFirst.symm
  rw [toList_dotted, splitFirst_append plain, Prod.mk.injEq, String.toList_inj,
    String.toList_inj] at same
  exact same

private theorem qualified_of_splitFirst {name : String} {first rest : List Char}
    (split : splitFirst '.' name.toList = (first, rest)) (nonempty : rest ≠ []) :
    Qualified name (String.ofList first) (String.ofList rest) := by
  have dotted : '.' ∈ name.toList := mem_of_splitFirst (by rw [split]; exact nonempty)
  obtain ⟨before, after, shape, plain⟩ := List.eq_append_cons_of_mem dotted
  rw [shape, splitFirst_append plain, Prod.mk.injEq] at split
  obtain ⟨rfl, rfl⟩ := split
  refine ⟨?_, by simpa using plain, by simpa using nonempty⟩
  rw [← String.toList_inj, toList_dotted, shape, String.toList_ofList, String.toList_ofList]

variable {name qualifier rest : String} {document included : Document}
  {includes includes' : Includes}

/-- A name that asks for an include is looked up there. -/
theorem qualify_included (asks : Qualified name qualifier rest)
    (known : includes.get? qualifier = some included) :
    qualify name document includes = (rest, included) := by
  have nonempty : rest.toList ≠ [] := by simpa using asks.nonempty
  simp [qualify, asks.splitFirst, nonempty, known]

/-- Of the includes only the one that a name asks for matters. -/
theorem qualify_congr (agree : ∀ qualifier rest, Qualified name qualifier rest →
      includes.get? qualifier = includes'.get? qualifier) :
    qualify name document includes = qualify name document includes' := by
  unfold qualify
  rcases split : splitFirst '.' name.toList with ⟨first, rest⟩
  cases rest with
  | nil => rfl
  | cons c rest =>
    have asks := qualified_of_splitFirst split (List.cons_ne_nil c rest)
    simp only [agree _ _ asks]

theorem qualify_empty (name : String) (document : Document) :
    qualify name document .empty = (name, document) := by
  unfold qualify
  dsimp only
  split <;> simp

/-- A name that asks for no include is looked up as it is. -/
theorem qualify_local (unknown : ∀ qualifier rest, Qualified name qualifier rest →
      qualifier ∉ includes.keys) : qualify name document includes = (name, document) := by
  rw [← qualify_empty name document]
  apply qualify_congr
  intro qualifier rest asks
  rw [OrderedMap.get?_empty, OrderedMap.get?_eq_none_iff]
  exact unknown qualifier rest asks

/-! ### The names of included files -/

private theorem count_beforeLast (c : Char) (text : List Char) :
    (Include.beforeLast c text).count c = text.count c - 1 := by
  by_cases member : c ∈ text
  · obtain ⟨last, before, shape, plain⟩ := List.eq_append_cons_of_mem (List.mem_reverse.mpr member)
    have mirrored : text = before.reverse ++ c :: last.reverse := by
      rw [← List.reverse_reverse text, shape]
      simp
    have absent : c ∉ last.reverse := by simpa using plain
    have split : Include.beforeLast c text = before.reverse := by
      rw [Include.beforeLast, if_pos (by simpa using member)]
      change (splitLast c text).1 = _
      rw [mirrored, splitLast_append absent]
    rw [split, mirrored, List.count_append, List.count_cons_self, List.count_eq_zero.mpr absent]
    omega
  · rw [Include.beforeLast, if_neg (by simpa using member), List.count_eq_zero.mpr member]

/-- The name of an included file has one dot less than the last part of its path. -/
theorem Include.dot_mem_name_iff (header : Include) :
    '.' ∈ header.name.toList ↔ 2 ≤ (Include.afterLast '/' header.path.toList).count '.' := by
  rw [← List.count_pos_iff, Include.name, String.toList_ofList, count_beforeLast]
  omega

end IdlLint.Schema
