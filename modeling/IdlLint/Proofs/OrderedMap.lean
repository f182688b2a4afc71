import IdlLint.Data.OrderedMap
import Mathlib.Data.List.Nodup

/-! Look-ups and keys of ordered maps after each operation. Later modules use only these facts and
never open the list of entries. -/
namespace IdlLint.OrderedMap

variable {κ ν : Type}

@[simp] theorem keys_empty : (empty : OrderedMap κ ν).keys = [] := rfl

theorem keys_nodup (m : OrderedMap κ ν) : m.keys.Nodup := m.distinct

theorem length_keys (m : OrderedMap κ ν) : m.keys.length = m.size := by
  simp [keys, size]

variable [DecidableEq κ]

@[simp] theorem get?_empty (key : κ) : (empty : OrderedMap κ ν).get? key = none := rfl

theorem contains_iff {m : OrderedMap κ ν} {key : κ} : m.contains key = true ↔ key ∈ m.keys := by
  simp [contains]

private theorem find?_put (key query : κ) (value : ν) (entries : List (κ × ν)) :
    ((put key value entries).find? fun entry => entry.1 = query).map Prod.snd =
      if key = query then some value
      else (entries.find? fun entry => entry.1 = query).map Prod.snd := by
  induction entries with
  | nil => by_cases same : key = query <;> simp [put, same]
  | cons entry rest ih =>
    by_cases here : entry.1 = key
    · subst here
      by_cases same : entry.1 = query <;> simp [put, same]
    · by_cases found : entry.1 = query
      · have other : key ≠ query := fun same => here (found.trans same.symm)
        rw [put, if_neg here, if_neg other]
        simp [found]
      · simp only [put, if_neg here, List.find?_cons, found, decide_false]
        exact ih

theorem get?_insert (m : OrderedMap κ ν) (key query : κ) (value : ν) :
    (m.insert key value).get? query = if key = query then some value else m.get? query :=
  find?_put key query value m.entries

@[simp] theorem get?_insert_self (m : OrderedMap κ ν) (key : κ) (value : ν) :
    (m.insert key value).get? key = some value := by
  simp [get?_insert]

theorem get?_insert_of_ne (m : OrderedMap κ ν) {key query : κ} (value : ν) (other : key ≠ query) :
    (m.insert key value).get? query = m.get? query := by
  simp [get?_insert, other]

theorem keys_insert (m : OrderedMap κ ν) (key : κ) (value : ν) :
    (m.insert key value).keys = if key ∈ m.keys then m.keys else m.keys ++ [key] :=
  keys_put key value m.entries

theorem mem_keys_insert {m : OrderedMap κ ν} {key query : κ} {value : ν} :
    query ∈ (m.insert key value).keys ↔ query ∈ m.keys ∨ query = key := by
  rw [keys_insert]
  split
  · rename_i present
    exact ⟨.inl, fun either => either.elim id fun same => same ▸ present⟩
  · simp

theorem mem_keys_iff {m : OrderedMap κ ν} {key : κ} :
    key ∈ m.keys ↔ ∃ value, m.get? key = some value := by
  simp only [keys, List.mem_map, get?, Option.map_eq_some_iff]
  constructor
  · rintro ⟨entry, member, same⟩
    cases found : m.entries.find? fun entry => entry.1 = key with
    | none => exact absurd same (by simpa using List.find?_eq_none.mp found entry member)
    | some first => exact ⟨first.2, first, rfl, rfl⟩
  · rintro ⟨_, entry, found, _⟩
    exact ⟨entry, List.mem_of_find?_eq_some found, by simpa using List.find?_some found⟩

theorem get?_eq_none_iff {m : OrderedMap κ ν} {key : κ} : m.get? key = none ↔ key ∉ m.keys := by
  rw [mem_keys_iff, Option.eq_none_iff_forall_not_mem]
  simp

private theorem mem_entries_of_get? {m : OrderedMap κ ν} {key : κ} {value : ν}
    (found : m.get? key = some value) : (key, value) ∈ m.entries := by
  simp only [get?, Option.map_eq_some_iff] at found
  obtain ⟨entry, first, same⟩ := found
  have here : entry.1 = key := by simpa using List.find?_some first
  have member := List.mem_of_find?_eq_some first
  rw [← here, ← same]
  exact member

/-- A key has one entry, so the entry is the one that a look-up gives. -/
theorem get?_of_mem_entries {m : OrderedMap κ ν} {key : κ} {value : ν}
    (member : (key, value) ∈ m.entries) : m.get? key = some value := by
  obtain ⟨other, found⟩ := mem_keys_iff.mp (List.mem_map.mpr ⟨(key, value), member, rfl⟩)
  have same : (key, other) = (key, value) :=
    List.inj_on_of_nodup_map m.distinct (mem_entries_of_get? found) member rfl
  rw [found, (Prod.mk.inj same).2]

theorem get?_insertNew (m : OrderedMap κ ν) (key query : κ) (value : ν) :
    (m.insertNew key value).get? query =
      if key = query then (m.get? query).or (some value) else m.get? query := by
  unfold insertNew
  split
  · rename_i present
    split
    · rename_i same
      subst same
      obtain ⟨old, found⟩ := mem_keys_iff.mp (contains_iff.mp present)
      simp [found]
    · rfl
  · rename_i absent
    have missing : m.get? key = none := by
      rw [get?_eq_none_iff, ← contains_iff]
      exact absent
    rw [get?_insert]
    split
    · rename_i same
      subst same
      simp [missing]
    · rfl

private theorem get?_foldl_insert (entries : List (κ × ν)) (m : OrderedMap κ ν) (key : κ) :
    (entries.foldl (fun m entry => m.insert entry.1 entry.2) m).get? key =
      ((entries.reverse.find? fun entry => entry.1 = key).map Prod.snd).or (m.get? key) := by
  induction entries generalizing m with
  | nil => simp
  | cons entry entries ih =>
    rw [List.foldl_cons, ih, get?_insert, List.reverse_cons, List.find?_append]
    cases entries.reverse.find? fun entry => entry.1 = key with
    | some later => rfl
    | none => by_cases same : entry.1 = key <;> simp [same]

/-- Of several values for a key the last one counts. -/
theorem get?_ofList (entries : List (κ × ν)) (key : κ) :
    (ofList entries).get? key = (entries.reverse.find? fun entry => entry.1 = key).map Prod.snd := by
  rw [ofList, get?_foldl_insert, get?_empty, Option.or_none]

end IdlLint.OrderedMap
