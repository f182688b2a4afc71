import IdlLint.Lint.Collect
import IdlLint.Proofs.CanonicalName
import IdlLint.Proofs.OrderedMap
import Mathlib.Data.List.Forall2

/-! The files of a run are those that its arguments stand for, each under the first path that leads
to it. -/
namespace IdlLint

/-! ### First occurrences -/

/-- The elements of a list with a value under `f` that no element before them has. -/
def firstBy {α β : Type} [DecidableEq β] (f : α → β) (items : List α) : List α :=
  (items.zipIdx.filter fun (entry : α × Nat) =>
    decide (∀ earlier ∈ items.take entry.2, f earlier ≠ f entry.1)).map Prod.fst

namespace Collect

variable {w : Workspace}

/-- With the locations of the paths before it in mind, a list of paths is gone through as if they
stood there. -/
theorem distinct_eq (before rest : List Path) {seen : List Location}
    (known : ∀ location, location ∈ seen ↔ location ∈ before.map w.locate) :
    distinct w rest seen =
      ((rest.zipIdx before.length).filter fun (entry : Path × Nat) =>
        decide (∀ earlier ∈ (before ++ rest).take entry.2,
          w.locate earlier ≠ w.locate entry.1)).map Prod.fst := by
  induction rest generalizing before seen with
  | nil => rfl
  | cons path rest ih =>
    have onward : before ++ path :: rest = before ++ [path] ++ rest := by simp
    have front : (before ++ [path] ++ rest).take before.length = before := by simp
    have length : (before ++ [path]).length = before.length + 1 := by simp
    rw [onward, List.zipIdx_cons, ← length]
    by_cases old : w.locate path ∈ seen
    · have repeated : ¬∀ earlier ∈ before, w.locate earlier ≠ w.locate path := by
        obtain ⟨earlier, member, same⟩ := List.mem_map.mp ((known _).mp old)
        exact fun fresh => fresh earlier member same
      have still : ∀ location, location ∈ seen ↔ location ∈ (before ++ [path]).map w.locate := by
        intro location
        rw [known, List.map_append, List.mem_append, List.map_singleton, List.mem_singleton]
        exact ⟨.inl, fun either => either.elim id fun same => same ▸ (known _).mp old⟩
      rw [distinct, if_pos old, ih _ still, List.filter_cons_of_neg (by simpa [front] using repeated)]
    · have fresh : ∀ earlier ∈ before, w.locate earlier ≠ w.locate path :=
        fun earlier member same => old ((known _).mpr (same ▸ List.mem_map_of_mem member))
      have next : ∀ location,
          location ∈ w.locate path :: seen ↔ location ∈ (before ++ [path]).map w.locate := by
        intro location
        rw [List.mem_cons, known, List.map_append, List.mem_append, List.map_singleton,
          List.mem_singleton, or_comm]
      rw [distinct, if_neg old, ih _ next, List.filter_cons_of_pos (by simpa [front] using fresh)]
      rfl

private theorem distinct_eq_firstBy (paths : List Path) :
    distinct w paths [] = firstBy w.locate paths :=
  distinct_eq [] paths (by simp)

private theorem mem_locate_distinct {paths : List Path} {seen : List Location} {location : Location} :
    location ∈ (distinct w paths seen).map w.locate ↔
      location ∈ paths.map w.locate ∧ location ∉ seen := by
  induction paths generalizing seen with
  | nil => simp [distinct]
  | cons path rest ih =>
    rw [distinct]
    split
    · rename_i old
      rw [ih, List.map_cons, List.mem_cons]
      refine and_congr_left fun fresh => ⟨.inr, fun either => either.resolve_left ?_⟩
      rintro rfl
      exact fresh old
    · rename_i fresh
      rw [List.map_cons, List.mem_cons, ih, List.mem_cons, List.map_cons, List.mem_cons]
      by_cases here : location = w.locate path
      · simp [here, fresh]
      · simp [here]

private theorem nodup_locate_distinct (paths : List Path) (seen : List Location) :
    ((distinct w paths seen).map w.locate).Nodup := by
  induction paths generalizing seen with
  | nil => exact List.nodup_nil
  | cons path rest ih =>
    rw [distinct]
    split
    · exact ih seen
    · rw [List.map_cons, List.nodup_cons, mem_locate_distinct]
      exact ⟨fun again => again.2 (List.mem_cons_self ..), ih _⟩

/-! ### What is below a directory -/

variable {disk : Disk} {directory rest : List String}

private theorem mem_inside {location : Location} : location ∈ inside disk directory ↔
    ∃ rest ≠ [], location = directory ++ rest ∧ location ∈ disk.entries.keys := by
  simp only [inside, List.mem_filter, Bool.and_eq_true, List.isPrefixOf_iff_prefix,
    decide_eq_true_eq]
  constructor
  · rintro ⟨key, ⟨rest, rfl⟩, longer⟩
    refine ⟨rest, ?_, rfl, key⟩
    rintro rfl
    simp at longer
  · rintro ⟨rest, nonempty, rfl, key⟩
    have long := List.length_pos_iff.mpr nonempty
    exact ⟨key, List.prefix_append _ _, by rw [List.length_append]; omega⟩

/-- The part of a location below a directory says which one it is. -/
theorem mem_map_drop {locations : List Location}
    (below : ∀ location ∈ locations, directory <+: location) :
    rest ∈ locations.map (·.drop directory.length) ↔ directory ++ rest ∈ locations := by
  rw [List.mem_map]
  constructor
  · rintro ⟨location, member, rfl⟩
    obtain ⟨tail, rfl⟩ := below location member
    simpa using member
  · intro member
    exact ⟨_, member, by simp⟩

private theorem nodup_map_drop {locations : List Location} (nodup : locations.Nodup)
    (below : ∀ location ∈ locations, directory <+: location) :
    (locations.map (·.drop directory.length)).Nodup := by
  refine List.Nodup.map_on ?_ nodup
  intro one first two second same
  obtain ⟨_, rfl⟩ := below one first
  obtain ⟨_, rfl⟩ := below two second
  simpa using same

private theorem prefix_of_mem_inside {location : Location}
    (member : location ∈ inside disk directory) : directory <+: location := by
  obtain ⟨rest, _, rfl, _⟩ := mem_inside.mp member
  exact List.prefix_append _ _

private theorem entry_isSome (nonempty : rest ≠ []) :
    (disk.entry? (directory ++ rest)).isSome = true ↔ directory ++ rest ∈ disk.entries.keys := by
  have named : (directory ++ rest).isEmpty = false := by simp [nonempty]
  rw [Disk.entry?, named, OrderedMap.mem_keys_iff, Option.isSome_iff_exists]
  rfl

/-- The path ends in the name of a document. -/
def EndsInDocument (rest : List String) : Prop :=
  ∃ name, rest.getLast? = some name ∧ suffix.toList <:+ name.toList

private theorem isNamed_iff (nonempty : rest ≠ []) :
    isNamed (directory ++ rest) = true ↔ EndsInDocument rest := by
  have last := List.getLast?_eq_some_getLast nonempty
  rw [isNamed, List.isSuffixOf_iff_suffix, List.getLastD_eq_getLast?, List.getLast?_append, last]
  simp [EndsInDocument, last]

private theorem mem_below : rest ∈ below disk directory ↔
    EndsInDocument rest ∧ (disk.entry? (directory ++ rest)).isSome = true := by
  rw [below, List.mem_mergeSort, mem_map_drop, List.mem_filter, mem_inside]
  · constructor
    · rintro ⟨⟨tail, nonempty, same, key⟩, named⟩
      obtain rfl := List.append_cancel_left same
      exact ⟨(isNamed_iff nonempty).mp named, (entry_isSome nonempty).mpr key⟩
    · rintro ⟨named, there⟩
      have nonempty : rest ≠ [] := by
        rintro rfl
        obtain ⟨name, last, _⟩ := named
        cases last
      exact ⟨⟨rest, nonempty, rfl, (entry_isSome nonempty).mp there⟩,
        (isNamed_iff nonempty).mpr named⟩
  · intro location member
    exact prefix_of_mem_inside (List.mem_of_mem_filter member)

private theorem mem_folders : rest ∈ folders disk directory ↔
    rest ≠ [] ∧ disk.entry? (directory ++ rest) = some .directory := by
  rw [folders, mem_map_drop, List.mem_filter, mem_inside, decide_eq_true_eq]
  · constructor
    · rintro ⟨⟨tail, nonempty, same, _⟩, folder⟩
      obtain rfl := List.append_cancel_left same
      exact ⟨nonempty, folder⟩
    · rintro ⟨nonempty, folder⟩
      exact ⟨⟨rest, nonempty, rfl, (entry_isSome nonempty).mp (by simp [folder])⟩, folder⟩
  · intro location member
    exact prefix_of_mem_inside (List.mem_of_mem_filter member)

private theorem precedes_iff {a b : List String} : precedes a b = true ↔ ¬b < a := by
  rw [precedes, Bool.not_eq_true', ← Bool.not_eq_true, List.lex_eq_true_iff_lt]

/-- What is below a directory comes in ascending order. -/
theorem pairwise_below : (below disk directory).Pairwise (· < ·) := by
  have sorted : (below disk directory).Pairwise fun a b => precedes a b = true := by
    refine List.pairwise_mergeSort ?_ ?_ _
    · intro a b c first second
      rw [precedes_iff, List.not_lt] at *
      exact List.le_trans first second
    · intro a b
      rw [Bool.or_eq_true, precedes_iff, precedes_iff, List.not_lt, List.not_lt]
      exact List.le_total a b
  have nodup : (below disk directory).Nodup := by
    refine (List.mergeSort_perm _ _).nodup_iff.mpr (nodup_map_drop ?_ ?_)
    · exact ((OrderedMap.keys_nodup _).filter _).filter _
    · intro location member
      exact prefix_of_mem_inside (List.mem_of_mem_filter member)
  refine (sorted.and nodup).imp ?_
  rintro a b ⟨ordered, other⟩
  by_contra greater
  exact other (List.le_antisymm (List.not_lt.mp (precedes_iff.mp ordered)) (List.not_lt.mp greater))

/-! ### What an argument stands for -/

variable {path : Path} {location : Location}

/-- A file stands for itself, a directory for the documents below it in the order of their
components. -/
def StandsFor (w : Workspace) (path : Path) (found : List Path) : Prop :=
  (∃ location content, w.follow path = .ok location ∧
    w.disk.entry? location = some (.file content) ∧ found = [path]) ∨
  ∃ (directory : Location) (rests : List (List String)), w.follow path = .ok directory ∧
    w.disk.entry? directory = some .directory ∧ rests.Pairwise (· < ·) ∧
    (∀ rest, rest ∈ rests ↔
      EndsInDocument rest ∧ (w.disk.entry? (directory ++ rest)).isSome = true) ∧
    found = rests.map fun rest => path.join ⟨.relative, rest⟩

/-- There is a directory below an argument whose path is too long to be looked into. -/
def IsTooDeep (w : Workspace) (path : Path) : Prop :=
  ∃ directory rest, w.follow path = .ok directory ∧ w.disk.entry? directory = some .directory ∧
    rest ≠ [] ∧ w.disk.entry? (directory ++ rest) = some .directory ∧
    Workspace.longestPath < (path.join ⟨.relative, rest⟩).toString.utf8ByteSize

private theorem expand_file {content : List UInt8} (followed : w.follow path = .ok location)
    (found : w.disk.entry? location = some (.file content)) : expand w path = .ok [path] := by
  have plain : w.isDirectory path = .ok false := by
    simp [Workspace.isDirectory, Workspace.test, Workspace.find, followed, found]
  rw [expand, plain]
  exact if_pos (Workspace.follow_eq_ok_iff.mp followed).1

/-- A directory stands for what is below it unless it is too deep. -/
theorem expand_directory (followed : w.follow path = .ok directory)
    (found : w.disk.entry? directory = some .directory) :
    (IsTooDeep w path → ∃ failure, expand w path = .error failure) ∧
      (¬IsTooDeep w path → expand w path =
        .ok ((below w.disk directory).map fun rest => path.join ⟨.relative, rest⟩)) := by
  have listed : w.isDirectory path = .ok true := by
    simp [Workspace.isDirectory, Workspace.test, Workspace.find, followed, found]
  simp only [expand, listed, followed]
  constructor
  · rintro ⟨other, rest, again, _, nonempty, folder, long⟩
    obtain rfl := Except.ok.inj (followed.symm.trans again)
    have member := List.mem_map_of_mem (f := fun rest => path.join ⟨.relative, rest⟩)
      (mem_folders.mpr ⟨nonempty, folder⟩)
    split
    · exact ⟨_, rfl⟩
    · rename_i none
      exact absurd long (by simpa using List.find?_eq_none.mp none _ member)
  · intro shallow
    split
    · rename_i folder first
      have long := List.find?_some first
      obtain ⟨rest, member, rfl⟩ := List.mem_map.mp (List.mem_of_find?_eq_some first)
      obtain ⟨nonempty, there⟩ := mem_folders.mp member
      exact absurd ⟨directory, rest, followed, found, nonempty, there, by simpa using long⟩ shallow
    · rfl

private theorem expand_spec (existing : ∃ entry, w.find path = .ok entry) :
    (IsTooDeep w path ∧ ∃ failure, expand w path = .error failure) ∨
      ¬IsTooDeep w path ∧ ∃ found, expand w path = .ok found ∧ StandsFor w path found := by
  obtain ⟨entry, found⟩ := existing
  unfold Workspace.find at found
  split at found
  · cases found
  · rename_i location followed
    split at found
    · rename_i entry there
      cases entry with
      | file content =>
        refine .inr ⟨?_, [path], expand_file followed there,
          .inl ⟨location, content, followed, there, rfl⟩⟩
        rintro ⟨directory, _, again, folder, _⟩
        obtain rfl := Except.ok.inj (followed.symm.trans again)
        rw [there] at folder
        cases folder
      | directory =>
        obtain ⟨fails, succeeds⟩ := expand_directory followed there
        by_cases deep : IsTooDeep w path
        · exact .inl ⟨deep, fails deep⟩
        · exact .inr ⟨deep, _, succeeds deep, .inr ⟨location, below w.disk location, followed, there,
            pairwise_below, fun _ => mem_below, rfl⟩⟩
    · cases found

/-- The arguments are gone through one after the other; one that is too deep ends it all. -/
theorem expandAll_spec {paths : List Path}
    (existing : ∀ path ∈ paths, ∃ entry, w.find path = .ok entry) :
    ((∃ path ∈ paths, IsTooDeep w path) ∧ ∃ failure, expandAll w paths = .error failure) ∨
      (∀ path ∈ paths, ¬IsTooDeep w path) ∧
        ∃ pieces, expandAll w paths = .ok pieces.flatten ∧
          List.Forall₂ (StandsFor w) paths pieces := by
  induction paths with
  | nil => exact .inr ⟨by simp, [], rfl, .nil⟩
  | cons path rest ih =>
    obtain ⟨here, later⟩ := List.forall_mem_cons.mp existing
    rw [expandAll]
    rcases expand_spec here with ⟨deep, failure, failed⟩ | ⟨shallow, found, expanded, stands⟩
    · exact .inl ⟨⟨path, List.mem_cons_self .., deep⟩, failure, by rw [failed]; rfl⟩
    · rw [expanded]
      rcases ih later with ⟨⟨other, member, deep⟩, failure, failed⟩ | ⟨others, pieces, more, all⟩
      · exact .inl ⟨⟨other, List.mem_cons_of_mem _ member, deep⟩, failure, by rw [failed]; rfl⟩
      · refine .inr ⟨List.forall_mem_cons.mpr ⟨shallow, others⟩, found :: pieces, ?_,
          .cons stands all⟩
        rw [more]
        rfl

/-! ### Locations -/

private theorem collapse_plain {start : Location} (plain : ".." ∉ rest) :
    Workspace.collapse start rest = start ++ rest := by
  induction rest generalizing start with
  | nil => simp [Workspace.collapse]
  | cons name rest ih =>
    obtain ⟨other, later⟩ := not_or.mp (List.mem_cons.not.mp plain)
    have onward := @ih (start ++ [name]) later
    rw [Workspace.collapse, List.foldl_cons, if_neg (Ne.symm other), ← Workspace.collapse, onward]
    simp

/-- A path that goes on below a directory leads there. -/
theorem locate_join (followed : w.follow path = .ok directory) (plain : ".." ∉ rest) :
    w.locate (path.join ⟨.relative, rest⟩) = directory ++ rest := by
  have start := Workspace.locate_of_follow followed
  rw [← collapse_plain plain, ← start]
  exact List.foldl_append

private theorem locate_join_of_isSome (named : ∀ location ∈ w.disk.entries.keys, ".." ∉ location)
    (followed : w.follow path = .ok directory)
    (there : (w.disk.entry? (directory ++ rest)).isSome = true) :
    w.locate (path.join ⟨.relative, rest⟩) = directory ++ rest := by
  refine locate_join followed fun up => ?_
  have nonempty : rest ≠ [] := by
    rintro rfl
    cases up
  exact named _ ((entry_isSome nonempty).mp there) (List.mem_append_right _ up)

/-- Where the paths lead that an argument stands for. -/
theorem mem_locate_of_standsFor (named : ∀ location ∈ w.disk.entries.keys, ".." ∉ location)
    {found : List Path} (stands : StandsFor w path found) :
    location ∈ found.map w.locate ↔
      (w.follow path = .ok location ∧ ∃ content, w.disk.entry? location = some (.file content)) ∨
      ∃ directory rest, w.follow path = .ok directory ∧
        w.disk.entry? directory = some .directory ∧ EndsInDocument rest ∧
        (w.disk.entry? (directory ++ rest)).isSome = true ∧ location = directory ++ rest := by
  rcases stands with ⟨there, content, followed, file, rfl⟩ |
    ⟨there, rests, followed, folder, _, listed, rfl⟩
  · rw [List.map_singleton, List.mem_singleton, Workspace.locate_of_follow followed]
    constructor
    · rintro rfl
      exact .inl ⟨followed, content, file⟩
    · rintro (⟨again, _⟩ | ⟨directory, _, again, folder, _⟩)
      · exact Except.ok.inj (again.symm.trans followed)
      · obtain rfl := Except.ok.inj (followed.symm.trans again)
        rw [file] at folder
        cases folder
  · rw [List.map_map, List.mem_map]
    constructor
    · rintro ⟨rest, member, rfl⟩
      obtain ⟨document, exists_entry⟩ := (listed rest).mp member
      exact .inr ⟨there, rest, followed, folder, document, exists_entry,
        locate_join_of_isSome named followed exists_entry⟩
    · rintro (⟨again, content, file⟩ | ⟨directory, rest, again, _, document, exists_entry, rfl⟩)
      · obtain rfl := Except.ok.inj (followed.symm.trans again)
        rw [folder] at file
        cases file
      · obtain rfl := Except.ok.inj (followed.symm.trans again)
        exact ⟨rest, (listed rest).mpr ⟨document, exists_entry⟩,
          locate_join_of_isSome named followed exists_entry⟩

private theorem mem_locate_flatten (named : ∀ location ∈ w.disk.entries.keys, ".." ∉ location)
    {paths : List Path} {pieces : List (List Path)}
    (stand : List.Forall₂ (StandsFor w) paths pieces) :
    location ∈ pieces.flatten.map w.locate ↔ ∃ path ∈ paths,
      (w.follow path = .ok location ∧ ∃ content, w.disk.entry? location = some (.file content)) ∨
      ∃ directory rest, w.follow path = .ok directory ∧
        w.disk.entry? directory = some .directory ∧ EndsInDocument rest ∧
        (w.disk.entry? (directory ++ rest)).isSome = true ∧ location = directory ++ rest := by
  induction stand with
  | nil => simp
  | cons first _ ih =>
    rw [List.flatten_cons, List.map_append, List.mem_append, mem_locate_of_standsFor named first, ih]
    simp only [List.mem_cons, exists_eq_or_imp]

end Collect

open Collect

private theorem collectFiles_isOk_iff {w : Workspace} {paths : List Path}
    (existing : ∀ path ∈ paths, ∃ entry, w.find path = .ok entry) :
    (∃ files, collectFiles w paths = .ok files) ↔ ∀ path ∈ paths, ¬IsTooDeep w path := by
  rw [collectFiles]
  rcases expandAll_spec existing with ⟨⟨path, member, deep⟩, failure, failed⟩ |
    ⟨shallow, pieces, expanded, _⟩
  · rw [failed]
    refine ⟨?_, fun shallow => absurd deep (shallow path member)⟩
    rintro ⟨files, returned⟩
    cases returned
  · rw [expanded]
    exact ⟨fun _ => shallow, fun _ => ⟨_, rfl⟩⟩

private theorem collectFiles_pieces {w : Workspace} {paths files : List Path}
    (existing : ∀ path ∈ paths, ∃ entry, w.find path = .ok entry)
    (returned : collectFiles w paths = .ok files) :
    ∃ pieces, List.Forall₂ (StandsFor w) paths pieces ∧ files = distinct w pieces.flatten [] := by
  rw [collectFiles] at returned
  rcases expandAll_spec existing with ⟨_, failure, failed⟩ | ⟨_, pieces, expanded, stand⟩
  · rw [failed] at returned
    cases returned
  · rw [expanded] at returned
    exact ⟨pieces, stand, (Except.ok.inj returned).symm⟩

/-- The files of a run, for arguments that are there. If no directory below an argument has too long a
path, they are found. No two of them are at one location; their locations are those of the arguments
that are files and of the documents below those that are directories; and of what the arguments stand
for, one after the other, they are the first path to each location. -/
theorem collectFiles_exact (w : Workspace) (paths : List Path)
    (named : ∀ location ∈ w.disk.entries.keys, ".." ∉ location)
    (existing : ∀ path ∈ paths, ∃ entry, w.find path = .ok entry)
    (shallow : ∀ path ∈ paths, ¬IsTooDeep w path) :
    ∃ files, collectFiles w paths = .ok files ∧
      (files.map w.locate).Nodup ∧
      (∀ location, location ∈ files.map w.locate ↔ ∃ path ∈ paths,
        (w.follow path = .ok location ∧ ∃ content, w.disk.entry? location = some (.file content)) ∨
        ∃ directory rest, w.follow path = .ok directory ∧
          w.disk.entry? directory = some .directory ∧ EndsInDocument rest ∧
          (w.disk.entry? (directory ++ rest)).isSome = true ∧ location = directory ++ rest) ∧
      ∃ pieces, List.Forall₂ (StandsFor w) paths pieces ∧
        files = firstBy w.locate pieces.flatten := by
  obtain ⟨files, returned⟩ := (collectFiles_isOk_iff existing).mpr shallow
  obtain ⟨pieces, stand, rfl⟩ := collectFiles_pieces existing returned
  refine ⟨_, returned, nodup_locate_distinct _ _, fun location => ?_, pieces, stand,
    distinct_eq_firstBy _⟩
  rw [mem_locate_distinct, ← mem_locate_flatten named stand]
  simp

theorem collectFiles_exact_neighbours :
    let paths := [".", "sub/../a.thrift", "../c.thrift", "sub"].map Path.ofString
    (∀ location ∈ Workspace.neighbours.disk.entries.keys, ".." ∉ location) ∧
      (∀ path ∈ paths, ∃ entry, Workspace.neighbours.find path = .ok entry) ∧
      (∀ path ∈ paths, ¬IsTooDeep Workspace.neighbours path) ∧
      ∃ files, collectFiles Workspace.neighbours paths = .ok files ∧
        (files.map Workspace.neighbours.locate).Nodup ∧
        ["work", "a.thrift"] ∈ files.map Workspace.neighbours.locate ∧
        ["work", "sub", "b.thrift"] ∈ files.map Workspace.neighbours.locate ∧
        ["c.thrift"] ∈ files.map Workspace.neighbours.locate := by
  intro paths
  have named : ∀ location ∈ Workspace.neighbours.disk.entries.keys, ".." ∉ location := by
    decide +kernel
  have existing : ∀ path ∈ paths, ∃ entry, Workspace.neighbours.find path = .ok entry := by
    simp only [paths, List.map_cons, List.map_nil, List.forall_mem_cons]
    exact ⟨⟨.directory, by decide +kernel⟩, ⟨.file [], by decide +kernel⟩,
      ⟨.file [], by decide +kernel⟩, ⟨.directory, by decide +kernel⟩, by simp⟩
  have shallow : ∀ path ∈ paths, ¬IsTooDeep Workspace.neighbours path := by
    have returns : (collectFiles Workspace.neighbours paths).toOption.isSome = true := by
      decide +kernel
    refine (collectFiles_isOk_iff existing).mp ?_
    cases returned : collectFiles Workspace.neighbours paths with
    | error failure =>
      rw [returned] at returns
      cases returns
    | ok files => exact ⟨files, rfl⟩
  obtain ⟨files, returned, nodup, locations, -⟩ :=
    collectFiles_exact Workspace.neighbours paths named existing shallow
  have current : Workspace.neighbours.follow (.ofString ".") = .ok ["work"] := by decide +kernel
  have folder : Workspace.neighbours.disk.entry? ["work"] = some .directory := by decide +kernel
  have listed : Path.ofString "." ∈ paths := by simp [paths]
  refine ⟨named, existing, shallow, files, returned, nodup, (locations _).mpr ⟨_, listed, .inr ?_⟩,
    (locations _).mpr ⟨_, listed, .inr ?_⟩,
    (locations _).mpr ⟨.ofString "../c.thrift", by simp [paths], .inl ?_⟩⟩
  · exact ⟨["work"], ["a.thrift"], current, folder, ⟨"a.thrift", rfl, by decide +kernel⟩,
      by decide +kernel, rfl⟩
  · exact ⟨["work"], ["sub", "b.thrift"], current, folder, ⟨"b.thrift", rfl, by decide +kernel⟩,
      by decide +kernel, rfl⟩
  · exact ⟨by decide +kernel, [], by decide +kernel⟩

/-! ### A directory that cannot be looked into -/

/-- The path that goes into the directory `d` and back again `n` times before it goes on. -/
def detour (n : Nat) (rest : List String) : Path :=
  ⟨.relative, (List.replicate n ["d", ".."]).flatten ++ rest⟩

private theorem size_detour (n : Nat) {rest : List String} (nonempty : rest ≠ []) :
    (detour n rest).toString.utf8ByteSize = 5 * n + ("/".intercalate rest).utf8ByteSize := by
  have written : ∀ parts : List String, parts ≠ [] →
      Path.toString ⟨.relative, parts⟩ = "/".intercalate parts := by
    intro parts some
    simp [Path.toString, some, Path.Anchor.text]
  have longer : ∀ parts : List String, parts ≠ [] →
      "/".intercalate ("d" :: ".." :: parts) = "d/../" ++ "/".intercalate parts := by
    intro parts some
    cases parts with
    | nil => exact absurd rfl some
    | cons first parts => exact String.toList_inj.mp (by simp)
  induction n with
  | zero => simp [detour, written rest nonempty]
  | succ n ih =>
    have inner : (List.replicate n ["d", ".."]).flatten ++ rest ≠ [] := by simp [nonempty]
    rw [detour, written _ inner] at ih
    have split : (List.replicate (n + 1) ["d", ".."]).flatten ++ rest =
        "d" :: ".." :: ((List.replicate n ["d", ".."]).flatten ++ rest) := by
      simp [List.replicate_succ]
    have size : "d/../".utf8ByteSize = 5 := by decide +kernel
    rw [detour, split, written _ (by simp), longer _ inner, String.utf8ByteSize_append, ih, size]
    omega

/-- A directory with one directory in it. -/
def nestedFolders : Workspace :=
  ⟨Disk.empty.write ["d", "subdir", "z.thrift"] [], []⟩

private theorem follow_detour {n : Nat} (short : 5 * n + 1 ≤ Workspace.longestPath) :
    nestedFolders.follow (detour n ["d"]) = .ok ["d"] := by
  refine Workspace.follow_eq_ok_iff.mpr ⟨?_, ?_, ?_⟩
  · refine (Workspace.isUsable_toString _).mpr fun part member => ?_
    have either : part = "d" ∨ part = ".." := by
      simp only [detour, List.mem_append, List.mem_flatten, List.mem_singleton] at member
      rcases member with ⟨turn, copied, inside⟩ | rfl
      · rw [List.eq_of_mem_replicate copied] at inside
        simpa using inside
      · exact .inl rfl
    rw [Workspace.isUsable_iff]
    rcases either with rfl | rfl <;> decide
  · rw [size_detour n (by simp)]
    exact short
  · have down : nestedFolders.step [] "d" = .ok ["d"] := by decide +kernel
    have up : nestedFolders.step ["d"] ".." = .ok [] := by decide +kernel
    have around : (List.replicate n ["d", ".."]).flatten.foldlM nestedFolders.step [] = .ok [] := by
      induction n with
      | zero => rfl
      | succ n ih =>
        rw [List.replicate_succ, List.flatten_cons, List.foldlM_append]
        simp only [List.foldlM_cons, down, up, List.foldlM_nil, bind, Except.bind, pure, Except.pure]
        exact ih (by omega)
    have last : ["d"].foldlM nestedFolders.step [] = .ok ["d"] := by
      simp only [List.foldlM_cons, down, List.foldlM_nil, bind, Except.bind, pure, Except.pure]
    have start : nestedFolders.origin (detour n ["d"]) = [] := rfl
    rw [start, detour, List.foldlM_append, around]
    exact last

private theorem join_detour (n : Nat) (rest more : List String) :
    (detour n rest).join ⟨.relative, more⟩ = detour n (rest ++ more) := by
  simp [detour, Path.join, Path.isAbsolute]

/-- The argument is there, and yet the files below it cannot be collected. -/
theorem collectFiles_detour :
    nestedFolders.find (detour 818 ["d"]) = .ok .directory ∧
      ¬∃ files, collectFiles nestedFolders [detour 818 ["d"]] = .ok files := by
  have followed : nestedFolders.follow (detour 818 ["d"]) = .ok ["d"] :=
    follow_detour (by decide)
  have folder : nestedFolders.disk.entry? ["d"] = some .directory := by decide +kernel
  have found : nestedFolders.find (detour 818 ["d"]) = .ok .directory := by
    rw [Workspace.find, followed]
    simp [folder]
  have below : nestedFolders.disk.entry? (["d"] ++ ["subdir"]) = some .directory := by
    decide +kernel
  have long : Workspace.longestPath < (detour 818 ["d", "subdir"]).toString.utf8ByteSize := by
    rw [size_detour 818 (by simp)]
    decide +kernel
  refine ⟨found, ?_⟩
  rw [collectFiles_isOk_iff (by simpa using ⟨.directory, found⟩)]
  intro shallow
  exact shallow _ (List.mem_singleton.mpr rfl)
    ⟨["d"], ["subdir"], followed, folder, by simp, below, by rw [join_detour]; exact long⟩

end IdlLint
