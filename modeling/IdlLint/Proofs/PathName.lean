import IdlLint.Disk.Basic

/-! Paths and the names that are made of them. A path is the same after it has been written and read,
so inside the working directory a file has one name, however the path to it was written. -/
namespace IdlLint

/-! ### Texts made of components -/

private theorem intercalate_sublist_cons (c : Char) (part : List Char) (parts : List (List Char)) :
    ([c].intercalate parts).Sublist ([c].intercalate (part :: parts)) := by
  cases parts with
  | nil => simp
  | cons next rest =>
    rw [List.intercalate_cons_cons, List.append_assoc]
    exact (List.sublist_append_right _ _).trans (List.sublist_append_right _ _)

/-- Fewer components make a text with fewer characters. -/
theorem intercalate_sublist (c : Char) {some all : List (List Char)} (fewer : some.Sublist all) :
    ([c].intercalate some).Sublist ([c].intercalate all) := by
  induction fewer with
  | slnil => exact .refl _
  | cons part _ ih => exact ih.trans (intercalate_sublist_cons c part _)
  | @cons_cons some all part fewer ih =>
    cases some with
    | nil =>
      cases all with
      | nil => exact .refl _
      | cons next rest =>
        rw [List.intercalate_cons_cons, List.append_assoc]
        simp
    | cons first some =>
      cases all with
      | nil => cases fewer
      | cons next rest =>
        rw [List.intercalate_cons_cons, List.intercalate_cons_cons]
        exact (List.Sublist.refl _).append ih

theorem utf8ByteSize_mono {s t : String} (fewer : s.toList.Sublist t.toList) :
    s.utf8ByteSize ≤ t.utf8ByteSize := by
  have cons : ∀ c rest, (String.ofList (c :: rest)).utf8ByteSize =
      c.utf8Size + (String.ofList rest).utf8ByteSize := by
    intro c rest
    have split : String.ofList (c :: rest) = String.singleton c ++ String.ofList rest :=
      String.toList_inj.mp (by simp)
    rw [split, String.utf8ByteSize_append, String.utf8ByteSize_singleton]
  have lists : ∀ {l m : List Char}, l.Sublist m →
      (String.ofList l).utf8ByteSize ≤ (String.ofList m).utf8ByteSize := by
    intro l m fewer
    induction fewer with
    | slnil => exact Nat.le_refl _
    | cons c _ ih =>
      rw [cons]
      omega
    | cons_cons c _ ih =>
      rw [cons, cons]
      omega
  simpa using lists fewer

/-- No part of a list that is cut at `c` contains `c`. -/
theorem notMem_of_mem_splitOn {c : Char} {text part : List Char} (member : part ∈ text.splitOn c) :
    c ∉ part := by
  induction text generalizing part with
  | nil =>
    rw [List.splitOn_nil, List.mem_singleton] at member
    simp [member]
  | cons d rest ih =>
    rw [List.splitOn_cons_eq_if_modifyHead] at member
    obtain ⟨first, more, parts⟩ := List.exists_cons_of_ne_nil (List.splitOn_ne_nil c rest)
    rw [parts, List.modifyHead_cons] at member
    rw [parts] at ih
    split at member
    · rcases List.mem_cons.mp member with rfl | later
      · simp
      · exact ih later
    · rename_i other
      rw [beq_iff_eq] at other
      rcases List.mem_cons.mp member with rfl | later
      · simpa [Ne.symm other] using ih (List.mem_cons_self ..)
      · exact ih (List.mem_cons_of_mem _ later)

namespace Path

/-- A name that can be a component of a path. -/
def IsComponent (part : String) : Prop :=
  part ≠ "" ∧ part ≠ "." ∧ '/' ∉ part.toList

/-- A path whose components are all names. Every path that is read from a text is one. -/
def Normal (p : Path) : Prop :=
  ∀ part ∈ p.parts, IsComponent part

theorem normal_ofString (s : String) : (ofString s).Normal := by
  intro part member
  simp only [ofString, List.mem_filter, List.mem_map, Bool.and_eq_true, bne_iff_ne] at member
  obtain ⟨⟨characters, split, rfl⟩, nonempty, notHere⟩ := member
  exact ⟨nonempty, notHere, by simpa using notMem_of_mem_splitOn split⟩

theorem Normal.join {p q : Path} (first : p.Normal) (second : q.Normal) : (p.join q).Normal := by
  unfold Path.join
  split
  · exact second
  · intro part member
    rcases List.mem_append.mp member with left | right
    · exact first part left
    · exact second part right

theorem Normal.parent {p : Path} (normal : p.Normal) : p.parent.Normal :=
  fun part member => normal part (List.dropLast_subset _ member)

/-! ### Writing and reading -/

private theorem filter_components {parts : List String}
    (components : ∀ part ∈ parts, IsComponent part) :
    parts.filter (fun part => part != "" && part != ".") = parts := by
  apply List.filter_eq_self.mpr
  intro part member
  obtain ⟨nonempty, notHere, _⟩ := components part member
  simp [nonempty, notHere]

/-- The components of a text that begins with slashes are those of the rest. -/
theorem components_intercalate {parts : List String}
    (components : ∀ part ∈ parts, IsComponent part) (slashes : Nat) :
    ((List.splitOn '/' (List.replicate slashes '/' ++
      ['/'].intercalate (parts.map String.toList))).map String.ofList).filter
        (fun part => part != "" && part != ".") = parts := by
  induction slashes with
  | zero =>
    cases parts with
    | nil => rfl
    | cons first rest =>
      rw [List.replicate_zero, List.nil_append, List.splitOn_intercalate]
      · rw [List.map_map]
        simpa [Function.comp_def] using filter_components components
      · intro characters member
        obtain ⟨part, inside, rfl⟩ := List.mem_map.mp member
        exact (components part inside).2.2
      · simp
  | succ slashes ih =>
    rw [List.replicate_succ, List.cons_append, List.splitOn_cons_eq_if_modifyHead,
      if_pos BEq.rfl, List.map_cons]
    simpa using ih

private theorem head?_intercalate {parts : List String}
    (components : ∀ part ∈ parts, IsComponent part) :
    (['/'].intercalate (parts.map String.toList)).head? ≠ some '/' := by
  cases parts with
  | nil => simp
  | cons first rest =>
    obtain ⟨nonempty, _, plain⟩ := components first (List.mem_cons_self ..)
    cases characters : first.toList with
    | nil => exact absurd (String.toList_eq_nil_iff.mp characters) nonempty
    | cons c more =>
      rw [characters] at plain
      have other : c ≠ '/' := fun same => plain (same ▸ List.mem_cons_self ..)
      cases rest with
      | nil => simpa [characters] using other
      | cons second tail => simpa [characters] using other

/-- How many slashes a path begins with. -/
def slashes : Anchor → Nat
  | .relative => 0
  | .slash => 1
  | .doubleSlash => 2

private theorem anchorOf_slashes {text : List Char} (start : text.head? ≠ some '/')
    (anchor : Anchor) : anchorOf (List.replicate (slashes anchor) '/' ++ text) = anchor := by
  have none : text.takeWhile (· == '/') = [] := by
    cases text with
    | nil => rfl
    | cons c rest =>
      have other : c ≠ '/' := fun same => start (same ▸ rfl)
      simp [other]
  have count : ((List.replicate (slashes anchor) '/' ++ text).takeWhile (· == '/')).length =
      slashes anchor := by
    rw [List.takeWhile_append_of_pos (by simp), none]
    simp
  rw [anchorOf, count]
  cases anchor <;> rfl

theorem toList_toString {p : Path} (shown : p.anchor ≠ .relative ∨ p.parts ≠ []) :
    p.toString.toList =
      List.replicate (slashes p.anchor) '/' ++ ['/'].intercalate (p.parts.map String.toList) := by
  obtain ⟨anchor, parts⟩ := p
  cases anchor with
  | relative =>
    have nonempty : parts ≠ [] := shown.resolve_left (by simp)
    simp [Path.toString, nonempty, Anchor.text, slashes]
  | slash => simp [Path.toString, Anchor.text, slashes]
  | doubleSlash => simp [Path.toString, Anchor.text, slashes]

/-- Reading what was written gives the path back. -/
theorem ofString_toString {p : Path} (normal : p.Normal) : ofString p.toString = p := by
  by_cases here : p.anchor = .relative ∧ p.parts = []
  · obtain ⟨anchor, parts⟩ := p
    obtain ⟨rfl, rfl⟩ := here
    decide
  · have shown : p.anchor ≠ .relative ∨ p.parts ≠ [] := Classical.not_and_iff_not_or_not.mp here
    rw [ofString, toList_toString shown, anchorOf_slashes (head?_intercalate normal),
      components_intercalate normal]

end Path

namespace Workspace

/-- The name of a location relative to the working directory. -/
def nameOf (w : Workspace) (location : Location) : String :=
  Path.toString ⟨.relative, location.drop w.cwd.length⟩

section Folds

variable {α β ε : Type} {f g : β → α → Except ε β} {items : List α} {start last : β}

/-- What every step can do a whole walk can do. -/
theorem foldlM_mono (step : ∀ here item next, f here item = .ok next → g here item = .ok next)
    (walked : items.foldlM f start = .ok last) : items.foldlM g start = .ok last := by
  induction items generalizing start with
  | nil => exact walked
  | cons item rest ih =>
    rw [List.foldlM_cons] at walked ⊢
    cases moved : f start item with
    | error e => simp [moved, bind, Except.bind] at walked
    | ok next =>
      rw [moved] at walked
      rw [step start item next moved]
      exact ih walked

/-- What every step keeps a whole walk keeps. -/
theorem foldlM_invariant {motive : β → Prop}
    (step : ∀ here, ∀ item ∈ items, ∀ next, motive here → f here item = .ok next → motive next)
    (initial : motive start) (walked : items.foldlM f start = .ok last) : motive last := by
  induction items generalizing start with
  | nil => exact Except.ok.inj walked ▸ initial
  | cons item rest ih =>
    rw [List.foldlM_cons] at walked
    cases moved : f start item with
    | error e => simp [moved, bind, Except.bind] at walked
    | ok next =>
      rw [moved] at walked
      exact ih (fun here other member => step here other (List.mem_cons_of_mem _ member))
        (step start item (List.mem_cons_self ..) next initial moved) walked

/-- A walk fails with what one of its steps fails with. -/
theorem exists_of_foldlM_error {e : ε} (failed : items.foldlM f start = .error e) :
    ∃ here, ∃ item ∈ items, f here item = .error e := by
  induction items generalizing start with
  | nil => cases failed
  | cons item rest ih =>
    rw [List.foldlM_cons] at failed
    cases moved : f start item with
    | error other =>
      rw [moved] at failed
      exact ⟨start, item, List.mem_cons_self .., moved.trans (congrArg _ (Except.error.inj failed))⟩
    | ok next =>
      rw [moved] at failed
      obtain ⟨here, other, member, same⟩ := ih failed
      exact ⟨here, other, List.mem_cons_of_mem _ member, same⟩

end Folds

/-- One component of a path. `..` takes back the component before it, whatever that is. -/
def advance (w : Workspace) (here : Location) (name : String) : Except PathError Location :=
  if name = ".." then .ok here.dropLast else w.child here name

theorem advance_of_step {w : Workspace} {here next : Location} {name : String}
    (moved : w.step here name = .ok next) : w.advance here name = .ok next := by
  unfold step at moved
  unfold advance
  split at moved
  · rename_i up
    rw [if_pos up]
    split at moved
    · exact moved
    · cases moved
    · cases moved
  · rename_i down
    rw [if_neg down]
    exact moved

theorem follow_eq_ok_iff {w : Workspace} {path : Path} {location : Location} :
    w.follow path = .ok location ↔ isUsable path.toString = true ∧
      path.toString.utf8ByteSize ≤ longestPath ∧
        path.parts.foldlM w.step (w.origin path) = .ok location := by
  unfold follow
  split
  · rename_i unusable
    simpa using fun usable => absurd usable (by simpa using unusable)
  · rename_i usable
    split
    · rename_i long
      simpa using fun _ short => absurd long (Nat.not_lt.mpr short)
    · rename_i short
      simp only [Bool.not_eq_true', Bool.not_eq_false] at usable
      simp [usable, Nat.not_lt.mp short]

/-! ### Paths by which the system is asked -/

theorem child_of_unusable {w : Workspace} {here : Location} {name : String}
    (unusable : isUsable name = false) : ∃ e, w.child here name = .error e := by
  unfold child
  split
  · exact ⟨_, rfl⟩
  · exact ⟨_, rfl⟩
  · simp [unusable]

/-- Some name among the components after `front` is asked about by a path that is too long. -/
def Exceeds (front : Path) (parts : List String) : Prop :=
  ∃ before name after, parts = before ++ name :: after ∧ name ≠ ".." ∧
    longestPath < ((before ++ [name]).foldl Path.extend front).toString.utf8ByteSize

/-- A path is too long for the system even when `..` is cancelled as far as it goes. -/
def Overlong (path : Path) : Prop :=
  Exceeds path.beginning path.parts

private theorem exceeds_cons {front : Path} {name : String} {rest : List String} :
    Exceeds front (name :: rest) ↔
      (name ≠ ".." ∧ longestPath < (front.extend name).toString.utf8ByteSize) ∨
        Exceeds (front.extend name) rest := by
  constructor
  · rintro ⟨before, other, after, same, down, long⟩
    cases before with
    | nil =>
      obtain ⟨rfl, rfl⟩ := List.cons.inj same
      exact .inl ⟨down, long⟩
    | cons first before =>
      obtain ⟨rfl, rfl⟩ := List.cons.inj same
      exact .inr ⟨before, other, after, rfl, down, long⟩
  · rintro (⟨down, long⟩ | ⟨before, other, after, rfl, down, long⟩)
    · exact ⟨[], name, rest, rfl, down, long⟩
    · exact ⟨name :: before, other, after, rfl, down, long⟩

private theorem enter_eq_ok_iff {w : Workspace} {front onward : Path} {here next : Location}
    {name : String} :
    w.enter (front, here) name = .ok (onward, next) ↔
      w.advance here name = .ok next ∧ front.extend name = onward ∧
        ¬(name ≠ ".." ∧ longestPath < (front.extend name).toString.utf8ByteSize) := by
  unfold enter advance
  dsimp only
  by_cases up : name = ".."
  · simp [up, and_comm]
  · rw [if_neg up, if_neg up]
    cases usable : isUsable name with
    | false =>
      obtain ⟨e, refused⟩ := @child_of_unusable w here name usable
      simp [refused]
    | true =>
      by_cases long : longestPath < (front.extend name).toString.utf8ByteSize
      · simp [long, up]
      · cases w.child here name with
        | error e => simp [long, Except.map]
        | ok found => simp [long, Except.map, and_comm]

/-- Asking about each name on the way is walking along the components as long as the paths that it
takes are not too long. -/
theorem foldlM_enter_eq_ok_iff {w : Workspace} {parts : List String} {front onward : Path}
    {here last : Location} :
    parts.foldlM w.enter (front, here) = .ok (onward, last) ↔
      parts.foldlM w.advance here = .ok last ∧ parts.foldl Path.extend front = onward ∧
        ¬Exceeds front parts := by
  induction parts generalizing front here with
  | nil => simp [pure, Except.pure, Exceeds, and_comm]
  | cons name rest ih =>
    rw [List.foldlM_cons, List.foldlM_cons, List.foldl_cons, exceeds_cons, not_or]
    cases entered : w.enter (front, here) name with
    | ok state =>
      obtain ⟨written, next⟩ := state
      obtain ⟨moved, rfl, short⟩ := enter_eq_ok_iff.mp entered
      rw [moved]
      refine Iff.trans ih ?_
      simp only [short, not_false_eq_true, true_and]
      rfl
    | error e =>
      constructor
      · intro failed
        cases failed
      · rintro ⟨walked, _, short, _⟩
        cases moved : w.advance here name with
        | error other =>
          rw [moved] at walked
          cases walked
        | ok next =>
          have found := enter_eq_ok_iff.mpr ⟨moved, rfl, short⟩
          rw [entered] at found
          cases found

theorem locateExisting_eq_ok_iff {w : Workspace} {path : Path} {location : Location} :
    w.locateExisting path = .ok location ↔
      path.parts.foldlM w.advance (w.origin path) = .ok location ∧ ¬Overlong path := by
  unfold locateExisting Overlong
  constructor
  · intro located
    cases walked : path.parts.foldlM w.enter (path.beginning, w.origin path) with
    | error e =>
      rw [walked] at located
      cases located
    | ok state =>
      rw [walked] at located
      obtain rfl := Except.ok.inj located
      obtain ⟨advanced, _, short⟩ := foldlM_enter_eq_ok_iff.mp walked
      exact ⟨advanced, short⟩
  · rintro ⟨advanced, short⟩
    rw [foldlM_enter_eq_ok_iff.mpr ⟨advanced, rfl, short⟩]
    rfl

private theorem anchor_foldl_extend (front : Path) (parts : List String) :
    (parts.foldl Path.extend front).anchor = front.anchor := by
  induction parts generalizing front with
  | nil => rfl
  | cons name rest ih =>
    rw [List.foldl_cons, ih]
    unfold Path.extend
    split
    · split
      · split <;> rfl
      · split <;> rfl
    · rfl

/-- Cancelling leaves components of the path, in their order. -/
theorem parts_foldl_extend_sublist (front : Path) (parts : List String) :
    (parts.foldl Path.extend front).parts.Sublist (front.parts ++ parts) := by
  induction parts generalizing front with
  | nil => simp
  | cons name rest ih =>
    have step : (front.extend name).parts.Sublist (front.parts ++ [name]) := by
      unfold Path.extend
      split
      · split
        · rename_i empty
          rw [List.getLast?_eq_none_iff.mp empty]
          split
          · simp [List.getLast?_eq_none_iff.mp empty]
          · simp
        · split
          · exact .refl _
          · exact (List.dropLast_sublist _).trans (List.sublist_append_left _ _)
      · exact .refl _
    have onward := (ih (front.extend name)).trans (step.append_right rest)
    simpa using onward

/-- A path that is not too long as it is written is not too long anywhere on the way. -/
theorem not_overlong_of_short {path : Path}
    (short : path.toString.utf8ByteSize ≤ longestPath) : ¬Overlong path := by
  rintro ⟨before, name, after, same, down, long⟩
  have fewer := parts_foldl_extend_sublist path.beginning (before ++ [name])
  have among : (before ++ [name]).Sublist path.parts := by simp [same]
  have named : ((before ++ [name]).foldl Path.extend path.beginning).parts ≠ [] := by
    rw [List.foldl_append, List.foldl_cons, List.foldl_nil, Path.extend, if_neg down]
    simp
  have nonempty : path.parts ≠ [] := by simp [same]
  have text : ((before ++ [name]).foldl Path.extend path.beginning).toString.toList.Sublist
      path.toString.toList := by
    rw [Path.toList_toString (.inr named), Path.toList_toString (.inr nonempty),
      anchor_foldl_extend]
    refine List.Sublist.append ?_ (intercalate_sublist '/' ((fewer.trans among).map String.toList))
    rw [List.replicate_sublist_replicate]
    obtain ⟨anchor, parts⟩ := path
    cases anchor <;> simp [Path.beginning, Path.isAbsolute, Path.slashes]
  exact absurd (utf8ByteSize_mono text) (Nat.not_le.mpr (Nat.lt_of_le_of_lt short long))

/-- A path that can be followed leads to the location that it names. -/
theorem locateExisting_of_follow {w : Workspace} {path : Path} {location : Location}
    (followed : w.follow path = .ok location) : w.locateExisting path = .ok location := by
  obtain ⟨_, short, walked⟩ := follow_eq_ok_iff.mp followed
  exact locateExisting_eq_ok_iff.mpr
    ⟨foldlM_mono (fun _ _ _ => advance_of_step) walked, not_overlong_of_short short⟩

theorem child_eq_append {w : Workspace} {here next : Location} {name : String}
    (found : w.child here name = .ok next) : next = here ++ [name] := by
  unfold child at found
  split at found
  · cases found
  · cases found
  · split at found
    · cases found
    · split at found
      · cases found
      · split at found
        · exact (Except.ok.inj found).symm
        · cases found

theorem advance_eq {w : Workspace} {here next : Location} {name : String}
    (moved : w.advance here name = .ok next) :
    (if name = ".." then here.dropLast else here ++ [name]) = next := by
  unfold advance at moved
  split
  · rename_i up
    rw [if_pos up] at moved
    exact Except.ok.inj moved
  · rename_i down
    rw [if_neg down] at moved
    exact (child_eq_append moved).symm

private theorem collapse_of_foldlM {w : Workspace} {parts : List String} {start last : Location}
    (walked : parts.foldlM w.advance start = .ok last) : collapse start parts = last := by
  induction parts generalizing start with
  | nil => exact Except.ok.inj walked
  | cons name rest ih =>
    rw [List.foldlM_cons] at walked
    cases moved : w.advance start name with
    | error e =>
      rw [moved] at walked
      cases walked
    | ok next =>
      rw [moved] at walked
      rw [collapse, List.foldl_cons, advance_eq moved]
      exact ih walked

theorem locate_of_follow {w : Workspace} {path : Path} {location : Location}
    (followed : w.follow path = .ok location) : w.locate path = location :=
  collapse_of_foldlM (locateExisting_eq_ok_iff.mp (locateExisting_of_follow followed)).1

/-- Below the working directory the location of a path has only names that the path was written
with. -/
theorem components_of_locateExisting {w : Workspace} {path : Path} {location : Location}
    (normal : path.Normal) (located : w.locateExisting path = .ok location) :
    ∀ part ∈ location.drop w.cwd.length, Path.IsComponent part := by
  refine foldlM_invariant (motive := fun here =>
    ∀ part ∈ here.drop w.cwd.length, Path.IsComponent part) ?_ ?_
      (locateExisting_eq_ok_iff.mp located).1
  · intro here name named next kept moved part member
    unfold advance at moved
    split at moved
    · obtain rfl := Except.ok.inj moved
      rw [List.dropLast_eq_take, List.drop_take] at member
      exact kept part (List.mem_of_mem_take member)
    · rw [child_eq_append moved, List.drop_append] at member
      rcases List.mem_append.mp member with old | new
      · exact kept part old
      · rw [List.mem_singleton.mp (List.mem_of_mem_drop new)]
        exact normal name named
  · unfold origin
    split <;> simp

/-- A location that some path leads to and that lies in the working directory. -/
def Inside (w : Workspace) (location : Location) : Prop :=
  (∃ path : Path, path.Normal ∧ w.follow path = .ok location) ∧ w.cwd <+: location

/-- Different files in the working directory have different names. -/
theorem nameOf_inj {w : Workspace} {one two : Location} (first : w.Inside one)
    (second : w.Inside two) (same : w.nameOf one = w.nameOf two) : one = two := by
  have components : ∀ {location : Location}, w.Inside location →
      Path.Normal ⟨.relative, location.drop w.cwd.length⟩ := by
    rintro location ⟨⟨path, normal, followed⟩, _⟩
    exact components_of_locateExisting normal (locateExisting_of_follow followed)
  have rest : one.drop w.cwd.length = two.drop w.cwd.length := by
    have read := congrArg Path.ofString same
    rw [nameOf, nameOf, Path.ofString_toString (components first),
      Path.ofString_toString (components second)] at read
    exact (Path.mk.inj read).2
  obtain ⟨_, ⟨_, rfl⟩⟩ := first
  obtain ⟨_, ⟨_, rfl⟩⟩ := second
  simpa using rest

/-- A path that can be followed has a name exactly if it leads into the working directory. -/
theorem relativeName_of_follow {w : Workspace} {path : Path} {location : Location}
    (followed : w.follow path = .ok location) (name : String) :
    w.relativeName w.cwd path = .ok name ↔ w.cwd <+: location ∧ w.nameOf location = name := by
  rw [relativeName, locateExisting_of_follow followed]
  simp only [nameOf]
  split
  · rename_i inside
    simp [List.isPrefixOf_iff_prefix.mp inside]
  · rename_i outside
    rw [List.isPrefixOf_iff_prefix] at outside
    simp [outside]

/-- Of a path only a name that is too long keeps the system from answering. -/
theorem isFile_error {w : Workspace} {path : Path} {e : PathError}
    (failed : w.isFile path = .error e) : e = .nameTooLong := by
  unfold isFile test at failed
  split at failed
  · cases failed
  · cases failed
    rfl
  · cases failed

theorem follow_of_isFile {w : Workspace} {path : Path} (file : w.isFile path = .ok true) :
    ∃ location, w.follow path = .ok location := by
  cases followed : w.follow path with
  | ok location => exact ⟨location, rfl⟩
  | error e => cases e <;> simp [isFile, test, find, followed] at file

end Workspace

end IdlLint
