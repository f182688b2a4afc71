import IdlLint.Imports.Graph
import IdlLint.Proofs.PathName
import Mathlib.Data.List.Infix

/-! The name of a file relative to the working directory is canonical: all paths that lead to the
file have it, it is one of them, and no path to another file has it. -/
namespace IdlLint

/-! ### Texts made of components -/

private theorem mem_intercalate {c d : Char} {parts : List (List Char)}
    (member : d ∈ [c].intercalate parts) : d = c ∨ ∃ part ∈ parts, d ∈ part := by
  induction parts with
  | nil => simp at member
  | cons part rest ih =>
    cases rest with
    | nil => exact .inr ⟨part, by simp, by simpa using member⟩
    | cons next rest =>
      rw [List.intercalate_cons_cons, List.mem_append, List.mem_append] at member
      rcases member with (here | between) | later
      · exact .inr ⟨part, by simp, here⟩
      · exact .inl (List.mem_singleton.mp between)
      · rcases ih later with same | ⟨other, among, inside⟩
        · exact .inl same
        · exact .inr ⟨other, List.mem_cons_of_mem _ among, inside⟩

/-- The components of a path that is read from a text are parts of the text. -/
theorem Path.mem_of_mem_ofString {text part : String} {c : Char}
    (member : part ∈ (Path.ofString text).parts) (inside : c ∈ part.toList) : c ∈ text.toList := by
  simp only [Path.ofString, List.mem_filter, List.mem_map] at member
  obtain ⟨⟨characters, split, rfl⟩, _⟩ := member
  have alone := intercalate_sublist '/' (List.singleton_sublist.mpr split)
  rw [List.intercalate_splitOn] at alone
  exact alone.subset (by simpa using inside)

/-- Slashes and dots apart, the characters of a path are those of its components. -/
theorem Path.mem_toString_iff {path : Path} {c : Char} (slash : c ≠ '/') (dot : c ≠ '.') :
    c ∈ path.toString.toList ↔ ∃ part ∈ path.parts, c ∈ part.toList := by
  by_cases here : path.anchor = .relative ∧ path.parts = []
  · obtain ⟨anchor, parts⟩ := path
    obtain ⟨rfl, rfl⟩ := here
    simp [Path.toString, dot]
  · rw [Path.toList_toString (Classical.not_and_iff_not_or_not.mp here)]
    constructor
    · intro member
      rcases List.mem_append.mp member with front | later
      · exact absurd (List.eq_of_mem_replicate front) slash
      · rcases mem_intercalate later with between | ⟨part, among, inside⟩
        · exact absurd between slash
        · obtain ⟨name, listed, rfl⟩ := List.mem_map.mp among
          exact ⟨name, listed, inside⟩
    · rintro ⟨part, member, inside⟩
      refine List.mem_append_right _ ?_
      have alone := intercalate_sublist '/'
        (List.singleton_sublist.mpr (List.mem_map_of_mem (f := String.toList) member))
      exact alone.subset (by simpa using inside)

namespace Workspace

variable {w : Workspace} {path : Path} {location : Location}

theorem isUsable_iff {name : String} : isUsable name = true ↔ '\x00' ∉ name.toList := by
  unfold isUsable
  simp

/-- A path can be asked about if its components can. -/
theorem isUsable_toString (path : Path) :
    isUsable path.toString = true ↔ ∀ part ∈ path.parts, isUsable part = true := by
  simp only [isUsable_iff]
  rw [Path.mem_toString_iff (by decide) (by decide)]
  exact ⟨fun plain part member inside => plain ⟨part, member, inside⟩,
    fun plain ⟨part, member, inside⟩ => plain part member inside⟩

/-! ### Why a path is refused -/

/-- Something that a path names is not there, or not where the path names it. -/
def Lacks (w : Workspace) (path : Path) : Prop :=
  ∃ before name after, path.parts = before ++ name :: after ∧ name ≠ ".." ∧
    ∃ e, w.child (collapse (w.origin path) before) name = .error e

/-- A path goes up from where there is no directory. -/
def Strays (w : Workspace) (path : Path) : Prop :=
  ∃ before after, path.parts = before ++ ".." :: after ∧
    w.disk.entry? (collapse (w.origin path) before) ≠ some .directory

/-- A walk that moves as the path says fails at some component of the path. -/
theorem walk_fails_iff {f : Location → String → Except PathError Location}
    (moves : ∀ here name next, f here name = .ok next → w.advance here name = .ok next)
    {parts : List String} {start : Location} :
    (∃ e, parts.foldlM f start = .error e) ↔
      ∃ before name after, parts = before ++ name :: after ∧
        ∃ e, f (collapse start before) name = .error e := by
  induction parts generalizing start with
  | nil =>
    constructor
    · rintro ⟨e, failed⟩
      cases failed
    · rintro ⟨before, name, after, same, _⟩
      simp at same
  | cons part rest ih =>
    rw [List.foldlM_cons]
    cases moved : f start part with
    | error e =>
      constructor
      · intro _
        exact ⟨[], part, rest, rfl, e, moved⟩
      · intro _
        exact ⟨e, rfl⟩
    | ok next =>
      have onward : ∀ before, collapse start (part :: before) = collapse next before := by
        intro before
        rw [collapse, List.foldl_cons, advance_eq (moves _ _ _ moved)]
        rfl
      refine Iff.trans ih ⟨?_, ?_⟩
      · rintro ⟨before, name, after, rfl, failed⟩
        exact ⟨part :: before, name, after, rfl, by rwa [onward]⟩
      · rintro ⟨before, name, after, same, e, failed⟩
        cases before with
        | nil =>
          obtain ⟨rfl, rfl⟩ := List.cons.inj same
          exact absurd (moved.symm.trans failed) (by simp)
        | cons first before =>
          obtain ⟨rfl, rfl⟩ := List.cons.inj same
          rw [onward] at failed
          exact ⟨before, name, after, rfl, e, failed⟩

private theorem walk_advance_fails_iff :
    (∃ e, path.parts.foldlM w.advance (w.origin path) = .error e) ↔ w.Lacks path := by
  rw [walk_fails_iff fun _ _ _ => id]
  refine exists_congr fun before => exists_congr fun name => exists_congr fun after =>
    and_congr_right fun _ => ?_
  unfold advance
  split
  · rename_i up
    simp [up]
  · rename_i down
    simp [down]

private theorem locateExisting_fails_iff :
    (∃ e, w.locateExisting path = .error e) ↔ w.Lacks path ∨ Overlong path := by
  rw [← walk_advance_fails_iff]
  cases located : w.locateExisting path with
  | ok location =>
    obtain ⟨walked, short⟩ := locateExisting_eq_ok_iff.mp located
    simp [walked, short]
  | error e =>
    refine ⟨fun _ => Classical.or_iff_not_imp_right.mpr fun short => ?_, fun _ => ⟨e, rfl⟩⟩
    cases walked : path.parts.foldlM w.advance (w.origin path) with
    | error other => exact ⟨other, rfl⟩
    | ok location =>
      have found := locateExisting_eq_ok_iff.mpr ⟨walked, short⟩
      rw [located] at found
      cases found

theorem isUsable_of_child {here : Location} {name : String}
    (failed : w.child here name = .error .nullCharacter) : isUsable name = false := by
  unfold child at failed
  split at failed
  · cases failed
  · split at failed
    · cases failed
    · rename_i unusable
      simpa using unusable
  · split at failed
    · rename_i unusable
      simpa using unusable
    · split at failed
      · cases failed
      · split at failed <;> cases failed

private theorem walk_step_fails_iff : (∃ e, path.parts.foldlM w.step (w.origin path) = .error e) ↔
    w.Lacks path ∨ w.Strays path := by
  rw [walk_fails_iff fun _ _ _ => advance_of_step]
  constructor
  · rintro ⟨before, name, after, same, e, failed⟩
    unfold step at failed
    split at failed
    · rename_i up
      subst up
      refine .inr ⟨before, after, same, fun directory => ?_⟩
      simp [directory] at failed
    · rename_i down
      exact .inl ⟨before, name, after, same, down, e, failed⟩
  · rintro (⟨before, name, after, same, down, e, failed⟩ | ⟨before, after, same, other⟩)
    · exact ⟨before, name, after, same, e, by rwa [step, if_neg down]⟩
    · refine ⟨before, "..", after, same, ?_⟩
      unfold step
      rw [if_pos rfl]
      split
      · rename_i directory
        exact absurd directory other
      · exact ⟨_, rfl⟩
      · exact ⟨_, rfl⟩

private theorem lacks_of_unusable (unusable : isUsable path.toString = false) : w.Lacks path := by
  have hidden : ¬∀ part ∈ path.parts, isUsable part = true := by
    rwa [← isUsable_toString path, Bool.not_eq_true]
  obtain ⟨part, member, null⟩ : ∃ part ∈ path.parts, isUsable part = false := by
    simpa using hidden
  obtain ⟨before, after, same⟩ := List.append_of_mem member
  refine ⟨before, part, after, same, ?_, child_of_unusable null⟩
  rintro rfl
  exact absurd null (by simp [isUsable_iff])

/-- The system refuses a path for one of three reasons. -/
theorem follow_fails_iff : (∃ e, w.follow path = .error e) ↔
    w.Lacks path ∨ w.Strays path ∨ longestPath < path.toString.utf8ByteSize := by
  unfold follow
  split
  · rename_i unusable
    exact ⟨fun _ => .inl (lacks_of_unusable (by simpa using unusable)), fun _ => ⟨_, rfl⟩⟩
  · split
    · rename_i long
      exact ⟨fun _ => .inr (.inr long), fun _ => ⟨_, rfl⟩⟩
    · rename_i short
      rw [walk_step_fails_iff]
      simp [short]

/-! ### The way down from the working directory -/

/-- Every component of a location from `depth` on can be looked up where it stands. -/
def Stands (w : Workspace) (depth : Nat) (location : Location) : Prop :=
  ∀ before name, before ++ [name] <+: location → depth ≤ before.length →
    name ≠ ".." ∧ w.child before name = .ok (before ++ [name])

/-- However a path goes up and down, what it ends in below the working directory it has entered
component by component. -/
theorem stands_of_locateExisting (located : w.locateExisting path = .ok location) :
    w.Stands w.cwd.length location := by
  refine foldlM_invariant (motive := w.Stands w.cwd.length) ?_ ?_
    (locateExisting_eq_ok_iff.mp located).1
  · intro here part _ next stands moved before name leads deep
    unfold advance at moved
    split at moved
    · obtain rfl := Except.ok.inj moved
      exact stands before name (leads.trans (List.dropLast_prefix here)) deep
    · rename_i down
      obtain rfl := child_eq_append moved
      rcases List.prefix_concat_iff.mp leads with same | inside
      · obtain ⟨rfl, rfl⟩ := List.append_inj' same rfl |>.imp id List.singleton_inj.mp
        exact ⟨down, moved⟩
      · exact stands before name inside deep
  · intro before name leads deep
    have short := leads.length_le
    rw [List.length_append, List.length_singleton] at short
    unfold origin at short
    split at short
    · simp at short
    · omega

private theorem foldlM_step_of_stands {base rest : Location}
    (stands : w.Stands base.length (base ++ rest)) :
    rest.foldlM w.step base = .ok (base ++ rest) := by
  induction rest generalizing base with
  | nil => simp [pure, Except.pure]
  | cons name rest ih =>
    have split : base ++ name :: rest = base ++ [name] ++ rest := by simp
    rw [split] at stands ⊢
    obtain ⟨down, found⟩ := stands base name (List.prefix_append _ _) (Nat.le_refl _)
    have deeper : w.Stands (base ++ [name]).length (base ++ [name] ++ rest) := by
      intro before other leads deep
      rw [List.length_append] at deep
      exact stands before other leads (Nat.le_of_add_right_le deep)
    rw [List.foldlM_cons, step, if_neg down, found]
    exact ih deeper

/-- Below the working directory a location has only components of the path, in their order. -/
theorem sublist_of_foldlM {parts : List String} {start last : Location} (depth : Nat)
    (walked : parts.foldlM w.advance start = .ok last) :
    (last.drop depth).Sublist (start.drop depth ++ parts) := by
  induction parts generalizing start with
  | nil =>
    obtain rfl := Except.ok.inj walked
    simp
  | cons part rest ih =>
    rw [List.foldlM_cons] at walked
    cases moved : w.advance start part with
    | error e =>
      rw [moved] at walked
      cases walked
    | ok next =>
      rw [moved] at walked
      refine (ih walked).trans ?_
      have here := advance_eq moved
      split at here
      · rw [← here]
        exact ((List.dropLast_sublist start).drop depth).append (List.sublist_cons_self ..)
      · rw [← here, List.drop_append, List.append_assoc]
        exact (List.Sublist.refl _).append ((List.drop_sublist _ [part]).append (.refl rest))

theorem sublist_of_locateExisting (located : w.locateExisting path = .ok location) :
    (location.drop w.cwd.length).Sublist path.parts := by
  have below := sublist_of_foldlM w.cwd.length (locateExisting_eq_ok_iff.mp located).1
  have start : (w.origin path).drop w.cwd.length = [] := by
    unfold origin
    split <;> simp
  rwa [start, List.nil_append] at below

/-- The text of a path to a location below the working directory has all characters of the name of
the location. -/
theorem nameOf_sublist (located : w.locateExisting path = .ok location)
    (below : location.drop w.cwd.length ≠ []) :
    (w.nameOf location).toList.Sublist path.toString.toList := by
  have fewer := sublist_of_locateExisting located
  have parts : path.parts ≠ [] := fun empty => below (by simpa [empty] using fewer)
  rw [nameOf, Path.toList_toString (.inr below), Path.toList_toString (.inr parts)]
  exact (intercalate_sublist '/' (fewer.map String.toList)).trans (List.sublist_append_right _ _)

/-- The name of a location leads there. -/
theorem follow_nameOf (normal : path.Normal) (followed : w.follow path = .ok location)
    (inside : w.cwd <+: location) (below : location.drop w.cwd.length ≠ []) :
    w.follow (.ofString (w.nameOf location)) = .ok location := by
  have located := locateExisting_of_follow followed
  obtain ⟨usable, short, _⟩ := follow_eq_ok_iff.mp followed
  have fewer := nameOf_sublist located below
  have components : Path.Normal ⟨.relative, location.drop w.cwd.length⟩ :=
    components_of_locateExisting normal located
  rw [nameOf, Path.ofString_toString components]
  refine follow_eq_ok_iff.mpr ⟨?_, (utf8ByteSize_mono fewer).trans short, ?_⟩
  · rw [isUsable_iff] at usable ⊢
    exact fun member => usable (fewer.subset member)
  · obtain ⟨rest, rfl⟩ := inside
    have stands := stands_of_locateExisting located
    simpa [origin, Path.isAbsolute] using foldlM_step_of_stands stands

private theorem Stands.ne_up {depth : Nat} (stands : w.Stands depth location) :
    ∀ part ∈ location.drop depth, part ≠ ".." := by
  intro part member
  obtain ⟨front, back, same⟩ := List.append_of_mem member
  have whole : location.take depth ++ front ++ [part] ++ back = location := by
    simpa [same] using List.take_append_drop depth location
  have deep : depth ≤ (location.take depth ++ front).length := by
    have long := List.length_pos_of_mem member
    rw [List.length_drop] at long
    rw [List.length_append, List.length_take]
    omega
  exact (stands _ part ⟨back, whole⟩ deep).1

/-- The components of the name of a location, as they are written. -/
theorem splitOn_nameOf (normal : path.Normal) (located : w.locateExisting path = .ok location)
    (below : location.drop w.cwd.length ≠ []) :
    List.splitOn '/' (w.nameOf location).toList =
      (location.drop w.cwd.length).map String.toList := by
  rw [nameOf, Path.toList_toString (.inr below)]
  refine List.splitOn_intercalate '/' ?_ (by simpa using below)
  intro part member
  obtain ⟨name, inside, rfl⟩ := List.mem_map.mp member
  exact (components_of_locateExisting normal located name inside).2.2

/-- The system opens a path as the file at a location. -/
def Opens (w : Workspace) (text : String) (location : Location) : Prop :=
  w.follow (.ofString text) = .ok location ∧
    ∃ content, w.disk.entry? location = some (.file content)

/-- A file in the working directory is below it. -/
theorem Opens.below {text : String} (settled : w.disk.entry? w.cwd = some .directory)
    (opens : w.Opens text location) (inside : w.cwd <+: location) :
    location.drop w.cwd.length ≠ [] := by
  obtain ⟨rest, rfl⟩ := inside
  obtain ⟨-, content, found⟩ := opens
  rw [List.drop_left]
  rintro rfl
  rw [List.append_nil, settled] at found
  cases found

private theorem relativeName_path_iff {base : Location} :
    (∃ e, w.relativeName base path = .error (.path e)) ↔ w.Lacks path ∨ Overlong path := by
  rw [← locateExisting_fails_iff, relativeName]
  cases w.locateExisting path with
  | error e => simp
  | ok location =>
    dsimp only
    split <;> simp

private theorem exists_unusable_of_locateExisting
    (failed : w.locateExisting path = .error .nullCharacter) :
    ∃ name ∈ path.parts, isUsable name = false := by
  unfold locateExisting at failed
  cases walked : path.parts.foldlM w.enter (path.beginning, w.origin path) with
  | ok last =>
    rw [walked] at failed
    cases failed
  | error e =>
    rw [walked] at failed
    obtain rfl := Except.error.inj failed
    obtain ⟨⟨written, here⟩, name, member, refused⟩ := exists_of_foldlM_error walked
    refine ⟨name, member, ?_⟩
    unfold enter at refused
    dsimp only at refused
    split at refused
    · cases refused
    · split at refused
      · rename_i unusable
        simpa using unusable
      · split at refused
        · cases refused
        · cases looked : w.child here name with
          | ok next =>
            rw [looked] at refused
            cases refused
          | error e =>
            rw [looked] at refused
            obtain rfl := Except.error.inj refused
            exact isUsable_of_child looked

/-- Only a path with a null character is refused because of one. -/
theorem relativeName_ne_null {base : Location} {text : String} (plain : '\x00' ∉ text.toList) :
    w.relativeName base (.ofString text) ≠ .error (.path .nullCharacter) := by
  unfold relativeName
  split
  · rename_i e failed
    intro same
    obtain rfl := NameError.path.inj (Except.error.inj same)
    obtain ⟨name, member, hidden⟩ := exists_unusable_of_locateExisting failed
    have usable : isUsable name = true :=
      isUsable_iff.mpr fun inside => plain (Path.mem_of_mem_ofString member inside)
    rw [usable] at hidden
    cases hidden
  · split <;> simp

/-- Of all paths that lead to a file in the working directory one is its name: it has no part that
means nothing, and the file has it by whichever path it is reached. A file outside has no name. That
a path cannot be followed is an error if something that it names is not there or the path is too long
with what `..` takes back left out, but not if it only goes up from a file or is too long as it is
written. An include of a file without a name is left out of the graph. -/
theorem relativeName_canonical (w : Workspace) (settled : w.disk.entry? w.cwd = some .directory) :
    (∀ text location, w.Opens text location → w.cwd <+: location →
      ∃ name, w.relativeName w.cwd (.ofString text) = .ok name ∧
        (∀ other there, w.Opens other there → w.cwd <+: there →
          (w.relativeName w.cwd (.ofString other) = .ok name ↔ there = location)) ∧
        (∀ part ∈ List.splitOn '/' name.toList, part ≠ [] ∧ part ≠ ['.'] ∧ part ≠ ['.', '.']) ∧
        w.Opens name location ∧ w.relativeName w.cwd (.ofString name) = .ok name) ∧
    (∀ text location, w.Opens text location → ¬w.cwd <+: location →
      w.relativeName w.cwd (.ofString text) = .error .outside) ∧
    (∀ text, ((∃ e, w.relativeName w.cwd (.ofString text) = .error (.path e)) ↔
          w.Lacks (.ofString text) ∨ Overlong (.ofString text)) ∧
        ((∃ e, w.follow (.ofString text) = .error e) ↔
          w.Lacks (.ofString text) ∨ w.Strays (.ofString text) ∨
            longestPath < (Path.ofString text).toString.utf8ByteSize) ∧
        ('\x00' ∉ text.toList →
          w.relativeName w.cwd (.ofString text) ≠ .error (.path .nullCharacter))) ∧
    ∀ (ctx : Context) (header : Schema.Include) (g : ImportGraph) (target : Path),
      ctx.file.workspace = w → ctx.file.resolveInclude header.path = .ok (some target) →
        (∃ e, w.relativeName w.cwd (.ofString ctx.file.filename) = .error e ∨
          w.relativeName w.cwd target = .error e) →
        ImportGraph.visit ctx header g = (g, none) := by
  have named : ∀ text location, w.Opens text location → w.cwd <+: location →
      w.relativeName w.cwd (.ofString text) = .ok (w.nameOf location) :=
    fun text location opens inside => (relativeName_of_follow opens.1 _).mpr ⟨inside, rfl⟩
  refine ⟨?_, ?_, ?_, ?_⟩
  · intro text location opens inside
    have normal := Path.normal_ofString text
    have below := opens.below settled inside
    have located := locateExisting_of_follow opens.1
    have again : w.Opens (w.nameOf location) location :=
      ⟨follow_nameOf normal opens.1 inside below, opens.2⟩
    refine ⟨w.nameOf location, named text location opens inside, ?_, ?_, again,
      named _ location again inside⟩
    · intro other there reached within
      rw [named other there reached within, Except.ok.injEq]
      refine ⟨nameOf_inj ⟨⟨_, Path.normal_ofString other, reached.1⟩, within⟩
        ⟨⟨_, normal, opens.1⟩, inside⟩, ?_⟩
      rintro rfl
      rfl
    · intro part member
      rw [splitOn_nameOf normal located below] at member
      obtain ⟨component, among, rfl⟩ := List.mem_map.mp member
      obtain ⟨nonempty, notHere, _⟩ := components_of_locateExisting normal located component among
      have notUp := (stands_of_locateExisting located).ne_up component among
      exact ⟨fun same => nonempty (String.toList_inj.mp same),
        fun same => notHere (String.toList_inj.mp same),
        fun same => notUp (String.toList_inj.mp same)⟩
  · intro text location opens outside
    rw [relativeName, locateExisting_of_follow opens.1]
    dsimp only
    rw [if_neg (by rwa [List.isPrefixOf_iff_prefix])]
  · intro text
    exact ⟨relativeName_path_iff, follow_fails_iff, relativeName_ne_null⟩
  · rintro ctx header g target rfl resolved ⟨e, importer | importee⟩
    · simp only [ImportGraph.visit, resolved, importer]
    · simp only [ImportGraph.visit, resolved, importee]
      cases ctx.file.workspace.relativeName ctx.file.workspace.cwd (.ofString ctx.file.filename) <;>
        rfl

/-- Two files in the working directory and one beside it. -/
def neighbours : Workspace :=
  ⟨((Disk.empty.write ["work", "a.thrift"] []).write ["work", "sub", "b.thrift"] []).write
    ["c.thrift"] [], ["work"]⟩

theorem relativeName_canonical_neighbours :
    neighbours.disk.entry? neighbours.cwd = some .directory ∧
      (∃ name, neighbours.relativeName neighbours.cwd (.ofString "./sub/..//sub/b.thrift") = .ok name ∧
        neighbours.relativeName neighbours.cwd (.ofString "/work/sub/b.thrift") = .ok name ∧
        neighbours.relativeName neighbours.cwd (.ofString "a.thrift") ≠ .ok name) ∧
      neighbours.relativeName neighbours.cwd (.ofString "../c.thrift") = .error .outside := by
  have settled : neighbours.disk.entry? neighbours.cwd = some .directory := by decide +kernel
  obtain ⟨inside, outside, -, -⟩ := relativeName_canonical neighbours settled
  have nested : neighbours.Opens "./sub/..//sub/b.thrift" ["work", "sub", "b.thrift"] :=
    ⟨by decide +kernel, [], by decide +kernel⟩
  have absolute : neighbours.Opens "/work/sub/b.thrift" ["work", "sub", "b.thrift"] :=
    ⟨by decide +kernel, [], by decide +kernel⟩
  have other : neighbours.Opens "a.thrift" ["work", "a.thrift"] :=
    ⟨by decide +kernel, [], by decide +kernel⟩
  have beside : neighbours.Opens "../c.thrift" ["c.thrift"] :=
    ⟨by decide +kernel, [], by decide +kernel⟩
  obtain ⟨name, named, same, -, -⟩ := inside _ _ nested (by decide +kernel)
  refine ⟨settled, ⟨name, named, (same _ _ absolute (by decide +kernel)).mpr rfl, ?_⟩,
    outside _ _ beside (by decide +kernel)⟩
  rw [Ne, same _ _ other (by decide +kernel)]
  decide

/-- A path that goes up from a file cannot be followed, and still it has a name. -/
theorem relativeName_up_from_file :
    neighbours.follow (.ofString "a.thrift/../sub/b.thrift") = .error .notDirectory ∧
      neighbours.relativeName neighbours.cwd (.ofString "a.thrift/../sub/b.thrift") =
        .ok "sub/b.thrift" := by
  decide +kernel

end Workspace

end IdlLint
