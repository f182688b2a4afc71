import IdlLint.Proofs.FileIndependence

/-! When a run comes to its end. Most of what can be wrong with a file is reported and the run goes
on, but not everything: some files end the run for all the others. -/
namespace IdlLint

open IdlLint.Config
open IdlLint.Schema

theorem firstFile_error {w : Workspace} {paths : List Path} {failure : Failure}
    (failed : FileContext.firstFile w paths = .error failure) :
    ∃ target ∈ paths, failure = .path target .nameTooLong := by
  induction paths with
  | nil => cases failed
  | cons path rest ih =>
    rw [FileContext.firstFile] at failed
    split at failed
    · cases failed
    · obtain ⟨target, member, same⟩ := ih failed
      exact ⟨target, List.mem_cons_of_mem _ member, same⟩
    · rename_i e asked
      cases failed
      exact ⟨path, List.mem_cons_self .., by rw [Workspace.isFile_error asked]⟩

namespace Session

/-- What makes a file end the run, on a disk as it is described here: without permissions, links and
devices that fail, and for a stack without an end. An include that is looked for in a directory that
may not be searched ends a run as well, and so does what is nested too deep for the stack. -/
inductive Stops (w : Workspace) (directories : List Path) (path : Path) : Prop where
  /-- No file can have such a name. -/
  | unusable (unread : parseFile w path = .error (.unreadable .nullCharacter))
  /-- A decimal literal in the file is too long. -/
  | literal {count : Nat} (unread : parseFile w path = .error (.parse (.excessiveDigits count)))
  /-- The target of an include is looked for under a name that is too long. -/
  | lookup {document : Document} (parsed : parseFile w path = .ok document) {header : Include}
      (listed : header ∈ document.includes) {target : Path}
      (failed : FileContext.resolveInclude ⟨path.toString, document, .empty, directories, w⟩
        header.path = .error (.path target .nameTooLong))
  /-- A decimal literal in an included file is too long. -/
  | included {document : Document} (parsed : parseFile w path = .ok document) {header : Include}
      (listed : header ∈ document.includes) {target : Path}
      (resolved : FileContext.resolveInclude ⟨path.toString, document, .empty, directories, w⟩
        header.path = .ok (some target))
      {count : Nat} (unread : parseFile w target = .error (.parse (.excessiveDigits count)))

/-- An include ends the run if it cannot be looked for or leads to a literal that is too long. -/
theorem contribution_isOk_iff (file : FileContext) (header : Include) :
    (∃ answer, contribution file (fun _ => none) header = .ok answer) ↔
      (∀ target, file.resolveInclude header.path ≠ .error (.path target .nameTooLong)) ∧
        ∀ target, file.resolveInclude header.path = .ok (some target) → ∀ count,
          parseFile file.workspace target ≠ .error (.parse (.excessiveDigits count)) := by
  unfold contribution
  cases resolved : file.resolveInclude header.path with
  | error failure =>
    obtain ⟨target, _, rfl⟩ := firstFile_error resolved
    simp
  | ok result =>
    cases result with
    | none => simp
    | some target =>
      have readable := parseFile_ne_unreadable (isFile_of_resolveInclude resolved)
      dsimp only [attempt]
      cases parsed : parseFile file.workspace target with
      | ok document => simp [parsed]
      | error e =>
        cases e with
        | unreadable e => exact absurd parsed (readable e)
        | undecodable e => simp [parsed]
        | parse failure => cases failure <;> simp [parsed]

/-- The includes of a file can be gone through if each of them can. -/
theorem includeMap_isOk_iff (file : FileContext) (known : Location → Option (Option Document))
    (headers : List Include) :
    (∃ includes, includeMap file known headers = .ok includes) ↔
      ∀ header ∈ headers, ∃ answer, contribution file known header = .ok answer := by
  have parts : (∃ parts, contributions file known headers = .ok parts) ↔
      ∀ header ∈ headers, ∃ answer, contribution file known header = .ok answer := by
    induction headers with
    | nil => exact ⟨fun _ => by simp, fun _ => ⟨[], rfl⟩⟩
    | cons header rest ih =>
      rw [List.forall_mem_cons, ← ih, contributions_cons]
      cases contribution file known header with
      | error abort => simp
      | ok answer => cases contributions file known rest <;> simp [Except.map]
  rw [← parts, includeMap]
  cases contributions file known headers <;> simp [Except.map]

variable (w : Workspace) (checks : List (Check ImportGraph)) (directories : List Path)

/-- A file that holds a document is checked if its includes can be gone through. -/
theorem alone_of_parsed {path : Path} {document : Document}
    (parsed : parseFile w path = .ok document) :
    (∃ found, (alone w checks directories path).2 = .ok found) ↔
      ∃ includes, includeMap ⟨path.toString, document, .empty, directories, w⟩ (fun _ => none)
        document.includes = .ok includes := by
  obtain ⟨documents, checked⟩ := checkFile_of_faithful
    (s := { checks := checks, includeDirs := directories }) rfl (faithful_empty w) parsed
  rw [alone, checked]
  dsimp only
  cases includeMap ⟨path.toString, document, .empty, directories, w⟩ (fun _ => none)
    document.includes <;> simp

/-- Any other file that does not end the run is reported. -/
theorem alone_of_error {path : Path} {e : FileError} (failed : parseFile w path = .error e) :
    let only := alone w checks directories path
    ((∃ found, only.2 = .ok found) ↔
      e ≠ .unreadable .nullCharacter ∧ ∀ count, e ≠ .parse (.excessiveDigits count)) ∧
      ((∃ found, only.2 = .ok found) →
        ∃ d ∈ only.1.diagnostics, d.ruleId = parseRule ∧ d.filename = path.toString) := by
  rw [alone, checkFile, failed]
  cases e with
  | unreadable e => cases e <;> simp [reject, Diagnostic.placed]
  | undecodable e => simp [reject, Diagnostic.placed]
  | parse failure => cases failure <;> simp [reject, Diagnostic.placed]

private theorem alone_isOk_iff (path : Path) :
    (∃ found, (alone w checks directories path).2 = .ok found) ↔ ¬Stops w directories path := by
  cases parsed : parseFile w path with
  | error e =>
    rw [(alone_of_error w checks directories parsed).1]
    constructor
    · rintro ⟨usable, short⟩ stops
      cases stops with
      | unusable unread => exact usable (Except.error.inj (parsed.symm.trans unread))
      | literal unread => exact short _ (Except.error.inj (parsed.symm.trans unread))
      | lookup other _ _ => exact nomatch parsed.symm.trans other
      | included other _ _ _ => exact nomatch parsed.symm.trans other
    · intro goes
      exact ⟨fun same => goes (.unusable (same ▸ parsed)),
        fun count same => goes (.literal (same ▸ parsed))⟩
  | ok document =>
    rw [alone_of_parsed w checks directories parsed, includeMap_isOk_iff]
    simp only [contribution_isOk_iff]
    constructor
    · rintro good stops
      cases stops with
      | unusable unread => exact nomatch parsed.symm.trans unread
      | literal unread => exact nomatch parsed.symm.trans unread
      | lookup other listed failed =>
        obtain rfl := Except.ok.inj (parsed.symm.trans other)
        exact (good _ listed).1 _ failed
      | included other listed resolved unread =>
        obtain rfl := Except.ok.inj (parsed.symm.trans other)
        exact (good _ listed).2 _ resolved _ unread
    · intro goes header listed
      exact ⟨fun target failed => goes (.lookup parsed listed failed),
        fun target resolved count unread => goes (.included parsed listed resolved unread)⟩

/-- A run comes to its end exactly if none of its files stops it. Then every file that holds a
document has been checked, every other one is reported, and what would be found in a file by itself
is found. -/
theorem run_isOk_iff (w : Workspace) (settings : Settings) (directories files : List Path) :
    let result := (run w files
      { checks := Rules.enabled settings, includeDirs := directories }).2
    ((∃ outcome, result = .ok outcome) ↔ ∀ path ∈ files, ¬Stops w directories path) ∧
      ∀ outcome, result = .ok outcome →
        outcome.filesChecked = files.countP (fun path => (parseFile w path).isOk) ∧
        ∀ path ∈ files,
          ((parseFile w path).isOk = false →
            ∃ d ∈ outcome.diagnostics, d.ruleId = parseRule ∧ d.filename = path.toString) ∧
          let only := (alone w (Rules.enabled settings) directories path).1
          (∀ d ∈ only.diagnostics, d ∈ outcome.diagnostics) ∧
            ∀ d ∈ only.faults, d ∈ outcome.faults := by
  intro result
  obtain ⟨returns, gathers⟩ := run_alone w settings directories files
  refine ⟨returns.trans (forall₂_congr fun path _ => alone_isOk_iff ..), ?_⟩
  intro outcome returned
  have each := returns.mp ⟨outcome, returned⟩
  obtain ⟨diagnostics, faults, count, _⟩ := gathers outcome returned
  have found : ∀ path ∈ files,
      ∀ d ∈ (alone w (Rules.enabled settings) directories path).1.diagnostics,
        d ∈ outcome.diagnostics := by
    intro path listed d member
    rw [diagnostics]
    exact List.mem_append_left _
      (List.mem_mergeSort.mpr (List.mem_flatMap.mpr ⟨path, listed, member⟩))
  refine ⟨count, ?_⟩
  intro path listed
  refine ⟨?_, found path listed, ?_⟩
  · intro failed
    cases parsed : parseFile w path with
    | ok document =>
      rw [parsed] at failed
      cases failed
    | error e =>
      obtain ⟨d, member, about⟩ := (alone_of_error w _ directories parsed).2 (each path listed)
      exact ⟨d, found path listed d member, about⟩
  · intro d member
    rw [faults]
    exact List.mem_flatMap.mpr ⟨path, listed, member⟩

/-- An include of a name that is longer than any file's cannot be looked for in the working
directory. -/
theorem resolveInclude_of_long (file : FileContext)
    (beside : (Path.ofString file.filename).parent = .here)
    (directory : file.workspace.disk.entry? file.workspace.cwd = some .directory) {name : String}
    (component : Path.IsComponent name) (usable : Workspace.isUsable name = true)
    (long : Workspace.longestName < name.utf8ByteSize)
    (fits : name.utf8ByteSize ≤ Workspace.longestPath) :
    file.resolveInclude name = .error (.path ⟨.relative, [name]⟩ .nameTooLong) := by
  let path : Path := ⟨.relative, [name]⟩
  have written : path.toString = name := by simp [path, Path.toString, Path.Anchor.text]
  have single : Path.ofString name = path := by
    have normal : path.Normal := by simpa [path, Path.Normal] using component
    rw [← Path.ofString_toString normal, written]
  have notUp : name ≠ ".." := by
    rintro rfl
    exact absurd long (by decide)
  have followed : file.workspace.follow path = .error .nameTooLong := by
    have moved : file.workspace.step file.workspace.cwd name = .error .nameTooLong := by
      simp [Workspace.step, Workspace.child, notUp, directory, usable, long]
    rw [Workspace.follow, written, usable, if_neg (by simp), if_neg (by omega)]
    change [name].foldlM file.workspace.step file.workspace.cwd = _
    rw [List.foldlM_cons, moved]
    rfl
  have refused : file.workspace.isFile path = .error .nameTooLong := by
    simp [Workspace.isFile, Workspace.test, Workspace.find, followed]
  have first : Path.here.join path = path := rfl
  rw [FileContext.resolveInclude, FileContext.candidates, beside, single, first,
    FileContext.firstFile, refused]

/-- A name that is longer than any file's. -/
def longName : String := String.ofList (List.replicate 256 'a')

/-- A file that includes the long name, and a file with nothing wrong. -/
def longInclude : Workspace :=
  let including := "include \"".toList ++ List.replicate 256 'a' ++ "\"".toList
  ⟨(Disk.empty.write ["a.thrift"] (Text.encodeUtf8 including)).write ["b.thrift"]
    (Text.encodeUtf8 "struct S \x7b\x7d".toList), []⟩

private theorem stops_longInclude : Stops longInclude [] (.ofString "a.thrift") := by
  have letters : longName.toList = List.replicate 256 'a' := String.toList_ofList
  have size : longName.utf8ByteSize = 256 := by decide +kernel
  have component : Path.IsComponent longName := by
    have other : ∀ text : String, text.utf8ByteSize ≠ 256 → longName ≠ text :=
      fun text short same => short (same ▸ size)
    refine ⟨other "" (by decide), other "." (by decide), ?_⟩
    rw [letters]
    exact fun member => absurd (List.eq_of_mem_replicate member) (by decide)
  have usable : Workspace.isUsable longName = true := by
    unfold Workspace.isUsable
    rw [letters]
    decide +kernel
  have beside : (Path.ofString (Path.ofString "a.thrift").toString).parent = .here := by decide
  have read : (parseFile longInclude (.ofString "a.thrift")).toOption.any (fun document =>
      document.includes.any (·.path == longName)) = true := by
    decide +kernel
  obtain ⟨document, parsed, included⟩ := exists_ok_of_any read
  obtain ⟨header, listed, same⟩ := List.any_eq_true.mp included
  have failed := resolveInclude_of_long
    ⟨(Path.ofString "a.thrift").toString, document, .empty, [], longInclude⟩ beside rfl component
    usable (by rw [size]; decide) (by rw [size]; decide)
  rw [← eq_of_beq same] at failed
  exact .lookup parsed listed failed

/-- The include is not reported: it ends the run, and the second file is never checked. -/
theorem run_longInclude :
    let start : Session ImportGraph := { checks := Rules.enabled {} }
    let result (names : List String) := (start.run longInclude (names.map .ofString)).2
    (¬∃ outcome, result ["a.thrift", "b.thrift"] = .ok outcome) ∧
      ∃ outcome, result ["b.thrift"] = .ok outcome := by
  intro start result
  refine ⟨?_, ?_⟩
  · intro returns
    have each := (run_alone longInclude {} [] (["a.thrift", "b.thrift"].map .ofString)).1.mp returns
    exact (alone_isOk_iff ..).mp (each _ (List.mem_cons_self ..)) stops_longInclude
  · have passed : (result ["b.thrift"]).toOption.any (·.filesChecked == 1) = true := by
      decide +kernel
    obtain ⟨outcome, success, _⟩ := exists_ok_of_any passed
    exact ⟨outcome, success⟩

end Session

end IdlLint
