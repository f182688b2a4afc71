import Mathlib
import IdlLint.Command.Run
import IdlLint.Proofs.CanonicalName
import IdlLint.Proofs.DocumentFault
import IdlLint.Proofs.SettingsDemand
import IdlLint.Proofs.Utf8Encoding

/-! Settings are loaded, or refused with a message about their file, unless something escapes: the
file cannot be asked for, or there is a mishap in what is left to others, when its bytes are read,
when a value in it is written as a text, or when a pattern in it is made sense of. A command ends with
status 2 if its settings are refused, and without any status if something escapes. -/
namespace IdlLint

private theorem Workspace.follow_null_iff {w : Workspace} {path : Path} :
    w.follow path = .error .nullCharacter ↔ '\x00' ∈ path.toString.toList := by
  constructor
  · intro failed
    by_contra absent
    have usable := isUsable_iff.mpr absent
    unfold follow at failed
    simp only [usable, Bool.not_true, Bool.false_eq_true, if_false] at failed
    split at failed
    · cases failed
    · obtain ⟨here, part, member, stuck⟩ := exists_of_foldlM_error failed
      have named : isUsable part = true := (isUsable_toString path).mp usable part member
      unfold step at stuck
      split at stuck
      · split at stuck <;> cases stuck
      · rw [isUsable_of_child stuck] at named
        cases named
  · intro present
    have unusable : isUsable path.toString = false := by
      rw [← Bool.not_eq_true, isUsable_iff]
      exact not_not_intro present
    simp [follow, unusable]

private theorem Workspace.readBytes_null_iff {w : Workspace} {path : Path} :
    w.readBytes path = .error .nullCharacter ↔ '\x00' ∈ path.toString.toList := by
  rw [← follow_null_iff (w := w), readBytes, find]
  cases w.follow path with
  | error e => simp
  | ok location =>
    cases found : w.disk.entry? location with
    | none => simp [found]
    | some entry => cases entry <;> simp [found]

namespace Config

/-! ### One file -/

/-- What in a file is neither loaded nor refused. -/
inductive EscapesFrom (library : Library) (w : Workspace) (file : Path) : Prop where
  /-- No file can have such a name. -/
  | name (null : '\x00' ∈ file.toString.toList)
  /-- There is a mishap when the data are read. -/
  | data {bytes : List UInt8} (read : w.readBytes file = .ok bytes) {cause : Mishap}
      (failed : library.read bytes = .error (.mishap cause))
  /-- The first demand that the data do not meet makes a mishap. -/
  | settings {bytes : List UInt8} (read : w.readBytes file = .ok bytes) {data : Data}
      (loaded : library.read bytes = .ok data) {cause : Mishap}
      (first : (library.demands data).findSome? (Demand.trouble? library) = some (.mishap cause))

/-- An error is about the settings, and its message begins with their file. -/
def Refuses (file : Path) (e : LoadError) : Prop :=
  e.isExpected = true ∧ ∃ rest, e.message = file.toString ++ ": " ++ rest

private theorem refuses_unreadable (file : Path) (e : PathError) :
    Refuses file (.unreadable file e) := by
  refine ⟨rfl, "cannot read configuration: " ++ e.message file, ?_⟩
  have colon : ": cannot read configuration: " = ": " ++ "cannot read configuration: " := rfl
  rw [LoadError.message, colon, String.append_assoc, String.append_assoc, String.append_assoc]

private theorem refuses_malformed (file : Path) : Refuses file (.malformed file) := by
  refine ⟨rfl, "invalid YAML: ...", ?_⟩
  have colon : ": invalid YAML: ..." = ": " ++ "invalid YAML: ..." := rfl
  rw [LoadError.message, colon, String.append_assoc]

private theorem refuses_invalid (file : Path) (defect : Defect) :
    Refuses file (.invalid file defect) :=
  ⟨rfl, defect.message, rfl⟩

private theorem ofData_eq_error_iff {library : Library} {data : Data} {source : Option Path}
    {trouble : Trouble Defect} : Settings.ofData library data source = .error trouble ↔
      (library.demands data).findSome? (Demand.trouble? library) = some trouble := by
  have meets := ofData_meets library data source
  unfold Meets at meets
  split at meets
  · rename_i other first
    rw [meets, first, Except.error.injEq, Option.some.injEq]
  · rename_i none
    obtain ⟨settings, made, -⟩ := meets
    simp [made, none]

/-- What escapes from a file is not about the settings. -/
theorem EscapesFrom.unexpected {library : Library} {w : Workspace} {file : Path}
    (escapes : EscapesFrom library w file) :
    ∃ e, loadFile library w file = .error e ∧ e.isExpected = false := by
  unfold loadFile
  cases escapes with
  | name null =>
    rw [Workspace.readBytes_null_iff.mpr null]
    exact ⟨_, rfl, rfl⟩
  | data read failed =>
    simp only [read, failed]
    exact ⟨_, rfl, rfl⟩
  | settings read loaded first =>
    simp only [read, loaded, ofData_eq_error_iff.mpr first]
    exact ⟨_, rfl, rfl⟩

private theorem loadFile_cases (library : Library) (w : Workspace) (file : Path) :
    (∃ settings, loadFile library w file = .ok settings) ∨
      (∃ e, loadFile library w file = .error e ∧ Refuses file e) ∨
        EscapesFrom library w file := by
  unfold loadFile
  cases read : w.readBytes file with
  | error e =>
    by_cases null : e = .nullCharacter
    · subst null
      exact .inr (.inr (.name (Workspace.readBytes_null_iff.mp read)))
    · refine .inr (.inl ⟨.unreadable file e, ?_, refuses_unreadable file e⟩)
      cases e with
      | nullCharacter => exact absurd rfl null
      | _ => rfl
  | ok bytes =>
    cases loaded : library.read bytes with
    | error trouble =>
      cases trouble with
      | fault form =>
        exact .inr (.inl ⟨.malformed file, by simp only [loaded], refuses_malformed file⟩)
      | mishap cause => exact .inr (.inr (.data read loaded))
    | ok data =>
      cases made : Settings.ofData library data (some file) with
      | ok settings => exact .inl ⟨settings, by simp only [loaded, made]⟩
      | error trouble =>
        cases trouble with
        | fault defect =>
          exact .inr (.inl ⟨.invalid file defect, by simp only [loaded, made],
            refuses_invalid file defect⟩)
        | mishap cause =>
          exact .inr (.inr (.settings read loaded (ofData_eq_error_iff.mp made)))

/-! ### The file that is loaded -/

/-- The places where settings are looked for, the first one first. -/
def candidates (directory : Path) : List Path :=
  defaultNames.map fun name => directory.join (.ofString name)

/-- The file from which settings are loaded: the one that is given, or else the first that there
is. -/
inductive Chosen (w : Workspace) (directory : Path) : Option Path → Path → Prop where
  | given (file : Path) : Chosen w directory (some file) file
  | found {before after : List Path} {file : Path}
      (order : candidates directory = before ++ file :: after)
      (absent : ∀ other ∈ before, w.isFile other = .ok false)
      (present : w.isFile file = .ok true) : Chosen w directory none file

/-- What keeps settings from being loaded and from being refused. -/
inductive Escapes (library : Library) (w : Workspace) (directory : Path) (path : Option Path) :
    Prop where
  /-- Settings are looked for under a path that is too long. -/
  | search (missing : path = none) {before after : List Path} {file : Path}
      (order : candidates directory = before ++ file :: after)
      (absent : ∀ other ∈ before, w.isFile other = .ok false)
      (long : w.isFile file = .error .nameTooLong)
  | file {file : Path} (chosen : Chosen w directory path file)
      (escapes : EscapesFrom library w file)

variable {library : Library} {w : Workspace} {directory : Path} {path : Option Path}

private theorem firstFile_append {before rest : List Path}
    (absent : ∀ other ∈ before, w.isFile other = .ok false) :
    firstFile w (before ++ rest) = firstFile w rest := by
  induction before with
  | nil => rfl
  | cons file before ih =>
    rw [List.cons_append, firstFile, absent file (List.mem_cons_self ..)]
    exact ih fun other member => absent other (List.mem_cons_of_mem _ member)

/-- The search ends at the first place that is not known to be without a file. -/
theorem firstFile_cases (w : Workspace) (files : List Path) :
    (∀ file ∈ files, w.isFile file = .ok false) ∨
      ∃ before file after, files = before ++ file :: after ∧
        (∀ other ∈ before, w.isFile other = .ok false) ∧
          (w.isFile file = .ok true ∨ w.isFile file = .error .nameTooLong) := by
  induction files with
  | nil => exact .inl nofun
  | cons first files ih =>
    cases asked : w.isFile first with
    | error e =>
      rw [Workspace.isFile_error asked] at asked
      exact .inr ⟨[], first, files, rfl, nofun, .inr asked⟩
    | ok there =>
      cases there with
      | true => exact .inr ⟨[], first, files, rfl, nofun, .inl asked⟩
      | false =>
        rcases ih with absent | ⟨before, file, after, rfl, absent, ends⟩
        · exact .inl (List.forall_mem_cons.mpr ⟨asked, absent⟩)
        · exact .inr ⟨first :: before, file, after, rfl, List.forall_mem_cons.mpr ⟨asked, absent⟩,
            ends⟩

private theorem Chosen.load_eq {file : Path} (chosen : Chosen w directory path file) :
    load library w path directory = loadFile library w file := by
  cases chosen with
  | given => rfl
  | found order absent present =>
    have found : find w directory = .ok (some file) := by
      rw [find, ← candidates, order, firstFile_append absent, firstFile, present]
    rw [load, found]

private theorem Escapes.unexpected (escapes : Escapes library w directory path) :
    ∃ e, load library w path directory = .error e ∧ e.isExpected = false := by
  cases escapes with
  | @search missing before after file order absent long =>
    have stuck : find w directory = .error (.search file .nameTooLong) := by
      rw [find, ← candidates, order, firstFile_append absent, firstFile, long]
    subst missing
    rw [load, stuck]
    exact ⟨_, rfl, rfl⟩
  | file chosen escapes =>
    rw [chosen.load_eq]
    exact escapes.unexpected

private theorem load_cases (library : Library) (w : Workspace) (path : Option Path)
    (directory : Path) : (∃ settings, load library w path directory = .ok settings) ∨
      (∃ file e, Chosen w directory path file ∧ load library w path directory = .error e ∧
        Refuses file e) ∨ Escapes library w directory path := by
  have decided : ∀ file, Chosen w directory path file →
      (∃ settings, load library w path directory = .ok settings) ∨
        (∃ file e, Chosen w directory path file ∧ load library w path directory = .error e ∧
          Refuses file e) ∨ Escapes library w directory path := by
    intro file chosen
    rw [chosen.load_eq]
    rcases loadFile_cases library w file with loaded | ⟨e, failed, refused⟩ | escapes
    · exact .inl loaded
    · exact .inr (.inl ⟨file, e, chosen, failed, refused⟩)
    · exact .inr (.inr (.file chosen escapes))
  cases path with
  | some file => exact decided file (.given file)
  | none =>
    rcases firstFile_cases w (candidates directory) with
      absent | ⟨before, file, after, order, absent, present | long⟩
    · have searched : firstFile w (candidates directory ++ []) = .ok none := firstFile_append absent
      rw [List.append_nil] at searched
      have nothing : find w directory = .ok none := searched
      exact .inl ⟨{}, by rw [load, nothing]⟩
    · exact decided file (.found order absent present)
    · exact .inr (.inr (.search rfl order absent long))

/-- Loading ends with settings or with a refusal exactly if nothing escapes. -/
theorem load_settled_iff :
    ((∃ settings, load library w path directory = .ok settings) ∨
      ∃ file e, Chosen w directory path file ∧ load library w path directory = .error e ∧
        Refuses file e) ↔ ¬Escapes library w directory path := by
  constructor
  · rintro settled escapes
    obtain ⟨e, failed, unexpected⟩ := escapes.unexpected
    rcases settled with ⟨settings, loaded⟩ | ⟨file, other, -, refused, expected, -⟩
    · rw [failed] at loaded
      cases loaded
    · rw [failed] at refused
      cases refused
      rw [unexpected] at expected
      cases expected
  · intro safe
    rcases load_cases library w path directory with loaded | refused | escapes
    · exact .inl loaded
    · exact .inr refused
    · exact absurd escapes safe

/-- An error is about the settings exactly if nothing escapes. -/
theorem isExpected_iff {e : LoadError} (failed : load library w path directory = .error e) :
    e.isExpected = true ↔ ¬Escapes library w directory path := by
  constructor
  · intro expected escapes
    obtain ⟨other, same, unexpected⟩ := escapes.unexpected
    rw [failed] at same
    cases same
    rw [unexpected] at expected
    cases expected
  · intro safe
    rcases load_settled_iff.mpr safe with ⟨settings, loaded⟩ | ⟨file, other, -, same, expected, -⟩
    · rw [failed] at loaded
      cases loaded
    · rw [failed] at same
      cases same
      exact expected

/-! ### The notations in use -/

/-- How many characters of a file are asked for at a time. A file of no more bytes is decoded before
anything in it is read. -/
def pieceSize : Nat := 4096

private theorem decode_encodeUtf8 (text : List Char) :
    decode (Text.encodeUtf8 text) = .ok (Text.unifyLines text) := by
  rw [decode, Text.decodeUtf8_eq_ok_iff.mpr rfl]

private theorem Library.standard_read_scrambled {bytes : List UInt8}
    (scrambled : ∀ text, bytes ≠ Text.encodeUtf8 text) :
    ∃ cause, standard.read bytes = .error (.mishap cause) := by
  cases decoded : Text.decodeUtf8 bytes with
  | ok text => exact absurd (Text.decodeUtf8_eq_ok_iff.mp decoded) (scrambled text)
  | error e =>
    simp only [standard, decode, decoded]
    exact ⟨_, rfl⟩

private theorem Library.standard_read_mishap {bytes : List UInt8} {cause : Mishap}
    (failed : standard.read bytes = .error (.mishap cause)) :
    (∀ text, bytes ≠ Text.encodeUtf8 text) ∨
      ∃ text fault, bytes = Text.encodeUtf8 text ∧ cause = .data fault ∧
        Yaml.Unloadable (Text.unifyLines text) fault := by
  by_cases scrambled : ∀ text, bytes ≠ Text.encodeUtf8 text
  · exact .inl scrambled
  · obtain ⟨text, rfl⟩ : ∃ text, bytes = Text.encodeUtf8 text := by simpa using scrambled
    simp only [standard, decode_encodeUtf8] at failed
    split at failed
    · cases failed
    · cases failed
    · rename_i fault other unloaded
      cases failed
      exact .inr ⟨text, fault, rfl, rfl, Yaml.unloadable_of_load unloaded other⟩

private theorem exists_long {cells : Array Cell} {fuel : Nat} {outer : List Nat} {index : Nat}
    (long : Data.isWritableAt cells fuel outer index = false) :
    ∃ place, ∃ value ∈ (Data.cellAt cells place).scalars, value.isWritable = false := by
  induction fuel generalizing outer index with
  | zero => cases long
  | succ fuel ih =>
    simp only [Data.isWritableAt, Bool.or_eq_false_iff, Bool.and_eq_false_iff,
      List.all_eq_false, Bool.not_eq_true] at long
    obtain ⟨-, ⟨value, member, long⟩ | ⟨part, -, long⟩⟩ := long
    · exact ⟨index, value, member, long⟩
    · exact ih long

private theorem Library.standard_text_mishap {data : Data} {cause : Mishap}
    (failed : standard.text data = .error cause) :
    cause = .unwritable ∧ ∃ index, ∃ value ∈ (Data.cellAt data.cells index).scalars,
      value.isWritable = false := by
  unfold standard at failed
  dsimp only at failed
  split at failed
  · cases failed
  · rename_i long
    cases failed
    exact ⟨rfl, exists_long (by simpa [Data.isWritable] using long)⟩

end Config

/-! ### The commands -/

namespace Command

open IdlLint.Config

/-- The program is called with a command and what stands after it. -/
def Invokes (args : List String) (command : String) (rest : List String) : Prop :=
  ∃ given, Arguments.parse globalOptions false args = .ok given ∧
    (given.order.find? fun option => option = .version || option = .help) = none ∧
      given.positional = command :: rest

/-- A command line on which nothing is wrong, so that a command loads its settings. -/
inductive Proceeds (w : Workspace) (args : List String) : Arguments → Prop where
  | lint {rest : List String} {a : Arguments} (invoked : Invokes args "lint" rest)
      (parsed : Arguments.parse [.config, .include, .format, .errorsOnly, .strict, .help] true rest =
        .ok a) (working : a.has .help = false)
      (fit : (optionsFault w a).or (pathsFault w a) = none) : Proceeds w args a
  | checks {rest : List String} {a : Arguments} (invoked : Invokes args "checks" rest)
      (parsed : Arguments.parse [.config, .help] true rest = .ok a) (working : a.has .help = false)
      (fit : optionsFault w a = none) (alone : a.positional = []) : Proceeds w args a

section Run

variable {library : Library} {w : Workspace} {args rest : List String}

private theorem Invokes.nonempty {command : String} (invoked : Invokes args command rest) :
    args.isEmpty = false := by
  cases args with
  | nil =>
    obtain ⟨given, parsed, -, positional⟩ := invoked
    cases parsed
    cases positional
  | cons first args => rfl

private theorem run_lint (elapsed : Binary64) (invoked : Invokes args "lint" rest) :
    run library w elapsed args = lintCommand library w elapsed rest := by
  have nonempty := invoked.nonempty
  obtain ⟨given, parsed, plain, positional⟩ := invoked
  simp only [run, nonempty, parsed, plain, positional, Bool.false_eq_true, if_false]

private theorem run_checks (elapsed : Binary64) (invoked : Invokes args "checks" rest) :
    run library w elapsed args = checksCommand library w rest := by
  have nonempty := invoked.nonempty
  obtain ⟨given, parsed, plain, positional⟩ := invoked
  simp only [run, nonempty, parsed, plain, positional, Bool.false_eq_true, if_false]

/-- A command is refused with what is wrong with its settings, or ends without a status. -/
theorem Proceeds.run_eq {a : Arguments} {e : LoadError} (proceeds : Proceeds w args a)
    (failed : settings library w a = .error e) (elapsed : Binary64) :
    ∃ before, run library w elapsed args =
      if e.isExpected then .ok (refused (before ++ e.message)) else .error (.load e) := by
  cases proceeds with
  | lint invoked parsed working fit =>
    refine ⟨"Invalid configuration: ", ?_⟩
    rw [run_lint elapsed invoked]
    simp only [lintCommand, parsed, working, fit, lintPaths, failed, Bool.false_eq_true, if_false]
  | checks invoked parsed working fit alone =>
    refine ⟨"", ?_⟩
    rw [run_checks elapsed invoked, String.empty_append]
    simp only [checksCommand, parsed, working, fit, alone, List.isEmpty_nil, listChecks, failed,
      Bool.false_eq_true, if_false, if_true]

end Run

/-- Settings are loaded, or refused with a message that begins with their file, exactly if nothing
escapes, whatever does the reading and the writing. A command whose settings are refused ends with
status 2, and one from whose settings something escapes ends without a status. With the notations that
are described here bytes are at fault, other than in their form, if they are no text, which is
noticed at once in a short file, or if the text asks for what there is not; and a value cannot be
written only for an integer in it. -/
theorem settings_settled (library : Library) (w : Workspace) :
    (∀ path directory,
      ((∃ settings, Config.load library w path directory = .ok settings) ∨
        ∃ file e, Chosen w directory path file ∧ Config.load library w path directory = .error e ∧
          e.isExpected = true ∧ ∃ rest, e.message = file.toString ++ ": " ++ rest) ↔
      ¬Escapes library w directory path) ∧
    (∀ elapsed args a e, Proceeds w args a → settings library w a = .error e →
      (¬Escapes library w ⟨.slash, w.cwd⟩ ((a.value? .config).map Path.ofString) →
        ∃ before outcome, run library w elapsed args = .ok outcome ∧ outcome.exitCode = 2 ∧
          outcome.output = "" ∧ outcome.error = some ("Error: " ++ (before ++ e.message))) ∧
      (Escapes library w ⟨.slash, w.cwd⟩ ((a.value? .config).map Path.ofString) →
        run library w elapsed args = .error (.load e))) ∧
    (∀ bytes cause, Library.standard.read bytes = .error (.mishap cause) →
      (∀ text, bytes ≠ Text.encodeUtf8 text) ∨
        ∃ text fault, bytes = Text.encodeUtf8 text ∧ cause = .data fault ∧
          Yaml.Unloadable (Text.unifyLines text) fault) ∧
    (∀ bytes, bytes.length ≤ pieceSize → (∀ text, bytes ≠ Text.encodeUtf8 text) →
      ∃ cause, Library.standard.read bytes = .error (.mishap cause)) ∧
    (∀ data cause, Library.standard.text data = .error cause →
      cause = .unwritable ∧ ∃ index, ∃ value ∈ (Data.cellAt data.cells index).scalars,
        value.isWritable = false) := by
  refine ⟨fun path directory => load_settled_iff, fun elapsed args a e proceeds failed => ?_,
    fun bytes cause => Library.standard_read_mishap, fun bytes _ => Library.standard_read_scrambled,
    fun data cause => Library.standard_text_mishap⟩
  obtain ⟨before, ran⟩ := proceeds.run_eq failed elapsed
  have expected := isExpected_iff failed
  constructor
  · intro safe
    rw [if_pos (expected.mpr safe)] at ran
    exact ⟨before, _, ran, rfl, rfl, rfl⟩
  · intro escapes
    have unexpected : ¬e.isExpected = true := fun holds => expected.mp holds escapes
    rwa [if_neg unexpected] at ran

/-- A settings file that holds no text. -/
def scrambled : Workspace :=
  ⟨(Disk.empty.write ["thriftlint.yml"] [0xff]).write ["a.thrift"] [], []⟩

/-- Bytes that are no text are neither loaded nor refused, and the commands end without a status. -/
theorem run_scrambled :
    ∃ e, Config.load .standard scrambled (some (.ofString "thriftlint.yml")) .here = .error e ∧
      e.isExpected = false ∧
      run .standard scrambled (.zero false) ["checks"] = .error (.load e) ∧
      run .standard scrambled (.zero false) ["lint", "a.thrift"] = .error (.load e) := by
  have read : scrambled.readBytes (.ofString "thriftlint.yml") = .ok [0xff] := by decide +kernel
  refine ⟨.mishap (.undecodable ⟨0, 0xff, 1, .start⟩), ?_, rfl, by decide +kernel,
    by decide +kernel⟩
  rw [Config.load, loadFile, read]
  rfl

end Command

end IdlLint
