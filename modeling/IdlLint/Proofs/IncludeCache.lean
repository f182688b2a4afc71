import IdlLint.Lint.Probe
import IdlLint.Lint.Session
import IdlLint.Proofs.IncludeCycle

/-! The documents of included files are kept from one file to the next, so a file on the disk may
have changed since it was read. What the checks are told about includes follows from the files that
have been checked so far and the disk at each of those times. -/
namespace IdlLint

open IdlLint.Schema

namespace Workspace

private theorem isFile_of_readBytes {w : Workspace} {path : Path} {bytes : List UInt8}
    (found : w.readBytes path = .ok bytes) : w.isFile path = .ok true := by
  unfold readBytes at found
  split at found
  · cases found
  · cases found
  · rename_i entry
    simp [isFile, test, entry]

private theorem readBytes_of_isFile {w : Workspace} {path : Path} (file : w.isFile path = .ok true) :
    ∃ bytes, w.readBytes path = .ok bytes := by
  cases entry : w.find path with
  | error e => cases e <;> simp [isFile, test, entry] at file
  | ok found =>
    cases found with
    | file bytes => exact ⟨bytes, by simp [readBytes, entry]⟩
    | directory => simp [isFile, test, entry] at file

/-- Two paths to one file have the same content. -/
theorem readBytes_congr {w : Workspace} {one two : Path} (first : w.isFile one = .ok true)
    (second : w.isFile two = .ok true) (same : w.locate one = w.locate two) :
    w.readBytes one = w.readBytes two := by
  obtain ⟨here, followed⟩ := follow_of_isFile first
  obtain ⟨there, walked⟩ := follow_of_isFile second
  rw [locate_of_follow followed, locate_of_follow walked] at same
  simp only [readBytes, find, followed, walked, same]

end Workspace

namespace Session

variable {σ : Type}

/-- What comes of reading a file: its document, or nothing if it cannot be read, decoded or parsed.
Any other failure ends the call that reads the file. -/
def attempt (w : Workspace) (path : Path) : Except Abort (Option Document) :=
  match parseFile w path with
  | .ok document => .ok (some document)
  | .error (.parse (.excessiveDigits count)) => .error (.excessiveDigits count)
  | .error (.unreadable .nullCharacter) => .error (.failure (.path path .nullCharacter))
  | .error _ => .ok none

private theorem isFile_of_parseFile {w : Workspace} {path : Path} {document : Document}
    (parsed : parseFile w path = .ok document) : w.isFile path = .ok true := by
  cases content : w.readBytes path with
  | ok bytes => exact Workspace.isFile_of_readBytes content
  | error e => simp [parseFile, content] at parsed

/-- A file that is there can be read, whatever it holds. -/
theorem parseFile_ne_unreadable {w : Workspace} {path : Path} (file : w.isFile path = .ok true)
    (e : PathError) : parseFile w path ≠ .error (.unreadable e) := by
  obtain ⟨bytes, content⟩ := Workspace.readBytes_of_isFile file
  simp only [parseFile, content]
  split
  · simp
  · split <;> simp

/-- Two paths to one file come to the same. -/
theorem attempt_congr {w : Workspace} {one two : Path} (first : w.isFile one = .ok true)
    (second : w.isFile two = .ok true) (same : w.locate one = w.locate two) :
    attempt w one = attempt w two := by
  have equal : parseFile w one = parseFile w two := by
    simp only [parseFile, Workspace.readBytes_congr first second same]
  have readable := parseFile_ne_unreadable second
  simp only [attempt, equal]
  cases parsed : parseFile w two with
  | ok document => rfl
  | error e =>
    cases e with
    | unreadable e => exact absurd parsed (readable e)
    | undecodable e => rfl
    | parse failure => cases failure <;> rfl

/-! ### What is known of included files -/

/-- The document that an include contributes, if any: the one that is known at the location of its
target, or else the one that is there. -/
def contribution (file : FileContext) (known : Location → Option (Option Document))
    (header : Include) : Except Abort (Option Document) :=
  match file.resolveInclude header.path with
  | .error failure => .error (.failure failure)
  | .ok none => .ok none
  | .ok (some target) =>
    match known (file.workspace.locate target) with
    | some answer => .ok answer
    | none => attempt file.workspace target

/-- The documents that some includes contribute, each with the name of its include. -/
def contributions (file : FileContext) (known : Location → Option (Option Document))
    (headers : List Include) : Except Abort (List (Option (String × Document))) :=
  headers.mapM fun header => (contribution file known header).map (Option.map (Prod.mk header.name))

/-- The documents that some includes contribute, by the names of the includes. Of several with one
name the last counts. -/
def includeMap (file : FileContext) (known : Location → Option (Option Document))
    (headers : List Include) : Except Abort Includes :=
  (contributions file known headers).map fun parts => .ofList (parts.filterMap id)

/-- What is found at a location if an include leads there. -/
def readAt (file : FileContext) (key : Location) (header : Include) : Option (Option Document) :=
  match file.resolveInclude header.path with
  | .ok (some target) =>
    if file.workspace.locate target = key then (attempt file.workspace target).toOption else none
  | _ => none

/-- What is found at a location when the includes are gone through, up to the first that fails. -/
def firstRead (file : FileContext) (known : Location → Option (Option Document))
    (headers : List Include) (key : Location) : Option (Option Document) :=
  (headers.takeWhile fun header => (contribution file known header).isOk).findSome?
    (readAt file key)

theorem isFile_of_resolveInclude {file : FileContext} {path : String} {target : Path}
    (resolved : file.resolveInclude path = .ok (some target)) :
    file.workspace.isFile target = .ok true :=
  (firstFile_mem resolved).2

/-- Reading a file that is not known gives what is there, and from then on that is known. -/
theorem loadInclude_eq {w : Workspace} {target : Path} (file : w.isFile target = .ok true)
    (documents : OrderedMap Location (Option Document)) :
    loadInclude w target documents =
      match documents.get? (w.locate target) with
      | some answer => (documents, .ok answer)
      | none =>
        match attempt w target with
        | .ok answer => (documents.insert (w.locate target) answer, .ok answer)
        | .error abort => (documents, .error abort) := by
  have readable := parseFile_ne_unreadable file
  simp only [loadInclude, attempt]
  cases documents.get? (w.locate target) with
  | some answer => rfl
  | none =>
    cases parsed : parseFile w target with
    | ok document => rfl
    | error e =>
      cases e with
      | unreadable e => exact absurd parsed (readable e)
      | undecodable e => rfl
      | parse failure => cases failure <;> rfl

/-- What has just been read need not be known: it would be read again. -/
theorem contribution_insert {file : FileContext} {target : Path}
    (found : file.workspace.isFile target = .ok true)
    {documents : OrderedMap Location (Option Document)}
    (unknown : documents.get? (file.workspace.locate target) = none) {answer : Option Document}
    (attempted : attempt file.workspace target = .ok answer) :
    contribution file (documents.insert (file.workspace.locate target) answer).get? =
      contribution file documents.get? := by
  funext header
  unfold contribution
  cases resolved : file.resolveInclude header.path with
  | error failure => rfl
  | ok result =>
    cases result with
    | none => rfl
    | some other =>
      dsimp only
      by_cases same : file.workspace.locate target = file.workspace.locate other
      · rw [← same, OrderedMap.get?_insert_self, unknown]
        exact attempted.symm.trans (attempt_congr found (isFile_of_resolveInclude resolved) same)
      · rw [OrderedMap.get?_insert_of_ne _ _ same]

/-- An include that fails ends the loop, and nothing is learnt from it. -/
theorem loadIncludes_of_error {file : FileContext} {header : Include}
    {documents : OrderedMap Location (Option Document)} {abort : Abort}
    (failed : contribution file documents.get? header = .error abort) (rest : List Include)
    (includes : Includes) :
    loadIncludes file.workspace file.filename file.includeDirs (header :: rest) documents includes =
      (documents, .error abort) := by
  have lead : FileContext.firstFile file.workspace
      (FileContext.candidates file.filename file.includeDirs header.path) =
        file.resolveInclude header.path := rfl
  unfold contribution at failed
  rw [loadIncludes, lead]
  cases resolved : file.resolveInclude header.path with
  | error failure =>
    rw [resolved] at failed
    cases failed
    rfl
  | ok result =>
    rw [resolved] at failed
    cases result with
    | none => cases failed
    | some target =>
      dsimp only at failed ⊢
      rw [loadInclude_eq (isFile_of_resolveInclude resolved)]
      cases known : documents.get? (file.workspace.locate target) with
      | some answer =>
        rw [known] at failed
        cases failed
      | none =>
        rw [known] at failed
        dsimp only at failed ⊢
        rw [failed]

/-- Any other include adds its document under its name, and what it led to is known from then on. -/
theorem loadIncludes_of_ok {file : FileContext} {header : Include}
    {documents : OrderedMap Location (Option Document)} {answer : Option Document}
    (contributed : contribution file documents.get? header = .ok answer) (rest : List Include)
    (includes : Includes) :
    ∃ later : OrderedMap Location (Option Document),
      loadIncludes file.workspace file.filename file.includeDirs (header :: rest) documents
          includes =
        loadIncludes file.workspace file.filename file.includeDirs rest later
          (answer.elim includes (includes.insert header.name)) ∧
      contribution file later.get? = contribution file documents.get? ∧
      ∀ key, later.get? key = (documents.get? key).or (readAt file key header) := by
  have lead : FileContext.firstFile file.workspace
      (FileContext.candidates file.filename file.includeDirs header.path) =
        file.resolveInclude header.path := rfl
  unfold contribution at contributed
  rw [loadIncludes, lead]
  cases resolved : file.resolveInclude header.path with
  | error failure =>
    rw [resolved] at contributed
    cases contributed
  | ok result =>
    rw [resolved] at contributed
    cases result with
    | none =>
      cases contributed
      exact ⟨documents, rfl, rfl, fun key => by simp [readAt, resolved]⟩
    | some target =>
      have found := isFile_of_resolveInclude resolved
      dsimp only at contributed ⊢
      rw [loadInclude_eq found]
      cases known : documents.get? (file.workspace.locate target) with
      | some old =>
        rw [known] at contributed
        cases contributed
        refine ⟨documents, by cases answer <;> rfl, rfl, ?_⟩
        intro key
        by_cases same : file.workspace.locate target = key
        · simp [← same, known]
        · simp [readAt, resolved, same]
      | none =>
        rw [known] at contributed
        dsimp only at contributed
        refine ⟨documents.insert (file.workspace.locate target) answer, ?_,
          contribution_insert found known contributed, ?_⟩
        · simp only [contributed]
          cases answer <;> rfl
        · intro key
          by_cases same : file.workspace.locate target = key
          · simp [readAt, resolved, ← same, known, contributed, Except.toOption]
          · simp [readAt, resolved, same, OrderedMap.get?_insert_of_ne _ _ same]

theorem contributions_cons (file : FileContext) (known : Location → Option (Option Document))
    (header : Include) (rest : List Include) :
    contributions file known (header :: rest) =
      match contribution file known header with
      | .error abort => .error abort
      | .ok answer =>
        (contributions file known rest).map (answer.map (Prod.mk header.name) :: ·) := by
  rw [contributions, List.mapM_cons]
  cases contribution file known header with
  | error abort => rfl
  | ok answer =>
    change Except.bind (contributions file known rest) _ = _
    cases contributions file known rest <;> rfl

/-- Going through the includes of a file gives the documents that they contribute, and afterwards
all that was found on the way is known. -/
theorem loadIncludes_spec (file : FileContext) (headers : List Include)
    (documents : OrderedMap Location (Option Document)) (includes : Includes) :
    let result := loadIncludes file.workspace file.filename file.includeDirs headers documents
      includes
    result.2 = (contributions file documents.get? headers).map (fun parts =>
        (parts.filterMap id).foldl (fun m entry => m.insert entry.1 entry.2) includes) ∧
      ∀ key, result.1.get? key =
        (documents.get? key).or (firstRead file documents.get? headers key) := by
  induction headers generalizing documents includes with
  | nil => exact ⟨rfl, fun key => by simp [loadIncludes, firstRead]⟩
  | cons header rest ih =>
    rw [contributions_cons]
    cases contributed : contribution file documents.get? header with
    | error abort =>
      rw [loadIncludes_of_error contributed]
      exact ⟨rfl, fun key => by simp [firstRead, contributed, Except.isOk, Except.toBool]⟩
    | ok answer =>
      -- What the first include taught changes no contribution, so the others contribute as before.
      obtain ⟨later, continued, same, learnt⟩ := loadIncludes_of_ok contributed rest includes
      obtain ⟨given, known⟩ := ih later (answer.elim includes (includes.insert header.name))
      rw [continued]
      refine ⟨?_, ?_⟩
      · rw [given, contributions, same, ← contributions]
        cases contributions file documents.get? rest with
        | error abort => rfl
        | ok parts => cases answer <;> rfl
      · intro key
        rw [known, learnt, firstRead, same, ← firstRead, Option.or_assoc]
        congr 1
        rw [firstRead, firstRead, List.takeWhile_cons_of_pos (by rw [contributed]; rfl),
          List.findSome?_cons]
        cases readAt file key header <;> rfl

/-! ### Calls one after the other -/

/-- A call that checks a file, with the disk as it is at that time. -/
structure FileCall where
  workspace : Workspace
  path : Path

namespace FileCall

/-- The file of a call before any include has been looked for. -/
def context (call : FileCall) (directories : List Path) (document : Document) : FileContext :=
  ⟨call.path.toString, document, .empty, directories, call.workspace⟩

/-- The document of the call's file, if it is the one at a location. -/
def parsedAt (call : FileCall) (key : Location) : Option Document :=
  if call.workspace.locate call.path = key then (parseFile call.workspace call.path).toOption
  else none

end FileCall

/-- A session after some calls, the latest of which comes first. -/
def afterCalls (s : Session σ) : List FileCall → Session σ
  | [] => s
  | call :: earlier => ((s.afterCalls earlier).checkFile call.workspace call.path).1

/-- The document that the latest call about the file at a location found there. -/
def lastParsed (calls : List FileCall) (key : Location) : Option Document :=
  calls.findSome? fun call => call.parsedAt key

/-- What is found at a location when an include first leads there. -/
def firstLoaded (directories : List Path) : List FileCall → Location → Option (Option Document)
  | [], _ => none
  | call :: earlier, key =>
    (firstLoaded directories earlier key).or <|
      match parseFile call.workspace call.path with
      | .ok document =>
        firstRead (call.context directories document)
          (fun other => ((lastParsed (call :: earlier) other).map some).or
            (firstLoaded directories earlier other)) document.includes key
      | .error _ => none

/-- What is known at a location while a call looks for includes: the document of the latest call
about the file there, or else what was found when an include first led there. -/
def knownDuring (directories : List Path) (call : FileCall) (earlier : List FileCall)
    (key : Location) : Option (Option Document) :=
  ((lastParsed (call :: earlier) key).map some).or (firstLoaded directories earlier key)

theorem checkFile_frame (w : Workspace) (path : Path) (s : Session σ) :
    (s.checkFile w path).1.includeDirs = s.includeDirs ∧
      (s.checkFile w path).1.finished = s.finished := by
  unfold checkFile
  split
  · exact ⟨rfl, rfl⟩
  · split
    · unfold checkDocument
      dsimp only
      split <;> exact ⟨rfl, rfl⟩
    all_goals exact ⟨rfl, rfl⟩

private theorem afterCalls_frame (s : Session σ) (calls : List FileCall) :
    (s.afterCalls calls).includeDirs = s.includeDirs ∧
      (s.afterCalls calls).finished = s.finished := by
  induction calls with
  | nil => exact ⟨rfl, rfl⟩
  | cons call earlier ih =>
    obtain ⟨directories, finished⟩ :=
      checkFile_frame call.workspace call.path (s.afterCalls earlier)
    exact ⟨directories.trans ih.1, finished.trans ih.2⟩

/-- A file without a document teaches nothing. -/
theorem documents_of_error {s : Session σ} {w : Workspace} {path : Path} {e : FileError}
    (failed : parseFile w path = .error e) : (s.checkFile w path).1.documents = s.documents := by
  unfold checkFile
  rw [failed]
  split
  · rfl
  · cases e with
    | unreadable e => cases e <;> rfl
    | undecodable e => rfl
    | parse failure => cases failure <;> rfl

/-- Checking a file that holds a document: its includes are looked up with what is known, itself
included, and all checks are shown the file with the documents of its includes. -/
theorem checkFile_of_parsed {s : Session σ} (unfinished : s.finished = false) {w : Workspace}
    {path : Path} {document : Document} (parsed : parseFile w path = .ok document) :
    let file : FileContext := ⟨path.toString, document, .empty, s.includeDirs, w⟩
    let known := (s.documents.insert (w.locate path) (some document)).get?
    let result := s.checkFile w path
    (∀ key, result.1.documents.get? key =
      (known key).or (firstRead file known document.includes key)) ∧
    match includeMap file known document.includes with
    | .error abort => result = ({ s with documents := result.1.documents }, .error abort)
    | .ok includes =>
      let walked := Checks.walk { file with includes := includes } s.checks
      result = ({ s with
        checks := walked.1
        documents := result.1.documents
        faults := s.faults ++ walked.2.faults
        diagnostics := s.diagnostics ++ walked.2.diagnostics
        filesChecked := s.filesChecked + 1 }, .ok walked.2.diagnostics) := by
  intro file known result
  obtain ⟨given, learnt⟩ := loadIncludes_spec file document.includes
    (s.documents.insert (w.locate path) (some document)) .empty
  have checked : result = s.checkDocument w path document := by
    simp only [result, checkFile, unfinished, parsed]
    rfl
  rw [checked, checkDocument]
  change (loadIncludes w path.toString s.includeDirs document.includes _ _).2 =
    includeMap file known document.includes at given
  change ∀ key, (loadIncludes w path.toString s.includeDirs document.includes
    (s.documents.insert (w.locate path) (some document)) .empty).1.get? key = _ at learnt
  cases loaded : loadIncludes w path.toString s.includeDirs document.includes
      (s.documents.insert (w.locate path) (some document)) .empty with
  | mk documents answer =>
    rw [loaded] at given learnt
    rw [← given]
    cases answer with
    | error abort => exact ⟨learnt, rfl⟩
    | ok includes => exact ⟨learnt, rfl⟩

private theorem lastParsed_cons (call : FileCall) (earlier : List FileCall) (key : Location) :
    lastParsed (call :: earlier) key = (call.parsedAt key).or (lastParsed earlier key) := by
  rw [lastParsed, List.findSome?_cons]
  cases call.parsedAt key <;> rfl

private theorem get?_insert_parsed {directories : List Path} {call : FileCall}
    {earlier : List FileCall} {documents : OrderedMap Location (Option Document)}
    (agree : ∀ key, documents.get? key =
      ((lastParsed earlier key).map some).or (firstLoaded directories earlier key))
    {document : Document} (parsed : parseFile call.workspace call.path = .ok document) :
    (documents.insert (call.workspace.locate call.path) (some document)).get? =
      knownDuring directories call earlier := by
  funext key
  rw [knownDuring, lastParsed_cons, FileCall.parsedAt, parsed]
  by_cases same : call.workspace.locate call.path = key
  · simp [← same, Except.toOption]
  · rw [OrderedMap.get?_insert_of_ne _ _ same, agree, if_neg same, Option.none_or]

/-- What a session knows after some calls. -/
theorem documents_afterCalls (checks : List (Check σ)) (directories : List Path)
    (calls : List FileCall) (key : Location) :
    (afterCalls { checks := checks, includeDirs := directories } calls).documents.get? key =
      ((lastParsed calls key).map some).or (firstLoaded directories calls key) := by
  induction calls generalizing key with
  | nil => rfl
  | cons call earlier ih =>
    obtain ⟨same, unfinished⟩ :=
      afterCalls_frame { checks := checks, includeDirs := directories } earlier
    rw [afterCalls, firstLoaded]
    cases parsed : parseFile call.workspace call.path with
    | error e =>
      have none : call.parsedAt key = none := by simp [FileCall.parsedAt, parsed, Except.toOption]
      rw [documents_of_error parsed, ih, lastParsed_cons, none, Option.none_or, Option.or_none]
    | ok document =>
      have learnt := (checkFile_of_parsed unfinished parsed).1 key
      rw [learnt, get?_insert_parsed ih parsed, same, knownDuring, Option.or_assoc]
      rfl

/-- While the disk stays as it is, what is known at a location is what is there. -/
def Faithful (w : Workspace) (known : Location → Option (Option Document)) : Prop :=
  ∀ path answer, w.isFile path = .ok true → known (w.locate path) = some answer →
    attempt w path = .ok answer

theorem faithful_empty (w : Workspace) : Faithful w OrderedMap.empty.get? := by
  rintro path answer _ ⟨⟩

/-- Then it makes no difference whether anything is known. -/
theorem Faithful.contribution (file : FileContext) {known : Location → Option (Option Document)}
    (faithful : Faithful file.workspace known) (header : Include) :
    contribution file known header = contribution file (fun _ => none) header := by
  unfold Session.contribution
  cases resolved : file.resolveInclude header.path with
  | error failure => rfl
  | ok result =>
    cases result with
    | none => rfl
    | some target =>
      dsimp only
      cases answered : known (file.workspace.locate target) with
      | none => rfl
      | some answer =>
        exact (faithful target answer (isFile_of_resolveInclude resolved) answered).symm

theorem Faithful.includeMap (file : FileContext) {known : Location → Option (Option Document)}
    (faithful : Faithful file.workspace known) (headers : List Include) :
    includeMap file known headers = includeMap file (fun _ => none) headers := by
  have same : Session.contribution file known = Session.contribution file (fun _ => none) :=
    funext (faithful.contribution file)
  rw [Session.includeMap, contributions, same]
  rfl

private theorem Faithful.or {w : Workspace} {one two : Location → Option (Option Document)}
    (first : Faithful w one) (second : Faithful w two) :
    Faithful w fun key => (one key).or (two key) := by
  intro path answer file known
  rcases Option.or_eq_some_iff.mp known with here | ⟨_, there⟩
  · exact first path answer file here
  · exact second path answer file there

/-- A document is what its file holds. -/
theorem faithful_parsed {w : Workspace} {path : Path} {document : Document}
    (parsed : parseFile w path = .ok document) :
    Faithful w fun key => if w.locate path = key then some (some document) else none := by
  intro other answer file known
  dsimp only at known
  split at known
  · rename_i same
    cases known
    rw [attempt_congr file (isFile_of_parseFile parsed) same.symm, attempt, parsed]
  · cases known

private theorem faithful_firstRead (file : FileContext) (known : Location → Option (Option Document))
    (headers : List Include) : Faithful file.workspace (firstRead file known headers) := by
  intro path answer found read
  obtain ⟨header, _, here⟩ := List.exists_of_findSome?_eq_some read
  unfold readAt at here
  split at here
  · rename_i target resolved
    split at here
    · rename_i same
      rw [attempt_congr found (isFile_of_resolveInclude resolved) same.symm]
      cases attempted : attempt file.workspace target with
      | error abort =>
        rw [attempted] at here
        cases here
      | ok other =>
        rw [attempted] at here
        cases here
        rfl
    · cases here
  · cases here

theorem Faithful.insert {w : Workspace} {documents : OrderedMap Location (Option Document)}
    (faithful : Faithful w documents.get?) {path : Path} {document : Document}
    (parsed : parseFile w path = .ok document) :
    Faithful w (documents.insert (w.locate path) (some document)).get? := by
  have split : (documents.insert (w.locate path) (some document)).get? = fun key =>
      (if w.locate path = key then some (some document) else none).or (documents.get? key) := by
    funext key
    rw [OrderedMap.get?_insert]
    split <;> rfl
  rw [split]
  exact (faithful_parsed parsed).or faithful

/-- What a call learns is what is on the disk. -/
theorem Faithful.checkFile {w : Workspace} {s : Session σ} (unfinished : s.finished = false)
    (faithful : Faithful w s.documents.get?) (path : Path) :
    Faithful w (s.checkFile w path).1.documents.get? := by
  cases parsed : parseFile w path with
  | error e =>
    rw [documents_of_error parsed]
    exact faithful
  | ok document =>
    have learnt := (checkFile_of_parsed unfinished parsed).1
    rw [funext learnt]
    exact (faithful.insert parsed).or
      (faithful_firstRead ⟨path.toString, document, .empty, s.includeDirs, w⟩ _ _)

private theorem faithful_afterCalls {s : Session σ} (unfinished : s.finished = false) {w : Workspace}
    (faithful : Faithful w s.documents.get?) {calls : List FileCall}
    (still : ∀ call ∈ calls, call.workspace = w) :
    Faithful w (s.afterCalls calls).documents.get? := by
  induction calls with
  | nil => exact faithful
  | cons call earlier ih =>
    have before := ih fun other member => still other (List.mem_cons_of_mem _ member)
    have going : (s.afterCalls earlier).finished = false :=
      (afterCalls_frame s earlier).2.trans unfinished
    rw [afterCalls, still call (List.mem_cons_self ..)]
    exact before.checkFile going call.path

/-- While a file is checked, each of its includes that leads to a file contributes the document of
the latest call about that file, the present one among them. If there was none it contributes what
was found when an include first led to the file, in an earlier call or now. That is nothing if the
file could not be read, decoded or parsed then, and a call in which the first reading fails
otherwise gives no answer. As long as the disk does not change this comes to reading every included
file anew. -/
theorem checkFile_includes (checks : List (Check σ)) (directories : List Path)
    (earlier : List FileCall) (call : FileCall) {document : Document}
    (parsed : parseFile call.workspace call.path = .ok document) :
    let s := afterCalls { checks := checks, includeDirs := directories } earlier
    let result := s.checkFile call.workspace call.path
    let file := call.context directories document
    let handed := includeMap file (knownDuring directories call earlier) document.includes
    (match handed with
      | .error abort => result.2 = .error abort ∧ result.1.checks = s.checks
      | .ok includes =>
        let walked := Checks.walk { file with includes := includes } s.checks
        result.2 = .ok walked.2.diagnostics ∧ result.1.checks = walked.1 ∧
          result.1.faults = s.faults ++ walked.2.faults) ∧
      ((∀ other ∈ earlier, other.workspace = call.workspace) →
        handed = includeMap file (fun _ => none) document.includes) := by
  intro s result file handed
  obtain ⟨same, unfinished⟩ :=
    afterCalls_frame { checks := checks, includeDirs := directories } earlier
  have known := get?_insert_parsed (documents_afterCalls checks directories earlier) parsed
  refine ⟨?_, ?_⟩
  · have spec := (checkFile_of_parsed unfinished parsed).2
    rw [known, same] at spec
    change match handed with
      | .error abort => _
      | .ok includes => _ at spec
    cases made : handed with
    | error abort =>
      rw [made] at spec
      exact ⟨congrArg Prod.snd spec, congrArg (fun result => result.1.checks) spec⟩
    | ok includes =>
      rw [made] at spec
      exact ⟨congrArg Prod.snd spec, congrArg (fun result => result.1.checks) spec,
        congrArg (fun result => result.1.faults) spec⟩
  · intro still
    have faithful : Faithful call.workspace s.documents.get? :=
      faithful_afterCalls rfl (faithful_empty _) still
    have more := faithful.insert parsed
    rw [known] at more
    exact more.includeMap file document.includes

/-- A file that includes another one, which holds some text. -/
def includingDisk (text : String) : Workspace :=
  ⟨(Disk.empty.write ["one.thrift"] (Text.encodeUtf8 "include \"two.thrift\"".toList)).write
    ["two.thrift"] (Text.encodeUtf8 text.toList), []⟩

/-- A file that was included before it was rewritten still counts with its old content. -/
theorem checkFile_includes_rewritten :
    let sooner : FileCall := ⟨includingDisk "enum Old \x7b\x7d", .ofString "one.thrift"⟩
    let later : FileCall := ⟨includingDisk "enum New \x7b\x7d", .ofString "one.thrift"⟩
    let s := afterCalls { checks := [Probe.flag "all.includes" [.include]] } [sooner]
    ∃ document includes, parseFile later.workspace later.path = .ok document ∧
      (includes.get? "two").map (·.definitions.map Definition.name) = some ["Old"] ∧
      (s.checkFile later.workspace later.path).1.checks =
        (Checks.walk { later.context [] document with includes := includes } s.checks).1 := by
  intro sooner later s
  have read : (match parseFile later.workspace later.path with
      | .ok document =>
        match includeMap (later.context [] document) (knownDuring [] later [sooner])
            document.includes with
        | .ok includes =>
          (includes.get? "two").map (·.definitions.map Definition.name) == some ["Old"]
        | .error _ => false
      | .error _ => false) = true := by
    decide +kernel
  split at read
  · rename_i document parsed
    have law :=
      (checkFile_includes [Probe.flag "all.includes" [.include]] [] [sooner] later parsed).1
    split at read
    · rename_i includes handed
      dsimp only at law
      rw [handed] at law
      exact ⟨document, includes, parsed, eq_of_beq read, law.2.1⟩
    · cases read
  · cases read

end Session

end IdlLint
