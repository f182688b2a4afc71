import IdlLint.Proofs.CycleRun
import IdlLint.Proofs.Utf8Encoding

/-! Files that include one another in a circle. A run reports a cycle exactly if there is one among
the files themselves, however they are named in the list and in the includes. -/
namespace IdlLint

open IdlLint.Schema

/-- One file includes another. The first is in the list and holds a document, one of its includes
leads to the second, and both lie in the working directory. -/
def FileIncludes (w : Workspace) (directories files : List Path) (one two : Location) : Prop :=
  ∃ path ∈ files, ∃ document, parseFile w path = .ok document ∧
    w.follow path = .ok one ∧ w.cwd <+: one ∧
    ∃ header ∈ document.includes, ∃ target,
      FileContext.resolveInclude ⟨path.toString, document, .empty, directories, w⟩ header.path =
        .ok (some target) ∧
      w.follow target = .ok two ∧ w.cwd <+: two

private theorem follow_of_parseFile {w : Workspace} {path : Path} {document : Document}
    (parsed : parseFile w path = .ok document) : ∃ location, w.follow path = .ok location := by
  cases followed : w.follow path with
  | ok location => exact ⟨location, rfl⟩
  | error e => simp [parseFile, Workspace.readBytes, Workspace.find, followed] at parsed

theorem firstFile_mem {w : Workspace} {paths : List Path} {target : Path}
    (found : FileContext.firstFile w paths = .ok (some target)) :
    target ∈ paths ∧ w.isFile target = .ok true := by
  induction paths with
  | nil => cases found
  | cons path rest ih =>
    rw [FileContext.firstFile] at found
    split at found
    · rename_i file
      cases found
      exact ⟨List.mem_cons_self .., file⟩
    · obtain ⟨member, file⟩ := ih found
      exact ⟨List.mem_cons_of_mem _ member, file⟩
    · cases found

theorem requestOf_eq_some {file : FileContext} {header : Include} {request : EdgeRequest}
    (made : ImportGraph.requestOf file header = some request) :
    ∃ target, file.resolveInclude header.path = .ok (some target) ∧
      file.workspace.relativeName file.workspace.cwd (.ofString file.filename) =
        .ok request.importer ∧
      file.workspace.relativeName file.workspace.cwd target = .ok request.importee := by
  unfold ImportGraph.requestOf at made
  dsimp only at made
  split at made
  · rename_i target resolved
    split at made
    · rename_i importer importee source goal
      cases made
      exact ⟨target, resolved, source, goal⟩
    · cases made
  · cases made

section

variable {w : Workspace} {directories files : List Path}

/-- An include that is resolved leads somewhere, along a path that is made of names. -/
theorem resolveInclude_target {file : FileContext} {name : String} {target : Path}
    (normal : ∀ directory ∈ file.includeDirs, directory.Normal)
    (resolved : file.resolveInclude name = .ok (some target)) :
    target.Normal ∧ ∃ location, file.workspace.follow target = .ok location := by
  obtain ⟨member, isFile⟩ := firstFile_mem resolved
  refine ⟨?_, Workspace.follow_of_isFile isFile⟩
  have written : (Path.ofString name).Normal := Path.normal_ofString name
  simp only [FileContext.candidates, List.mem_cons, List.mem_map] at member
  rcases member with rfl | rfl | ⟨directory, listed, rfl⟩
  · exact (Path.normal_ofString _).parent.join written
  · exact written
  · exact (normal directory listed).join written

private theorem FileIncludes.inside (normalDirectories : ∀ directory ∈ directories, directory.Normal)
    (normalFiles : ∀ path ∈ files, path.Normal) {one two : Location}
    (edge : FileIncludes w directories files one two) : w.Inside one ∧ w.Inside two := by
  obtain ⟨path, listed, document, _, source, oneInside, header, _, target, resolved, goal,
    twoInside⟩ := edge
  have normal := (resolveInclude_target normalDirectories resolved).1
  exact ⟨⟨⟨path, normalFiles path listed, source⟩, oneInside⟩, ⟨⟨target, normal, goal⟩, twoInside⟩⟩

/-- The edges that the files stand for are those between the names of files that include one
another. -/
theorem mem_requestsOf_iff (normalDirectories : ∀ directory ∈ directories, directory.Normal)
    (normalFiles : ∀ path ∈ files, path.Normal) (importer importee : String) :
    (∃ request ∈ files.flatMap (Session.requestsOf w directories),
      request.importer = importer ∧ request.importee = importee) ↔
    ∃ one two, FileIncludes w directories files one two ∧
      w.nameOf one = importer ∧ w.nameOf two = importee := by
  constructor
  · rintro ⟨request, member, rfl, rfl⟩
    obtain ⟨path, listed, asked⟩ := List.mem_flatMap.mp member
    unfold Session.requestsOf at asked
    split at asked
    · rename_i document parsed
      obtain ⟨header, inside, made⟩ := List.mem_filterMap.mp asked
      obtain ⟨target, resolved, source, goal⟩ := requestOf_eq_some made
      obtain ⟨one, first⟩ := follow_of_parseFile parsed
      obtain ⟨_, two, second⟩ := resolveInclude_target normalDirectories resolved
      rw [Path.ofString_toString (normalFiles path listed)] at source
      obtain ⟨oneInside, oneName⟩ := (Workspace.relativeName_of_follow first _).mp source
      obtain ⟨twoInside, twoName⟩ := (Workspace.relativeName_of_follow second _).mp goal
      exact ⟨one, two, ⟨path, listed, document, parsed, first, oneInside, header, inside, target,
        resolved, second, twoInside⟩, oneName, twoName⟩
    · cases asked
  · rintro ⟨one, two, ⟨path, listed, document, parsed, first, oneInside, header, inside, target,
      resolved, second, twoInside⟩, rfl, rfl⟩
    have source := (Workspace.relativeName_of_follow first _).mpr ⟨oneInside, rfl⟩
    have goal := (Workspace.relativeName_of_follow second _).mpr ⟨twoInside, rfl⟩
    refine ⟨⟨w.nameOf one, w.nameOf two, header, some path.toString⟩, ?_, rfl, rfl⟩
    refine List.mem_flatMap.mpr ⟨path, listed, ?_⟩
    rw [Session.requestsOf, parsed]
    refine List.mem_filterMap.mpr ⟨header, inside, ?_⟩
    simp only [ImportGraph.requestOf, resolved, Path.ofString_toString (normalFiles path listed),
      source, goal]

end

namespace ImportGraph

/-- The graph takes every edge that it is asked for before its report. -/
theorem accepted_ofRequests (requests : List EdgeRequest) :
    (ofRequests requests).accepted = requests := by
  induction requests using List.reverseRecOn with
  | nil => rfl
  | append_singleton requests request ih =>
    have thawed : (ofRequests requests).graph.frozen = false := by
      rw [← Bool.not_eq_true, ofRequests, GraphHistory.frozen_ofCalls]
      simp
    rw [ofRequests_concat, GraphHistory.record, request.submit_ok thawed]
    simp [ih]

private theorem edge_ofRequests (requests : List EdgeRequest) (u v : Nat) :
    Graph.Edge (ofRequests requests).graph.adjacency u v ↔ ∃ request ∈ requests,
      (ofRequests requests).number request.importer = u ∧
        (ofRequests requests).number request.importee = v := by
  rw [(invariant_ofRequests requests).edge_iff, accepted_ofRequests]

end ImportGraph

/-- A map that keeps the meeting points of edges apart makes no new cycles. -/
theorem exists_cycle_iff {α β : Type} {r : α → α → Prop} {s : β → β → Prop} (f : α → β)
    (edges : ∀ u v, s u v ↔ ∃ a b, r a b ∧ f a = u ∧ f b = v)
    (apart : ∀ {a b c d}, r a b → r c d → f b = f c → b = c) :
    (∃ u, Relation.TransGen s u u) ↔ ∃ a, Relation.TransGen r a a := by
  have lift : ∀ {u v}, Relation.TransGen s u v → ∃ a b, (∃ next, r a next) ∧
      (∃ last, r last b) ∧ Relation.TransGen r a b ∧ f a = u ∧ f b = v := by
    intro u v path
    induction path with
    | single edge =>
      obtain ⟨a, b, here, source, target⟩ := (edges _ _).mp edge
      exact ⟨a, b, ⟨b, here⟩, ⟨a, here⟩, .single here, source, target⟩
    | tail path edge ih =>
      obtain ⟨a, b, first, ⟨last, before⟩, walked, source, meeting⟩ := ih
      obtain ⟨c, d, here, same, target⟩ := (edges _ _).mp edge
      obtain rfl := apart before here (meeting.trans same.symm)
      exact ⟨a, d, first, ⟨b, here⟩, walked.tail here, source, target⟩
  constructor
  · rintro ⟨u, around⟩
    obtain ⟨a, b, ⟨next, first⟩, ⟨last, before⟩, walked, source, target⟩ := lift around
    obtain rfl := apart before first (target.trans source.symm)
    exact ⟨b, walked⟩
  · rintro ⟨a, around⟩
    exact ⟨f a, around.lift f fun one two edge => (edges _ _).mpr ⟨one, two, edge, rfl, rfl⟩⟩

/-- The numbers of files run in a circle exactly if the files do. -/
theorem hasCycle_iff {w : Workspace} {directories files : List Path}
    (normalDirectories : ∀ directory ∈ directories, directory.Normal)
    (normalFiles : ∀ path ∈ files, path.Normal) :
    Graph.HasCycle (ImportGraph.ofRequests
        (files.flatMap (Session.requestsOf w directories))).graph.adjacency ↔
      ∃ file, Relation.TransGen (FileIncludes w directories files) file file := by
  let requests := files.flatMap (Session.requestsOf w directories)
  have valid := ImportGraph.invariant_ofRequests requests
  have requested : ∀ importer importee, (∃ request ∈ requests, request.importer = importer ∧
      request.importee = importee) ↔ ∃ one two, FileIncludes w directories files one two ∧
        w.nameOf one = importer ∧ w.nameOf two = importee :=
    mem_requestsOf_iff normalDirectories normalFiles
  refine exists_cycle_iff (fun file => (ImportGraph.ofRequests requests).number (w.nameOf file))
    ?_ ?_
  · intro u v
    rw [ImportGraph.edge_ofRequests]
    constructor
    · rintro ⟨request, member, source, target⟩
      obtain ⟨one, two, edge, importer, importee⟩ :=
        (requested _ _).mp ⟨request, member, rfl, rfl⟩
      exact ⟨one, two, edge, importer ▸ source, importee ▸ target⟩
    · rintro ⟨one, two, edge, source, target⟩
      obtain ⟨request, member, importer, importee⟩ :=
        (requested _ _).mpr ⟨one, two, edge, rfl, rfl⟩
      exact ⟨request, member, importer ▸ source, importee ▸ target⟩
  · intro one two three four before after same
    obtain ⟨request, member, _, importee⟩ := (requested _ _).mpr ⟨one, two, before, rfl, rfl⟩
    have seen := (valid.seen request (by rwa [ImportGraph.accepted_ofRequests])).2
    rw [importee] at seen
    exact Workspace.nameOf_inj (before.inside normalDirectories normalFiles).2
      (after.inside normalDirectories normalFiles).1 (GraphHistory.number_inj seen same)

namespace Session

open IdlLint.Config

/-- With the check for cycles enabled, a run that comes to its end has a finding about a cycle
exactly if some file leads back to itself by one include or more; and no run ends because a cycle was
lost. -/
theorem run_cycle_iff (w : Workspace) (settings : Settings)
    (active : settings.isEnabled ImportGraph.ruleId = true) (directories names : List String) :
    let result := (Session.run w (names.map .ofString)
      { checks := Rules.enabled settings, includeDirs := directories.map .ofString }).2
    result ≠ .error (.failure .lostCycle) ∧
      ∀ outcome, result = .ok outcome →
        ((∃ d ∈ outcome.diagnostics, d.ruleId = ImportGraph.ruleId) ↔
          ∃ file, Relation.TransGen (FileIncludes w (directories.map .ofString)
            (names.map .ofString)) file file) := by
  have normal : ∀ texts : List String, ∀ path ∈ texts.map Path.ofString, path.Normal := by
    intro texts path member
    obtain ⟨text, _, rfl⟩ := List.mem_map.mp member
    exact Path.normal_ofString text
  obtain ⟨nodes, checks, ordinary⟩ := Rules.enabled_eq active
  have start : Watches { checks := Rules.enabled settings, includeDirs := directories.map .ofString }
      (directories.map .ofString) nodes [] :=
    ⟨⟨.created, rfl, checks⟩, rfl, rfl, by simp⟩
  obtain ⟨never, reported⟩ := start.run ordinary w (names.map .ofString)
  refine ⟨never, ?_⟩
  intro outcome success
  rw [reported outcome success, List.nil_append,
    hasCycle_iff (normal directories) (normal names)]

/-- Two files that include one another, one of them found through a directory for includes. -/
def twoFiles : Workspace :=
  ⟨(Disk.empty.write ["work", "one.thrift"]
      (Text.encodeUtf8 "include \"two.thrift\"".toList)).write ["work", "sub", "two.thrift"]
    (Text.encodeUtf8 "include \"../one.thrift\" enum E \x7b\x7d".toList), ["work"]⟩

theorem run_cycle_two_files :
    ({} : Settings).isEnabled ImportGraph.ruleId = true ∧
      (∃ outcome, (Session.run twoFiles (["one.thrift", "sub/two.thrift"].map .ofString)
        { checks := Rules.enabled {}, includeDirs := ["sub"].map .ofString }).2 = .ok outcome ∧
        ∃ d ∈ outcome.diagnostics, d.ruleId = ImportGraph.ruleId) ∧
      ∃ file, Relation.TransGen (FileIncludes twoFiles (["sub"].map .ofString)
        (["one.thrift", "sub/two.thrift"].map .ofString)) file file := by
  have active : ({} : Settings).isEnabled ImportGraph.ruleId = true := by decide
  have cycles := (run_cycle_iff twoFiles {} active ["sub"] ["one.thrift", "sub/two.thrift"]).2
  have reported : (match (Session.run twoFiles (["one.thrift", "sub/two.thrift"].map .ofString)
      { checks := Rules.enabled {}, includeDirs := ["sub"].map .ofString }).2 with
      | .ok outcome => outcome.diagnostics.any (·.ruleId == ImportGraph.ruleId)
      | .error _ => false) = true := by
    decide +kernel
  split at reported
  · rename_i outcome success
    obtain ⟨d, member, rule⟩ := List.any_eq_true.mp reported
    have found : ∃ d ∈ outcome.diagnostics, d.ruleId = ImportGraph.ruleId :=
      ⟨d, member, eq_of_beq rule⟩
    exact ⟨active, ⟨outcome, success, found⟩, (cycles outcome success).mp found⟩
  · cases reported

end Session

end IdlLint
