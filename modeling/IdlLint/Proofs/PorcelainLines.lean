import IdlLint.Pattern.Read
import IdlLint.Proofs.CanonicalName
import IdlLint.Proofs.FindingOrigin
import IdlLint.Proofs.Utf8Encoding

/-! A report with one line for each finding. The report has one more line for each line feed in the
texts from outside that its findings repeat. Its lines are the findings exactly if there is none. -/
namespace IdlLint

open IdlLint.Config
open IdlLint.Schema

/-! ### Lines -/

namespace Text

/-- The lines of a text. -/
def lines (text : String) : List String :=
  (text.toList.splitOn '\n').map String.ofList

private theorem length_splitOn (c : Char) (text : List Char) :
    (text.splitOn c).length = text.count c + 1 := by
  induction text with
  | nil => rfl
  | cons d rest ih =>
    rw [List.splitOn_cons_eq_if_modifyHead]
    split
    · rename_i same
      rw [List.length_cons, ih, beq_iff_eq.mp same, List.count_cons_self]
    · rename_i other
      rw [List.length_modifyHead, ih, List.count_cons_of_ne (by simpa using other)]

private theorem length_lines (text : String) : (lines text).length = lineFeeds text + 1 := by
  rw [lines, List.length_map, length_splitOn, lineFeeds]

/-- Texts that are put one to a line are their lines if each of them is on one line. -/
theorem lines_intercalate_iff {parts : List String} (nonempty : parts ≠ []) :
    lines ("\n".intercalate parts) = parts ↔ ∀ part ∈ parts, lineFeeds part = 0 := by
  constructor
  · intro same part member
    rw [← same] at member
    obtain ⟨line, split, rfl⟩ := List.mem_map.mp member
    rw [lineFeeds_eq_zero_iff, String.toList_ofList]
    exact notMem_of_mem_splitOn split
  · intro single
    have apart : ∀ line ∈ parts.map String.toList, '\n' ∉ line := by
      intro line member
      obtain ⟨part, listed, rfl⟩ := List.mem_map.mp member
      exact lineFeeds_eq_zero_iff.mp (single part listed)
    have split := List.splitOn_intercalate '\n' apart (by simpa using nonempty)
    rw [lines, String.toList_intercalate]
    change ((['\n'].intercalate _).splitOn '\n').map String.ofList = parts
    rw [split, List.map_map]
    simp

end Text

private theorem lineFeeds_join_cons (text : String) (rest : List String) :
    lineFeeds (String.join (text :: rest)) = lineFeeds text + lineFeeds (String.join rest) := by
  rw [String.join_cons, lineFeeds_append]

private theorem lineFeeds_join_eq_zero_iff {texts : List String} :
    lineFeeds (String.join texts) = 0 ↔ ∀ text ∈ texts, lineFeeds text = 0 := by
  induction texts with
  | nil => simp [lineFeeds]
  | cons text rest ih => rw [lineFeeds_join_cons, Nat.add_eq_zero_iff, ih, List.forall_mem_cons]

/-- The line feeds between some texts come on top of those in them. -/
theorem lineFeeds_rows {parts : List String} (nonempty : parts ≠ []) :
    lineFeeds ("\n".intercalate parts) + 1 = parts.length + lineFeeds (String.join parts) := by
  induction parts with
  | nil => exact absurd rfl nonempty
  | cons part rest ih =>
    cases rest with
    | nil => simp [lineFeeds, Nat.add_comm]
    | cons next more =>
      have later := ih (List.cons_ne_nil _ _)
      have feed : lineFeeds "\n" = 1 := by decide
      rw [String.intercalate_cons_cons, lineFeeds_append, lineFeeds_append, feed, lineFeeds_join_cons,
        List.length_cons]
      omega

/-! ### Findings -/

variable {w : Workspace} {settings : Settings} {directories files : List Path}

private theorem Diagnostic.lineFeeds_render (d : Diagnostic) : lineFeeds d.render =
    lineFeeds d.filename + lineFeeds d.severity + lineFeeds d.message + lineFeeds d.ruleId := by
  have colon : lineFeeds ":" = 0 := lineFeeds_literal rfl
  have gap : lineFeeds ": " = 0 := lineFeeds_literal rfl
  have opening : lineFeeds " (" = 0 := lineFeeds_literal rfl
  have closing : lineFeeds ")" = 0 := lineFeeds_literal rfl
  simp only [render, lineFeeds_append, lineFeeds_int, colon, gap, opening, closing, Nat.add_zero]

/-- A finding has the line feeds of what it repeats, and no others. -/
theorem Repeats.lineFeeds_render {d : Diagnostic} {texts : List String}
    (repeats : Repeats w settings directories files d texts) :
    lineFeeds d.render = lineFeeds (String.join texts) := by
  have grade : lineFeeds Diagnostic.errorSeverity = 0 := lineFeeds_literal rfl
  have none : lineFeeds (String.join []) = 0 := by simp [lineFeeds]
  rw [Diagnostic.lineFeeds_render]
  cases repeats with
  | plain listed position rule grade words =>
    simp only [Diagnostic.placed, rule, grade, words, lineFeeds_join_cons, none]
  | @restricted path listed document parsed header present =>
    have rule : lineFeeds "include.restricted" = 0 := lineFeeds_literal rfl
    have opening : lineFeeds "\"" = 0 := lineFeeds_literal rfl
    have closing : lineFeeds "\" is a restricted import" = 0 := lineFeeds_literal rfl
    simp only [Diagnostic.placed, lineFeeds_append, rule, grade, opening, closing, lineFeeds_join_cons,
      none, Nat.add_zero, Nat.zero_add]
  | @mismatched path listed document parsed scope present pattern known =>
    -- The language is written as a word; only the name can come from a literal.
    obtain ⟨visit, member, shown⟩ := exists_visit_header present
    have language : lineFeeds scope.language = 0 :=
      words_of_parseFile parsed visit member _ (by simp [shown, Header.toNode, Node.words])
    have rule : lineFeeds "namespace.patterns" = 0 := lineFeeds_literal rfl
    have quote : lineFeeds "\"" = 0 := lineFeeds_literal rfl
    have between : lineFeeds "\" does not match the pattern \"" = 0 := lineFeeds_literal rfl
    have after : lineFeeds "\" for namespace scope \"" = 0 := lineFeeds_literal rfl
    simp only [Diagnostic.placed, Rules.patternMessage, lineFeeds_append, language, rule, grade, quote,
      between, after, lineFeeds_join_cons, none, Nat.add_zero, Nat.zero_add]
  | @circular request asked index count =>
    have rule : lineFeeds ImportGraph.ruleId = 0 := lineFeeds_literal rfl
    have opening : lineFeeds "circular include (" = 0 := lineFeeds_literal rfl
    have slash : lineFeeds "/" = 0 := lineFeeds_literal rfl
    have colon : lineFeeds "): " = 0 := lineFeeds_literal rfl
    have arrow : lineFeeds " -> " = 0 := lineFeeds_literal rfl
    have spelled : lineFeeds " (included as \"" = 0 := lineFeeds_literal rfl
    have closing : lineFeeds "\")" = 0 := lineFeeds_literal rfl
    simp only [EdgeRequest.finding, Diagnostic.placed, lineFeeds_append, lineFeeds_nat, rule, grade,
      opening, slash, colon, arrow, spelled, closing, lineFeeds_join_cons, none, Nat.add_zero,
      Nat.zero_add, Nat.add_assoc]

/-- What the findings of a report have line feeds from, taken together. -/
theorem lineFeeds_renderings {found : List Diagnostic} {outside : List (List String)}
    (told : List.Forall₂ (Repeats w settings directories files) found outside) :
    lineFeeds (String.join (found.map Diagnostic.render)) = lineFeeds (String.join outside.flatten) := by
  induction told with
  | nil => rfl
  | cons here _ ih =>
    rw [List.map_cons, lineFeeds_join_cons, here.lineFeeds_render, ih, List.flatten_cons,
      String.join_append, lineFeeds_append]

private theorem exists_forall₂ {α β : Type} {R : α → β → Prop} {items : List α}
    (each : ∀ a ∈ items, ∃ b, R a b) : ∃ others, List.Forall₂ R items others := by
  induction items with
  | nil => exact ⟨[], .nil⟩
  | cons a rest ih =>
    obtain ⟨⟨b, here⟩, later⟩ := List.forall_mem_cons.mp each
    obtain ⟨others, matched⟩ := ih later
    exact ⟨b :: others, .cons here matched⟩

/-! ### Names of files -/

/-- A file is called by components of the path that leads to it. -/
theorem Workspace.lineFeeds_relativeName {path : Path} {name : String}
    (named : w.relativeName w.cwd path = .ok name)
    (plain : ∀ part ∈ path.parts, lineFeeds part = 0) : lineFeeds name = 0 := by
  unfold relativeName at named
  split at named
  · cases named
  · rename_i location located
    split at named
    · cases named
      rw [lineFeeds_eq_zero_iff, Path.mem_toString_iff (by decide) (by decide)]
      rintro ⟨part, below, inside⟩
      have listed := (sublist_of_locateExisting located).subset below
      exact lineFeeds_eq_zero_iff.mp (plain part listed) inside
    · cases named

private theorem Path.lineFeeds_toString {path : Path} :
    lineFeeds path.toString = 0 ↔ ∀ part ∈ path.parts, lineFeeds part = 0 := by
  simp only [lineFeeds_eq_zero_iff]
  rw [mem_toString_iff (by decide) (by decide)]
  exact ⟨fun plain part member inside => plain ⟨part, member, inside⟩,
    fun plain ⟨part, member, inside⟩ => plain part member inside⟩

private theorem Path.lineFeeds_ofString {text : String} (plain : lineFeeds text = 0) :
    ∀ part ∈ (ofString text).parts, lineFeeds part = 0 := by
  intro part member
  rw [lineFeeds_eq_zero_iff] at plain ⊢
  exact fun inside => plain (mem_of_mem_ofString member inside)

private theorem Path.lineFeeds_join {p q : Path} (first : ∀ part ∈ p.parts, lineFeeds part = 0)
    (second : ∀ part ∈ q.parts, lineFeeds part = 0) : ∀ part ∈ (p.join q).parts, lineFeeds part = 0 := by
  unfold join
  split
  · exact second
  · exact List.forall_mem_append.mpr ⟨first, second⟩

/-- What an include is resolved to has a path made of the file's, the include's and a directory's. -/
theorem FileContext.lineFeeds_resolveInclude {file : FileContext} {text : String} {target : Path}
    (resolved : file.resolveInclude text = .ok (some target)) (name : lineFeeds file.filename = 0)
    (plain : lineFeeds text = 0)
    (directories : ∀ directory ∈ file.includeDirs, lineFeeds directory.toString = 0) :
    ∀ part ∈ target.parts, lineFeeds part = 0 := by
  have last := Path.lineFeeds_ofString plain
  have whole := Path.lineFeeds_ofString name
  rcases List.mem_cons.mp (firstFile_mem resolved).1 with rfl | other
  · exact Path.lineFeeds_join (fun part member => whole part (List.dropLast_subset _ member)) last
  · rcases List.mem_cons.mp other with rfl | searched
    · exact last
    · obtain ⟨directory, listed, rfl⟩ := List.mem_map.mp searched
      exact Path.lineFeeds_join (Path.lineFeeds_toString.mp (directories directory listed)) last

private theorem requestOf_origin {file : FileContext} {header : Include} {request : EdgeRequest}
    (made : ImportGraph.requestOf file header = some request) :
    request.header = header ∧ request.filename = some file.filename := by
  unfold ImportGraph.requestOf at made
  dsimp only at made
  split at made
  · split at made
    · cases made
      exact ⟨rfl, rfl⟩
    · cases made
  · cases made

/-- None of the texts that a run can repeat goes over the end of a line: the names of the files and
directories, the patterns, and what the files say in string literals of their headers. -/
structure Unbroken (w : Workspace) (settings : Settings) (directories files : List Path) : Prop where
  filenames : ∀ path ∈ files, lineFeeds path.toString = 0
  folders : ∀ directory ∈ directories, lineFeeds directory.toString = 0
  patterns : ∀ pattern ∈ settings.namespacePatterns, lineFeeds pattern.pattern = 0
  includes : ∀ path ∈ files, ∀ document, parseFile w path = .ok document →
    ∀ header ∈ document.includes, lineFeeds header.path = 0
  scopes : ∀ path ∈ files, ∀ document, parseFile w path = .ok document →
    ∀ scope, .scope scope ∈ document.headers → lineFeeds scope.name = 0

namespace Unbroken

variable (unbroken : Unbroken w settings directories files)
include unbroken

private theorem request {request : EdgeRequest}
    (asked : request ∈ files.flatMap (Session.requestsOf w directories)) :
    ∀ text ∈ [request.site.filename, request.importer, request.importee, request.header.path],
      lineFeeds text = 0 := by
  obtain ⟨path, listed, among⟩ := List.mem_flatMap.mp asked
  have name := unbroken.filenames path listed
  unfold Session.requestsOf at among
  split at among
  · rename_i document parsed
    obtain ⟨header, present, made⟩ := List.mem_filterMap.mp among
    have plain := unbroken.includes path listed document parsed header present
    obtain ⟨target, resolved, source, goal⟩ := requestOf_eq_some made
    obtain ⟨rfl, file⟩ := requestOf_origin made
    have importer := Workspace.lineFeeds_relativeName source (Path.lineFeeds_ofString name)
    have importee := Workspace.lineFeeds_relativeName goal
      (FileContext.lineFeeds_resolveInclude resolved name plain unbroken.folders)
    have site : lineFeeds request.site.filename = 0 := by
      rw [EdgeRequest.site, file, Option.filter]
      -- A file with an empty name would be called by the name of the importer.
      split
      · exact name
      · exact importer
    simpa using ⟨site, importer, importee, plain⟩
  · cases among

private theorem texts {d : Diagnostic} {texts : List String}
    (repeats : Repeats w settings directories files d texts) : ∀ text ∈ texts, lineFeeds text = 0 := by
  cases repeats with
  | plain listed position rule grade words => simpa using unbroken.filenames _ listed
  | restricted listed parsed present =>
    simpa using ⟨unbroken.filenames _ listed, unbroken.includes _ listed _ parsed _ present⟩
  | mismatched listed parsed present known =>
    simpa using ⟨unbroken.filenames _ listed, unbroken.scopes _ listed _ parsed _ present,
      unbroken.patterns _ known⟩
  | circular asked index count => exact unbroken.request asked

private theorem outside {found : List Diagnostic} {outside : List (List String)}
    (told : List.Forall₂ (Repeats w settings directories files) found outside) :
    ∀ texts ∈ outside, ∀ text ∈ texts, lineFeeds text = 0 := by
  induction told with
  | nil => exact List.forall_mem_nil _
  | cons here _ ih => exact List.forall_mem_cons.mpr ⟨unbroken.texts here, ih⟩

end Unbroken

/-! ### Reports -/

namespace Report

private theorem length_lines_porcelain {report : Report} (found : report.entries ≠ []) :
    (Text.lines report.porcelain).length =
      report.entries.length + lineFeeds (String.join (report.entries.map Diagnostic.render)) := by
  have nonempty : report.entries.map Diagnostic.render ≠ [] := by simpa using found
  rw [Text.length_lines, porcelain, lineFeeds_rows nonempty, List.length_map]

private theorem lines_porcelain_iff {report : Report} (found : report.entries ≠ []) :
    Text.lines report.porcelain = report.entries.map Diagnostic.render ↔
      lineFeeds (String.join (report.entries.map Diagnostic.render)) = 0 := by
  rw [porcelain, Text.lines_intercalate_iff (by simpa using found), lineFeeds_join_eq_zero_iff]

/-- A report of a run has a line for each finding, and one more for each line feed in the texts from
outside that its findings repeat. Its lines are the findings exactly if these texts have none, as
they have if nothing that they are taken from has any. -/
theorem porcelain_lines {w : Workspace} {settings : Settings} {includeDirs : Option (List Path)}
    {paths : List Path} {report : Report} (ended : lint w settings includeDirs paths = .ok report)
    (found : report.entries ≠ []) :
    let directories := includeDirs.getD (settings.includes.map .ofString)
    let lines := Text.lines report.porcelain
    let renderings := report.entries.map Diagnostic.render
    ∃ files outside, collectFiles w paths = .ok files ∧
      List.Forall₂ (Repeats w settings directories files) report.entries outside ∧
      lines.length = report.entries.length + lineFeeds (String.join outside.flatten) ∧
      (lines = renderings ↔ ∀ texts ∈ outside, ∀ text ∈ texts, '\n' ∉ text.toList) ∧
      (Unbroken w settings directories files → lines = renderings) := by
  intro directories lines renderings
  obtain ⟨files, collected, each⟩ := originates_lint ended
  obtain ⟨outside, told⟩ := exists_forall₂ each
  have total := lineFeeds_renderings told
  have exactly : lines = renderings ↔ ∀ texts ∈ outside, ∀ text ∈ texts, lineFeeds text = 0 := by
    rw [lines_porcelain_iff found, total, lineFeeds_join_eq_zero_iff, List.forall_mem_flatten]
  refine ⟨files, outside, collected, told, ?_, ?_, ?_⟩
  · rw [length_lines_porcelain found, total]
  · simpa only [lineFeeds_eq_zero_iff] using exactly
  · intro unbroken
    exact exactly.mpr (unbroken.outside told)

/-- Two files that include one another, and one that is not there. -/
theorem porcelain_lines_twoFiles :
    let paths := ["one.thrift", "none.thrift", "sub/two.thrift"].map Path.ofString
    let directories := ["sub"].map Path.ofString
    ∃ report, lint Session.twoFiles {} (some directories) paths = .ok report ∧
      report.entries.length = 3 ∧
      Text.lines report.porcelain = report.entries.map Diagnostic.render := by
  intro paths directories
  have ran : (lint Session.twoFiles {} (some directories) paths).toOption.any (fun report =>
      report.entries.length == 3) = true := by
    decide +kernel
  obtain ⟨report, returned, size⟩ := Session.exists_ok_of_any ran
  have size := eq_of_beq size
  have found : report.entries ≠ [] := fun empty => by simp [empty] at size
  have known : (collectFiles Session.twoFiles paths).toOption.any (· == paths) = true := by
    decide +kernel
  obtain ⟨names, listed, same⟩ := Session.exists_ok_of_any known
  obtain ⟨files, _, collected, _, _, _, whole⟩ := porcelain_lines returned found
  obtain rfl : files = paths :=
    Except.ok.inj (collected.symm.trans (listed.trans (congrArg _ (eq_of_beq same))))
  have read : (paths.all fun path => (parseFile Session.twoFiles path).toOption.all fun document =>
      document.includes.all (fun header => lineFeeds header.path == 0) &&
        document.headers.all fun header => header.toNode.kind != .scope) = true := by
    decide +kernel
  have each : ∀ path ∈ paths, ∀ document, parseFile Session.twoFiles path = .ok document →
      (∀ header ∈ document.includes, lineFeeds header.path = 0) ∧
        ∀ scope, .scope scope ∉ document.headers := by
    intro path member document parsed
    have checked := List.all_eq_true.mp read path member
    simp only [parsed, Except.toOption, Option.all_some, Bool.and_eq_true, List.all_eq_true] at checked
    exact ⟨fun header present => eq_of_beq (checked.1 header present),
      fun scope present => absurd (checked.2 _ present) (by simp [Header.toNode, Node.kind])⟩
  refine ⟨report, returned, size, whole ⟨by decide +kernel, by decide +kernel, ?_, ?_, ?_⟩⟩
  · exact List.forall_mem_nil _
  · exact fun path member document parsed => (each path member document parsed).1
  · exact fun path member document parsed scope present =>
      absurd present ((each path member document parsed).2 scope)

/-- A file whose package has a name of two lines. -/
def twoLines : Workspace :=
  let text := "namespace * \"x\\nb.thrift:1:1: error: forged (x)\""
  ⟨Disk.empty.write ["a.thrift"] (Text.encodeUtf8 text.toList), []⟩

/-- The one finding about the file takes two lines, and the second one looks like a finding about
another file. -/
theorem porcelain_twoLines :
    ∃ regex, Pattern.Regex.ofPattern "^c$".toList = .ok regex ∧
      ∃ report, lint twoLines { namespacePatterns := [⟨"*", "^c$", regex⟩] } none
          [.ofString "a.thrift"] = .ok report ∧
        report.entries.length = 1 ∧
        Text.lines report.porcelain = ["a.thrift:1:1: error: \"x",
          "b.thrift:1:1: error: forged (x)\" does not match the pattern \"^c$\" for namespace scope " ++
            "\"*\" (namespace.patterns)"] := by
  have shown : (Pattern.Regex.ofPattern "^c$".toList).toOption.any (fun regex =>
      (lint twoLines { namespacePatterns := [⟨"*", "^c$", regex⟩] } none
          [.ofString "a.thrift"]).toOption.any fun report =>
        report.entries.length == 1 &&
          Text.lines report.porcelain == ["a.thrift:1:1: error: \"x",
            "b.thrift:1:1: error: forged (x)\" does not match the pattern \"^c$\" for namespace scope " ++
              "\"*\" (namespace.patterns)"]) = true := by
    decide +kernel
  obtain ⟨regex, compiled, linted⟩ := Session.exists_ok_of_any shown
  obtain ⟨report, returned, lines⟩ := Session.exists_ok_of_any linted
  rw [Bool.and_eq_true, beq_iff_eq, beq_iff_eq] at lines
  exact ⟨regex, compiled, report, returned, lines.1, lines.2⟩

end Report

end IdlLint
