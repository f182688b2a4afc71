import IdlLint.Proofs.JsonWriting
import IdlLint.Proofs.NumeralText
import IdlLint.Report.Basic
import Mathlib.Data.List.Basic

/-! A report as nested data, read back. A reader of the notation gets every finding with all that was
known of it, in order, and the counts of the summary, as long as no text holds two halves of a pair
that follow each other; so two such reports with one text agree. -/
namespace IdlLint.Report

open IdlLint.Report.Json (Value Denotes IsToken IsAscii isBare isLead paired Unpaired)

/-! ### Numbers -/

/-- The words for numbers that have no digits. -/
inductive IsWord : List Char → Prop where
  | undefined : IsWord ['N', 'a', 'N']
  | infinite : IsWord ['I', 'n', 'f', 'i', 'n', 'i', 't', 'y']
  | negative : IsWord ['-', 'I', 'n', 'f', 'i', 'n', 'i', 't', 'y']

def IsNumberOrWord (text : List Char) : Prop :=
  IsNumber text ∨ IsWord text

private theorem isBare_digits {run : List Char} (digits : ∀ c ∈ run, c.isDigit = true) :
    ∀ c ∈ run, isBare c = true := by
  intro c member
  simp [isBare, digits c member]

private theorem isBare_fraction {part : List Char} (fraction : part = [] ∨ IsFraction part) :
    ∀ c ∈ part, isBare c = true := by
  rcases fraction with rfl | ⟨run, rfl, -, digits⟩
  · exact List.forall_mem_nil _
  · exact List.forall_mem_cons.mpr ⟨by decide, isBare_digits digits⟩

private theorem isBare_exponent {power : List Char} (exponent : power = [] ∨ IsExponent power) :
    ∀ c ∈ power, isBare c = true := by
  rcases exponent with rfl | ⟨e, sign, run, rfl, mark, signed, -, digits⟩
  · exact List.forall_mem_nil _
  · have first : isBare e = true := by rcases mark with rfl | rfl <;> decide
    have second : ∀ c ∈ sign, isBare c = true := by
      rcases signed with rfl | rfl | rfl <;> simp [isBare]
    exact List.forall_mem_cons.mpr
      ⟨first, List.forall_mem_append.mpr ⟨second, isBare_digits digits⟩⟩

private theorem isToken_magnitude {text : List Char} (magnitude : IsMagnitude text) :
    IsToken text ∧ ∃ c rest, text = c :: rest ∧ c.isDigit = true := by
  obtain ⟨whole, part, power, rfl, front, fraction, exponent⟩ := magnitude
  have behind : ∀ c ∈ part ++ power, isBare c = true :=
    List.forall_mem_append.mpr ⟨isBare_fraction fraction, isBare_exponent exponent⟩
  have digits : ∀ c ∈ whole, c.isDigit = true := by
    cases front with
    | zero => simp
    | digits digit _ more => exact List.forall_mem_cons.mpr ⟨digit, more⟩
  have first : ∃ c rest, whole = c :: rest := by
    cases front with
    | zero => exact ⟨_, _, rfl⟩
    | digits => exact ⟨_, _, rfl⟩
  obtain ⟨c, rest, rfl⟩ := first
  have digit := digits c (List.mem_cons_self ..)
  refine ⟨⟨?_, c, _, rfl, by simp [isLead, digit]⟩, c, _, rfl, digit⟩
  exact List.forall_mem_append.mpr ⟨isBare_digits digits, behind⟩

private theorem isToken_numberOrWord (text : List Char) (spelled : IsNumberOrWord text) :
    IsToken text := by
  rcases spelled with (magnitude | ⟨body, rfl, magnitude⟩) | word
  · exact (isToken_magnitude magnitude).1
  · have token := (isToken_magnitude magnitude).1
    exact ⟨List.forall_mem_cons.mpr ⟨by decide, token.bare⟩, '-', body, rfl, by decide⟩
  · cases word with
    | undefined | infinite | negative => exact ⟨by simp [isBare], _, _, rfl, by decide⟩

private theorem IsWord.not_isNumber {text : List Char} (word : IsWord text) : ¬ IsNumber text := by
  have unsigned : ∀ text, (∃ c ∈ text.head?, c = 'N' ∨ c = 'I' ∨ c = '-') → ¬ IsMagnitude text := by
    rintro text ⟨c, first, letter⟩ magnitude
    obtain ⟨-, d, rest, rfl, digit⟩ := isToken_magnitude magnitude
    obtain rfl : d = c := Option.some.inj first
    rcases letter with rfl | rfl | rfl <;> exact absurd digit (by decide)
  rintro (magnitude | ⟨body, signed, magnitude⟩)
  · cases word with
    | undefined | infinite | negative => exact unsigned _ (by simp) magnitude
  · cases word with
    | undefined | infinite => cases signed
    | negative =>
      cases signed
      exact unsigned _ (by simp) magnitude

private theorem isWord_render {x : Binary64} (infinite : x.isFinite = false) :
    IsWord (x.render jsonStyle).toList := by
  unfold Binary64.render
  by_cases undefined : x.isNaN = true
  · simp only [undefined, if_true]
    exact .undefined
  · have unbounded : x.isInfinite = true := by
      simpa [Binary64.isFinite, undefined] using infinite
    simp only [undefined, unbounded, if_true, Bool.false_eq_true, if_false, String.toList_append]
    by_cases negative : x.isNegative = true
    · simp only [negative, if_true]
      exact .negative
    · simp only [negative, Bool.false_eq_true, if_false]
      exact .infinite

private theorem isNumberOrWord_render (x : Binary64) :
    IsNumberOrWord (x.render jsonStyle).toList := by
  cases finite : x.isFinite with
  | true => exact .inl (x.isNumber_render jsonStyle finite)
  | false => exact .inr (isWord_render finite)

/-! ### Reading -/

/-- What a report tells apart from the time taken. -/
@[ext] structure Digest where
  diagnostics : List (Diagnostic CodeText)
  faults : List (Diagnostic CodeText)
  checksRun : Int
  filesChecked : Int
  errorCount : Int
  warningCount : Int
  faultCount : Int

def digest (r : Report CodeText) : Digest where
  diagnostics := r.diagnostics
  faults := r.faults
  checksRun := r.checksRun
  filesChecked := r.filesChecked
  errorCount := r.errorCount
  warningCount := r.warningCount
  faultCount := r.faults.length

/-- The same with texts as they are read. -/
def Digest.paired (d : Digest) : Digest :=
  { d with
    diagnostics := d.diagnostics.map (Diagnostic.map Json.paired)
    faults := d.faults.map (Diagnostic.map Json.paired) }

/-- The member of an object that has a name. -/
def member? (name : String) : Value → Option Value
  | .object members => (members.find? fun entry => entry.1 == Text.points name).map Prod.snd
  | _ => none

def text? (name : String) (value : Value) : Option CodeText :=
  match member? name value with
  | some (.text text) => some text
  | _ => none

def integer? (name : String) (value : Value) : Option Int :=
  match member? name value with
  | some (.number numeral) => integerOf numeral
  | _ => none

def diagnostic? (value : Value) : Option (Diagnostic CodeText) := do
  return {
    filename := ← text? "file" value
    line := ← integer? "line" value
    column := ← integer? "column" value
    ruleId := ← text? "rule_id" value
    severity := ← text? "severity" value
    message := ← text? "message" value }

def diagnostics? (name : String) (value : Value) : Option (List (Diagnostic CodeText)) :=
  match member? name value with
  | some (.array items) => items.mapM diagnostic?
  | _ => none

/-- What a reader of a report takes from it. -/
def digest? (value : Value) : Option Digest := do
  let summary ← member? "summary" value
  return {
    diagnostics := ← diagnostics? "diagnostics" value
    faults := ← diagnostics? "faults" value
    checksRun := ← integer? "checks_run" summary
    filesChecked := ← integer? "files_checked" summary
    errorCount := ← integer? "errors" summary
    warningCount := ← integer? "warnings" summary
    faultCount := ← integer? "faults" summary }

private theorem points_inj {s t : String} : Text.points s = Text.points t ↔ s = t := by
  have injective : Function.Injective Text.point :=
    fun c d same => Char.toNat_inj.mp (Fin.mk.inj same)
  rw [Text.points, Text.points, (List.map_injective_iff.mpr injective).eq_iff, String.toList_inj]

private theorem beq_points (s t : String) : (Text.points s == Text.points t) = (s == t) := by
  rw [Bool.eq_iff_iff, beq_iff_eq, beq_iff_eq, points_inj]

private theorem diagnostic?_diagnosticJson (d : Diagnostic CodeText) :
    diagnostic? (diagnosticJson d).toValue = some (d.map paired) := by
  simp [diagnostic?, diagnosticJson, integer, Json.toValue, Json.toMembers, text?, integer?,
    member?, integerOf_repr, beq_points, Diagnostic.map]

private theorem mapM_diagnostic? (diagnostics : List (Diagnostic CodeText)) :
    (Json.toValues (diagnostics.map diagnosticJson)).mapM diagnostic? =
      some (diagnostics.map (Diagnostic.map paired)) := by
  induction diagnostics with
  | nil => rfl
  | cons d rest ih =>
    simp only [List.map_cons, Json.toValues, List.mapM_cons, diagnostic?_diagnosticJson, ih]
    rfl

private theorem digest?_toJson (r : Report CodeText) :
    digest? r.toJson.toValue = some r.digest.paired := by
  simp [digest?, digest, Digest.paired, toJson, integer, Json.toValue, Json.toMembers, diagnostics?,
    integer?, member?, integerOf_repr, mapM_diagnostic?, beq_points]

/-! ### Texts that are read as they were -/

/-- The texts of the findings and of the faults. -/
def texts (r : Report CodeText) : List CodeText :=
  (r.diagnostics ++ r.faults).flatMap fun d => [d.filename, d.ruleId, d.severity, d.message]

private theorem map_paired_eq_self_iff (diagnostics : List (Diagnostic CodeText)) :
    diagnostics.map (Diagnostic.map paired) = diagnostics ↔
      ∀ text ∈ diagnostics.flatMap fun d => [d.filename, d.ruleId, d.severity, d.message],
        Unpaired text := by
  induction diagnostics with
  | nil => simp
  | cons d rest ih =>
    have here : d.map paired = d ↔ ∀ text ∈ [d.filename, d.ruleId, d.severity, d.message],
        Unpaired text := by
      obtain ⟨filename, line, column, ruleId, severity, message⟩ := d
      simp only [Diagnostic.map, Diagnostic.mk.injEq, Json.paired_eq_self_iff, true_and,
        List.forall_mem_cons, List.not_mem_nil, false_implies, implies_true, and_true]
    rw [List.map_cons, List.cons.injEq, here, ih, List.flatMap_cons, List.forall_mem_append]

private theorem paired_digest_eq_iff (r : Report CodeText) :
    r.digest.paired = r.digest ↔ ∀ text ∈ r.texts, Unpaired text := by
  rw [texts, List.flatMap_append, List.forall_mem_append, ← map_paired_eq_self_iff,
    ← map_paired_eq_self_iff, Digest.ext_iff]
  simp [digest, Digest.paired]

/-- Texts of characters are read as they were. -/
theorem unpaired_encode (r : Report) : ∀ text ∈ r.encode.texts, Unpaired text := by
  intro text member
  simp only [texts, encode, ← List.map_append, List.mem_flatMap, List.mem_map] at member
  obtain ⟨_, ⟨d, -, rfl⟩, field⟩ := member
  obtain ⟨s, rfl⟩ : ∃ s : String, text = Text.points s := by
    simp only [Diagnostic.map, List.mem_cons, List.not_mem_nil, or_false] at field
    rcases field with rfl | rfl | rfl | rfl <;> exact ⟨_, rfl⟩
  exact Json.unpaired_points s

/-! ### The text -/

private theorem numerals_diagnostics {p : List Char → Prop}
    (integers : ∀ n : Int, p (toString n).toList) (diagnostics : List (Diagnostic CodeText)) :
    ∀ written ∈ Value.numeralsIn (Json.toValues (diagnostics.map diagnosticJson)), p written := by
  induction diagnostics with
  | nil => exact List.forall_mem_nil _
  | cons d rest ih =>
    rw [List.map_cons, Json.toValues, Value.numeralsIn]
    refine List.forall_mem_append.mpr ⟨?_, ih⟩
    simp only [diagnosticJson, integer, Json.toValue, Json.toMembers, Value.numerals,
      Value.numeralsOf, List.nil_append, List.cons_append, List.forall_mem_cons]
    exact ⟨integers _, integers _, List.forall_mem_nil _⟩

/-- The numbers in a report are integers, and the time taken. -/
theorem forall_numerals {p : List Char → Prop} {r : Report CodeText}
    (integers : ∀ n : Int, p (toString n).toList) (time : p (r.elapsed.render jsonStyle).toList) :
    ∀ written ∈ r.toJson.toValue.numerals, p written := by
  have found := numerals_diagnostics integers r.diagnostics
  have failed := numerals_diagnostics integers r.faults
  simp only [toJson, integer, Json.toValue, Json.toMembers, Value.numerals, Value.numeralsOf,
    List.forall_mem_append, List.forall_mem_cons, List.append_nil]
  exact ⟨found, failed, ⟨integers _, List.forall_mem_nil _⟩, ⟨integers _, List.forall_mem_nil _⟩,
    ⟨integers _, List.forall_mem_nil _⟩, ⟨integers _, List.forall_mem_nil _⟩,
    ⟨integers _, List.forall_mem_nil _⟩, time, List.forall_mem_nil _⟩

private theorem elapsed_mem_numerals (r : Report CodeText) :
    (r.elapsed.render jsonStyle).toList ∈ r.toJson.toValue.numerals := by
  simp [toJson, Json.toValue, Json.toMembers, Value.numerals, Value.numeralsOf]

private theorem json_eq_ok_iff {r : Report CodeText} {text : String} :
    r.json = .ok text ↔
      (∀ n ∈ r.integers, isWritable n = true) ∧ text.toList = r.toJson.write 0 := by
  rw [← String.toList_ofList (l := r.toJson.write 0), String.toList_inj, ← List.all_eq_true, json]
  split
  · rename_i writable
    simp [writable, Json.render, eq_comm]
  · rename_i long
    simp [long]

private theorem denotes_json (r : Report CodeText) :
    Denotes IsNumberOrWord r.toJson.toValue (r.toJson.write 0) := by
  apply Json.denotes_write
  exact forall_numerals (fun n => .inl (isNumber_toString n)) (isNumberOrWord_render r.elapsed)

/-- A reader that also takes the words for numbers without digits. -/
theorem denotes_json_iff (r : Report CodeText) (value : Value) :
    Denotes IsNumberOrWord value (r.toJson.write 0) ↔ value = r.toJson.toValue := by
  constructor
  · intro denotes
    exact r.denotes_json.unique isToken_numberOrWord denotes
  · rintro rfl
    exact r.denotes_json

/-- A reader that keeps to numbers accepts the text exactly if the time taken is one. -/
theorem denotes_number_iff (r : Report CodeText) (value : Value) :
    Denotes IsNumber value (r.toJson.write 0) ↔
      r.elapsed.isFinite = true ∧ value = r.toJson.toValue := by
  constructor
  · rintro ⟨start, behind, blank, reads, ends⟩
    have wider : Json.Reads IsNumberOrWord (.value value) start behind :=
      reads.mono fun written number => .inl number
    have same := (r.denotes_json_iff value).mp ⟨start, behind, blank, wider, ends⟩
    refine ⟨?_, same⟩
    subst same
    have number := reads.numerals _ r.elapsed_mem_numerals
    by_contra infinite
    exact (isWord_render (Bool.eq_false_iff.mpr infinite)).not_isNumber number
  · rintro ⟨finite, rfl⟩
    apply Json.denotes_write
    exact forall_numerals isNumber_toString (r.elapsed.isNumber_render jsonStyle finite)

private theorem isAscii_json (r : Report CodeText) : IsAscii (r.toJson.write 0) := by
  apply Json.isAscii_write
  apply forall_numerals
  · exact fun n => (isToken_numberOrWord _ (.inl (isNumber_toString n))).isAscii
  · exact (isToken_numberOrWord _ (isNumberOrWord_render r.elapsed)).isAscii

private theorem errors_add_warnings (r : Report CodeText) :
    r.errorCount + r.warningCount = r.diagnostics.length := by
  rw [errorCount, warningCount, List.length_eq_countP_add_countP fun d : Diagnostic CodeText =>
    d.severity == Text.points Diagnostic.errorSeverity]
  refine congrArg (_ + ·) (List.countP_congr fun d _ => ?_)
  simp

/-- A report has a text exactly if its integers can be written. The text is ASCII. It is a text of the
notation exactly if the time taken is a number, and has then one reading, from which a reader takes
all of the report but that time; with the words for numbers without digits it has the same reading in
every case. What is read is what was written exactly if no text holds two halves of a pair that follow
each other, for these are read as one character. The errors and the warnings add up to the findings.
Two reports with one text are read alike. -/
theorem json_lossless (r : Report CodeText) :
    ((∃ text, r.json = .ok text) ↔ ∀ n ∈ r.integers, isWritable n = true) ∧
    ∀ text, r.json = .ok text →
      (∀ c ∈ text.toList, c.toNat < 128) ∧
      (∃ value, digest? value = some r.digest.paired ∧
        (∀ other, Denotes IsNumber other text.toList ↔
          r.elapsed.isFinite = true ∧ other = value) ∧
        ∀ other, Denotes IsNumberOrWord other text.toList ↔ other = value) ∧
      (r.digest.paired = r.digest ↔ ∀ part ∈ r.texts, Unpaired part) ∧
      r.digest.errorCount + r.digest.warningCount = r.diagnostics.length ∧
      ∀ s : Report CodeText, s.json = .ok text → s.digest.paired = r.digest.paired := by
  refine ⟨⟨?_, ?_⟩, ?_⟩
  · rintro ⟨text, written⟩
    exact (json_eq_ok_iff.mp written).1
  · intro writable
    exact ⟨_, json_eq_ok_iff.mpr ⟨writable, String.toList_ofList⟩⟩
  · intro text written
    obtain ⟨-, shape⟩ := json_eq_ok_iff.mp written
    rw [shape]
    refine ⟨r.isAscii_json, ⟨r.toJson.toValue, digest?_toJson r, r.denotes_number_iff,
      r.denotes_json_iff⟩, r.paired_digest_eq_iff, ?_, ?_⟩
    · exact congrArg Int.ofNat r.errors_add_warnings
    · intro s same
      have reading := s.denotes_json
      rw [← (json_eq_ok_iff.mp same).2, shape, r.denotes_json_iff] at reading
      have equal := digest?_toJson s
      rw [reading, digest?_toJson r] at equal
      exact (Option.some.inj equal).symm

/-- A report with a quote in the name of a file and, in a message, a backslash, a line feed and a
character beyond the basic plane. -/
theorem json_lossless_quoted :
    let found : Diagnostic := ⟨"a\"b.idl", 3, -1, "x.y", "warn", "\\ 😀\n"⟩
    let r : Report := { diagnostics := [found], faults := [found, found], checksRun := 13 }
    ∃ text value, r.encode.json = .ok text ∧ Denotes IsNumber value text.toList ∧
      digest? value = some r.encode.digest := by
  intro found r
  obtain ⟨written, spec⟩ := json_lossless r.encode
  have writable : ∀ n ∈ r.encode.integers, isWritable n = true := by decide +kernel
  have finite : r.encode.elapsed.isFinite = true := by decide
  obtain ⟨text, shown⟩ := written.mpr writable
  obtain ⟨-, ⟨value, reading, strict, -⟩, unchanged, -, -⟩ := spec text shown
  rw [unchanged.mpr r.unpaired_encode] at reading
  exact ⟨text, value, shown, (strict value).mpr ⟨finite, rfl⟩, reading⟩

/-- The halves of a pair are written as the character that they stand for, a time without an end is no
number, and an integer that is too long keeps everything from being written. -/
theorem json_not_lossless :
    let found (message : CodeText) : Diagnostic CodeText := ⟨[], 1, 1, [], [], message⟩
    let halves : Report CodeText := { diagnostics := [found [0xd800, 0xdc00]] }
    let whole : Report CodeText := { diagnostics := [found [0x10000]] }
    let endless : Report CodeText := { elapsed := .infinity false }
    let long : Report CodeText := { checksRun := Int.ofNat (Nat.pow 10 mostDigits) }
    halves.digest ≠ whole.digest ∧ halves.json = whole.json ∧
      (∃ text, endless.json = .ok text ∧ ∀ value, ¬Denotes IsNumber value text.toList) ∧
      long.json = .error .unwritable := by
  intro found halves whole endless long
  refine ⟨fun same => ?_, ?_, ?_, ?_⟩
  · have messages : halves.digest.diagnostics = whole.digest.diagnostics := by rw [same]
    exact absurd messages (by decide)
  · have same : halves.toJson.write 0 = whole.toJson.write 0 := by decide +kernel
    have written : halves.json = .ok (String.ofList (halves.toJson.write 0)) :=
      json_eq_ok_iff.mpr ⟨by decide +kernel, String.toList_ofList⟩
    rw [written]
    exact (json_eq_ok_iff.mpr ⟨by decide +kernel, by rw [String.toList_ofList, same]⟩).symm
  · have written : endless.json = .ok (String.ofList (endless.toJson.write 0)) :=
      json_eq_ok_iff.mpr ⟨by decide +kernel, String.toList_ofList⟩
    refine ⟨_, written, fun value denotes => ?_⟩
    rw [String.toList_ofList, denotes_number_iff] at denotes
    exact absurd denotes.1 (by decide)
  · exact if_neg (by decide +kernel)

end IdlLint.Report
