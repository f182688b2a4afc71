import Mathlib
import IdlLint.Yaml.Token

/-! Scanning ends with a fault other than malformed text for two reasons only: an escape asks for a
code point that does not exist, or a number has too many digits. Both stand in the text.

Every function of the scanner has one triple: it is left with an end of the text, and what it stops
with is justified by the text. -/
namespace IdlLint.Yaml

set_option mvcgen.warning false

open Std.Do

/-- What in a text ends scanning with a fault. -/
inductive Unscannable (text : List Char) : Fault → Prop where
  /-- An escape asks for a code point beyond the last one. -/
  | code (before digits after : List Char) (place : text = before ++ '\\' :: 'U' :: digits ++ after)
      (width : digits.length = 8) (hex : digits.all Scan.isHex)
      (beyond : 0x110000 ≤ Numeral.value 16 digits) :
      Unscannable text (if 0x80000000 ≤ Numeral.value 16 digits then .codeTooLarge else .badCode)
  /-- A number has too many digits. -/
  | number (before digits after : List Char) (place : text = before ++ digits ++ after)
      (decimal : digits.all Char.isDigit) (excessive : mostDigits < digits.length) :
      Unscannable text (.excessiveDigits digits.length)

/-- A text can be malformed for any reason. -/
def Stop.Justified (text : List Char) : Stop → Prop
  | .malformed => True
  | .fault cause _ => Unscannable text cause

/-- What is left is an end of the text. -/
structure Source.Ends (text : List Char) (s : Source) : Prop where
  suffix : s.rest <:+ text

/-- What a triple says about a run that fails. -/
theorem error_of_triple {σ ε α : Type} {m : StateT σ (Except ε) α} {P : σ → Prop}
    {Q : α → σ → Prop} {E : ε → Prop}
    (triple : ⦃fun s => ⌜P s⌝⦄ m ⦃post⟨fun a s => ⌜Q a s⌝, fun e => ⌜E e⌝⟩⦄) {s : σ} (holds : P s)
    {e : ε} (failed : m.run s = .error e) : E e := by
  have spec := triple s holds
  change (wp⟦m.run s⟧ post⟨fun p => ⌜Q p.1 p.2⌝, fun e => ⌜E e⌝⟩).down at spec
  rw [failed] at spec
  exact spec

theorem throw_spec {σ ε α : Type} {Q : PostCond α (.arg σ (.except ε .pure))} (e : ε) :
    ⦃fun _ => Q.2.1 e⦄ (throw e : StateT σ (Except ε) α) ⦃Q⦄ :=
  fun _ holds => holds

namespace Scan

/-! ### Escapes -/

private theorem isHex_iff {c : Char} : isHex c = true ↔ (48 ≤ c.toNat ∧ c.toNat ≤ 57) ∨
    (97 ≤ c.toNat ∧ c.toNat ≤ 102) ∨ (65 ≤ c.toNat ∧ c.toNat ≤ 70) := by
  simp [isHex, Char.isDigit, Char.le_def, UInt32.le_iff_toNat_le, or_assoc]

private theorem digitValue_lt {c : Char} (hex : isHex c = true) : Numeral.digitValue c < 16 := by
  rw [isHex_iff] at hex
  simp only [Numeral.digitValue, Char.isDigit, Char.le_def, UInt32.le_iff_toNat_le, Char.toNat_val,
    ge_iff_le, Bool.and_eq_true, decide_eq_true_eq, UInt32.reduceToNat, Char.reduceVal]
  grind

private theorem value_lt {digits : List Char} (hex : digits.all isHex = true) :
    Numeral.value 16 digits < 16 ^ digits.length := by
  induction digits using List.reverseRecOn with
  | nil => decide
  | append_singleton digits c ih =>
    simp only [List.all_append, List.all_cons, List.all_nil, Bool.and_true, Bool.and_eq_true] at hex
    have before := ih hex.1
    have last := digitValue_lt hex.2
    have value : Numeral.value 16 (digits ++ [c]) =
        16 * Numeral.value 16 digits + Numeral.digitValue c := by
      simp [Numeral.value]
    rw [value, List.length_append, List.length_singleton, pow_succ]
    omega

private theorem rest_skip (n : Nat) (s : Source) : (Source.skip n s).rest = s.rest.drop n := by
  induction n generalizing s with
  | zero => rfl
  | succ n ih =>
    have next : (Source.next s).rest = s.rest.drop 1 := by
      unfold Source.next
      split
      · simp_all
      · split <;> simp_all
    rw [Source.skip, ih, next, List.drop_drop, Nat.add_comm]

variable {text : List Char}

private theorem ends_skip {s : Source} (ends : s.Ends text) (n : Nat) :
    (Source.skip n s).Ends text := by
  refine ⟨List.IsSuffix.trans ?_ ends.suffix⟩
  rw [rest_skip]
  exact List.drop_suffix n s.rest

/-- Two or four digits are not enough for a code point beyond the last one. -/
theorem unscannable_of_escape {rest : List Char} {c : Char} {width : Nat}
    (wide : escapeWidth c = some width) (ends : '\\' :: c :: rest <:+ text)
    (hex : ((rest.take width).length == width && (rest.take width).all isHex) = true)
    (beyond : 0x110000 ≤ Numeral.value 16 (rest.take width)) :
    Unscannable text
      (if 0x80000000 ≤ Numeral.value 16 (rest.take width) then .codeTooLarge else .badCode) := by
  simp only [Bool.and_eq_true, beq_iff_eq] at hex
  have bound := value_lt hex.2
  rw [hex.1] at bound
  have eight : c = 'U' ∧ width = 8 := by
    unfold escapeWidth at wide
    split at wide
    · cases wide
      omega
    · cases wide
      omega
    · cases wide
      exact ⟨rfl, rfl⟩
    · cases wide
  obtain ⟨rfl, rfl⟩ := eight
  obtain ⟨before, rfl⟩ := ends
  refine .code before _ (rest.drop 8) ?_ hex.1 hex.2 beyond
  rw [List.append_assoc, List.cons_append, List.cons_append, List.take_append_drop]

/-! ### The triples -/

/-- From an end of the text a computation comes to one, or stops with reason. -/
abbrev Keeps (text : List Char) {α : Type} (m : ScanM α) : Prop :=
  ⦃fun s => ⌜s.source.Ends text⌝⦄ m
  ⦃post⟨fun _ s => ⌜s.source.Ends text⌝, fun stop => ⌜stop.Justified text⌝⟩⦄

section Failure

variable {α : Type} {Q : PostCond α (.arg Scanner (.except Stop .pure))}

@[spec] theorem fail_spec : ⦃fun _ => Q.2.1 .malformed⦄ (fail : ScanM α) ⦃Q⦄ :=
  throw_spec Stop.malformed

@[spec] theorem failWith_spec (fault : Fault) :
    ⦃fun s => Q.2.1 (.fault fault (s.tokens.extract 0 s.certain))⦄ (failWith fault : ScanM α) ⦃Q⦄ :=
  fun _ holds => holds

end Failure

@[spec] theorem keeps_require (b : Bool) : Keeps text (require b) := by
  mvcgen [require]

@[spec] theorem keeps_forward (n : Nat) : Keeps text (forward n) := by
  mvcgen [forward]
  rename_i ends _
  exact ends_skip ends n

@[spec] theorem keeps_takeWhile (p : Char → Bool) : Keeps text (takeWhile p) := by
  mvcgen [takeWhile]

attribute [spec] peekAt peek emit fuel allowKey atDocumentMark insertTokens skipIndent atBlockLine

@[spec] theorem keeps_lineBreak : Keeps text lineBreak := by
  mvcgen [lineBreak]

@[spec] theorem keeps_skipBlanks (n : Nat) : Keeps text (skipBlanks n) := by
  induction n with
  | zero => mvcgen [skipBlanks]
  | succ n ih => mvcgen [skipBlanks, ih]

@[spec] theorem keeps_toNextToken : Keeps text toNextToken := by
  mvcgen [toNextToken]

@[spec] theorem keeps_dropStaleKeys : Keeps text dropStaleKeys := by
  mvcgen [dropStaleKeys]

@[spec] theorem keeps_settle : Keeps text settle := by
  mvcgen [settle]

@[spec] theorem keeps_dropKey : Keeps text dropKey := by
  mvcgen [dropKey]

@[spec] theorem keeps_saveKey : Keeps text saveKey := by
  mvcgen [saveKey]

@[spec] theorem keeps_unwindBlocks (column : Int) (outer : List Int) :
    Keeps text (unwindBlocks column outer) := by
  induction outer with
  | nil => mvcgen [unwindBlocks]
  | cons indent outer ih => mvcgen [unwindBlocks, ih]

@[spec] theorem keeps_unwind (column : Int) : Keeps text (unwind column) := by
  mvcgen [unwind]

@[spec] theorem keeps_indentTo (column : Nat) : Keeps text (indentTo column) := by
  mvcgen [indentTo]

/-! Scalars in quotes -/

@[spec] theorem keeps_quotedBreaks (n : Nat) (breaks : List Char) :
    Keeps text (quotedBreaks n breaks) := by
  induction n generalizing breaks with
  | zero => mvcgen [quotedBreaks]
  | succ n ih => mvcgen [quotedBreaks, ih]

/-- The letter of the escape stands before the digits. -/
@[spec] theorem codeEscape_spec (width : Nat) :
    ⦃fun s => ⌜∃ c, escapeWidth c = some width ∧ '\\' :: c :: s.source.rest <:+ text⌝⦄
    codeEscape width
    ⦃post⟨fun _ s => ⌜s.source.Ends text⌝, fun stop => ⌜stop.Justified text⌝⟩⦄ := by
  mvcgen [codeEscape, require, -keeps_require]
  case vc1 s escape digits code hex large =>
    obtain ⟨c, wide, ends⟩ := escape
    have beyond : 0x110000 ≤ code := by omega
    have cause := unscannable_of_escape wide ends hex beyond
    rwa [if_pos large] at cause
  case vc2 s escape digits code hex small beyond =>
    obtain ⟨c, wide, ends⟩ := escape
    have cause := unscannable_of_escape wide ends hex beyond
    rwa [if_neg small] at cause
  case vc3 s escape digits code hex small within =>
    obtain ⟨c, wide, ends⟩ := escape
    exact ⟨((List.suffix_cons ..).trans (List.suffix_cons ..)).trans ends⟩

@[spec] theorem quotedEscape_spec :
    ⦃fun s => ⌜s.source.Ends text ∧ s.source.rest.head? = some '\\'⌝⦄ quotedEscape
    ⦃post⟨fun _ s => ⌜s.source.Ends text⌝, fun stop => ⌜stop.Justified text⌝⟩⦄ := by
  mvcgen [quotedEscape, forward, -keeps_forward]
  case vc2 s start _ _ _ _ _ _ _ _ => exact ends_skip (ends_skip start.1 1) 1
  case vc3 s start _ c letter width wide _ _ =>
    change (Source.skip 1 s.source).rest[0]? = some c at letter
    rw [rest_skip, List.getElem?_drop, ← List.head?_drop] at letter
    refine ⟨c, wide, ?_⟩
    change '\\' :: c :: (Source.skip 1 (Source.skip 1 s.source)).rest <:+ text
    rw [rest_skip, rest_skip]
    have whole : s.source.rest = '\\' :: c :: (s.source.rest.drop 1).drop 1 := by
      obtain ⟨-, mark⟩ := start
      generalize s.source.rest = rest at mark letter
      rcases rest with _ | ⟨slash, _ | ⟨d, tail⟩⟩
      · cases mark
      · cases letter
      · cases mark
        cases letter
        rfl
    rw [← whole]
    exact start.1.suffix
  case vc4 s start _ _ _ _ _ => exact ends_skip start.1 1

@[spec] theorem keeps_quotedRest (double : Bool) (n : Nat) (read : List Char) :
    Keeps text (quotedRest double n read) := by
  induction n generalizing read with
  | zero => mvcgen [quotedRest]
  | succ n ih =>
    mvcgen [quotedRest, ih]
    case vc7 s ends c first _ escape =>
      simp only [Bool.and_eq_true, decide_eq_true_eq] at escape
      rw [escape.2, ← List.head?_eq_getElem?] at first
      exact ⟨ends, first⟩

@[spec] theorem keeps_quoted (double : Bool) : Keeps text (quoted double) := by
  mvcgen [quoted]

/-! Plain scalars -/

@[spec] theorem keeps_plainBreaks (n : Nat) (breaks : List Char) :
    Keeps text (plainBreaks n breaks) := by
  induction n generalizing breaks with
  | zero => mvcgen [plainBreaks]
  | succ n ih => mvcgen [plainBreaks, ih]

@[spec] theorem keeps_plainSpaces : Keeps text plainSpaces := by
  mvcgen [plainSpaces]

@[spec] theorem keeps_plainWords (indent : Int) (n : Nat) (read spaces : List Char) :
    Keeps text (plainWords indent n read spaces) := by
  induction n generalizing read spaces with
  | zero => mvcgen [plainWords]
  | succ n ih => mvcgen [plainWords, ih]

@[spec] theorem keeps_plain : Keeps text plain := by
  mvcgen [plain]

/-! Scalars in blocks -/

@[spec] theorem keeps_chompingMark : Keeps text chompingMark := by
  mvcgen [chompingMark]

@[spec] theorem keeps_indentMark : Keeps text indentMark := by
  mvcgen [indentMark]

@[spec] theorem keeps_blockMarks : Keeps text blockMarks := by
  mvcgen [blockMarks]

@[spec] theorem keeps_blockHead : Keeps text blockHead := by
  mvcgen [blockHead]

@[spec] theorem keeps_blockIndent (n : Nat) (breaks : List Char) (widest : Nat) :
    Keeps text (blockIndent n breaks widest) := by
  induction n generalizing breaks widest with
  | zero => mvcgen [blockIndent]
  | succ n ih => mvcgen [blockIndent, ih]

@[spec] theorem keeps_blockBreaks (indent n : Nat) (breaks : List Char) :
    Keeps text (blockBreaks indent n breaks) := by
  induction n generalizing breaks with
  | zero => mvcgen [blockBreaks]
  | succ n ih => mvcgen [blockBreaks, ih]

@[spec] theorem keeps_blockLines (folded : Bool) (indent n : Nat) (read breaks : List Char) :
    Keeps text (blockLines folded indent n read breaks) := by
  induction n generalizing read breaks with
  | zero => mvcgen [blockLines]
  | succ n ih => mvcgen [blockLines, ih]

@[spec] theorem keeps_blockScalar (folded : Bool) : Keeps text (blockScalar folded) := by
  mvcgen [blockScalar]

/-! Anchors, aliases, tags and directives -/

@[spec] theorem keeps_anchorName : Keeps text anchorName := by
  mvcgen [anchorName]

@[spec] theorem keeps_uriRest (n : Nat) (read : List Char) : Keeps text (uriRest n read) := by
  induction n generalizing read with
  | zero => mvcgen [uriRest]
  | succ n ih => mvcgen [uriRest, ih]

@[spec] theorem keeps_uri : Keeps text uri := by
  mvcgen [uri]

@[spec] theorem keeps_tagHandle : Keeps text tagHandle := by
  mvcgen [tagHandle]

@[spec] theorem keeps_tagToken : Keeps text tagToken := by
  mvcgen [tagToken]

@[spec] theorem keeps_tag : Keeps text tag := by
  mvcgen [tag]

@[spec] theorem keeps_endBlocks : Keeps text endBlocks := by
  mvcgen [endBlocks]

@[spec] theorem keeps_versionNumber : Keeps text versionNumber := by
  mvcgen [versionNumber, takeWhile, -keeps_takeWhile]
  case vc3 s ends digits _ _ _ _ excessive _ _ =>
    obtain ⟨before, whole⟩ := ends.suffix
    refine Unscannable.number before digits (s.source.rest.dropWhile Char.isDigit) ?_
      List.all_takeWhile excessive
    rw [← whole, List.append_assoc, List.takeWhile_append_dropWhile]

@[spec] theorem keeps_version : Keeps text version := by
  mvcgen [version]

@[spec] theorem keeps_handleMeaning : Keeps text handleMeaning := by
  mvcgen [handleMeaning]

@[spec] theorem keeps_directive : Keeps text directive := by
  mvcgen [directive]

/-! Marks -/

@[spec] theorem keeps_flowStart (token : Token) : Keeps text (flowStart token) := by
  mvcgen [flowStart]

@[spec] theorem keeps_flowEnd (token : Token) : Keeps text (flowEnd token) := by
  mvcgen [flowEnd]

@[spec] theorem keeps_flowEntry : Keeps text flowEntry := by
  mvcgen [flowEntry]

@[spec] theorem keeps_blockMark (start : Token) : Keeps text (blockMark start) := by
  mvcgen [blockMark]

@[spec] theorem keeps_blockEntry : Keeps text blockEntry := by
  mvcgen [blockEntry]

@[spec] theorem keeps_keyMark : Keeps text keyMark := by
  mvcgen [keyMark]

@[spec] theorem keeps_valueMark : Keeps text valueMark := by
  mvcgen [valueMark]

@[spec] theorem keeps_documentMark (token : Token) : Keeps text (documentMark token) := by
  mvcgen [documentMark]

@[spec] theorem keeps_nextToken : Keeps text nextToken := by
  mvcgen [nextToken]

@[spec] theorem keeps_run (n : Nat) : Keeps text (run n) := by
  induction n with
  | zero => mvcgen [run]
  | succ n ih => mvcgen [run, ih]

end Scan

/-- The fault that comes up after the last token is justified by the text. -/
theorem unscannable_of_ofText? {text : List Char} {stream : Tokens} {fault : Fault}
    (scanned : Tokens.ofText? text = some stream) (faulty : stream.fault = some fault) :
    Unscannable text fault := by
  unfold Tokens.ofText? at scanned
  split at scanned
  · split at scanned
    · cases scanned
      cases faulty
    · rename_i failed
      cases scanned
      cases faulty
      exact error_of_triple (Scan.keeps_run _) ⟨List.suffix_rfl⟩ failed
    · cases scanned
  · cases scanned

end IdlLint.Yaml
