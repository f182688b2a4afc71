import IdlLint.Grammar.Lexeme
import Mathlib.Data.List.TakeWhile

/-! The spellings of terminals as a relation, and what the functions that find them at the start of a
text have to do with it: they find nothing else, and they find every spelling that white space or the
end of the text follows. -/
namespace IdlLint

/-! ### Spellings -/

def IsSign (text : List Char) : Prop :=
  text = [] ∨ text = ['+'] ∨ text = ['-']

/-- One or more characters of a class. -/
def IsRun (p : Char → Bool) (text : List Char) : Prop :=
  text ≠ [] ∧ ∀ c ∈ text, p c = true

/-- A power of ten. -/
def IsExponent (text : List Char) : Prop :=
  ∃ e sign digits, text = e :: (sign ++ digits) ∧ (e = 'e' ∨ e = 'E') ∧ IsSign sign ∧
    IsRun Char.isDigit digits

/-- What may stand between two marks `quote`. -/
inductive IsQuoted (quote : Char) : List Char → Prop where
  | empty : IsQuoted quote []
  | plain {c : Char} {rest : List Char} (other : c ≠ quote) (free : c ≠ '\\') (inside : c ≠ '\n')
      (more : IsQuoted quote rest) : IsQuoted quote (c :: rest)
  | escape {c : Char} {rest : List Char} (inside : c ≠ '\n') (more : IsQuoted quote rest) :
      IsQuoted quote ('\\' :: c :: rest)

/-- How a terminal may be written. -/
inductive Spells : Terminal → List Char → Prop where
  | word (keyword : Keyword) : Spells (.word keyword) keyword.spelling
  | mark (sign : Mark) : Spells (.mark sign) [sign.char]
  | identifier {c : Char} {rest : List Char} (start : Lexeme.isNameStart c = true)
      (parts : ∀ d ∈ rest, Lexeme.isNamePart d = true) : Spells .identifier (c :: rest)
  | string {quote : Char} {body : List Char} (mark : quote = '"' ∨ quote = '\'')
      (quoted : IsQuoted quote body) : Spells .string (quote :: (body ++ [quote]))
  | decimal {sign digits : List Char} (signed : IsSign sign) (run : IsRun Char.isDigit digits) :
      Spells .decimal (sign ++ digits)
  | hexadecimal {sign digits : List Char} {x : Char} (signed : IsSign sign) (mark : x = 'x' ∨ x = 'X')
      (run : IsRun Lexeme.isHexDigit digits) : Spells .hexadecimal (sign ++ '0' :: x :: digits)
  | fraction {sign whole part power : List Char} (signed : IsSign sign)
      (left : ∀ c ∈ whole, c.isDigit = true) (right : ∀ c ∈ part, c.isDigit = true)
      (digits : whole ≠ [] ∨ part ≠ []) (exponent : power = [] ∨ IsExponent power) :
      Spells .double (sign ++ (whole ++ '.' :: (part ++ power)))
  | scaled {sign whole power : List Char} (signed : IsSign sign) (run : IsRun Char.isDigit whole)
      (exponent : IsExponent power) : Spells .double (sign ++ (whole ++ power))

/-! ### Only spellings are found -/

namespace Lexeme

/-- A text is its sign and what comes after it. -/
theorem sign_spec (text : List Char) :
    ∃ first body, sign text = first ∧ text = first ++ body ∧ text.drop first.length = body ∧
      IsSign first := by
  unfold sign
  split
  · exact ⟨_, _, rfl, rfl, rfl, .inr (.inl rfl)⟩
  · exact ⟨_, _, rfl, rfl, rfl, .inr (.inr rfl)⟩
  · exact ⟨_, _, rfl, rfl, rfl, .inl rfl⟩

/-- A text is its longest start of characters of a class and what comes after it. -/
theorem takeWhile_spec (p : Char → Bool) (text : List Char) :
    ∃ run rest, text.takeWhile p = run ∧ text = run ++ rest ∧ text.drop run.length = rest ∧
      ∀ c ∈ run, p c = true := by
  refine ⟨text.takeWhile p, text.dropWhile p, rfl, List.takeWhile_append_dropWhile.symm, ?_, ?_⟩
  · conv => lhs; arg 2; rw [← List.takeWhile_append_dropWhile (p := p) (l := text)]
    exact List.drop_left
  · intro c member
    exact List.mem_takeWhile_imp member

private theorem decimal_sound {text lexeme : List Char} (found : decimal text = some lexeme) :
    (∃ rest, text = lexeme ++ rest) ∧
      ∃ sign digits, lexeme = sign ++ digits ∧ IsSign sign ∧ IsRun Char.isDigit digits := by
  obtain ⟨first, body, signEq, rfl, dropped, signed⟩ := sign_spec text
  obtain ⟨digits, rest, runEq, rfl, -, all⟩ := takeWhile_spec Char.isDigit body
  simp only [decimal, signEq, dropped, runEq] at found
  split at found
  · cases found
  · rename_i present
    cases found
    refine ⟨⟨rest, (List.append_assoc ..).symm⟩, first, digits, rfl, signed, ?_, all⟩
    exact fun none => present (List.isEmpty_iff.mpr none)

private theorem exponent_sound {text lexeme : List Char} (found : exponent text = some lexeme) :
    (∃ rest, text = lexeme ++ rest) ∧ IsExponent lexeme := by
  cases text with
  | nil => cases found
  | cons e body =>
    simp only [exponent] at found
    split at found
    · rename_i mark
      obtain ⟨power, read, rfl⟩ := Option.map_eq_some_iff.mp found
      obtain ⟨⟨rest, rfl⟩, sign, digits, rfl, signed, run⟩ := decimal_sound read
      exact ⟨⟨rest, rfl⟩, e, sign, digits, rfl, mark, signed, run⟩
    · cases found

private theorem hexadecimal_sound {text lexeme : List Char} (found : hexadecimal text = some lexeme) :
    (∃ rest, text = lexeme ++ rest) ∧ Spells .hexadecimal lexeme := by
  obtain ⟨first, body, signEq, rfl, dropped, signed⟩ := sign_spec text
  simp only [hexadecimal, signEq, dropped] at found
  split at found
  · rename_i x tail
    obtain ⟨digits, rest, runEq, rfl, -, all⟩ := takeWhile_spec isHexDigit tail
    simp only [runEq] at found
    split at found
    · rename_i present
      cases found
      refine ⟨⟨rest, by simp⟩, .hexadecimal signed present.1 ⟨?_, all⟩⟩
      simpa using present.2
    · cases found
  · cases found

private theorem double_sound {text lexeme : List Char} (found : double text = some lexeme) :
    (∃ rest, text = lexeme ++ rest) ∧ Spells .double lexeme := by
  obtain ⟨first, body, signEq, rfl, dropped, signed⟩ := sign_spec text
  obtain ⟨whole, tail, wholeEq, rfl, wholeDropped, digits⟩ := takeWhile_spec Char.isDigit body
  simp only [double, signEq, dropped, wholeEq, wholeDropped] at found
  split at found
  · rename_i tail
    obtain ⟨part, others, partEq, rfl, partDropped, parts⟩ := takeWhile_spec Char.isDigit tail
    simp only [partEq, partDropped] at found
    split at found
    · cases found
    · rename_i present
      cases found
      have present : whole ≠ [] ∨ part ≠ [] := by
        simpa [Decidable.or_iff_not_imp_left] using present
      cases power : exponent others with
      | none =>
        refine ⟨⟨others, by simp⟩, ?_⟩
        simpa using Spells.fraction signed digits parts present (.inl rfl)
      | some power =>
        obtain ⟨⟨rest, rfl⟩, exponent⟩ := exponent_sound power
        refine ⟨⟨rest, by simp⟩, ?_⟩
        simpa using Spells.fraction signed digits parts present (.inr exponent)
  · split at found
    · cases found
    · rename_i present
      obtain ⟨power, read, rfl⟩ := Option.map_eq_some_iff.mp found
      obtain ⟨⟨rest, rfl⟩, exponent⟩ := exponent_sound read
      refine ⟨⟨rest, by simp⟩, ?_⟩
      have run : IsRun Char.isDigit whole := ⟨by simpa using present, digits⟩
      simpa using Spells.scaled signed run exponent

private theorem quotedTail_sound {quote : Char} {text tail : List Char}
    (found : quotedTail quote text = some tail) :
    (∃ rest, text = tail ++ rest) ∧ ∃ body, tail = body ++ [quote] ∧ IsQuoted quote body := by
  fun_induction quotedTail quote text generalizing tail with
  | case1 => cases found
  | case2 => cases found
  | case3 c rest inside ih =>
    obtain ⟨tail, read, rfl⟩ := Option.map_eq_some_iff.mp found
    obtain ⟨⟨after, rfl⟩, body, rfl, quoted⟩ := ih read
    exact ⟨⟨after, rfl⟩, '\\' :: c :: body, rfl, .escape inside quoted⟩
  | case4 rest _ =>
    cases found
    exact ⟨⟨rest, rfl⟩, [], rfl, .empty⟩
  | case5 => cases found
  | case6 c rest _ other plain ih =>
    obtain ⟨tail, read, rfl⟩ := Option.map_eq_some_iff.mp found
    obtain ⟨⟨after, rfl⟩, body, rfl, quoted⟩ := ih read
    obtain ⟨free, inside⟩ := not_or.mp plain
    exact ⟨⟨after, rfl⟩, c :: body, rfl, .plain other free inside quoted⟩

private theorem fixed_sound {spelling text lexeme : List Char}
    (found : fixed spelling text = some lexeme) :
    (∃ rest, text = lexeme ++ rest) ∧ lexeme = spelling := by
  unfold fixed at found
  split at found
  · rename_i start
    cases found
    obtain ⟨rest, rfl⟩ := List.isPrefixOf_iff_prefix.mp start
    exact ⟨⟨rest, rfl⟩, rfl⟩
  · cases found

/-- What is found for a terminal at the start of a text is a spelling of it. -/
theorem ofTerminal_sound {terminal : Terminal} {text lexeme : List Char}
    (found : ofTerminal terminal text = some lexeme) :
    (∃ rest, text = lexeme ++ rest) ∧ Spells terminal lexeme := by
  cases terminal with
  | word keyword =>
    obtain ⟨start, rfl⟩ := fixed_sound found
    exact ⟨start, .word keyword⟩
  | mark sign =>
    obtain ⟨start, rfl⟩ := fixed_sound found
    exact ⟨start, .mark sign⟩
  | identifier =>
    cases text with
    | nil => cases found
    | cons c text =>
      simp only [ofTerminal, identifier] at found
      split at found
      · rename_i start
        obtain ⟨parts, rest, partsEq, rfl, -, all⟩ := takeWhile_spec isNamePart text
        rw [partsEq] at found
        cases found
        exact ⟨⟨rest, rfl⟩, .identifier start all⟩
      · cases found
  | string =>
    cases text with
    | nil => cases found
    | cons c text =>
      simp only [ofTerminal, string] at found
      split at found
      · rename_i mark
        obtain ⟨tail, read, rfl⟩ := Option.map_eq_some_iff.mp found
        obtain ⟨⟨rest, rfl⟩, body, rfl, quoted⟩ := quotedTail_sound read
        exact ⟨⟨rest, rfl⟩, .string mark quoted⟩
      · cases found
  | decimal =>
    obtain ⟨start, sign, digits, rfl, signed, run⟩ := decimal_sound found
    exact ⟨start, .decimal signed run⟩
  | hexadecimal => exact hexadecimal_sound found
  | double => exact double_sound found
  | endOfFile => cases found

end Lexeme

/-! ### First characters -/

/-- What the first character of a token tells about its terminal. -/
inductive Lead where
  | name | number | quote
  | mark (sign : Mark)
deriving DecidableEq

def Lead.of (c : Char) : Option Lead :=
  if Lexeme.isNameStart c then some .name
  else if c.isDigit || c == '+' || c == '-' || c == '.' then some .number
  else if c == '"' || c == '\'' then some .quote
  else (Mark.all.find? fun sign => sign.char == c).map .mark

def Terminal.lead : Terminal → Option Lead
  | .word _ | .identifier => some .name
  | .decimal | .hexadecimal | .double => some .number
  | .string => some .quote
  | .mark sign => some (.mark sign)
  | .endOfFile => none

private theorem isNameStart_of_isDigit {c : Char} (digit : c.isDigit = true) :
    Lexeme.isNameStart c = false := by
  simp only [Char.isDigit, Bool.and_eq_true, decide_eq_true_eq, UInt32.le_iff_toNat_le] at digit
  have nine : '9'.val.toNat = 57 := rfl
  refine Bool.eq_false_iff.mpr fun start => ?_
  have letters : (c.isUpper || c.isLower || c == '_') = true := start
  simp only [Bool.or_eq_true, beq_iff_eq] at letters
  rcases letters with (upper | lower) | rfl
  · have above : 'A'.val ≤ c.val := (of_decide_eq_true upper).1
    have first : 'A'.val.toNat = 65 := rfl
    rw [UInt32.le_iff_toNat_le] at above
    omega
  · have above : 'a'.val ≤ c.val := of_decide_eq_true (Bool.and_eq_true_iff.mp lower).1
    have first : 'a'.val.toNat = 97 := rfl
    rw [UInt32.le_iff_toNat_le] at above
    omega
  · exact absurd digit (by decide)

private theorem Lead.of_isDigit {c : Char} (digit : c.isDigit = true) : Lead.of c = some .number := by
  simp [Lead.of, isNameStart_of_isDigit digit, digit]

/-- A number begins with its sign, a digit or a point. -/
theorem Lead.of_signed {sign body : List Char} (signed : IsSign sign)
    (starts : ∃ c rest, body = c :: rest ∧ Lead.of c = some .number) :
    ∃ c rest, sign ++ body = c :: rest ∧ Lead.of c = some .number := by
  rcases signed with rfl | rfl | rfl
  · exact starts
  · exact ⟨_, _, rfl, by decide⟩
  · exact ⟨_, _, rfl, by decide⟩

private theorem Lead.of_isRun {run : List Char} (digits : IsRun Char.isDigit run) (rest : List Char) :
    ∃ c more, run ++ rest = c :: more ∧ Lead.of c = some .number := by
  obtain ⟨some, all⟩ := digits
  cases run with
  | nil => exact absurd rfl some
  | cons c run => exact ⟨c, run ++ rest, rfl, Lead.of_isDigit (all c (List.mem_cons_self ..))⟩

theorem Spells.lead {terminal : Terminal} {text : List Char} (spells : Spells terminal text) :
    ∃ c rest, text = c :: rest ∧ Lead.of c = terminal.lead := by
  cases spells with
  | word keyword => cases keyword <;> exact ⟨_, _, rfl, by decide⟩
  | mark sign => cases sign <;> exact ⟨_, _, rfl, by decide⟩
  | identifier start parts => exact ⟨_, _, rfl, by simp [Lead.of, start, Terminal.lead]⟩
  | string mark quoted =>
    refine ⟨_, _, rfl, ?_⟩
    rcases mark with rfl | rfl <;> decide
  | decimal signed run =>
    refine Lead.of_signed signed ?_
    simpa using Lead.of_isRun run []
  | hexadecimal signed mark run =>
    exact Lead.of_signed signed ⟨_, _, rfl, by decide⟩
  | @fraction sign whole part power signed left right digits exponent =>
    refine Lead.of_signed signed ?_
    cases whole with
    | nil => exact ⟨_, _, rfl, by decide⟩
    | cons c whole => exact ⟨_, _, rfl, Lead.of_isDigit (left c (List.mem_cons_self ..))⟩
  | scaled signed run exponent => exact Lead.of_signed signed (Lead.of_isRun run _)

private theorem Spells.lead_ne_none {terminal : Terminal} {lexeme : List Char}
    (spells : Spells terminal lexeme) : terminal.lead ≠ none := by
  cases spells <;> simp [Terminal.lead]

theorem Spells.ne_nil {terminal : Terminal} {lexeme : List Char} (spells : Spells terminal lexeme) :
    lexeme ≠ [] := by
  obtain ⟨c, rest, rfl, -⟩ := spells.lead
  exact List.cons_ne_nil c rest

theorem Keyword.mem_all (keyword : Keyword) : keyword ∈ Keyword.all := by
  cases keyword <;> decide

/-! ### Every spelling is found -/

namespace Lexeme

/-- What comes after a token: white space, or nothing. -/
def Stops (rest : List Char) : Prop :=
  ∀ c ∈ rest.head?, isSpace c = true

theorem isSpace_cases {c : Char} (space : isSpace c = true) :
    c = ' ' ∨ c = '\t' ∨ c = '\n' ∨ c = '\r' ∨ c = '\x0c' := by
  simpa [isSpace, or_assoc] using space

/-- The rest of a text does not go on with a character of a class. -/
def Leaves (p : Char → Bool) (rest : List Char) : Prop :=
  ∀ c ∈ rest.head?, p c = false

private theorem Stops.leaves {rest : List Char} {p : Char → Bool} (stops : Stops rest)
    (apart : ([' ', '\t', '\n', '\r', '\x0c'].all fun c => !p c) = true) : Leaves p rest := by
  intro c head
  rcases isSpace_cases (stops c head) with rfl | rfl | rfl | rfl | rfl <;> simp_all

theorem leaves_cons {p : Char → Bool} {c : Char} (other : p c = false) (rest : List Char) :
    Leaves p (c :: rest) := by
  intro c' same
  obtain rfl : c = c' := Option.some.inj same
  exact other

theorem takeWhile_run {p : Char → Bool} {run rest : List Char} (all : ∀ c ∈ run, p c = true)
    (leaves : Leaves p rest) : (run ++ rest).takeWhile p = run := by
  rw [List.takeWhile_append_of_pos all]
  cases rest with
  | nil => simp
  | cons c rest => simp [leaves c rfl]

def isSignMark (c : Char) : Bool :=
  c == '+' || c == '-'

theorem sign_append {first body : List Char} (signed : IsSign first)
    (plain : Leaves isSignMark body) : sign (first ++ body) = first := by
  rcases signed with rfl | rfl | rfl
  · rw [List.nil_append]
    unfold sign
    split
    · exact absurd (plain '+' rfl) (by decide)
    · exact absurd (plain '-' rfl) (by decide)
    · rfl
  · rfl
  · rfl

private theorem isSignMark_of_isDigit {c : Char} (digit : c.isDigit = true) :
    isSignMark c = false := by
  simp only [isSignMark, Bool.or_eq_false_iff, beq_eq_false_iff_ne]
  constructor <;> rintro rfl <;> exact absurd digit (by decide)

theorem leaves_run {whole rest : List Char} (digits : ∀ c ∈ whole, c.isDigit = true)
    (plain : whole ≠ [] ∨ Leaves isSignMark rest) : Leaves isSignMark (whole ++ rest) := by
  cases whole with
  | nil => exact plain.resolve_left fun some => some rfl
  | cons c whole =>
    exact leaves_cons (isSignMark_of_isDigit (digits c (List.mem_cons_self ..))) _

private theorem decimal_complete {first digits rest : List Char} (signed : IsSign first)
    (run : IsRun Char.isDigit digits) (leaves : Leaves Char.isDigit rest) :
    decimal (first ++ (digits ++ rest)) = some (first ++ digits) := by
  simp [decimal, sign_append signed (leaves_run run.2 (.inl run.1)), takeWhile_run run.2 leaves, run.1]

theorem leaves_exponent {power : List Char} (exp : IsExponent power) (rest : List Char) :
    Leaves Char.isDigit (power ++ rest) := by
  obtain ⟨e, _, _, rfl, mark, -⟩ := exp
  refine leaves_cons ?_ _
  rcases mark with rfl | rfl <;> decide

private theorem exponent_complete {power rest : List Char} (exp : IsExponent power)
    (leaves : Leaves Char.isDigit rest) : exponent (power ++ rest) = some power := by
  obtain ⟨e, first, digits, rfl, mark, signed, run⟩ := exp
  rw [List.cons_append, List.append_assoc]
  simp [exponent, mark, decimal_complete signed run leaves]

private theorem exponent_eq_none {rest : List Char} (stops : Stops rest) : exponent rest = none := by
  cases rest with
  | nil => rfl
  | cons c rest =>
    have other : ¬ (c = 'e' ∨ c = 'E') := by
      rcases isSpace_cases (stops c rfl) with rfl | rfl | rfl | rfl | rfl <;> decide
    simp [exponent, other]

private theorem hexadecimal_complete {first digits rest : List Char} {x : Char}
    (signed : IsSign first) (mark : x = 'x' ∨ x = 'X') (run : IsRun isHexDigit digits)
    (leaves : Leaves isHexDigit rest) :
    hexadecimal (first ++ '0' :: x :: (digits ++ rest)) = some (first ++ '0' :: x :: digits) := by
  have plain : Leaves isSignMark ('0' :: x :: (digits ++ rest)) := leaves_cons (by decide) _
  simp [hexadecimal, sign_append signed plain, takeWhile_run run.2 leaves, run.1, mark]

/-- The characters that make up the mark of a hexadecimal number. -/
def isBaseMark (c : Char) : Bool :=
  c == '0' || c == 'x' || c == 'X'

/-- A number in which no base mark comes after its first digits is not read as hexadecimal. -/
theorem hexadecimal_eq_none {first whole rest : List Char} (signed : IsSign first)
    (digits : ∀ c ∈ whole, c.isDigit = true) (plain : whole ≠ [] ∨ Leaves isSignMark rest)
    (other : Leaves isBaseMark rest) :
    hexadecimal (first ++ (whole ++ rest)) = none := by
  simp only [hexadecimal, sign_append signed (leaves_run digits plain), List.drop_left]
  split
  · rename_i x tail same
    have marked : ¬ (x = 'x' ∨ x = 'X') := by
      rcases whole with _ | ⟨zero, _ | ⟨d, whole⟩⟩
      · obtain rfl : rest = '0' :: x :: tail := same
        exact absurd (other '0' rfl) (by decide)
      · obtain ⟨-, rfl⟩ : zero = '0' ∧ rest = x :: tail := List.cons.inj same
        have none := other x rfl
        rintro (rfl | rfl) <;> exact absurd none (by decide)
      · obtain ⟨-, rfl, -⟩ : zero = '0' ∧ d = x ∧ whole ++ rest = tail := by simpa using same
        have digit := digits d (by simp)
        rintro (rfl | rfl) <;> exact absurd digit (by decide)
    simp [marked]
  · rfl

private theorem double_fraction {first whole part power rest : List Char} (signed : IsSign first)
    (left : ∀ c ∈ whole, c.isDigit = true) (right : ∀ c ∈ part, c.isDigit = true)
    (digits : whole ≠ [] ∨ part ≠ []) (exp : power = [] ∨ IsExponent power) (stops : Stops rest) :
    double (first ++ (whole ++ '.' :: (part ++ (power ++ rest)))) =
      some (first ++ (whole ++ '.' :: (part ++ power))) := by
  have leaves : Leaves Char.isDigit rest := stops.leaves (by decide)
  have point : Leaves Char.isDigit ('.' :: (part ++ (power ++ rest))) := leaves_cons (by decide) _
  have plain : Leaves isSignMark ('.' :: (part ++ (power ++ rest))) := leaves_cons (by decide) _
  have after : Leaves Char.isDigit (power ++ rest) := by
    rcases exp with rfl | exp
    · exact leaves
    · exact leaves_exponent exp rest
  have scale : (exponent (power ++ rest)).getD [] = power := by
    rcases exp with rfl | exp
    · simp [exponent_eq_none stops]
    · simp [exponent_complete exp leaves]
  have some : ¬ (whole = [] ∧ part = []) := by
    rintro ⟨rfl, rfl⟩
    simp at digits
  simp [double, sign_append signed (leaves_run left (.inr plain)), takeWhile_run left point,
    takeWhile_run right after, scale, some]

private theorem double_scaled {first whole power rest : List Char} (signed : IsSign first)
    (run : IsRun Char.isDigit whole) (exp : IsExponent power) (stops : Stops rest) :
    double (first ++ (whole ++ (power ++ rest))) = some (first ++ (whole ++ power)) := by
  have leaves : Leaves Char.isDigit rest := stops.leaves (by decide)
  have scale := exponent_complete exp leaves
  simp only [double, sign_append signed (leaves_run run.2 (.inl run.1)), List.drop_left,
    takeWhile_run run.2 (leaves_exponent exp rest)]
  split
  · rename_i same
    obtain ⟨e, _, _, rfl, mark, -⟩ := exp
    obtain ⟨rfl, -⟩ := List.cons.inj same
    exact absurd mark (by decide)
  · rw [scale]
    simp [run.1]

private theorem double_of_decimal {lexeme rest : List Char} (spells : Spells .decimal lexeme)
    (stops : Stops rest) : double (lexeme ++ rest) = none := by
  have leaves : Leaves Char.isDigit rest := stops.leaves (by decide)
  cases spells with
  | decimal signed run =>
    rw [List.append_assoc]
    simp only [double, sign_append signed (leaves_run run.2 (.inl run.1)), List.drop_left,
      takeWhile_run run.2 leaves]
    split
    · exact absurd (stops '.' rfl) (by decide)
    · simp [exponent_eq_none stops]

theorem quotedTail_complete {quote : Char} {body : List Char} (rest : List Char)
    (mark : quote = '"' ∨ quote = '\'') (quoted : IsQuoted quote body) :
    quotedTail quote (body ++ quote :: rest) = some (body ++ [quote]) := by
  induction quoted with
  | empty => rcases mark with rfl | rfl <;> simp [quotedTail]
  | plain other free inside more ih => simp [quotedTail, other, free, inside, ih]
  | escape inside more ih => simp [quotedTail, inside, ih]

theorem spelling_nameParts (keyword : Keyword) : ∀ c ∈ keyword.spelling, isNamePart c = true := by
  rw [← List.all_eq_true]
  cases keyword <;> decide

private theorem spelling_prefixFree : ∀ one ∈ Keyword.all, ∀ two ∈ Keyword.all,
    one.spelling.isPrefixOf two.spelling = true → one = two := by
  decide

private theorem spells_identifier (keyword : Keyword) : Spells .identifier keyword.spelling := by
  have parts := spelling_nameParts keyword
  cases keyword <;>
    exact .identifier (by decide) fun c member => parts c (List.mem_cons_of_mem _ member)

/-- No keyword is a start of another. -/
theorem keyword_eq_of_start {one two : Keyword} (start : one.spelling <+: two.spelling) :
    one = two :=
  spelling_prefixFree one (Keyword.mem_all one) two (Keyword.mem_all two)
    (List.isPrefixOf_iff_prefix.mpr start)

/-- Every spelling is found where white space or the end of the text follows it. -/
theorem ofTerminal_complete {terminal : Terminal} {lexeme rest : List Char}
    (spells : Spells terminal lexeme) (stops : Stops rest) :
    ofTerminal terminal (lexeme ++ rest) = some lexeme := by
  have digits : Leaves Char.isDigit rest := stops.leaves (by decide)
  have hexDigits : Leaves isHexDigit rest := stops.leaves (by decide)
  have parts : Leaves isNamePart rest := stops.leaves (by decide)
  cases spells with
  | word keyword => simp [ofTerminal, fixed]
  | mark sign => simp [ofTerminal, fixed]
  | identifier start all => simp [ofTerminal, identifier, start, takeWhile_run all parts]
  | string mark quoted => simp [ofTerminal, string, mark, quotedTail_complete rest mark quoted]
  | decimal signed run =>
    rw [List.append_assoc]
    exact decimal_complete signed run digits
  | hexadecimal signed mark run =>
    rw [List.append_assoc]
    exact hexadecimal_complete signed mark run hexDigits
  | fraction signed left right some exponent =>
    simpa [ofTerminal] using double_fraction signed left right some exponent stops
  | scaled signed run exponent =>
    simpa [ofTerminal] using double_scaled signed run exponent stops

/-- A terminal that begins with other characters is not found. -/
theorem ofTerminal_eq_none {terminal other : Terminal} {lexeme : List Char}
    (spells : Spells terminal lexeme) (apart : other.lead ≠ terminal.lead) (rest : List Char) :
    ofTerminal other (lexeme ++ rest) = none := by
  cases found : ofTerminal other (lexeme ++ rest) with
  | none => rfl
  | some wrong =>
    obtain ⟨⟨after, same⟩, spells'⟩ := ofTerminal_sound found
    obtain ⟨c, tail, rfl, lead⟩ := spells.lead
    obtain ⟨c', tail', rfl, lead'⟩ := spells'.lead
    obtain ⟨rfl, -⟩ := List.cons.inj same
    exact absurd (lead'.symm.trans lead) apart

private theorem keyword?_spelling {allowed : List Terminal} {keyword : Keyword}
    (member : .word keyword ∈ allowed) : keyword? allowed keyword.spelling = some keyword := by
  cases found : keyword? allowed keyword.spelling with
  | none =>
    have missed := List.find?_eq_none.mp found keyword (Keyword.mem_all keyword)
    simp [member] at missed
  | some other =>
    have same := List.find?_some found
    simp only [Bool.and_eq_true, beq_iff_eq] at same
    have start : other.spelling <+: keyword.spelling := by simp [same.1]
    rw [keyword_eq_of_start start]

private theorem keyword?_eq_none {allowed : List Terminal} {lexeme : List Char}
    (plain : ∀ keyword : Keyword, keyword.spelling ≠ lexeme) : keyword? allowed lexeme = none := by
  refine List.find?_eq_none.mpr fun keyword _ => ?_
  simp [plain keyword]

/-- The token that a single terminal gives. -/
def tokenOf (allowed : List Terminal) (text : List Char) (terminal : Terminal) :
    Option (Terminal × List Char) :=
  (ofTerminal terminal text).map fun lexeme =>
    match terminal, keyword? allowed lexeme with
    | .identifier, some keyword => (.word keyword, lexeme)
    | _, _ => (terminal, lexeme)

theorem next_eq (allowed : List Terminal) (text : List Char) :
    next allowed text = (Terminal.priority.filter (sought allowed)).findSome? (tokenOf allowed text) :=
  rfl

private theorem tokenOf_of_ne {allowed : List Terminal} {text : List Char} {terminal : Terminal}
    (other : terminal ≠ .identifier) :
    tokenOf allowed text terminal = (ofTerminal terminal text).map (terminal, ·) := by
  unfold tokenOf
  congr 1
  funext lexeme
  split
  · exact absurd rfl other
  · rfl

theorem tokenOf_eq_none {allowed : List Terminal} {text : List Char} {terminal : Terminal}
    (missing : ofTerminal terminal text = none) : tokenOf allowed text terminal = none := by
  rw [tokenOf, missing, Option.map_none]

/-- The search for a token ends with the first terminal that gives one, wherever those before it give
the same token or none. -/
theorem findSome?_filter_eq (before after : List Terminal) {terminal : Terminal}
    {p : Terminal → Bool} {g : Terminal → Option (Terminal × List Char)}
    {value : Terminal × List Char} (kept : p terminal = true) (self : g terminal = some value)
    (only : ∀ other ∈ before, p other = true → g other = none ∨ g other = some value) :
    ((before ++ terminal :: after).filter p).findSome? g = some value := by
  induction before with
  | nil => simp [kept, self]
  | cons other before ih =>
    obtain ⟨here, later⟩ := List.forall_mem_cons.mp only
    cases sought : p other with
    | false => simpa [sought] using ih later
    | true => rcases here sought with none | some <;> simp_all

/-- Where an identifier is spelled like no keyword, it stands for itself. -/
theorem tokenOf_identifier {allowed : List Terminal} {text lexeme : List Char}
    (found : identifier text = some lexeme)
    (plain : ∀ keyword : Keyword, keyword.spelling ≠ lexeme) :
    tokenOf allowed text .identifier = some (.identifier, lexeme) := by
  simp [tokenOf, ofTerminal, found, keyword?_eq_none plain]

private theorem tokenOf_keyword {allowed : List Terminal} {text : List Char} {keyword : Keyword}
    (found : identifier text = some keyword.spelling) (member : .word keyword ∈ allowed) :
    tokenOf allowed text .identifier = some (.word keyword, keyword.spelling) := by
  simp [tokenOf, ofTerminal, found, keyword?_spelling member]

/-- A keyword that white space or the end of the text follows is not taken for another one. -/
theorem eq_of_fixed {one two : Keyword} {rest lexeme : List Char} (stops : Stops rest)
    (found : fixed one.spelling (two.spelling ++ rest) = some lexeme) : one = two := by
  obtain ⟨⟨after, same⟩, rfl⟩ := fixed_sound found
  have parts : Leaves isNamePart rest := stops.leaves (by decide)
  refine keyword_eq_of_start ⟨after.takeWhile isNamePart, ?_⟩
  calc one.spelling ++ after.takeWhile isNamePart
      = (one.spelling ++ after).takeWhile isNamePart :=
        (List.takeWhile_append_of_pos (spelling_nameParts one)).symm
    _ = (two.spelling ++ rest).takeWhile isNamePart := by rw [same]
    _ = two.spelling := takeWhile_run (spelling_nameParts two) parts

private theorem hexadecimal_of_double {lexeme : List Char} (spells : Spells .double lexeme)
    (rest : List Char) : hexadecimal (lexeme ++ rest) = none := by
  cases spells with
  | fraction signed left right digits exponent =>
    simp only [List.append_assoc]
    exact hexadecimal_eq_none signed left (.inr (leaves_cons (by decide) _))
      (leaves_cons (by decide) _)
  | scaled signed run exponent =>
    simp only [List.append_assoc]
    refine hexadecimal_eq_none signed run.2 (.inl run.1) ?_
    obtain ⟨e, _, _, rfl, mark, -⟩ := exponent
    refine leaves_cons ?_ _
    rcases mark with rfl | rfl <;> decide

private theorem hexadecimal_of_decimal {lexeme rest : List Char} (spells : Spells .decimal lexeme)
    (stops : Stops rest) : hexadecimal (lexeme ++ rest) = none := by
  cases spells with
  | decimal signed run =>
    rw [List.append_assoc]
    exact hexadecimal_eq_none signed run.2 (.inl run.1)
      (stops.leaves (by decide))

private theorem mark_mem_priority (sign : Mark) : .mark sign ∈ Terminal.priority := by
  cases sign <;> decide

private theorem word_mem_priority (keyword : Keyword) : .word keyword ∈ Terminal.priority := by
  cases keyword <;> decide

/-- The next token is the one that is spelled at the start of the text, if it is allowed there and
white space or the end of the text follows it. -/
theorem next_complete {allowed : List Terminal} {terminal : Terminal} {lexeme rest : List Char}
    (member : terminal ∈ allowed) (spells : Spells terminal lexeme) (stops : Stops rest)
    (plain : terminal = .identifier → ∀ keyword : Keyword, keyword.spelling ≠ lexeme) :
    next allowed (lexeme ++ rest) = some (terminal, lexeme) := by
  have self := ofTerminal_complete spells stops
  have apart : ∀ other : Terminal, other.lead ≠ terminal.lead →
      tokenOf allowed (lexeme ++ rest) other = none :=
    fun other different => tokenOf_eq_none (ofTerminal_eq_none spells different rest)
  have itself : terminal ≠ .identifier →
      tokenOf allowed (lexeme ++ rest) terminal = some (terminal, lexeme) := by
    intro other
    rw [tokenOf_of_ne other, self, Option.map_some]
  rw [next_eq]
  cases terminal with
  | endOfFile => cases spells
  | hexadecimal =>
    refine findSome?_filter_eq [] _ (by simpa [sought] using member) (itself (by decide)) ?_
    exact fun _ none => absurd none List.not_mem_nil
  | double =>
    refine findSome?_filter_eq [.hexadecimal] _ (by simpa [sought] using member)
      (itself (by decide)) ?_
    rintro other before -
    obtain rfl := List.mem_singleton.mp before
    exact .inl (tokenOf_eq_none (hexadecimal_of_double spells rest))
  | identifier =>
    have names : ∀ other ∈ [Terminal.hexadecimal, .double], other.lead ≠ some .name := by decide
    exact findSome?_filter_eq [.hexadecimal, .double] _ (by simpa [sought] using member)
      (tokenOf_identifier self (plain rfl)) fun other before _ => .inl (apart other (names other before))
  | string =>
    have quotes : ∀ other ∈ [Terminal.hexadecimal, .double, .identifier],
        other.lead ≠ some .quote := by decide
    exact findSome?_filter_eq [.hexadecimal, .double, .identifier] _ (by simpa [sought] using member)
      (itself (by decide)) fun other before _ => .inl (apart other (quotes other before))
  | decimal =>
    refine findSome?_filter_eq [.hexadecimal, .double, .identifier, .string] _
      (by simpa [sought] using member) (itself (by decide)) ?_
    have numbers : ∀ other ∈ [Terminal.hexadecimal, .double, .identifier, .string],
        other = .hexadecimal ∨ other = .double ∨ other.lead ≠ some .number := by decide
    rintro other before -
    rcases numbers other before with rfl | rfl | different
    · exact .inl (tokenOf_eq_none (hexadecimal_of_decimal spells stops))
    · exact .inl (tokenOf_eq_none (double_of_decimal spells stops))
    · exact .inl (apart other different)
  | word keyword =>
    cases spells
    by_cases names : .identifier ∈ allowed
    · -- keywords are found by reading a whole identifier here
      have others : ∀ other ∈ [Terminal.hexadecimal, .double], other.lead ≠ some .name := by decide
      exact findSome?_filter_eq [.hexadecimal, .double] _ (by simpa [sought] using names)
        (tokenOf_keyword (ofTerminal_complete (spells_identifier keyword) stops) member)
        fun other before _ => .inl (apart other (others other before))
    · obtain ⟨before, after, split⟩ := List.append_of_mem (word_mem_priority keyword)
      rw [split]
      refine findSome?_filter_eq before after (by simp [sought, member, names])
        (itself (by simp)) ?_
      rintro other - kept
      cases other with
      | identifier => exact absurd (by simpa [sought] using kept) names
      | word other =>
        rw [tokenOf_of_ne (by simp)]
        cases found : ofTerminal (.word other) (keyword.spelling ++ rest) with
        | none => exact .inl rfl
        | some lexeme =>
          obtain rfl := eq_of_fixed stops found
          obtain rfl := Option.some.inj (self.symm.trans found)
          exact .inr rfl
      | _ => exact .inl (apart _ (by simp [Terminal.lead]))
  | mark sign =>
    obtain ⟨before, after, split⟩ := List.append_of_mem (mark_mem_priority sign)
    rw [split]
    refine findSome?_filter_eq before after (by simpa [sought] using member) (itself (by simp)) ?_
    rintro other - -
    by_cases same : other = .mark sign
    · rw [same]
      exact .inr (itself (by simp))
    · refine .inl (apart other fun lead => same ?_)
      cases other <;> simp_all [Terminal.lead]

theorem next_sound {allowed : List Terminal} {text lexeme : List Char} {terminal : Terminal}
    (found : next allowed text = some (terminal, lexeme)) :
    (∃ rest, text = lexeme ++ rest) ∧ Spells terminal lexeme := by
  rw [next_eq] at found
  obtain ⟨candidate, -, given⟩ := List.exists_of_findSome?_eq_some found
  obtain ⟨read, same, token⟩ := Option.map_eq_some_iff.mp given
  obtain ⟨start, spells⟩ := ofTerminal_sound same
  split at token
  · rename_i keyword known
    have spelled := List.find?_some known
    simp only [Bool.and_eq_true, beq_iff_eq] at spelled
    cases token
    refine ⟨start, ?_⟩
    rw [← spelled.1]
    exact .word keyword
  · cases token
    exact ⟨start, spells⟩

private theorem lead_of_isSpace {c : Char} (space : isSpace c = true) : Lead.of c = none := by
  rcases isSpace_cases space with rfl | rfl | rfl | rfl | rfl <;> decide

theorem leaves_spells {terminal : Terminal} {lexeme : List Char} (spells : Spells terminal lexeme)
    (rest : List Char) : Leaves isSpace (lexeme ++ rest) := by
  have known := spells.lead_ne_none
  obtain ⟨c, tail, rfl, lead⟩ := spells.lead
  refine leaves_cons (Bool.eq_false_iff.mpr fun space => known ?_) _
  rw [← lead]
  exact lead_of_isSpace space

/-- A token does not begin like white space or a comment. -/
theorem blank_eq_none {terminal : Terminal} {lexeme : List Char} (spells : Spells terminal lexeme)
    (rest : List Char) : blank (lexeme ++ rest) = none := by
  have known := spells.lead_ne_none
  have solid := leaves_spells spells rest
  obtain ⟨c, tail, rfl, lead⟩ := spells.lead
  rw [← lead] at known
  have noHash : c ≠ '#' := by
    rintro rfl
    exact known (by decide)
  have noSlash : c ≠ '/' := by
    rintro rfl
    exact known (by decide)
  simp [blank, noSlash, solid c rfl]

end Lexeme

end IdlLint
