import IdlLint.Lint.Session
import Mathlib.Data.List.Basic

/-! Line feeds in messages. Numbers, quoted texts and the names of terminals have none, so what the
system, the decoder and the parser say stands on one line, whatever they say it about. -/
namespace IdlLint

open IdlLint.Schema

/-- The number of line feeds in a text. -/
def lineFeeds (s : String) : Nat :=
  s.toList.count '\n'

theorem lineFeeds_append (a b : String) : lineFeeds (a ++ b) = lineFeeds a + lineFeeds b := by
  simp [lineFeeds]

theorem lineFeeds_eq_zero_iff {s : String} : lineFeeds s = 0 ↔ '\n' ∉ s.toList :=
  List.count_eq_zero

/-- A text that is written out is a list of characters. -/
theorem lineFeeds_literal {characters : List Char} (none : characters.contains '\n' = false) :
    lineFeeds (String.ofList characters) = 0 := by
  rw [lineFeeds_eq_zero_iff, String.toList_ofList]
  simpa using none

theorem lineFeeds_joined {a b : String} (first : lineFeeds a = 0) (second : lineFeeds b = 0) :
    lineFeeds (a ++ b) = 0 := by
  rw [lineFeeds_append, first, second]

theorem lineFeeds_framed {before text after : String} (first : lineFeeds before = 0)
    (inside : lineFeeds text = 0) (last : lineFeeds after = 0) :
    lineFeeds (before ++ text ++ after) = 0 :=
  lineFeeds_joined (lineFeeds_joined first inside) last

private theorem lineFeeds_intercalate (separator : String) {parts : List String}
    (between : lineFeeds separator = 0) (each : ∀ part ∈ parts, lineFeeds part = 0) :
    lineFeeds (separator.intercalate parts) = 0 := by
  induction parts with
  | nil => rfl
  | cons part rest ih =>
    obtain ⟨here, later⟩ := List.forall_mem_cons.mp each
    cases rest with
    | nil => simpa using here
    | cons next more => simp [lineFeeds_append, here, between, ih later]

/-! ### Numbers and quotations -/

theorem lineFeeds_nat (n : Nat) : lineFeeds (toString n) = 0 := by
  rw [lineFeeds_eq_zero_iff, Nat.toString_eq_repr, Nat.toList_repr]
  intro member
  exact absurd (Nat.isDigit_of_mem_toDigits (by decide) (by decide) member) (by decide)

theorem lineFeeds_int (n : Int) : lineFeeds (toString n) = 0 := by
  cases n with
  | ofNat n => exact lineFeeds_nat n
  | negSucc n =>
    have spelled : toString (Int.negSucc n) = "-" ++ toString (n + 1) := rfl
    rw [spelled]
    exact lineFeeds_joined (lineFeeds_literal rfl) (lineFeeds_nat _)

namespace Text

private theorem notMem_hexDigits (width n : Nat) : '\n' ∉ hexDigits width n := by
  intro member
  obtain ⟨i, -, same⟩ := List.mem_map.mp member
  have small : n / Nat.pow 16 i % 16 < 16 := Nat.mod_lt _ (by decide)
  have none : ((List.range 16).all fun digit => Nat.digitChar digit != '\n') = true := by decide
  have other := List.all_eq_true.mp none _ (List.mem_range.mpr small)
  rw [same] at other
  cases other

private theorem notMem_escapeChar {quote : Char} (mark : quote ≠ '\n') (c : Char) :
    '\n' ∉ escapeChar quote c := by
  unfold escapeChar
  split_ifs with special feed
  · rcases special with rfl | rfl
    · simp [Ne.symm mark]
    · decide
  · decide
  · decide
  · decide
  · simpa using Ne.symm feed
  · simp [notMem_hexDigits]
  · simp [notMem_hexDigits]
  · simp [notMem_hexDigits]

private theorem quoteFor_ne (text : List Char) : quoteFor text ≠ '\n' := by
  unfold quoteFor
  split <;> decide

private theorem lineFeeds_quoted (text : List Char) : lineFeeds (quoted text) = 0 := by
  have mark := quoteFor_ne text
  have inside : '\n' ∉ text.flatMap (escapeChar (quoteFor text)) := by
    intro member
    obtain ⟨c, -, escaped⟩ := List.mem_flatMap.mp member
    exact notMem_escapeChar mark c escaped
  rw [lineFeeds_eq_zero_iff, quoted, String.toList_ofList]
  simp [inside, Ne.symm mark]

theorem lineFeeds_decodeError (e : DecodeError) : lineFeeds e.message = 0 := by
  obtain ⟨offset, byte, count, reason⟩ := e
  have hex : lineFeeds (String.ofList (hexDigits 2 byte.toNat)) = 0 := by
    rw [lineFeeds_eq_zero_iff, String.toList_ofList]
    exact notMem_hexDigits _ _
  have cause : lineFeeds reason.message = 0 := by
    cases reason <;> exact lineFeeds_literal rfl
  refine lineFeeds_joined (lineFeeds_framed (lineFeeds_literal rfl) ?_ (lineFeeds_literal rfl)) cause
  split
  · refine lineFeeds_joined ?_ (lineFeeds_nat _)
    exact lineFeeds_framed (lineFeeds_literal rfl) hex (lineFeeds_literal rfl)
  · refine lineFeeds_framed ?_ (lineFeeds_literal rfl) (lineFeeds_nat _)
    exact lineFeeds_joined (lineFeeds_literal rfl) (lineFeeds_nat _)

end Text

/-- What the system says about a path quotes it. -/
theorem lineFeeds_pathError (e : PathError) (path : Path) : lineFeeds (e.message path) = 0 := by
  have about : ∀ cause : String, lineFeeds cause = 0 →
      lineFeeds (cause ++ ": " ++ Text.quote path.toString) = 0 :=
    fun cause plain => lineFeeds_framed plain (lineFeeds_literal rfl) (Text.lineFeeds_quoted _)
  cases e with
  | missing => exact about "[Errno 2] No such file or directory" (lineFeeds_literal rfl)
  | notDirectory => exact about "[Errno 20] Not a directory" (lineFeeds_literal rfl)
  | isDirectory => exact about "[Errno 21] Is a directory" (lineFeeds_literal rfl)
  | nameTooLong => exact about "[Errno 36] File name too long" (lineFeeds_literal rfl)
  | nullCharacter => exact lineFeeds_literal rfl

/-! ### The parser -/

private theorem lineFeeds_terminal (terminal : Terminal) : lineFeeds terminal.name = 0 := by
  cases terminal with
  | word keyword =>
    have spelled : lineFeeds (String.ofList keyword.spelling) = 0 := by
      cases keyword <;> exact lineFeeds_literal rfl
    exact lineFeeds_framed (lineFeeds_literal rfl) spelled (lineFeeds_literal rfl)
  | mark sign =>
    have spelled : lineFeeds (String.singleton sign.char) = 0 := by
      cases sign <;> exact lineFeeds_literal rfl
    exact lineFeeds_framed (lineFeeds_literal rfl) spelled (lineFeeds_literal rfl)
  | _ => exact lineFeeds_literal rfl

namespace Problem

private theorem mem_of_mem_dedup {names : List String} {name : String} (member : name ∈ dedup names) :
    name ∈ names := by
  fun_induction dedup names with
  | case1 b rest ih => exact List.mem_cons_of_mem _ (ih member)
  | case2 a b rest other ih =>
    rcases List.mem_cons.mp member with rfl | later
    · exact List.mem_cons_self ..
    · exact List.mem_cons_of_mem _ (ih later)
  | case3 => exact member

private theorem lineFeeds_names (expected : List Terminal) :
    ∀ name ∈ names expected, lineFeeds name = 0 := by
  intro name member
  have listed := List.mem_mergeSort.mp (mem_of_mem_dedup member)
  obtain ⟨terminal, -, rfl⟩ := List.mem_map.mp listed
  exact lineFeeds_terminal terminal

/-- What is wrong with a text is said on one line: what stands in the text is quoted. -/
theorem lineFeeds_message (problem : Problem) : lineFeeds problem.message = 0 := by
  cases problem with
  | character c => exact lineFeeds_joined (lineFeeds_literal rfl) (Text.lineFeeds_quoted [c])
  | token found expected =>
    have listed := lineFeeds_intercalate " or " (lineFeeds_literal rfl) (lineFeeds_names expected)
    have said : ∀ shown : String, lineFeeds shown = 0 →
        lineFeeds (if (names expected).isEmpty || mostNames < (names expected).length then
          "unexpected " ++ shown
          else "expected " ++ " or ".intercalate (names expected) ++ ", found " ++ shown) = 0 := by
      intro shown plain
      split
      · exact lineFeeds_joined (lineFeeds_literal rfl) plain
      · refine lineFeeds_joined ?_ plain
        exact lineFeeds_framed (lineFeeds_literal rfl) listed (lineFeeds_literal rfl)
    cases found with
    | some text => exact said _ (Text.lineFeeds_quoted text)
    | none => exact said _ (lineFeeds_literal rfl)

end Problem

end IdlLint
