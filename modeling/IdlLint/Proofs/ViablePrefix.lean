import IdlLint.Proofs.MachineOutline
import IdlLint.Proofs.ParseDerivation
import IdlLint.Proofs.TextSplice
import IdlLint.Proofs.TokenOrder

/-! Where errors are reported. Whatever a machine still waits for can be supplied, so that all that was
read before an error could have been the beginning of a document. -/
namespace IdlLint

/-! ### Samples -/

namespace Terminal

/-- A spelling of the terminal. -/
def sample : Terminal → List Char
  | .word keyword => keyword.spelling
  | .mark sign => [sign.char]
  | .identifier => ['a']
  | .string => ['"', '"']
  | .decimal => ['0']
  | .hexadecimal => ['0', 'x', '0']
  | .double => ['0', '.']
  | .endOfFile => []

private theorem spells_sample {terminal : Terminal} (inside : terminal ≠ .endOfFile) :
    Spells terminal terminal.sample := by
  have found : Lexeme.ofTerminal terminal terminal.sample = some terminal.sample := by
    cases terminal with
    | endOfFile => exact absurd rfl inside
    | word keyword => simp [sample, Lexeme.ofTerminal, Lexeme.fixed]
    | mark sign => simp [sample, Lexeme.ofTerminal, Lexeme.fixed]
    | _ => decide
  exact (Lexeme.ofTerminal_sound found).2

private theorem sample_identifier (keyword : Keyword) :
    keyword.spelling ≠ Terminal.identifier.sample := by
  cases keyword <;> decide

end Terminal

/-- The token is spelled like the sample of its terminal. -/
def IsSample (token : Token) : Prop :=
  token.terminal ≠ .endOfFile ∧ token.text = token.terminal.sample

instance (token : Token) : Decidable (IsSample token) :=
  inferInstanceAs (Decidable (_ ∧ _))

/-- A derivation from the first alternative of each rule, without what may be left out. No more rules
than `depth` are opened inside one another. -/
def Tree.sample : Nat → Symbol → Tree
  | _, .terminal terminal => .leaf ⟨terminal, terminal.sample, .nowhere⟩
  | 0, .rule rule => .node rule .nowhere []
  | depth + 1, .rule rule => .node rule .nowhere <| (rule.alternatives.headD []).map fun e =>
      if e.isOptional then [] else [Tree.sample depth e.symbol]

private theorem Symbol.derives_sample (symbol : Symbol) : Derives symbol (Tree.sample 3 symbol) := by
  cases symbol with
  | terminal terminal => exact .leaf ⟨terminal, terminal.sample, .nowhere⟩
  | rule rule => cases rule <;> decide

namespace Element

/-- What can stand for an element. -/
def filler (e : Element) : List Tree :=
  if e.isOptional then [] else [Tree.sample 3 e.symbol]

private theorem fits_filler (e : Element) : Fits Movable e e.filler := by
  unfold filler
  cases repetition : e.repetition with
  | once =>
    simp only [isOptional, repetition]
    refine ⟨by simp [allows, repetition], fun tree member => ?_⟩
    obtain rfl := List.mem_singleton.mp member
    exact e.symbol.derives_sample.movable
  | optional | many =>
    simp only [isOptional, repetition]
    exact ⟨by simp [allows, repetition], fun tree member => absurd member List.not_mem_nil⟩

/-- The tokens of what can stand for the elements. -/
def fillerTokens (elements : List Element) : List Token :=
  Tree.slotTokens (elements.map filler)

end Element

private theorem Rule.isSample_of_mem (rule : Rule) : ∀ alternative ∈ rule.alternatives,
    ∀ elements ∈ alternative.tails, ∀ token ∈ Element.fillerTokens elements, IsSample token := by
  cases rule <;> decide

/-! ### Completions -/

/-- The tokens are samples, and they meet `P` wherever they are put. -/
def Suffices (tokens : List Token) (P : List Token → Prop) : Prop :=
  (∀ token ∈ tokens, IsSample token) ∧
    ∀ placed : List Token, placed.map Token.unplaced = tokens.map Token.unplaced → P placed

/-- Samples supply what is missing of a rule that is being read. -/
theorem Frame.Coherent.suffices {f : Frame} (coherent : f.Coherent) :
    Suffices (Element.fillerTokens f.rest) fun placed => ∃ tree, f.Finishes placed tree := by
  obtain ⟨rule, start, passed, current, elements⟩ := f
  obtain ⟨tail, single⟩ := coherent
  have fits : ∀ elements : List Element,
      List.Forall₂ (Fits Movable) elements (elements.map Element.filler) := fun elements =>
    List.forall₂_map_right_iff.mpr (List.forall₂_same.mpr fun e _ => e.fits_filler)
  constructor
  · obtain ⟨alternative, chosen, part⟩ := tail
    exact rule.isSample_of_mem alternative chosen elements ((List.mem_tails _ _).mpr part)
  · intro placed same
    cases elements with
    | nil =>
      obtain rfl : placed = [] := List.map_eq_nil_iff.mp same
      exact ⟨_, [], rfl, rfl, rfl⟩
    | cons e rest =>
      cases optional : e.isOptional with
      | true =>
        simp only [Element.fillerTokens, List.map_cons, Element.filler, optional, if_true,
          Tree.slotTokens, Tree.forestTokens, List.nil_append] at same
        obtain ⟨moved, grown, rfl, -⟩ := slots_movable (fits rest) same
        exact ⟨_, _, rfl, Fills.skip optional (single e rfl) (fills_nil_iff.mpr ⟨grown, rfl⟩)⟩
      | false =>
        obtain rfl : current = [] := (single e rfl).resolve_right fun many => by
          simp [Element.isOptional, many] at optional
        obtain ⟨moved, grown, rfl, -⟩ := slots_movable (fits (e :: rest)) same
        exact ⟨_, moved, rfl, fills_nil_iff.mpr ⟨grown, rfl⟩⟩

private theorem Suffices.append {tokens more : List Token} {P Q R : List Token → Prop}
    (first : Suffices tokens P) (second : Suffices more Q)
    (both : ∀ front back, P front → Q back → R (front ++ back)) : Suffices (tokens ++ more) R := by
  refine ⟨List.forall_mem_append.mpr ⟨first.1, second.1⟩, fun placed same => ?_⟩
  rw [List.map_append] at same
  obtain ⟨front, back, rfl, frontEq, backEq⟩ := List.map_eq_append_iff.mp same
  exact both front back (first.2 front frontEq) (second.2 back backEq)

private theorem Nested.suffices {rule : Rule} {below : List Frame} (nested : Nested rule below) :
    ∃ tokens, Suffices tokens fun placed => ∀ part, ∃ tree, Resumes below part placed tree := by
  induction below generalizing rule with
  | nil =>
    refine ⟨[], fun _ member => absurd member List.not_mem_nil, fun placed same part => ?_⟩
    exact ⟨part, List.map_eq_nil_iff.mp same, rfl⟩
  | cons f below ih =>
    obtain ⟨coherent, -, around⟩ := nested
    obtain ⟨later, outside⟩ := ih around
    -- What the frame waits for after the part does not depend on the part.
    have rests : ∀ part, (f.plug part).rest = (f.plug default).rest := fun part =>
      congrArg Prod.snd (Frame.plug_outline rfl part default)
    have inside : Suffices (Element.fillerTokens (f.plug default).rest) fun placed =>
        ∀ part, ∃ tree, (f.plug part).Finishes placed tree := by
      refine ⟨(coherent.plug default).suffices.1, fun placed same part => ?_⟩
      rw [← rests part] at same
      exact (coherent.plug part).suffices.2 placed same
    refine ⟨_, inside.append outside fun here later finishes resumes part => ?_⟩
    obtain ⟨whole, finished⟩ := finishes part
    obtain ⟨tree, resumed⟩ := resumes whole
    exact ⟨tree, whole, here, later, rfl, finished, resumed⟩

/-- Whatever has been read so far, samples complete it to a document. -/
theorem Machine.Coherent.suffices {m : Machine} (coherent : m.Coherent) :
    ∃ tokens, Suffices tokens fun placed => ∃ tree, m.Completes placed tree := by
  obtain ⟨later, outside⟩ := coherent.nested.suffices
  refine ⟨_, coherent.top.suffices.append outside fun here later finishes resumes => ?_⟩
  obtain ⟨part, finished⟩ := finishes
  obtain ⟨tree, resumed⟩ := resumes part
  exact ⟨tree, part, here, later, rfl, finished, resumed⟩

/-! ### Places of errors -/

namespace Derivation

open Schema

/-- What was read up to a place can be continued from there to a document. -/
theorem exists_continuation {front back : List Char} {c : Char} {tokens : List Token} {m : Machine}
    (reads : Reads (c :: back) .initial .origin front tokens m) (inside : c ≠ '\n') :
    ∃ more tree, Tree.ofText (front ++ more) = .ok tree := by
  have coherent := reads.coherent Machine.initial_coherent
  obtain ⟨missing, samples, completes⟩ := coherent.suffices
  have spaced : Spaced (written missing) missing := spaced_written fun token member => by
    obtain ⟨inner, text⟩ := samples token member
    exact text ▸ Terminal.spells_sample inner
  have plain : PlainNames missing := fun token member name keyword => by
    rw [(samples token member).2, name]
    exact Terminal.sample_identifier keyword
  have separates : Lexeme.Separates (written missing) := by
    cases missing with
    | nil => exact fun _ head => by cases head
    | cons token rest => exact fun _ head => Option.some.inj head ▸ by decide
  obtain ⟨placed, same, continues⟩ := read_complete spaced plain (Position.origin.after front)
  obtain ⟨tree, completed⟩ := completes placed same
  have upTo : Reads ([] ++ c :: back) .initial .origin front tokens m := reads
  have again : Reads (written missing) .initial .origin front tokens m :=
    upTo.change separates (keepsLineEnd_of_ne inside _ _)
  refine ⟨written missing, tree, ?_⟩
  rw [Tree.ofText, again.read_eq]
  exact continues m _ tree coherent completed

private theorem finish_error {m : Machine} {last : Position} {e : ParseError}
    (failed : finish m last = .error e) : e.position = last := by
  unfold finish at failed
  split at failed <;> cases failed <;> rfl

/-- The empty document. -/
theorem grown_empty : Grown (.rule .document) (.node .document .origin [[]]) :=
  grown_rule_iff.mpr ⟨[[]], rfl, _, List.mem_singleton.mpr rfl,
    .cons ⟨rfl, fun _ member => absurd member List.not_mem_nil⟩ .nil⟩

/-- An error is reported at a character that is no white space, and the text before it has been read. -/
theorem ofText_error {text : List Char} {e : ParseError} (failed : Tree.ofText text = .error e) :
    ∃ front c back tokens m, text = front ++ c :: back ∧ e.position = .behind front ∧ c ≠ '\n' ∧
      Reads (c :: back) .initial .origin front tokens m := by
  obtain ⟨front, rest, tokens, m, rfl, reads, outcome⟩ :=
    exists_reads Machine.initial_coherent .origin text
  rw [Tree.ofText, reads.read_eq] at failed
  cases rest with
  | cons c back =>
    obtain ⟨solid, error⟩ := outcome.resolve_left (by simp)
    obtain ⟨problem, same⟩ := error (Reads.lastStart tokens .origin)
    rw [same] at failed
    cases failed
    refine ⟨front, c, back, tokens, m, rfl, Position.origin_after front, ?_, reads⟩
    rintro rfl
    simp [Lexeme.blank, Lexeme.isSpace] at solid
  | nil =>
    rcases tokens.eq_nil_or_concat' with rfl | ⟨before, token, rfl⟩
    · -- Nothing but blanks is a document.
      have empty := Machine.initial_completes_iff.mpr ⟨grown_empty, rfl⟩
      have completes := (reads.completes_iff Machine.initial_coherent [] _).mp empty
      rw [read, finish_complete (reads.coherent Machine.initial_coherent) completes] at failed
      cases failed
    · obtain ⟨left, right, m₁, m₂, rfl, place, upTo, next, -⟩ := reads.split
      have spells := (Lexeme.next_sound next).2
      obtain ⟨c, text, same, -⟩ := spells.lead
      rw [same] at spells upTo ⊢
      refine ⟨left, c, text ++ right, before, m₁, by simp, ?_, spells.ne_lineFeed, ?_⟩
      · rw [finish_error failed, Reads.lastStart_concat, place, Position.origin_after]
      · simpa using upTo

end Derivation

namespace Schema

/-- A text that is rejected is rejected at the place of one of its characters, and the text up to there
can be continued to one that is not rejected. -/
theorem rejected_after_viable {text : List Char} {e : ParseError}
    (rejected : parse text = .error (.rejected e)) :
    ∃ front c back, text = front ++ c :: back ∧ e.position = .behind front ∧
      ∃ more, ∀ e', parse (front ++ more) ≠ .error (.rejected e') := by
  have failed := parse_eq_rejected_iff.mp rejected
  obtain ⟨front, c, back, tokens, m, rfl, place, inside, reads⟩ := Derivation.ofText_error failed
  obtain ⟨more, tree, accepted⟩ := Derivation.exists_continuation reads inside
  refine ⟨front, c, back, rfl, place, more, fun e' again => ?_⟩
  rw [parse_eq_rejected_iff, accepted] at again
  cases again

/-- An enumeration that breaks off after the mark before a value. -/
def openEnum : List Char :=
  "enum E \x7b\n  A = 1,\n  B = ".toList

/-- The error is reported at the last token, and the text before it is viable. -/
theorem rejected_after_viable_openEnum :
    ∃ e, parse openEnum = .error (.rejected e) ∧ e.position = ⟨3, 5⟩ ∧
      ∃ front c back, openEnum = front ++ c :: back ∧ e.position = .behind front ∧
        ∃ more, ∀ e', parse (front ++ more) ≠ .error (.rejected e') := by
  have failed : (match parse openEnum with
      | .error (.rejected e) => some e.position
      | _ => none) = some ⟨3, 5⟩ := by decide +kernel
  split at failed
  · rename_i e result
    exact ⟨e, result, Option.some.inj failed, rejected_after_viable result⟩
  · cases failed

end Schema

end IdlLint
