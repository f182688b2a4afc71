import IdlLint.Proofs.LexemeSpelling
import IdlLint.Report.Json
import IdlLint.Schema.Literal

/-! The grammar of the notation for nested data, with everything that a reader of it has to expect:
blanks around all marks, the three fixed words, escapes of every kind, pairs of code units for
characters beyond the basic plane, and halves of pairs that stand alone. No text has two readings. -/
namespace IdlLint.Report.Json

open IdlLint.Lexeme

/-- What a text in the notation stands for. Numbers are kept as their numerals. -/
inductive Value where
  | null
  | boolean (value : Bool)
  | number (numeral : List Char)
  | text (value : CodeText)
  | array (items : List Value)
  | object (members : List (CodeText × Value))

/-! ### Texts in quotes -/

/-- The letters that stand for a character after a backslash. -/
def letters : List (Char × Char) :=
  [('"', '"'), ('\\', '\\'), ('/', '/'), ('b', '\x08'), ('f', '\x0c'), ('n', '\n'), ('r', '\r'),
    ('t', '\t')]

/-- The code unit that four hexadecimal digits stand for. -/
def unitOf (a b c d : Char) : Nat :=
  [a, b, c, d].foldl (fun n digit => 16 * n + Schema.Literal.hexValue digit) 0

def AreHex (a b c d : Char) : Prop :=
  ([a, b, c, d].all isHexDigit) = true

def IsHighHalf (unit : Nat) : Prop := 0xd800 ≤ unit ∧ unit < 0xdc00

def IsLowHalf (unit : Nat) : Prop := 0xdc00 ≤ unit ∧ unit < 0xe000

/-- The code point of two code units. -/
def joined (high low : Nat) : CodePoint :=
  Fin.ofNat _ (0x10000 + (high - 0xd800) * 1024 + (low - 0xdc00))

/-- A text goes on with the second half of a pair. -/
def StartsWithLow (text : List Char) : Prop :=
  ∃ a b c d rest, text = '\\' :: 'u' :: a :: b :: c :: d :: rest ∧ AreHex a b c d ∧
    IsLowHalf (unitOf a b c d)

/-- After an opening quote: the code points up to the closing quote, and the text behind it. -/
inductive Quoted : List Char → CodeText → List Char → Prop where
  | close (rest : List Char) : Quoted ('"' :: rest) [] rest
  | plain {c : Char} {text rest : List Char} {value : CodeText} (printed : 32 ≤ c.toNat)
      (inside : c ≠ '"') (free : c ≠ '\\') (more : Quoted text value rest) :
      Quoted (c :: text) (Text.point c :: value) rest
  | letter {mark c : Char} {text rest : List Char} {value : CodeText} (known : (mark, c) ∈ letters)
      (more : Quoted text value rest) :
      Quoted ('\\' :: mark :: text) (Text.point c :: value) rest
  /-- A unit on its own; the first half of a pair only if the second one does not follow. -/
  | unit {a b c d : Char} {text rest : List Char} {value : CodeText} (digits : AreHex a b c d)
      (alone : IsHighHalf (unitOf a b c d) → ¬StartsWithLow text) (more : Quoted text value rest) :
      Quoted ('\\' :: 'u' :: a :: b :: c :: d :: text) (Fin.ofNat _ (unitOf a b c d) :: value) rest
  | pair {a b c d a' b' c' d' : Char} {text rest : List Char} {value : CodeText}
      (digits : AreHex a b c d) (digits' : AreHex a' b' c' d') (high : IsHighHalf (unitOf a b c d))
      (low : IsLowHalf (unitOf a' b' c' d')) (more : Quoted text value rest) :
      Quoted ('\\' :: 'u' :: a :: b :: c :: d :: '\\' :: 'u' :: a' :: b' :: c' :: d' :: text)
        (joined (unitOf a b c d) (unitOf a' b' c' d') :: value) rest

private theorem letters_inj {mark c c' : Char}
    (one : (mark, c) ∈ letters) (two : (mark, c') ∈ letters) : c = c' := by
  have all : (letters.all fun p => letters.all fun q => p.1 != q.1 || p.2 == q.2) = true := by decide
  have same := List.all_eq_true.mp (List.all_eq_true.mp all _ one) _ two
  simpa using same

private theorem letter_ne_unit {mark c : Char} (known : (mark, c) ∈ letters) : mark ≠ 'u' := by
  have all : (letters.all fun p => p.1 != 'u') = true := by decide
  have other := List.all_eq_true.mp all _ known
  simpa using other

private theorem Quoted.unique {text rest rest' : List Char} {value value' : CodeText}
    (one : Quoted text value rest) (two : Quoted text value' rest') :
    value = value' ∧ rest = rest' := by
  induction one generalizing value' rest' with
  | close rest =>
    cases two with
    | close => exact ⟨rfl, rfl⟩
    | plain _ inside => exact absurd rfl inside
  | plain printed inside free more ih =>
    cases two with
    | close => exact absurd rfl inside
    | plain _ _ _ more' =>
      obtain ⟨rfl, rfl⟩ := ih more'
      exact ⟨rfl, rfl⟩
    | letter => exact absurd rfl free
    | unit => exact absurd rfl free
    | pair => exact absurd rfl free
  | letter known more ih =>
    cases two with
    | plain _ _ free => exact absurd rfl free
    | letter known' more' =>
      obtain ⟨rfl, rfl⟩ := ih more'
      exact ⟨by rw [letters_inj known known'], rfl⟩
    | unit => exact absurd rfl (letter_ne_unit known)
    | pair => exact absurd rfl (letter_ne_unit known)
  | unit digits alone more ih =>
    cases two with
    | plain _ _ free => exact absurd rfl free
    | letter known => exact absurd rfl (letter_ne_unit known)
    | unit _ _ more' =>
      obtain ⟨rfl, rfl⟩ := ih more'
      exact ⟨rfl, rfl⟩
    | pair _ digits' high low => exact absurd ⟨_, _, _, _, _, rfl, digits', low⟩ (alone high)
  | pair digits digits' high low more ih =>
    cases two with
    | plain _ _ free => exact absurd rfl free
    | letter known => exact absurd rfl (letter_ne_unit known)
    | unit _ alone => exact absurd ⟨_, _, _, _, _, rfl, digits', low⟩ (alone high)
    | pair _ _ _ _ more' =>
      obtain ⟨rfl, rfl⟩ := ih more'
      exact ⟨rfl, rfl⟩

/-! ### Blanks and numerals -/

def isBlank (c : Char) : Bool :=
  c == ' ' || c == '\t' || c == '\n' || c == '\r'

/-- `rest` is left of `text` when some blanks at its start are skipped. -/
def Skips (text rest : List Char) : Prop :=
  ∃ blanks, text = blanks ++ rest ∧ ∀ c ∈ blanks, isBlank c = true

private theorem Skips.dropWhile {text rest : List Char} (skips : Skips text rest)
    (leaves : Leaves isBlank rest) : text.dropWhile isBlank = rest := by
  obtain ⟨blanks, rfl, all⟩ := skips
  rw [List.dropWhile_append_of_pos all]
  cases rest with
  | nil => rfl
  | cons c rest => simp [leaves c rfl]

private theorem Skips.unique {text rest rest' : List Char} (one : Skips text rest)
    (two : Skips text rest') (leaves : Leaves isBlank rest) (leaves' : Leaves isBlank rest') :
    rest = rest' :=
  (one.dropWhile leaves).symm.trans (two.dropWhile leaves')

/-- The first mark behind blanks, and what follows it. -/
theorem Skips.mark_unique {text rest rest' : List Char} {mark mark' : Char}
    (one : Skips text (mark :: rest)) (two : Skips text (mark' :: rest'))
    (solid : isBlank mark = false) (solid' : isBlank mark' = false) : mark = mark' ∧ rest = rest' :=
  List.cons.inj (one.unique two (leaves_cons solid rest) (leaves_cons solid' rest'))

/-- The characters that numerals are made of, also those of the words for numbers without digits. -/
def isBare (c : Char) : Bool :=
  c.isDigit || ['+', '-', '.', 'e', 'E', 'I', 'N', 'a', 'f', 'i', 'n', 't', 'y'].contains c

/-- A numeral does not go on with blanks, nor with what comes after them. -/
theorem Skips.leaves {text rest : List Char} (skips : Skips text rest) (leaves : Leaves isBare rest) :
    Leaves isBare text := by
  obtain ⟨blanks, rfl, all⟩ := skips
  cases blanks with
  | nil => exact leaves
  | cons c more =>
    apply leaves_cons
    have blank := all c (List.mem_cons_self ..)
    simp only [isBlank, Bool.or_eq_true, beq_iff_eq] at blank
    rcases blank with ((rfl | rfl) | rfl) | rfl <;> decide

/-- The characters that numerals begin with. -/
def isLead (c : Char) : Bool :=
  c.isDigit || c == '-' || c == 'I' || c == 'N'

/-- What a numeral has to look like, so that it can be told from anything else. -/
structure IsToken (numeral : List Char) : Prop where
  bare : ∀ c ∈ numeral, isBare c = true
  lead : ∃ c rest, numeral = c :: rest ∧ isLead c = true

private theorem IsToken.lead_of_shape {written more rest : List Char} {c : Char}
    (token : IsToken written) (shape : c :: more = written ++ rest) : isLead c = true := by
  obtain ⟨first, behind, rfl, lead⟩ := token.lead
  obtain ⟨rfl, -⟩ := List.cons.inj shape
  exact lead

/-! ### Values -/

/-- The parts of a text that are read on their own. -/
inductive Phrase where
  | value (value : Value)
  /-- A member of an object. -/
  | member (name : CodeText) (value : Value)
  /-- The items after some item of an array, and the end of the array. -/
  | items (items : List Value)
  /-- The members after some member of an object, and the end of the object. -/
  | members (members : List (CodeText × Value))

/-- `Reads numeral phrase text rest`: the phrase stands at the start of `text`, and `rest` follows it.
What is taken for a numeral is a parameter. -/
inductive Reads (numeral : List Char → Prop) : Phrase → List Char → List Char → Prop where
  | null (rest : List Char) : Reads numeral (.value .null) ('n' :: 'u' :: 'l' :: 'l' :: rest) rest
  | yes (rest : List Char) :
      Reads numeral (.value (.boolean true)) ('t' :: 'r' :: 'u' :: 'e' :: rest) rest
  | no (rest : List Char) :
      Reads numeral (.value (.boolean false)) ('f' :: 'a' :: 'l' :: 's' :: 'e' :: rest) rest
  | number {written text rest : List Char} (spelled : numeral written)
      (shape : text = written ++ rest) : Reads numeral (.value (.number written)) text rest
  | text {text rest : List Char} {value : CodeText} (quoted : Quoted text value rest) :
      Reads numeral (.value (.text value)) ('"' :: text) rest
  | emptyArray {text rest : List Char} (close : Skips text (']' :: rest)) :
      Reads numeral (.value (.array [])) ('[' :: text) rest
  | array {text start after rest : List Char} {item : Value} {more : List Value}
      (blank : Skips text start) (first : Reads numeral (.value item) start after)
      (others : Reads numeral (.items more) after rest) :
      Reads numeral (.value (.array (item :: more))) ('[' :: text) rest
  | emptyObject {text rest : List Char} (close : Skips text ('}' :: rest)) :
      Reads numeral (.value (.object [])) ('{' :: text) rest
  | object {text start after rest : List Char} {name : CodeText} {value : Value}
      {more : List (CodeText × Value)} (blank : Skips text start)
      (first : Reads numeral (.member name value) start after)
      (others : Reads numeral (.members more) after rest) :
      Reads numeral (.value (.object ((name, value) :: more))) ('{' :: text) rest
  | member {text behind colon start rest : List Char} {name : CodeText} {value : Value}
      (quoted : Quoted text name behind) (mark : Skips behind (':' :: colon))
      (blank : Skips colon start) (rests : Reads numeral (.value value) start rest) :
      Reads numeral (.member name value) ('"' :: text) rest
  | itemsEnd {text rest : List Char} (close : Skips text (']' :: rest)) :
      Reads numeral (.items []) text rest
  | item {text comma start after rest : List Char} {item : Value} {more : List Value}
      (mark : Skips text (',' :: comma)) (blank : Skips comma start)
      (first : Reads numeral (.value item) start after)
      (others : Reads numeral (.items more) after rest) :
      Reads numeral (.items (item :: more)) text rest
  | membersEnd {text rest : List Char} (close : Skips text ('}' :: rest)) :
      Reads numeral (.members []) text rest
  | nextMember {text comma start after rest : List Char} {name : CodeText} {value : Value}
      {more : List (CodeText × Value)} (mark : Skips text (',' :: comma)) (blank : Skips comma start)
      (first : Reads numeral (.member name value) start after)
      (others : Reads numeral (.members more) after rest) :
      Reads numeral (.members ((name, value) :: more)) text rest

/-- A whole text that stands for a value, with blanks around it. -/
def Denotes (numeral : List Char → Prop) (value : Value) (text : List Char) : Prop :=
  ∃ start behind, Skips text start ∧ Reads numeral (.value value) start behind ∧ Skips behind []

variable {numeral : List Char → Prop}

private theorem solid_of_isLead {c : Char} (lead : isLead c = true) :
    isBlank c = false ∧ c ≠ ']' := by
  constructor
  · rw [Bool.eq_false_iff]
    intro blank
    simp only [isBlank, Bool.or_eq_true, beq_iff_eq] at blank
    rcases blank with ((rfl | rfl) | rfl) | rfl <;> exact absurd lead (by decide)
  · rintro rfl
    exact absurd lead (by decide)

/-- No value begins with a blank, or with the end of an array. -/
theorem Reads.solid (tokens : ∀ written, numeral written → IsToken written) {value : Value}
    {text rest : List Char} (reads : Reads numeral (.value value) text rest) :
    ∃ c more, text = c :: more ∧ isBlank c = false ∧ c ≠ ']' := by
  cases reads with
  | null | yes | no | text | emptyArray | array | emptyObject | object =>
    exact ⟨_, _, rfl, by decide, by decide⟩
  | number spelled shape =>
    obtain ⟨c, more, rfl, lead⟩ := (tokens _ spelled).lead
    exact ⟨c, more ++ rest, shape, solid_of_isLead lead⟩

private theorem Reads.leaves_blank (tokens : ∀ written, numeral written → IsToken written)
    {value : Value} {text rest : List Char} (reads : Reads numeral (.value value) text rest) :
    Leaves isBlank text := by
  obtain ⟨c, more, rfl, solid, -⟩ := reads.solid tokens
  exact leaves_cons solid more

private theorem Reads.leaves_member {name : CodeText} {value : Value} {text rest : List Char}
    (reads : Reads numeral (.member name value) text rest) : Leaves isBlank text := by
  cases reads with
  | member => exact leaves_cons (by decide) _

private theorem Reads.leaves_items {items : List Value} {text rest : List Char}
    (reads : Reads numeral (.items items) text rest) : Leaves isBare text := by
  cases reads with
  | itemsEnd close => exact close.leaves (leaves_cons (by decide) _)
  | item mark => exact mark.leaves (leaves_cons (by decide) _)

private theorem Reads.leaves_members {members : List (CodeText × Value)} {text rest : List Char}
    (reads : Reads numeral (.members members) text rest) : Leaves isBare text := by
  cases reads with
  | membersEnd close => exact close.leaves (leaves_cons (by decide) _)
  | nextMember mark => exact mark.leaves (leaves_cons (by decide) _)

/-- Where an item stands the array is not closed. -/
theorem Reads.not_closed (tokens : ∀ written, numeral written → IsToken written) {value : Value}
    {text start after rest : List Char} (reads : Reads numeral (.value value) start after)
    (blank : Skips text start) : ¬ Skips text (']' :: rest) := by
  intro close
  obtain ⟨c, more, rfl, solid, other⟩ := reads.solid tokens
  exact other (blank.mark_unique close solid (by decide)).1

/-- Where a member stands the object is not closed. -/
theorem Reads.not_emptied {name : CodeText} {value : Value} {text start after rest : List Char}
    (reads : Reads numeral (.member name value) start after) (blank : Skips text start) :
    ¬ Skips text ('}' :: rest) := by
  intro close
  cases reads with
  | member => exact absurd (blank.mark_unique close (by decide) (by decide)).1 (by decide)

/-- A value that begins as numerals do is a number. -/
theorem Reads.number_of_lead {value : Value} {c : Char} {text more rest : List Char}
    (reads : Reads numeral (.value value) text rest) (first : text = c :: more)
    (lead : isLead c = true) :
    ∃ written, value = .number written ∧ numeral written ∧ text = written ++ rest := by
  cases reads with
  | null | yes | no | text | emptyArray | array | emptyObject | object =>
    obtain ⟨rfl, -⟩ := List.cons.inj first
    exact absurd lead (by decide)
  | number spelled shape => exact ⟨_, rfl, spelled, shape⟩

/-- That a phrase and what follows it are the only ones that can be read. What follows a value must not
go on with its numeral. -/
def Phrase.IsUnique (numeral : List Char → Prop) (text rest : List Char) : Phrase → Prop
  | .value v => Leaves isBare rest → ∀ v' rest', Reads numeral (.value v') text rest' →
      Leaves isBare rest' → v' = v ∧ rest' = rest
  | .member name v => Leaves isBare rest → ∀ name' v' rest',
      Reads numeral (.member name' v') text rest' → Leaves isBare rest' →
        name' = name ∧ v' = v ∧ rest' = rest
  | .items vs => ∀ vs' rest', Reads numeral (.items vs') text rest' → vs' = vs ∧ rest' = rest
  | .members ms => ∀ ms' rest', Reads numeral (.members ms') text rest' → ms' = ms ∧ rest' = rest

private theorem Reads.unique (tokens : ∀ written, numeral written → IsToken written) {phrase : Phrase}
    {text rest : List Char} (reads : Reads numeral phrase text rest) :
    phrase.IsUnique numeral text rest := by
  -- The first character tells which rule a value is read by; blanks are skipped up to the next mark.
  induction reads with
  | null rest | yes rest | no rest =>
    intro _ value' rest' other _
    cases other with
    | number spelled shape => exact absurd ((tokens _ spelled).lead_of_shape shape) (by decide)
    | _ => exact ⟨rfl, rfl⟩
  | @number written text rest spelled shape =>
    intro leaves value' rest' other leaves'
    obtain ⟨c, more, rfl, lead⟩ := (tokens _ spelled).lead
    obtain ⟨written', rfl, spelled', shape'⟩ := other.number_of_lead shape lead
    have equal := takeWhile_run (tokens _ spelled).bare leaves
    rw [← shape, shape', takeWhile_run (tokens _ spelled').bare leaves'] at equal
    rw [equal] at shape'
    exact ⟨by rw [equal], List.append_cancel_left (shape'.symm.trans shape)⟩
  | text quoted =>
    intro _ value' rest' other _
    cases other with
    | number spelled shape => exact absurd ((tokens _ spelled).lead_of_shape shape) (by decide)
    | text quoted' =>
      obtain ⟨rfl, rfl⟩ := quoted.unique quoted'
      exact ⟨rfl, rfl⟩
  | emptyArray close =>
    intro _ value' rest' other _
    cases other with
    | number spelled shape => exact absurd ((tokens _ spelled).lead_of_shape shape) (by decide)
    | emptyArray close' => exact ⟨rfl, (close'.mark_unique close (by decide) (by decide)).2⟩
    | array blank first _ => exact absurd close (first.not_closed tokens blank)
  | array blank first others ihFirst ihOthers =>
    intro _ value' rest' other _
    cases other with
    | number spelled shape => exact absurd ((tokens _ spelled).lead_of_shape shape) (by decide)
    | emptyArray close => exact absurd close (first.not_closed tokens blank)
    | array blank' first' others' =>
      obtain rfl := blank.unique blank' (first.leaves_blank tokens) (first'.leaves_blank tokens)
      obtain ⟨rfl, rfl⟩ := ihFirst others.leaves_items _ _ first' others'.leaves_items
      obtain ⟨rfl, rfl⟩ := ihOthers _ _ others'
      exact ⟨rfl, rfl⟩
  | emptyObject close =>
    intro _ value' rest' other _
    cases other with
    | number spelled shape => exact absurd ((tokens _ spelled).lead_of_shape shape) (by decide)
    | emptyObject close' => exact ⟨rfl, (close'.mark_unique close (by decide) (by decide)).2⟩
    | object blank first _ => exact absurd close (first.not_emptied blank)
  | object blank first others ihFirst ihOthers =>
    intro _ value' rest' other _
    cases other with
    | number spelled shape => exact absurd ((tokens _ spelled).lead_of_shape shape) (by decide)
    | emptyObject close => exact absurd close (first.not_emptied blank)
    | object blank' first' others' =>
      obtain rfl := blank.unique blank' first.leaves_member first'.leaves_member
      obtain ⟨rfl, rfl, rfl⟩ := ihFirst others.leaves_members _ _ _ first' others'.leaves_members
      obtain ⟨rfl, rfl⟩ := ihOthers _ _ others'
      exact ⟨rfl, rfl⟩
  | member quoted mark blank value ih =>
    intro leaves name' value' rest' other leaves'
    cases other with
    | member quoted' mark' blank' value' =>
      obtain ⟨rfl, rfl⟩ := quoted.unique quoted'
      obtain ⟨-, rfl⟩ := mark.mark_unique mark' (by decide) (by decide)
      obtain rfl := blank.unique blank' (value.leaves_blank tokens) (value'.leaves_blank tokens)
      obtain ⟨rfl, rfl⟩ := ih leaves _ _ value' leaves'
      exact ⟨rfl, rfl, rfl⟩
  | itemsEnd close =>
    intro items' rest' other
    cases other with
    | itemsEnd close' => exact ⟨rfl, (close'.mark_unique close (by decide) (by decide)).2⟩
    | item mark => exact absurd (close.mark_unique mark (by decide) (by decide)).1 (by decide)
  | item mark blank first others ihFirst ihOthers =>
    intro items' rest' other
    cases other with
    | itemsEnd close => exact absurd (mark.mark_unique close (by decide) (by decide)).1 (by decide)
    | item mark' blank' first' others' =>
      obtain ⟨-, rfl⟩ := mark.mark_unique mark' (by decide) (by decide)
      obtain rfl := blank.unique blank' (first.leaves_blank tokens) (first'.leaves_blank tokens)
      obtain ⟨rfl, rfl⟩ := ihFirst others.leaves_items _ _ first' others'.leaves_items
      obtain ⟨rfl, rfl⟩ := ihOthers _ _ others'
      exact ⟨rfl, rfl⟩
  | membersEnd close =>
    intro members' rest' other
    cases other with
    | membersEnd close' => exact ⟨rfl, (close'.mark_unique close (by decide) (by decide)).2⟩
    | nextMember mark =>
      exact absurd (close.mark_unique mark (by decide) (by decide)).1 (by decide)
  | nextMember mark blank first others ihFirst ihOthers =>
    intro members' rest' other
    cases other with
    | membersEnd close =>
      exact absurd (mark.mark_unique close (by decide) (by decide)).1 (by decide)
    | nextMember mark' blank' first' others' =>
      obtain ⟨-, rfl⟩ := mark.mark_unique mark' (by decide) (by decide)
      obtain rfl := blank.unique blank' first.leaves_member first'.leaves_member
      obtain ⟨rfl, rfl, rfl⟩ := ihFirst others.leaves_members _ _ _ first' others'.leaves_members
      obtain ⟨rfl, rfl⟩ := ihOthers _ _ others'
      exact ⟨rfl, rfl⟩

/-- No text has two readings. -/
theorem Denotes.unique (tokens : ∀ written, numeral written → IsToken written) {value value' : Value}
    {text : List Char} (one : Denotes numeral value text) (two : Denotes numeral value' text) :
    value' = value := by
  obtain ⟨start, behind, blank, reads, ends⟩ := one
  obtain ⟨start', behind', blank', reads', ends'⟩ := two
  obtain rfl := blank.unique blank' (reads.leaves_blank tokens) (reads'.leaves_blank tokens)
  exact (reads.unique tokens (ends.leaves nofun) _ _ reads' (ends'.leaves nofun)).1

end IdlLint.Report.Json
