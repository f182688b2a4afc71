import IdlLint.Proofs.JsonGrammar

/-! Nested data as it is written. The text follows the grammar, stands for the data and for nothing
else, except that two halves of a pair that follow each other are read as one character, and holds
ASCII characters only. -/
namespace IdlLint.Report.Json

open IdlLint.Lexeme

/-! ### Halves of pairs -/

instance (unit : Nat) : Decidable (IsHighHalf unit) := inferInstanceAs (Decidable (_ ∧ _))

instance (unit : Nat) : Decidable (IsLowHalf unit) := inferInstanceAs (Decidable (_ ∧ _))

/-- A text as it is read: two halves of a pair that follow each other are one character. -/
def paired : CodeText → CodeText
  | [] => []
  | [last] => [last]
  | high :: low :: rest =>
    if IsHighHalf high.val ∧ IsLowHalf low.val then joined high.val low.val :: paired rest
    else high :: paired (low :: rest)

/-- No first half of a pair is followed by a second one. -/
def Unpaired (text : CodeText) : Prop :=
  ∀ high low, [high, low] <:+: text → ¬(IsHighHalf high.val ∧ IsLowHalf low.val)

private theorem length_paired_le (text : CodeText) : (paired text).length ≤ text.length := by
  fun_induction paired text with
  | case1 | case2 => exact Nat.le_refl _
  | case3 high low rest halves ih =>
    simp only [List.length_cons] at ih ⊢
    omega
  | case4 high low rest other ih =>
    simp only [List.length_cons] at ih ⊢
    omega

private theorem unpaired_cons {high low : CodePoint} {rest : CodeText} :
    Unpaired (high :: low :: rest) ↔
      ¬(IsHighHalf high.val ∧ IsLowHalf low.val) ∧ Unpaired (low :: rest) := by
  constructor
  · intro unpaired
    refine ⟨unpaired high low (List.prefix_append [high, low] rest).isInfix, ?_⟩
    exact fun one two within => unpaired one two (within.trans (List.suffix_cons high _).isInfix)
  · rintro ⟨other, unpaired⟩ one two within
    rcases List.infix_cons_iff.mp within with front | later
    · obtain ⟨rfl, second⟩ := List.cons_prefix_cons.mp front
      obtain ⟨rfl, -⟩ := List.cons_prefix_cons.mp second
      exact other
    · exact unpaired one two later

/-- Reading changes a text exactly if there are two halves to be put together. -/
theorem paired_eq_self_iff (text : CodeText) : paired text = text ↔ Unpaired text := by
  fun_induction paired text with
  | case1 => simp [Unpaired]
  | case2 last =>
    refine ⟨fun _ high low within => ?_, fun _ => rfl⟩
    exact absurd within.length_le (by simp)
  | case3 high low rest halves ih =>
    rw [unpaired_cons]
    refine ⟨fun same => ?_, fun unpaired => absurd halves unpaired.1⟩
    have shorter := congrArg List.length same
    have short := length_paired_le rest
    simp only [List.length_cons] at shorter
    omega
  | case4 high low rest other ih =>
    rw [unpaired_cons, List.cons.injEq, ih]
    simp [other]

private theorem not_isHalf_point (c : Char) :
    ¬IsHighHalf (Text.point c).val ∧ ¬IsLowHalf (Text.point c).val := by
  have valid : c.toNat < 0xd800 ∨ 0xdfff < c.toNat ∧ c.toNat < 0x110000 := c.valid
  simp only [IsHighHalf, IsLowHalf, Text.point]
  omega

/-- Among characters there are no halves of pairs. -/
theorem unpaired_points (text : String) : Unpaired (Text.points text) := by
  rintro high low within ⟨half, -⟩
  obtain ⟨c, -, rfl⟩ := List.mem_map.mp (within.subset (List.mem_cons_self ..))
  exact (not_isHalf_point c).1 half

/-! ### What is written -/

mutual

/-- The value that nested data stands for. -/
def toValue : Json → Value
  | .text value => .text (paired value)
  | .number numeral => .number numeral.toList
  | .array items => .array (toValues items)
  | .object members => .object (toMembers members)

def toValues : List Json → List Value
  | [] => []
  | item :: rest => item.toValue :: toValues rest

def toMembers : List (String × Json) → List (CodeText × Value)
  | [] => []
  | (name, value) :: rest => (Text.points name, value.toValue) :: toMembers rest

end

mutual

/-- The numerals in a value. -/
def Value.numerals : Value → List (List Char)
  | .number numeral => [numeral]
  | .array items => Value.numeralsIn items
  | .object members => Value.numeralsOf members
  | _ => []

def Value.numeralsIn : List Value → List (List Char)
  | [] => []
  | item :: rest => item.numerals ++ Value.numeralsIn rest

def Value.numeralsOf : List (CodeText × Value) → List (List Char)
  | [] => []
  | (_, value) :: rest => value.numerals ++ Value.numeralsOf rest

end

/-! ### Escapes -/

private theorem hexDigits_four (n : Nat) : Text.hexDigits 4 n =
    [Nat.digitChar (n / 4096 % 16), Nat.digitChar (n / 256 % 16), Nat.digitChar (n / 16 % 16),
      Nat.digitChar (n % 16)] := by
  simp [Text.hexDigits, List.range, List.range.loop]

private theorem hexValue_digitChar {d : Nat} (small : d < 16) :
    isHexDigit (Nat.digitChar d) = true ∧ Schema.Literal.hexValue (Nat.digitChar d) = d := by
  have all : ((List.range 16).all fun d => isHexDigit (Nat.digitChar d) &&
      Schema.Literal.hexValue (Nat.digitChar d) == d) = true := by decide
  have this := List.all_eq_true.mp all d (List.mem_range.mpr small)
  simpa using this

/-- Four digits are enough for a code unit. -/
theorem exists_hexDigits {n : Nat} (small : n < 0x10000) :
    ∃ a b c d, Text.hexDigits 4 n = [a, b, c, d] ∧ AreHex a b c d ∧ unitOf a b c d = n := by
  obtain ⟨hexA, valueA⟩ := hexValue_digitChar (Nat.mod_lt (n / 4096) (by decide : 16 > 0))
  obtain ⟨hexB, valueB⟩ := hexValue_digitChar (Nat.mod_lt (n / 256) (by decide : 16 > 0))
  obtain ⟨hexC, valueC⟩ := hexValue_digitChar (Nat.mod_lt (n / 16) (by decide : 16 > 0))
  obtain ⟨hexD, valueD⟩ := hexValue_digitChar (Nat.mod_lt n (by decide : 16 > 0))
  refine ⟨_, _, _, _, hexDigits_four n, ?_, ?_⟩
  · simp [AreHex, hexA, hexB, hexC, hexD]
  · simp only [unitOf, List.foldl_cons, List.foldl_nil, valueA, valueB, valueC, valueD]
    omega

/-- A unit is read as it is written unless it is put together with the one behind it. -/
theorem quoted_escapeUnit {p : CodePoint} {text rest : List Char} {value : CodeText}
    (basic : p.val < 0x10000) (alone : IsHighHalf p.val → ¬StartsWithLow text)
    (more : Quoted text value rest) : Quoted (escapeUnit p.val ++ text) (p :: value) rest := by
  obtain ⟨a, b, c, d, digits, hex, same⟩ := exists_hexDigits basic
  have itself : Fin.ofNat 0x110000 (unitOf a b c d) = p := by rw [same, Fin.ofNat_val_eq_self]
  rw [escapeUnit, digits, ← itself]
  exact .unit hex (by rwa [same]) more

private theorem quoted_escapeUnits_pair {high low : Nat} (first : IsHighHalf high)
    (second : IsLowHalf low) {text rest : List Char} {value : CodeText}
    (more : Quoted text value rest) :
    Quoted (escapeUnit high ++ (escapeUnit low ++ text)) (joined high low :: value) rest := by
  obtain ⟨a, b, c, d, digits, hex, rfl⟩ := exists_hexDigits (Nat.lt_trans first.2 (by decide))
  obtain ⟨a', b', c', d', digits', hex', rfl⟩ := exists_hexDigits (Nat.lt_trans second.2 (by decide))
  rw [escapeUnit, escapeUnit, digits, digits']
  exact .pair hex hex' first second more

/-- A code point beyond the basic plane by its two halves. -/
theorem joined_halves {p : CodePoint} (beyond : ¬p.val < 0x10000) :
    IsHighHalf (0xd800 + (p.val - 0x10000) / 1024) ∧ IsLowHalf (0xdc00 + (p.val - 0x10000) % 1024) ∧
      joined (0xd800 + (p.val - 0x10000) / 1024) (0xdc00 + (p.val - 0x10000) % 1024) = p := by
  have bound := p.isLt
  refine ⟨?_, ?_, ?_⟩
  · unfold IsHighHalf
    omega
  · unfold IsLowHalf
    omega
  · have sum : 0x10000 + (0xd800 + (p.val - 0x10000) / 1024 - 0xd800) * 1024 +
        (0xdc00 + (p.val - 0x10000) % 1024 - 0xdc00) = p.val := by omega
    rw [joined, sum, Fin.ofNat_val_eq_self]

private theorem toNat_ofNat {n : Nat} (printed : n ≤ 126) : (Char.ofNat n).toNat = n := by
  have valid : n.isValidChar := .inl (by omega)
  rw [Char.ofNat, dif_pos valid]
  rfl

private theorem point_ofNat {p : CodePoint} (printed : p.val ≤ 126) :
    Text.point (Char.ofNat p.val) = p :=
  Fin.ext (toNat_ofNat printed)

private theorem quoted_escape {p : CodePoint} {text rest : List Char} {value : CodeText}
    (alone : IsHighHalf p.val → ¬StartsWithLow text) (more : Quoted text value rest) :
    Quoted (escape p ++ text) (p :: value) rest := by
  fun_cases escape p with
  | case8 inside free _ _ _ _ _ printed =>
    simp only [Bool.and_eq_true, decide_eq_true_eq] at printed
    have itself := point_ofNat printed.2
    have plain : 32 ≤ (Char.ofNat p.val).toNat := by
      rw [toNat_ofNat printed.2]
      exact printed.1
    have read := Quoted.plain plain (fun quote => inside (by rw [← itself, quote]))
      (fun slash => free (by rw [← itself, slash])) more
    rwa [itself] at read
  | case9 =>
    unfold escapeUnits
    by_cases basic : p.val < 0x10000
    · rw [if_pos basic]
      exact quoted_escapeUnit basic alone more
    · obtain ⟨first, second, itself⟩ := joined_halves basic
      rw [if_neg basic, List.append_assoc]
      have read := quoted_escapeUnits_pair first second more
      rwa [itself] at read
  | _ =>
    subst_vars
    exact .letter (by simp [letters]) more

/-- The halves of pairs are written as units. -/
theorem escape_half {p : CodePoint} (half : IsHighHalf p.val ∨ IsLowHalf p.val) :
    escape p = escapeUnit p.val := by
  unfold IsHighHalf IsLowHalf at half
  have basic : p.val < 0x10000 := by omega
  fun_cases escape p with
  | case8 _ _ _ _ _ _ _ printed =>
    simp only [Bool.and_eq_true, decide_eq_true_eq] at printed
    omega
  | case9 => rw [escapeUnits, if_pos basic]
  | _ =>
    subst_vars
    exact absurd half (by decide)

/-- What is written for a code point that is no second half is not read as one. -/
theorem not_startsWithLow_escape {p : CodePoint} (other : ¬IsLowHalf p.val) (text : List Char) :
    ¬StartsWithLow (escape p ++ text) := by
  have unit : ∀ {n : Nat} (more : List Char), n < 0x10000 → ¬IsLowHalf n →
      ¬StartsWithLow (escapeUnit n ++ more) := by
    rintro n more small high ⟨a, b, c, d, rest, same, -, low⟩
    obtain ⟨a', b', c', d', digits, -, value⟩ := exists_hexDigits small
    rw [escapeUnit, digits] at same
    obtain ⟨rfl, rfl, rfl, rfl, -⟩ : a' = a ∧ b' = b ∧ c' = c ∧ d' = d ∧ more = rest := by
      simpa using same
    exact high (value ▸ low)
  fun_cases escape p with
  | case8 _ free _ _ _ _ _ printed =>
    simp only [Bool.and_eq_true, decide_eq_true_eq] at printed
    rintro ⟨a, b, c, d, rest, same, -⟩
    have slash := (List.cons.inj same).1
    exact free (by rw [← point_ofNat printed.2, slash])
  | case9 =>
    unfold escapeUnits
    by_cases basic : p.val < 0x10000
    · rw [if_pos basic]
      exact unit text basic other
    · obtain ⟨first, -, -⟩ := joined_halves basic
      rw [if_neg basic, List.append_assoc]
      refine unit _ (Nat.lt_trans first.2 (by decide)) fun low => ?_
      exact absurd first.2 (Nat.not_lt.mpr low.1)
  | _ =>
    rintro ⟨a, b, c, d, rest, same, -⟩
    simp at same

private theorem quoted_text (value : CodeText) (rest : List Char) :
    Quoted (value.flatMap escape ++ '"' :: rest) (paired value) rest := by
  -- A first half waits for what comes behind it; everything else is read on its own.
  fun_induction paired value with
  | case1 => exact .close rest
  | case2 last =>
    have closed : ¬StartsWithLow ('"' :: rest) := by
      rintro ⟨a, b, c, d, more, same, -⟩
      cases same
    simpa using quoted_escape (fun _ => closed) (.close rest)
  | case3 high low more halves ih =>
    rw [List.flatMap_cons, List.flatMap_cons, escape_half (.inl halves.1), escape_half (.inr halves.2),
      List.append_assoc, List.append_assoc]
    exact quoted_escapeUnits_pair halves.1 halves.2 ih
  | case4 high low more other ih =>
    rw [List.flatMap_cons, List.append_assoc]
    refine quoted_escape (fun half => ?_) ih
    rw [List.flatMap_cons, List.append_assoc]
    exact not_startsWithLow_escape (fun second => other ⟨half, second⟩) _

/-! ### Values -/

private theorem skips_refl (text : List Char) : Skips text text :=
  ⟨[], rfl, by simp⟩

private theorem skips_newline (depth : Nat) (text : List Char) :
    Skips (newline depth ++ text) text := by
  refine ⟨newline depth, rfl, ?_⟩
  intro c member
  rcases List.mem_cons.mp member with rfl | space
  · decide
  · rw [(List.mem_replicate.mp space).2]
    decide

private theorem skips_space (text : List Char) : Skips (' ' :: text) text :=
  ⟨[' '], rfl, by simp [isBlank]⟩

variable {numeral : List Char → Prop}

private theorem reads_member (name : String) {value : Value} {text rest : List Char}
    (reads : Reads numeral (.value value) text rest) :
    Reads numeral (.member (Text.points name) value)
      (quote (Text.points name) ++ [':', ' '] ++ text) rest := by
  have named := quoted_text (Text.points name) (':' :: ' ' :: text)
  rw [(paired_eq_self_iff _).mpr (unpaired_points name)] at named
  simpa [quote] using Reads.member named (skips_refl _) (skips_space text) reads

mutual

theorem reads_write (depth : Nat) (rest : List Char) : ∀ json : Json,
    (∀ written ∈ json.toValue.numerals, numeral written) →
      Reads numeral (.value json.toValue) (json.write depth ++ rest) rest
  | .text value, _ => by
    have reads : Reads numeral (.value (.text (paired value)))
        ('"' :: (value.flatMap escape ++ '"' :: rest)) rest := .text (quoted_text value rest)
    simpa [write, quote, toValue] using reads
  | .number written, spelled =>
    .number (spelled written.toList (by simp [toValue, Value.numerals])) rfl
  | .array [], _ => .emptyArray (skips_refl _)
  | .array (item :: more), spelled => by
    simp only [toValue, toValues, Value.numerals, Value.numeralsIn, List.forall_mem_append]
      at spelled ⊢
    have first := reads_write (depth + 1)
      (writeItems (depth + 1) more ++ (newline depth ++ ']' :: rest)) item spelled.1
    have others := reads_writeItems (depth + 1) depth rest more spelled.2
    have reads := Reads.array (skips_newline (depth + 1) _) first others
    simpa [write] using reads
  | .object [], _ => .emptyObject (skips_refl _)
  | .object ((name, value) :: more), spelled => by
    simp only [toValue, toMembers, Value.numerals, Value.numeralsOf, List.forall_mem_append]
      at spelled ⊢
    have first := reads_write (depth + 1)
      (writeMembers (depth + 1) more ++ (newline depth ++ '}' :: rest)) value spelled.1
    have others := reads_writeMembers (depth + 1) depth rest more spelled.2
    have reads := Reads.object (skips_newline (depth + 1) _) (reads_member name first) others
    simpa [write] using reads

theorem reads_writeItems (depth outer : Nat) (rest : List Char) : ∀ items : List Json,
    (∀ written ∈ Value.numeralsIn (toValues items), numeral written) →
      Reads numeral (.items (toValues items))
        (writeItems depth items ++ (newline outer ++ ']' :: rest)) rest
  | [], _ => .itemsEnd (skips_newline outer _)
  | item :: more, spelled => by
    simp only [toValues, Value.numeralsIn, List.forall_mem_append] at spelled ⊢
    have first := reads_write depth (writeItems depth more ++ (newline outer ++ ']' :: rest)) item
      spelled.1
    have others := reads_writeItems depth outer rest more spelled.2
    have reads := Reads.item (skips_refl _) (skips_newline depth _) first others
    simpa [writeItems] using reads

theorem reads_writeMembers (depth outer : Nat) (rest : List Char) :
    ∀ members : List (String × Json),
    (∀ written ∈ Value.numeralsOf (toMembers members), numeral written) →
      Reads numeral (.members (toMembers members))
        (writeMembers depth members ++ (newline outer ++ '}' :: rest)) rest
  | [], _ => .membersEnd (skips_newline outer _)
  | (name, value) :: more, spelled => by
    simp only [toMembers, Value.numeralsOf, List.forall_mem_append] at spelled ⊢
    have first := reads_write depth (writeMembers depth more ++ (newline outer ++ '}' :: rest)) value
      spelled.1
    have others := reads_writeMembers depth outer rest more spelled.2
    have reads :=
      Reads.nextMember (skips_refl _) (skips_newline depth _) (reads_member name first) others
    simpa [writeMembers] using reads

end

theorem denotes_write {json : Json} (spelled : ∀ written ∈ json.toValue.numerals, numeral written) :
    Denotes numeral json.toValue (json.write 0) := by
  have reads := reads_write 0 [] json spelled
  rw [List.append_nil] at reads
  exact ⟨json.write 0, [], skips_refl _, reads, skips_refl _⟩

/-! ### Numerals -/

theorem Reads.mono {wider : List Char → Prop} (wide : ∀ written, numeral written → wider written)
    {phrase : Phrase} {text rest : List Char} (reads : Reads numeral phrase text rest) :
    Reads wider phrase text rest := by
  induction reads with
  | null rest => exact .null rest
  | yes rest => exact .yes rest
  | no rest => exact .no rest
  | number spelled shape => exact .number (wide _ spelled) shape
  | text quoted => exact .text quoted
  | emptyArray close => exact .emptyArray close
  | array blank _ _ first others => exact .array blank first others
  | emptyObject close => exact .emptyObject close
  | object blank _ _ first others => exact .object blank first others
  | member quoted mark blank _ value => exact .member quoted mark blank value
  | itemsEnd close => exact .itemsEnd close
  | item mark blank _ _ first others => exact .item mark blank first others
  | membersEnd close => exact .membersEnd close
  | nextMember mark blank _ _ first others => exact .nextMember mark blank first others

/-- The numerals in what a phrase stands for. -/
def Phrase.numerals : Phrase → List (List Char)
  | .value v => v.numerals
  | .member _ v => v.numerals
  | .items vs => Value.numeralsIn vs
  | .members ms => Value.numeralsOf ms

theorem Reads.numerals {phrase : Phrase} {text rest : List Char}
    (reads : Reads numeral phrase text rest) : ∀ written ∈ phrase.numerals, numeral written := by
  induction reads with
  | number spelled shape => simpa [Phrase.numerals, Value.numerals] using spelled
  | array _ _ _ first others | item _ _ _ _ first others =>
    simp only [Phrase.numerals, Value.numerals, Value.numeralsIn, List.forall_mem_append]
      at first others ⊢
    exact ⟨first, others⟩
  | object _ _ _ first others | nextMember _ _ _ _ first others =>
    simp only [Phrase.numerals, Value.numerals, Value.numeralsOf, List.forall_mem_append]
      at first others ⊢
    exact ⟨first, others⟩
  | member _ _ _ _ value => exact value
  | _ => simp [Phrase.numerals, Value.numerals, Value.numeralsIn, Value.numeralsOf]

/-! ### Characters -/

def IsAscii (text : List Char) : Prop :=
  ∀ c ∈ text, c.toNat < 128

private theorem isAscii_append {one two : List Char} :
    IsAscii (one ++ two) ↔ IsAscii one ∧ IsAscii two :=
  List.forall_mem_append

private theorem isAscii_cons {c : Char} {rest : List Char} :
    IsAscii (c :: rest) ↔ c.toNat < 128 ∧ IsAscii rest :=
  List.forall_mem_cons

private theorem isAscii_nil : IsAscii [] :=
  List.forall_mem_nil _

private theorem isAscii_hexDigits (n : Nat) : IsAscii (Text.hexDigits 4 n) := by
  have all : ((List.range 16).all fun d => decide ((Nat.digitChar d).toNat < 128)) = true := by decide
  have small : ∀ m, (Nat.digitChar (m % 16)).toNat < 128 := by
    intro m
    have inside := List.mem_range.mpr (Nat.mod_lt m (by decide : 16 > 0))
    simpa using List.all_eq_true.mp all _ inside
  rw [hexDigits_four]
  simp only [isAscii_cons, small, isAscii_nil, and_self]

private theorem isAscii_escapeUnits (n : Nat) : IsAscii (escapeUnits n) := by
  have unit : ∀ unit, IsAscii (escapeUnit unit) := by
    intro unit
    rw [escapeUnit, isAscii_cons, isAscii_cons]
    exact ⟨by decide, by decide, isAscii_hexDigits unit⟩
  unfold escapeUnits
  split
  · exact unit n
  · rw [isAscii_append]
    exact ⟨unit _, unit _⟩

private theorem isAscii_escape (p : CodePoint) : IsAscii (escape p) := by
  fun_cases escape p with
  | case8 _ _ _ _ _ _ _ printed =>
    simp only [Bool.and_eq_true, decide_eq_true_eq] at printed
    rw [isAscii_cons, toNat_ofNat printed.2]
    exact ⟨by omega, isAscii_nil⟩
  | case9 => exact isAscii_escapeUnits p.val
  | _ => simp [isAscii_cons, isAscii_nil]

private theorem isAscii_quote (text : CodeText) : IsAscii (quote text) := by
  have inside : IsAscii (text.flatMap escape) := by
    intro d member
    obtain ⟨p, -, written⟩ := List.mem_flatMap.mp member
    exact isAscii_escape p d written
  simp [quote, isAscii_cons, isAscii_append, inside, isAscii_nil]

private theorem isAscii_newline (depth : Nat) : IsAscii (newline depth) := by
  have spaces : IsAscii (List.replicate (2 * depth) ' ') := by
    intro c member
    rw [(List.mem_replicate.mp member).2]
    decide
  simp [newline, isAscii_cons, spaces]

attribute [local simp] isAscii_append isAscii_cons isAscii_nil isAscii_quote isAscii_newline

mutual

theorem isAscii_write (depth : Nat) : ∀ json : Json,
    (∀ written ∈ json.toValue.numerals, IsAscii written) → IsAscii (json.write depth)
  | .text value, _ => isAscii_quote value
  | .number written, numerals => numerals written.toList (by simp [toValue, Value.numerals])
  | .array [], _ => by simp [write]
  | .array (item :: rest), numerals => by
    simp only [toValue, toValues, Value.numerals, Value.numeralsIn, List.forall_mem_append]
      at numerals
    have first := isAscii_write (depth + 1) item numerals.1
    have others := isAscii_writeItems (depth + 1) rest numerals.2
    simp [write, first, others]
  | .object [], _ => by simp [write]
  | .object ((name, value) :: rest), numerals => by
    simp only [toValue, toMembers, Value.numerals, Value.numeralsOf, List.forall_mem_append]
      at numerals
    have first := isAscii_write (depth + 1) value numerals.1
    have others := isAscii_writeMembers (depth + 1) rest numerals.2
    simp [write, first, others]

theorem isAscii_writeItems (depth : Nat) : ∀ items : List Json,
    (∀ written ∈ Value.numeralsIn (toValues items), IsAscii written) →
      IsAscii (writeItems depth items)
  | [], _ => isAscii_nil
  | item :: rest, numerals => by
    simp only [toValues, Value.numeralsIn, List.forall_mem_append] at numerals
    have first := isAscii_write depth item numerals.1
    have others := isAscii_writeItems depth rest numerals.2
    simp [writeItems, first, others]

theorem isAscii_writeMembers (depth : Nat) : ∀ members : List (String × Json),
    (∀ written ∈ Value.numeralsOf (toMembers members), IsAscii written) →
      IsAscii (writeMembers depth members)
  | [], _ => isAscii_nil
  | (name, value) :: rest, numerals => by
    simp only [toMembers, Value.numeralsOf, List.forall_mem_append] at numerals
    have first := isAscii_write depth value numerals.1
    have others := isAscii_writeMembers depth rest numerals.2
    simp [writeMembers, first, others]

end

/-- Numerals are made of ASCII characters. -/
theorem IsToken.isAscii {written : List Char} (token : IsToken written) : IsAscii written := by
  intro c member
  have bare := token.bare c member
  rw [isBare, Bool.or_eq_true] at bare
  rcases bare with digit | other
  · have bounds := Char.isDigit_iff_toNat.mp digit
    have last : '9'.toNat = 57 := rfl
    omega
  · have all : (['+', '-', '.', 'e', 'E', 'I', 'N', 'a', 'f', 'i', 'n', 't', 'y'].all
        fun c => decide (c.toNat < 128)) = true := by decide
    simpa using List.all_eq_true.mp all c (List.contains_iff_mem.mp other)

end IdlLint.Report.Json
