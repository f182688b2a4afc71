import IdlLint.Proofs.LexemeSpelling

/-! Tokens and the text around them. What is found for a terminal is the longest start of the text that
spells it, so that the next token does not depend on what comes after a separator: where the text is cut
behind a token and goes on with a separator instead, the same token is found. -/
namespace IdlLint.Lexeme

/-! ### The longest spelling is found -/

private theorem takeWhile_extends {p : Char → Bool} {run : List Char} (all : ∀ c ∈ run, p c = true)
    (rest : List Char) : ∃ more, (run ++ rest).takeWhile p = run ++ more :=
  ⟨_, List.takeWhile_append_of_pos all⟩

private theorem decimal_extends {first digits : List Char} (signed : IsSign first)
    (run : IsRun Char.isDigit digits) (rest : List Char) :
    ∃ more, decimal (first ++ (digits ++ rest)) = some (first ++ (digits ++ more)) := by
  obtain ⟨more, whole⟩ := takeWhile_extends run.2 rest
  refine ⟨more, ?_⟩
  simp [decimal, sign_append signed (leaves_run run.2 (.inl run.1)), whole, run.1]

private theorem exponent_extends {power : List Char} (exp : IsExponent power) (rest : List Char) :
    ∃ more, exponent (power ++ rest) = some (power ++ more) := by
  obtain ⟨e, first, digits, rfl, mark, signed, run⟩ := exp
  obtain ⟨more, found⟩ := decimal_extends signed run rest
  exact ⟨more, by simp [exponent, mark, found]⟩

private theorem hexadecimal_extends {first digits : List Char} {x : Char} (signed : IsSign first)
    (mark : x = 'x' ∨ x = 'X') (run : IsRun isHexDigit digits) (rest : List Char) :
    ∃ more, hexadecimal (first ++ '0' :: x :: (digits ++ rest)) =
      some (first ++ '0' :: x :: (digits ++ more)) := by
  obtain ⟨more, whole⟩ := takeWhile_extends run.2 rest
  have plain : Leaves isSignMark ('0' :: x :: (digits ++ rest)) := leaves_cons (by decide) _
  exact ⟨more, by simp [hexadecimal, sign_append signed plain, whole, run.1, mark]⟩

private theorem double_fraction_extends {first whole part power : List Char} (signed : IsSign first)
    (left : ∀ c ∈ whole, c.isDigit = true) (right : ∀ c ∈ part, c.isDigit = true)
    (digits : whole ≠ [] ∨ part ≠ []) (exp : power = [] ∨ IsExponent power) (rest : List Char) :
    ∃ more, double (first ++ (whole ++ '.' :: (part ++ (power ++ rest)))) =
      some (first ++ (whole ++ '.' :: (part ++ (power ++ more)))) := by
  have point : Leaves Char.isDigit ('.' :: (part ++ (power ++ rest))) := leaves_cons (by decide) _
  have plain : Leaves isSignMark ('.' :: (part ++ (power ++ rest))) := leaves_cons (by decide) _
  have some : ∀ more, ¬ (whole = [] ∧ part ++ more = []) := by
    rintro more ⟨rfl, none⟩
    simp [(List.append_eq_nil_iff.mp none).1] at digits
  rcases exp with rfl | exp
  · obtain ⟨more, longer⟩ := takeWhile_extends right rest
    refine ⟨more ++ (exponent ((part ++ rest).drop (part ++ more).length)).getD [], ?_⟩
    have present := some more
    simp only [List.nil_append] at point plain ⊢
    simp only [double, sign_append signed (leaves_run left (.inr plain)), List.drop_left,
      takeWhile_run left point, longer]
    simp only [List.isEmpty_iff, Bool.and_eq_true, present, if_false]
    simp
  · obtain ⟨more, scale⟩ := exponent_extends exp rest
    refine ⟨more, ?_⟩
    have present := some []
    rw [List.append_nil] at present
    simp [double, sign_append signed (leaves_run left (.inr plain)), takeWhile_run left point,
      takeWhile_run right (leaves_exponent exp rest), scale, present]

private theorem double_scaled_extends {first whole power : List Char} (signed : IsSign first)
    (run : IsRun Char.isDigit whole) (exp : IsExponent power) (rest : List Char) :
    ∃ more, double (first ++ (whole ++ (power ++ rest))) =
      some (first ++ (whole ++ (power ++ more))) := by
  obtain ⟨more, scale⟩ := exponent_extends exp rest
  refine ⟨more, ?_⟩
  simp only [double, sign_append signed (leaves_run run.2 (.inl run.1)), List.drop_left,
    takeWhile_run run.2 (leaves_exponent exp rest)]
  split
  · rename_i same
    obtain ⟨e, _, _, rfl, mark, -⟩ := exp
    obtain ⟨rfl, -⟩ := List.cons.inj same
    exact absurd mark (by decide)
  · rw [scale]
    simp [run.1]

/-- A string ends at its second mark, whatever comes after it. -/
theorem ofTerminal_string {lexeme : List Char} (spells : Spells .string lexeme) (rest : List Char) :
    ofTerminal .string (lexeme ++ rest) = some lexeme := by
  cases spells with
  | string mark quoted => simp [ofTerminal, string, mark, quotedTail_complete rest mark quoted]

/-- Where a spelling starts a text, it is found or one that goes on from it. -/
theorem ofTerminal_extends {terminal : Terminal} {lexeme : List Char}
    (spells : Spells terminal lexeme) (rest : List Char) :
    ∃ more, ofTerminal terminal (lexeme ++ rest) = some (lexeme ++ more) := by
  cases spells with
  | word keyword => exact ⟨[], by simp [ofTerminal, fixed]⟩
  | mark sign => exact ⟨[], by simp [ofTerminal, fixed]⟩
  | identifier start parts =>
    obtain ⟨more, whole⟩ := takeWhile_extends parts rest
    exact ⟨more, by simp [ofTerminal, identifier, start, whole]⟩
  | string mark quoted =>
    refine ⟨[], ?_⟩
    rw [List.append_nil]
    exact ofTerminal_string (.string mark quoted) rest
  | decimal signed run =>
    obtain ⟨more, found⟩ := decimal_extends signed run rest
    exact ⟨more, by simpa [ofTerminal] using found⟩
  | hexadecimal signed mark run =>
    obtain ⟨more, found⟩ := hexadecimal_extends signed mark run rest
    exact ⟨more, by simpa [ofTerminal] using found⟩
  | fraction signed left right some exponent =>
    obtain ⟨more, found⟩ := double_fraction_extends signed left right some exponent rest
    exact ⟨more, by simpa [ofTerminal] using found⟩
  | scaled signed run exponent =>
    obtain ⟨more, found⟩ := double_scaled_extends signed run exponent rest
    exact ⟨more, by simpa [ofTerminal] using found⟩

/-- What is found for a terminal is the longest start of the text that spells it. -/
theorem ofTerminal_eq_some_iff {terminal : Terminal} {text lexeme : List Char} :
    ofTerminal terminal text = some lexeme ↔ lexeme <+: text ∧ Spells terminal lexeme ∧
      ∀ other, other <+: text → Spells terminal other → other <+: lexeme := by
  constructor
  · intro found
    obtain ⟨⟨rest, same⟩, spells⟩ := ofTerminal_sound found
    refine ⟨⟨rest, same.symm⟩, spells, ?_⟩
    rintro other ⟨after, rfl⟩ spelled
    obtain ⟨more, longer⟩ := ofTerminal_extends spelled after
    rw [found, Option.some.injEq] at longer
    exact ⟨more, longer.symm⟩
  · rintro ⟨⟨rest, rfl⟩, spells, longest⟩
    obtain ⟨more, found⟩ := ofTerminal_extends spells rest
    obtain ⟨⟨after, same⟩, longer⟩ := ofTerminal_sound found
    obtain ⟨none, equal⟩ := longest _ ⟨after, same.symm⟩ longer
    have length := congrArg List.length equal
    simp only [List.length_append] at length
    rw [found, List.length_eq_zero_iff.mp (by omega : more.length = 0), List.append_nil]

/-- Nothing is found for a terminal exactly if no start of the text spells it. -/
theorem ofTerminal_eq_none_iff {terminal : Terminal} {text : List Char} :
    ofTerminal terminal text = none ↔ ∀ other, other <+: text → ¬ Spells terminal other := by
  constructor
  · rintro missing other ⟨rest, rfl⟩ spells
    obtain ⟨more, found⟩ := ofTerminal_extends spells rest
    rw [missing] at found
    cases found
  · intro unspelled
    cases found : ofTerminal terminal text with
    | none => rfl
    | some lexeme =>
      obtain ⟨start, spells, -⟩ := ofTerminal_eq_some_iff.mp found
      exact absurd spells (unspelled lexeme start)

/-! ### Separators -/

/-- The characters with which white space and comments begin. -/
def separators : List Char := [' ', '\t', '\n', '\r', '\x0c', '/', '#']

/-- The rest of a text begins with a separator, or there is none. -/
def Separates (rest : List Char) : Prop :=
  ∀ c ∈ rest.head?, c ∈ separators

private theorem notMem_separators {p : Char → Bool} {c : Char} (kept : p c = true)
    (apart : (separators.all fun c => !p c) = true) : c ∉ separators := by
  intro member
  have excluded := List.all_eq_true.mp apart c member
  rw [kept] at excluded
  cases excluded

private theorem notMem_separators_of_isSign {first : List Char} (signed : IsSign first) :
    ∀ c ∈ first, c ∉ separators := by
  rcases signed with rfl | rfl | rfl <;> simp [separators]

private theorem notMem_separators_of_isExponent {power : List Char} (exp : IsExponent power) :
    ∀ c ∈ power, c ∉ separators := by
  obtain ⟨e, first, digits, rfl, mark, signed, run⟩ := exp
  refine List.forall_mem_cons.mpr ⟨?_, List.forall_mem_append.mpr ⟨?_, fun c member => ?_⟩⟩
  · rcases mark with rfl | rfl <;> simp [separators]
  · exact notMem_separators_of_isSign signed
  · exact notMem_separators (run.2 c member) (by decide)

/-- Only in a string can a separator be part of a token. -/
theorem notMem_separators_of_spells {terminal : Terminal} {lexeme : List Char}
    (spells : Spells terminal lexeme) (other : terminal ≠ .string) : ∀ c ∈ lexeme, c ∉ separators := by
  have digit : ∀ {run : List Char}, (∀ c ∈ run, c.isDigit = true) → ∀ c ∈ run, c ∉ separators :=
    fun all c member => notMem_separators (all c member) (by decide)
  cases spells with
  | word keyword =>
    exact fun c member => notMem_separators (spelling_nameParts keyword c member) (by decide)
  | mark sign => cases sign <;> simp [Mark.char, separators]
  | identifier start parts =>
    refine List.forall_mem_cons.mpr ⟨notMem_separators start (by decide), fun c member => ?_⟩
    exact notMem_separators (parts c member) (by decide)
  | string => exact absurd rfl other
  | decimal signed run =>
    exact List.forall_mem_append.mpr ⟨notMem_separators_of_isSign signed, digit run.2⟩
  | hexadecimal signed mark run =>
    refine List.forall_mem_append.mpr ⟨notMem_separators_of_isSign signed, ?_⟩
    refine List.forall_mem_cons.mpr ⟨by simp [separators], List.forall_mem_cons.mpr ⟨?_, ?_⟩⟩
    · rcases mark with rfl | rfl <;> simp [separators]
    · exact fun c member => notMem_separators (run.2 c member) (by decide)
  | fraction signed left right some exponent =>
    refine List.forall_mem_append.mpr ⟨notMem_separators_of_isSign signed, ?_⟩
    refine List.forall_mem_append.mpr ⟨digit left, List.forall_mem_cons.mpr ⟨by simp [separators], ?_⟩⟩
    refine List.forall_mem_append.mpr ⟨digit right, ?_⟩
    rcases exponent with rfl | exponent
    · simp
    · exact notMem_separators_of_isExponent exponent
  | scaled signed run exponent =>
    refine List.forall_mem_append.mpr ⟨notMem_separators_of_isSign signed, ?_⟩
    exact List.forall_mem_append.mpr ⟨digit run.2, notMem_separators_of_isExponent exponent⟩

/-- A spelling that reaches behind a separator does not exist, unless it is that of a string. -/
theorem prefix_of_separates {terminal : Terminal} {lexeme front rest : List Char}
    (spells : Spells terminal lexeme) (other : terminal ≠ .string) (separates : Separates rest)
    (start : lexeme <+: front ++ rest) : lexeme <+: front := by
  rcases List.prefix_or_prefix_of_prefix start (List.prefix_append front rest) with inside | ⟨more, rfl⟩
  · exact inside
  · cases more with
    | nil => simp
    | cons c more =>
      obtain ⟨after, same⟩ := (List.prefix_append_right_inj front).mp start
      have solid := notMem_separators_of_spells spells other c (by simp)
      exact absurd (separates c (by rw [← same]; rfl)) solid

/-- Two strings that start the same text are the same. -/
theorem string_unique {one two text : List Char} (first : Spells .string one)
    (second : Spells .string two) (start : one <+: text) (start' : two <+: text) : one = two := by
  obtain ⟨rest, rfl⟩ := start
  obtain ⟨rest', same⟩ := start'
  have found := ofTerminal_string second rest'
  rw [same, ofTerminal_string first rest] at found
  exact Option.some.inj found

private theorem eq_string_of_lead {terminal : Terminal} (quote : terminal.lead = some .quote) :
    terminal = .string := by
  cases terminal <;> simp [Terminal.lead] at quote ⊢

/-- Where a text that starts with a token is cut behind it and goes on with a separator, no new spellings
start it. -/
theorem prefix_of_cut {terminal other : Terminal} {lexeme wrong between rest rest' : List Char}
    (spells : Spells terminal lexeme) (separates : Separates rest') (spelled : Spells other wrong)
    (start : wrong <+: lexeme ++ (between ++ rest')) : wrong <+: lexeme ++ (between ++ rest) := by
  by_cases quoted : other = .string
  · subst quoted
    have begins : lexeme <+: lexeme ++ (between ++ rest') := List.prefix_append ..
    obtain ⟨c, tail, rfl, lead⟩ := spells.lead
    obtain ⟨c', tail', rfl, lead'⟩ := spelled.lead
    obtain ⟨after, same⟩ := start
    obtain ⟨rfl, -⟩ := List.cons.inj same
    obtain rfl := eq_string_of_lead (lead.symm.trans lead')
    rw [string_unique spelled spells ⟨after, same⟩ begins]
    exact List.prefix_append ..
  · rw [← List.append_assoc] at start ⊢
    exact (prefix_of_separates spelled quoted separates start).trans (List.prefix_append ..)

/-! ### The next token -/

/-- The next token is the same in a text that starts with it and with no other spellings than before. -/
theorem next_narrow {allowed : List Terminal} {text text' lexeme : List Char} {terminal : Terminal}
    (found : next allowed text = some (terminal, lexeme)) (start : lexeme <+: text')
    (narrow : ∀ other wrong, Spells other wrong → wrong <+: text' → wrong <+: text) :
    next allowed text' = some (terminal, lexeme) := by
  have missing : ∀ other, ofTerminal other text = none → ofTerminal other text' = none := by
    intro other none
    refine ofTerminal_eq_none_iff.mpr fun wrong begins spells => ?_
    exact ofTerminal_eq_none_iff.mp none wrong (narrow other wrong spells begins) spells
  rw [next_eq, List.findSome?_eq_some_iff] at found ⊢
  obtain ⟨before, candidate, after, listed, token, earlier⟩ := found
  refine ⟨before, candidate, after, listed, ?_, fun other member => ?_⟩
  · obtain ⟨read, same, given⟩ := Option.map_eq_some_iff.mp token
    obtain rfl : read = lexeme := by
      split at given <;> exact (Prod.mk.inj given).2
    obtain ⟨-, spells, longest⟩ := ofTerminal_eq_some_iff.mp same
    have kept : ofTerminal candidate text' = some read :=
      ofTerminal_eq_some_iff.mpr ⟨start, spells, fun wrong begins spelled =>
        longest wrong (narrow candidate wrong spelled begins) spelled⟩
    rw [tokenOf, kept, ← token, tokenOf, same]
  · refine tokenOf_eq_none (missing other ?_)
    exact Option.map_eq_none_iff.mp (earlier other member)

/-- The next token does not change where the text is cut behind it and goes on with a separator. -/
theorem next_cut {allowed : List Terminal} {lexeme between rest rest' : List Char}
    {terminal : Terminal}
    (found : next allowed (lexeme ++ (between ++ rest)) = some (terminal, lexeme))
    (separates : Separates rest') :
    next allowed (lexeme ++ (between ++ rest')) = some (terminal, lexeme) :=
  next_narrow found (List.prefix_append ..) fun _ _ spelled start =>
    prefix_of_cut (next_sound found).2 separates spelled start

end IdlLint.Lexeme
