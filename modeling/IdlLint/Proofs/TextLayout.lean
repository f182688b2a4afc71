import IdlLint.Grammar.Derivation
import IdlLint.Proofs.LexemeSpelling
import IdlLint.Proofs.MachineCompletion
import IdlLint.Proofs.TreePlacement

/-! Texts as sequences of tokens with white space and comments around them, and what reading a text
has to do with it: the tokens that are read make up the text, and a text whose tokens stand apart is
read as these tokens. -/
namespace IdlLint

/-- A comment, and the text after it: one to the end of its line, or one to the first end mark. -/
inductive IsComment : List Char → List Char → Prop where
  | line {mark body rest : List Char} (opens : mark = ['#'] ∨ mark = ['/', '/'])
      (inside : '\n' ∉ body) (ends : ∀ c ∈ rest.head?, c = '\n') : IsComment (mark ++ body) rest
  | block {body rest : List Char} (first : ¬ ['*', '/'] <:+: body ++ ['*']) :
      IsComment ('/' :: '*' :: (body ++ ['*', '/'])) rest

private theorem IsComment.ne_nil {comment rest : List Char} (known : IsComment comment rest) :
    comment ≠ [] := by
  cases known with
  | line opens => rcases opens with rfl | rfl <;> simp
  | block => simp

/-- A line comment that ends where the text was cut still ends there. -/
def KeepsLineEnd (rest rest' : List Char) : Prop :=
  (∀ c ∈ rest.head?, c = '\n') → ∀ c ∈ rest'.head?, c = '\n'

theorem IsComment.change {comment front rest rest' : List Char}
    (known : IsComment comment (front ++ rest)) (kept : KeepsLineEnd rest rest') :
    IsComment comment (front ++ rest') := by
  cases known with
  | line opens inside ends =>
    refine .line opens inside ?_
    cases front with
    | nil => exact kept ends
    | cons c front => exact ends
  | block first => exact .block first

/-- The text, which starts at a place, is made up of the tokens, in order and in their places, and of
nothing but white space and comments around them. -/
inductive Layout : Position → List Char → List Token → Prop where
  | done (p : Position) : Layout p [] []
  | space {p : Position} {c : Char} {rest : List Char} {tokens : List Token}
      (space : Lexeme.isSpace c = true) (more : Layout (p.next c) rest tokens) :
      Layout p (c :: rest) tokens
  | comment {p : Position} {comment rest : List Char} {tokens : List Token}
      (known : IsComment comment rest) (more : Layout (p.after comment) rest tokens) :
      Layout p (comment ++ rest) tokens
  | token {token : Token} {rest : List Char} {tokens : List Token}
      (spells : Spells token.terminal token.text)
      (more : Layout (token.position.after token.text) rest tokens) :
      Layout token.position (token.text ++ rest) (token :: tokens)

/-! ### Blanks -/

namespace Lexeme

private theorem blockTail_sound {text tail : List Char} (found : blockTail text = some tail) :
    ∃ body rest, text = tail ++ rest ∧ tail = body ++ ['*', '/'] ∧
      ¬ ['*', '/'] <:+: body ++ ['*'] := by
  fun_induction blockTail text generalizing tail with
  | case1 => cases found
  | case2 rest =>
    cases found
    exact ⟨[], rest, rfl, rfl, by decide⟩
  | case3 c text other ih =>
    obtain ⟨tail, read, rfl⟩ := Option.map_eq_some_iff.mp found
    obtain ⟨body, rest, rfl, rfl, first⟩ := ih read
    refine ⟨c :: body, rest, rfl, rfl, ?_⟩
    rw [List.cons_append, List.infix_cons_iff]
    rintro (start | later)
    · obtain ⟨more, same⟩ := start
      cases body with
      | nil => simp at same
      | cons d body =>
        obtain ⟨rfl, rfl, -⟩ : '*' = c ∧ '/' = d ∧ more = body ++ ['*'] := by simpa using same
        exact other _ rfl rfl
    · exact first later

private theorem leaves_dropWhile (p : Char → Bool) (text : List Char) :
    Leaves p (text.dropWhile p) := by
  induction text with
  | nil => exact fun c head => by cases head
  | cons d text ih =>
    cases kept : p d with
    | true => simpa [kept] using ih
    | false => simpa [kept] using leaves_cons kept text

/-- The rest of a line is a comment after a mark that opens one. -/
theorem isComment_line {mark : List Char} (opens : mark = ['#'] ∨ mark = ['/', '/'])
    (text : List Char) :
    IsComment (mark ++ text.takeWhile (· != '\n')) (text.dropWhile (· != '\n')) := by
  refine .line opens ?_ fun c head => ?_
  · intro inside
    simpa using List.mem_takeWhile_imp inside
  · simpa using leaves_dropWhile (· != '\n') text c head

private theorem blank_sound {text lexeme : List Char} (found : blank text = some lexeme) :
    ∃ rest, text = lexeme ++ rest ∧ lexeme ≠ [] ∧
      ((∀ c ∈ lexeme, isSpace c = true) ∨ IsComment lexeme rest) := by
  unfold blank at found
  split at found
  · rename_i text
    cases found
    refine ⟨text.dropWhile (· != '\n'), ?_, by simp, .inr (isComment_line (.inl rfl) text)⟩
    rw [List.cons_append, List.takeWhile_append_dropWhile]
  · rename_i text
    cases found
    refine ⟨text.dropWhile (· != '\n'), ?_, by simp, .inr (isComment_line (.inr rfl) text)⟩
    rw [List.cons_append, List.cons_append, List.takeWhile_append_dropWhile]
  · obtain ⟨tail, read, rfl⟩ := Option.map_eq_some_iff.mp found
    obtain ⟨body, rest, rfl, rfl, first⟩ := blockTail_sound read
    exact ⟨rest, rfl, by simp, .inr (.block first)⟩
  · rename_i c text _ _ _
    split at found
    · rename_i space
      cases found
      obtain ⟨run, rest, runEq, rfl, -, spaces⟩ := takeWhile_spec isSpace text
      rw [runEq]
      exact ⟨rest, rfl, by simp, .inl (List.forall_mem_cons.mpr ⟨space, spaces⟩)⟩
    · cases found
  · cases found

private theorem blockTail_complete {body : List Char} (first : ¬ ['*', '/'] <:+: body ++ ['*'])
    (rest : List Char) : blockTail (body ++ '*' :: '/' :: rest) = some (body ++ ['*', '/']) := by
  induction body with
  | nil => rfl
  | cons c body ih =>
    rw [List.cons_append, List.infix_cons_iff, not_or] at first
    have inside : ∀ more, c = '*' → body ++ '*' :: '/' :: rest ≠ '/' :: more := by
      rintro more rfl same
      refine first.1 ?_
      cases body with
      | nil => simp at same
      | cons d body =>
        obtain ⟨rfl, -⟩ := List.cons.inj same
        exact ⟨body ++ ['*'], rfl⟩
    rw [List.cons_append, blockTail, ih first.2]
    · rfl
    · exact inside

private theorem blank_comment {comment rest : List Char} (known : IsComment comment rest) :
    blank (comment ++ rest) = some comment := by
  cases known with
  | @line mark body _ opens inside ends =>
    have run : (body ++ rest).takeWhile (· != '\n') = body := by
      refine takeWhile_run (fun c member => ?_) fun c head => ?_
      · exact bne_iff_ne.mpr fun same => inside (same ▸ member)
      · simp [ends c head]
    rcases opens with rfl | rfl <;> simp [blank, run]
  | @block body _ first => simp [blank, blockTail_complete first]

/-- White space is passed over one run at a time. -/
theorem blank_spaces {gap rest : List Char} (some : gap ≠ [])
    (spaces : ∀ c ∈ gap, isSpace c = true) (leaves : Leaves isSpace rest) :
    blank (gap ++ rest) = Option.some gap := by
  cases gap with
  | nil => exact absurd rfl some
  | cons c gap =>
    obtain ⟨here, later⟩ := List.forall_mem_cons.mp spaces
    have run : (gap ++ rest).takeWhile isSpace = gap := takeWhile_run later leaves
    rcases isSpace_cases here with rfl | rfl | rfl | rfl | rfl <;> simp [blank, isSpace, run]

end Lexeme

/-! ### Reading -/

namespace Derivation

/-- Characters that belong to what was read before are passed over. -/
theorem read_skip {m : Machine} {last : Position} (p : Position) (front rest : List Char) :
    read m last p front.length (front ++ rest) = read m last (p.after front) 0 rest := by
  induction front generalizing p with
  | nil => rfl
  | cons c front ih => exact ih (p.next c)

private theorem read_blank {m : Machine} {last p : Position} {lexeme rest : List Char}
    (some : lexeme ≠ []) (blank : Lexeme.blank (lexeme ++ rest) = Option.some lexeme) :
    read m last p 0 (lexeme ++ rest) = read m last (p.after lexeme) 0 rest := by
  cases lexeme with
  | nil => exact absurd rfl some
  | cons c lexeme =>
    rw [List.cons_append] at blank ⊢
    simp only [read, blank]
    exact read_skip (p.next c) lexeme rest

private theorem read_token {m m' : Machine} {last p : Position} {terminal : Terminal}
    {lexeme rest : List Char} (some : lexeme ≠ []) (solid : Lexeme.blank (lexeme ++ rest) = none)
    (next : Lexeme.next m.expected (lexeme ++ rest) = Option.some (terminal, lexeme))
    (shifted : m.feed ⟨terminal, lexeme, p⟩ = .shifted m') :
    read m last p 0 (lexeme ++ rest) = read m' p (p.after lexeme) 0 rest := by
  cases lexeme with
  | nil => exact absurd rfl some
  | cons c lexeme =>
    rw [List.cons_append] at solid next ⊢
    simp only [read, solid, next, shifted]
    exact read_skip (p.next c) lexeme rest

private theorem shorter {lexeme rest : List Char} (some : lexeme ≠ []) :
    rest.length < (lexeme ++ rest).length := by
  have := List.length_pos_iff.mpr some
  simp only [List.length_append]
  omega

/-- White space before a token, or before the end of the text, is passed over. -/
theorem read_spaces {m : Machine} {last p : Position} {gap rest : List Char}
    (spaces : ∀ c ∈ gap, Lexeme.isSpace c = true) (leaves : Lexeme.Leaves Lexeme.isSpace rest) :
    read m last p 0 (gap ++ rest) = read m last (p.after gap) 0 rest := by
  by_cases none : gap = []
  · rw [none]
    rfl
  · exact read_blank none (Lexeme.blank_spaces none spaces leaves)

/-- White space can be passed over one character at a time. -/
theorem read_space {m : Machine} {last p : Position} {c : Char} (text : List Char)
    (space : Lexeme.isSpace c = true) :
    read m last p 0 (c :: text) = read m last (p.next c) 0 text := by
  have spaces : ∀ d ∈ text.takeWhile Lexeme.isSpace, Lexeme.isSpace d = true :=
    fun d member => List.mem_takeWhile_imp member
  have leaves := Lexeme.leaves_dropWhile Lexeme.isSpace text
  rw [← List.takeWhile_append_dropWhile (p := Lexeme.isSpace) (l := text), read_spaces spaces leaves]
  exact read_spaces (List.forall_mem_cons.mpr ⟨space, spaces⟩) leaves

private theorem read_comment {m : Machine} {last p : Position} {comment rest : List Char}
    (known : IsComment comment rest) :
    read m last p 0 (comment ++ rest) = read m last (p.after comment) 0 rest :=
  read_blank known.ne_nil (Lexeme.blank_comment known)

end Derivation

/-- The machine reads the front of a text as some tokens and is another one then. The rest of the text
is still to come; where a token or a comment ends is seen from what is behind it. -/
inductive Reads (rest : List Char) :
    Machine → Position → List Char → List Token → Machine → Prop where
  | done (m : Machine) (p : Position) : Reads rest m p [] [] m
  | space {m m' : Machine} {p : Position} {c : Char} {front : List Char} {tokens : List Token}
      (space : Lexeme.isSpace c = true) (more : Reads rest m (p.next c) front tokens m') :
      Reads rest m p (c :: front) tokens m'
  | comment {m m' : Machine} {p : Position} {comment front : List Char} {tokens : List Token}
      (known : IsComment comment (front ++ rest))
      (more : Reads rest m (p.after comment) front tokens m') :
      Reads rest m p (comment ++ front) tokens m'
  | token {m m₁ m' : Machine} {token : Token} {front : List Char} {tokens : List Token}
      (next : Lexeme.next m.expected (token.text ++ (front ++ rest)) =
        some (token.terminal, token.text))
      (taken : m.feed token = .shifted m₁)
      (more : Reads rest m₁ (token.position.after token.text) front tokens m') :
      Reads rest m token.position (token.text ++ front) (token :: tokens) m'

namespace Reads

open IdlLint.Derivation

variable {m m' : Machine} {p : Position} {front rest : List Char} {tokens : List Token}

/-- Where the last of the tokens starts, or else where the last one before them did. -/
def lastStart (tokens : List Token) (last : Position) : Position :=
  tokens.foldl (fun _ token => token.position) last

@[simp] theorem lastStart_concat (tokens : List Token) (token : Token) (last : Position) :
    lastStart (tokens ++ [token]) last = token.position := by
  simp [lastStart, List.foldl_append]

/-- Reading goes on with the rest of the text. -/
theorem read_eq (reads : Reads rest m p front tokens m') (last : Position) :
    read m last p 0 (front ++ rest) = read m' (lastStart tokens last) (p.after front) 0 rest := by
  induction reads generalizing last with
  | done m p => rfl
  | @space m m' p c front tokens space _ ih =>
    rw [List.cons_append, read_space _ space, ih]
    rfl
  | @comment m m' p comment front tokens known _ ih =>
    rw [List.append_assoc, read_comment known, ih, Position.after_append]
  | @token m m₁ m' token front tokens next taken _ ih =>
    have spells := (Lexeme.next_sound next).2
    rw [List.append_assoc, read_token spells.ne_nil (Lexeme.blank_eq_none spells _) next taken, ih,
      Position.after_append]
    rfl

theorem coherent (reads : Reads rest m p front tokens m') (start : m.Coherent) : m'.Coherent := by
  induction reads with
  | done => exact start
  | space _ _ ih | comment _ _ ih => exact ih start
  | @token m _ _ token _ _ _ taken _ ih =>
    have explains := Machine.feed_explains start token
    rw [taken] at explains
    exact ih explains.1

/-- The tokens that are read, with those to come, complete the machine to the same trees. -/
theorem completes_iff (reads : Reads rest m p front tokens m') (start : m.Coherent)
    (later : List Token) (tree : Tree) :
    m.Completes (tokens ++ later) tree ↔ m'.Completes later tree := by
  induction reads with
  | done => rfl
  | space _ _ ih | comment _ _ ih => exact ih start
  | @token m _ _ token _ tokens _ taken _ ih =>
    have explains := Machine.feed_explains start token
    rw [taken] at explains
    exact (explains.2.2 _ tree).trans (ih explains.1)

private theorem layout (reads : Reads rest m p front tokens m') {later : List Token}
    (laid : Layout (p.after front) rest later) : Layout p (front ++ rest) (tokens ++ later) := by
  induction reads with
  | done => exact laid
  | space space _ ih => exact .space space (ih laid)
  | comment known _ ih =>
    rw [Position.after_append] at laid
    rw [List.append_assoc]
    exact .comment known (ih laid)
  | token next _ _ ih =>
    rw [Position.after_append] at laid
    rw [List.append_assoc]
    exact .token (Lexeme.next_sound next).2 (ih laid)

private theorem spaces {gap : List Char} (all : ∀ c ∈ gap, Lexeme.isSpace c = true)
    (more : Reads rest m (p.after gap) front tokens m') : Reads rest m p (gap ++ front) tokens m' := by
  induction gap generalizing p with
  | nil => exact more
  | cons c gap ih =>
    obtain ⟨here, later⟩ := List.forall_mem_cons.mp all
    exact .space here (ih later more)

end Reads

namespace Derivation

/-- Nothing that the machine can take begins the text, which is an error at its first character. -/
def Stuck (m : Machine) (p : Position) (text : List Char) : Prop :=
  Lexeme.blank text = none ∧ ∀ last, ∃ problem, read m last p 0 text = .error ⟨p, problem⟩

private theorem stuck_eq (expected : List Terminal) (p : Position) (c : Char) (text : List Char) :
    ∃ problem, stuck expected p c text = ⟨p, problem⟩ := by
  unfold stuck
  split <;> exact ⟨_, rfl⟩

/-- What comes next in a text: a blank, a token that the machine takes, or an error. -/
theorem read_cases {m : Machine} (coherent : m.Coherent) (p : Position) (c : Char)
    (text : List Char) :
    (∃ lexeme after, c :: text = lexeme ++ after ∧ lexeme ≠ [] ∧
      ((∀ d ∈ lexeme, Lexeme.isSpace d = true) ∨ IsComment lexeme after)) ∨
    (∃ token after m₁, c :: text = token.text ++ after ∧ token.text ≠ [] ∧ token.position = p ∧
      Lexeme.next m.expected (token.text ++ after) = some (token.terminal, token.text) ∧
      m.feed token = .shifted m₁) ∨
    Stuck m p (c :: text) := by
  cases blank : Lexeme.blank (c :: text) with
  | some lexeme =>
    obtain ⟨after, same, known⟩ := Lexeme.blank_sound blank
    exact .inl ⟨lexeme, after, same, known⟩
  | none =>
    refine .inr ?_
    cases next : Lexeme.next m.expected (c :: text) with
    | none =>
      obtain ⟨problem, same⟩ := stuck_eq m.expected p c (c :: text)
      exact .inr ⟨blank, fun last => ⟨problem, by simp only [read, blank, next, same]⟩⟩
    | some pair =>
      obtain ⟨terminal, lexeme⟩ := pair
      obtain ⟨⟨after, same⟩, spells⟩ := Lexeme.next_sound next
      have explains := Machine.feed_explains coherent ⟨terminal, lexeme, p⟩
      cases fed : m.feed ⟨terminal, lexeme, p⟩ with
      | shifted m₁ =>
        rw [same] at next ⊢
        exact .inl ⟨⟨terminal, lexeme, p⟩, after, m₁, rfl, spells.ne_nil, rfl, next, fed⟩
      | accepted tree =>
        rw [fed] at explains
        obtain rfl : terminal = .endOfFile := explains.1
        cases spells
      | rejected expected =>
        exact .inr ⟨blank, fun last => ⟨_, by simp only [read, blank, next, fed]; rfl⟩⟩

/-- Every text is read to its end, or up to a place where the machine is stuck. -/
theorem exists_reads {m : Machine} (coherent : m.Coherent) (p : Position) (text : List Char) :
    ∃ front rest tokens m', text = front ++ rest ∧ Reads rest m p front tokens m' ∧
      (rest = [] ∨ Stuck m' (p.after front) rest) := by
  -- Whatever is read has at least one character, and what comes after it is shorter than the text.
  induction size : text.length using Nat.strong_induction_on generalizing m p text with
  | _ size ih =>
    subst size
    cases text with
    | nil => exact ⟨[], [], [], m, rfl, .done m p, .inl rfl⟩
    | cons c text =>
      rcases read_cases coherent p c text with
        ⟨lexeme, after, same, some, known⟩ | ⟨token, after, m₁, same, some, rfl, next, taken⟩ | stuck
      · rw [same] at ih ⊢
        obtain ⟨front, rest, tokens, m', rfl, reads, outcome⟩ :=
          ih _ (shorter some) coherent (p.after lexeme) after rfl
        rw [← Position.after_append] at outcome
        refine ⟨lexeme ++ front, rest, tokens, m', by simp, ?_, outcome⟩
        rcases known with spaces | comment
        · exact .spaces spaces reads
        · exact .comment comment reads
      · have explains := Machine.feed_explains coherent token
        rw [taken] at explains
        rw [same] at ih ⊢
        obtain ⟨front, rest, tokens, m', rfl, reads, outcome⟩ :=
          ih _ (shorter some) explains.1 (token.position.after token.text) after rfl
        rw [← Position.after_append] at outcome
        exact ⟨token.text ++ front, rest, token :: tokens, m', by simp, .token next taken reads, outcome⟩
      · exact ⟨[], c :: text, [], m, rfl, .done m p, .inr stuck⟩

/-- At the end of the text the machine has nothing more to wait for. -/
theorem finish_sound {m : Machine} {last : Position} {tree : Tree} (coherent : m.Coherent)
    (result : finish m last = .ok tree) : m.Completes [] tree := by
  have explains := Machine.feed_explains coherent ⟨.endOfFile, [], last⟩
  unfold finish at result
  split at result
  · rename_i fed
    rw [fed] at explains
    cases result
    exact (explains.2 tree).mpr rfl
  · cases result
  · cases result

/-- A text that is read as a tree is read to its end. -/
theorem reads_of_read {m : Machine} {last p : Position} {text : List Char} {tree : Tree}
    (coherent : m.Coherent) (result : read m last p 0 text = .ok tree) :
    ∃ tokens m', Reads [] m p text tokens m' ∧ m'.Completes [] tree := by
  obtain ⟨front, rest, tokens, m', rfl, reads, atEnd | ⟨-, error⟩⟩ := exists_reads coherent p text
  · subst atEnd
    rw [reads.read_eq] at result
    exact ⟨tokens, m', by rwa [List.append_nil], finish_sound (reads.coherent coherent) result⟩
  · obtain ⟨problem, same⟩ := error (Reads.lastStart tokens last)
    rw [reads.read_eq, same] at result
    cases result

/-- A text that is read as a tree is made up of tokens that complete the machine to the tree. -/
theorem read_sound {m : Machine} {last p : Position} {text : List Char} {tree : Tree}
    (coherent : m.Coherent) (result : read m last p 0 text = .ok tree) :
    ∃ tokens, Layout p text tokens ∧ m.Completes tokens tree := by
  obtain ⟨tokens, m', reads, completes⟩ := reads_of_read coherent result
  refine ⟨tokens, ?_, ?_⟩
  · simpa using reads.layout (.done _)
  · rw [← List.append_nil tokens]
    exact (reads.completes_iff coherent [] tree).mpr completes

/-! ### Tokens that stand apart -/

end Derivation

/-- The text is made up of the tokens in order, wherever they had their places, with white space
between neighbours, and perhaps before the first and after the last of them. -/
inductive Spaced : List Char → List Token → Prop where
  | done {gap : List Char} (spaces : ∀ c ∈ gap, Lexeme.isSpace c = true) : Spaced gap []
  | token {gap rest : List Char} {token : Token} {tokens : List Token}
      (spaces : ∀ c ∈ gap, Lexeme.isSpace c = true) (spells : Spells token.terminal token.text)
      (apart : Lexeme.Stops rest) (more : Spaced rest tokens) :
      Spaced (gap ++ (token.text ++ rest)) (token :: tokens)

namespace Derivation

theorem finish_complete {m : Machine} {last : Position} {tree : Tree} (coherent : m.Coherent)
    (completes : m.Completes [] tree) : finish m last = .ok tree := by
  have explains := Machine.feed_explains coherent ⟨.endOfFile, [], last⟩
  unfold finish
  cases fed : m.feed ⟨.endOfFile, [], last⟩ with
  | shifted m' =>
    rw [fed] at explains
    exact absurd rfl explains.2.1
  | accepted tree' =>
    rw [fed] at explains
    obtain rfl := (explains.2 tree).mp completes
    rfl
  | rejected expected =>
    rw [fed] at explains
    exact absurd completes (explains [] tree rfl)

/-- A machine takes the next of the tokens that complete it. -/
theorem feed_complete {m : Machine} {token : Token} {tokens : List Token} {tree : Tree}
    (coherent : m.Coherent) (completes : m.Completes (token :: tokens) tree)
    (inside : token.terminal ≠ .endOfFile) :
    ∃ m', m.feed token = .shifted m' ∧ m'.Coherent ∧ m'.Completes tokens tree := by
  have explains := Machine.feed_explains coherent token
  cases fed : m.feed token with
  | shifted m' =>
    rw [fed] at explains
    obtain ⟨coherent', -, same⟩ := explains
    exact ⟨m', rfl, coherent', (same tokens tree).mp completes⟩
  | accepted tree' =>
    rw [fed] at explains
    exact absurd explains.1 inside
  | rejected expected =>
    rw [fed] at explains
    exact absurd completes (explains (token :: tokens) tree rfl)

/-- Tokens that stand apart are read one by one. Their places in the text are unique, so that there is
one way to complete a machine with them. -/
theorem read_complete {text : List Char} {tokens : List Token} (spaced : Spaced text tokens)
    (plain : ∀ token ∈ tokens, token.terminal = .identifier →
      ∀ keyword : Keyword, keyword.spelling ≠ token.text) (p : Position) :
    ∃ placed : List Token, placed.map Token.unplaced = tokens.map Token.unplaced ∧
      ∀ (m : Machine) (last : Position) (tree : Tree), m.Coherent → m.Completes placed tree →
        read m last p 0 text = .ok tree := by
  induction spaced generalizing p with
  | @done gap spaces =>
    refine ⟨[], rfl, fun m last tree coherent completes => ?_⟩
    rw [← List.append_nil gap, read_spaces spaces fun c head => by cases head]
    exact finish_complete coherent completes
  | @token gap rest token tokens spaces spells apart more ih =>
    obtain ⟨here, later⟩ := List.forall_mem_cons.mp plain
    obtain ⟨placed, same, reads⟩ := ih later ((p.after gap).after token.text)
    refine ⟨⟨token.terminal, token.text, p.after gap⟩ :: placed, ?_, ?_⟩
    · simpa [Token.unplaced, Token.relocate] using same
    · intro m last tree coherent completes
      have inside : token.terminal ≠ .endOfFile := by
        intro atEnd
        rw [atEnd] at spells
        cases spells
      obtain ⟨m', fed, coherent', completes'⟩ := feed_complete coherent completes inside
      have next := Lexeme.next_complete (completes.expected coherent) spells apart here
      rw [read_spaces spaces (Lexeme.leaves_spells spells rest),
        read_token spells.ne_nil (Lexeme.blank_eq_none spells rest) next fed]
      exact reads m' _ tree coherent' completes'

end Derivation

end IdlLint
