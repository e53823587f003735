import TapeMachine.Program.Source

/-!
# The terminals of program text

Program text has nine terminals: the eight symbols, each for itself, and comments. A comment takes
as many characters as it can, all of them outside of the alphabet of symbols, and at least one.

Text is read by taking at each point a terminal that matches there. Never more than one does, so a
text is read in one way, and always one does, so every text is read. It is read as the tokens into
which `Token.lex` splits it in a single pass.

Results:
1. `symbol_mem_alphabet`, `ofSymbol?_eq_none_iff`: the alphabet, the instructions and the table in
   which symbols are looked up agree.
2. `Terminal.matched?_unique`: no two terminals match at the same point.
3. `lexes_iff`: a text is read as its tokens, and in no other way.
-/

namespace TapeMachine

/-! ## Terminals -/

/-- The characters that no comment contains. -/
def alphabet : List Char :=
  ['<', '>', '+', '-', '.', ',', '[', ']']

/-- What can be matched at a point of a program text. -/
inductive Terminal
  /-- One character, which is a symbol. -/
  | literal (symbol : Char)
  /-- A run of characters outside of the alphabet. -/
  | comment
deriving DecidableEq, Repr

/-- The terminals of program text. -/
def terminals : List Terminal :=
  [.literal '>', .literal '<', .literal '+', .literal '-', .literal '.', .literal ',',
    .literal '[', .literal ']', .comment]

/-- The characters that a terminal matches at the front of a text. -/
def Terminal.matched? : Terminal → List Char → Option (List Char)
  | .literal symbol, text => if text.head? = some symbol then some [symbol] else none
  | .comment, text =>
    let run := text.takeWhile (· ∉ alphabet)
    if run.isEmpty then none else some run

/-- A terminal with the characters that it matched. -/
structure Lexeme where
  terminal : Terminal
  chars : List Char
deriving DecidableEq, Repr

/-- A text is read by taking a terminal that matches at its front, and reading what is left. -/
inductive Lexes : List Char → List Lexeme → Prop
  | done : Lexes [] []
  | take {text run : List Char} {terminal : Terminal} {lexemes : List Lexeme} :
      terminal ∈ terminals → terminal.matched? text = some run →
      Lexes (text.drop run.length) lexemes → Lexes text (⟨terminal, run⟩ :: lexemes)

/-- A token as it is read. -/
def Token.lexeme (t : Token) : Lexeme :=
  match t with
  | .instruction i => ⟨.literal i.symbol, t.chars⟩
  | .comment _ => ⟨.comment, t.chars⟩

/-- The instructions that are spelled by the characters of what is read, when comments are ignored;
none if some characters spell no instruction. -/
def Lexeme.spelled? (lexemes : List Lexeme) : Option (List Instruction) :=
  (lexemes.filter (·.terminal ≠ .comment)).mapM fun lexeme =>
    Instruction.ofText? (String.ofList lexeme.chars)

/-! ## One alphabet -/

theorem Instruction.symbol_mem_alphabet (i : Instruction) : i.symbol ∈ alphabet := by
  cases i <;> decide

theorem Instruction.literal_mem_terminals (i : Instruction) : .literal i.symbol ∈ terminals := by
  cases i <;> decide

theorem alphabet_eq : alphabet = [Instruction.moveLeft, .moveRight, .increment, .decrement, .output,
    .input, .jumpForward, .jumpBackward].map Instruction.symbol :=
  rfl

theorem mem_alphabet_iff {c : Char} : c ∈ alphabet ↔ ∃ i : Instruction, c = i.symbol := by
  constructor
  · intro member
    rw [alphabet_eq] at member
    obtain ⟨i, _, same⟩ := List.mem_map.mp member
    exact ⟨i, same.symm⟩
  · rintro ⟨i, rfl⟩
    exact i.symbol_mem_alphabet

theorem ofSymbol?_eq_none_iff {c : Char} : Instruction.ofSymbol? c = none ↔ c ∉ alphabet := by
  rw [Option.eq_none_iff_forall_ne_some, mem_alphabet_iff, not_exists]
  simp only [ne_eq, Instruction.ofSymbol?_eq_some_iff]

theorem mem_alphabet_of_literal {symbol : Char} (member : .literal symbol ∈ terminals) :
    symbol ∈ alphabet := by
  simp only [terminals, List.mem_cons, Terminal.literal.injEq, reduceCtorEq, List.not_mem_nil,
    or_false] at member
  simp only [alphabet, List.mem_cons, List.not_mem_nil, or_false]
  grind

/-! ## One terminal at each point -/

theorem Terminal.matched?_literal {symbol : Char} {text run : List Char} :
    (literal symbol).matched? text = some run ↔ ∃ rest, text = symbol :: rest ∧ run = [symbol] := by
  cases text with
  | nil => simp [matched?]
  | cons c rest =>
    simp only [matched?, List.head?_cons, Option.some.injEq]
    split
    · next same => simp [same, eq_comm]
    · next differs => simp [differs]

theorem Terminal.matched?_comment {text run : List Char} :
    comment.matched? text = some run ↔
      run = text.takeWhile (· ∉ alphabet) ∧ ∃ c rest, text = c :: rest ∧ c ∉ alphabet := by
  cases text with
  | nil => simp [matched?]
  | cons c rest =>
    by_cases member : c ∈ alphabet
    · simp [matched?, member]
    · simp [matched?, member, eq_comm]

/-- A symbol ends a comment and is no part of one. -/
theorem Terminal.matched?_unique {terminal other : Terminal} {text run otherRun : List Char}
    (listed : terminal ∈ terminals) (otherListed : other ∈ terminals)
    (first : terminal.matched? text = some run) (second : other.matched? text = some otherRun) :
    terminal = other := by
  cases terminal with
  | literal symbol =>
    obtain ⟨rest, rfl, _⟩ := matched?_literal.mp first
    cases other with
    | literal symbol =>
      obtain ⟨_, same, _⟩ := matched?_literal.mp second
      cases same
      rfl
    | comment =>
      obtain ⟨_, _, _, same, plain⟩ := matched?_comment.mp second
      cases same
      exact absurd (mem_alphabet_of_literal listed) plain
  | comment =>
    obtain ⟨_, c, rest, rfl, plain⟩ := matched?_comment.mp first
    cases other with
    | literal symbol =>
      obtain ⟨_, same, _⟩ := matched?_literal.mp second
      cases same
      exact absurd (mem_alphabet_of_literal otherListed) plain
    | comment => rfl

theorem Lexes.unique {text : List Char} {lexemes others : List Lexeme}
    (first : Lexes text lexemes) (second : Lexes text others) : lexemes = others := by
  induction first generalizing others with
  | done =>
    cases second with
    | done => rfl
    | @take _ run terminal _ _ matched _ => cases terminal <;> simp [Terminal.matched?] at matched
  | @take text run terminal lexemes listed matched _ ih =>
    cases second with
    | done => cases terminal <;> simp [Terminal.matched?] at matched
    | @take _ otherRun other _ otherListed otherMatched rest =>
      have same := Terminal.matched?_unique listed otherListed matched otherMatched
      subst same
      rw [matched, Option.some.injEq] at otherMatched
      subst otherMatched
      rw [ih rest]

/-! ## The tokens of a text -/

namespace Token

theorem close_append (comment : List Char) (tokens : List Token) :
    close comment tokens = close comment [] ++ tokens := by
  unfold close
  split <;> rfl

theorem lexOnto_tokens (comment : List Char) (tokens : List Token) (text : List Char) :
    lexOnto comment tokens text = tokens.reverse ++ lexOnto comment [] text := by
  induction text generalizing comment tokens with
  | nil => rw [lexOnto, lexOnto, close_append, List.reverse_append]
  | cons c rest ih =>
    rw [lexOnto, lexOnto]
    split
    · next i _ =>
      rw [ih [] (.instruction i :: close comment tokens),
        ih [] (.instruction i :: close comment []), close_append comment tokens]
      simp
    · exact ih (c :: comment) tokens

@[simp] theorem lex_nil : lex [] = [] := rfl

theorem lex_symbol (i : Instruction) (rest : List Char) :
    lex (i.symbol :: rest) = .instruction i :: lex rest := by
  rw [lex, lexOnto, Instruction.ofSymbol?_symbol]
  exact lexOnto_tokens [] [.instruction i] rest

/-- A comment under way takes all characters up to the next symbol. -/
theorem lexOnto_comment {comment : List Char} (started : comment ≠ []) (text : List Char) :
    lexOnto comment [] text =
      .comment (comment.reverse ++ text.takeWhile (· ∉ alphabet)) ::
        lex (text.dropWhile (· ∉ alphabet)) := by
  induction text generalizing comment with
  | nil => simp [lexOnto, close, started]
  | cons c rest ih =>
    by_cases member : c ∈ alphabet
    · obtain ⟨i, rfl⟩ := mem_alphabet_iff.mp member
      have ended : close comment [] = [.comment comment.reverse] := by simp [close, started]
      rw [lexOnto, Instruction.ofSymbol?_symbol]
      simp only [ended, lexOnto_tokens [] [_, _]]
      rw [List.takeWhile_cons_of_neg (by simpa using member),
        List.dropWhile_cons_of_neg (by simpa using member), lex_symbol, List.append_nil]
      rfl
    · rw [lexOnto, ofSymbol?_eq_none_iff.mpr member]
      simp [ih (List.cons_ne_nil c comment), member]

theorem lex_comment {c : Char} (plain : c ∉ alphabet) (rest : List Char) :
    lex (c :: rest) = .comment ((c :: rest).takeWhile (· ∉ alphabet)) ::
      lex ((c :: rest).dropWhile (· ∉ alphabet)) := by
  rw [lex, lexOnto, ofSymbol?_eq_none_iff.mpr plain]
  simp [lexOnto_comment (List.cons_ne_nil c []), plain]

end Token

theorem lexes_lex (text : List Char) : Lexes text ((Token.lex text).map Token.lexeme) := by
  induction size : text.length using Nat.strongRecOn generalizing text with
  | ind size ih =>
    subst size
    cases text with
    | nil => exact .done
    | cons c rest =>
      by_cases member : c ∈ alphabet
      · obtain ⟨i, rfl⟩ := mem_alphabet_iff.mp member
        rw [Token.lex_symbol]
        exact .take i.literal_mem_terminals (Terminal.matched?_literal.mpr ⟨rest, rfl, rfl⟩)
          (ih _ (Nat.lt_succ_self _) rest rfl)
      · have taken : Terminal.comment.matched? (c :: rest) =
            some ((c :: rest).takeWhile (· ∉ alphabet)) :=
          Terminal.matched?_comment.mpr ⟨rfl, c, rest, rfl, member⟩
        rw [Token.lex_comment member]
        have behind : (c :: rest).drop ((c :: rest).takeWhile (· ∉ alphabet)).length =
            (c :: rest).dropWhile (· ∉ alphabet) :=
          calc (c :: rest).drop ((c :: rest).takeWhile (· ∉ alphabet)).length
              = ((c :: rest).takeWhile (· ∉ alphabet) ++
                  (c :: rest).dropWhile (· ∉ alphabet)).drop
                    ((c :: rest).takeWhile (· ∉ alphabet)).length := by
                rw [List.takeWhile_append_dropWhile]
            _ = (c :: rest).dropWhile (· ∉ alphabet) := List.drop_left
        have shorter : ((c :: rest).dropWhile (· ∉ alphabet)).length < (c :: rest).length := by
          rw [List.dropWhile_cons_of_pos (by simpa using member), List.length_cons]
          exact Nat.lt_succ_of_le (List.dropWhile_suffix _).length_le
        have read := ih _ shorter _ rfl
        rw [← behind] at read ⊢
        exact .take (by decide) taken read

/-- A text is read as its tokens, and in no other way. -/
theorem lexes_iff {text : List Char} {lexemes : List Lexeme} :
    Lexes text lexemes ↔ lexemes = (Token.lex text).map Token.lexeme := by
  constructor
  · intro read
    exact read.unique (lexes_lex text)
  · rintro rfl
    exact lexes_lex text

/-! ## What the tokens spell -/

theorem spelled?_instruction (i : Instruction) (lexemes : List Lexeme) :
    Lexeme.spelled? ((Token.instruction i).lexeme :: lexemes) =
      (Lexeme.spelled? lexemes).map (i :: ·) := by
  have spelled : Instruction.ofText? (String.ofList (Token.instruction i).lexeme.chars) =
      some i := by
    rw [Instruction.ofText?, String.toList_ofList]
    exact Instruction.ofSymbol?_symbol i
  have kept : (Token.instruction i).lexeme.terminal ≠ .comment := Terminal.noConfusion
  rw [Lexeme.spelled?, List.filter_cons_of_pos (by simpa using kept), List.mapM_cons, spelled]
  exact (Option.map_eq_bind ..).symm

theorem spelled?_comment (text : List Char) (lexemes : List Lexeme) :
    Lexeme.spelled? ((Token.comment text).lexeme :: lexemes) = Lexeme.spelled? lexemes :=
  rfl

/-- Every token that is no comment spells its instruction. -/
theorem spelled?_lexeme (tokens : List Token) :
    Lexeme.spelled? (tokens.map Token.lexeme) = some (tokens.filterMap Token.instruction?) := by
  induction tokens with
  | nil => rfl
  | cons t tokens ih =>
    cases t with
    | instruction i => rw [List.map_cons, spelled?_instruction, ih]; rfl
    | comment text => rw [List.map_cons, spelled?_comment, ih]; rfl

end TapeMachine
