import TapeMachine.Program
import TapeMachine.Text.Newline
import TapeMachine.Text.Utf8

/-!
# Program text

Program text is split into instruction symbols and comments, where a comment is a longest run of
characters that spell no instruction. Every text splits in this way, so every text is a program.

Results:
1. `chars_lex`: the tokens together are the text.
2. `compile_eq_ofList`: the program is the selection of the characters that spell an instruction,
   one by one.
3. `compile_text`: the canonical spelling of a program is read back as that program.
-/

namespace TapeMachine

/-- A piece of program text. -/
inductive Token
  | instruction (i : Instruction)
  | comment (text : List Char)
deriving DecidableEq, Repr

namespace Token

/-- The characters of a token. -/
def chars : Token → List Char
  | .instruction i => [i.symbol]
  | .comment text => text

/-- The instruction that a token spells. -/
def instruction? : Token → Option Instruction
  | .instruction i => some i
  | .comment _ => none

/-- Ends the comment under way, if it has any character. Both lists have the latest first. -/
def close (comment : List Char) (tokens : List Token) : List Token :=
  if comment.isEmpty then tokens else .comment comment.reverse :: tokens

/-- The tokens of a text, after a comment under way and the tokens before it, both with the latest
first. -/
def lexOnto (comment : List Char) (tokens : List Token) : List Char → List Token
  | [] => (close comment tokens).reverse
  | c :: rest =>
    match Instruction.ofSymbol? c with
    | some i => lexOnto [] (.instruction i :: close comment tokens) rest
    | none => lexOnto (c :: comment) tokens rest

/-- The tokens of a text. -/
def lex (text : List Char) : List Token :=
  lexOnto [] [] text

end Token

namespace Program

/-- The program that some tokens spell. -/
def ofTokens (tokens : List Token) : Program :=
  ofList (tokens.filterMap Token.instruction?)

/-- The program of a text given as characters. -/
def ofChars (text : List Char) : Program :=
  ofTokens (Token.lex text)

/-- The program of a text. -/
def compile (source : String) : Program :=
  ofChars source.toList

/-- The program of a file: its bytes are decoded with replacement and its line ends unified, and
neither can make or lose an instruction. -/
def ofBytes (content : List UInt8) : Program :=
  ofChars (Newline.unify (Utf8.decodeReplacing content))

end Program

/-! ## Splitting keeps everything and selecting needs no splitting -/

namespace Token

theorem chars_close (comment : List Char) (tokens : List Token) :
    (close comment tokens).reverse.flatMap chars =
      tokens.reverse.flatMap chars ++ comment.reverse := by
  unfold close
  split
  · next empty => simp_all
  · simp [chars]

theorem chars_lexOnto (comment : List Char) (tokens : List Token) (text : List Char) :
    (lexOnto comment tokens text).flatMap chars =
      tokens.reverse.flatMap chars ++ comment.reverse ++ text := by
  induction text generalizing comment tokens with
  | nil => simp [lexOnto, chars_close]
  | cons c rest ih =>
    rw [lexOnto]
    split
    · next i found =>
      rw [ih, List.reverse_cons, List.flatMap_append, chars_close]
      simp [chars, Instruction.ofSymbol?_eq_some_iff.mp found]
    · simp [ih]

theorem chars_lex (text : List Char) : (lex text).flatMap chars = text := by
  simp [lex, chars_lexOnto]

theorem instructions_close (comment : List Char) (tokens : List Token) :
    (close comment tokens).filterMap instruction? = tokens.filterMap instruction? := by
  unfold close
  split
  · rfl
  · exact List.filterMap_cons_none rfl

theorem instructions_lexOnto (comment : List Char) (tokens : List Token) (text : List Char) :
    (lexOnto comment tokens text).filterMap instruction? =
      (tokens.filterMap instruction?).reverse ++ text.filterMap Instruction.ofSymbol? := by
  induction text generalizing comment tokens with
  | nil => simp [lexOnto, List.filterMap_reverse, instructions_close]
  | cons c rest ih =>
    rw [lexOnto]
    split
    · next i found =>
      rw [ih, List.filterMap_cons_some found]
      simp [instruction?, instructions_close]
    · next found => rw [ih, List.filterMap_cons_none found]

end Token

namespace Program

theorem ofChars_eq_ofList (text : List Char) :
    ofChars text = ofList (text.filterMap Instruction.ofSymbol?) := by
  simp [ofChars, ofTokens, Token.lex, Token.instructions_lexOnto]

theorem compile_eq_ofList (source : String) :
    compile source = ofList (source.toList.filterMap Instruction.ofSymbol?) :=
  ofChars_eq_ofList _

@[simp] theorem compile_text (p : Program) : compile p.text = p := by
  rw [compile_eq_ofList, text, String.toList_ofList, List.filterMap_map]
  have each : Instruction.ofSymbol? ∘ Instruction.symbol = some := by
    funext i
    exact Instruction.ofSymbol?_symbol i
  rw [each, List.filterMap_some, ofList_toList]

end Program

end TapeMachine
