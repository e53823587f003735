import TapeMachine.Proofs.Brackets.Append
import TapeMachine.Proofs.Source.Lexing

/-!
# Canonical program text

The program of a text is what its symbols spell, one by one. Comments, which are read in runs, leave
no trace: a text can be cut anywhere, also inside of a comment, and the programs of the two parts in
a row are the program of the whole. So the symbols of a text are its canonical form. It is the text
of its program, it has the same program, and no two canonical texts share one.

Results:
1. `compile_append`: texts in a row are programs in a row.
2. `text_compile`: the text of a program that was compiled is the canonical form of its source.
3. `compile_canonical`: these, with how the text is read.
-/

namespace TapeMachine

/-- A text without the characters that are no symbols. -/
def symbolsOf (source : String) : String :=
  String.ofList (source.toList.filter (· ∈ alphabet))

namespace Program

/-- Looking up each character as a text of its own is looking it up. -/
theorem ofText?_toString (c : Char) :
    Instruction.ofText? (toString c) = Instruction.ofSymbol? c := by
  have chars : (toString c).toList = [c] := String.toList_singleton c
  rw [Instruction.ofText?, chars]

theorem toList_compile (source : String) :
    (compile source).toList = source.toList.filterMap Instruction.ofSymbol? := by
  rw [compile_eq_ofList, toList_ofList]

theorem compile_append (s t : String) : compile (s ++ t) = compile s ++ compile t := by
  rw [compile_eq_ofList, String.toList_append, List.filterMap_append, ← toList_compile,
    ← toList_compile]
  rfl

/-- What a character spells is spelled by that character. -/
theorem map_symbol_filterMap (text : List Char) :
    (text.filterMap Instruction.ofSymbol?).map Instruction.symbol =
      text.filter (· ∈ alphabet) := by
  induction text with
  | nil => rfl
  | cons c rest ih =>
    by_cases member : c ∈ alphabet
    · obtain ⟨i, rfl⟩ := mem_alphabet_iff.mp member
      rw [List.filterMap_cons_some (Instruction.ofSymbol?_symbol i), List.map_cons, ih,
        List.filter_cons_of_pos (by simpa using member)]
    · rw [List.filterMap_cons_none (ofSymbol?_eq_none_iff.mpr member), ih,
        List.filter_cons_of_neg (by simpa using member)]

theorem text_compile (source : String) : (compile source).text = symbolsOf source := by
  rw [text, toList_compile, map_symbol_filterMap, symbolsOf]

theorem compile_eq_compile_iff {s t : String} :
    compile s = compile t ↔ symbolsOf s = symbolsOf t := by
  rw [← text_compile, ← text_compile]
  constructor
  · intro same
    rw [same]
  · intro same
    rw [← compile_text (compile s), same, compile_text]

/-- Every text is read, in one way, and what it is read as spells its program. That program is the
selection of the characters that are an instruction when looked up one by one. Texts in a row are
programs in a row, the text of a program has that program, and the text of what was compiled is the
sequence of the symbols of its source, which stays as it is when compiled again. So two texts have
the same program exactly if they have the same symbols in the same order. -/
theorem compile_canonical (s t : String) (p : Program) :
    (∃ lexemes, (∀ others, Lexes s.toList others ↔ others = lexemes) ∧
      Lexeme.spelled? lexemes = some (compile s).toList) ∧
    (compile s).toList = s.toList.filterMap (fun c => Instruction.ofText? (toString c)) ∧
    compile (s ++ t) = compile s ++ compile t ∧
    compile p.text = p ∧
    (compile s).text = symbolsOf s ∧
    (compile (compile s).text).text = (compile s).text ∧
    (compile s = compile t ↔ symbolsOf s = symbolsOf t) := by
  refine ⟨⟨_, fun _ => lexes_iff, ?_⟩, ?_, compile_append s t, compile_text p, text_compile s, ?_,
    compile_eq_compile_iff⟩
  · rw [spelled?_lexeme, compile, ofChars, ofTokens, toList_ofList]
  · simp only [ofText?_toString, toList_compile]
  · rw [compile_text]

end Program

end TapeMachine
